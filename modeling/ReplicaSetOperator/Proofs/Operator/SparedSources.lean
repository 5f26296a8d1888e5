import ReplicaSetOperator.Proofs.Operator.Isolation
import ReplicaSetOperator.Proofs.Operator.MissingMaterial
import ReplicaSetOperator.Proofs.Operator.Outcomes

/-!
# What becomes of the user's material

The operator reads the user's config map and secret and writes two secrets of its own. It writes no
config map, and no secret but those two (`Cluster.reconcileGuarded_same`), so that the user's
material is as it was after a reconciliation, and will be seen again by the next one
(`Cluster.reconcileGuarded_spares`) — unless the user has named one of those two secrets. Nothing
keeps the names apart, and what has been written into a secret takes the place of all its entries
(`Cluster.Course.overwritten`).
-/

namespace ReplicaSetOperator

open ReplicaSetOperator.Configuration (KeptUnder)

namespace Cluster

variable {c : Cluster} {«namespace» : String} {images : Images} {s s' : Server}
  {es : List Exchange} {o : Outcome Failure Action}

/-- What belongs to a cluster is of one of three kinds. -/
theorem kind_of_owned {k : ObjectKey} (mem : k ∈ c.ownedKeys «namespace») :
    k.kind ∈ ["Secret", "Service", "StatefulSet"] := by
  simp only [ownedKeys, List.mem_cons, List.not_mem_nil, or_false] at mem
  rcases mem with rfl | rfl | rfl | rfl
  · exact .head _
  · exact .head _
  · exact .tail _ (.head _)
  · exact .tail _ (.tail _ (.head _))

section

variable (addressed : c.Addressed «namespace»)
  (keptDocument : KeptUnder «namespace» c.configSecretName
    (s.objects.find? (c.documentSecret «namespace»)))
  (keptMaterial : KeptUnder «namespace» c.operatorSecretName
    (s.objects.find? (c.materialSecret «namespace»)))

include addressed keptDocument keptMaterial

/-- Whatever is refused, and whatever the state of the finalizer calls for, a reconciliation changes
nothing but the cluster, its events and what belongs to the cluster. -/
theorem reconcileGuarded_same (run : (c.reconcileGuarded images).Runs Exchange.Tracked s es o s')
    {k : ObjectKey} (cluster : k.kind ≠ Cluster.type.kind) (event : k.kind ≠ Event.type.kind)
    (other : k ∉ c.ownedKeys «namespace») : s'.objects.find? k = s.objects.find? k := by
  by_cases guarded : c.Guarded
  · obtain ⟨o', inner, -⟩ := guarded.runs addressed run
    have course := reconcile_course addressed keptDocument keptMaterial _ _ _ inner
    simp only [ownedKeys, List.mem_cons, List.not_mem_nil, or_false, not_or] at other
    obtain ⟨document, material, service, statefulSet⟩ := other
    exact course.same inner.met cluster event document material service statefulSet
  · exact same_of_unguarded guarded run addressed (fun _ => Exchange.Tracked.sparing) cluster event

/-- Whatever is refused, the user's config maps are as they were after a reconciliation, and so is
the secret that the user has named, unless it is one of the two that the operator writes. The next
reconciliation sees the same material then, whatever it is answered. -/
theorem reconcileGuarded_spares
    (run : (c.reconcileGuarded images).Runs Exchange.Tracked s es o s') :
    (∀ k : ObjectKey, k.kind = ConfigMap.objectType.kind →
      s'.objects.find? k = s.objects.find? k) ∧
    (Material.Apart (c.descriptor «namespace») (c.documentSecret «namespace») →
      Material.Apart (c.descriptor «namespace») (c.materialSecret «namespace») →
      (∀ r, Request.about? .get Secret.objectType «namespace» c.spec.tls.certificateKeySecret .none
        false = some r → s'.objects.find? (Server.key r) = s.objects.find? (Server.key r)) ∧
      ∀ later, Material.source (c.descriptor «namespace») s' later =
        Material.source (c.descriptor «namespace») s later) := by
  have plainNamespace := addressed.material.plainNamespace
  have configMaps (k : ObjectKey) (isKind : k.kind = ConfigMap.objectType.kind) :
      s'.objects.find? k = s.objects.find? k := by
    refine reconcileGuarded_same addressed keptDocument keptMaterial run
      (isKind ▸ by decide) (isKind ▸ by decide) fun mem => ?_
    -- none of what belongs to the cluster is a config map
    have kinds := kind_of_owned mem
    rw [isKind] at kinds
    revert kinds
    decide
  refine ⟨configMaps, fun apartDocument apartMaterial => ?_⟩
  have secrets (r : Request) (arrives : Request.about? .get Secret.objectType «namespace»
      c.spec.tls.certificateKeySecret .none false = some r) :
      s'.objects.find? (Server.key r) = s.objects.find? (Server.key r) := by
    have isKind : (Server.key r).kind = Secret.objectType.kind := congrArg ObjectType.kind
      (Request.type_of_about? (by decide) (by decide) plainNamespace arrives).2
    refine reconcileGuarded_same addressed keptDocument keptMaterial run
      (isKind ▸ by decide) (isKind ▸ by decide) fun mem => ?_
    simp only [ownedKeys, List.mem_cons, List.not_mem_nil, or_false] at mem
    -- of the four objects that belong to the cluster two are secrets, which the user has not named
    rcases mem with about | about | about | about
    · exact apartDocument r arrives about
    · exact apartMaterial r arrives about
    · exact ObjectKey.ne_of_kind (a := "Secret") (b := "Service") isKind rfl (by decide) about
    · exact ObjectKey.ne_of_kind (a := "Secret") (b := "StatefulSet") isKind rfl (by decide) about
  refine ⟨secrets, fun later => Material.source_congr (fun r arrives => configMaps _ ?_) secrets⟩
  exact congrArg ObjectType.kind
    (Request.type_of_about? (by decide) (by decide) plainNamespace arrives).2

end

/-- A new cluster of an example takes the user's material into use, which stays as it is. -/
theorem reconcileGuarded_spares_joining : ∃ es action s',
    (joining.reconcileGuarded {}).Runs (Exchange.Settles 3) joiningServer es (.done action) s' ∧
    Material.Holds "prod" joining.operatorSecretName [99, 101, 114, 116] [107, 101, 121] s' ∧
    s'.objects.find? ⟨"Secret", "prod", "certificate"⟩ =
      joiningServer.objects.find? ⟨"Secret", "prod", "certificate"⟩ ∧
    ∀ later, Material.source (joining.descriptor "prod") s' later =
      Material.source (joining.descriptor "prod") joiningServer later := by
  have guarded : joining.Guarded := ⟨by decide, rfl⟩
  have settles (e : Exchange) (met : e.Settles 3) : e.Settles joining.spec.members := met
  have ready := ready_joining 1
  obtain ⟨es, action, s', run, -, x, d, status, -, -, -, -, -, holds⟩ :=
    (guarded.delivers addressed_joining (reconcile_delivers addressed_joining settles
      (Nat.zero_le _) shows_joining ready)).exists_run (Exchange.exists_settles 3)
  obtain ⟨-, spared⟩ := reconcileGuarded_spares addressed_joining ready.document.kept
    ready.material.kept (run.mono fun e met => met.tracked)
  obtain ⟨-, apartDocument, apartMaterial⟩ := ready.provided rfl
  obtain ⟨secret, source⟩ := spared apartDocument apartMaterial
  have plain : Request.Addressable Secret.objectType "prod" "certificate" := by decide
  refine ⟨es, action, s', run, holds rfl, ?_, source⟩
  exact secret _ (Request.about?_eq .get .none false plain)

/-! ### A secret that is in use already -/

/-- After a reconciliation that has applied the workload with TLS, the operator's secret has no
entries any more under the names under which certificate and key are looked for. -/
theorem Course.overwritten {action : Action}
    (h : c.Course «namespace» images s es (.done action) s') (tracked : ∀ e ∈ es, e.Tracked)
    (enabled : c.spec.tls.enabled = true) :
    Tls.certificateName ∉ Material.files (s'.objects.find? (c.materialSecret «namespace»)) ∧
      Tls.keyName ∉ Material.files (s'.objects.find? (c.materialSecret «namespace»)) := by
  -- the stateful set is not applied before the document has been pushed
  obtain ⟨e, mem, wrote, about⟩ := h.exists_applying
  obtain ⟨es₁, o₁, s₁, es₂, rfl, first, done, rest⟩ := h.prepared tracked
  have later : e ∈ es₂ := (List.mem_append.1 mem).resolve_left fun early =>
    (first.writes e early wrote).ne wrote.1 about
  obtain ⟨d, rfl⟩ := done (List.ne_nil_of_mem later)
  obtain ⟨file, -, holds⟩ := first.result d rfl
  obtain ⟨certificate, key, -, -, keeps⟩ := holds enabled
  rw [(rest _ rfl).same, keeps.files_eq]
  -- the file has a longer name than either of the two
  exact ⟨fun mem => Tls.fileName_ne_of_length certificate key (by decide)
      (List.mem_singleton.1 mem).symm,
    fun mem => Tls.fileName_ne_of_length certificate key (by decide)
      (List.mem_singleton.1 mem).symm⟩

/-- A new cluster whose certificate is in the secret that is to be the operator's, in an example, as
it is stored. -/
def borrowingObject : Json :=
  .object
    [("metadata", .object
      [("finalizers", .array [.string finalizerName]), ("name", .string "db"),
       ("namespace", .string "prod")]),
     ("spec", .object
      [("security", .object
        [("tls", .object
          [("caConfigMapRef", .object [("name", .string "authority")]),
           ("certificateKeySecretRef", .object [("name", .string "db-server-certificate-key")]),
           ("enabled", .bool true)])])])]

/-- The cluster. -/
def borrowing : Cluster :=
  { joining with
    spec := { tls :=
      { enabled := true, certificateKeySecret := "db-server-certificate-key",
        caConfigMap := "authority" } } }

/-- The secret. -/
def borrowedSecret : Json :=
  .object
    [("data", .object [("tls.crt", .string "Y2VydA=="), ("tls.key", .string "a2V5")]),
     ("metadata", .object
      [("name", .string "db-server-certificate-key"), ("namespace", .string "prod"),
       ("resourceVersion", .string "1")])]

/-- A server with the cluster and the user's material. -/
def borrowingServer : Server where
  objects :=
    [(⟨"ConfigMap", "prod", "authority"⟩,
      .object [("data", .object [("ca.crt", .string "authority")])]),
     (borrowing.ownKey "prod", borrowingObject),
     (borrowing.materialSecret "prod", borrowedSecret)]

/-- The first reconciliation that nothing is wrong with takes certificate and key out of the secret
that the user has named. -/
theorem exists_source_overwritten : ∃ es action s' r certificate key,
    (borrowing.reconcileGuarded {}).Runs (Exchange.Settles 3) borrowingServer es (.done action) s' ∧
    Material.Provided (borrowing.descriptor "prod") borrowingServer certificate key ∧
    Request.about? .get Secret.objectType "prod" borrowing.spec.tls.certificateKeySecret .none
      false = some r ∧
    Material.files (borrowingServer.objects.find? (Server.key r)) = ["tls.crt", "tls.key"] ∧
    "tls.crt" ∉ Material.files (s'.objects.find? (Server.key r)) ∧
    "tls.key" ∉ Material.files (s'.objects.find? (Server.key r)) := by
  have addressed : borrowing.Addressed "prod" :=
    ⟨rfl, by decide, by decide, by decide, by decide, by decide⟩
  have guarded : borrowing.Guarded := ⟨by decide, rfl⟩
  have shows : borrowingServer.Shows (borrowing.ownKey "prod") borrowing := by
    refine ⟨borrowingObject, rfl, ⟨⟨_, rfl, by unfold Json.Ascending; decide⟩, rfl, ?_⟩, rfl⟩
    rintro v ⟨⟩
  have legible : Configuration.Legible "prod" borrowing.operatorSecretName
      (borrowingServer.objects.find? (borrowing.materialSecret "prod")) := by
    refine ⟨?_, ?_⟩
    · rintro j ⟨⟩
      exact ⟨rfl, rfl, _, rfl⟩
    · rintro j ⟨⟩
      rfl
  have readable : borrowing.Readable "prod" {} 1 borrowingServer :=
    { document := .none
      versions := ⟨none, rfl, by rintro p ⟨⟩⟩
      material := legible
      deployable := ⟨by rintro j ⟨⟩, by rintro j ⟨⟩, by rintro j ⟨⟩, by rintro j ⟨⟩⟩ }
  -- nothing is wrong with the material: the secret that is named is the one of the operator
  have provided : Material.Provided (borrowing.descriptor "prod") borrowingServer
      [99, 101, 114, 116] [107, 101, 121] :=
    ⟨by decide, by decide, ⟨{ data := some [("ca.crt", "authority")] }, "authority", rfl, rfl⟩, rfl⟩
  have grants (e : Exchange) (met : e.Settles 3) : e.Grants fun _ _ _ => True :=
    met.grants.mono fun _ _ _ _ => trivial
  -- so that the reconciliation comes to its end, and to a secret with a single file
  have ends : (borrowing.reconcile {}).Achieves (Exchange.Settles 3) borrowingServer
      fun _ _ s' => Tls.certificateName ∉
          Material.files (s'.objects.find? (borrowing.materialSecret "prod")) ∧
        Tls.keyName ∉ Material.files (s'.objects.find? (borrowing.materialSecret "prod")) := by
    intro es o s' run
    obtain ⟨action, rfl, -⟩ := reconcile_ends addressed grants (Nat.zero_le _) shows readable
      (fun _ => provided) es o s' run
    have tracked := run.mono fun e => Exchange.Settles.tracked
    have course := reconcile_course addressed readable.document.kept legible.kept _ _ _ tracked
    exact ⟨action, rfl, course.overwritten tracked.met rfl⟩
  obtain ⟨es, action, s', run, certificate, key⟩ :=
    (guarded.achieves addressed ends).exists_run (Exchange.exists_settles 3)
  exact ⟨es, action, s', _, _, _, run, provided, Request.about?_eq .get .none false
    addressed.material, rfl, certificate, key⟩

end Cluster

end ReplicaSetOperator
