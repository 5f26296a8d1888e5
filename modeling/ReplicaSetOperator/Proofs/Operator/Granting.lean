import ReplicaSetOperator.Proofs.Operator.Preparation
import ReplicaSetOperator.Proofs.Operator.Reporting

/-!
# Reconciling where nothing is refused

A server that refuses nothing (`Exchange.Grants`) gives a reconciliation all it needs up to the
answer that decides how it goes on, if it starts from what can be read (`Cluster.Readable`) and from
what the user has to provide (`Material.Provided`):

* `Cluster.prepared_delivers`: the cluster is announced, the operator's secret and the document are
  brought up to date (`Cluster.Furnished`);
* `Cluster.arranged_delivers`: service and stateful set are applied, and the stateful set that is
  answered is the one that is kept (`Cluster.Arranged`). What it says of the members is left open.
-/

namespace ReplicaSetOperator

open ReplicaSetOperator.Configuration (secretKey held Legible UpToDate)

/-! ### The server -/

namespace Exchange

/-- The server refuses nothing. Of a stateful set that it applies it may report another status at
once. -/
structure Grants (answers : Json → Option Json → Option Json → Prop) (e : Exchange) : Prop where
  applies : e.Applies answers
  serves : (∀ «namespace» name body,
      e.request ≠ .about .apply StatefulSet.type «namespace» name (.value body)) → e.Served

namespace Grants

variable {answers : Json → Option Json → Option Json → Prop} {e : Exchange}

/-- Nothing but a stateful set is answered otherwise than it is served. -/
theorem served (h : e.Grants answers) (apart : e.request.type ≠ StatefulSet.type) : e.Served := by
  refine h.serves fun «namespace» name body same => apart ?_
  rw [same]
  rfl

theorem tracked (h : e.Grants answers) : e.Tracked := by
  by_cases applying : ∀ «namespace» name body,
      e.request ≠ .about .apply StatefulSet.type «namespace» name (.value body)
  · exact .inl (.inl (h.serves applying))
  · simp only [not_forall, not_not] at applying
    obtain ⟨«namespace», name, body, same⟩ := applying
    obtain ⟨status, -, -, accepted⟩ := h.applies _ _ _ same
    exact .inr ⟨«namespace», name, body, status, same, accepted⟩

theorem mono {answers' : Json → Option Json → Option Json → Prop} (h : e.Grants answers)
    (imp : ∀ body before status, answers body before status → answers' body before status) :
    e.Grants answers' where
  applies «namespace» name body same :=
    (h.applies «namespace» name body same).imp fun _ applied =>
      applied.imp_left (imp _ _ _)
  serves := h.serves

/-- A grant changes no other object than the one asked for. -/
theorem isLocal (h : e.Grants answers) : e.Local := by
  intro k apart
  refine h.tracked.sparing k fun wrote about => ?_
  rcases apart with reads | other
  · exact wrote.1 reads
  · exact other about

end Grants

/-- A server that does what it is asked keeps the status of what it applies. -/
theorem Served.grants {e : Exchange} (h : e.Served) : e.Grants fun _ _ _ => True := by
  refine ⟨fun «namespace» name body same => ⟨none, trivial, ?_, ?_⟩, fun _ => h⟩
  · exact fun v mem => (Option.not_mem_none v mem).elim
  · have isStored : StatefulSet.type.kind ≠ "Event" := by decide
    rw [Served, same, Server.serve_apply isStored] at h
    exact h

end Exchange

/-! ### The cluster and what it needs -/

/-- Keys of different kinds differ. -/
theorem ObjectKey.ne_of_kind {k k' : ObjectKey} {a b : String} (h : k.kind = a)
    (h' : k'.kind = b) (apart : a ≠ b) : k ≠ k' := by
  rintro rfl
  exact apart (h.symm.trans h')

namespace Cluster

variable {c x : Cluster} {«namespace» : String} {images : Images} {certificate key : Bytes}
  {meets : Exchange → Prop} {s s' : Server}

/-- A cluster is not a secret. -/
theorem ownKey_ne_secret (name : String) : c.ownKey «namespace» ≠ secretKey «namespace» name :=
  ObjectKey.ne_of_kind (a := "MongoDBCluster") (b := "Secret") rfl rfl (by decide)

/-- A cluster is not a service. -/
theorem ownKey_ne_serviceKey : c.ownKey «namespace» ≠ c.serviceKey «namespace» :=
  ObjectKey.ne_of_kind (a := "MongoDBCluster") (b := "Service") rfl rfl (by decide)

/-- A cluster is not a stateful set. -/
theorem ownKey_ne_statefulSetKey : c.ownKey «namespace» ≠ c.statefulSetKey «namespace» :=
  ObjectKey.ne_of_kind (a := "MongoDBCluster") (b := "StatefulSet") rfl rfl (by decide)

/-- A service is not a secret. -/
theorem serviceKey_ne_secret (name : String) :
    c.serviceKey «namespace» ≠ secretKey «namespace» name :=
  ObjectKey.ne_of_kind (a := "Service") (b := "Secret") rfl rfl (by decide)

/-- A stateful set is not a secret. -/
theorem statefulSetKey_ne_secret (name : String) :
    c.statefulSetKey «namespace» ≠ secretKey «namespace» name :=
  ObjectKey.ne_of_kind (a := "StatefulSet") (b := "Secret") rfl rfl (by decide)

/-! Clusters of one name have the same keys. -/

/-- Where requests go depends on the names of a cluster alone. -/
theorem Addressed.of_name (h : c.Addressed «namespace») (same : x.name = c.name)
    (inNamespace : x.metadata.namespace = some «namespace») : x.Addressed «namespace» where
  inNamespace := inNamespace
  cluster := same ▸ h.cluster
  document := by
    rw [configSecretName, same]
    exact h.document
  material := by
    rw [operatorSecretName, same]
    exact h.material
  service := by
    rw [serviceName, same]
    exact h.service
  statefulSet := same ▸ h.statefulSet

/-- Clusters of one name share a key. -/
theorem ownKey_of_name (same : x.name = c.name) :
    x.ownKey «namespace» = c.ownKey «namespace» := by
  rw [ownKey, ownKey, same]

theorem documentSecret_of_name (same : x.name = c.name) :
    x.documentSecret «namespace» = c.documentSecret «namespace» := by
  rw [documentSecret, documentSecret, configSecretName, configSecretName, same]

theorem materialSecret_of_name (same : x.name = c.name) :
    x.materialSecret «namespace» = c.materialSecret «namespace» := by
  rw [materialSecret, materialSecret, operatorSecretName, operatorSecretName, same]

theorem serviceKey_of_name (same : x.name = c.name) :
    x.serviceKey «namespace» = c.serviceKey «namespace» := by
  rw [serviceKey, serviceKey, serviceName, serviceName, same]

theorem statefulSetKey_of_name (same : x.name = c.name) :
    x.statefulSetKey «namespace» = c.statefulSetKey «namespace» := by
  rw [statefulSetKey, statefulSetKey, same]

/-- A cluster without what the operator writes into it. -/
def plain (c : Cluster) : Cluster :=
  { c with
    metadata := { c.metadata with annotations := none, resourceVersion := none }
    status := none }

/-- What the operator writes into a cluster does not change its name. -/
theorem name_of_plain (same : x.plain = c.plain) : x.name = c.name :=
  (congrArg Cluster.name same : x.plain.name = c.plain.name)

theorem spec_of_plain (same : x.plain = c.plain) : x.spec = c.spec :=
  (congrArg Cluster.spec same : x.plain.spec = c.plain.spec)

/-- The mode is resolved from what is wanted and from the marker. -/
theorem mode_descriptor : (c.descriptor «namespace»).mode =
    TlsMode.resolve c.spec.tls.enabled c.spec.tls.optional c.tlsRolledOut := rfl

/-- TLS is wanted and the rollout of the material is not marked as complete. -/
def Staging (c : Cluster) : Prop := c.spec.tls.enabled = true ∧ c.tlsRolledOut = false

/-- The change of the document that a cluster wants, given the user's certificate. -/
def wanted (c : Cluster) («namespace» : String) (certificate key : Bytes) : Change :=
  .tls (c.descriptor «namespace»).mode
    (if c.spec.tls.enabled then Tls.fileName certificate key else "")

/-- A request of a reconciliation. -/
def Tending (c : Cluster) («namespace» : String) (r : Request) : Prop :=
  r.verb = .get ∨ r.type = Event.type ∨
    Server.key r ∈ [c.ownKey «namespace», c.documentSecret «namespace»,
      c.materialSecret «namespace», c.serviceKey «namespace», c.statefulSetKey «namespace»]

/-- A request of a reconciliation leaves what the user provides as it is. -/
theorem Tending.leaves {r : Request} {k : ObjectKey} (h : c.Tending «namespace» r)
    (isKind : k.kind = ConfigMap.objectType.kind ∨
      k.kind = Secret.objectType.kind ∧ k ≠ c.documentSecret «namespace» ∧
        k ≠ c.materialSecret «namespace») : r.verb = .get ∨ Server.key r ≠ k := by
  have userKind : k.kind = "ConfigMap" ∨ k.kind = "Secret" := isKind.imp_right And.left
  -- the keys of the operator are of another kind, or are the two secrets
  have other {k' : ObjectKey} {a : String} (isKey : Server.key r = k') (kind : k'.kind = a)
      (apart : a ≠ "ConfigMap" ∧ a ≠ "Secret") : Server.key r ≠ k := by
    rw [isKey]
    rcases userKind with isUser | isUser
    · exact ObjectKey.ne_of_kind kind isUser apart.1
    · exact ObjectKey.ne_of_kind kind isUser apart.2
  have secret {name : String} (isKey : Server.key r = secretKey «namespace» name)
      (apart : k.kind = "Secret" → k ≠ secretKey «namespace» name) : Server.key r ≠ k := by
    rw [isKey]
    rcases userKind with isUser | isUser
    · exact ObjectKey.ne_of_kind (a := "Secret") rfl isUser (by decide)
    · exact (apart isUser).symm
  -- a read, an event, or one of the five objects
  rcases h with reads | isEvent | about
  · exact .inl reads
  · have isKind : (Server.key r).kind = "Event" := congrArg ObjectType.kind isEvent
    exact .inr (other rfl isKind (by decide))
  · refine .inr ?_
    simp only [List.mem_cons, List.not_mem_nil, or_false] at about
    have apart (isSecret : k.kind = "Secret") :
        k ≠ c.documentSecret «namespace» ∧ k ≠ c.materialSecret «namespace» := by
      rcases isKind with isKind | ⟨-, apart⟩
      · rw [isSecret] at isKind
        exact absurd isKind (by decide)
      · exact apart
    rcases about with about | about | about | about | about
    · exact other (a := "MongoDBCluster") about rfl (by decide)
    · exact secret about fun isSecret => (apart isSecret).1
    · exact secret about fun isSecret => (apart isSecret).2
    · exact other (a := "Service") about rfl (by decide)
    · exact other (a := "StatefulSet") about rfl (by decide)

/-- What is there of a cluster's objects decodes, and the document can take some more versions. -/
structure Readable (c : Cluster) («namespace» : String) (images : Images) (room : Nat)
    (s : Server) : Prop where
  document : Legible «namespace» c.configSecretName
    (s.objects.find? (c.documentSecret «namespace»))
  versions : ∃ previous, held (s.objects.find? (c.documentSecret «namespace»)) = .ok previous ∧
    ∀ p ∈ previous, p.version.toInt + room ≤ 0x7fffffffffffffff
  material : Legible «namespace» c.operatorSecretName
    (s.objects.find? (c.materialSecret «namespace»))
  deployable : c.Deployable «namespace» images s

/-- A server from which a reconciliation can come to its end: what is there can be read, and the
user provides what TLS needs. -/
structure Ready (c : Cluster) («namespace» : String) (images : Images) (room : Nat)
    (certificate key : Bytes) (s : Server) : Prop
    extends c.Readable «namespace» images room s where
  provided : c.spec.tls.enabled = true →
    Material.Provided (c.descriptor «namespace») s certificate key ∧
    Material.Apart (c.descriptor «namespace») (c.documentSecret «namespace») ∧
    Material.Apart (c.descriptor «namespace») (c.materialSecret «namespace»)

/-- The workload can still be applied if it is as it was. -/
theorem Deployable.frame (h : c.Deployable «namespace» images s)
    (service : s'.objects.find? (c.serviceKey «namespace») =
      s.objects.find? (c.serviceKey «namespace»))
    (statefulSet : s'.objects.find? (c.statefulSetKey «namespace») =
      s.objects.find? (c.statefulSetKey «namespace»)) : c.Deployable «namespace» images s' where
  service := service ▸ h.service
  serviceRoom := service ▸ h.serviceRoom
  statefulSet := statefulSet ▸ h.statefulSet
  statefulSetRoom := statefulSet ▸ h.statefulSetRoom

/-- The two secrets as the cluster wants them: the document is up to date, with room for more
versions, and the certificate file is there. -/
structure Furnished (c : Cluster) («namespace» : String) (room : Nat) (certificate key : Bytes)
    (d : Document) (s : Server) : Prop where
  document : Legible «namespace» c.configSecretName
    (s.objects.find? (c.documentSecret «namespace»))
  versions : ∃ previous, held (s.objects.find? (c.documentSecret «namespace»)) = .ok previous ∧
    ∀ p ∈ previous, p.version.toInt + room ≤ 0x7fffffffffffffff
  material : Legible «namespace» c.operatorSecretName
    (s.objects.find? (c.materialSecret «namespace»))
  upToDate : UpToDate c «namespace» (c.wanted «namespace» certificate key).apply
    (s.objects.find? (c.documentSecret «namespace»)) d
  holds : c.spec.tls.enabled = true →
    Material.Holds «namespace» c.operatorSecretName certificate key s

theorem Furnished.congr {room : Nat} {d : Document}
    (h : c.Furnished «namespace» room certificate key d s)
    (same : ∀ name, s'.objects.find? (secretKey «namespace» name) =
      s.objects.find? (secretKey «namespace» name)) :
    c.Furnished «namespace» room certificate key d s' where
  document := (same c.configSecretName) ▸ h.document
  versions := (same c.configSecretName) ▸ h.versions
  material := (same c.operatorSecretName) ▸ h.material
  upToDate := (same c.configSecretName) ▸ h.upToDate
  holds enabled := (h.holds enabled).congr (same c.operatorSecretName)

/-- What a reconciliation of a cluster has made once the stateful set is answered, on a server that
has kept some cluster under its name: the secrets are as they are wanted, the workload is there as
it was sent, and the answer is what is kept of it. -/
structure Arranged (c x : Cluster) («namespace» : String) (images : Images) (room : Nat)
    (certificate key : Bytes) (s : Server) (status : Option Json) (made : Document × StatefulSet)
    (s' : Server) : Prop where
  shows : s'.Shows (c.ownKey «namespace») { x with status := c.announcedStatus x.status }
  furnished : c.Furnished «namespace» room certificate key made.1 s'
  deployable : c.Deployable «namespace» images s'
  deployed : c.Deployed «namespace» images s status s'
  answered : made.2 = StatefulSet.format.read ((c.sentStatefulSet «namespace» images).applied
    (s.objects.find? (c.statefulSetKey «namespace»)) status)

/-- What else is asked of a cluster of one name can be applied as well, where there is room for a
generation. -/
theorem Deployable.of_name (h : c.Deployable «namespace» images s) (same : x.name = c.name)
    (service : x.sentService «namespace» = c.sentService «namespace»)
    (room : ∀ j ∈ s.objects.find? (c.statefulSetKey «namespace»),
      j.generation < 0x7fffffffffffffff) : x.Deployable «namespace» images s where
  service := by
    rw [serviceKey_of_name same]
    exact h.service
  serviceRoom := by
    rw [serviceKey_of_name same, service]
    exact h.serviceRoom
  statefulSet := by
    rw [statefulSetKey_of_name same]
    exact h.statefulSet
  statefulSetRoom := by
    rw [statefulSetKey_of_name same]
    exact fun j mem _ => room j mem

section

variable (addressed : c.Addressed «namespace»)

include addressed

/-- The user's material is still there if only the operator's objects have changed. -/
theorem Ready.provided_frame {room : Nat} (h : c.Ready «namespace» images room certificate key s)
    (same : ∀ k : ObjectKey, k.kind = ConfigMap.objectType.kind ∨
      k.kind = Secret.objectType.kind ∧ k ≠ c.documentSecret «namespace» ∧
        k ≠ c.materialSecret «namespace» → s'.objects.find? k = s.objects.find? k)
    (enabled : c.spec.tls.enabled = true) :
    Material.Provided (c.descriptor «namespace») s' certificate key ∧
    Material.Apart (c.descriptor «namespace») (c.documentSecret «namespace») ∧
    Material.Apart (c.descriptor «namespace») (c.materialSecret «namespace») := by
  obtain ⟨provided, apartDocument, apartMaterial⟩ := h.provided enabled
  have plain := addressed.material.plainNamespace
  refine ⟨provided.congr plain (fun k isConfigMap => same k (.inl isConfigMap)) ?_, apartDocument,
    apartMaterial⟩
  intro r arrives
  have isSecret : (Server.key r).kind = Secret.objectType.kind := congrArg ObjectType.kind
    (Request.type_of_about? (by decide) (by decide) plain arrives).2
  exact same _ (.inr ⟨isSecret, apartDocument r arrives, apartMaterial r arrives⟩)

/-- Nothing that a reconciliation needs is in the cluster as it is stored. -/
theorem Ready.of_same {room : Nat} (h : c.Ready «namespace» images room certificate key s)
    (same : ∀ k, c.ownKey «namespace» ≠ k → s'.objects.find? k = s.objects.find? k) :
    c.Ready «namespace» images room certificate key s' := by
  have document := same (c.documentSecret «namespace») (ownKey_ne_secret _)
  have material := same (c.materialSecret «namespace») (ownKey_ne_secret _)
  refine ⟨⟨document ▸ h.document, document ▸ h.versions, material ▸ h.material,
    h.deployable.frame (same _ ownKey_ne_serviceKey) (same _ ownKey_ne_statefulSetKey)⟩, ?_⟩
  refine h.provided_frame addressed fun k isKind => same k ?_
  rcases isKind with isKind | ⟨isKind, -⟩
  · exact ObjectKey.ne_of_kind (a := "MongoDBCluster") rfl isKind (by decide)
  · exact ObjectKey.ne_of_kind (a := "MongoDBCluster") rfl isKind (by decide)

variable {answers : Json → Option Json → Option Json → Prop}
  (grants : ∀ e, meets e → e.Grants answers)

/-- The secret of the user is not the cluster. -/
theorem apart_ownKey : Material.Apart (c.descriptor «namespace») (c.ownKey «namespace») := by
  intro r arrives same
  have isSecret : (Server.key r).kind = Secret.objectType.kind := congrArg ObjectType.kind
    (Request.type_of_about? (by decide) (by decide) addressed.material.plainNamespace arrives).2
  exact ObjectKey.ne_of_kind (a := "Secret") (b := "MongoDBCluster") isSecret rfl (by decide) same

include grants

/-- With the user's material there, the change that is wanted is made, and the material is kept. -/
theorem tlsChange_wanted
    (legible : Legible «namespace» c.operatorSecretName
      (s.objects.find? (c.materialSecret «namespace»)))
    (provided : c.spec.tls.enabled = true →
      Material.Provided (c.descriptor «namespace») s certificate key) :
    (c.tlsChange (c.descriptor «namespace»)).Delivers meets
      (fun r => r.verb = .get ∨ Server.key r = c.materialSecret «namespace») s fun change s' =>
        change = c.wanted «namespace» certificate key ∧
        Legible «namespace» c.operatorSecretName
          (s'.objects.find? (c.materialSecret «namespace»)) ∧
        (c.spec.tls.enabled = true →
          Material.Holds «namespace» c.operatorSecretName certificate key s') ∧
        (c.spec.tls.enabled = false → s' = s) := by
  have serves (e : Exchange) (met : meets e) (apart : e.request.type ≠ StatefulSet.type) :
      e.Served := (grants e met).served apart
  refine tlsChange_delivers ?_
  -- with TLS the material is stored and the mode goes with its file
  cases enabled : c.spec.tls.enabled with
  | true =>
    refine Program.Delivers.mono (Material.change_delivers (d := c.descriptor «namespace») enabled
      (provided enabled) (apart_ownKey addressed) addressed.material (ownKey_ne_secret _).symm
      (fun e met isType => serves e met (by rw [isType]; decide))
      (fun e met isType _ => serves e met (by rw [isType]; decide)) legible) ?_
    rintro change s' ⟨rfl, holds⟩
    refine ⟨?_, holds.legible, fun _ => holds, fun other => by cases other⟩
    rw [wanted, if_pos enabled]
  | false =>
    -- without TLS nothing is read, and the document is to name no file
    have mode : (c.descriptor «namespace»).mode = .disabled := by
      rw [mode_descriptor, enabled]
      rfl
    have isDone : Material.change (c.descriptor «namespace») = .done (.tls .disabled "") := by
      rw [Material.change, show (c.descriptor «namespace»).enabled = false from enabled]
      rfl
    rw [isDone]
    refine .done ⟨?_, legible, (fun other => by cases other), fun _ => rfl⟩
    rw [wanted, mode, if_neg (by rw [enabled]; simp)]

/-- Before the workload is applied, the document is brought up to date and the certificate file is
stored. -/
theorem prepared_delivers {room : Nat} (small : room ≤ 0x7ffffffffffffffe)
    (shows : s.Shows (c.ownKey «namespace») x)
    (readable : c.Readable «namespace» images (room + 1) s)
    (provided : c.spec.tls.enabled = true →
      Material.Provided (c.descriptor «namespace») s certificate key) :
    (c.prepared «namespace»).Delivers meets
      (fun r => r.verb = .get ∨ Server.key r ∈ [c.ownKey «namespace»,
        c.documentSecret «namespace», c.materialSecret «namespace»]) s fun d s' =>
      s'.Shows (c.ownKey «namespace») { x with status := c.announcedStatus x.status } ∧
        c.Furnished «namespace» room certificate key d s' := by
  have clusters (e : Exchange) (met : meets e) (isType : e.request.type = Cluster.type) :
      e.Served := (grants e met).served (by rw [isType]; decide)
  have secrets (e : Exchange) (met : meets e) (isType : e.request.type = Secret.objectType) :
      e.Served := (grants e met).served (by rw [isType]; decide)
  have locally (e : Exchange) (met : meets e) : e.Local := (grants e met).isLocal
  obtain ⟨previous, isHeld, versions⟩ := readable.versions
  obtain ⟨d, build, version⟩ := @Configuration.build_of_room c «namespace» previous
    (c.descriptor «namespace»).mode
    (if c.spec.tls.enabled then Tls.fileName certificate key else "") room small versions
  -- the status
  refine (((announced_delivers addressed clusters shows).around locally).widen
    fun r asked => asked.imp_right fun about => ?_).bind ?_
  · simp [about, ownKey]
  rintro - s₁ ⟨shows₁, same₁⟩
  -- the material
  have material₁ := same₁ (c.materialSecret «namespace») (ownKey_ne_secret _)
  have provided₁ (enabled : c.spec.tls.enabled = true) :
      Material.Provided (c.descriptor «namespace») s₁ certificate key :=
    provided_of_same addressed (provided enabled) fun k cluster _ =>
      same₁ k fun same => cluster (congrArg ObjectKey.kind same).symm
  refine (((tlsChange_wanted addressed grants (by rw [material₁]; exact readable.material)
    provided₁).around locally).widen fun r asked => asked.imp_right fun about => ?_).bind ?_
  · simp [about]
  rintro _ s₂ ⟨⟨rfl, material₂, holds₂, -⟩, same₂⟩
  -- the document
  have document₂ : s₂.objects.find? (c.documentSecret «namespace») =
      s.objects.find? (c.documentSecret «namespace») :=
    (same₂ _ documentSecret_ne.symm).trans (same₁ _ (ownKey_ne_secret _))
  refine (((Configuration.push_delivers addressed.inNamespace addressed.document secrets
    (by rw [document₂]; exact readable.document) (by rw [document₂]; exact isHeld) build
    (Configuration.uniform_of_build build)).around locally).widen
    fun r asked => asked.imp_right fun about => ?_).mono ?_
  · simp [about]
  rintro document s₃ ⟨⟨rfl, legible₃, e, isHeld₃, same, isBuilt⟩, same₃⟩
  have material₃ := same₃ (c.materialSecret «namespace») documentSecret_ne
  refine ⟨shows₁.congr ?_, legible₃, ⟨some e, isHeld₃, ?_⟩, material₃ ▸ material₂,
    ⟨e, isHeld₃, same, isBuilt⟩, fun enabled => (holds₂ enabled).congr material₃⟩
  · exact (same₃ _ (ownKey_ne_secret _).symm).trans (same₂ _ (ownKey_ne_secret _).symm)
  · rintro _ ⟨⟩
    rw [Document.version_of_same same]
    exact version

/-- Before a reconciliation turns to the marker and the status, it applies the workload for the
document, and learns what is kept of it. -/
theorem arranged_delivers {room : Nat} (small : room ≤ 0x7ffffffffffffffe)
    (shows : s.Shows (c.ownKey «namespace») x)
    (readable : c.Readable «namespace» images (room + 1) s)
    (provided : c.spec.tls.enabled = true →
      Material.Provided (c.descriptor «namespace») s certificate key) :
    (c.established «namespace» images).Delivers meets (c.Tending «namespace») s fun made s' =>
      ∃ status, answers (c.sentStatefulSet «namespace» images)
          (s.objects.find? (c.statefulSetKey «namespace»)) status ∧
        c.Arranged x «namespace» images room certificate key s status made s' := by
  have services (e : Exchange) (met : meets e) (isType : e.request.type = Service.type) :
      e.Served := (grants e met).served (by rw [isType]; decide)
  have locally (e : Exchange) (met : meets e) : e.Local := (grants e met).isLocal
  refine (((prepared_delivers addressed grants small shows readable provided).frame locally).widen
    fun r asked => ?_).bind ?_
  · refine asked.imp_right fun about => .inr ?_
    simp only [List.mem_cons, List.not_mem_nil, or_false] at about ⊢
    rcases about with about | about | about <;> simp [about]
  rintro d s₁ ⟨⟨shows₁, furnished⟩, same₁⟩
  -- the workload is what it was
  have apart {k : ObjectKey} {a : String} (isKind : k.kind = a) (noCluster : a ≠ "MongoDBCluster")
      (noSecret : a ≠ "Secret") : s₁.objects.find? k = s.objects.find? k := by
    refine same₁ k fun r asked => asked.imp_right fun about => ?_
    simp only [List.mem_cons, List.not_mem_nil, or_false] at about
    rcases about with about | about | about <;> rw [about]
    · exact ObjectKey.ne_of_kind (a := "MongoDBCluster") rfl isKind noCluster.symm
    · exact ObjectKey.ne_of_kind (a := "Secret") rfl isKind noSecret.symm
    · exact ObjectKey.ne_of_kind (a := "Secret") rfl isKind noSecret.symm
  have service₁ : s₁.objects.find? (c.serviceKey «namespace») =
      s.objects.find? (c.serviceKey «namespace») :=
    apart (a := "Service") rfl (by decide) (by decide)
  have statefulSet₁ : s₁.objects.find? (c.statefulSetKey «namespace») =
      s.objects.find? (c.statefulSetKey «namespace») :=
    apart (a := "StatefulSet") rfl (by decide) (by decide)
  have deployable₁ := readable.deployable.frame service₁ statefulSet₁
  refine (((Deployment.apply_delivers addressed services (fun e met => (grants e met).applies)
    deployable₁).frame locally).widen fun r asked => ?_).bind ?_
  · rcases asked.2 with about | about <;> simp [Tending, about]
  rintro statefulSet s₂ ⟨⟨status, answered, fine, deployed, rfl⟩, same₂⟩
  have own := same₂ (c.ownKey «namespace») fun r asked =>
    .inr (asked.ne ownKey_ne_serviceKey ownKey_ne_statefulSetKey)
  have secrets (name : String) := same₂ (secretKey «namespace» name) fun r asked =>
    .inr (asked.ne (serviceKey_ne_secret _).symm (statefulSetKey_ne_secret _).symm)
  rw [statefulSet₁] at answered
  exact .done ⟨status, answered,
    { shows := shows₁.congr own
      furnished := furnished.congr secrets
      deployable := deployable₁.of_deployed fine deployed
      deployed := ⟨deployed.service.trans (by rw [service₁]),
        deployed.statefulSet.trans (by rw [statefulSet₁])⟩
      answered := by rw [statefulSet₁] }⟩

end

end Cluster

end ReplicaSetOperator
