import ReplicaSetOperator.Proofs.Operator.MissingMaterial

/-!
# What is told up to the stateful set

Up to the answer to the stateful set a reconciliation that is refused nothing tells one of two
things in the status (`Cluster.established_gathers`). If the user's material is missing where it is
needed (`Cluster.Lacks`), it tells that and stops, to try again soon. Otherwise it at most announces
the cluster, and whatever makes it stop is final.

The status announces TLS by a condition (`Cluster.announcesTls`). So that is at most taken back
(`Cluster.established_subdues`).
-/

namespace ReplicaSetOperator

open ReplicaSetOperator.Configuration (KeptUnder)

/-- The status says that TLS is configured. -/
def Cluster.announcesTls (c : Cluster) : Bool :=
  Condition.isTrue tlsCondition (c.status.getD {}).conditions

/-- The stored status of the cluster of a key says that TLS is configured. -/
def Server.AnnouncesTls (s : Server) (own : ObjectKey) : Prop :=
  ∃ object, s.objects.find? own = some object ∧
    (Cluster.format.read object).announcesTls = true

theorem Cluster.announcesTls_congr {x y : Cluster} (same : y.status = x.status) :
    y.announcesTls = x.announcesTls := by
  rw [announcesTls, announcesTls, same]

/-- A cluster that is shown announces what the server has stored of it. -/
theorem Server.Shows.announcesTls {s : Server} {own : ObjectKey} {x : Cluster}
    (h : s.Shows own x) : s.AnnouncesTls own ↔ x.announcesTls = true := by
  obtain ⟨object, there, -, same⟩ := h
  have announces := Cluster.announcesTls_congr (Cluster.status_of_unversioned same)
  rw [← announces]
  constructor
  · rintro ⟨object', there', holds⟩
    obtain rfl := Option.some.inj (there.symm.trans there')
    exact holds
  · exact fun holds => ⟨object, there, holds⟩

/-- All clusters that a server shows under a key announce the same. -/
theorem Server.AnnouncesTls.congr {s s' : Server} {own : ObjectKey}
    (same : s'.objects.find? own = s.objects.find? own) :
    s'.AnnouncesTls own ↔ s.AnnouncesTls own := by
  rw [Server.AnnouncesTls, Server.AnnouncesTls, same]

namespace Cluster

variable {c x y : Cluster} {«namespace» : String} {images : Images} {meets : Exchange → Prop}
  {answers : Json → Option Json → Option Json → Prop} {s s' : Server}

/-- A cluster with another status, which announces TLS only if the status before does. -/
structure Subdued (x y : Cluster) : Prop where
  others : ∃ status, y = { x with status := status }
  announces : y.announcesTls = true → x.announcesTls = true

/-- Such a cluster has the same marker. -/
theorem Subdued.marked (h : x.Subdued y) : y.tlsRolledOut = x.tlsRolledOut := by
  obtain ⟨status, rfl⟩ := h.others
  rfl

theorem Subdued.trans {z : Cluster} (first : x.Subdued y) (second : y.Subdued z) :
    x.Subdued z := by
  obtain ⟨⟨status, rfl⟩, announces⟩ := first
  obtain ⟨⟨status', rfl⟩, announces'⟩ := second
  exact ⟨⟨status', rfl⟩, fun holds => announces (announces' holds)⟩

/-- To announce the cluster says nothing of TLS. -/
theorem announcesTls_announced :
    ({ x with status := c.announcedStatus x.status } : Cluster).announcesTls =
      x.announcesTls := by
  unfold announcedStatus announcesTls
  split <;> rfl

/-- To announce the cluster announces no TLS. -/
theorem subdued_announced : x.Subdued { x with status := c.announcedStatus x.status } :=
  ⟨⟨_, rfl⟩, fun announces => announcesTls_announced ▸ announces⟩

/-- To announce the cluster leaves all conditions as they are. -/
theorem conditions_announced : ((c.announcedStatus x.status).getD {}).conditions =
    (x.status.getD {}).conditions := by
  unfold announcedStatus
  split <;> rfl

/-! ### Up to the stateful set -/

/-- The cluster asks for TLS, and what the server has of the user's material lacks something. -/
def Lacks (c : Cluster) («namespace» : String) (s : Server) : Prop :=
  c.spec.tls.enabled = true ∧
    ∃ m, Material.source (c.descriptor «namespace») s [] = .error (Material.lacking m)

/-- What the user has provided does not lack anything. -/
theorem not_lacks_of_provided {certificate key : Bytes}
    (h : Material.Provided (c.descriptor «namespace») s certificate key) :
    ¬ c.Lacks «namespace» s := by
  rintro ⟨-, m, isLacking⟩
  obtain ⟨ca, isOk⟩ := Material.source_of_provided h
  cases isOk.symm.trans isLacking

/-- What becomes of a cluster until the marker is turned to: it is told that material is missing, to
look for it again soon, or nothing is told and all that can go wrong is final. -/
inductive Gathers {α : Type} (c : Cluster) («namespace» : String) (s : Server)
    (o : Outcome Failure α) (x : Cluster) : Cluster → Prop
  | lacking {m : MissingMaterial} {status : ClusterStatus} (lacks : c.Lacks «namespace» s)
    (retries : o = .failed (.retry (.materialMissing m.message) missingMaterialRequeue))
    (phase : status.phase = some Phase.pending.label)
    (told : Condition.isTrue tlsCondition status.conditions = false)
    (others : ∀ other, tlsCondition ≠ other → Condition.find? other status.conditions =
      Condition.find? other (x.status.getD {}).conditions) :
    Gathers c «namespace» s o x { x with status := some status }
  | provided (provided : ¬ c.Lacks «namespace» s) (final : ∀ f, o = .failed f → f.IsFinal) :
    Gathers c «namespace» s o x x

namespace Gathers

variable {α β : Type} {o : Outcome Failure α} {own : ObjectKey} {s₀ : Server}

/-- Whatever is gathered, TLS is not announced newly. -/
theorem subdued (h : c.Gathers «namespace» s o x y) : x.Subdued y := by
  cases h with
  | lacking lacks retries phase told others =>
    exact ⟨⟨_, rfl⟩, fun announces => absurd announces (ne_true_of_eq_false told)⟩
  | provided provided final => exact ⟨⟨_, rfl⟩, id⟩

/-- It has a result only if nothing is missing. -/
theorem of_done {a : α} (h : c.Gathers «namespace» s (.done a) x y) :
    y = x ∧ ¬ c.Lacks «namespace» s := by
  cases h with
  | lacking lacks retries phase told others => cases retries
  | provided provided final => exact ⟨rfl, provided⟩

theorem congr (h : c.Gathers «namespace» s o x y)
    (same : c.Lacks «namespace» s₀ ↔ c.Lacks «namespace» s) :
    c.Gathers «namespace» s₀ o x y := by
  cases h with
  | lacking lacks retries phase told others =>
    exact .lacking (same.2 lacks) retries phase told others
  | provided provided final => exact .provided (mt same.1 provided) final

/-- What comes after a result fails finally at most, and leaves the cluster alone. -/
theorem bind {p : Program Failure α} {k : α → Program Failure β} {P : α → Server → Prop}
    (first : p.Ensures meets s₀ fun _ o s₁ =>
      (∃ y, s₁.Shows own y ∧ c.Gathers «namespace» s o x y) ∧ ∀ a, o = .done a → P a s₁)
    (final : ∀ a, (k a).FailsFinally)
    (next : ∀ a s₁, P a s₁ → (k a).Ensures meets s₁ fun _ _ s' =>
      s'.objects.find? own = s₁.objects.find? own) :
    (p.bind k).Ensures meets s₀ fun _ o s' =>
      ∃ y, s'.Shows own y ∧ c.Gathers «namespace» s o x y := by
  refine .bind first ?_ ?_ ?_
  · rintro es a s₁ ⟨⟨y, shows, gathers⟩, isResult⟩ es' o s' run
    -- there is a result only if nothing is missing, and then the rest can only fail finally
    obtain ⟨rfl, provided⟩ := gathers.of_done
    refine ⟨_, shows.congr (next a s₁ (isResult a rfl) _ _ _ run), .provided provided ?_⟩
    rintro f rfl
    exact run.isFinal (final a)
  · rintro es f s' ⟨⟨y, shows, gathers⟩, -⟩
    refine ⟨y, shows, ?_⟩
    cases gathers with
    | lacking lacks retries phase told others =>
      cases retries
      exact .lacking lacks rfl phase told others
    | provided provided final =>
      refine .provided provided ?_
      rintro _ ⟨⟩
      exact final f rfl
  · rintro es s' ⟨⟨y, shows, gathers⟩, -⟩
    refine ⟨y, shows, ?_⟩
    cases gathers with
    | lacking lacks retries phase told others => cases retries
    | provided provided final =>
      refine .provided provided ?_
      rintro _ ⟨⟩

end Gathers

/-- A failure that is final is handed on without a report. -/
theorem reportMissing_of_isFinal {α : Type} {f : Failure} (h : f.IsFinal) :
    (c.reportMissing f : Program Failure α) = .fail f := by
  unfold reportMissing
  rw [h.missingMaterial?_eq_none]

section

variable (addressed : c.Addressed «namespace»)

include addressed

/-- The user's material is no matter of the cluster itself. -/
theorem source_of_same (same : ∀ k, c.ownKey «namespace» ≠ k →
    s'.objects.find? k = s.objects.find? k) (es : List Exchange) :
    Material.source (c.descriptor «namespace») s' es =
      Material.source (c.descriptor «namespace») s es := by
  have apart {type : ObjectType} {name : String}
      (known : Address.kindIn type.collection = type.kind)
      (plain : Address.isPlain type.collection = true) (other : Cluster.type.kind ≠ type.kind)
      (r : Request) (arrives : Request.about? .get type «namespace» name .none false = some r) :
      s'.objects.find? (Server.key r) = s.objects.find? (Server.key r) := by
    refine same _ (ObjectKey.ne_of_kind (b := type.kind) rfl ?_ other)
    exact congrArg ObjectType.kind
      (Request.type_of_about? known plain addressed.material.plainNamespace arrives).2
  exact Material.source_congr (apart (by decide) (by decide) (by decide))
    (apart (by decide) (by decide) (by decide))

/-- The change of the document is worked out if nothing is missing, and otherwise that is found. -/
theorem change_finds
    (keptMaterial : KeptUnder «namespace» c.operatorSecretName
      (s.objects.find? (c.materialSecret «namespace»))) :
    (Material.change (c.descriptor «namespace»)).Ensures Exchange.Served s fun _ o s' =>
      (∀ k, c.materialSecret «namespace» ≠ k → s'.objects.find? k = s.objects.find? k) ∧
        (¬ c.Lacks «namespace» s ∧ (∀ f, o = .failed f → f.IsFinal) ∨
          c.Lacks «namespace» s ∧ ∃ m, o = .failed (Material.lacking m)) := by
  intro es o s' run
  have answered := run.mono fun e served => (.inl served : e.Answered)
  obtain ⟨others, -⟩ := Material.change_ensures addressed.material keptMaterial _ _ _ answered
  refine ⟨fun k apart => (others k trivial apart.symm).same, ?_⟩
  cases enabled : c.spec.tls.enabled with
  | false =>
    -- nothing is read
    have isDone : Material.change (c.descriptor «namespace») = .done (.tls .disabled "") := by
      rw [Material.change, show (c.descriptor «namespace»).enabled = false from enabled]
      rfl
    rw [isDone] at run
    cases run
    refine .inl ⟨fun lacks => ?_, by rintro _ ⟨⟩⟩
    cases enabled.symm.trans lacks.1
  | true =>
    rcases Material.change_sees enabled addressed.material.plainNamespace _ _ _ answered with
      ⟨f, rfl, rfl, reads, isSource⟩ | ⟨final, ca, certificate, key, provided, -⟩
    · -- what has been read is what the server has
      have isError : Material.source (c.descriptor «namespace») s' [] = .error f := by
        rw [← Material.source_of_served addressed.material.plainNamespace run.links run.met
          fun e mem => .inl (reads e mem)]
        simpa using isSource s' []
      rcases Material.source_error isError with ⟨m, rfl⟩ | ⟨e, rfl⟩
      · exact .inr ⟨⟨enabled, m, isError⟩, m, rfl⟩
      · refine .inl ⟨?_, ?_⟩
        · rintro ⟨-, m, isLacking⟩
          cases isError.symm.trans isLacking
        · rintro _ ⟨⟩
          exact ⟨_, rfl, by rintro _ ⟨⟩⟩
    · exact .inl ⟨not_lacks_of_provided provided, final⟩

/-- If material is missing, that is told. -/
theorem tlsChange_gathers
    (keptMaterial : KeptUnder «namespace» c.operatorSecretName
      (s.objects.find? (c.materialSecret «namespace»)))
    (shows : s.Shows (c.ownKey «namespace») x) :
    (c.tlsChange (c.descriptor «namespace»)).Ensures Exchange.Served s fun _ o s' =>
      (∃ y, s'.Shows (c.ownKey «namespace») y ∧ c.Gathers «namespace» s o x y) ∧
        ∀ change, o = .done change → ∀ k, c.materialSecret «namespace» ≠ k →
          s'.objects.find? k = s.objects.find? k := by
  have clusters (e : Exchange) (met : e.Served) (_ : e.request.type = Cluster.type) : e.Served :=
    met
  rw [← Program.bind_pure (c.tlsChange _), tlsChange_bind]
  refine .bind (change_finds addressed keptMaterial).attempted ?_ ?_ ?_
  -- with a result nothing is missing, and with a failure it depends on what that says
  · rintro es r s₁ ⟨o', isEnd, same, found⟩
    have shows₁ := shows.congr (same (c.ownKey «namespace») (ownKey_ne_secret _).symm)
    cases r with
    | ok change =>
      rcases found with ⟨provided, -⟩ | ⟨-, m, rfl⟩
      · exact .done ⟨⟨x, shows₁, .provided provided (by rintro _ ⟨⟩)⟩, fun _ _ => same⟩
      · cases isEnd
    | error f =>
      obtain rfl : o' = .failed f := by cases o' <;> cases isEnd; rfl
      rcases found with ⟨provided, final⟩ | ⟨lacks, m, isLacking⟩
      · -- there is nothing to tell
        show (c.reportMissing f : Program Failure Change).Ensures _ _ _
        rw [reportMissing_of_isFinal (final f rfl)]
        refine .fail ⟨⟨x, shows₁, .provided provided ?_⟩, by rintro _ ⟨⟩⟩
        rintro _ ⟨⟩
        exact final f rfl
      · obtain rfl := Outcome.failed.inj isLacking
        refine Program.Ensures.mono (reportMissing_reports addressed clusters rfl shows₁) ?_
        rintro es' o s' ⟨rfl, status, shows', phase, -, told, others⟩
        exact ⟨⟨_, shows', .lacking lacks rfl phase told.isTrue others⟩, by rintro _ ⟨⟩⟩
  · -- an attempt does not fail
    rintro es f s' ⟨o', isEnd, -⟩
    cases o' <;> cases isEnd
  · rintro es s' ⟨o', isEnd, same, found⟩
    have shows' := shows.congr (same (c.ownKey «namespace») (ownKey_ne_secret _).symm)
    rcases found with ⟨provided, -⟩ | ⟨-, m, rfl⟩
    · exact ⟨⟨x, shows', .provided provided (by rintro _ ⟨⟩)⟩, by rintro _ ⟨⟩⟩
    · cases isEnd

variable
  (keptDocument : KeptUnder «namespace» c.configSecretName
    (s.objects.find? (c.documentSecret «namespace»)))
  (keptMaterial : KeptUnder «namespace» c.operatorSecretName
    (s.objects.find? (c.materialSecret «namespace»)))
  (shows : s.Shows (c.ownKey «namespace») x)

include keptDocument keptMaterial shows

/-- Before that the preparation announces the cluster. -/
theorem prepared_gathers :
    (c.prepared «namespace»).Ensures Exchange.Served s fun _ o s' =>
      ∃ y, s'.Shows (c.ownKey «namespace») y ∧
        c.Gathers «namespace» s o { x with status := c.announcedStatus x.status } y := by
  have clusters (e : Exchange) (met : e.Served) (_ : e.request.type = Cluster.type) : e.Served :=
    met
  unfold prepared
  refine Program.Achieves.bind_ensures
    ((announced_delivers addressed clusters shows).around fun e => Exchange.Served.isLocal) ?_
  rintro es - s₁ ⟨-, shows₁, same₁⟩
  have document₁ := same₁ (c.documentSecret «namespace») (ownKey_ne_secret _)
  have material₁ := same₁ (c.materialSecret «namespace») (ownKey_ne_secret _)
  have lacks₁ : c.Lacks «namespace» s ↔ c.Lacks «namespace» s₁ := by
    rw [Lacks, Lacks, source_of_same addressed same₁]
  refine Program.Ensures.mono (Gathers.bind
    (tlsChange_gathers addressed (material₁.symm ▸ keptMaterial) shows₁)
    (fun change => Configuration.push_failsFinally c _) fun change s₂ same => ?_) ?_
  · -- the document is another object
    intro es o s' run
    have kept₂ : KeptUnder «namespace» c.configSecretName
        (s₂.objects.find? (c.documentSecret «namespace»)) :=
      ((same _ documentSecret_ne.symm).trans document₁).symm ▸ keptDocument
    have pushing := Configuration.push_pushing (m := change.apply) addressed.inNamespace
      addressed.document kept₂ _ _ _ (run.mono fun e served => .inl served)
    exact pushing.leaves (ownKey_ne_secret _)
  · rintro es' o s' ⟨y, shows', gathers⟩
    exact ⟨y, shows', gathers.congr lacks₁⟩

/-- So does all that comes before the marker and the rest of the status. -/
theorem established_gathers {answers : Json → Option Json → Option Json → Prop}
    (grants : ∀ e, meets e → e.Grants answers) :
    (c.established «namespace» images).Ensures meets s fun _ o s' =>
      ∃ y, s'.Shows (c.ownKey «namespace») y ∧
        c.Gathers «namespace» s o { x with status := c.announcedStatus x.status } y := by
  -- nothing is applied in the preparation, so that it is served
  have prepares : (c.prepared «namespace»).Ensures meets s fun _ o s₁ =>
      (∃ y, s₁.Shows (c.ownKey «namespace») y ∧
        c.Gathers «namespace» s o { x with status := c.announcedStatus x.status } y) ∧
        ∀ d, o = .done d → True := by
    intro es o s₁ run
    refine ⟨prepared_gathers addressed keptDocument keptMaterial shows _ _ _
      (run.of_mem fun e mem => ?_), fun _ _ => trivial⟩
    obtain ⟨met, plain⟩ := run.mem (prepared_plain addressed) e mem
    refine (grants e met).serves fun ns name body same => plain ?_
    rw [same]
    rfl
  refine Gathers.bind prepares (fun d => .bind (Deployment.apply_failsFinally c images)
    fun _ _ => trivial) fun d s₁ _ => ?_
  -- the workload is something else than the cluster
  intro es o s' run
  have applies : ((Deployment.apply c images).bind fun statefulSet =>
      .done (d, statefulSet) : Program Failure (Document × StatefulSet)).Demands fun r =>
        r.type = Service.type ∨ r.type = StatefulSet.type :=
    .bind (deployed_demands addressed images) fun _ => trivial
  refine run.frame (fun e met => (grants e met).isLocal) fun e mem => .inr ?_
  rcases (run.mem applies e mem).2 with isService | isStatefulSet
  · exact ObjectKey.ne_of_kind (b := "MongoDBCluster") (congrArg ObjectType.kind isService) rfl
      (by decide)
  · exact ObjectKey.ne_of_kind (b := "MongoDBCluster") (congrArg ObjectType.kind isStatefulSet)
      rfl (by decide)

/-- So at most it takes back that TLS is announced. -/
theorem established_subdues {answers : Json → Option Json → Option Json → Prop}
    (grants : ∀ e, meets e → e.Grants answers) :
    (c.established «namespace» images).Ensures meets s fun _ o s' =>
      ∃ y, s'.Shows (c.ownKey «namespace») y ∧ x.Subdued y ∧
        ∀ made, o = .done made → y = { x with status := c.announcedStatus x.status } := by
  intro es o s' run
  obtain ⟨y, shows', gathers⟩ :=
    established_gathers addressed keptDocument keptMaterial shows grants es o s' run
  refine ⟨y, shows', subdued_announced.trans gathers.subdued, ?_⟩
  rintro made rfl
  exact gathers.of_done.1

end

end Cluster

end ReplicaSetOperator
