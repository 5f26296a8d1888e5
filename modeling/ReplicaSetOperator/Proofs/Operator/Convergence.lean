import ReplicaSetOperator.Proofs.Operator.Settling

/-!
# Convergence

Where nothing is refused, two reconciliations of a cluster as it is stored at a time leave nothing
to be changed (`Cluster.converges`): from then on the marker and the modes of the processes are the
ones that are asked for (`Cluster.Settled`), and every further reconciliation only repeats what is
there already (`Cluster.Settled.reconcile_repeats`).
-/

namespace ReplicaSetOperator

open ReplicaSetOperator.Configuration (secretKey held Legible UpToDate)

namespace Cluster

variable {c x y : Cluster} {«namespace» : String} {images : Images} {certificate key : Bytes}
  {meets : Exchange → Prop} {s s' : Server} {version : Int64}

/-- A request of a reconciliation that has nothing to change: it reads, keeps the user's material
once more, applies the workload once more, or tells once more what is live. -/
def Routine (c : Cluster) («namespace» : String) (version : Int64) (r : Request) : Prop :=
  c.Reminding «namespace» version r ∨ Server.key r = c.materialSecret «namespace» ∨
    c.Deploying «namespace» r

/-- An object is there and is to be what was sent. -/
def Applied (sent : Json) (object : Option Json) : Prop :=
  ∃ j, object = some j ∧ j.get? "spec" = sent.get? "spec"

/-- A server on which nothing has to be changed for a cluster. -/
structure Settled (c : Cluster) («namespace» : String) (images : Images) (certificate key : Bytes)
    (version : Int64) (s : Server) : Prop
    extends c.Ready «namespace» images 0 certificate key s where
  shows : s.Shows (c.ownKey «namespace») c
  marked : c.tlsRolledOut = c.spec.tls.enabled
  upToDate : ∃ d : Document, d.version = version ∧
    UpToDate c «namespace» (c.wanted «namespace» certificate key).apply
      (s.objects.find? (c.documentSecret «namespace»)) d
  holds : c.spec.tls.enabled = true →
    Material.Holds «namespace» c.operatorSecretName certificate key s
  service : Applied (c.sentService «namespace») (s.objects.find? (c.serviceKey «namespace»))
  statefulSet : Applied (c.sentStatefulSet «namespace» images)
    (s.objects.find? (c.statefulSetKey «namespace»))
  reported : ∃ status, c.status = some status ∧
    status.Reports ((c.descriptor «namespace»).report (c.descriptor «namespace»).mode)
      c.spec.members version c.metadata.generation

/-- Two servers differ for a cluster in nothing but the versions of objects, the status of what has
been applied, and what the operator's secret says beside its entries. -/
structure Steady (c : Cluster) («namespace» : String) (s s' : Server) : Prop where
  cluster : ∃ object object',
    s.objects.find? (c.ownKey «namespace») = some object ∧
    s'.objects.find? (c.ownKey «namespace») = some object' ∧
    (format.read object').unversioned = (format.read object).unversioned
  document : s'.objects.find? (c.documentSecret «namespace») =
    s.objects.find? (c.documentSecret «namespace»)
  material : ((s'.objects.find? (c.materialSecret «namespace»)).bind fun j =>
      (Secret.format.read j).data) =
    (s.objects.find? (c.materialSecret «namespace»)).bind fun j => (Secret.format.read j).data
  workload : ∀ k ∈ [c.serviceKey «namespace», c.statefulSetKey «namespace»], ∃ j j',
    s.objects.find? k = some j ∧ s'.objects.find? k = some j' ∧
    j'.get? "spec" = j.get? "spec" ∧ j'.generation = j.generation
  others : ∀ k ∉ [c.ownKey «namespace», c.materialSecret «namespace», c.serviceKey «namespace»,
    c.statefulSetKey «namespace»], s'.objects.find? k = s.objects.find? k

/-- A routine request leaves everything else as it is. -/
theorem Routine.leaves {r : Request} {k : ObjectKey} (h : c.Routine «namespace» version r)
    (apart : k ∉ [c.ownKey «namespace», c.materialSecret «namespace», c.serviceKey «namespace»,
      c.statefulSetKey «namespace»]) : r.verb = .get ∨ Server.key r ≠ k := by
  simp only [List.mem_cons, List.not_mem_nil, or_false, not_or] at apart
  obtain ⟨own, material, service, statefulSet⟩ := apart
  rcases h with (reads | rfl | rfl) | about | deploys
  · exact .inl reads
  · exact .inr (Ne.symm own)
  · exact .inr (Ne.symm own)
  · exact .inr fun same => material (same.symm.trans about)
  · exact .inr (deploys.ne service statefulSet)

/-- A routine request is one of a reconciliation. -/
theorem Routine.tending {r : Request} (h : c.Routine «namespace» version r) :
    c.Tending «namespace» r := by
  rcases h with (reads | rfl | rfl) | about | ⟨-, about | about⟩
  · exact .inl reads
  · exact .inr (.inr (List.mem_cons_self ..))
  · exact .inr (.inr (List.mem_cons_self ..))
  · exact .inr (.inr (by simp [about]))
  · exact .inr (.inr (by simp [about]))
  · exact .inr (.inr (by simp [about]))

/-- Applying what is there already makes no further generation. -/
theorem Applied.again {sent : Json} {before status : Option Json} (room : sent.Room before)
    (h : Applied sent before) : ∃ j, before = some j ∧
      (sent.applied before status).get? "spec" = j.get? "spec" ∧
      (sent.applied before status).generation = j.generation := by
  obtain ⟨j, rfl, same⟩ := h
  refine ⟨j, rfl, (Json.get?_applied (by decide)).trans same.symm, ?_⟩
  rw [Json.generation_applied room, Json.appliedGeneration_of_same same.symm]

/-- What has been applied is to be what was sent. -/
theorem applied_applied (sent : Json) (before status : Option Json) :
    Applied sent (some (sent.applied before status)) :=
  ⟨_, rfl, Json.get?_applied (by decide)⟩

/-- Where the marker is right it stays, and progress is reported. -/
theorem settled_of_marked {d : Document} {statefulSet : StatefulSet}
    (marked : c.tlsRolledOut = c.spec.tls.enabled)
    (rolledOut : statefulSet.rolledOut c.spec.members = true) :
    c.settled (c.descriptor «namespace») d statefulSet =
      c.reportProgress (c.descriptor «namespace») true d.version := by
  unfold settled
  dsimp only
  rw [rolledOut, show (c.descriptor «namespace»).enabled = c.spec.tls.enabled from rfl,
    show (c.descriptor «namespace»).rolloutComplete = c.tlsRolledOut from rfl, marked]
  cases c.spec.tls.enabled with
  | true => rfl
  | false => rfl

/-- What is left behind when the work is done over again for a cluster. -/
structure Repeated (c : Cluster) («namespace» : String) (images : Images) (certificate key : Bytes)
    (s s' : Server) : Prop where
  shows : s'.Shows (c.ownKey «namespace») c
  material : Legible «namespace» c.operatorSecretName
    (s'.objects.find? (c.materialSecret «namespace»))
  holds : c.spec.tls.enabled = true →
    Material.Holds «namespace» c.operatorSecretName certificate key s'
  idle : c.spec.tls.enabled = false → s'.objects.find? (c.materialSecret «namespace») =
    s.objects.find? (c.materialSecret «namespace»)
  deployable : c.Deployable «namespace» images s'
  deployed : ∃ status, c.Deployed «namespace» images s status s'

/-- What else happens to the cluster makes no difference to what is repeated. -/
theorem Repeated.congr {s₁ : Server}
    (h : c.Repeated «namespace» images certificate key s s₁)
    (shows : s'.Shows (c.ownKey «namespace») c)
    (same : ∀ k, c.ownKey «namespace» ≠ k → s'.objects.find? k = s₁.objects.find? k) :
    c.Repeated «namespace» images certificate key s s' where
  shows := shows
  material := (same (c.materialSecret «namespace») (ownKey_ne_secret _)) ▸ h.material
  holds enabled := (h.holds enabled).congr (same _ (ownKey_ne_secret _))
  idle disabled := (same _ (ownKey_ne_secret _)).trans (h.idle disabled)
  deployable := h.deployable.frame (same _ ownKey_ne_serviceKey) (same _ ownKey_ne_statefulSetKey)
  deployed := h.deployed.imp fun _ deployed =>
    ⟨(same _ ownKey_ne_serviceKey).trans deployed.service,
      (same _ ownKey_ne_statefulSetKey).trans deployed.statefulSet⟩

/-- The document is not among what routine requests are about. -/
theorem documentSecret_notMem : c.documentSecret «namespace» ∉
    [c.ownKey «namespace», c.materialSecret «namespace», c.serviceKey «namespace»,
      c.statefulSetKey «namespace»] := by
  simp only [List.mem_cons, List.not_mem_nil, or_false, not_or]
  exact ⟨(ownKey_ne_secret _).symm, documentSecret_ne, (serviceKey_ne_secret _).symm,
    (statefulSetKey_ne_secret _).symm⟩

/-- When the work is done over again nothing but versions, a status and the operator's secret beside
its entries is another. -/
theorem Settled.steady (h : c.Settled «namespace» images certificate key version s)
    (repeated : c.Repeated «namespace» images certificate key s s')
    (same : ∀ k, (∀ r, c.Routine «namespace» version r → r.verb = .get ∨ Server.key r ≠ k) →
      s'.objects.find? k = s.objects.find? k) : c.Steady «namespace» s s' where
  -- cluster and document are as they were, and the material has the same entries
  cluster := by
    obtain ⟨object, isThere, -, read⟩ := h.shows
    obtain ⟨object', isThere', -, read'⟩ := repeated.shows
    exact ⟨object, object', isThere, isThere', read'.trans read.symm⟩
  document := same _ fun r asked => asked.leaves documentSecret_notMem
  material := by
    cases enabled : c.spec.tls.enabled with
    | true => exact (repeated.holds enabled).data.trans (h.holds enabled).data.symm
    | false => rw [repeated.idle enabled]
  workload := by
    obtain ⟨status, deployed⟩ := repeated.deployed
    intro k mem
    simp only [List.mem_cons, List.not_mem_nil, or_false] at mem
    rcases mem with rfl | rfl
    · obtain ⟨j, before, again⟩ := Applied.again h.deployable.serviceRoom h.service
      exact ⟨j, _, before, deployed.service, again⟩
    · obtain ⟨j, before, again⟩ := Applied.again h.deployable.statefulSetRoom h.statefulSet
      exact ⟨j, _, before, deployed.statefulSet, again⟩
  others k apart := same k fun r asked => asked.leaves apart

section

variable (addressed : c.Addressed «namespace»)

include addressed

/-- There is nothing to be changed either, then. -/
theorem Settled.again (h : c.Settled «namespace» images certificate key version s)
    (repeated : c.Repeated «namespace» images certificate key s s')
    (same : ∀ k, (∀ r, c.Routine «namespace» version r → r.verb = .get ∨ Server.key r ≠ k) →
      s'.objects.find? k = s.objects.find? k) :
    c.Settled «namespace» images certificate key version s' := by
  have document := same (c.documentSecret «namespace») fun r asked =>
    asked.leaves documentSecret_notMem
  obtain ⟨status, deployed⟩ := repeated.deployed
  refine { document := document ▸ h.document, versions := document ▸ h.versions,
           material := repeated.material, deployable := repeated.deployable, provided := ?_,
           shows := repeated.shows, marked := h.marked, upToDate := document ▸ h.upToDate,
           holds := repeated.holds, service := ?_, statefulSet := ?_, reported := h.reported }
  · exact h.provided_frame addressed fun k isKind => same k fun r asked =>
      asked.tending.leaves isKind
  · rw [deployed.service]
    exact applied_applied _ _ _
  · rw [deployed.statefulSet]
    exact applied_applied _ _ _

variable (settles : ∀ e, meets e → e.Settles c.spec.members)

include settles

/-- Where nothing has to be changed, the document stays and the workload is applied once more. -/
theorem Settled.established_repeats
    (h : c.Settled «namespace» images certificate key version s) :
    (c.established «namespace» images).Delivers meets (c.Routine «namespace» version) s
      fun made s' => made.1.version = version ∧ made.2.rolledOut c.spec.members = true ∧
        c.Repeated «namespace» images certificate key s s' := by
  have secrets (e : Exchange) (met : meets e) (isType : e.request.type = Secret.objectType) :
      e.Served := (settles e met).served (by rw [isType]; decide)
  have services (e : Exchange) (met : meets e) (isType : e.request.type = Service.type) :
      e.Served := (settles e met).served (by rw [isType]; decide)
  have locally (e : Exchange) (met : meets e) : e.Local := (settles e met).isLocal
  obtain ⟨d, rfl, upToDate⟩ := h.upToDate
  obtain ⟨status, there, -⟩ := h.reported
  have announced : c.announced = .done () := by
    rw [announced, there]
    rfl
  rw [established, prepared, announced, Program.bind_done, Program.bind_assoc]
  -- the material
  refine (((tlsChange_wanted addressed (fun e met => (settles e met).grants) h.material
    fun enabled => (h.provided enabled).1).around locally).widen fun r asked => ?_).bind ?_
  · exact asked.elim (.inl ∘ .inl) (.inr ∘ .inl)
  rintro _ s₁ ⟨⟨rfl, material₁, holds₁, idle₁⟩, same₁⟩
  -- the document
  have document₁ := same₁ (c.documentSecret «namespace») documentSecret_ne.symm
  refine ((Configuration.push_repeats addressed.inNamespace addressed.document secrets
    (by rw [document₁]; exact h.document) (by rw [document₁]; exact upToDate)).widen
    fun r reads => .inl (.inl reads)).bind ?_
  rintro document s₂ ⟨rfl, rfl⟩
  -- the workload
  have service₂ := same₁ (c.serviceKey «namespace») (serviceKey_ne_secret _).symm
  have statefulSet₂ := same₁ (c.statefulSetKey «namespace») (statefulSetKey_ne_secret _).symm
  have deployable₂ := h.deployable.frame service₂ statefulSet₂
  refine (((Deployment.apply_delivers addressed services (fun e met => (settles e met).applies)
    deployable₂).frame locally).widen fun r asked => .inr (.inr asked)).bind ?_
  rintro statefulSet s₃ ⟨⟨status', follows, fine, deployed, rfl⟩, same₃⟩
  have rest₃ (k : ObjectKey) (service : k ≠ c.serviceKey «namespace»)
      (statefulSet : k ≠ c.statefulSetKey «namespace») :
      s₃.objects.find? k = s₂.objects.find? k :=
    same₃ k fun r asked => .inr (asked.ne service statefulSet)
  have material₃ := rest₃ (c.materialSecret «namespace») (serviceKey_ne_secret _).symm
    (statefulSetKey_ne_secret _).symm
  refine .done ⟨rfl, follows.rolledOut, ?_⟩
  exact
    { shows := h.shows.congr ((rest₃ _ ownKey_ne_serviceKey ownKey_ne_statefulSetKey).trans
        (same₁ _ (ownKey_ne_secret _).symm))
      material := material₃ ▸ material₁
      holds := fun enabled => (holds₁ enabled).congr material₃
      idle := fun disabled => by rw [material₃, idle₁ disabled]
      deployable := deployable₂.of_deployed fine deployed
      deployed := ⟨status', deployed.service.trans (by rw [service₂]),
        deployed.statefulSet.trans (by rw [statefulSet₂])⟩ }

/-- A reconciliation that has nothing to change asks for nothing but what is there. -/
theorem Settled.reconcile_repeats (h : c.Settled «namespace» images certificate key version s) :
    (c.reconcile images).Delivers meets (c.Routine «namespace» version) s fun action s' =>
      action = .requeue idleRequeue ∧
        c.Settled «namespace» images certificate key version s' ∧ c.Steady «namespace» s s' := by
  have clusters (e : Exchange) (met : meets e) (isType : e.request.type = Cluster.type) :
      e.Served := (settles e met).served (by rw [isType]; decide)
  have locally (e : Exchange) (met : meets e) : e.Local := (settles e met).isLocal
  obtain ⟨status, there, reports⟩ := h.reported
  have main : (c.reconcile images).Delivers meets (c.Routine «namespace» version) s
      fun action s' => action = .requeue idleRequeue ∧
        c.Repeated «namespace» images certificate key s s' := by
    rw [reconcile_eq_established addressed]
    refine (h.established_repeats addressed settles).bind ?_
    rintro ⟨d, statefulSet⟩ s₁ ⟨rfl, rolledOut, repeated⟩
    -- the status
    rw [settled_of_marked h.marked rolledOut]
    refine (((reportProgress_repeats addressed clusters there reports repeated.shows).frame
      locally).widen fun r asked => .inl asked).mono ?_
    rintro action s₂ ⟨⟨rfl, shows₂⟩, same₂⟩
    refine ⟨rfl, repeated.congr shows₂ fun k own => same₂ k fun r asked => ?_⟩
    rcases asked with reads | rfl | rfl
    · exact .inl reads
    · exact .inr own
    · exact .inr own
  refine (main.frame locally).mono ?_
  rintro action s' ⟨⟨rfl, repeated⟩, same⟩
  exact ⟨rfl, h.again addressed repeated same, h.steady repeated same⟩

end

/-! ### What depends on what the user asks for only -/

/-- A cluster that is the same but for what the operator writes differs in that only. -/
theorem exists_of_plain (same : y.plain = x.plain) : ∃ annotations version status,
    y = { x with
      metadata := { x.metadata with annotations := annotations, resourceVersion := version }
      status := status } := by
  refine ⟨y.metadata.annotations, y.metadata.resourceVersion, y.status, ?_⟩
  have metadata : { y.metadata with annotations := none, resourceVersion := none } =
      ({ x.metadata with annotations := none, resourceVersion := none } : ObjectMeta) :=
    congrArg Cluster.metadata same
  -- put back in, the two members give the metadata
  have restored : y.metadata = { x.metadata with
      annotations := y.metadata.annotations, resourceVersion := y.metadata.resourceVersion } :=
    congrArg (fun m : ObjectMeta => { m with
      annotations := y.metadata.annotations, resourceVersion := y.metadata.resourceVersion })
      metadata
  have spec := spec_of_plain same
  show Cluster.mk y.metadata y.spec y.status = _
  rw [spec]
  exact congrArg (fun m => Cluster.mk m x.spec y.status) restored

/-- One that is the same but for its version differs in that only. -/
theorem exists_of_unversioned (same : y.unversioned = x.unversioned) : ∃ version,
    y = { x with metadata := { x.metadata with resourceVersion := version } } := by
  refine ⟨y.metadata.resourceVersion, ?_⟩
  have restored : y.metadata =
      { x.metadata with resourceVersion := y.metadata.resourceVersion } :=
    congrArg (fun z : Cluster => { z.metadata with
      resourceVersion := y.metadata.resourceVersion }) same
  have spec : y.unversioned.spec = x.unversioned.spec := congrArg Cluster.spec same
  have status := status_of_unversioned same
  change y.spec = x.spec at spec
  show Cluster.mk y.metadata y.spec y.status = _
  rw [spec, status]
  exact congrArg (fun m => Cluster.mk m x.spec x.status) restored

/-- What the operator writes makes no difference to where requests go. -/
theorem Addressed.congr (h : x.Addressed «namespace») (same : y.plain = x.plain) :
    y.Addressed «namespace» := by
  obtain ⟨annotations, version, status, rfl⟩ := exists_of_plain same
  exact ⟨h.inNamespace, h.cluster, h.document, h.material, h.service, h.statefulSet⟩

theorem Ready.congr {room : Nat} (h : x.Ready «namespace» images room certificate key s)
    (same : y.plain = x.plain) : y.Ready «namespace» images room certificate key s := by
  obtain ⟨annotations, version, status, rfl⟩ := exists_of_plain same
  refine ⟨⟨h.document, h.versions, h.material, ?_⟩, fun enabled => ?_⟩
  · exact ⟨h.deployable.service, h.deployable.serviceRoom, h.deployable.statefulSet,
      h.deployable.statefulSetRoom⟩
  · obtain ⟨provided, apartDocument, apartMaterial⟩ := h.provided enabled
    exact ⟨⟨provided.hasConfigMap, provided.hasSecret, provided.configMap, provided.secret⟩,
      apartDocument, apartMaterial⟩

/-- Room for more versions is room for fewer. -/
theorem Ready.mono {room room' : Nat} (h : x.Ready «namespace» images room certificate key s)
    (fewer : room' ≤ room) : x.Ready «namespace» images room' certificate key s := by
  obtain ⟨previous, isHeld, versions⟩ := h.versions
  refine ⟨⟨h.document, ⟨previous, isHeld, fun p mem => ?_⟩, h.material, h.deployable⟩, h.provided⟩
  have bound := versions p mem
  omega

/-- The version of the cluster makes no difference to a reconciliation. -/
theorem reconcileGuarded_of_unversioned (same : y.unversioned = x.unversioned) :
    y.reconcileGuarded images = x.reconcileGuarded images := by
  obtain ⟨version, rfl⟩ := exists_of_unversioned same
  rfl

/-- Once the marker is right the mode stays, unless it has just been set. -/
theorem mode_of_marked (spec : x.spec = c.spec) (marked : x.tlsRolledOut = c.spec.tls.enabled)
    (unstaged : ¬ c.Staging) :
    (x.descriptor «namespace»).mode = (c.descriptor «namespace»).mode := by
  rw [mode_descriptor, mode_descriptor, spec, marked]
  cases enabled : c.spec.tls.enabled with
  | false => rfl
  | true =>
    cases rolledOut : c.tlsRolledOut with
    | true => rfl
    | false => exact absurd ⟨enabled, rolledOut⟩ unstaged

/-- Once a reconciliation has reported what is live, nothing has to be changed. -/
theorem Attained.toSettled {d : Document} {action : Action} {room : Nat} {status : Option Json}
    (h : c.Attained «namespace» d.version action x) (unstaged : ¬ c.Staging)
    (shows : s'.Shows (c.ownKey «namespace») x)
    (ready : c.Ready «namespace» images room certificate key s')
    (upToDate : UpToDate c «namespace» (c.wanted «namespace» certificate key).apply
      (s'.objects.find? (c.documentSecret «namespace»)) d)
    (deployed : c.Deployed «namespace» images s status s')
    (holds : c.spec.tls.enabled = true →
      Material.Holds «namespace» c.operatorSecretName certificate key s') :
    x.Settled «namespace» images certificate key d.version s' := by
  have ready' := (ready.congr h.plain).mono (Nat.zero_le room)
  obtain ⟨-, marked, reported⟩ := h.settled unstaged
  have spec : x.spec = c.spec := spec_of_plain h.plain
  have mode : (x.descriptor «namespace»).mode = (c.descriptor «namespace»).mode :=
    mode_of_marked spec marked unstaged
  obtain ⟨annotations, version, st, rfl⟩ := exists_of_plain h.plain
  refine { toReady := ready', shows, marked, upToDate := ⟨d, rfl, ?_⟩, holds, service := ?_,
           statefulSet := ?_, reported := ?_ }
  · rw [wanted, mode]
    exact upToDate
  · exact deployed.service ▸ applied_applied _ _ _
  · exact deployed.statefulSet ▸ applied_applied _ _ _
  · rw [mode]
    exact reported

/-! ### Passes -/

/-- A cluster that is to be reconciled: it has the finalizer and is not being deleted. -/
structure Guarded (c : Cluster) : Prop where
  finalizer : finalizerName ∈ c.metadata.finalizers.getD []
  living : c.metadata.deletionTimestamp = none

theorem Guarded.congr (h : x.Guarded) (same : y.plain = x.plain) : y.Guarded := by
  obtain ⟨annotations, version, status, rfl⟩ := exists_of_plain same
  exact ⟨h.finalizer, h.living⟩

/-- The guard lets a reconciliation of such a cluster pass, and takes what it comes to. -/
theorem Guarded.reconcile_eq (h : c.Guarded) (addressed : c.Addressed «namespace»)
    (images : Images) :
    c.reconcileGuarded images =
      .measure (.reconciliation "mongodbcluster")
        ((((c.reconcile images).mapFailure .apply).attempt : Program Failure _).bind
          fun r => .ofExcept (finalizeOutcome r)) := by
  obtain ⟨i, found⟩ : ∃ i, (c.metadata.finalizers.getD []).idxOf? finalizerName = some i := by
    refine Option.isSome_iff_exists.1 (Option.isSome_iff_ne_none.2 fun absent => ?_)
    exact List.idxOf?_eq_none_iff.1 absent h.finalizer
  have finalize : c.finalize «namespace» images = (c.reconcile images).mapFailure .apply := by
    rw [Cluster.finalize, found, h.living]
    rfl
  rw [reconcileGuarded, addressed.namespaced, ← finalize]
  rfl

/-- What a reconciliation achieves it achieves behind the guard. -/
theorem Guarded.achieves {post : List Exchange → Action → Server → Prop} (h : c.Guarded)
    (addressed : c.Addressed «namespace») (inner : (c.reconcile images).Achieves meets s post) :
    (c.reconcileGuarded images).Achieves meets s post := by
  rw [h.reconcile_eq addressed]
  refine .measure ((inner.mapFailure.attempt).bind ?_)
  rintro es _ s₁ ⟨action, rfl, holds⟩
  exact .done (by rwa [List.append_nil])

theorem Guarded.delivers {kind : Request → Prop} {post : Action → Server → Prop}
    (h : c.Guarded) (addressed : c.Addressed «namespace»)
    (inner : (c.reconcile images).Delivers meets kind s post) :
    (c.reconcileGuarded images).Delivers meets kind s post :=
  h.achieves addressed inner

/-- A pass: the cluster that is stored under a key is reconciled. -/
def Pass (meets : Exchange → Prop) (own : ObjectKey) (images : Images) (s : Server)
    (es : List Exchange) (o : Outcome Failure Action) (s' : Server) : Prop :=
  ∃ object, s.objects.find? own = some object ∧
    ((format.read object).reconcileGuarded images).Runs meets s es o s'

/-- A number of passes one after another. -/
inductive Passes (meets : Exchange → Prop) (own : ObjectKey) (images : Images) (s : Server) :
    Nat → Server → Prop
  | start : Passes meets own images s 0 s
  | next {n : Nat} {s₁ s₂ : Server} {es : List Exchange} {o : Outcome Failure Action}
    (before : Passes meets own images s n s₁) (pass : Pass meets own images s₁ es o s₂) :
    Passes meets own images s (n + 1) s₂

section

variable (addressed : c.Addressed «namespace») (guarded : c.Guarded)
  (settles : ∀ e, meets e → e.Settles c.spec.members) {es : List Exchange}
  {o : Outcome Failure Action}

include addressed guarded settles

/-- A pass from a server that is ready ends with the marker right, and if it was right before with
nothing left to be changed. -/
theorem Ready.pass {room : Nat} (small : room ≤ 0x7ffffffffffffffe)
    (h : c.Ready «namespace» images (room + 1) certificate key s)
    (shows : s.Shows (c.ownKey «namespace») c)
    (pass : Pass meets (c.ownKey «namespace») images s es o s') :
    (∃ action, o = .done action) ∧ ∃ x, x.plain = c.plain ∧
      s'.Shows (c.ownKey «namespace») x ∧
      x.Ready «namespace» images room certificate key s' ∧ ¬ x.Staging ∧
      (¬ c.Staging → ∃ version, x.Settled «namespace» images certificate key version s') := by
  obtain ⟨object, there, run⟩ := pass
  have started := shows
  obtain ⟨object', there', -, read⟩ := started
  -- what is reconciled is read from the object that shows the cluster
  obtain rfl := Option.some.inj (there.symm.trans there')
  rw [reconcileGuarded_of_unversioned read] at run
  obtain ⟨action, isDone, -, x, d, status, shown, attained, ready, upToDate, deployed, holds⟩ :=
    guarded.delivers addressed (reconcile_delivers addressed settles small shows h) es o s' run
  have ready' := ready.congr attained.plain
  have spec : x.spec = c.spec := spec_of_plain attained.plain
  refine ⟨⟨action, isDone⟩, x, attained.plain, shown, ready', ?_, fun unstaged => ?_⟩
  · rintro ⟨enabled, rolledOut⟩
    by_cases before : c.Staging
    · rw [(attained.staging before).2] at rolledOut
      cases rolledOut
    · rw [(attained.settled before).2.1, ← spec, enabled] at rolledOut
      cases rolledOut
  · exact ⟨d.version, attained.toSettled unstaged shown ready upToDate deployed holds⟩

/-- A pass from a server on which nothing has to be changed changes nothing. -/
theorem Settled.pass (h : c.Settled «namespace» images certificate key version s)
    (pass : Pass meets (c.ownKey «namespace») images s es o s') :
    o = .done (.requeue idleRequeue) ∧
      (∀ e ∈ es, c.Routine «namespace» version e.request) ∧
      c.Settled «namespace» images certificate key version s' ∧ c.Steady «namespace» s s' := by
  obtain ⟨object, there, run⟩ := pass
  obtain ⟨object', there', -, read⟩ := h.shows
  obtain rfl := Option.some.inj (there.symm.trans there')
  rw [reconcileGuarded_of_unversioned read] at run
  obtain ⟨action, isDone, routine, rfl, settled, steady⟩ :=
    guarded.delivers addressed (h.reconcile_repeats addressed settles) es o s' run
  exact ⟨isDone, routine, settled, steady⟩

/-- Where passes have led: after one the marker is right, and after two nothing has to be
changed. -/
theorem Passes.stage (shows : s.Shows (c.ownKey «namespace») c)
    (ready : c.Ready «namespace» images 2 certificate key s) {n : Nat}
    (passes : Passes meets (c.ownKey «namespace») images s n s') :
    ∃ x, x.plain = c.plain ∧ s'.Shows (c.ownKey «namespace») x ∧
      ((∃ version, x.Settled «namespace» images certificate key version s') ∨
        n ≤ 1 ∧ x.Ready «namespace» images (2 - n) certificate key s' ∧ (n = 1 → ¬ x.Staging)) := by
  -- by induction on the passes, which are counted
  induction passes with
  | start => exact ⟨c, rfl, shows, .inr ⟨by omega, ready, fun h => by cases h⟩⟩
  | @next n s₁ s₂ es o before pass ih =>
    obtain ⟨x, isPlain, shown, stage⟩ := ih
    have addressed' := addressed.congr isPlain
    have guarded' := guarded.congr isPlain
    have spec : x.spec = c.spec := spec_of_plain isPlain
    have settles' : ∀ e, meets e → e.Settles x.spec.members := by
      rw [spec]
      exact settles
    have own : x.ownKey «namespace» = c.ownKey «namespace» := ownKey_of_name (name_of_plain isPlain)
    rw [← own] at pass shown
    rcases stage with ⟨version, settled⟩ | ⟨small, isReady, unstaged⟩
    · -- there is nothing to be changed, and so it stays
      obtain ⟨-, -, settled', -⟩ := settled.pass addressed' guarded' settles' pass
      exact ⟨x, isPlain, own ▸ settled'.shows, .inl ⟨version, settled'⟩⟩
    · have more : 2 - n = (1 - n) + 1 := by omega
      rw [more] at isReady
      obtain ⟨-, y, isPlain', shown', isReady', unstaged', settled⟩ :=
        isReady.pass addressed' guarded' settles' (by omega) shown pass
      refine ⟨y, isPlain'.trans isPlain, own ▸ shown', ?_⟩
      -- the pass after the one that has set the marker is the last that changes anything
      by_cases first : n = 1
      · exact .inl (settled (unstaged first))
      · exact .inr ⟨by omega, (by rw [show 2 - (n + 1) = 1 - n by omega]; exact isReady'),
          fun _ => unstaged'⟩

/-- There can be any number of passes. -/
theorem exists_passes (total : ∀ s r, ∃ response after, meets ⟨s, r, response, after⟩)
    (shows : s.Shows (c.ownKey «namespace») c)
    (ready : c.Ready «namespace» images 2 certificate key s) (n : Nat) :
    ∃ s', Passes meets (c.ownKey «namespace») images s n s' := by
  induction n with
  | zero => exact ⟨s, .start⟩
  | succ n ih =>
    obtain ⟨s₁, before⟩ := ih
    obtain ⟨x, -, ⟨object, there, -⟩, -⟩ := before.stage addressed guarded settles shows ready
    obtain ⟨es, o, s₂, run⟩ :=
      Program.exists_runs total ((format.read object).reconcileGuarded images) s₁
    exact ⟨s₂, before.next ⟨object, there, run⟩⟩

end

/-- Where nothing is refused, there can be any number of passes, and after two of them the marker
and the modes are the ones that are asked for, and every further pass asks for nothing but what is
there. -/
theorem converges (addressed : c.Addressed «namespace») (guarded : c.Guarded)
    (shows : s.Shows (c.ownKey «namespace») c)
    (ready : c.Ready «namespace» images 2 certificate key s) :
    (∀ n, ∃ s', Passes (Exchange.Settles c.spec.members) (c.ownKey «namespace») images s n s') ∧
    ∀ n s', 2 ≤ n →
      Passes (Exchange.Settles c.spec.members) (c.ownKey «namespace») images s n s' →
      (∃ x, s'.Shows (c.ownKey «namespace») x ∧ x.tlsRolledOut = c.spec.tls.enabled) ∧
      ∃ d, held (s'.objects.find? (c.documentSecret «namespace»)) = .ok (some d) ∧
        (∀ p ∈ d.processes, p.tls.mode =
          .resolve c.spec.tls.enabled c.spec.tls.optional c.spec.tls.enabled) ∧
        ∀ es o s'',
          Pass (Exchange.Settles c.spec.members) (c.ownKey «namespace») images s' es o s'' →
          o = .done (.requeue idleRequeue) ∧
          (∀ e ∈ es, c.Routine «namespace» d.version e.request) ∧ c.Steady «namespace» s' s'' := by
  have settles (e : Exchange) (met : e.Settles c.spec.members) : e.Settles c.spec.members := met
  refine ⟨exists_passes addressed guarded settles (Exchange.exists_settles _) shows ready, ?_⟩
  intro n s' two passes
  obtain ⟨x, isPlain, shown, stage⟩ := passes.stage addressed guarded settles shows ready
  -- two passes are enough: the first sets or clears the marker, the second reports
  obtain ⟨version, settled⟩ : ∃ version, x.Settled «namespace» images certificate key version s' :=
    stage.resolve_right fun early => by omega
  have addressed' := addressed.congr isPlain
  have guarded' := guarded.congr isPlain
  -- the cluster on the server is the first one but for annotations, version and status
  obtain ⟨annotations, v, status, rfl⟩ := exists_of_plain isPlain
  refine ⟨⟨_, shown, settled.marked⟩, ?_⟩
  obtain ⟨d, rfl, e, isHeld, same, build⟩ := settled.upToDate
  refine ⟨e, isHeld, ?_, fun es o s'' pass => ?_⟩
  · intro p mem
    rw [Document.processes_of_same same] at mem
    rw [Configuration.settings_of_build build p mem, TlsSettings.mode_running]
    exact congrArg (TlsMode.resolve c.spec.tls.enabled c.spec.tls.optional) settled.marked
  · obtain ⟨isDone, routine, -, steady⟩ := settled.pass addressed' guarded' settles pass
    rw [Document.version_of_same same]
    exact ⟨isDone, routine, ⟨steady.cluster, steady.document, steady.material, steady.workload,
      steady.others⟩⟩

/-! ### A cluster that is new -/

/-- A new cluster with TLS, in an example, as it is stored. -/
def joiningObject : Json :=
  .object
    [("metadata", .object
      [("finalizers", .array [.string finalizerName]), ("name", .string "db"),
       ("namespace", .string "prod")]),
     ("spec", .object
      [("security", .object
        [("tls", .object
          [("caConfigMapRef", .object [("name", .string "authority")]),
           ("certificateKeySecretRef", .object [("name", .string "certificate")]),
           ("enabled", .bool true)])])])]

/-- The cluster. -/
def joining : Cluster where
  metadata :=
    { name := some "db", «namespace» := some "prod", finalizers := some [finalizerName] }
  spec := { tls :=
    { enabled := true, certificateKeySecret := "certificate", caConfigMap := "authority" } }

/-- A server with the cluster and the user's material. -/
def joiningServer : Server where
  objects :=
    [(⟨"ConfigMap", "prod", "authority"⟩,
      .object [("data", .object [("ca.crt", .string "authority")])]),
     (⟨"Secret", "prod", "certificate"⟩, .object
      [("data", .object [("tls.crt", .string "Y2VydA=="), ("tls.key", .string "a2V5")])]),
     (joining.ownKey "prod", joiningObject)]

/-- The cluster of the example is stored. -/
theorem shows_joining : joiningServer.Shows (joining.ownKey "prod") joining := by
  refine ⟨joiningObject, rfl, ⟨⟨_, rfl, by unfold Json.Ascending; decide⟩, rfl, ?_⟩, rfl⟩
  rintro v ⟨⟩

theorem ready_joining (room : Nat) :
    joining.Ready "prod" {} room [99, 101, 114, 116] [107, 101, 121] joiningServer where
  document := .none
  versions := ⟨none, rfl, by rintro p ⟨⟩⟩
  material := .none
  deployable := ⟨by rintro j ⟨⟩, by rintro j ⟨⟩, by rintro j ⟨⟩, by rintro j ⟨⟩⟩
  provided _ :=
    ⟨⟨by decide, by decide, ⟨{ data := some [("ca.crt", "authority")] }, "authority", rfl, rfl⟩,
      rfl⟩, Material.apart_of_ne (by decide) (by decide),
      Material.apart_of_ne (by decide) (by decide)⟩

theorem addressed_joining : joining.Addressed "prod" :=
  ⟨rfl, by decide, by decide, by decide, by decide, by decide⟩

/-- The first reconciliation of the new cluster marks the rollout. -/
theorem exists_staged_joining (room : Nat) (small : room ≤ 0x7ffffffffffffffe) :
    ∃ es action s object y status,
      (joining.reconcile {}).Runs (Exchange.Settles 3) joiningServer es (.done action) s ∧
      s.objects.find? (joining.ownKey "prod") = some object ∧ format.read object = y ∧
      s.Shows (joining.ownKey "prod") y ∧ y.plain = joining.plain ∧ y.tlsRolledOut = true ∧
      joining.Ready "prod" {} room [99, 101, 114, 116] [107, 101, 121] s ∧
      joining.Deployed "prod" {} joiningServer status s := by
  have settles (e : Exchange) (met : e.Settles 3) : e.Settles joining.spec.members := met
  obtain ⟨es, action, s, run, -, x, d, status, shows, attained, ready, -, deployed, -⟩ :=
    (reconcile_delivers addressed_joining settles small shows_joining
      (ready_joining (room + 1))).exists_run (Exchange.exists_settles 3)
  have shown := shows
  obtain ⟨object, there, -, read⟩ := shown
  have plain : (format.read object).plain = joining.plain :=
    (congrArg Cluster.plain read).trans attained.plain
  have marked : (format.read object).tlsRolledOut = true :=
    (congrArg Cluster.tlsRolledOut read).trans (attained.staging ⟨rfl, rfl⟩).2
  exact ⟨es, action, s, object, _, status, run, there, rfl, shows.of_read read.symm, plain, marked,
    ready, deployed⟩

/-- Two passes bring a new cluster to its end. -/
theorem converges_joining : ∃ s',
    Passes (Exchange.Settles 3) (joining.ownKey "prod") {} joiningServer 2 s' ∧
    (∃ x, s'.Shows (joining.ownKey "prod") x ∧ x.tlsRolledOut = true) ∧
    ∃ d, held (s'.objects.find? (joining.documentSecret "prod")) = .ok (some d) ∧
      ∀ p ∈ d.processes, p.tls.mode = .required := by
  obtain ⟨passes, ends⟩ :=
    converges addressed_joining ⟨by decide, rfl⟩ shows_joining (ready_joining 2)
  obtain ⟨s', two⟩ := passes 2
  obtain ⟨marked, d, isHeld, modes, -⟩ := ends 2 s' (Nat.le_refl 2) two
  exact ⟨s', two, marked, d, isHeld, modes⟩

end Cluster

end ReplicaSetOperator
