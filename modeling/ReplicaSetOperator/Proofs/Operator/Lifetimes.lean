import ReplicaSetOperator.Proofs.Operator.Chronicles
import ReplicaSetOperator.Proofs.Operator.SparedSources
import ReplicaSetOperator.Proofs.Operator.StoredDocuments

/-!
# Phase and readiness in the lifetime of a cluster

The status tells twice whether a cluster is up, by its phase and by its condition of readiness. Each
is written on its own, and not everywhere where the other one is.

A lifetime begins with a cluster without a status. Users edit it, the members follow, and it is
reconciled as it is stored, where nothing is refused (`Cluster.Life`). One reconciliation makes of
phase and readiness one of four things (`Reconciliation.Tells`): it looks at the members and tells
both alike, or it leaves both alone, or it misses the user's material and takes back the phase only.
So both are a matter of what the reconciliations have found up to then (`Cluster.Life.follows`), and
they contradict each other exactly while material has been missed since the members were found ready
(`Cluster.Life.agrees_iff`). A reconciliation that comes to its end sorts that out, unless it stops
at the marker. So the contradiction does come about (`Cluster.exists_contradiction`).

What is done around the finalizer changes nothing of this (`Cluster.Life.reconcileGuarded`).
-/

namespace ReplicaSetOperator

open ReplicaSetOperator.Configuration (KeptUnder)

/-! ### What the status tells -/

namespace Cluster

variable {c x y : Cluster} {«namespace» : String} {s s' : Server}

/-- The status says that the cluster runs. -/
def SaysRunning (c : Cluster) : Prop := (c.status.getD {}).phase = some Phase.running.label

/-- The status says that the members are ready. -/
def SaysReady (c : Cluster) : Prop :=
  Condition.isTrue readyCondition (c.status.getD {}).conditions = true

/-- Whether the cluster is said to run is a matter of the status. -/
theorem saysRunning_congr (same : y.status = x.status) : y.SaysRunning ↔ x.SaysRunning := by
  rw [SaysRunning, SaysRunning, same]

theorem saysReady_congr (same : y.status = x.status) : y.SaysReady ↔ x.SaysReady := by
  rw [SaysReady, SaysReady, same]

/-- A cluster without a status says nothing. -/
theorem not_saysRunning_of_none (absent : x.status = none) : ¬ x.SaysRunning := by
  rw [SaysRunning, absent]
  rintro ⟨⟩

/-- Without a status nothing is said to be ready. -/
theorem not_saysReady_of_none (absent : x.status = none) : ¬ x.SaysReady := by
  rw [SaysReady, absent]
  rintro ⟨⟩

/-- To announce a cluster as it is stored does not make it run. -/
theorem saysRunning_announced :
    ({ x with status := x.announcedStatus x.status } : Cluster).SaysRunning ↔ x.SaysRunning := by
  unfold announcedStatus
  split
  · rfl
  · next absent =>
    have absent : x.status = none := by simpa using absent
    refine iff_of_false ?_ (not_saysRunning_of_none absent)
    show some Phase.creating.label ≠ some Phase.running.label
    decide

/-- The announcement does not change what is said of readiness. -/
theorem saysReady_announced :
    ({ x with status := c.announcedStatus x.status } : Cluster).SaysReady ↔ x.SaysReady := by
  rw [SaysReady, SaysReady]
  exact Eq.congr_left (Condition.isTrue_congr (congrArg _ conditions_announced))

end Cluster

/-! ### One reconciliation -/

namespace Reconciliation

/-- The reconciliation has found all members ready, and rests. -/
def FindsReady (r : Reconciliation) : Prop := r.outcome = .done (.requeue idleRequeue)

/-- The reconciliation has found that members are still being updated. -/
def FindsUpdating (r : Reconciliation) : Prop := r.outcome = .done (.requeue rolloutRequeue)

/-- The reconciliation misses material that the cluster needs. -/
def Lacks («namespace» : String) (r : Reconciliation) : Prop :=
  r.cluster.Lacks «namespace» r.before

/-- What a reconciliation makes of phase and readiness. -/
inductive Tells («namespace» : String) (r : Reconciliation) (x y : Cluster) : Prop
  | ready (provided : ¬ r.Lacks «namespace») (found : r.FindsReady) (running : y.SaysRunning)
    (ready : y.SaysReady)
  | updating (provided : ¬ r.Lacks «namespace») (found : r.FindsUpdating)
    (running : ¬ y.SaysRunning) (ready : ¬ y.SaysReady)
  | lacking (lacks : r.Lacks «namespace») (fails : ∀ action, r.outcome ≠ .done action)
    (running : ¬ y.SaysRunning) (ready : y.SaysReady ↔ x.SaysReady)
  | silent (provided : ¬ r.Lacks «namespace»)
    (marks : ∀ action, r.outcome = .done action → action = .requeue markerRequeue)
    (running : y.SaysRunning ↔ x.SaysRunning) (ready : y.SaysReady ↔ x.SaysReady)

variable {«namespace» : String} {r : Reconciliation} {x y : Cluster}

/-- Members that are being updated are not ready. -/
theorem FindsUpdating.not_findsReady (h : r.FindsUpdating) : ¬ r.FindsReady := by
  intro ready
  cases h.symm.trans ready

/-- One that has found something has come to its end, and not to the marker. -/
theorem not_finds_of_marks
    (marks : ∀ action, r.outcome = .done action → action = .requeue markerRequeue) :
    ¬ r.FindsReady ∧ ¬ r.FindsUpdating := by
  constructor
  · intro found
    cases marks _ found
  · intro found
    cases marks _ found

/-- A reconciliation that comes to its end finds something, unless it sets the marker. -/
theorem Tells.finds (h : r.Tells «namespace» x y) {action : Action}
    (ended : r.outcome = .done action) (apart : action ≠ .requeue markerRequeue) :
    r.FindsReady ∨ r.FindsUpdating := by
  cases h with
  | ready provided found running ready => exact .inl found
  | updating provided found running ready => exact .inr found
  | lacking lacks fails running ready => exact absurd ended (fails action)
  | silent provided marks running ready => exact absurd (marks action ended) apart

end Reconciliation

namespace Cluster

variable {c x y : Cluster} {«namespace» : String} {r : Reconciliation} {s s' : Server}
  {past : List Reconciliation}

/-- The two secrets are kept under their names, as far as they are there. -/
structure Housed (c : Cluster) («namespace» : String) (s : Server) : Prop where
  document : KeptUnder «namespace» c.configSecretName
    (s.objects.find? (c.documentSecret «namespace»))
  material : KeptUnder «namespace» c.operatorSecretName
    (s.objects.find? (c.materialSecret «namespace»))

/-- It is a matter of the name of the cluster. -/
theorem Housed.of_name (h : c.Housed «namespace» s) (same : x.name = c.name) :
    x.Housed «namespace» s where
  document := by
    rw [configSecretName, documentSecret_of_name same, same]
    exact h.document
  material := by
    rw [operatorSecretName, materialSecret_of_name same, same]
    exact h.material

/-- What is read of the cluster on a server has its name. -/
structure Found (c : Cluster) («namespace» : String) (s : Server) (x : Cluster) : Prop where
  named : x.name = c.name
  inNamespace : x.metadata.namespace = some «namespace»
  shows : s.Shows (c.ownKey «namespace») x

/-- The cluster has been reconciled as it was stored, and nothing has been refused. -/
structure Visited (c : Cluster) («namespace» : String) (r : Reconciliation) : Prop
    extends c.Found «namespace» r.before r.cluster where
  runs : (r.cluster.reconcile r.images).Runs (Exchange.Grants fun _ _ _ => True) r.before
    r.exchanges r.outcome r.after

/-- What has not come to the stateful set is silent, unless material is missing. -/
theorem Gathers.tells {o : Outcome Failure (Document × StatefulSet)}
    (h : r.cluster.Gathers «namespace» r.before o
      { r.cluster with status := r.cluster.announcedStatus r.cluster.status } y)
    (stopped : ∀ action, r.outcome ≠ .done action) : r.Tells «namespace» r.cluster y := by
  cases h with
  | @lacking m status lacks retries phase told others =>
    refine .lacking lacks stopped ?_ ?_
    · show status.phase ≠ _
      rw [phase]
      decide
    · have same := Condition.isTrue_congr (others readyCondition (by decide))
      exact (Eq.congr_left same).trans saysReady_announced
  | provided provided final =>
    exact .silent provided (fun action ended => absurd ended (stopped action))
      saysRunning_announced saysReady_announced

/-- What the answer to the stateful set decides is told, unless the marker is set. -/
theorem Ends.tells {version : Int64} {a : StatefulSet} {es : List Exchange} {action : Action}
    (h : r.cluster.Ends «namespace»
      { r.cluster with status := r.cluster.announcedStatus r.cluster.status } version a es action s)
    (provided : ¬ r.Lacks «namespace») (ended : r.outcome = .done action) :
    ∃ y, s.Shows (r.cluster.ownKey «namespace») y ∧ y.plain = r.cluster.plain ∧
      r.Tells «namespace» r.cluster y := by
  cases h with
  | marked due marks tells shows isMarked =>
    refine ⟨_, shows, rfl, .silent provided ?_ saysRunning_announced saysReady_announced⟩
    exact fun action ends => Outcome.done.inj (ends.symm.trans ended)
  | @updating _ z status _ waits plain shows updates =>
    refine ⟨_, shows, plain, .updating provided ended ?_ ?_⟩
    · show status.phase ≠ _
      rw [updates.phase]
      decide
    · show ¬ Condition.isTrue _ status.conditions = true
      rw [updates.ready.isTrue]
      decide
  | running idle rolledOut plain shows reports =>
    exact ⟨_, shows, plain, .ready provided ended reports.phase reports.ready.isTrue⟩

section

variable (h : c.Visited «namespace» r) (addressed : c.Addressed «namespace»)

include h addressed

/-- The secrets are still kept under their names. -/
theorem Visited.housed (before : c.Housed «namespace» r.before) :
    c.Housed «namespace» r.after := by
  have addressed := addressed.of_name h.named h.inNamespace
  have before := before.of_name h.named
  have tracked := h.runs.mono fun _ => Exchange.Grants.tracked
  obtain ⟨document, material⟩ := (reconcile_course addressed before.document before.material
    _ _ _ tracked).kept tracked.met
  exact Housed.of_name (c := r.cluster) ⟨document, material⟩ h.named.symm

/-- Every reconciliation makes one of four things of phase and readiness, and changes nothing of the
cluster but what is the operator's. -/
theorem Visited.tells (housed : c.Housed «namespace» r.before) :
    ∃ y, r.after.Shows (c.ownKey «namespace») y ∧ y.plain = r.cluster.plain ∧
      r.Tells «namespace» r.cluster y := by
  have addressed := addressed.of_name h.named h.inNamespace
  have housed := housed.of_name h.named
  have shows := h.shows
  rw [← ownKey_of_name h.named] at shows ⊢
  -- up to the stateful set nothing is told but that material is missing
  have gathers : (r.cluster.established «namespace» r.images).Ensures
      (Exchange.Grants fun _ _ _ => True) r.before fun _ o s' =>
        ∃ y, s'.Shows (r.cluster.ownKey «namespace») y ∧
          r.cluster.Gathers «namespace» r.before o
            { r.cluster with status := r.cluster.announcedStatus r.cluster.status } y :=
    established_gathers addressed housed.document housed.material shows fun e grants => grants
  have run := h.runs
  rw [reconcile_eq_established addressed] at run
  rcases run.of_bind with
    ⟨es₁, made, s₁, es₂, first, second, -⟩ | ⟨f, first, isEnd⟩ | ⟨first, isEnd⟩
  · -- the answer to the stateful set decides
    obtain ⟨y, shows₁, told⟩ := gathers _ _ _ first
    obtain ⟨rfl, provided⟩ := told.of_done
    obtain ⟨action, isEnd, ends⟩ := settled_ends addressed
      (fun e (grants : e.Grants fun _ _ _ => True) isType =>
        grants.served (by rw [isType]; decide))
      (fun e grants isType => grants.served (by rw [isType]; decide)) shows₁ _ _ _ second
    exact ends.tells provided isEnd
  · obtain ⟨y, shows', told⟩ := gathers _ _ _ first
    obtain ⟨status, rfl⟩ := told.subdued.others
    refine ⟨_, shows', rfl, told.tells fun action ended => ?_⟩
    cases isEnd.symm.trans ended
  · obtain ⟨y, shows', told⟩ := gathers _ _ _ first
    obtain ⟨status, rfl⟩ := told.subdued.others
    refine ⟨_, shows', rfl, told.tells fun action ended => ?_⟩
    cases isEnd.symm.trans ended

end

end Cluster

/-! ### Without the finalizer -/

namespace Cluster

variable {c : Cluster} {«namespace» : String} {s s' : Server}

/-- The status of a stored cluster is read from one of its members. -/
theorem status_of_get? {i j : Json} (isObject : ∃ ms, i = .object ms)
    (isObject' : ∃ ms, j = .object ms) (same : i.get? "status" = j.get? "status") :
    (format.read i).status = (format.read j).status := by
  obtain ⟨ms, rfl⟩ := isObject
  obtain ⟨ms', rfl⟩ := isObject'
  show (((Json.object ms).get? "status").map ClusterStatus.format.option.read).getD none = _
  rw [same]
  rfl

/-- The status of an object, if it is still there, is the one of another object. -/
def KeepsStatus (own : ObjectKey) (old : Json) (s : Server) : Prop :=
  ∀ object, s.objects.find? own = some object →
    (∃ ms, object = .object ms) ∧ object.get? "status" = old.get? "status"

section

variable (addressed : c.Addressed «namespace»)

include addressed

/-- To change the finalizers of a cluster leaves its status alone, and so does an event. -/
theorem Custodial.keepsStatus {e : Exchange} (h : c.Custodial «namespace» e.request)
    (served : e.Served) {old : Json} (before : KeepsStatus (c.ownKey «namespace») old e.before) :
    KeepsStatus (c.ownKey «namespace») old e.after := by
  have plainNamespace := addressed.cluster.plainNamespace
  have after : (e.before.serve e.request).1 = e.after := served.after_eq.symm
  have patched {operations : List PatchOperation} (describing : ∀ o ∈ operations, o.Describing)
      (arrives : Request.about? .json Cluster.type «namespace» c.name (.patch operations) false =
        some e.request) : KeepsStatus (c.ownKey «namespace») old e.after := by
    have about : Server.key e.request = c.ownKey «namespace» :=
      Request.key_of_about? (by decide) (by decide) plainNamespace addressed.cluster.plainName
        arrives
    obtain ⟨verb, isType⟩ :=
      Request.type_of_about? (by decide) (by decide) plainNamespace arrives
    have isPatch : e.before.serve e.request = e.before.patch e.request operations :=
      Server.serve_eq_patch (by rw [isType]; decide) verb (Request.payload_of_about? arrives)
    intro object there
    rw [← after, isPatch, ← about] at there
    -- a patch of the finalizers changes what is in the metadata alone
    obtain ⟨object', there', shape, same⟩ := Server.find?_patch describing there
    obtain ⟨isObject, status⟩ := before object' (about ▸ there')
    refine ⟨?_, (same "status" (by decide)).trans status⟩
    rcases shape with rfl | isObject'
    · exact isObject
    · exact isObject'
  -- an event is about another object, and the others are patches
  cases h with
  | tells arrives =>
    have about := Request.key_of_creating? (by decide) (by decide) plainNamespace arrives
    intro object there
    rw [← after, Server.find?_serve_of_ne] at there
    · exact before object there
    · rw [about]
      exact ObjectKey.ne_of_kind (a := "MongoDBCluster") (b := "Event") rfl rfl (by decide)
  | guards arrives => exact patched (describing_addFinalizer _) arrives
  | releases arrives => exact patched (describing_removeFinalizer _) arrives

/-- So does a reconciliation that finds no finalizer, or a cluster that is to go away. -/
theorem keepsStatus_of_unguarded {images : Images} {es : List Exchange}
    {o : Outcome Failure Action} (unguarded : ¬ c.Guarded)
    {answers : Json → Option Json → Option Json → Prop}
    (run : (c.reconcileGuarded images).Runs (Exchange.Grants answers) s es o s') {old : Json}
    (before : KeepsStatus (c.ownKey «namespace») old s) :
    KeepsStatus (c.ownKey «namespace») old s' := by
  have custodial := custodial_of_unguarded unguarded run addressed.inNamespace
  refine run.links.preserves (KeepsStatus (c.ownKey «namespace») old)
    (fun e mem => (custodial e mem).keepsStatus addressed ?_) before
  -- nothing is applied
  refine (run.met e mem).serves fun ns name body same => ?_
  have applies : e.request.verb = .apply := by
    rw [same]
    rfl
  rcases (custodial e mem).verb with verb | verb
  · cases applies.symm.trans verb
  · cases applies.symm.trans verb

end

end Cluster

/-! ### A lifetime -/

namespace Reconciliation

variable {«namespace» : String} {r : Reconciliation} {past : List Reconciliation}

/-- The members were ready when one of some reconciliations, the last one first, has last looked at
them. -/
def LastReady : List Reconciliation → Prop
  | [] => False
  | r :: past => r.FindsReady ∨ ¬ r.FindsUpdating ∧ LastReady past

/-- Since one of some reconciliations, the last one first, has last looked at the members, material
has been missed. -/
def LackingSince («namespace» : String) : List Reconciliation → Prop
  | [] => False
  | r :: past => ¬ r.FindsReady ∧ ¬ r.FindsUpdating ∧
      (r.Lacks «namespace» ∨ LackingSince «namespace» past)

/-- Nothing has been missed lately where nothing is missed at all. -/
theorem not_lackingSince (provided : ∀ r ∈ past, ¬ r.Lacks «namespace») :
    ¬ LackingSince «namespace» past := by
  induction past with
  | nil => exact id
  | cons r past ih =>
    obtain ⟨first, others⟩ := List.forall_mem_cons.1 provided
    rintro ⟨-, -, lacks | since⟩
    · exact first lacks
    · exact ih others since

end Reconciliation

open Reconciliation (LastReady LackingSince)

namespace Cluster

variable {c x y : Cluster} {«namespace» : String} {r : Reconciliation} {s s' : Server}
  {past : List Reconciliation}

/-- Phase and readiness are what the reconciliations up to now have told last. The phase is taken
back where material is missed. -/
structure Follows (x : Cluster) («namespace» : String) (past : List Reconciliation) : Prop where
  running : x.SaysRunning ↔ LastReady past ∧ ¬ LackingSince «namespace» past
  ready : x.SaysReady ↔ LastReady past

/-- A new cluster has nothing to follow. -/
theorem follows_of_none (absent : x.status = none) : x.Follows «namespace» [] where
  running := iff_of_false (not_saysRunning_of_none absent) And.left
  ready := iff_of_false (not_saysReady_of_none absent) id

theorem Follows.congr (h : x.Follows «namespace» past) (same : y.status = x.status) :
    y.Follows «namespace» past where
  running := (saysRunning_congr same).trans h.running
  ready := (saysReady_congr same).trans h.ready

/-- What one reconciliation tells carries on what those before it have told. -/
theorem Follows.step (h : x.Follows «namespace» past) (told : r.Tells «namespace» x y) :
    y.Follows «namespace» (r :: past) := by
  -- one case for each thing that a reconciliation can tell
  cases told with
  | ready provided found running ready =>
    exact ⟨iff_of_true running ⟨.inl found, fun since => since.1 found⟩,
      iff_of_true ready (.inl found)⟩
  | updating provided found running ready =>
    have last : ¬ LastReady (r :: past) := by
      rintro (isReady | ⟨current, -⟩)
      · exact found.not_findsReady isReady
      · exact current found
    exact ⟨iff_of_false running fun told => last told.1, iff_of_false ready last⟩
  | lacking lacks fails running ready =>
    -- readiness still is what the members were found to be last
    obtain ⟨unready, current⟩ :=
      Reconciliation.not_finds_of_marks fun action ended => absurd ended (fails action)
    refine ⟨iff_of_false running fun told => told.2 ⟨unready, current, .inl lacks⟩, ?_⟩
    rw [ready, h.ready]
    simp [LastReady, unready, current]
  | silent provided marks running ready =>
    obtain ⟨unready, current⟩ := Reconciliation.not_finds_of_marks marks
    constructor
    · rw [running, h.running]
      simp [LastReady, LackingSince, provided, unready, current]
    · rw [ready, h.ready]
      simp [LastReady, unready, current]

/-- A server with a cluster that has no status yet. -/
structure Created (c : Cluster) («namespace» : String) (s : Server) : Prop
    extends c.Housed «namespace» s where
  unreported : ∀ object, s.objects.find? (c.ownKey «namespace») = some object →
    (format.read object).status = none

/-- Anything has changed, but the status of the cluster, if it is still there, is for the operator
to write. -/
structure Altered (c : Cluster) («namespace» : String) (s s' : Server) : Prop
    extends c.Housed «namespace» s' where
  status : ∀ object', s'.objects.find? (c.ownKey «namespace») = some object' →
    ∃ object, s.objects.find? (c.ownKey «namespace») = some object ∧
      (format.read object').status = (format.read object).status

/-- What becomes of a server in the lifetime of a cluster, with the reconciliations since the
cluster has been created, the last one first. A cluster that is created again begins another
lifetime. -/
inductive Life (c : Cluster) («namespace» : String) : List Reconciliation → Server → Prop
  | create {s : Server} (created : c.Created «namespace» s) : Life c «namespace» [] s
  | alter {past : List Reconciliation} {s s' : Server} (before : Life c «namespace» past s)
    (altered : c.Altered «namespace» s s') : Life c «namespace» past s'
  | reconcile {past : List Reconciliation} {r : Reconciliation}
    (before : Life c «namespace» past r.before) (visited : c.Visited «namespace» r) :
    Life c «namespace» (r :: past) r.after

namespace Life

variable (h : c.Life «namespace» past s) (addressed : c.Addressed «namespace»)

include h addressed

/-- At all times the objects of the cluster are housed. -/
theorem housed : c.Housed «namespace» s := by
  induction h with
  | create created => exact created.toHoused
  | alter before altered ih => exact altered.toHoused
  | reconcile before visited ih => exact visited.housed addressed ih

/-- At all times phase and readiness are what the reconciliations have told last. -/
theorem follows {object : Json} (there : s.objects.find? (c.ownKey «namespace») = some object) :
    (format.read object).Follows «namespace» past := by
  -- on the lifetime; users leave the status alone, and each reconciliation is a step
  induction h generalizing object with
  | create created => exact follows_of_none (created.unreported object there)
  | alter before altered ih =>
    obtain ⟨old, isOld, same⟩ := altered.status object there
    exact (ih isOld).congr same
  | reconcile before visited ih =>
    obtain ⟨old, isOld, -, read⟩ := visited.shows
    obtain ⟨y, ⟨object', there', -, read'⟩, -, told⟩ :=
      visited.tells addressed (before.housed addressed)
    obtain rfl := Option.some.inj (there.symm.trans there')
    have follows := (ih isOld).congr (status_of_unversioned read).symm
    exact (follows.step told).congr (status_of_unversioned read')

/-- A reconciliation that has come to its end has found something, unless it has set the marker. -/
theorem finds {early : List Reconciliation} (last : past = r :: early) {action : Action}
    (ended : r.outcome = .done action) (apart : action ≠ .requeue markerRequeue) :
    r.FindsReady ∨ r.FindsUpdating := by
  induction h with
  | create created => cases last
  | alter before altered ih => exact ih last
  | reconcile before visited ih =>
    cases last
    obtain ⟨y, -, -, told⟩ := visited.tells addressed (before.housed addressed)
    exact told.finds ended apart

/-- Around the finalizer a reconciliation is one of the kind above, or it alters nothing of the
status. -/
theorem reconcileGuarded {images : Images} {es : List Exchange} {o : Outcome Failure Action}
    (found : c.Found «namespace» s x)
    (run : (x.reconcileGuarded images).Runs (Exchange.Grants fun _ _ _ => True) s es o s') :
    c.Life «namespace» past s' ∨ ∃ r, c.Life «namespace» (r :: past) s' ∧ r.cluster = x ∧
      o = r.outcome.guarded := by
  have addressed' := addressed.of_name found.named found.inNamespace
  by_cases guarded : x.Guarded
  · obtain ⟨o', inner, isEnd⟩ := guarded.runs addressed' run
    have visited : c.Visited «namespace» ⟨x, images, s, es, o', s'⟩ := ⟨found, inner⟩
    exact .inr ⟨_, h.reconcile visited, rfl, isEnd⟩
  · -- the finalizer is put on or taken off, which leaves secrets and status alone
    have same (name : String) := same_of_unguarded guarded run addressed'
      (fun _ grants => grants.tracked.sparing) (k := Configuration.secretKey «namespace» name)
      secretKind.1 secretKind.2
    have housed := h.housed addressed
    obtain ⟨old, isOld, whole, read⟩ := found.shows
    obtain ⟨ms, isObject, -⟩ := whole.sorted
    have before : KeepsStatus (x.ownKey «namespace») old s := by
      rw [ownKey_of_name found.named]
      intro object there
      obtain rfl := Option.some.inj (isOld.symm.trans there)
      exact ⟨⟨ms, isObject⟩, rfl⟩
    have after := keepsStatus_of_unguarded addressed' guarded run before
    rw [ownKey_of_name found.named] at after
    refine .inl (h.alter ⟨⟨(same _).symm ▸ housed.document, (same _).symm ▸ housed.material⟩, ?_⟩)
    intro object there
    obtain ⟨isObject', status⟩ := after object there
    exact ⟨old, isOld, status_of_get? isObject' ⟨ms, isObject⟩ status⟩

end Life

/-! ### A cluster that runs -/

/-- A round, of a cluster with the names of its key, is a part of a lifetime. -/
theorem Round.visited {counted : List Measurement} (h : c.Round «namespace» r counted)
    (addressed : c.Addressed «namespace») (plain : r.cluster.plain = c.plain)
    (shows : r.before.Shows (c.ownKey «namespace») x) : c.Visited «namespace» r := by
  obtain ⟨js, logs, isExchanges, -⟩ := h.logs
  obtain ⟨object, there, isRead⟩ := h.stored
  obtain ⟨object', there', whole, read⟩ := shows
  obtain rfl := Option.some.inj (there.symm.trans there')
  exact { named := name_of_plain plain
          inNamespace := (addressed.congr plain).inNamespace
          shows := ⟨object, there, whole, congrArg unversioned isRead⟩
          runs := isExchanges ▸ logs.runs }

/-- The example begins with a cluster that has just been created. -/
theorem created_joining : joining.Created "prod" joiningServer where
  document := by rintro j ⟨⟩
  material := by rintro j ⟨⟩
  unreported := by
    rintro object ⟨⟩
    rfl

/-- The second reconciliation of a new cluster whose members follow at once reports that it runs. -/
theorem exists_running_joining : ∃ past s x,
    joining.Life "prod" past s ∧ s.Shows (joining.ownKey "prod") x ∧ x.plain = joining.plain ∧
    x.SaysRunning ∧ LastReady past ∧
    joining.Ready "prod" {} 1 [99, 101, 114, 116] [107, 101, 121] s := by
  obtain ⟨r₁, counted₁, y₁, r₂, counted₂, y₂, status, round₁, start₁, plain₁, shows₁, round₂,
    start₂, plain₂, -, ended, shows₂, plain, isStatus, phase, ready⟩ := exists_rounds_joining
  have life₁ : joining.Life "prod" [r₁] r₁.after :=
    .reconcile (start₁ ▸ .create created_joining)
      (round₁.visited addressed_joining plain₁ (start₁ ▸ shows_joining))
  have running : y₂.SaysRunning := by
    rw [SaysRunning, isStatus]
    exact phase
  exact ⟨[r₂, r₁], r₂.after, y₂, .reconcile (start₂ ▸ life₁)
    (round₂.visited addressed_joining plain₂ (start₂ ▸ shows₁)), shows₂, plain, running,
    .inl ended, ready⟩

/-- At all times a cluster that is reported to run is reported to be ready. The converse holds too,
unless the members were ready when a reconciliation last looked at them and the user's material has
been missed since. So phase and readiness always agree where it is never missed, and they agree
after every reconciliation that has come to its end, unless that has set the marker. -/
theorem Life.agrees_iff (h : c.Life «namespace» past s) (addressed : c.Addressed «namespace»)
    {object : Json} (there : s.objects.find? (c.ownKey «namespace») = some object) :
    ((format.read object).SaysRunning → (format.read object).SaysReady) ∧
    (((format.read object).SaysRunning ↔ (format.read object).SaysReady) ↔
      ¬ (LastReady past ∧ LackingSince «namespace» past)) ∧
    ((∀ r ∈ past, ¬ r.Lacks «namespace») →
      ((format.read object).SaysRunning ↔ (format.read object).SaysReady)) ∧
    (∀ r early action, past = r :: early → r.outcome = .done action →
      action ≠ .requeue markerRequeue →
      ((format.read object).SaysRunning ↔ (format.read object).SaysReady)) := by
  have follows := h.follows addressed there
  rw [follows.running, follows.ready]
  have agrees : (LastReady past ∧ ¬ LackingSince «namespace» past ↔ LastReady past) ↔
      ¬ (LastReady past ∧ LackingSince «namespace» past) := by
    constructor
    · exact fun same both => (same.2 both.1).2 both.2
    · exact fun never => ⟨And.left, fun last => ⟨last, fun since => never ⟨last, since⟩⟩⟩
  refine ⟨And.left, agrees, fun provided => ?_, ?_⟩
  · exact agrees.2 fun contradicts => Reconciliation.not_lackingSince provided contradicts.2
  · rintro r early action rfl ended apart
    -- who comes to the end finds the members ready, or sees that they are not, which ends the lack
    have found := h.finds addressed rfl ended apart
    refine agrees.2 fun contradicts => ?_
    obtain ⟨unready, current, -⟩ := contradicts.2
    exact found.elim unready current

/-- It is ready as well. -/
theorem agrees_joining : ∃ past s object,
    joining.Life "prod" past s ∧ s.objects.find? (joining.ownKey "prod") = some object ∧
    (format.read object).SaysRunning ∧ (format.read object).SaysReady := by
  obtain ⟨past, s, x, life, ⟨object, there, -, read⟩, -, running, -⟩ := exists_running_joining
  obtain ⟨ready, -⟩ := life.agrees_iff addressed_joining there
  have running := (saysRunning_congr (status_of_unversioned read)).2 running
  exact ⟨past, s, object, life, there, running, ready running⟩

/-! ### A contradiction -/

/-- A config map that is named and not there is missed. -/
theorem lacks_of_absent (enabled : c.spec.tls.enabled = true) (named : c.spec.tls.caConfigMap ≠ "")
    (plain : Request.Addressable ConfigMap.objectType «namespace» c.spec.tls.caConfigMap)
    (absent : s.objects.find? ⟨ConfigMap.objectType.kind, «namespace», c.spec.tls.caConfigMap⟩ =
      none) : c.Lacks «namespace» s := by
  refine ⟨enabled, .configMap «namespace» c.spec.tls.caConfigMap, Material.source_eq_error ?_⟩
  have reads : s.readIn [] ConfigMap.stored «namespace» c.spec.tls.caConfigMap = .ok none := by
    rw [Server.readIn_nil, Server.reads_eq (t := ConfigMap.stored) s plain]
    show ConfigMap.stored.found
      (s.serve (.about .get ConfigMap.objectType «namespace» _ .none)).2 = _
    rw [Server.serve_get (by decide), absent]
    exact Storable.found_absent _ _
  show Material.named c.spec.tls.caConfigMap _ ((s.readIn [] ConfigMap.stored «namespace»
    c.spec.tls.caConfigMap).bind _) = _
  rw [reads, Material.named, if_neg (by simpa using named)]
  rfl

/-- In a lifetime a user may delete a config map. -/
theorem Life.exists_deleted (h : c.Life «namespace» past s) (addressed : c.Addressed «namespace»)
    (name : String) : ∃ s', c.Life «namespace» past s' ∧
      s'.objects.find? ⟨ConfigMap.objectType.kind, «namespace», name⟩ = none ∧
      s'.objects.find? (c.ownKey «namespace») = s.objects.find? (c.ownKey «namespace») := by
  have erased (k : ObjectKey) := ObjectTable.find?_erase k
    ⟨ConfigMap.objectType.kind, «namespace», name⟩ s.objects
  have others {k : ObjectKey} {a : String} (isKind : k.kind = a) (apart : a ≠ "ConfigMap") :=
    (erased k).trans (if_neg (ObjectKey.ne_of_kind (b := "ConfigMap") isKind rfl apart))
  have own := others (k := c.ownKey «namespace») (a := "MongoDBCluster") rfl (by decide)
  have secret (name : String) :=
    others (k := Configuration.secretKey «namespace» name) (a := "Secret") rfl (by decide)
  have housed := h.housed addressed
  -- the objects that a lifetime is about are of other kinds
  refine ⟨{ s with objects := s.objects.erase ⟨ConfigMap.objectType.kind, «namespace», name⟩ },
    h.alter ?_, (erased _).trans (if_pos rfl), own⟩
  exact { document := (secret _).symm ▸ housed.document
          material := (secret _).symm ▸ housed.material
          status := fun object there => ⟨object, own ▸ there, rfl⟩ }

/-- When the config map of the running cluster has been deleted, a reconciliation fails for that. On
the server from before it would not. -/
theorem exists_lacking_joining : ∃ past r s y,
    joining.Life "prod" (r :: past) r.after ∧ LastReady past ∧ r.Lacks "prod" ∧
    (∀ action, r.outcome ≠ .done action) ∧ r.after.Shows (joining.ownKey "prod") y ∧
    y.plain = joining.plain ∧ joining.Housed "prod" s ∧
    joining.Ready "prod" {} 1 [99, 101, 114, 116] [107, 101, 121] s := by
  obtain ⟨past, s, x, life, shows, plain, -, last, ready⟩ := exists_running_joining
  obtain ⟨s₁, life₁, absent, own⟩ := life.exists_deleted addressed_joining "authority"
  -- the next reconciliation misses the config map
  have spec := spec_of_plain plain
  have lacks : x.Lacks "prod" s₁ := by
    refine lacks_of_absent (by rw [spec]; rfl) (by rw [spec]; decide) (by rw [spec]; decide) ?_
    rw [spec]
    exact absent
  obtain ⟨es, o, s₂, run⟩ := Program.exists_runs
    (fun s r => ⟨_, _, Exchange.served_exchange s r⟩) (x.reconcile {}) s₁
  have visited : joining.Visited "prod" ⟨x, {}, s₁, es, o, s₂⟩ :=
    { named := name_of_plain plain
      inNamespace := (addressed_joining.congr plain).inNamespace
      shows := shows.congr own
      runs := run.mono fun e served => served.grants }
  -- what it tells is that something is missing, and not what it would tell otherwise
  obtain ⟨y, shows', plain', told⟩ :=
    visited.tells addressed_joining (life₁.housed addressed_joining)
  cases told with
  | ready provided found running ready => exact absurd lacks provided
  | updating provided found running ready => exact absurd lacks provided
  | silent provided marks running ready => exact absurd lacks provided
  | lacking lacks fails running _ =>
    exact ⟨past, _, s, y, life₁.reconcile visited, last, lacks, fails, shows',
      plain'.trans plain, life.housed addressed_joining, ready⟩

/-- When the running cluster has missed the user's config map, the user puts it back and takes the
marker away. The next reconciliation comes to its end by setting the marker again. The cluster does
not run then, but is still said to be ready. -/
theorem exists_contradiction : ∃ past r object,
    joining.Life "prod" (r :: past) r.after ∧ r.outcome = .done (.requeue markerRequeue) ∧
    r.after.objects.find? (joining.ownKey "prod") = some object ∧
    (format.read object).SaysReady ∧ ¬ (format.read object).SaysRunning := by
  obtain ⟨past, r₁, s, y, life₁, last, lacks, fails, ⟨object, there, whole, read⟩, plain, housed,
    ready⟩ := exists_lacking_joining
  -- all is as before, except what has become of the cluster, and the marker is gone
  have put (k : ObjectKey) := ObjectTable.find?_put k (joining.ownKey "prod") object s.objects
  let s₂ : Server := { s with objects := s.objects.put (joining.ownKey "prod") object }
  have shows₂ : s₂.Shows (joining.ownKey "prod") y :=
    ⟨object, (put _).trans (if_pos rfl), whole, read⟩
  obtain ⟨s₃, annotations, shows₃, isUnmarked, kept⟩ := exists_unmarked shows₂
  have others (k : ObjectKey) (apart : joining.ownKey "prod" ≠ k) :
      s₃.objects.find? k = s.objects.find? k :=
    (kept k apart).trans ((put k).trans (if_neg apart.symm))
  have shown := shows₃
  obtain ⟨object₃, there₃, -, read₃⟩ := shown
  have life₃ : joining.Life "prod" (r₁ :: past) s₃ := life₁.alter
    { document := (others _ (ownKey_ne_secret _)).symm ▸ housed.document
      material := (others _ (ownKey_ne_secret _)).symm ▸ housed.material
      status := fun object' there' => by
        obtain rfl := Option.some.inj (there₃.symm.trans there')
        have same := (status_of_unversioned read₃).trans (status_of_unversioned read).symm
        exact ⟨object, there, same⟩ }
  -- it is set again
  obtain ⟨r, counted, action, version, z, round, start, plain', unmarked, ended,
    ⟨object', there', -, -⟩, attained, -⟩ := exists_round addressed_joining (Nat.zero_le _)
      shows₃ plain (ready.of_same addressed_joining others)
  have spec : r.cluster.spec = joining.spec := spec_of_plain plain'
  have unmarked : r.cluster.tlsRolledOut = false :=
    unmarked.trans (tlsRolledOut_of_lookup rfl isUnmarked)
  obtain ⟨rfl, -⟩ := attained.staging ⟨by rw [spec]; rfl, unmarked⟩
  have life : joining.Life "prod" (r :: r₁ :: past) r.after :=
    .reconcile (start ▸ life₃) (round.visited addressed_joining plain' (start ▸ shows₃))
  obtain ⟨unready, current⟩ : ¬ r.FindsReady ∧ ¬ r.FindsUpdating :=
    Reconciliation.not_finds_of_marks fun action ends => Outcome.done.inj (ends.symm.trans ended)
  obtain ⟨unready₁, current₁⟩ : ¬ r₁.FindsReady ∧ ¬ r₁.FindsUpdating :=
    Reconciliation.not_finds_of_marks fun action ends => absurd ends (fails action)
  have follows := life.follows addressed_joining there'
  refine ⟨_, r, object', life, ended, there', follows.ready.2 ?_, fun running => ?_⟩
  · exact .inr ⟨current, .inr ⟨current₁, last⟩⟩
  · exact (follows.running.1 running).2 ⟨unready, current, .inr ⟨unready₁, current₁, .inl lacks⟩⟩

end Cluster

end ReplicaSetOperator
