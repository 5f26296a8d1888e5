import ReplicaSetOperator.Proofs.Operator.Convergence
import ReplicaSetOperator.Proofs.Operator.Courses

/-!
# What a reconciliation comes to

Where nothing is refused, everything up to the answer to the stateful set succeeds, and that answer
decides the rest (`Cluster.Ends`):

* if it bears out that all members carry the TLS files, and this has not been marked yet, the marker
  is set, and nothing is reported for now;
* if not all members run the latest template, that is reported;
* else the cluster is reported to run, with the version of the document that is stored.

`Cluster.settled_ends` is the case analysis, `Cluster.reconcile_answered` what it means for the time
of the next reconciliation and for the status.
-/

namespace ReplicaSetOperator

open ReplicaSetOperator.Configuration (held)

namespace Cluster

variable {c x y : Cluster} {«namespace» : String} {images : Images} {certificate key : Bytes}
  {meets : Exchange → Prop} {s s' : Server} {a : StatefulSet}

/-! ### The requests -/

/-- Setting the marker or clearing it takes two requests, the second of which is an event. -/
theorem markRollout_exchanges (addressed : c.Addressed «namespace») (complete : Bool) :
    (c.markRollout complete).Ensures meets s fun es o _ => ∀ u, o = .done u →
      ∃ m e, es = [m, e] ∧ m.request = c.markingRequest «namespace» complete ∧
        e.request.type = Event.type := by
  rw [markRollout_eq addressed]
  refine .request fun response after _ => ?_
  cases response.decode resource with
  | error failure =>
    refine .fail ?_
    rintro u ⟨⟩
  | ok cluster =>
    show ((markingEvent complete).publish c).Ensures _ _ _
    rw [Event.publish_eq addressed]
    -- the time stands in the event, and reading it is no request
    refine .clock fun now _ => .request fun response' after' _ => ?_
    cases response'.decode { type := Event.type, format := Event.format } with
    | error failure =>
      refine .fail ?_
      rintro u ⟨⟩
    | ok event => exact .done fun u _ => ⟨_, _, rfl, rfl, rfl⟩

/-- The last request before the marker and the status is the one that applies the stateful set. -/
theorem established_exchanges (addressed : c.Addressed «namespace») :
    (c.established «namespace» images).Ensures meets s fun es o _ => ∀ made, o = .done made →
      ∃ early f, es = early ++ [f] ∧ f.request = c.applyingStatefulSet «namespace» images ∧
        f.response.decode StatefulSet.resource = .ok made.2 := by
  intro es o s' run made isMade
  subst isMade
  -- a run that ends with a result has gone through all three parts
  rcases run.of_bind with ⟨es₁, d, s₁, es₂, -, rest, rfl⟩ | ⟨e, -, isFailed⟩ | ⟨-, isOverflow⟩
  · rcases rest.of_bind with ⟨es₃, a, s₂, es₄, applied, last, rfl⟩ | ⟨e, -, isFailed⟩ |
      ⟨-, isOverflow⟩
    · cases last
      cases apply_deploys addressed _ _ _ applied with
      | unserved service fails => exact absurd rfl (fails a)
      | @applied e f _ service statefulSet result =>
        exact ⟨es₁ ++ [e], f, by simp, statefulSet, result a rfl⟩
    · cases isFailed
    · cases isOverflow
  · cases isFailed
  · cases isOverflow

/-! ### The end -/

/-- The answer to the stateful set bears out a rollout of the TLS files that has not been marked. -/
structure Due (c : Cluster) (a : StatefulSet) : Prop where
  enabled : c.spec.tls.enabled = true
  unmarked : c.tlsRolledOut = false
  rolledOut : a.rolledOut c.spec.members = true
  carries : a.carriesTls = true

/-- The marker is decided to be set exactly if it is due. -/
theorem due_iff : MarkerTransition.decide (c.descriptor «namespace»).enabled
    (c.descriptor «namespace»).rolloutComplete
      (a.rolledOut c.spec.members && a.carriesTls) = .set ↔ c.Due a := by
  rw [MarkerTransition.decide_eq_set, Bool.and_eq_true_iff]
  constructor
  · rintro ⟨enabled, unmarked, rolledOut, carries⟩
    exact ⟨enabled, unmarked, rolledOut, carries⟩
  · rintro ⟨enabled, unmarked, rolledOut, carries⟩
    exact ⟨enabled, unmarked, rolledOut, carries⟩

/-- How a reconciliation goes on from the answer to the stateful set, on a server that keeps a
cluster under its name: what it asks for, when it is to be done again, and what the server keeps of
the cluster in the end. -/
inductive Ends (c : Cluster) («namespace» : String) (y : Cluster) (version : Int64)
    (a : StatefulSet) : List Exchange → Action → Server → Prop
  | marked {m e : Exchange} {annotations : Labels} {s' : Server} (due : c.Due a)
    (marks : m.request = c.markingRequest «namespace» true) (tells : e.request.type = Event.type)
    (shows : s'.Shows (c.ownKey «namespace»)
      { y with metadata := { y.metadata with annotations := some annotations } })
    (isMarked : annotations.lookup rolloutMarker = some "true") :
    Ends c «namespace» y version a [m, e] (.requeue markerRequeue) s'
  | updating {es : List Exchange} {z : Cluster} {status : ClusterStatus} {s' : Server}
    (waits : a.rolledOut c.spec.members = false) (plain : z.plain = y.plain)
    (shows : s'.Shows (c.ownKey «namespace») { z with status := some status })
    (updates : status.Updates (y.status.getD {})
      ((c.descriptor «namespace»).report (c.descriptor «namespace»).mode)
      y.metadata.generation) :
    Ends c «namespace» y version a es (.requeue rolloutRequeue) s'
  | running {es : List Exchange} {z : Cluster} {status : ClusterStatus} {s' : Server}
    (idle : ¬ c.Due a) (rolledOut : a.rolledOut c.spec.members = true)
    (plain : z.plain = y.plain)
    (shows : s'.Shows (c.ownKey «namespace») { z with status := some status })
    (reports : status.Reports
      ((c.descriptor «namespace»).report (c.descriptor «namespace»).mode)
      c.spec.members version y.metadata.generation) :
    Ends c «namespace» y version a es (.requeue idleRequeue) s'

/-- Two clusters that differ in what the operator writes only have one generation. -/
theorem generation_of_plain (same : x.plain = y.plain) :
    x.metadata.generation = y.metadata.generation :=
  (congrArg (·.metadata.generation) same :
    x.plain.metadata.generation = y.plain.metadata.generation)

section

variable (addressed : c.Addressed «namespace»)
  (clusters : ∀ e, meets e → e.request.type = Cluster.type → e.Served)

include addressed clusters

/-- Where there is nothing to be marked, progress is reported. -/
theorem reportProgress_ends {z : Cluster} {version : Int64} (idle : ¬ c.Due a)
    (plain : z.plain = y.plain) (status : z.status = y.status)
    (h : s.Shows (c.ownKey «namespace») z) :
    (c.reportProgress (c.descriptor «namespace») (a.rolledOut c.spec.members) version).Achieves
      meets s fun _ action s' => ∀ es, c.Ends «namespace» y version a es action s' := by
  have generation := generation_of_plain plain
  cases rolledOut : a.rolledOut c.spec.members with
  | true =>
    refine Program.Achieves.mono (reportProgress_delivers addressed clusters _ _ h) ?_
    rintro - action s' ⟨-, rfl, status', shows, reports⟩ es
    exact .running idle rolledOut plain shows (generation ▸ reports)
  | false =>
    refine Program.Achieves.mono (reportProgress_updates addressed clusters _ _ h) ?_
    rintro - action s' ⟨-, rfl, status', shows, updates⟩ es
    rw [status, generation] at updates
    exact .updating rolledOut plain shows updates

/-- The answer to the stateful set decides what happens to the marker and to the status. -/
theorem settled_ends (events : ∀ e, meets e → e.request.type = Event.type → e.Served)
    {d : Document} (h : s.Shows (c.ownKey «namespace») y) :
    (c.settled (c.descriptor «namespace») d a).Achieves meets s fun es action s' =>
      c.Ends «namespace» y d.version a es action s' := by
  unfold settled
  dsimp only
  -- what is to happen to the marker is the first thing that the answer decides
  split
  · next decided =>
    have due := due_iff.1 decided
    have marks : (c.markRollout true).Achieves meets s fun es _ s' =>
        (∃ m e, es = [m, e] ∧ m.request = c.markingRequest «namespace» true ∧
          e.request.type = Event.type) ∧
        ∃ annotations, s'.Shows (c.ownKey «namespace»)
            { y with metadata := { y.metadata with annotations := some annotations } } ∧
          annotations.lookup rolloutMarker = some "true" := by
      intro es o s' run
      obtain ⟨u, isDone, -, marked⟩ :=
        markRollout_delivers addressed clusters true events h es o s' run
      exact ⟨u, isDone, markRollout_exchanges addressed true es o s' run u isDone, marked⟩
    refine marks.bind ?_
    rintro _ - s₁ ⟨⟨m, e, rfl, isMarking, isEvent⟩, annotations, shows, isMarked⟩
    exact .done (.marked due isMarking isEvent shows isMarked)
  · next decided =>
    have idle : ¬ c.Due a := fun due =>
      absurd (decided.symm.trans (due_iff.2 due)) (by decide)
    refine Program.Achieves.bind (markRollout_delivers addressed clusters false events h) ?_
    rintro es - s₁ ⟨-, annotations, shows, -⟩
    refine (reportProgress_ends addressed clusters idle (y := y) ?_ ?_ shows).mono ?_
    · rfl
    · rfl
    · exact fun es' action s' ends => ends (es ++ es')
  · next decided =>
    have idle : ¬ c.Due a := fun due =>
      absurd (decided.symm.trans (due_iff.2 due)) (by decide)
    refine (reportProgress_ends addressed clusters (y := y) idle rfl rfl h).mono ?_
    exact fun es action s' ends => ends es

end

/-- A reconciliation comes to its end: it applies the stateful set, and goes on from the answer. The
document that is stored in the end is up to date. -/
theorem reconcile_ends {answers : Json → Option Json → Option Json → Prop}
    (addressed : c.Addressed «namespace») (grants : ∀ e, meets e → e.Grants answers) {room : Nat}
    (small : room ≤ 0x7ffffffffffffffe) (shows : s.Shows (c.ownKey «namespace») x)
    (readable : c.Readable «namespace» images (room + 1) s)
    (provided : c.spec.tls.enabled = true →
      Material.Provided (c.descriptor «namespace») s certificate key) :
    (c.reconcile images).Achieves meets s fun es action s' => ∃ early f rest a d,
      es = early ++ f :: rest ∧ f.request = c.applyingStatefulSet «namespace» images ∧
      f.response.decode StatefulSet.resource = .ok a ∧
      c.Ends «namespace» { x with status := c.announcedStatus x.status } d.version a rest
        action s' ∧
      Configuration.UpToDate c «namespace» (c.wanted «namespace» certificate key).apply
        (s'.objects.find? (c.documentSecret «namespace»)) d := by
  have clusters (e : Exchange) (met : meets e) (isType : e.request.type = Cluster.type) :
      e.Served := (grants e met).served (by rw [isType]; decide)
  have events (e : Exchange) (met : meets e) (isType : e.request.type = Event.type) :
      e.Served := (grants e met).served (by rw [isType]; decide)
  rw [reconcile_eq_established addressed]
  have arranges : (c.established «namespace» images).Achieves meets s fun es made s' =>
      (∃ early f, es = early ++ [f] ∧ f.request = c.applyingStatefulSet «namespace» images ∧
        f.response.decode StatefulSet.resource = .ok made.2) ∧
      ∃ status, c.Arranged x «namespace» images room certificate key s status made s' := by
    intro es o s' run
    obtain ⟨made, isDone, -, status, -, arranged⟩ :=
      arranged_delivers addressed grants small shows readable provided es o s' run
    exact ⟨made, isDone, established_exchanges addressed es o s' run made isDone, status, arranged⟩
  refine arranges.bind ?_
  rintro _ ⟨d, a⟩ s₁ ⟨⟨early, f, rfl, isApply, decoded⟩, status, arranged⟩
  intro es o s' run
  obtain ⟨action, isDone, ends⟩ :=
    settled_ends addressed clusters events arranged.shows es o s' run
  refine ⟨action, isDone, early, f, es, a, d, by simp, isApply, decoded, ends, ?_⟩
  -- nothing about marker and status touches the document
  have same : s'.objects.find? (c.documentSecret «namespace») =
      s₁.objects.find? (c.documentSecret «namespace») := by
    refine run.frame (fun e met => (grants e met).isLocal) fun e mem => ?_
    exact (run.mem (settled_demands addressed _ _ _) e mem).2.leaves rfl
  rw [same]
  exact arranged.furnished.upToDate

/-! ### What it means -/

/-- TLS is reported to be on exactly if it is wanted and the rollout is marked. -/
theorem report_holds : ((c.descriptor «namespace»).report (c.descriptor «namespace»).mode).holds =
    true ↔ c.spec.tls.enabled = true ∧ c.tlsRolledOut = true := by
  have holds (d : TlsDescriptor) :
      (d.report d.mode).holds = true ↔ d.enabled = true ∧ d.rolloutComplete = true := by
    obtain ⟨_, _, enabled, optional, _, _, complete, _, _⟩ := d
    cases enabled <;> cases optional <;> cases complete <;>
      simp [TlsDescriptor.report, TlsDescriptor.mode, TlsMode.resolve]
  exact holds (c.descriptor «namespace»)

/-- What the answer to the stateful set means for the time of the next reconciliation and, after the
further requests, for a cluster that is kept together with a version of the document. -/
structure Verdict (c x : Cluster) («namespace» : String) (a : StatefulSet) (rest : List Exchange)
    (action : Action) (y : Cluster) (version : Int64) : Prop where
  marking : action = .requeue markerRequeue ↔ c.Due a
  waiting : action = .requeue rolloutRequeue ↔ a.rolledOut c.spec.members = false
  resting : action = .requeue idleRequeue ↔ a.rolledOut c.spec.members = true ∧ ¬ c.Due a
  /-- The marker is set, which is told, and nothing is reported after the beginning. -/
  marked : action = .requeue markerRequeue →
    (∃ m e, rest = [m, e] ∧ m.request = c.markingRequest «namespace» true ∧
      e.request.type = Event.type) ∧
    y.tlsRolledOut = true ∧ y.status = c.announcedStatus x.status
  /-- The cluster is being created, and is not ready. -/
  updating : action = .requeue rolloutRequeue → ∃ status, y.status = some status ∧
    status.Updates (x.status.getD {})
      ((c.descriptor «namespace»).report (c.descriptor «namespace»).mode)
      x.metadata.generation ∧
    (Condition.isTrue tlsCondition status.conditions = true ↔
      c.spec.tls.enabled = true ∧ c.tlsRolledOut = true)
  /-- The cluster runs the version of the document on all members, and is ready. -/
  running : action = .requeue idleRequeue → ∃ status, y.status = some status ∧
    status.Reports ((c.descriptor «namespace»).report (c.descriptor «namespace»).mode)
      c.spec.members version x.metadata.generation ∧
    (Condition.isTrue tlsCondition status.conditions = true ↔
      c.spec.tls.enabled = true ∧ c.tlsRolledOut = true)

/-- What is announced says nothing of the members or of a version. -/
theorem announcedStatus_live (before : Option ClusterStatus) :
    ((c.announcedStatus before).getD {}).currentMembers = (before.getD {}).currentMembers ∧
    ((c.announcedStatus before).getD {}).version = (before.getD {}).version := by
  unfold announcedStatus
  split
  · exact ⟨rfl, rfl⟩
  · exact ⟨rfl, rfl⟩

/-- The end tells what the answer means: its three cases exclude each other, and each has a time of
its own. -/
theorem Ends.verdict {version : Int64} {rest : List Exchange} {action : Action}
    (h : c.Ends «namespace» { x with status := c.announcedStatus x.status } version a rest action
      s') :
    ∃ y, s'.Shows (c.ownKey «namespace») y ∧
      c.Verdict x «namespace» a rest action y version := by
  have times : Action.requeue markerRequeue ≠ .requeue rolloutRequeue ∧
      Action.requeue markerRequeue ≠ .requeue idleRequeue ∧
      Action.requeue rolloutRequeue ≠ .requeue idleRequeue := by decide
  obtain ⟨markerRollout, markerIdle, rolloutIdle⟩ := times
  -- one case for each end, with the time of the next reconciliation and what is kept
  cases h with
  | @marked m e annotations _ due marks tells shows isMarked =>
    refine ⟨_, shows, ?_⟩
    exact
      { marking := iff_of_true rfl due
        waiting := iff_of_false markerRollout fun waits =>
          absurd due.rolledOut (ne_true_of_eq_false waits)
        resting := iff_of_false markerIdle fun idle => idle.2 due
        marked := fun _ =>
          ⟨⟨m, e, rfl, marks, tells⟩, tlsRolledOut_of_lookup rfl isMarked, rfl⟩
        updating := fun other => absurd other markerRollout
        running := fun other => absurd other markerIdle }
  | @updating _ z status _ waits plain shows updates =>
    -- the members and the version are still those from before
    obtain ⟨members, version⟩ := announcedStatus_live (c := c) x.status
    have updates' : status.Updates (x.status.getD {})
        ((c.descriptor «namespace»).report (c.descriptor «namespace»).mode)
        x.metadata.generation :=
      { updates with
        members := updates.members.trans members, version := updates.version.trans version }
    have told := updates.tls.isTrue
    refine ⟨_, shows, ?_⟩
    exact
      { marking := iff_of_false markerRollout.symm fun due =>
          absurd due.rolledOut (ne_true_of_eq_false waits)
        waiting := iff_of_true rfl waits
        resting := iff_of_false rolloutIdle fun idle =>
          absurd idle.1 (ne_true_of_eq_false waits)
        marked := fun other => absurd other.symm markerRollout
        updating := fun _ => ⟨status, rfl, updates', by rw [told, report_holds]⟩
        running := fun other => absurd other rolloutIdle }
  | @running _ z status _ idle rolledOut plain shows reports =>
    have told := reports.tls.isTrue
    refine ⟨_, shows, ?_⟩
    exact
      { marking := iff_of_false markerIdle.symm idle
        waiting := iff_of_false rolloutIdle.symm fun waits =>
          absurd rolledOut (ne_true_of_eq_false waits)
        resting := iff_of_true rfl ⟨rolledOut, idle⟩
        marked := fun other => absurd other.symm markerIdle
        updating := fun other => absurd other.symm rolloutIdle
        running := fun _ => ⟨status, rfl, reports, by rw [told, report_holds]⟩ }

/-- Where nothing is refused, a guarded reconciliation comes to its end, and the stateful set that
the server answers decides how: whether the marker is set and nothing is reported for now, or the
members are waited for, or the cluster is reported to run the version of the document that is
stored. All processes of that document have the mode that the cluster and its marker ask for. The
stateful set is rolled out if its status has observed the latest template, and as many members as
are wanted run it and are ready. -/
theorem reconcile_answered (addressed : c.Addressed «namespace») (guarded : c.Guarded)
    (shows : s.Shows (c.ownKey «namespace») x) (readable : c.Readable «namespace» images 1 s)
    (provided : c.spec.tls.enabled = true →
      Material.Provided (c.descriptor «namespace») s certificate key) :
    (c.reconcileGuarded images).Achieves (Exchange.Grants fun _ _ _ => True) s
      fun es action s' => ∃ early f rest a y d,
        es = early ++ f :: rest ∧ f.request = c.applyingStatefulSet «namespace» images ∧
        f.response.decode StatefulSet.resource = .ok a ∧
        s'.Shows (c.ownKey «namespace») y ∧
        held (s'.objects.find? (c.documentSecret «namespace»)) = .ok (some d) ∧
        (∀ p ∈ d.processes, p.tls.mode =
          .resolve c.spec.tls.enabled c.spec.tls.optional c.tlsRolledOut) ∧
        c.Verdict x «namespace» a rest action y d.version ∧
        (a.rolledOut c.spec.members = true ↔
          ∃ status, a.status = some status ∧ a.Covers c.spec.members status) := by
  refine guarded.achieves addressed ((reconcile_ends addressed (fun _ grants => grants)
    (Nat.zero_le _) shows readable provided).mono ?_)
  rintro es action s' ⟨early, f, rest, a, d, isWhole, isApply, decoded, ends, upToDate⟩
  obtain ⟨e, isHeld, version, modes⟩ := upToDate.modes
  obtain ⟨y, shows', verdict⟩ := ends.verdict
  rw [← version] at verdict
  exact ⟨early, f, rest, a, y, e, isWhole, isApply, decoded, shows', isHeld, modes, verdict,
    StatefulSet.rolledOut_iff⟩

/-- A new cluster whose members follow at once is reported to run after the second
reconciliation. -/
theorem answered_joining : ∃ (c y : Cluster) (s s' : Server) (es : List Exchange) (d : Document)
    (status : ClusterStatus),
    c.plain = joining.plain ∧ s.Shows (joining.ownKey "prod") c ∧
    (c.reconcileGuarded {}).Runs (Exchange.Settles 3) s es (.done (.requeue idleRequeue)) s' ∧
    s'.Shows (joining.ownKey "prod") y ∧ y.status = some status ∧
    held (s'.objects.find? (joining.documentSecret "prod")) = .ok (some d) ∧
    (∀ p ∈ d.processes, p.tls.mode = .required) ∧
    status.phase = some "Running" ∧ status.currentMembers = some 3 ∧
    status.version = some d.version ∧ Condition.isTrue readyCondition status.conditions = true ∧
    Condition.isTrue tlsCondition status.conditions = true := by
  obtain ⟨-, -, s, object, c, -, -, -, -, shows, plain, isMarked, ready, -⟩ :=
    exists_staged_joining 1 (by omega)
  -- the second reconciliation finds the marker
  have spec : c.spec = joining.spec := spec_of_plain plain
  have addressed := addressed_joining.congr plain
  have guarded : c.Guarded := Guarded.congr ⟨by decide, rfl⟩ plain
  have own : c.ownKey "prod" = joining.ownKey "prod" := ownKey_of_name (name_of_plain plain)
  have ready := ready.congr plain
  rw [← own] at shows
  have settles (e : Exchange) (met : e.Settles 3) : e.Settles c.spec.members := spec ▸ met
  obtain ⟨es, action, s', run, -, x, d₁, status₁, -, attained, -⟩ := (guarded.delivers addressed
    (reconcile_delivers addressed settles (Nat.zero_le _) shows ready)).exists_run
      (Exchange.exists_settles 3)
  have unstaged : ¬ c.Staging := fun staging => by
    rw [staging.2] at isMarked
    cases isMarked
  obtain ⟨rfl, -⟩ := attained.settled unstaged
  have grants (e : Exchange) (met : e.Settles 3) : e.Grants fun _ _ _ => True :=
    met.grants.mono fun _ _ _ _ => trivial
  obtain ⟨_, isDone, early, f, rest, a, y, d, -, -, -, shows', isHeld, modes, verdict, -⟩ :=
    reconcile_answered addressed guarded shows ready.toReadable
      (fun enabled => (ready.provided enabled).1) es _ s' (run.mono grants)
  cases isDone
  obtain ⟨status, isStatus, reports, tls⟩ := verdict.running rfl
  rw [own] at shows shows'
  rw [documentSecret_of_name (name_of_plain plain)] at isHeld
  rw [spec, isMarked] at modes
  refine ⟨c, y, s, s', es, d, status, plain, shows, run, shows', isStatus, isHeld, modes,
    reports.phase, ?_, reports.version, reports.ready.isTrue, tls.2 ⟨?_, isMarked⟩⟩
  · rw [reports.members, spec]
    rfl
  · rw [spec]
    rfl

end Cluster

end ReplicaSetOperator
