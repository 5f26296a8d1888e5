import ReplicaSetOperator.Proofs.Operator.Announcements
import ReplicaSetOperator.Proofs.Operator.Gauges
import ReplicaSetOperator.Proofs.Operator.Histories
import ReplicaSetOperator.Proofs.Operator.Outcomes

/-!
# Reports about TLS

What is reported about TLS is the condition in the status and the number that the gauge shows. It is
true of a document if no process is without TLS while the condition says that TLS is configured, and
if all processes run the mode of the number (`Cluster.Truthful`).

A round is a reconciliation that is refused nothing, with what is counted in it. It brings document,
condition and gauge to the mode of the cluster, or it sets the marker, and then it leaves condition
and gauge as they were, though the document is one without TLS (`Cluster.Round.effect`). So the
reports are true after a round exactly if that has not left behind a report from before that TLS is
on (`Cluster.Round.truthful_iff`).
-/

namespace ReplicaSetOperator

open ReplicaSetOperator.Configuration (held)

namespace Cluster

variable {c x y : Cluster} {«namespace» : String} {s s' : Server} {m : Metrics} {d : Document}
  {r : Reconciliation} {counted : List Measurement} {action : Action}

/-! ### Reports -/

/-- What is reported about TLS is true of a document. -/
structure Truthful (c : Cluster) («namespace» : String) (s : Server) (m : Metrics)
    (d : Document) : Prop where
  condition : s.AnnouncesTls (c.ownKey «namespace») → ∀ p ∈ d.processes, p.tls.mode ≠ .disabled
  gauge : ∀ n ∈ m.tlsMode? «namespace» c.name, ∀ p ∈ d.processes, n = p.tls.mode.number

/-- It is reported that TLS is on. -/
def ReportsOn (c : Cluster) («namespace» : String) (s : Server) (m : Metrics) : Prop :=
  s.AnnouncesTls (c.ownKey «namespace») ∨ ∃ n ∈ m.tlsMode? «namespace» c.name, n ≠ 0

/-- Of members without TLS it must not be reported that TLS is on. -/
theorem truthful_iff_of_disabled (modes : ∀ p ∈ d.processes, p.tls.mode = .disabled) :
    c.Truthful «namespace» s m d ↔ ¬ (c.ReportsOn «namespace» s m ∧ d.processes ≠ []) := by
  constructor
  · -- any process refutes either report
    rintro truthful ⟨on, some⟩
    obtain ⟨p, mem⟩ := List.exists_mem_of_ne_nil _ some
    rcases on with announces | ⟨n, shown, apart⟩
    · exact truthful.condition announces p mem (modes p mem)
    · refine apart ((truthful.gauge n shown p mem).trans ?_)
      exact TlsMode.number_eq_zero.2 (modes p mem)
  · -- without processes there is nothing of which a report could be wrong
    intro off
    have none {p : Process} (mem : p ∈ d.processes) : ¬ c.ReportsOn «namespace» s m :=
      fun on => off ⟨on, List.ne_nil_of_mem mem⟩
    refine ⟨fun announces p mem => absurd (.inl announces) (none mem), fun n shown p mem => ?_⟩
    rw [modes p mem]
    exact Classical.byContradiction fun apart => none mem (.inr ⟨n, shown, apart⟩)

/-- The mode of the members is what is to be reported. -/
theorem truthful_of_mode {mode : TlsMode} (modes : ∀ p ∈ d.processes, p.tls.mode = mode)
    (announces : s.AnnouncesTls (c.ownKey «namespace») → mode ≠ .disabled)
    (shown : m.tlsMode? «namespace» c.name = some mode.number) : c.Truthful «namespace» s m d where
  condition holds p mem := by
    rw [modes p mem]
    exact announces holds
  gauge n isShown p mem := by
    rw [modes p mem]
    exact Option.some.inj (isShown.symm.trans shown)

/-! ### Rounds -/

/-- A reconciliation of the cluster as it is stored, by a server that refuses nothing, with what has
been counted in it. -/
structure Round (c : Cluster) («namespace» : String) (r : Reconciliation)
    (counted : List Measurement) : Prop where
  stored : ∃ object, r.before.objects.find? (c.ownKey «namespace») = some object ∧
    format.read object = r.cluster
  logs : ∃ js, (r.cluster.reconcile r.images).Logs (Exchange.Grants fun _ _ _ => True) r.before js
    r.outcome r.after ∧ Entry.exchanges js = r.exchanges ∧ Entry.measurements js = counted

/-- In a round the cluster is reconciled as it is stored. -/
theorem Round.reconciled (h : c.Round «namespace» r counted) : c.Reconciled «namespace» r := by
  obtain ⟨js, logs, isExchanges, -⟩ := h.logs
  exact ⟨h.stored, isExchanges ▸ logs.runs.mono fun _ => Exchange.Grants.tracked⟩

/-- After a reconciliation that has come to its end, the document that is stored has a process for
every member, in the mode of the cluster. -/
theorem Reconciled.document (h : c.Reconciled «namespace» r) (addressed : c.Addressed «namespace»)
    (tended : c.Tended «namespace» r.before) (ended : r.outcome = .done action) :
    ∃ d, held (r.after.objects.find? (c.documentSecret «namespace»)) = .ok (some d) ∧
      (∀ p ∈ d.processes, p.tls.mode = (r.cluster.descriptor «namespace»).mode) ∧
      d.processes.length = r.cluster.spec.members.toInt.toNat := by
  -- it has come to the stateful set
  have course := h.course addressed tended
  rw [ended] at course
  obtain ⟨e, mem, wrote, about⟩ := course.exists_applying
  obtain ⟨file, d, upToDate⟩ := h.upToDate addressed tended mem wrote about
  obtain ⟨e', isHeld, -, modes⟩ := upToDate.modes
  obtain ⟨_, isHeld', isSame, build⟩ := upToDate
  obtain rfl := Option.some.inj (Except.ok.inj (isHeld.symm.trans isHeld'))
  refine ⟨e', isHeld, modes, ?_⟩
  rw [Document.processes_of_same isSame]
  exact Configuration.length_processes_of_build build

/-- What a round makes of the reports. It has not come to the stateful set and at most takes the
condition back; or it has set the marker and left the reports as they were, which is for members
without TLS; or it has reported the mode of the cluster. -/
inductive Effect (c x : Cluster) («namespace» : String) (r : Reconciliation)
    (counted : List Measurement) (y : Cluster) : Prop
  | unapplied (fails : ∀ action, r.outcome ≠ .done action) (subdued : x.Subdued y)
    (silent : counted = [])
  | marked (ended : r.outcome = .done (.requeue markerRequeue))
    (unmarked : r.cluster.tlsRolledOut = false) (marked : y.tlsRolledOut = true)
    (same : y.announcesTls = x.announcesTls) (silent : counted = [])
  | reported {action : Action} (ended : r.outcome = .done action)
    (apart : action ≠ .requeue markerRequeue)
    (announces : y.announcesTls = true ↔ (r.cluster.descriptor «namespace»).mode ≠ .disabled)
    (counts : counted =
      [.tlsMode «namespace» c.name (r.cluster.descriptor «namespace»).mode])

/-- TLS is on exactly if it is wanted and the rollout is marked. -/
theorem mode_ne_disabled : (c.descriptor «namespace»).mode ≠ .disabled ↔
    c.spec.tls.enabled = true ∧ c.tlsRolledOut = true := by
  rw [mode_descriptor]
  cases c.spec.tls.enabled <;> cases c.spec.tls.optional <;> cases c.tlsRolledOut <;>
    simp [TlsMode.resolve]

section

variable (h : c.Round «namespace» r counted) (addressed : c.Addressed «namespace»)
  (tended : c.Tended «namespace» r.before)

include h addressed tended

/-- Every round has one of these effects. -/
theorem Round.effect (shows : r.before.Shows (c.ownKey «namespace») x) :
    ∃ y, r.after.Shows (c.ownKey «namespace») y ∧ c.Effect x «namespace» r counted y := by
  obtain ⟨complete, marks⟩ := tended.marks
  obtain ⟨same, inNamespace, -⟩ := h.reconciled.named marks
  have addressed' := addressed.of_name same inNamespace
  have own : r.cluster.ownKey «namespace» = c.ownKey «namespace» := ownKey_of_name same
  have tended' := tended.of_name same
  rw [← own] at shows ⊢
  have establishes : (r.cluster.established «namespace» r.images).Ensures
      (Exchange.Grants fun _ _ _ => True) r.before fun _ o s' =>
        ∃ y, s'.Shows (r.cluster.ownKey «namespace») y ∧ x.Subdued y ∧ ∀ made, o = .done made →
          y = { x with status := r.cluster.announcedStatus x.status } :=
    established_subdues addressed' tended'.keptDocument tended'.keptMaterial shows
      fun e grants => grants
  obtain ⟨js, logs, -, isCounted⟩ := h.logs
  rw [← isCounted]
  rcases reconcile_counts addressed' logs with
    ⟨js₁, made, s₁, js₂, first, second, rfl, counts⟩ | ⟨o', first, fails, unended, silent⟩
  · -- the answer to the stateful set decides
    obtain ⟨y, shows₁, -, announced⟩ := establishes _ _ _ first.runs
    obtain rfl := announced made rfl
    obtain ⟨action, ended, ends⟩ := settled_ends addressed'
      (fun e (grants : e.Grants fun _ _ _ => True) isType => grants.served (by rw [isType]; decide))
      (fun e grants isType => grants.served (by rw [isType]; decide)) shows₁ _ _ _ second.runs
    rw [ended] at second
    have tallied := counts.trans (settled_counts second)
    have label : r.cluster.metadata.namespace.getD "" = «namespace» := by
      rw [inNamespace]
      rfl
    rw [label, same] at tallied
    -- what is reported of TLS is whether there is a mode to be reported
    have announces {z : Cluster} {status : ClusterStatus} (told : Condition.Says tlsCondition
        ((r.cluster.descriptor «namespace»).report (r.cluster.descriptor «namespace»).mode)
        x.metadata.generation status.conditions) :
        ({ z with status := some status } : Cluster).announcesTls = true ↔
          (r.cluster.descriptor «namespace»).mode ≠ .disabled := by
      rw [mode_ne_disabled, ← @report_holds r.cluster «namespace», ← told.isTrue]
      rfl
    generalize Entry.exchanges js₂ = es at ends
    cases ends with
    | @marked m e annotations _ due marks tells shows' isMarked =>
      -- the status is the one that has been announced
      rw [if_pos (due_iff.2 due)] at tallied
      refine ⟨_, shows',
        .marked ended due.unmarked (tlsRolledOut_of_lookup rfl isMarked) ?_ tallied⟩
      exact announcesTls_announced (c := r.cluster) (x := x)
    | updating waits plain shows' updates =>
      have idle : ¬ r.cluster.Due made.2 := fun due =>
        absurd due.rolledOut (ne_true_of_eq_false waits)
      rw [if_neg (mt due_iff.1 idle)] at tallied
      exact ⟨_, shows', .reported ended (by decide) (announces updates.tls) tallied⟩
    | running idle rolledOut plain shows' reports =>
      rw [if_neg (mt due_iff.1 idle)] at tallied
      exact ⟨_, shows', .reported ended (by decide) (announces reports.tls) tallied⟩
  · -- nothing is reported that is on
    obtain ⟨y, shows', subdued, -⟩ := establishes _ _ _ first.runs
    exact ⟨y, shows', .unapplied unended subdued silent⟩

/-- After a round that has come to its end the reports are true of the document that is stored,
unless it has set the marker, there are members, and it was reported before that TLS is on. -/
theorem Round.truthful_iff (shows : r.before.Shows (c.ownKey «namespace») x)
    (ended : r.outcome = .done action) (m : Metrics) :
    ∃ d, held (r.after.objects.find? (c.documentSecret «namespace»)) = .ok (some d) ∧
      (c.Truthful «namespace» r.after (counted.foldl Metrics.record m) d ↔
        ¬ (action = .requeue markerRequeue ∧ c.ReportsOn «namespace» r.before m ∧
          0 < r.cluster.spec.members.toInt)) := by
  obtain ⟨d, isHeld, modes, length⟩ := h.reconciled.document addressed tended ended
  refine ⟨d, isHeld, ?_⟩
  obtain ⟨y, shows', effect⟩ := h.effect addressed tended shows
  cases effect with
  | unapplied fails subdued silent => exact absurd ended (fails action)
  | marked isEnd unmarked isMarked same silent =>
    obtain rfl := Outcome.done.inj (isEnd.symm.trans ended)
    have off : (r.cluster.descriptor «namespace»).mode = .disabled := by
      refine Classical.byContradiction fun on => ?_
      exact absurd (mode_ne_disabled.1 on).2 (ne_true_of_eq_false unmarked)
    rw [off] at modes
    -- the reports are those from before
    have reports : c.ReportsOn «namespace» r.after (counted.foldl Metrics.record m) ↔
        c.ReportsOn «namespace» r.before m := by
      rw [silent, ReportsOn, ReportsOn, shows'.announcesTls, shows.announcesTls, same]
      rfl
    have some : d.processes ≠ [] ↔ 0 < r.cluster.spec.members.toInt := by
      rw [← List.length_pos_iff, length]
      omega
    rw [truthful_iff_of_disabled modes, reports, some]
    simp
  | reported isEnd apart announces counts =>
    -- the reports are those of the mode, which all processes have
    obtain rfl := Outcome.done.inj (isEnd.symm.trans ended)
    have truthful : c.Truthful «namespace» r.after (counted.foldl Metrics.record m) d := by
      refine truthful_of_mode modes (fun holds => announces.1 (shows'.announcesTls.1 holds)) ?_
      rw [counts]
      exact Metrics.tlsMode?_record m «namespace» c.name _
    exact iff_of_true truthful fun ⟨isMarking, _⟩ => apart isMarking

end

end Cluster

end ReplicaSetOperator
