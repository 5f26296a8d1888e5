import ReplicaSetOperator.Proofs.Operator.Histories

/-!
# The staged rollout

A document enforces TLS only after a reconciliation has seen all members run with the TLS files
while no process used TLS, and has marked the rollout as complete (`Cluster.Staged`). Since then no
reconciliation that saw TLS disabled has come to its end, or the rollout would have to be staged
again (`Cluster.enforced_after_staging`).
-/

namespace ReplicaSetOperator

open ReplicaSetOperator.Configuration (held)

namespace Cluster

variable {c : Cluster} {«namespace» : String} {s₀ s : Server} {past : List Reconciliation}
  {r : Reconciliation}

/-- A reconciliation has completed the rollout: all members were seen to run with the TLS files, no
process of the document used TLS, and the marker has been set. -/
structure Staged (c : Cluster) («namespace» : String) (r : Reconciliation) : Prop where
  enabled : r.cluster.spec.tls.enabled = true
  unmarked : r.cluster.tlsRolledOut = false
  observed : ∃ e ∈ r.exchanges, ∃ a status,
    e.request = r.cluster.applyingStatefulSet «namespace» r.images ∧
    e.response.decode StatefulSet.resource = .ok a ∧ a.carriesTls = true ∧
    a.status = some status ∧ a.Covers r.cluster.spec.members status
  document : ∃ d, held (r.after.objects.find? (c.documentSecret «namespace»)) = .ok (some d) ∧
    ¬ d.Enforces
  writes : ∀ d, c.Writes «namespace» r d → ¬ d.Enforces
  marks : r.after.Marks (c.ownKey «namespace») true

/-- A reconciliation that has set the marker has seen the rollout complete. -/
theorem Reconciled.staged (h : c.Reconciled «namespace» r) (addressed : c.Addressed «namespace»)
    (tended : c.Tended «namespace» r.before)
    (enabled : r.cluster.spec.tls.enabled = true) (unmarked : r.cluster.tlsRolledOut = false)
    (observed : ∃ e ∈ r.exchanges, ∃ a,
      e.request = r.cluster.applyingStatefulSet «namespace» r.images ∧
      e.response.decode StatefulSet.resource = .ok a ∧
      a.rolledOut r.cluster.spec.members = true ∧ a.carriesTls = true)
    (marks : r.after.Marks (c.ownKey «namespace») true) : c.Staged «namespace» r := by
  obtain ⟨e, mem, a, isRequest, decoded, rolledOut, carries⟩ := observed
  obtain ⟨complete, before⟩ := tended.marks
  obtain ⟨-, -, marked⟩ := h.named before
  have mode : (r.cluster.descriptor «namespace»).mode = .disabled := by
    rw [mode_descriptor, enabled, unmarked]
    rfl
  obtain ⟨applied, about⟩ := writes_of_applied isRequest decoded
  refine ⟨enabled, unmarked, ?_, ?_, fun d wrote enforces => ?_, marks⟩
  -- the answer shows what has been seen of the members
  · obtain ⟨status, there, covers⟩ := StatefulSet.rolledOut_iff.1 rolledOut
    exact ⟨e, mem, a, status, isRequest, decoded, carries, there, covers⟩
  · -- the document was up to date before the stateful set was applied, and is still
    obtain ⟨file, d, upToDate⟩ := h.upToDate addressed tended mem applied about
    rw [mode] at upToDate
    exact not_enforces_of_upToDate upToDate
  · -- it would have found the marker
    have marks := (h.enforcing addressed tended wrote enforces).2
    rw [unmarked] at marked
    cases marked.trans (before.unique marks)

/-- The marker is there only after a staged rollout, and no reconciliation that saw TLS disabled has
come to its end since. -/
theorem History.staged (h : c.History «namespace» s₀ past s) (addressed : c.Addressed «namespace»)
    (fresh : c.Fresh «namespace» s₀) (marks : s.Marks (c.ownKey «namespace») true) :
    ∃ early r late, past = early ++ r :: late ∧ c.Staged «namespace» r ∧
      ∀ q ∈ late, q.cluster.spec.tls.enabled = false → ∀ action, q.outcome ≠ .done action := by
  refine h.of_marks (P := fun past _ => ∃ early r late, past = early ++ r :: late ∧
    c.Staged «namespace» r ∧
    ∀ q ∈ late, q.cluster.spec.tls.enabled = false → ∀ action, q.outcome ≠ .done action)
    addressed fresh ?edit ?follow ?kept ?set marks
  case edit => exact fun past s s' edited => id
  case follow => exact fun past s s' followed => id
  case kept =>
    rintro past r tended reconciled now unfinished ⟨early, q, late, rfl, staged, unended⟩
    refine ⟨early, q, late ++ [r], by simp, staged, ?_⟩
    exact List.forall_mem_append.2 ⟨unended, List.forall_mem_singleton.2 unfinished⟩
  case set =>
    intro past r tended reconciled enabled unmarked observed now
    exact ⟨past, r, [], rfl, reconciled.staged addressed tended enabled unmarked observed now,
      fun q mem => absurd mem List.not_mem_nil⟩

/-- Whenever a stored document enforces TLS, it has been written after a staged rollout, and no
reconciliation that saw TLS disabled has come to its end between the two. -/
theorem enforced_after_staging (addressed : c.Addressed «namespace»)
    (fresh : c.Fresh «namespace» s₀) (history : c.History «namespace» s₀ past s) {d : Document}
    (isHeld : held (s.objects.find? (c.documentSecret «namespace»)) = .ok (some d))
    (enforces : d.Enforces) :
    ∃ early r between w late, past = early ++ r :: (between ++ w :: late) ∧
      c.Staged «namespace» r ∧ c.Writes «namespace» w d ∧
      ∀ q ∈ between, q.cluster.spec.tls.enabled = false → ∀ action, q.outcome ≠ .done action := by
  -- the document has been written by a reconciliation that found the marker, and that was set by
  -- an earlier one
  obtain ⟨before, w, late, rfl, earlier, reconciled, wrote⟩ :=
    history.wrote addressed fresh isHeld
  have tended := earlier.tended addressed fresh
  obtain ⟨-, marks⟩ := reconciled.enforcing addressed tended wrote enforces
  obtain ⟨early, r, between, rfl, staged, unended⟩ := earlier.staged addressed fresh marks
  exact ⟨early, r, between, w, late, by simp, staged, wrote, unended⟩

/-- A new cluster, two reconciliations later. -/
theorem enforced_joining : ∃ past s d, joining.History "prod" joiningServer past s ∧
    held (s.objects.find? (joining.documentSecret "prod")) = .ok (some d) ∧ d.Enforces ∧
    ∃ early r between w late, past = early ++ r :: (between ++ w :: late) ∧
      joining.Staged "prod" r ∧ joining.Writes "prod" w d ∧
      ∀ q ∈ between, q.cluster.spec.tls.enabled = false → ∀ action, q.outcome ≠ .done action := by
  obtain ⟨past, s, d, history, isHeld, enforces⟩ := exists_enforced_joining
  exact ⟨past, s, d, history, isHeld, enforces, enforced_after_staging
    addressed_joining fresh_joining history isHeld enforces⟩

end Cluster

end ReplicaSetOperator
