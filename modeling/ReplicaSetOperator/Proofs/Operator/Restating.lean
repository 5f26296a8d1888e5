import ReplicaSetOperator.Proofs.Operator.Deployment

/-!
# What reports leave of a cluster

A report changes nothing of the object of a cluster but its status and the version under which it
is kept (`Cluster.Reporting.restates`): what the user asks for stays, and so do the names, the
labels and the marker of the rollout.
-/

namespace ReplicaSetOperator

/-- An object is another one, with another status and under another version. -/
structure Json.Restated (old new : Json) : Prop where
  object : ∀ ms, old = .object ms → ∃ ms', new = .object ms'
  members : ∀ name, name ≠ "metadata" → name ≠ "status" → new.get? name = old.get? name
  metadata : ∀ name, name ≠ "resourceVersion" →
    new.at? ["metadata", name] = old.at? ["metadata", name]

namespace Json

theorem Restated.refl (j : Json) : Restated j j where
  object ms same := ⟨ms, same⟩
  members _ _ _ := rfl
  metadata _ _ := rfl

theorem Restated.trans {i j k : Json} (h : Restated i j) (h' : Restated j k) : Restated i k where
  object ms same := by
    obtain ⟨ms', same'⟩ := h.object ms same
    exact h'.object ms' same'
  members name metadata status :=
    (h'.members name metadata status).trans (h.members name metadata status)
  metadata name version := (h'.metadata name version).trans (h.metadata name version)

/-- All but the status is as before when a status is merged in or taken away. -/
theorem get?_mergeStatus (status old : Json) {name : String} (apart : name ≠ "status") :
    ((record [("status", some status)]).merge old).get? name = old.get? name := by
  by_cases isNull : status = .null
  · rw [isNull]
    exact (get?_merge_null old name "status").trans (if_neg apart)
  · exact (get?_merge_singleton old name "status" isNull).trans (if_neg apart)

/-- An object with another status, under the next version. -/
theorem restated_of_status (status old : Json) (before : Option Json) :
    Restated old (((record [("status", some status)]).merge old).stamped before) where
  object _ _ := ⟨_, rfl⟩
  members name metadata isStatus := by
    rw [get?_stamped, if_neg metadata, get?_mergeStatus status old isStatus]
  metadata name version := by
    rw [at?_stamped_metadata _ _ version, at?_pair, at?_pair,
      get?_mergeStatus status old (by decide)]

end Json

/-- What is related to something that is there is there. -/
theorem exists_of_rel {α β : Type} {related : α → β → Prop} {a : α} {o : Option β}
    (h : Option.Rel related (some a) o) : ∃ b, o = some b ∧ related a b := by
  cases h with
  | some holds => exact ⟨_, rfl, holds⟩

/-- An object that stays is restated. -/
theorem Json.restates_of_eq {old new : Option Json} (same : new = old) :
    Option.Rel Restated old new := by
  rw [same]
  cases old with
  | none => exact .none
  | some j => exact .some (.refl j)

theorem Json.restates_trans {i j k : Option Json} (h : Option.Rel Restated i j)
    (h' : Option.Rel Restated j k) : Option.Rel Restated i k := by
  cases h with
  | none => exact h'
  | some first =>
    cases h' with
    | some second => exact .some (first.trans second)

namespace Cluster

variable {c : Cluster} {«namespace» : String} {e : Exchange}

/-- A request about the status changes nothing else of the cluster, granted or not. -/
theorem Stating.restates (h : c.Stating «namespace» e.request) (met : e.Answered) :
    Option.Rel Json.Restated (e.before.objects.find? ⟨Cluster.type.kind, «namespace», c.name⟩)
      (e.after.objects.find? ⟨Cluster.type.kind, «namespace», c.name⟩) := by
  rcases h with reads | ⟨body, merges⟩
  · have verb : e.request.verb = .get := by
      rw [reads]
      rfl
    exact Json.restates_of_eq (met.untouched (.inl verb)).same
  · -- a merge of the status is granted or refused
    rcases met with served | ⟨-, same⟩
    · rw [served.after_eq, merges, Server.serve_mergeStatus (by decide)]
      cases there : e.before.objects.find? ⟨Cluster.type.kind, «namespace», c.name⟩ with
      | none => exact Json.restates_of_eq there
      | some old =>
        dsimp only
        rw [Server.find?_accept, if_pos rfl]
        exact .some (Json.restated_of_status _ old _)
    · exact Json.restates_of_eq (by rw [same])

/-- Neither does any other report. -/
theorem Reporting.restates (h : c.Reporting «namespace» e.request) (met : e.Answered) :
    Option.Rel Json.Restated (e.before.objects.find? ⟨Cluster.type.kind, «namespace», c.name⟩)
      (e.after.objects.find? ⟨Cluster.type.kind, «namespace», c.name⟩) := by
  rcases h with reads | merges | ⟨name, body, tells⟩
  · exact Stating.restates (.inl reads) met
  · exact Stating.restates (.inr merges) met
  · refine Json.restates_of_eq (met.untouched (.inr (.inl ?_))).same
    have kinds : Event.type.kind ≠ Cluster.type.kind := by decide
    rw [tells]
    exact fun same => kinds (congrArg ObjectKey.kind same)

end Cluster

end ReplicaSetOperator
