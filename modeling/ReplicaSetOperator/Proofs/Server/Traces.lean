import ReplicaSetOperator.Proofs.Server.Objects
import ReplicaSetOperator.Proofs.Server.Runs

/-!
# What a run does to an object

A run writes an object if one of its requests is about it, asks for a change and is granted
(`Written`); a run that does not leaves the object as it was (`Untouched`). Whether the server does
what it is asked or refuses to, what is read, what is refused and what is about another object
leaves an object untouched (`Exchange.Answered.untouched`).
-/

namespace ReplicaSetOperator

/-- One of some exchanges has written the object of a key. -/
def Written (k : ObjectKey) (es : List Exchange) : Prop :=
  ∃ e ∈ es, e.Writes ∧ Server.key e.request = k

theorem not_written_nil (k : ObjectKey) : ¬ Written k [] :=
  fun ⟨_, mem, _⟩ => absurd mem List.not_mem_nil

/-- What is written is written in one part or in the other. -/
theorem written_append {k : ObjectKey} {es es' : List Exchange} :
    Written k (es ++ es') ↔ Written k es ∨ Written k es' := by
  simp only [Written, List.mem_append]
  constructor
  · rintro ⟨e, mem | mem, wrote⟩
    · exact .inl ⟨e, mem, wrote⟩
    · exact .inr ⟨e, mem, wrote⟩
  · rintro (⟨e, mem, wrote⟩ | ⟨e, mem, wrote⟩)
    · exact ⟨e, .inl mem, wrote⟩
    · exact ⟨e, .inr mem, wrote⟩

/-- The object of a key is as it was, and nothing has been granted that is about it. -/
structure Untouched (k : ObjectKey) (s : Server) (es : List Exchange) (s' : Server) : Prop where
  same : s'.objects.find? k = s.objects.find? k
  unwritten : ¬ Written k es

namespace Untouched

variable {k : ObjectKey} {s s₁ s' : Server} {es es' : List Exchange}

theorem nil (k : ObjectKey) (s : Server) : Untouched k s [] s := ⟨rfl, not_written_nil k⟩

/-- An object that two parts do not touch is not touched by both. -/
theorem append (first : Untouched k s es s₁) (second : Untouched k s₁ es' s') :
    Untouched k s (es ++ es') s' where
  same := second.same.trans first.same
  unwritten wrote := (written_append.1 wrote).elim first.unwritten second.unwritten

theorem cons {e : Exchange} (first : Untouched k s [e] s₁) (second : Untouched k s₁ es s') :
    Untouched k s (e :: es) s' := first.append second

end Untouched

namespace Exchange.Answered

variable {e : Exchange}

/-- To read changes nothing. -/
theorem same_of_get (h : e.Answered) (reads : e.request.verb = .get) : e.after = e.before := by
  rcases h with served | ⟨-, same⟩
  · exact served.after_eq.trans (Server.serve_of_get reads)
  · exact same

/-- What fails changes nothing. -/
theorem same_of_isFailure (h : e.Answered) (fails : e.response.isFailure = true) :
    e.after = e.before := by
  rcases h with served | ⟨-, same⟩
  · exact served.after_eq.trans (Server.serve_of_isFailure (served.response_eq ▸ fails))
  · exact same

/-- What the server does not grant changes nothing. -/
theorem same_of_quiet (h : e.Answered) (quiet : ¬ e.Writes) : e.after = e.before := by
  by_cases reads : e.request.verb = .get
  · exact h.same_of_get reads
  · refine h.same_of_isFailure ?_
    rw [← Bool.not_eq_false]
    exact fun granted => quiet ⟨reads, granted⟩

/-- What reads, is about another object or fails leaves an object untouched. -/
theorem untouched {k : ObjectKey} (h : e.Answered)
    (apart : e.request.verb = .get ∨ Server.key e.request ≠ k ∨ e.response.isFailure = true) :
    Untouched k e.before [e] e.after where
  same := by
    -- it reads, it is about another object, or it fails
    rcases apart with reads | other | fails
    · rw [h.same_of_get reads]
    · rcases h with served | ⟨-, same⟩
      · rw [served.after_eq]
        exact Server.find?_serve_of_ne (Ne.symm other)
      · rw [same]
    · rw [h.same_of_isFailure fails]
  unwritten := by
    rintro ⟨e', mem, ⟨changes, granted⟩, about⟩
    obtain rfl := List.mem_singleton.1 mem
    rcases apart with reads | other | fails
    · exact changes reads
    · exact other about
    · rw [fails] at granted
      cases granted

end Exchange.Answered

/-- An exchange changes nothing but the object that it writes. -/
def Exchange.Sparing (e : Exchange) : Prop :=
  ∀ k, (e.Writes → Server.key e.request ≠ k) → e.after.objects.find? k = e.before.objects.find? k

/-- Whatever is answered, other objects are spared. -/
theorem Exchange.Answered.sparing {e : Exchange} (h : e.Answered) : e.Sparing := by
  intro k apart
  by_cases writes : e.Writes
  · exact (h.untouched (.inr (.inl (apart writes)))).same
  · rw [h.same_of_quiet writes]

/-! ### Exchanges in a row -/

/-- Every exchange starts from the server that the one before has left. -/
def Links (s : Server) : List Exchange → Server → Prop
  | [], s' => s' = s
  | e :: es, s' => e.before = s ∧ Links e.after es s'

namespace Links

variable {s s' : Server} {es es' : List Exchange}

/-- A trace from one server to another goes through a server between its two parts. -/
theorem append_iff : Links s (es ++ es') s' ↔ ∃ s₁, Links s es s₁ ∧ Links s₁ es' s' := by
  induction es generalizing s with
  | nil =>
    constructor
    · exact fun h => ⟨s, rfl, h⟩
    · rintro ⟨_, rfl, h⟩
      exact h
  | cons e es ih =>
    constructor
    · rintro ⟨same, rest⟩
      obtain ⟨s₁, first, second⟩ := ih.1 rest
      exact ⟨s₁, ⟨same, first⟩, second⟩
    · rintro ⟨s₁, ⟨same, first⟩, second⟩
      exact ⟨same, ih.2 ⟨s₁, first, second⟩⟩

/-- There are exchanges before and after each one. -/
theorem split (h : Links s es s') {e : Exchange} (mem : e ∈ es) :
    ∃ before after, es = before ++ e :: after ∧ Links s before e.before ∧
      Links e.after after s' := by
  obtain ⟨before, after, rfl⟩ := List.append_of_mem mem
  obtain ⟨s₁, first, rfl, second⟩ := append_iff.1 h
  exact ⟨before, after, rfl, first, second⟩

/-- An object that no exchange writes is untouched at the end. -/
theorem untouched (h : Links s es s') (sparing : ∀ e ∈ es, e.Sparing) {k : ObjectKey}
    (unwritten : ¬ Written k es) : Untouched k s es s' := by
  refine ⟨?_, unwritten⟩
  induction es generalizing s with
  | nil => exact congrArg (·.objects.find? k) h
  | cons e es ih =>
    obtain ⟨first, rest⟩ := List.forall_mem_cons.1 sparing
    obtain ⟨rfl, later⟩ := h
    -- nothing is written later on either
    have quiet : ¬ Written k es := fun ⟨e', mem, wrote⟩ =>
      unwritten ⟨e', List.mem_cons_of_mem _ mem, wrote⟩
    exact (ih later rest quiet).trans <| first k fun writes about =>
      unwritten ⟨e, List.mem_cons_self, writes, about⟩

/-- What every write makes of an object is true of it at the end, if it has been written. -/
theorem of_written (h : Links s es s') (made : Option Json → Prop)
    (sparing : ∀ e ∈ es, e.Sparing) {k : ObjectKey}
    (writes : ∀ e ∈ es, e.Writes → Server.key e.request = k → made (e.after.objects.find? k))
    (wrote : Written k es) : made (s'.objects.find? k) := by
  induction es generalizing s with
  | nil => exact absurd wrote (not_written_nil k)
  | cons e es ih =>
    obtain ⟨-, spares⟩ := List.forall_mem_cons.1 sparing
    obtain ⟨first, rest⟩ := List.forall_mem_cons.1 writes
    obtain ⟨-, later⟩ := h
    by_cases again : Written k es
    · exact ih later spares rest again
    · -- the first exchange is the last one that writes
      obtain ⟨e', mem, isWrite, about⟩ := wrote
      rcases List.mem_cons.1 mem with rfl | mem
      · rw [(later.untouched spares again).same]
        exact first isWrite about
      · exact absurd ⟨e', mem, isWrite, about⟩ again

/-- What no exchange breaks holds on the server after all of them if it does before. -/
theorem preserves (h : Links s es s') (inv : Server → Prop)
    (step : ∀ e ∈ es, inv e.before → inv e.after) (start : inv s) : inv s' := by
  induction es generalizing s with
  | nil => exact h ▸ start
  | cons e es ih =>
    obtain ⟨first, rest⟩ := List.forall_mem_cons.1 step
    obtain ⟨rfl, later⟩ := h
    exact ih later rest (first start)

end Links

namespace Program

variable {ε α : Type} {p : Program ε α} {k : ObjectKey} {kind : Request → Prop}

/-- The exchanges of a run lead from its first server to its last one. -/
theorem Runs.links {meets : Exchange → Prop} {s s' : Server} {es : List Exchange}
    {o : Outcome ε α} (h : p.Runs meets s es o s') : Links s es s' := by
  induction h with
  | done _ _ => rfl
  | fail _ _ => rfl
  | overflow _ => rfl
  | request _ _ ih => exact ⟨rfl, ih⟩
  | clock _ _ _ ih => exact ih
  | measure _ ih => exact ih

/-- A program whose requests are about other objects, or only read, leaves an object untouched. -/
theorem Demands.untouched (demands : p.Demands kind)
    (apart : ∀ r, kind r → r.verb = .get ∨ Server.key r ≠ k) (s : Server) :
    p.Ensures Exchange.Answered s fun es _ s' => Untouched k s es s' := by
  induction p generalizing s with
  | done _ => exact .done (.nil k s)
  | fail _ => exact .fail (.nil k s)
  | overflow => exact .overflow (.nil k s)
  | request r next ih =>
    refine .request fun response after met => (ih response (demands.2 response) after).mono ?_
    intro es o s' rest
    have first := met.untouched (k := k) ((apart r demands.1).imp_right .inl)
    exact first.cons rest
  | clock next ih => exact .clock fun now _ => ih now (demands now) s
  | measure m next ih => exact .measure (ih demands s)

end Program

end ReplicaSetOperator
