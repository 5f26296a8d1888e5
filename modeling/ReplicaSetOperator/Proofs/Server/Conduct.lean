import ReplicaSetOperator.Proofs.Server.Runs

/-!
# The conduct of programs

What a program can ask for and come to is read off the program: as long as every answer is one that
is admitted, its requests are of one kind, its results of another and its failures of a third
(`Program.Conforms`). Every run whose answers are admitted is as the program says
(`Program.Runs.conforms`).
-/

namespace ReplicaSetOperator

namespace Program

variable {ε ε' α β : Type} {admits : Request → Response → Prop} {asks : Request → Prop}
  {results : α → Prop} {failures : ε → Prop} {p : Program ε α}

/-- As long as the answers are admitted, the requests of a program are of one kind, its results of
another and its failures of a third. -/
def Conforms (admits : Request → Response → Prop) (asks : Request → Prop) (results : α → Prop)
    (failures : ε → Prop) : Program ε α → Prop
  | .done a => results a
  | .fail e => failures e
  | .overflow => True
  | .request r next =>
    asks r ∧ ∀ response, admits r response → (next response).Conforms admits asks results failures
  | .clock next => ∀ now, (next now).Conforms admits asks results failures
  | .measure _ next => next.Conforms admits asks results failures

namespace Conforms

theorem mono {asks' : Request → Prop} {results' : α → Prop}
    (h : p.Conforms admits asks results failures) (asked : ∀ r, asks r → asks' r)
    (result : ∀ a, results a → results' a) : p.Conforms admits asks' results' failures := by
  induction p with
  | done a => exact result a h
  | fail _ => exact h
  | overflow => trivial
  | request r next ih =>
    exact ⟨asked r h.1, fun response admitted => ih response (h.2 response admitted)⟩
  | clock next ih => exact fun now => ih now (h now)
  | measure m next ih => exact ih h

/-- What conforms may be followed by what conforms for each of its results. -/
theorem bind {results' : β → Prop} {k : α → Program ε β}
    (first : p.Conforms admits asks results failures)
    (next : ∀ a, results a → (k a).Conforms admits asks results' failures) :
    (p.bind k).Conforms admits asks results' failures := by
  induction p with
  | done a => exact next a first
  | fail _ => exact first
  | overflow => trivial
  | request r following ih =>
    exact ⟨first.1, fun response admitted => ih response (first.2 response admitted)⟩
  | clock following ih => exact fun now => ih now (first now)
  | measure m following ih => exact ih first

/-- A failure that is turned into a result is of the kind that it was. -/
theorem attempt {failures' : ε' → Prop} (h : p.Conforms admits asks results failures) :
    (p.attempt : Program ε' _).Conforms admits asks
      (fun r => (∀ a, r = .ok a → results a) ∧ ∀ e, r = .error e → failures e) failures' := by
  induction p with
  | done a => exact ⟨fun _ same => Except.ok.inj same ▸ h, by rintro e ⟨⟩⟩
  | fail e => exact ⟨by rintro a ⟨⟩, fun _ same => Except.error.inj same ▸ h⟩
  | overflow => trivial
  | request r next ih => exact ⟨h.1, fun response admitted => ih response (h.2 response admitted)⟩
  | clock next ih => exact fun now => ih now (h now)
  | measure m next ih => exact ih h

theorem ofExcept {r : Except ε α} (ok : ∀ a, r = .ok a → results a)
    (error : ∀ e, r = .error e → failures e) :
    (ofExcept r).Conforms admits asks results failures := by
  cases r with
  | ok a => exact ok a rfl
  | error e => exact error e rfl

/-- A failure that is turned into another one has to conform as that. -/
theorem mapFailure {f : ε → ε'} {failures' : ε' → Prop}
    (h : p.Conforms admits asks results failures) (turns : ∀ e, failures e → failures' (f e)) :
    (p.mapFailure f).Conforms admits asks results failures' := by
  rw [mapFailure_eq]
  refine h.attempt.bind fun r ⟨ok, error⟩ => ?_
  cases r with
  | ok a => exact ok a rfl
  | error e => exact turns e (error e rfl)

/-- Whatever the clock shows. -/
theorem now {k : Timestamp → Program ε α}
    (next : ∀ now, (k now).Conforms admits asks results failures) :
    (Program.now.bind k).Conforms admits asks results failures := next

/-- Counting asks for nothing. -/
theorem count {m : Measurement} {k : Unit → Program ε α}
    (next : (k ()).Conforms admits asks results failures) :
    ((Program.count m).bind k).Conforms admits asks results failures := next

end Conforms

/-- A run whose answers are admitted is as its program says. -/
theorem Runs.conforms {meets : Exchange → Prop} {s s' : Server} {es : List Exchange}
    {o : Outcome ε α} (h : p.Runs meets s es o s')
    (conforms : p.Conforms admits asks results failures)
    (admitted : ∀ e ∈ es, admits e.request e.response) :
    (∀ e ∈ es, asks e.request) ∧ (∀ a, o = .done a → results a) ∧
      ∀ f, o = .failed f → failures f := by
  -- on the run: what is left of the program after an answer conforms as the answer is admitted
  induction h with
  | done a _ =>
    refine ⟨fun _ mem => absurd mem List.not_mem_nil, ?_, by rintro f ⟨⟩⟩
    rintro _ ⟨⟩
    exact conforms
  | fail e _ =>
    refine ⟨fun _ mem => absurd mem List.not_mem_nil, by rintro a ⟨⟩, ?_⟩
    rintro _ ⟨⟩
    exact conforms
  | overflow _ =>
    exact ⟨fun _ mem => absurd mem List.not_mem_nil, by rintro a ⟨⟩, by rintro f ⟨⟩⟩
  | request _ _ ih =>
    obtain ⟨first, others⟩ := List.forall_mem_cons.1 admitted
    obtain ⟨asked, ends⟩ := ih (conforms.2 _ first) others
    exact ⟨List.forall_mem_cons.2 ⟨conforms.1, asked⟩, ends⟩
  | clock now _ _ ih => exact ih (conforms now) admitted
  | measure _ ih => exact ih conforms admitted

end Program

end ReplicaSetOperator
