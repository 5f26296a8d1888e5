import ReplicaSetOperator.Proofs.Server.Interleaving

/-!
# Runs of one program

A program that talks to a server alone: the answers meet a condition, for example that the server
does what it is asked (`Exchange.Served`) or refuses to (`Exchange.Refused`), and every time is one
(`Program.Runs`). `Program.Ensures` says what holds after every run, and has a rule for each way to
make a program; `Program.Achieves` says so of programs that come to a result.
-/

namespace ReplicaSetOperator

namespace Exchange

/-- The server does what it is asked. -/
def Served (e : Exchange) : Prop := e.before.serve e.request = (e.after, e.response)

/-- The server answers a failure and does nothing. -/
def Refused (e : Exchange) : Prop := e.response.isFailure = true ∧ e.after = e.before

/-- The server does what it is asked, or refuses to. -/
def Answered (e : Exchange) : Prop := e.Served ∨ e.Refused

/-- After a served request the server is as it has become by serving it. -/
theorem Served.after_eq {e : Exchange} (h : e.Served) : e.after = (e.before.serve e.request).1 :=
  (congrArg Prod.fst h).symm

theorem Served.response_eq {e : Exchange} (h : e.Served) :
    e.response = (e.before.serve e.request).2 :=
  (congrArg Prod.snd h).symm

/-- What a server makes of a request is served. -/
theorem served_exchange (s : Server) (r : Request) : (s.exchange r).Served := rfl

end Exchange

/-- How a program ends whose failure is turned into another one. -/
def Outcome.mapFailure {ε ε' α : Type} (f : ε → ε') : Outcome ε α → Outcome ε' α
  | .done a => .done a
  | .failed e => .failed (f e)
  | .overflow => .overflow

/-- How a program ends whose failure is turned into a result. -/
def Outcome.attempt {ε ε' α : Type} : Outcome ε α → Outcome ε' (Except ε α)
  | .done a => .done (.ok a)
  | .failed e => .done (.error e)
  | .overflow => .overflow

/-- How a program ends that takes what is known. -/
def Outcome.ofExcept {ε α : Type} : Except ε α → Outcome ε α
  | .ok a => .done a
  | .error e => .failed e

/-- A result comes from a result. -/
theorem Outcome.eq_ok {ε α : Type} {a : α} {r : Except ε α} (h : .done a = ofExcept r) :
    r = .ok a := by
  cases r with
  | ok _ =>
    cases h
    rfl
  | error _ => cases h

/-- A failure comes from an error. -/
theorem Outcome.eq_error {ε α : Type} {e : ε} {r : Except ε α} (h : .failed e = ofExcept r) :
    r = .error e := by
  cases r with
  | ok _ => cases h
  | error _ =>
    cases h
    rfl

/-- Nothing that is there at once overflows. -/
theorem Outcome.ofExcept_ne_overflow {ε α : Type} (r : Except ε α) : .overflow ≠ ofExcept r := by
  cases r <;> rintro ⟨⟩

namespace Program

variable {ε ε' α β : Type} {meets : Exchange → Prop} {s s' : Server} {es : List Exchange}

/-- A run of a program from a server: the requests in order, how it ends, and what the server is
then. -/
inductive Runs (meets : Exchange → Prop) :
    Program ε α → Server → List Exchange → Outcome ε α → Server → Prop
  | done (a : α) (s : Server) : Runs meets (.done a) s [] (.done a) s
  | fail (e : ε) (s : Server) : Runs meets (.fail e) s [] (.failed e) s
  | overflow (s : Server) : Runs meets .overflow s [] .overflow s
  | request {r : Request} {next : Response → Program ε α} {s after s' : Server}
    {response : Response} {es : List Exchange} {o : Outcome ε α}
    (met : meets ⟨s, r, response, after⟩) (rest : Runs meets (next response) after es o s') :
    Runs meets (.request r next) s (⟨s, r, response, after⟩ :: es) o s'
  | clock {next : Timestamp → Program ε α} {s s' : Server} {es : List Exchange}
    {o : Outcome ε α} (now : Timestamp) (valid : now.Valid)
    (rest : Runs meets (next now) s es o s') : Runs meets (.clock next) s es o s'
  | measure {m : Measurement} {next : Program ε α} {s s' : Server} {es : List Exchange}
    {o : Outcome ε α} (rest : Runs meets next s es o s') : Runs meets (.measure m next) s es o s'

/-- A program runs to its end if every request can be answered. -/
theorem exists_runs (total : ∀ s r, ∃ response after, meets ⟨s, r, response, after⟩)
    (p : Program ε α) (s : Server) : ∃ es o s', p.Runs meets s es o s' := by
  -- by induction on the program, with an answer to each request and a time for each look at the
  -- clock
  induction p generalizing s with
  | done a => exact ⟨_, _, _, .done a s⟩
  | fail e => exact ⟨_, _, _, .fail e s⟩
  | overflow => exact ⟨_, _, _, .overflow s⟩
  | request r next ih =>
    obtain ⟨response, after, met⟩ := total s r
    obtain ⟨es, o, s', rest⟩ := ih response after
    exact ⟨_, o, s', .request met rest⟩
  | clock next ih =>
    have valid : Timestamp.Valid ⟨1970, 1, 1, 0, 0, 0⟩ := by decide
    obtain ⟨es, o, s', rest⟩ := ih _ s
    exact ⟨es, o, s', .clock _ valid rest⟩
  | measure m next ih =>
    obtain ⟨es, o, s', rest⟩ := ih s
    exact ⟨es, o, s', .measure rest⟩

/-- Where a run of the first program ends with a result, the second goes on. -/
theorem Runs.bind {p : Program ε α} {k : α → Program ε β} {a : α} {s₁ : Server}
    {es₁ es₂ : List Exchange} {o : Outcome ε β} (first : p.Runs meets s es₁ (.done a) s₁)
    (second : (k a).Runs meets s₁ es₂ o s') : (p.bind k).Runs meets s (es₁ ++ es₂) o s' := by
  -- by induction on the first program, whose run is gone through until it has its result
  induction p generalizing s es₁ with
  | done b =>
    cases first
    exact second
  | fail e => cases first
  | overflow => cases first
  | request r next ih =>
    cases first with
    | request met rest => exact .request met (ih _ rest)
  | clock next ih =>
    cases first with
    | clock now valid rest => exact .clock now valid (ih _ rest)
  | measure m next ih =>
    cases first with
    | measure rest => exact .measure (ih rest)

/-- A run of two programs one after the other is a run of the first that ends with a result and one
of the second, or a run of the first that does not. -/
theorem Runs.of_bind {p : Program ε α} {k : α → Program ε β} {o : Outcome ε β}
    (h : (p.bind k).Runs meets s es o s') :
    (∃ es₁ a s₁ es₂, p.Runs meets s es₁ (.done a) s₁ ∧ (k a).Runs meets s₁ es₂ o s' ∧
      es = es₁ ++ es₂) ∨
    (∃ e, p.Runs meets s es (.failed e) s' ∧ o = .failed e) ∨
    p.Runs meets s es .overflow s' ∧ o = .overflow := by
  -- by induction on the first program, which the run goes through until that ends
  induction p generalizing s es with
  | done a => exact .inl ⟨[], a, s, es, .done a _, h, rfl⟩
  | fail e =>
    cases h
    exact .inr (.inl ⟨e, .fail e _, rfl⟩)
  | overflow =>
    cases h
    exact .inr (.inr ⟨.overflow _, rfl⟩)
  | request r next ih =>
    cases h with
    | request met rest =>
      rcases ih _ rest with ⟨es₁, a, s₁, es₂, first, second, rfl⟩ | ⟨e, first, rfl⟩ | ⟨first, rfl⟩
      · exact .inl ⟨_, a, s₁, es₂, .request met first, second, rfl⟩
      · exact .inr (.inl ⟨e, .request met first, rfl⟩)
      · exact .inr (.inr ⟨.request met first, rfl⟩)
  | clock next ih =>
    cases h with
    | clock now valid rest =>
      rcases ih _ rest with ⟨es₁, a, s₁, es₂, first, second, rfl⟩ | ⟨e, first, rfl⟩ | ⟨first, rfl⟩
      · exact .inl ⟨es₁, a, s₁, es₂, .clock now valid first, second, rfl⟩
      · exact .inr (.inl ⟨e, .clock now valid first, rfl⟩)
      · exact .inr (.inr ⟨.clock now valid first, rfl⟩)
  | measure m next ih =>
    cases h with
    | measure rest =>
      rcases ih rest with ⟨es₁, a, s₁, es₂, first, second, rfl⟩ | ⟨e, first, rfl⟩ | ⟨first, rfl⟩
      · exact .inl ⟨es₁, a, s₁, es₂, .measure first, second, rfl⟩
      · exact .inr (.inl ⟨e, .measure first, rfl⟩)
      · exact .inr (.inr ⟨.measure first, rfl⟩)

/-- A run of an attempt is a run of what is attempted, which has ended in some way. -/
theorem Runs.of_attempt {p : Program ε α} {o : Outcome ε' (Except ε α)}
    (h : (p.attempt).Runs meets s es o s') :
    ∃ o', p.Runs meets s es o' s' ∧ o = o'.attempt := by
  -- the attempt changes the ends of the program and nothing before them
  induction p generalizing s es with
  | done a =>
    cases h
    exact ⟨_, .done a _, rfl⟩
  | fail e =>
    cases h
    exact ⟨_, .fail e _, rfl⟩
  | overflow =>
    cases h
    exact ⟨_, .overflow _, rfl⟩
  | request r next ih =>
    cases h with
    | request met rest =>
      obtain ⟨o', first, same⟩ := ih _ rest
      exact ⟨o', .request met first, same⟩
  | clock next ih =>
    cases h with
    | clock now valid rest =>
      obtain ⟨o', first, same⟩ := ih _ rest
      exact ⟨o', .clock now valid first, same⟩
  | measure m next ih =>
    cases h with
    | measure rest =>
      obtain ⟨o', first, same⟩ := ih rest
      exact ⟨o', .measure first, same⟩

/-- To turn a failure into another one is to attempt the program and to fail with that one. -/
theorem mapFailure_eq (f : ε → ε') (p : Program ε α) :
    p.mapFailure f = p.attempt.bind fun r => ofExcept (r.mapError f) := by
  induction p with
  | done _ => rfl
  | fail _ => rfl
  | overflow => rfl
  | request r next ih => simp only [mapFailure, attempt, bind, ih]
  | clock next ih => simp only [mapFailure, attempt, bind, ih]
  | measure m next ih => simp only [mapFailure, attempt, bind, ih]

/-- So is a run of a program whose failures are turned into others. -/
theorem Runs.of_mapFailure {f : ε → ε'} {p : Program ε α} {o : Outcome ε' α}
    (h : (p.mapFailure f).Runs meets s es o s') :
    ∃ o', p.Runs meets s es o' s' ∧ o = o'.mapFailure f := by
  rw [mapFailure_eq] at h
  rcases h.of_bind with ⟨es₁, r, s₁, es₂, first, last, rfl⟩ | ⟨e, first, rfl⟩ | ⟨first, rfl⟩
  · obtain ⟨o', run, same⟩ := first.of_attempt
    -- what follows the attempt makes no request
    cases o' with
    | done a =>
      cases same
      cases last
      exact ⟨_, (List.append_nil es₁).symm ▸ run, rfl⟩
    | failed e =>
      cases same
      cases last
      exact ⟨_, (List.append_nil es₁).symm ▸ run, rfl⟩
    | overflow => cases same
  · -- an attempt does not fail
    obtain ⟨o', -, same⟩ := first.of_attempt
    cases o' <;> cases same
  · obtain ⟨o', run, same⟩ := first.of_attempt
    cases o' <;> cases same
    exact ⟨_, run, rfl⟩

/-! ### What runs preserve -/

/-- Every request of a program, whatever is answered, is one of some kind. -/
def Demands (kind : Request → Prop) : Program ε α → Prop
  | .done _ | .fail _ | .overflow => True
  | .request r next => kind r ∧ ∀ response, (next response).Demands kind
  | .clock next => ∀ now, (next now).Demands kind
  | .measure _ next => next.Demands kind

namespace Demands

variable {kind : Request → Prop} {p : Program ε α}

/-- A program asks for what its parts ask for. -/
theorem bind {k : α → Program ε β} (first : p.Demands kind)
    (next : ∀ a, (k a).Demands kind) : (p.bind k).Demands kind := by
  induction p with
  | done a => exact next a
  | fail _ => trivial
  | overflow => trivial
  | request r following ih => exact ⟨first.1, fun response => ih response (first.2 response)⟩
  | clock following ih => exact fun now => ih now (first now)
  | measure m following ih => exact ih first

theorem attempt (h : p.Demands kind) : (p.attempt : Program ε' _).Demands kind := by
  induction p with
  | done _ => trivial
  | fail _ => trivial
  | overflow => trivial
  | request r next ih => exact ⟨h.1, fun response => ih response (h.2 response)⟩
  | clock next ih => exact fun now => ih now (h now)
  | measure m next ih => exact ih h

theorem ofExcept (r : Except ε α) : (ofExcept r).Demands kind := by cases r <;> trivial

theorem mapFailure (f : ε → ε') (h : p.Demands kind) : (p.mapFailure f).Demands kind := by
  rw [mapFailure_eq]
  exact h.attempt.bind fun _ => .ofExcept _

theorem mono {kind' : Request → Prop} (h : p.Demands kind) (imp : ∀ r, kind r → kind' r) :
    p.Demands kind' := by
  induction p with
  | done _ => trivial
  | fail _ => trivial
  | overflow => trivial
  | request r next ih => exact ⟨imp r h.1, fun response => ih response (h.2 response)⟩
  | clock next ih => exact fun now => ih now (h now)
  | measure m next ih => exact ih h

end Demands

theorem Runs.mono {meets' : Exchange → Prop} {p : Program ε α} {o : Outcome ε α}
    (h : p.Runs meets s es o s') (imp : ∀ e, meets e → meets' e) : p.Runs meets' s es o s' := by
  induction h with
  | done a s => exact .done a s
  | fail e s => exact .fail e s
  | overflow s => exact .overflow s
  | request met _ ih => exact .request (imp _ met) ih
  | clock now valid _ ih => exact .clock now valid ih
  | measure _ ih => exact .measure ih

/-- A run whose exchanges meet another condition is a run under that condition. -/
theorem Runs.of_mem {meets' : Exchange → Prop} {p : Program ε α} {o : Outcome ε α}
    (h : p.Runs meets s es o s') (imp : ∀ e ∈ es, meets' e) : p.Runs meets' s es o s' := by
  induction h with
  | done a s => exact .done a s
  | fail e s => exact .fail e s
  | overflow s => exact .overflow s
  | request _ _ ih =>
    obtain ⟨first, rest⟩ := List.forall_mem_cons.1 imp
    exact .request first (ih rest)
  | clock now valid _ ih => exact .clock now valid (ih imp)
  | measure _ ih => exact .measure (ih imp)

/-- Every exchange of a run meets what is to be met. -/
theorem Runs.met {p : Program ε α} {o : Outcome ε α} (h : p.Runs meets s es o s') :
    ∀ e ∈ es, meets e := by
  induction h with
  | done _ _ => exact fun _ mem => absurd mem List.not_mem_nil
  | fail _ _ => exact fun _ mem => absurd mem List.not_mem_nil
  | overflow _ => exact fun _ mem => absurd mem List.not_mem_nil
  | request met _ ih => exact List.forall_mem_cons.2 ⟨met, ih⟩
  | clock _ _ _ ih => exact ih
  | measure _ ih => exact ih

/-- The exchanges of a run are about requests of the program, and meet the condition. -/
theorem Runs.mem {kind : Request → Prop} {p : Program ε α} {o : Outcome ε α}
    (h : p.Runs meets s es o s') (demands : p.Demands kind) :
    ∀ e ∈ es, meets e ∧ kind e.request := by
  induction h with
  | done _ _ => exact fun _ mem => absurd mem List.not_mem_nil
  | fail _ _ => exact fun _ mem => absurd mem List.not_mem_nil
  | overflow _ => exact fun _ mem => absurd mem List.not_mem_nil
  | request met _ ih => exact List.forall_mem_cons.2 ⟨⟨met, demands.1⟩, ih (demands.2 _)⟩
  | clock now _ _ ih => exact ih (demands now)
  | measure _ ih => exact ih demands

/-! ### What holds after every run -/

/-- What holds after every run of a program from a server: of its requests, its end, and what the
server is then. -/
def Ensures (meets : Exchange → Prop) (p : Program ε α) (s : Server)
    (post : List Exchange → Outcome ε α → Server → Prop) : Prop :=
  ∀ es o s', p.Runs meets s es o s' → post es o s'

/-- Every run of a program from a server comes to a result of which something holds. -/
def Achieves (meets : Exchange → Prop) (p : Program ε α) (s : Server)
    (post : List Exchange → α → Server → Prop) : Prop :=
  p.Ensures meets s fun es o s' => ∃ a, o = .done a ∧ post es a s'

namespace Ensures

variable {p : Program ε α} {post post' : List Exchange → Outcome ε α → Server → Prop}

theorem done {a : α} (h : post [] (.done a) s) : (Program.done a).Ensures meets s post := by
  intro es o s' run
  cases run
  exact h

theorem fail {e : ε} (h : post [] (.failed e) s) : (Program.fail e).Ensures meets s post := by
  intro es o s' run
  cases run
  exact h

theorem overflow (h : post [] .overflow s) : Program.overflow.Ensures meets s post := by
  intro es o s' run
  cases run
  exact h

/-- A request is answered in some way, and what follows has to hold for each. -/
theorem request {r : Request} {next : Response → Program ε α}
    (h : ∀ response after, meets ⟨s, r, response, after⟩ →
      (next response).Ensures meets after fun es => post (⟨s, r, response, after⟩ :: es)) :
    (Program.request r next).Ensures meets s post := by
  intro es o s' run
  cases run with
  | request met rest => exact h _ _ met _ _ _ rest

theorem ofExcept {r : Except ε α} (h : post [] (.ofExcept r) s) :
    (Program.ofExcept r).Ensures meets s post := by
  cases r with
  | ok a => exact .done h
  | error e => exact .fail h

theorem clock {next : Timestamp → Program ε α}
    (h : ∀ now : Timestamp, now.Valid → (next now).Ensures meets s post) :
    (Program.clock next).Ensures meets s post := by
  intro es o s' run
  cases run with
  | clock now valid rest => exact h now valid _ _ _ rest

theorem measure {m : Measurement} (h : p.Ensures meets s post) :
    (Program.measure m p).Ensures meets s post := by
  intro es o s' run
  cases run with
  | measure rest => exact h _ _ _ rest

theorem mono (h : p.Ensures meets s post) (imp : ∀ es o s', post es o s' → post' es o s') :
    p.Ensures meets s post' :=
  fun es o s' run => imp es o s' (h es o s' run)

theorem and (h : p.Ensures meets s post) (h' : p.Ensures meets s post') :
    p.Ensures meets s fun es o s' => post es o s' ∧ post' es o s' :=
  fun es o s' run => ⟨h es o s' run, h' es o s' run⟩

/-- What the first part ensures is what the second one starts from, or the end if there is no
result. -/
theorem bind {k : α → Program ε β} {result : List Exchange → Outcome ε β → Server → Prop}
    (first : p.Ensures meets s post)
    (next : ∀ es a s₁, post es (.done a) s₁ →
      (k a).Ensures meets s₁ fun es' => result (es ++ es'))
    (failed : ∀ es e s', post es (.failed e) s' → result es (.failed e) s')
    (overflow : ∀ es s', post es .overflow s' → result es .overflow s') :
    (p.bind k).Ensures meets s result := by
  intro es o s' run
  rcases run.of_bind with ⟨es₁, a, s₁, es₂, run₁, run₂, rfl⟩ | ⟨e, run₁, rfl⟩ | ⟨run₁, rfl⟩
  · exact next es₁ a s₁ (first _ _ _ run₁) _ _ _ run₂
  · exact failed es e s' (first _ _ _ run₁)
  · exact overflow es s' (first _ _ _ run₁)

/-- Two programs one after the other have no result if the second has none. -/
theorem bind_fails {k : α → Program ε β}
    (next : ∀ a s₁, (k a).Ensures meets s₁ fun _ o _ => ∀ b, o ≠ .done b) :
    (p.bind k).Ensures meets s fun _ o _ => ∀ b, o ≠ .done b := by
  have anyway : p.Ensures meets s fun _ _ _ => True := fun _ _ _ _ => trivial
  refine bind anyway (fun _ a s₁ _ => next a s₁) ?_ ?_
  · rintro es e s' - b ⟨⟩
  · rintro es s' - b ⟨⟩

/-- A failure that is turned into another one is ensured as that. -/
theorem mapFailure {f : ε → ε'} {result : List Exchange → Outcome ε' α → Server → Prop}
    (h : p.Ensures meets s fun es o => result es (o.mapFailure f)) :
    (p.mapFailure f).Ensures meets s result := by
  intro es o s' run
  obtain ⟨o', inner, rfl⟩ := run.of_mapFailure
  exact h es o' s' inner

theorem attempt {result : List Exchange → Outcome ε' (Except ε α) → Server → Prop}
    (h : p.Ensures meets s fun es o => result es o.attempt) :
    p.attempt.Ensures meets s result := by
  intro es o s' run
  obtain ⟨o', inner, rfl⟩ := run.of_attempt
  exact h es o' s' inner

/-- What is attempted ends as it would, with its failure for a result. -/
theorem attempted (h : p.Ensures meets s post) :
    (p.attempt : Program ε' _).Ensures meets s fun es r s' => ∃ o, r = o.attempt ∧ post es o s' :=
  .attempt (h.mono fun _ o _ holds => ⟨o, rfl, holds⟩)

end Ensures

namespace Achieves

variable {p : Program ε α} {post post' : List Exchange → α → Server → Prop}

theorem done {a : α} (h : post [] a s) : (Program.done a : Program ε α).Achieves meets s post :=
  Ensures.done ⟨a, rfl, h⟩

/-- A request is answered in some way, and what follows achieves its end. -/
theorem request {r : Request} {next : Response → Program ε α}
    (h : ∀ response after, meets ⟨s, r, response, after⟩ →
      (next response).Achieves meets after fun es => post (⟨s, r, response, after⟩ :: es)) :
    (Program.request r next).Achieves meets s post :=
  Ensures.request h

theorem clock {next : Timestamp → Program ε α}
    (h : ∀ now : Timestamp, now.Valid → (next now).Achieves meets s post) :
    (Program.clock next).Achieves meets s post :=
  Ensures.clock h

theorem measure {m : Measurement} (h : p.Achieves meets s post) :
    (Program.measure m p).Achieves meets s post :=
  Ensures.measure h

theorem mono (h : p.Achieves meets s post) (imp : ∀ es a s', post es a s' → post' es a s') :
    p.Achieves meets s post' :=
  Ensures.mono h fun es _ s' ⟨a, done, holds⟩ => ⟨a, done, imp es a s' holds⟩

/-- After a part that achieves its end only its result is to be gone on from. -/
theorem bind_ensures {k : α → Program ε β}
    {result : List Exchange → Outcome ε β → Server → Prop} (first : p.Achieves meets s post)
    (next : ∀ es a s₁, post es a s₁ → (k a).Ensures meets s₁ fun es' => result (es ++ es')) :
    (p.bind k).Ensures meets s result := by
  refine Ensures.bind first ?_ ?_ ?_
  · rintro es a s₁ ⟨_, ⟨⟩, holds⟩
    exact next es a s₁ holds
  · rintro es e s' ⟨_, ⟨⟩, -⟩
  · rintro es s' ⟨_, ⟨⟩, -⟩

/-- Two parts that achieve their ends achieve that of the second. -/
theorem bind {k : α → Program ε β} {result : List Exchange → β → Server → Prop}
    (first : p.Achieves meets s post)
    (next : ∀ es a s₁, post es a s₁ → (k a).Achieves meets s₁ fun es' => result (es ++ es')) :
    (p.bind k).Achieves meets s result :=
  bind_ensures first next

/-- Where there is no failure, it does not matter what it is turned into. -/
theorem mapFailure {f : ε → ε'} (h : p.Achieves meets s post) :
    (p.mapFailure f).Achieves meets s post := by
  refine Ensures.mapFailure (Ensures.mono h ?_)
  rintro es o s' ⟨a, rfl, holds⟩
  exact ⟨a, rfl, holds⟩

theorem attempt (h : p.Achieves meets s post) :
    (p.attempt : Program ε' _).Achieves meets s fun es r s' => ∃ a, r = .ok a ∧ post es a s' := by
  refine Ensures.attempt (Ensures.mono h ?_)
  rintro es o s' ⟨a, rfl, holds⟩
  exact ⟨_, rfl, a, rfl, holds⟩

/-- There is a run that comes to a result, if every request can be answered. -/
theorem exists_run (h : p.Achieves meets s post)
    (total : ∀ s r, ∃ response after, meets ⟨s, r, response, after⟩) :
    ∃ es a s', p.Runs meets s es (.done a) s' ∧ post es a s' := by
  obtain ⟨es, o, s', run⟩ := exists_runs total p s
  obtain ⟨a, rfl, holds⟩ := h es o s' run
  exact ⟨es, a, s', run, holds⟩

end Achieves

end Program

end ReplicaSetOperator
