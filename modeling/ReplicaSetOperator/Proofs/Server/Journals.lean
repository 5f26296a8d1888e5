import ReplicaSetOperator.Proofs.Server.Serving

/-!
# Runs with all that happens in them

A run tells which requests have been made. `Program.Logs` is a run with a journal of all that has
happened in it: the exchanges, the times that the clock has shown and what has been counted, in
order.

* `Program.Logs.runs` and `Program.Runs.exists_logs`: the exchanges of the journal are those of the
  run, and every run has a journal.
* `Program.Does`: what can come to stand in a journal is read off the program, whatever it is told,
  for example that nothing is counted (`Program.Silent`).
* `Program.Recounts`: every run comes to a result, of which something holds together with the
  journal; it has a rule for each way to make a program.
-/

namespace ReplicaSetOperator

/-- Something that happens while a program runs. -/
inductive Entry where
  | exchange (e : Exchange)
  | reading (now : Timestamp)
  | count (m : Measurement)

namespace Entry

/-- The exchange, if it is one. -/
def exchange? : Entry → Option Exchange
  | .exchange e => some e
  | _ => none

/-- The time, if it is read from the clock. -/
def reading? : Entry → Option Timestamp
  | .reading now => some now
  | _ => none

/-- The measurement, if something is counted. -/
def count? : Entry → Option Measurement
  | .count m => some m
  | _ => none

/-- The exchanges in a journal. -/
def exchanges (js : List Entry) : List Exchange := js.filterMap exchange?

/-- The times that the clock has shown. -/
def readings (js : List Entry) : List Timestamp := js.filterMap reading?

/-- What has been counted. -/
def measurements (js : List Entry) : List Measurement := js.filterMap count?

variable {js js' : List Entry}

/-- Readings of the clock are gathered entry by entry. -/
theorem readings_append : readings (js ++ js') = readings js ++ readings js' :=
  List.filterMap_append

theorem measurements_append : measurements (js ++ js') = measurements js ++ measurements js' :=
  List.filterMap_append

theorem readings_eq_nil (h : ∀ j ∈ js, j.reading? = none) : readings js = [] :=
  List.filterMap_eq_nil_iff.2 h

theorem measurements_eq_nil (h : ∀ j ∈ js, j.count? = none) : measurements js = [] :=
  List.filterMap_eq_nil_iff.2 h

end Entry

namespace Program

variable {ε ε' α β : Type} {meets : Exchange → Prop} {s s' : Server} {js : List Entry}

/-- A run of a program from a server: what happens in order, how it ends, and what the server is
then. -/
inductive Logs (meets : Exchange → Prop) :
    Program ε α → Server → List Entry → Outcome ε α → Server → Prop
  | done (a : α) (s : Server) : Logs meets (.done a) s [] (.done a) s
  | fail (e : ε) (s : Server) : Logs meets (.fail e) s [] (.failed e) s
  | overflow (s : Server) : Logs meets .overflow s [] .overflow s
  | request {r : Request} {next : Response → Program ε α} {s after s' : Server}
    {response : Response} {js : List Entry} {o : Outcome ε α}
    (met : meets ⟨s, r, response, after⟩) (rest : Logs meets (next response) after js o s') :
    Logs meets (.request r next) s (.exchange ⟨s, r, response, after⟩ :: js) o s'
  | clock {next : Timestamp → Program ε α} {s s' : Server} {js : List Entry}
    {o : Outcome ε α} (now : Timestamp) (valid : now.Valid)
    (rest : Logs meets (next now) s js o s') :
    Logs meets (.clock next) s (.reading now :: js) o s'
  | measure {m : Measurement} {next : Program ε α} {s s' : Server} {js : List Entry}
    {o : Outcome ε α} (rest : Logs meets next s js o s') :
    Logs meets (.measure m next) s (.count m :: js) o s'

/-- A run with a journal is a run. -/
theorem Logs.runs {p : Program ε α} {o : Outcome ε α} (h : p.Logs meets s js o s') :
    p.Runs meets s (Entry.exchanges js) o s' := by
  induction h with
  | done a s => exact .done a s
  | fail e s => exact .fail e s
  | overflow s => exact .overflow s
  | request met _ ih => exact .request met ih
  | clock now valid _ ih => exact .clock now valid ih
  | measure _ ih => exact .measure ih

/-- Every run has a journal. -/
theorem Runs.exists_logs {p : Program ε α} {es : List Exchange} {o : Outcome ε α}
    (h : p.Runs meets s es o s') : ∃ js, p.Logs meets s js o s' ∧ Entry.exchanges js = es := by
  -- by induction on the run, each step of which is an entry
  induction h with
  | done a s => exact ⟨[], .done a s, rfl⟩
  | fail e s => exact ⟨[], .fail e s, rfl⟩
  | overflow s => exact ⟨[], .overflow s, rfl⟩
  | @request r next s after s' response es o met _ ih =>
    obtain ⟨js, rest, same⟩ := ih
    exact ⟨.exchange ⟨s, r, response, after⟩ :: js, .request met rest,
      congrArg (Exchange.mk s r response after :: ·) same⟩
  | clock now valid _ ih =>
    obtain ⟨js, rest, same⟩ := ih
    exact ⟨_, .clock now valid rest, same⟩
  | measure _ ih =>
    obtain ⟨js, rest, same⟩ := ih
    exact ⟨_, .measure rest, same⟩

theorem Logs.mono {meets' : Exchange → Prop} {p : Program ε α} {o : Outcome ε α}
    (h : p.Logs meets s js o s') (imp : ∀ e, meets e → meets' e) : p.Logs meets' s js o s' := by
  induction h with
  | done a s => exact .done a s
  | fail e s => exact .fail e s
  | overflow s => exact .overflow s
  | request met _ ih => exact .request (imp _ met) ih
  | clock now valid _ ih => exact .clock now valid ih
  | measure _ ih => exact .measure ih

/-- A run of two programs one after the other is a run of the first that ends with a result and one
of the second, or a run of the first that does not. -/
theorem Logs.of_bind {p : Program ε α} {k : α → Program ε β} {o : Outcome ε β}
    (h : (p.bind k).Logs meets s js o s') :
    (∃ js₁ a s₁ js₂, p.Logs meets s js₁ (.done a) s₁ ∧ (k a).Logs meets s₁ js₂ o s' ∧
      js = js₁ ++ js₂) ∨
    ∃ o', p.Logs meets s js o' s' ∧ (∀ a, o' ≠ .done a) ∧ ∀ b, o ≠ .done b := by
  -- by induction on the first program, which the run goes through until that ends
  induction p generalizing s js with
  | done a => exact .inl ⟨[], a, s, js, .done a _, h, rfl⟩
  | fail e =>
    cases h
    exact .inr ⟨_, .fail e _, (by rintro a ⟨⟩), by rintro b ⟨⟩⟩
  | overflow =>
    cases h
    exact .inr ⟨_, .overflow _, (by rintro a ⟨⟩), by rintro b ⟨⟩⟩
  | request r next ih =>
    cases h with
    | request met rest =>
      rcases ih _ rest with ⟨js₁, a, s₁, js₂, first, second, rfl⟩ | ⟨o', first, fails⟩
      · exact .inl ⟨_, a, s₁, js₂, .request met first, second, rfl⟩
      · exact .inr ⟨o', .request met first, fails⟩
  | clock next ih =>
    cases h with
    | clock now valid rest =>
      rcases ih _ rest with ⟨js₁, a, s₁, js₂, first, second, rfl⟩ | ⟨o', first, fails⟩
      · exact .inl ⟨_, a, s₁, js₂, .clock now valid first, second, rfl⟩
      · exact .inr ⟨o', .clock now valid first, fails⟩
  | measure m next ih =>
    cases h with
    | measure rest =>
      rcases ih rest with ⟨js₁, a, s₁, js₂, first, second, rfl⟩ | ⟨o', first, fails⟩
      · exact .inl ⟨_, a, s₁, js₂, .measure first, second, rfl⟩
      · exact .inr ⟨o', .measure first, fails⟩

/-- There is a run in which the clock shows nothing but a given time, if every request can be
answered. -/
theorem exists_logs_at {now : Timestamp} (valid : now.Valid)
    (total : ∀ s r, ∃ response after, meets ⟨s, r, response, after⟩) (p : Program ε α)
    (s : Server) : ∃ js o s', p.Logs meets s js o s' ∧ ∀ t ∈ Entry.readings js, t = now := by
  -- each look at the clock may show the same time
  induction p generalizing s with
  | done a => exact ⟨_, _, _, .done a s, fun _ mem => absurd mem List.not_mem_nil⟩
  | fail e => exact ⟨_, _, _, .fail e s, fun _ mem => absurd mem List.not_mem_nil⟩
  | overflow => exact ⟨_, _, _, .overflow s, fun _ mem => absurd mem List.not_mem_nil⟩
  | request r next ih =>
    obtain ⟨response, after, met⟩ := total s r
    obtain ⟨js, o, s', rest, shown⟩ := ih response after
    exact ⟨_, o, s', .request met rest, shown⟩
  | clock next ih =>
    obtain ⟨js, o, s', rest, shown⟩ := ih now s
    exact ⟨_, o, s', .clock now valid rest, List.forall_mem_cons.2 ⟨rfl, shown⟩⟩
  | measure m next ih =>
    obtain ⟨js, o, s', rest, shown⟩ := ih s
    exact ⟨_, o, s', .measure rest, shown⟩

/-! ### What programs can do -/

/-- Everything that a program does, whatever it is told, is of some kind. -/
def Does (kind : Entry → Prop) : Program ε α → Prop
  | .done _ | .fail _ | .overflow => True
  | .request r next =>
    (∀ e : Exchange, e.request = r → kind (.exchange e)) ∧ ∀ response, (next response).Does kind
  | .clock next => ∀ now, kind (.reading now) ∧ (next now).Does kind
  | .measure m next => kind (.count m) ∧ next.Does kind

namespace Does

variable {kind : Entry → Prop} {p : Program ε α}

/-- A program does what its parts do. -/
theorem bind {k : α → Program ε β} (first : p.Does kind) (next : ∀ a, (k a).Does kind) :
    (p.bind k).Does kind := by
  induction p with
  | done a => exact next a
  | fail _ => trivial
  | overflow => trivial
  | request r following ih => exact ⟨first.1, fun response => ih response (first.2 response)⟩
  | clock following ih => exact fun now => ⟨(first now).1, ih now (first now).2⟩
  | measure m following ih => exact ⟨first.1, ih first.2⟩

theorem attempt (h : p.Does kind) : (p.attempt : Program ε' _).Does kind := by
  induction p with
  | done _ => trivial
  | fail _ => trivial
  | overflow => trivial
  | request r next ih => exact ⟨h.1, fun response => ih response (h.2 response)⟩
  | clock next ih => exact fun now => ⟨(h now).1, ih now (h now).2⟩
  | measure m next ih => exact ⟨h.1, ih h.2⟩

theorem ofExcept (r : Except ε α) : (ofExcept r).Does kind := by cases r <;> trivial

theorem mapFailure (f : ε → ε') (h : p.Does kind) : (p.mapFailure f).Does kind := by
  rw [mapFailure_eq]
  exact h.attempt.bind fun _ => .ofExcept _

theorem mono {kind' : Entry → Prop} (h : p.Does kind) (imp : ∀ j, kind j → kind' j) :
    p.Does kind' := by
  induction p with
  | done _ => trivial
  | fail _ => trivial
  | overflow => trivial
  | request r next ih =>
    exact ⟨fun e same => imp _ (h.1 e same), fun response => ih response (h.2 response)⟩
  | clock next ih => exact fun now => ⟨imp _ (h now).1, ih now (h now).2⟩
  | measure m next ih => exact ⟨imp _ h.1, ih h.2⟩

/-- What a program can do says what it asks for. -/
theorem demands {asks : Request → Prop} (h : p.Does kind)
    (imp : ∀ e, kind (.exchange e) → asks e.request) : p.Demands asks := by
  induction p with
  | done _ => trivial
  | fail _ => trivial
  | overflow => trivial
  | request r next ih =>
    -- any exchange of the request will do, for example with a server that has no objects
    exact ⟨imp _ (h.1 (Server.exchange {} r) rfl), fun response => ih response (h.2 response)⟩
  | clock next ih => exact fun now => ih now (h now).2
  | measure m next ih => exact ih h.2

end Does

/-- Nothing that a program does is counted. -/
def Silent (p : Program ε α) : Prop := p.Does fun j => j.count? = none

/-- What stands in the journal of a run is something that the program does. -/
theorem Logs.mem {kind : Entry → Prop} {p : Program ε α} {o : Outcome ε α}
    (h : p.Logs meets s js o s') (does : p.Does kind) : ∀ j ∈ js, kind j := by
  induction h with
  | done _ _ => exact fun _ mem => absurd mem List.not_mem_nil
  | fail _ _ => exact fun _ mem => absurd mem List.not_mem_nil
  | overflow _ => exact fun _ mem => absurd mem List.not_mem_nil
  | request _ _ ih => exact List.forall_mem_cons.2 ⟨does.1 _ rfl, ih (does.2 _)⟩
  | clock now _ _ ih => exact List.forall_mem_cons.2 ⟨(does now).1, ih (does now).2⟩
  | measure _ ih => exact List.forall_mem_cons.2 ⟨does.1, ih does.2⟩

theorem Logs.measurements_of_silent {p : Program ε α} {o : Outcome ε α}
    (h : p.Logs meets s js o s') (silent : p.Silent) : Entry.measurements js = [] :=
  Entry.measurements_eq_nil (h.mem silent)

/-! ### What holds after every run -/

/-- Every run of a program from a server comes to a result, of which something holds together with
the journal. -/
def Recounts (meets : Exchange → Prop) (p : Program ε α) (s : Server)
    (post : List Entry → α → Server → Prop) : Prop :=
  ∀ js o s', p.Logs meets s js o s' → ∃ a, o = .done a ∧ post js a s'

namespace Recounts

variable {p : Program ε α} {post post' : List Entry → α → Server → Prop}

theorem done {a : α} (h : post [] a s) : (Program.done a : Program ε α).Recounts meets s post := by
  intro js o s' run
  cases run
  exact ⟨a, rfl, h⟩

/-- A request that is served is answered as the server answers it. -/
theorem served {r : Request} {next : Response → Program ε α}
    (serves : ∀ response after, meets ⟨s, r, response, after⟩ →
      (Exchange.mk s r response after).Served)
    (h : (next (s.serve r).2).Recounts meets (s.serve r).1
      fun js => post (.exchange ⟨s, r, (s.serve r).2, (s.serve r).1⟩ :: js)) :
    (Program.request r next).Recounts meets s post := by
  intro js o s' run
  cases run with
  | @request _ _ _ after _ response js _ met rest =>
    have answer : s.serve r = (after, response) := serves response after met
    rw [answer] at h
    exact h js o s' rest

theorem clock {next : Timestamp → Program ε α}
    (h : ∀ now : Timestamp, now.Valid → (next now).Recounts meets s
      fun js => post (.reading now :: js)) :
    (Program.clock next).Recounts meets s post := by
  intro js o s' run
  cases run with
  | clock now valid rest => exact h now valid _ _ _ rest

theorem mono (h : p.Recounts meets s post) (imp : ∀ js a s', post js a s' → post' js a s') :
    p.Recounts meets s post' := by
  intro js o s' run
  obtain ⟨a, isResult, holds⟩ := h js o s' run
  exact ⟨a, isResult, imp js a s' holds⟩

/-- Two parts have the entries of the first one before those of the second. -/
theorem bind {k : α → Program ε β} {result : List Entry → β → Server → Prop}
    (first : p.Recounts meets s post)
    (next : ∀ js a s₁, post js a s₁ → (k a).Recounts meets s₁ fun js' => result (js ++ js')) :
    (p.bind k).Recounts meets s result := by
  intro js o s' run
  rcases run.of_bind with ⟨js₁, a, s₁, js₂, run₁, run₂, rfl⟩ | ⟨o', run₁, fails, -⟩
  · obtain ⟨_, isResult, holds⟩ := first _ _ _ run₁
    cases isResult
    exact next js₁ a s₁ holds _ _ _ run₂
  · obtain ⟨a, isResult, -⟩ := first _ _ _ run₁
    exact absurd isResult (fails a)

/-- There is such a run, if every request can be answered. -/
theorem exists_logs (h : p.Recounts meets s post)
    (total : ∀ s r, ∃ response after, meets ⟨s, r, response, after⟩) :
    ∃ js a s', p.Logs meets s js (.done a) s' ∧ post js a s' := by
  obtain ⟨es, o, s', run⟩ := exists_runs total p s
  obtain ⟨js, logs, -⟩ := run.exists_logs
  obtain ⟨a, rfl, holds⟩ := h js o s' logs
  exact ⟨js, a, s', logs, holds⟩

end Recounts

/-- What is delivered is recounted, with what the program does. -/
theorem Delivers.recounts {kind : Request → Prop} {kind' : Entry → Prop} {p : Program ε α}
    {post : α → Server → Prop} (h : p.Delivers meets kind s post) (does : p.Does kind') :
    p.Recounts meets s fun js a s' => (∀ j ∈ js, kind' j) ∧ post a s' := by
  intro js o s' run
  obtain ⟨a, isResult, -, holds⟩ := h _ _ _ run.runs
  exact ⟨a, isResult, run.mem does, holds⟩

end Program

end ReplicaSetOperator
