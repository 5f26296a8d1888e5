import ReplicaSetOperator.Api.Request
import ReplicaSetOperator.Automation.Document
import ReplicaSetOperator.Text.Timestamp

/-!
# Programs

A `Program` is a computation that talks to the server, reads the clock and counts measurements. It
is a tree: every request holds what is done next for each answer. A program that is done has a
result or a failure; one that runs into an arithmetic overflow stops without either.

Programs are run elsewhere, one after another or several at a time, step by step.
-/

namespace ReplicaSetOperator

/-- Something that is counted. -/
inductive Measurement where
  /-- A reconciliation has started, and its duration is observed for a controller. -/
  | reconciliation (controller : String)
  /-- The members of a cluster are to run a TLS mode. -/
  | tlsMode («namespace» cluster : String) (mode : TlsMode)
  /-- A cluster is gone. -/
  | forget («namespace» cluster : String)
  /-- A reconciliation of a cluster has failed. -/
  | failure (cluster label : String)
deriving DecidableEq, Inhabited

/-- A computation that ends with an `α` or fails with an `ε`. -/
inductive Program (ε α : Type) where
  | done (result : α)
  | fail (error : ε)
  | overflow
  | request (r : Request) (next : Response → Program ε α)
  | clock (next : Timestamp → Program ε α)
  | measure (m : Measurement) (next : Program ε α)
deriving Inhabited

namespace Program

variable {ε ε' α β : Type}

/-- Goes on with the result of a program. -/
def bind : Program ε α → (α → Program ε β) → Program ε β
  | .done a, k => k a
  | .fail e, _ => .fail e
  | .overflow, _ => .overflow
  | .request r next, k => .request r fun response => bind (next response) k
  | .clock next, k => .clock fun now => bind (next now) k
  | .measure m next, k => .measure m (bind next k)

instance : Monad (Program ε) where
  pure := .done
  bind := bind

/-- Turns the result or the failure of a program into a result. -/
def attempt : Program ε α → Program ε' (Except ε α)
  | .done a => .done (.ok a)
  | .fail e => .done (.error e)
  | .overflow => .overflow
  | .request r next => .request r fun response => attempt (next response)
  | .clock next => .clock fun now => attempt (next now)
  | .measure m next => .measure m (attempt next)

/-- Turns the failure of a program into another one. -/
def mapFailure (f : ε → ε') : Program ε α → Program ε' α
  | .done a => .done a
  | .fail e => .fail (f e)
  | .overflow => .overflow
  | .request r next => .request r fun response => mapFailure f (next response)
  | .clock next => .clock fun now => mapFailure f (next now)
  | .measure m next => .measure m (mapFailure f next)

/-- Ends with a given result or failure. -/
def ofExcept : Except ε α → Program ε α
  | .ok a => .done a
  | .error e => .fail e

/-- The answer to a request. -/
def send (r : Request) : Program ε Response := .request r .done

/-- The time, in whole seconds. -/
def now : Program ε Timestamp := .clock .done

/-- Counts a measurement. -/
def count (m : Measurement) : Program ε Unit := .measure m (.done ())

@[simp] theorem pure_eq (a : α) : (pure a : Program ε α) = .done a := rfl

@[simp] theorem bind_eq (p : Program ε α) (k : α → Program ε β) : (p >>= k) = p.bind k := rfl

@[simp] theorem bind_done (a : α) (k : α → Program ε β) : (Program.done a).bind k = k a := rfl

@[simp] theorem bind_fail (e : ε) (k : α → Program ε β) :
    (Program.fail e : Program ε α).bind k = .fail e := rfl

@[simp] theorem bind_request (r : Request) (next : Response → Program ε α)
    (k : α → Program ε β) :
    (Program.request r next).bind k = .request r fun response => (next response).bind k := rfl

/-- Going on with what is already the result changes nothing. -/
theorem bind_pure (p : Program ε α) : p.bind .done = p := by
  induction p with
  | done _ => rfl
  | fail _ => rfl
  | overflow => rfl
  | request r next ih => simp only [bind, ih]
  | clock next ih => simp only [bind, ih]
  | measure m next ih => simp only [bind, ih]

/-- Going on twice is going on once with both. -/
theorem bind_assoc {γ : Type} (p : Program ε α) (k : α → Program ε β) (l : β → Program ε γ) :
    (p.bind k).bind l = p.bind fun a => (k a).bind l := by
  induction p with
  | done _ => rfl
  | fail _ => rfl
  | overflow => rfl
  | request r next ih => simp only [bind, ih]
  | clock next ih => simp only [bind, ih]
  | measure m next ih => simp only [bind, ih]

end Program

end ReplicaSetOperator
