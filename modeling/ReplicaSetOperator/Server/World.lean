import ReplicaSetOperator.Api.Program
import ReplicaSetOperator.Operator.Metrics
import ReplicaSetOperator.Server.Basic

/-!
# Running programs

A `World` is what programs act on: a server, the metrics, the time, and the requests that were
made. `Program.run` runs a program to its end.
-/

namespace ReplicaSetOperator

/-- What programs act on. -/
structure World where
  server : Server := {}
  metrics : Metrics := {}
  now : Timestamp := default
  /-- The requests in order, each with the code of its answer. -/
  log : List (Request × Nat) := []
deriving DecidableEq, Inhabited

/-- How a program ends. -/
inductive Outcome (ε α : Type) where
  | done (result : α)
  | failed (error : ε)
  | overflow
deriving Inhabited

namespace World

/-- The world after a request, and the answer to it. -/
def answer (w : World) (r : Request) : World × Response :=
  let (server, response) := w.server.handle r
  ({ w with server := server, log := w.log ++ [(r, response.code)] }, response)

/-- The world after a measurement. -/
def measured (w : World) (m : Measurement) : World :=
  { w with metrics := w.metrics.record m }

end World

/-- Runs a program: how it ends, and what the world is then. -/
def Program.run {ε α : Type} : Program ε α → World → Outcome ε α × World
  | .done a, w => (.done a, w)
  | .fail e, w => (.failed e, w)
  | .overflow, w => (.overflow, w)
  | .request r next, w =>
    let (w, response) := w.answer r
    run (next response) w
  | .clock next, w => run (next w.now) w
  | .measure m next, w => run next (w.measured m)

end ReplicaSetOperator
