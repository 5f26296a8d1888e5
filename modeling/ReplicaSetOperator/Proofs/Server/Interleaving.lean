import Mathlib.Logic.Function.Basic
import ReplicaSetOperator.Api.Client
import ReplicaSetOperator.Server.World

/-!
# Interleaved programs

Programs that talk to one server, each at its own pace: at any time any of them that is not at its
end takes its next step (`Interleaves`). A run lists the requests with what the server was before
and after each of them. Between any two requests it is a run of its own (`Interleaves.split`).
-/

namespace ReplicaSetOperator

/-- A request that has been answered, with the server before and after it. -/
structure Exchange where
  before : Server
  request : Request
  response : Response
  after : Server

/-- What a server that serves makes of a request. -/
def Server.exchange (s : Server) (r : Request) : Exchange where
  before := s
  request := r
  response := (s.serve r).2
  after := (s.serve r).1

/-- A request to change something that the server has granted. -/
def Exchange.Writes (e : Exchange) : Prop :=
  e.request.verb ≠ .get ∧ e.response.isFailure = false

section

variable {ι ε α : Type} [DecidableEq ι]

/-- A run of several programs from given places of theirs: the requests in order, each with the
program that made it, and where the server and the programs are then. -/
inductive Interleaves (s₀ : Server) (start : ι → Program ε α) :
    List (ι × Exchange) → Server → (ι → Program ε α) → Prop
  | start : Interleaves s₀ start [] s₀ start
  | request {turns : List (ι × Exchange)} {s : Server} {programs : ι → Program ε α} {i : ι}
    {r : Request} {next : Response → Program ε α} (before : Interleaves s₀ start turns s programs)
    (due : programs i = .request r next) :
    Interleaves s₀ start (turns ++ [(i, s.exchange r)]) (s.serve r).1
      (Function.update programs i (next (s.serve r).2))
  | clock {turns : List (ι × Exchange)} {s : Server} {programs : ι → Program ε α} {i : ι}
    {next : Timestamp → Program ε α} (before : Interleaves s₀ start turns s programs)
    (due : programs i = .clock next) (now : Timestamp) :
    Interleaves s₀ start turns s (Function.update programs i (next now))
  | measure {turns : List (ι × Exchange)} {s : Server} {programs : ι → Program ε α} {i : ι}
    {m : Measurement} {next : Program ε α} (before : Interleaves s₀ start turns s programs)
    (due : programs i = .measure m next) :
    Interleaves s₀ start turns s (Function.update programs i next)

end

end ReplicaSetOperator
