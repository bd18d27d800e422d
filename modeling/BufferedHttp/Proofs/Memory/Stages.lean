import BufferedHttp.Proofs.Memory.Reads
import BufferedHttp.Proofs.Memory.Truncation

/-!
# The stages of serving

Serving goes through stages one after the other, each a check or a call of the host, and each reads
and writes are stages of their own. A stage that fails ends the run with its error. Which stages
there are behind the reading of the request, and in which order, depends on the answer.
-/

namespace BufferedHttp

namespace Script

/-- The message of a step that fails. -/
def failureAt? (script : Script) (i : Nat) : Option String :=
  script[i]?.bind fun
    | .data _ => none
    | .fail message => some message

end Script

namespace Memory

inductive Stage where
  | validate
  | consume
  | openInput
  | read (step : Nat)
  | newResponse
  | setStatus
  | takeBody
  | openOutput
  | write (number : Nat)
  | finish
  deriving DecidableEq

/-- All that decides how serving goes, but for the world. -/
structure Setup where
  config : Config
  handler : Handler
  request : IncomingRequest
  out : Outparam

namespace Setup

def serve (s : Setup) : Action World Unit := host.serve s.config s.handler s.request s.out

/-- The answer that serving chooses: for a request that is not shown to the handler and for a
handler that fails it is the internal error. -/
def answer (s : Setup) (w : World) : Answer :=
  match s.config.limits with
  | .error _ => .internalError
  | .ok limits =>
    match host.receiveRequest limits s.request w with
    | .ok received w₁ => (Host.answer (s.handler.on host) received w₁).1
    | .error _ _ => .internalError

/-- The error of a stage, if it is one that fails. -/
def failure? (s : Setup) (answer : Answer) : Stage → Option Error
  | .validate =>
    match s.config.limits with
    | .error fault => some fault.toError
    | .ok _ => none
  | .consume => if s.request.consumed then some (.body "request body already consumed") else none
  | .openInput => s.request.streamFault.map .body
  | .read step => (s.request.script.failureAt? step).map .stream
  | .newResponse =>
    match s.out.newResponse answer.fields with
    | .error e => some e
    | .ok _ => none
  | .setStatus => s.out.faults.ofStatus? answer.status
  | .takeBody => s.out.faults.body.map .body
  | .openOutput => s.out.faults.stream.map .body
  | .write number => (s.out.writeFault? number).map StreamError.ofWrite
  | .finish => s.out.faults.finish.map .host

/-- As many writes as the body of an answer needs. -/
def writes (s : Setup) (answer : Answer) : Nat :=
  (answer.bytes.length + (s.config.writeChunkSize.toNat - 1)) / s.config.writeChunkSize.toNat

end Setup

/-! ## The first stage to fail -/

section First

variable {s : Setup} {answer : Answer} {stage : Stage} {e : Error} {p : Stage → Bool}

end First

/-! ## Receiving -/

section Receiving

variable {s : Setup} {answer : Answer} {stage : Stage} {e : Error}

end Receiving

/-! ## Answering -/

section Answering

variable {s : Setup} {limits : Limits} {answer : Answer} {r : Response} {stage : Stage} {e : Error}
  {w w₁ : World} {events : List Event}

end Answering

end Memory

end BufferedHttp
