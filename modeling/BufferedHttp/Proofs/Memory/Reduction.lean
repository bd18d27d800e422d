import BufferedHttp.Proofs.Memory.Stages

/-!
# Setups with a single failure

A setup reduced to one of its stages: every failure but that of the stage is taken out, and all
else stays as it is. A handler whose status a host does not take answers with another status then,
so that setting it does not fail.
-/

namespace BufferedHttp

/-! ## Handlers with a status that is taken -/

/-- The response with a status that a host takes. -/
def Response.settled (r : Response) : Response :=
  if 100 ≤ r.status ∧ r.status ≤ 999 then r else { r with status := 200 }

def Answer.settled : Answer → Answer
  | .response r => .response r.settled
  | .internalError => .internalError

def Handling.mapResult (f : Except Failure Response → Except Failure Response) :
    Handling → Handling
  | done result => done (f result)
  | send config request next => send config request fun received => (next received).mapResult f

/-- The handler that settles every response of another. -/
def Handler.settled (handler : Handler) : Handler :=
  fun request => (handler request).mapResult (·.map Response.settled)

namespace Script

/-- The data of all steps, none of them failing. -/
def unbroken (script : Script) : Script :=
  script.filter fun
    | .data _ => true
    | .fail _ => false

end Script

/-- Only the fault of one write. -/
def WriteFaults.only (number : Nat) : Option StreamError → WriteFaults
  | some .closed => ⟨some number, .none⟩
  | some (.failed message) => ⟨.none, some (number, message)⟩
  | .none => .none

namespace Memory

/-! ## Reducing a setup to a stage -/

/-- The request with every failure taken out but that of a stage. -/
def IncomingRequest.only (request : IncomingRequest) (stage : Stage) : IncomingRequest where
  method := request.method
  path := request.path
  headers := request.headers
  script :=
    match stage with
    | .read step =>
      request.script.take (step + 1) ++ Script.unbroken (request.script.drop (step + 1))
    | _ => request.script.unbroken
  consumed := if stage = .consume then request.consumed else false
  streamFault := if stage = .openInput then request.streamFault else none

/-- The out-parameter with every failure taken out but that of a stage. -/
def Outparam.only (out : Outparam) (stage : Stage) : Outparam where
  writeFailure := none
  rejected := if stage = .newResponse then out.rejected else []
  faults :=
    { newResponse := if stage = .newResponse then out.faults.newResponse else none
      status := if stage = .setStatus then out.faults.status else none
      body := if stage = .takeBody then out.faults.body else none
      stream := if stage = .openOutput then out.faults.stream else none
      writes :=
        match stage with
        | .write number => .only number (out.writeFault? number)
        | _ => .none
      finish := if stage = .finish then out.faults.finish else none }

/-- The setup with every failure taken out but that of a stage. -/
def Setup.only (s : Setup) (stage : Stage) : Setup where
  config := s.config
  handler := if stage = .setStatus then s.handler else s.handler.settled
  request := s.request.only stage
  out := s.out.only stage

section Only

variable {stage : Stage}

end Only

end Memory

end BufferedHttp
