import BufferedHttp.Transfer.Fill
import BufferedHttp.Transfer.Handler

/-!
# Serving a request

The request is read whole, shown to the handler, and the answer goes to the out-parameter: the
response of the handler, or an internal error response without headers and body when the handler
fails or a header does not decode. When anything fails before the out-parameter has its answer, it
gets an error instead, so it is resolved in every case. The body is written behind that.
-/

namespace BufferedHttp

inductive Answer where
  | response (r : Response)
  | internalError
  deriving DecidableEq

namespace Answer

def ofResult : Except Failure Response → Answer
  | .ok r => .response r
  | .error _ => .internalError

def status : Answer → UInt16
  | .response r => r.status
  | .internalError => 500

def fields : Answer → FieldList
  | .response r => r.headers.toFields
  | .internalError => []

def bytes : Answer → Bytes
  | .response r => r.bodyBytes
  | .internalError => []

end Answer

/-- What an out-parameter gets when there is no answer. -/
def abortMessage : String := "request aborted before a response was produced"

namespace Host

variable {World : Type}

/-- The request of a host as the handler gets it. The inner error is a header that does not
decode, which the client sees as a failure of the handler. -/
def receiveRequest (host : Host World) (limits : Limits) (request : host.IncomingRequest) :
    Action World (Except Error Request) := do
  let method ← modifyGet (host.requestMethod request)
  let (body, request) ← host.consumeRequest request
  let bytes ← host.drain limits.read_pos body
  let path ← modifyGet (host.requestPath request)
  let fields ← modifyGet (host.requestHeaders request)
  return match HeaderMap.ofFields fields with
    | .ok headers => .ok ⟨method, path.getD "/", headers, some bytes⟩
    | .error u => .error u.toError

/-- The answer to a request: what the service makes of it. -/
def answer (service : Service World) : Except Error Request → World → Answer × World
  | .error _, w => (.internalError, w)
  | .ok request, w =>
    let (result, w) := service request w
    (.ofResult result, w)

def answerRequest (host : Host World) (config : Config) (service : Service World)
    (request : host.IncomingRequest) : Action World (Limits × Answer) := do
  let limits ← .ofExcept (config.limits.mapError Config.Fault.toError)
  let received ← host.receiveRequest limits request
  let answer ← modifyGet (answer service received)
  return (limits, answer)

/-- Sets the status of an answer and takes its body; for an internal error the other way round. -/
def finishHead (host : Host World) (response : host.OutgoingResponse) :
    Answer → Action World (host.OutgoingResponse × host.OutgoingBody)
  | .response r => do
    let response ← host.setStatus response r.status
    let (body, response) ← host.takeBody response
    return (response, body)
  | .internalError => do
    let (body, response) ← host.takeBody response
    let response ← (host.setStatus response 500).onFailure (host.dropOutgoing body)
    return (response, body)

/-- The head of an answer, ready for the out-parameter, and its body. -/
def prepare (host : Host World) (out : host.Outparam) (answer : Answer) :
    Action World (host.OutgoingResponse × host.OutgoingBody) := do
  let response ← host.newResponse out answer.fields
  (host.finishHead response answer).onFailure (host.dropResponse response)

/-- Hands an answer to the out-parameter and keeps its body. -/
def deliver (host : Host World) (out : host.Outparam) (answer : Answer) :
    Action World host.OutgoingBody := do
  let (response, body) ← host.prepare out answer
  modify (host.resolve out response)
  return body

/-- Writes the body of an answer that was delivered. An internal error has none to write. -/
def complete (host : Host World) (limits : Limits) (body : host.OutgoingBody) :
    Answer → Action World Unit
  | .response r => host.fill body (chunked limits.write_pos r.bodyBytes)
  | .internalError => host.finishOutgoing body

/-- Everything up to the answer in the out-parameter. -/
def produce (host : Host World) (config : Config) (service : Service World)
    (request : host.IncomingRequest) (out : host.Outparam) :
    Action World (Limits × Answer × host.OutgoingBody) := do
  let (limits, answer) ← host.answerRequest config service request
  let body ← host.deliver out answer
  return (limits, answer, body)

def serveWith (host : Host World) (config : Config) (service : Service World)
    (request : host.IncomingRequest) (out : host.Outparam) : Action World Unit :=
  Action.ensuring (host.dropRequest request) do
    let (limits, answer, body) ←
      (host.produce config service request out).onFailure (host.reject out abortMessage)
    host.complete limits body answer

def serve (host : Host World) (config : Config) (handler : Handler)
    (request : host.IncomingRequest) (out : host.Outparam) : Action World Unit :=
  host.serveWith config (handler.on host) request out

/-- The request that a handler gets to see, if it is called at all. -/
def shown? (host : Host World) (config : Config) (request : host.IncomingRequest) (w : World) :
    Option Request :=
  match config.limits with
  | .error _ => none
  | .ok limits =>
    match host.receiveRequest limits request w with
    | .ok (.ok shown) _ => some shown
    | _ => none

end Host

end BufferedHttp
