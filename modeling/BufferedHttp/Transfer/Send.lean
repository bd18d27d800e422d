import BufferedHttp.Transfer.Drain

/-!
# Sending a request

A request without a body is handed to the host, its response is awaited and read whole. Nothing
reaches the host when the configuration is not usable, the request has a body or its URI has no
request head.
-/

namespace BufferedHttp

namespace Host

variable {World : Type}

def awaitOutcome (host : Host World) (pollable : host.Pollable) (future : host.Future) (w : World) :
    Except Error host.IncomingResponse × host.Future × World :=
  match h : host.poll future w with
  | (some outcome, future', w') => (outcome, future', w')
  | (none, future', w') =>
    have := host.waits_block (p := pollable) h
    let next := host.block pollable future' w'
    host.awaitOutcome pollable next.1 next.2
  termination_by host.waits future

theorem awaitOutcome_of_some (host : Host World) (pollable : host.Pollable)
    {future future' : host.Future} {w w' : World} {outcome : Except Error host.IncomingResponse}
    (h : host.poll future w = (some outcome, future', w')) :
    host.awaitOutcome pollable future w = (outcome, future', w') := by
  rw [awaitOutcome]
  split <;> simp_all

theorem awaitOutcome_of_none (host : Host World) (pollable : host.Pollable)
    {future future' : host.Future} {w w' : World}
    (h : host.poll future w = (none, future', w')) :
    host.awaitOutcome pollable future w =
      host.awaitOutcome pollable (host.block pollable future' w').1
        (host.block pollable future' w').2 := by
  rw [awaitOutcome]
  split <;> simp_all

/-- The response of a future, which is released behind its pollable. -/
def await (host : Host World) (future : host.Future) : Action World host.IncomingResponse :=
  .ofCall fun w =>
    let (pollable, w) := host.subscribe future w
    let (outcome, future, w) := host.awaitOutcome pollable future w
    (outcome, host.dropFuture future (host.dropPollable pollable w))

/-- The response of a host read whole. The host's own is dropped. -/
def receiveResponse (host : Host World) (limits : Limits) (incoming : host.IncomingResponse) :
    Action World Response := do
  let status ← modifyGet (host.responseStatus incoming)
  let fields ← modifyGet (host.responseHeaders incoming)
  let headers ← Action.onFailure (host.dropIncomingResponse incoming)
    (.ofExcept ((HeaderMap.ofFields fields).mapError Undecodable.toError))
  let (body, incoming) ←
    (host.consumeResponse incoming).onFailure (host.dropIncomingResponse incoming)
  let bytes ← (host.drain limits.read_pos body).ensuring (host.dropIncomingResponse incoming)
  return ⟨status, headers, some bytes⟩

end Host

/-- The head of a request that can be sent. -/
def Request.outgoingHead (r : Request) : Except Error RequestHead :=
  match r.body with
  | some _ => .error .outgoingBodyUnsupported
  | none => r.head.mapError fun fault => .invalidUri r.uri fault.message

namespace Host

variable {World : Type}

def send (host : Host World) (config : Config) (request : Request) : Action World Response := do
  let limits ← .ofExcept (config.limits.mapError Config.Fault.toError)
  let head ← .ofExcept request.outgoingHead
  let future ← host.handle head config.requestOptions
  let incoming ← host.await future
  host.receiveResponse limits incoming

end Host

end BufferedHttp
