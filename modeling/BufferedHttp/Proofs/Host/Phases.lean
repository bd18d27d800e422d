import BufferedHttp.Proofs.Action
import BufferedHttp.Transfer.Serve

/-!
# The phases of serving

Serving receives the request, has it answered, delivers the answer and completes its body. Each
rule says how a run goes on from the outcome of one phase; the first phase that fails before the
answer is delivered has the out-parameter rejected.
-/

namespace BufferedHttp.Host

variable {World : Type} {host : Host World} {config : Config} {service : Service World}
  {request : host.IncomingRequest} {out : host.Outparam} {w w' : World}

section Transfer

variable {e : Error} {w₁ : World}

theorem drain_of_open_error {bound : Nat} (pos : 0 < bound) {body : host.IncomingBody}
    (h : host.openInput body w = .error e w') :
    host.drain pos body w = .error e (host.dropIncoming body w') :=
  Action.bind_of_error (Action.onFailure_of_error h)

theorem drain_of_read_error {bound : Nat} (pos : 0 < bound) {body body' : host.IncomingBody}
    {stream : host.InputStream} (hOpen : host.openInput body w = .ok (stream, body') w₁)
    (h : host.readOut pos stream w₁ = .error e w') :
    host.drain pos body w = .error e (host.dropIncoming body' w') :=
  (Action.bind_of_ok (Action.onFailure_of_ok hOpen)).trans
    (Action.bind_of_error (Action.onFailure_of_error h))

theorem drain_of_read_ok {bound : Nat} (pos : 0 < bound) {body body' : host.IncomingBody}
    {stream : host.InputStream} {bytes : Bytes}
    (hOpen : host.openInput body w = .ok (stream, body') w₁)
    (h : host.readOut pos stream w₁ = .ok bytes w') :
    host.drain pos body w = .ok bytes (host.finishIncoming body' w') :=
  (Action.bind_of_ok (Action.onFailure_of_ok hOpen)).trans
    (Action.bind_of_ok (Action.onFailure_of_ok h))

theorem fill_of_open_error {body : host.OutgoingBody} (chunks : List Bytes)
    (h : host.openOutput body w = .error e w') :
    host.fill body chunks w = .error e (host.dropOutgoing body w') :=
  Action.bind_of_error (Action.onFailure_of_error h)

theorem fill_of_write_error {body body' : host.OutgoingBody} {stream : host.OutputStream}
    {chunks : List Bytes} (hOpen : host.openOutput body w = .ok (stream, body') w₁)
    (h : host.writeOut chunks stream w₁ = .error e w') :
    host.fill body chunks w = .error e (host.dropOutgoing body' w') :=
  (Action.bind_of_ok (Action.onFailure_of_ok hOpen)).trans
    (Action.bind_of_error (Action.onFailure_of_error h))

theorem fill_of_write_ok {body body' : host.OutgoingBody} {stream : host.OutputStream}
    {chunks : List Bytes} (hOpen : host.openOutput body w = .ok (stream, body') w₁)
    (h : host.writeOut chunks stream w₁ = .ok () w') :
    host.fill body chunks w = host.finishOutgoing body' w' :=
  (Action.bind_of_ok (Action.onFailure_of_ok hOpen)).trans
    (Action.bind_of_ok (Action.onFailure_of_ok h))

end Transfer

theorem run_send (config : Config) (request : Request) (next : Except Error Response → Handling)
    (w : World) :
    (Handling.send config request next).run host w =
      (next ((host.send config request).result w)).run host
        ((host.send config request).after w) := by
  rw [Handling.run, Action.result, Action.after]
  cases host.send config request w <;> rfl

theorem send_of_fault {fault : Config.Fault} {outgoing : Request}
    (h : config.limits = .error fault) : host.send config outgoing w = .error fault.toError w := by
  rw [send, h]
  rfl

theorem send_of_headless {limits : Limits} {outgoing : Request} {e : Error}
    (hLimits : config.limits = .ok limits) (h : outgoing.outgoingHead = .error e) :
    host.send config outgoing w = .error e w := by
  rw [send, hLimits, h]
  rfl

/-- What is left of a send when its configuration and its request are as they should be. -/
def exchange (host : Host World) (limits : Limits) (head : RequestHead)
    (options : Option RequestOptions) : Action World Response := do
  let future ← host.handle head options
  let incoming ← host.await future
  host.receiveResponse limits incoming

theorem send_of_head {limits : Limits} {outgoing : Request} {head : RequestHead}
    (hLimits : config.limits = .ok limits) (h : outgoing.outgoingHead = .ok head) :
    host.send config outgoing w = host.exchange limits head config.requestOptions w := by
  rw [send, hLimits, h]
  rfl

/-- When a header does not decode, the response is dropped behind the reading of the headers. -/
theorem receiveResponse_of_undecodable {limits : Limits} {incoming : host.IncomingResponse}
    {u : Undecodable}
    (h : HeaderMap.ofFields
      (host.responseHeaders incoming (host.responseStatus incoming w).2).1 = .error u) :
    host.receiveResponse limits incoming w =
      .error u.toError (host.dropIncomingResponse incoming
        (host.responseHeaders incoming (host.responseStatus incoming w).2).2) := by
  rw [receiveResponse]
  refine (Action.bind_of_ok rfl).trans ((Action.bind_of_ok rfl).trans (Action.bind_of_error ?_))
  rw [h]
  rfl

theorem answerRequest_of_fault {fault : Config.Fault} (h : config.limits = .error fault) :
    host.answerRequest config service request w = .error fault.toError w := by
  rw [answerRequest, h]
  rfl

theorem answerRequest_of_error {limits : Limits} {e : Error} (hLimits : config.limits = .ok limits)
    (h : host.receiveRequest limits request w = .error e w') :
    host.answerRequest config service request w = .error e w' := by
  rw [answerRequest, hLimits]
  exact (Action.bind_of_ok rfl).trans (Action.bind_of_error h)

theorem answerRequest_of_ok {limits : Limits} {received : Except Error Request}
    (hLimits : config.limits = .ok limits)
    (h : host.receiveRequest limits request w = .ok received w') :
    host.answerRequest config service request w =
      .ok (limits, (answer service received w').1) (answer service received w').2 := by
  rw [answerRequest, hLimits]
  exact (Action.bind_of_ok rfl).trans (Action.bind_of_ok h)

theorem shown?_of_fault {fault : Config.Fault} (h : config.limits = .error fault) :
    host.shown? config request w = none := by
  rw [shown?, h]

theorem shown?_of_error {limits : Limits} {e : Error} (hLimits : config.limits = .ok limits)
    (h : host.receiveRequest limits request w = .error e w') :
    host.shown? config request w = none := by
  simp only [shown?, hLimits, h]

theorem shown?_of_ok {limits : Limits} {received : Except Error Request}
    (hLimits : config.limits = .ok limits)
    (h : host.receiveRequest limits request w = .ok received w') :
    host.shown? config request w = received.toOption := by
  cases received <;> simp only [shown?, hLimits, h] <;> rfl

theorem deliver_of_error {answer : Answer} {e : Error}
    (h : host.prepare out answer w = .error e w') :
    host.deliver out answer w = .error e w' := Action.bind_of_error h

theorem deliver_of_ok {answer : Answer} {response : host.OutgoingResponse}
    {body : host.OutgoingBody} (h : host.prepare out answer w = .ok (response, body) w') :
    host.deliver out answer w = .ok body (host.resolve out response w') := Action.bind_of_ok h

theorem serveWith_of_answer_error {e : Error}
    (h : host.answerRequest config service request w = .error e w') :
    host.serveWith config service request out w =
      .error e (host.dropRequest request (host.reject out abortMessage w')) := by
  have hProduce : host.produce config service request out w = .error e w' :=
    Action.bind_of_error h
  exact Action.ensuring_of_error (Action.bind_of_error (Action.onFailure_of_error hProduce))

theorem serveWith_of_deliver_error {limits : Limits} {answer : Answer} {e : Error} {w₁ : World}
    (hAnswer : host.answerRequest config service request w = .ok (limits, answer) w₁)
    (h : host.deliver out answer w₁ = .error e w') :
    host.serveWith config service request out w =
      .error e (host.dropRequest request (host.reject out abortMessage w')) := by
  have hProduce : host.produce config service request out w = .error e w' :=
    (Action.bind_of_ok hAnswer).trans (Action.bind_of_error h)
  exact Action.ensuring_of_error (Action.bind_of_error (Action.onFailure_of_error hProduce))

theorem serveWith_of_deliver_ok {limits : Limits} {answer : Answer} {body : host.OutgoingBody}
    {w₁ : World} (hAnswer : host.answerRequest config service request w = .ok (limits, answer) w₁)
    (h : host.deliver out answer w₁ = .ok body w') :
    host.serveWith config service request out w =
      (host.complete limits body answer).ensuring (host.dropRequest request) w' := by
  have hProduce : host.produce config service request out w = .ok (limits, answer, body) w' :=
    (Action.bind_of_ok hAnswer).trans (Action.bind_of_ok h)
  rw [serveWith, Action.ensuring, Action.bind_of_ok (Action.onFailure_of_ok hProduce)]
  rfl

end BufferedHttp.Host
