import BufferedHttp.Proofs.Memory.Delivery
import BufferedHttp.Proofs.Memory.Replies

/-!
# Relaying shows nothing of the relay

A handler that sends a request of its own and answers with what comes back hands on the status, the
fields and the bytes of the reply as they are. When its send fails, nothing of the reply gets
through.
-/

namespace BufferedHttp

/-- Sends a request for each that comes in, and answers with the response to it. -/
def relay (config : Config) (forwarded : Request → Request) : Handler := fun shown =>
  .send config (forwarded shown) fun result => .done (result.mapError Failure.ofError)

namespace Memory

structure Relayable (out : Outparam) (r : IncomingResponse) : Prop where
  status : 100 ≤ r.status ∧ r.status ≤ 999
  textual : ∀ field ∈ r.headers, ∃ value, Text.Utf8.encode value = field.2
  allowed : ∀ field ∈ r.headers, out.isRejected field.1 = false
  unconsumed : r.consumed = false
  unbroken : ∀ message, .fail message ∉ r.script

/-- The client has the reply in `w'`, and nothing else that was not there in `w`. -/
structure Relayed (r : IncomingResponse) (w w' : World) : Prop where
  status : w'.recording.status = some r.status
  headers : w'.recording.headers = r.headers
  body : w'.recording.body = w.recording.body ++ r.script.bytes

/-- The client has an internal error in `w'`, behind a send that failed and left `w₁`. -/
structure Withheld (w w₁ w' : World) : Prop where
  status : w'.recording.status = some 500
  headers : w'.recording.headers = []
  body : w'.recording.body = w.recording.body
  writes : w'.recording.writes = w.recording.writes
  events : w'.recording.events =
    w₁.recording.events ++ [.statusSet 500, .outparamSet, .outgoingBodyFinished]

variable {config sendConfig : Config} {limits : Limits} {request : IncomingRequest}
  {shown : Request} {forwarded : Request → Request} {out : Outparam} {head : RequestHead}
  {r : IncomingResponse} {replies : List Reply} {w : World}

theorem replies_receiveRequest (limits : Limits) (request : IncomingRequest) (w : World) :
    ((host.receiveRequest limits request).after w).replies = w.replies := by
  rw [Action.after_of_eq (receiveRequest_eq limits request w)]
  rfl

theorem run_relay (sendConfig : Config) (forwarded : Request → Request) (shown : Request)
    (w : World) :
    (relay sendConfig forwarded shown).run host w =
      (((host.send sendConfig (forwarded shown)).result w).mapError Failure.ofError,
        (host.send sendConfig (forwarded shown)).after w) := by
  rw [relay, Host.run_send, Handling.run]

theorem Relayable.received_eq (h : Relayable out r) (bound : Nat) :
    ∃ headers : HeaderMap, headers.toFields = r.headers ∧
      ((Reply.response r).received bound).1 = .ok ⟨r.status, headers, some r.script.bytes⟩ := by
  obtain ⟨headers, hHeaders⟩ := (HeaderMap.exists_toFields_eq_iff _).mpr h.textual
  have hSource : r.source = .ok r.script := by
    rw [IncomingResponse.source, h.unconsumed]
    rfl
  have hFailure := (Script.failure?_eq_none_iff _).mpr h.unbroken
  refine ⟨headers, hHeaders, ?_⟩
  rw [Reply.received, received_of_textual hHeaders, hSource, gather_of_none hFailure]
  rfl

theorem relayed_of_reply (hLimits : config.limits = .ok limits) (hReadable : Readable request)
    (hShown : Buffers request shown) (hOut : out.Reliable)
    (hSend : sendConfig.validate = .ok ()) (hBody : (forwarded shown).body = none)
    (hHead : (forwarded shown).head = .ok head) (hReplies : w.replies = .response r :: replies)
    (hReply : Relayable out r) :
    (host.serve config (relay sendConfig forwarded) request out).result w = .ok () ∧
      Relayed r w ((host.serve config (relay sendConfig forwarded) request out).after w) := by
  obtain ⟨sendLimits, hSendLimits⟩ := sendConfig.validate_eq_ok_iff.mp hSend
  obtain ⟨headers, hFields, hReceived⟩ := hReply.received_eq sendLimits.read
  have hReplies' := (replies_receiveRequest limits request w).trans hReplies
  have hReturned := run_relay sendConfig forwarded shown
    ((host.receiveRequest limits request).after w)
  rw [result_of_reply hSendLimits ((Request.outgoingHead_eq_ok_iff _ _).mpr ⟨hBody, hHead⟩)
    hReplies', hReceived, Except.mapError] at hReturned
  have hAllowed : ∀ field ∈ headers.toFields, out.isRejected field.1 = false := by
    rw [hFields]
    exact hReply.allowed
  have hServe := serve_of_response hLimits hReadable hShown hOut hReturned hReply.status hAllowed
  refine ⟨Action.result_of_ok hServe, ?_⟩
  rw [Action.after, hServe]
  refine ⟨rfl, hFields, ?_⟩
  rw [← (unwritten_of_returned hReturned).1]
  rfl

theorem withheld_of_error {e : Error} (hLimits : config.limits = .ok limits)
    (hReadable : Readable request) (hShown : Buffers request shown) (hOut : out.Reliable)
    (hFailed : (host.send sendConfig (forwarded shown)).result
      ((host.receiveRequest limits request).after w) = .error e) :
    (host.serve config (relay sendConfig forwarded) request out).result w = .ok () ∧
      Withheld w ((host.send sendConfig (forwarded shown)).after
          ((host.receiveRequest limits request).after w))
        ((host.serve config (relay sendConfig forwarded) request out).after w) := by
  have hReturned := run_relay sendConfig forwarded shown
    ((host.receiveRequest limits request).after w)
  rw [hFailed, Except.mapError] at hReturned
  obtain ⟨hBody, hWrites⟩ := unwritten_of_returned hReturned
  have hAnswer := answerRequest_of_returned hLimits hReadable hShown hReturned
  have hServe := serve_of_taken hOut hAnswer hOut.refusal?_internalError
  refine ⟨Action.result_of_ok hServe, ?_⟩
  have hAfter : (host.serve config (relay sendConfig forwarded) request out).after w =
      ((host.send sendConfig (forwarded shown)).after
        ((host.receiveRequest limits request).after w)).delivered limits .internalError := by
    rw [Action.after, hServe]
    rfl
  rw [hAfter]
  refine ⟨rfl, rfl, ?_, ?_, rfl⟩
  · rw [← hBody]
    exact List.append_nil _
  · rw [← hWrites]
    exact List.append_nil _

/-- What comes back is handed on as it is, whatever the steps and chunks on the way. When the send
fails, for whatever reason, the client gets an internal error and nothing of the reply. -/
theorem relayed_transparently (sendConfig : Config) (forwarded : Request → Request) (w : World)
    (hLimits : config.limits = .ok limits) (hReadable : Readable request)
    (hShown : Buffers request shown) (hOut : out.Reliable) :
    (∀ (head : RequestHead) (r : IncomingResponse) (replies : List Reply),
      sendConfig.validate = .ok () → (forwarded shown).body = none →
      (forwarded shown).head = .ok head → w.replies = .response r :: replies → Relayable out r →
        (host.serve config (relay sendConfig forwarded) request out).result w = .ok () ∧
        Relayed r w ((host.serve config (relay sendConfig forwarded) request out).after w)) ∧
    ∀ e, (host.send sendConfig (forwarded shown)).result
        ((host.receiveRequest limits request).after w) = .error e →
      (host.serve config (relay sendConfig forwarded) request out).result w = .ok () ∧
      Withheld w ((host.send sendConfig (forwarded shown)).after
          ((host.receiveRequest limits request).after w))
        ((host.serve config (relay sendConfig forwarded) request out).after w) := by
  constructor
  · intro head r replies hSend hBody hHead hReplies hReply
    exact relayed_of_reply hLimits hReadable hShown hOut hSend hBody hHead hReplies hReply
  · intro e hFailed
    exact withheld_of_error hLimits hReadable hShown hOut hFailed

theorem repeated_field_relayed :
    (∃ w', host.serve ⟨4, 2, none, none, none⟩ (relay .default fun _ => .get "http://a/")
        ⟨.get, none, [], [], false, none⟩ ⟨none, ["x"], .none⟩
        ⟨.empty, [.response ⟨204, [("n", [0x76]), ("n", [0xC3, 0xA9])],
          [.data [1, 2], .data [], .data [3]], false⟩], 2⟩ = .ok () w' ∧
      w'.recording.status = some 204 ∧
      w'.recording.headers = [("n", [0x76]), ("n", [0xC3, 0xA9])] ∧
      w'.recording.body = [1, 2, 3]) ∧
    ∃ w', host.serve ⟨4, 2, none, none, none⟩ (relay .default fun _ => .get "http://a/")
        ⟨.get, none, [], [], false, none⟩ ⟨none, ["x"], .none⟩
        ⟨.empty, [.transport "down"], 2⟩ = .ok () w' ∧
      w'.recording.status = some 500 ∧ w'.recording.headers = [] ∧ w'.recording.body = [] := by
  have hLimits : Config.limits ⟨4, 2, none, none, none⟩ =
      .ok ⟨4, 2, by decide, by decide, by decide⟩ := rfl
  have hReadable : Readable ⟨.get, none, [], [], false, none⟩ := ⟨rfl, rfl, by simp, by simp⟩
  have hShown : Buffers ⟨.get, none, [], [], false, none⟩ ⟨.get, "/", .empty, some []⟩ :=
    ⟨rfl, rfl, rfl, rfl⟩
  have hOut : Outparam.Reliable ⟨none, ["x"], .none⟩ := ⟨rfl, rfl⟩
  have hHead : (Request.get "http://a/").head = .ok ⟨.get, .http, "a", "/", []⟩ := by decide +kernel
  constructor
  · obtain ⟨hReply, -⟩ := relayed_transparently .default (fun _ => .get "http://a/")
      ⟨.empty, [.response ⟨204, [("n", [0x76]), ("n", [0xC3, 0xA9])],
        [.data [1, 2], .data [], .data [3]], false⟩], 2⟩ hLimits hReadable hShown hOut
    have hRelayable : Relayable ⟨none, ["x"], .none⟩ ⟨204, [("n", [0x76]), ("n", [0xC3, 0xA9])],
        [.data [1, 2], .data [], .data [3]], false⟩ := by
      refine ⟨by decide, ?_, by decide, rfl, by simp⟩
      simp only [List.forall_mem_cons]
      exact ⟨⟨"v", by decide⟩, ⟨"\u00e9", by decide⟩, by simp⟩
    obtain ⟨hResult, hRelayed⟩ := hReply _ _ _ rfl rfl hHead rfl hRelayable
    refine ⟨_, ?_, hRelayed.status, hRelayed.headers, hRelayed.body⟩
    rw [Action.eq_ofExcept (host.serve _ _ _ _), hResult]
    rfl
  · obtain ⟨-, hError⟩ := relayed_transparently .default (fun _ => .get "http://a/")
      ⟨.empty, [.transport "down"], 2⟩ hLimits hReadable hShown hOut
    obtain ⟨sendLimits, hSendLimits⟩ :=
      Config.default.validate_eq_ok_iff.mp (by rfl : Config.default.validate = .ok ())
    have hOutgoing := (Request.outgoingHead_eq_ok_iff (.get "http://a/") _).mpr ⟨rfl, hHead⟩
    obtain ⟨hResult, hWithheld⟩ := hError (.transport "down") (by
      rw [result_of_reply hSendLimits hOutgoing (replies_receiveRequest _ _ _)]
      rfl)
    refine ⟨_, ?_, hWithheld.status, hWithheld.headers, hWithheld.body⟩
    rw [Action.eq_ofExcept (host.serve _ _ _ _), hResult]
    rfl

end Memory

end BufferedHttp
