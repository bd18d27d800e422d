import BufferedHttp.Proofs.Memory.Delivery
import BufferedHttp.Proofs.Memory.Replies

/-!
# Failures are concealed

A handler that fails and a header that does not decode have the same answer, the internal error.
It has no headers that could be rejected and no body that could fail to be written, so any
out-parameter takes it, and what is recorded tells one cause from the other no more than one
failure from another.
-/

namespace BufferedHttp

/-- Fails without a send. -/
def failing (failure : Request → Failure) : Handler := fun shown => .done (.error (failure shown))

namespace Memory

/-- The body can be had and is read to its end; the headers may be anything. -/
structure Readthrough (request : IncomingRequest) : Prop where
  unconsumed : request.consumed = false
  streamed : request.streamFault = none
  unbroken : ∀ message, .fail message ∉ request.script

/-- What is recorded on a host of its own when a request is answered with the internal error. -/
structure Bare (r : Recording) : Prop where
  status : r.status = some 500
  headers : r.headers = []
  body : r.body = []
  writes : r.writes = []
  sent : r.sent = []
  failure : r.failure = none
  resolutions : r.resolutions = 1
  unwritten : ∀ n, .write n ∉ r.events
  events : ∃ before, r.events = before ++ [.statusSet 500, .outparamSet, .outgoingBodyFinished]

variable {config : Config} {limits : Limits} {handler : Handler} {request : IncomingRequest}
  {out : Outparam} {w w₁ : World}

theorem readthrough_of_headers {fields : FieldList} (h : Readthrough request) :
    Readthrough { request with headers := fields } :=
  ⟨h.unconsumed, h.streamed, h.unbroken⟩

theorem gather_of_readthrough (h : Readthrough request) (bound : Nat) :
    gather bound request.source =
      (.ok request.script.bytes, readingEvents bound request.script) := by
  have hSource : request.source = .ok request.script :=
    (request.source_eq_ok_iff _).mpr ⟨h.unconsumed, h.streamed, rfl⟩
  rw [hSource, gather_of_none ((Script.failure?_eq_none_iff _).mpr h.unbroken)]

theorem shownWith_of_undecodable {field : String × Bytes} (hField : field ∈ request.headers)
    (hValue : ∀ value, Text.Utf8.encode value ≠ field.2) (bytes : Bytes) :
    ∃ e, request.shownWith bytes = .error e := by
  cases hHeaders : HeaderMap.ofFields request.headers with
  | error u => exact ⟨u.toError, by rw [IncomingRequest.shownWith, hHeaders]⟩
  | ok headers =>
    have hTextual := (HeaderMap.exists_toFields_eq_iff _).mp
      ⟨headers, (HeaderMap.ofFields_eq_ok_iff _ _).mp hHeaders⟩
    obtain ⟨value, hEncoded⟩ := hTextual field hField
    exact absurd hEncoded (hValue value)

theorem answer_of_undecodable {e : Error} {received : Except Error Request}
    (h : received = .error e) (service : Service World) (w : World) :
    Host.answer service received w = (.internalError, w) := by
  rw [h, Host.answer]

/-- A handler that fails without a send is answered for as if it had not been called. -/
theorem answer_failing (failure : Request → Failure) (received : Except Error Request)
    (w : World) : Host.answer ((failing failure).on host) received w = (.internalError, w) := by
  cases received <;> rfl

theorem serve_of_internalError (hFaults : out.faults = .none)
    (hAnswer : host.answerRequest config (handler.on host) request w =
      .ok (limits, .internalError) w₁) :
    host.serve config handler request out w = .ok () (w₁.delivered limits .internalError) := by
  have hTaken := out.refusal?_internalError_of_faults hFaults
  have hFinish : out.faults.finish = none := by
    rw [hFaults]
    rfl
  refine (Host.serveWith_of_deliver_ok hAnswer
    (Host.deliver_of_ok (prepare_of_taken w₁ hTaken))).trans ?_
  refine (Action.ensuring_of_ok (finish_of_taken _ hFinish)).trans ?_
  simp [World.delivered, World.recordAll, World.resolve, Recording.addResponse, Recording.add,
    Outparam.head, Answer.chunks, Answer.bytes, Answer.fields, Answer.status, writeEvents,
    closingEvents]

/-- The recording behind an internal error, on a host that had recorded nothing. -/
def concealed (limits : Limits) (script : Script) : Recording :=
  { Recording.empty with
    events := readingEvents limits.read script ++
      [.statusSet 500, .outparamSet, .outgoingBodyFinished]
    resolutions := 1
    status := some 500 }

theorem bare_concealed (limits : Limits) (script : Script) : Bare (concealed limits script) where
  status := rfl
  headers := rfl
  body := rfl
  writes := rfl
  sent := rfl
  failure := rfl
  resolutions := rfl
  unwritten n hWrite := by
    rcases List.mem_append.mp hWrite with hReading | hClosing
    · exact notMem_readingEvents rfl _ _ hReading
    · simp at hClosing
  events := ⟨_, rfl⟩

theorem recording_of_internalError (hLimits : config.limits = .ok limits)
    (hRequest : Readthrough request) (hFaults : out.faults = .none)
    (hFresh : w.recording = .empty)
    (hAnswer : ∀ w₁, Host.answer (handler.on host) (request.shownWith request.script.bytes) w₁ =
      (.internalError, w₁)) :
    (host.serve config handler request out).result w = .ok () ∧
      ((host.serve config handler request out).after w).recording =
        concealed limits request.script := by
  have hAnswered : host.answerRequest config (handler.on host) request w =
      .ok (limits, .internalError) (w.recordAll (readingEvents limits.read request.script)) :=
    answerRequest_of_received hLimits (gather_of_readthrough hRequest limits.read) (hAnswer _)
  have hServe := serve_of_internalError hFaults hAnswered
  refine ⟨Action.result_of_ok hServe, ?_⟩
  rw [Action.after, hServe]
  simp [World.delivered, World.recordAll, concealed, hFresh, Recording.empty, writeEvents,
    Answer.chunks, Answer.bytes, Answer.fields, Answer.status, closingEvents]

theorem calls_of_undecodable (hLimits : config.limits = .ok limits) {e : Error}
    (hRequest : Readthrough request)
    (hShown : request.shownWith request.script.bytes = .error e) (handler : Handler)
    (out : Outparam) (w : World) : host.calls config handler request out w = [] := by
  rw [host.calls_eq, shown?_eq request w hLimits, gather_of_readthrough hRequest, Except.bind,
    hShown]
  rfl

/-- A request that was read is answered alike whatever failure the handler ends with, and when a
header does not decode, although then the handler is not called. Any out-parameter takes the
answer, one that rejects headers or fails all writes among them. -/
theorem failures_concealed (hConfig : config.validate = .ok ()) (hRequest : Readthrough request)
    (hFaults : out.faults = .none) (f g : Request → Failure) (v w : World)
    (hv : v.recording = .empty) (hw : w.recording = .empty) :
    ∃ recording, Bare recording ∧
      ((host.serve config (failing f) request out).result v = .ok () ∧
        ((host.serve config (failing f) request out).after v).recording = recording) ∧
      ((host.serve config (failing g) request out).result w = .ok () ∧
        ((host.serve config (failing g) request out).after w).recording = recording) ∧
      ∀ (fields : FieldList) (field : String × Bytes), field ∈ fields →
        (∀ value, Text.Utf8.encode value ≠ field.2) →
        ∀ (handler : Handler) (u : World), u.recording = .empty →
          host.calls config handler { request with headers := fields } out u = [] ∧
          (host.serve config handler { request with headers := fields } out).result u = .ok () ∧
          ((host.serve config handler { request with headers := fields } out).after u).recording =
            recording := by
  obtain ⟨limits, hLimits⟩ := config.validate_eq_ok_iff.mp hConfig
  refine ⟨concealed limits request.script, bare_concealed limits request.script, ?_, ?_, ?_⟩
  · exact recording_of_internalError hLimits hRequest hFaults hv fun w₁ => answer_failing f _ w₁
  · exact recording_of_internalError hLimits hRequest hFaults hw fun w₁ => answer_failing g _ w₁
  · intro fields field hField hValue handler u hu
    have hOther : Readthrough { request with headers := fields } := readthrough_of_headers hRequest
    have hRefused : ∃ e, { request with headers := fields }.shownWith request.script.bytes =
        .error e := shownWith_of_undecodable hField hValue _
    obtain ⟨e, hShown⟩ := hRefused
    refine ⟨calls_of_undecodable hLimits hOther hShown handler out u, ?_⟩
    exact recording_of_internalError hLimits hOther hFaults hu
      fun w₁ => answer_of_undecodable hShown (handler.on host) w₁

/-- The out-parameter fails all writes and rejects a header; the other header is no text. -/
theorem failures_concealed_from_hostile :
    ∃ recording, Bare recording ∧
      ((host.serve .default (failing fun _ => ⟨["outer"], "secret"⟩)
        ⟨.post, some "/a", [], [.data [1], .data []], false, none⟩
        ⟨some "broken", ["x"], .none⟩).after ⟨.empty, [], 0⟩).recording = recording ∧
      ((host.serve .default (failing fun _ => ⟨[], "other"⟩)
        ⟨.post, some "/a", [], [.data [1], .data []], false, none⟩
        ⟨some "broken", ["x"], .none⟩).after ⟨.empty, [.transport "down"], 2⟩).recording =
          recording ∧
      ((host.serve .default (fun _ => .done (.ok ⟨200, .empty, none⟩))
        ⟨.post, some "/a", [("x", [0xFF])], [.data [1], .data []], false, none⟩
        ⟨some "broken", ["x"], .none⟩).after ⟨.empty, [], 0⟩).recording = recording := by
  have hRequest : Readthrough ⟨.post, some "/a", [], [.data [1], .data []], false, none⟩ :=
    ⟨rfl, rfl, by simp⟩
  have hValue : ∀ value, Text.Utf8.encode value ≠ [0xFF] := by
    intro value hEncoded
    have hNone : (Text.Utf8.decode [0xFF]).toOption = none := by decide +kernel
    rw [(Text.Utf8.decode_eq_ok_iff _ _).mpr hEncoded] at hNone
    cases hNone
  obtain ⟨recording, hBare, ⟨-, hFirst⟩, ⟨-, hSecond⟩, hOther⟩ :=
    failures_concealed (by rfl : Config.default.validate = .ok ()) hRequest
      (by rfl : (Outparam.mk (some "broken") ["x"] .none).faults = .none)
      (fun _ => ⟨["outer"], "secret"⟩) (fun _ => ⟨[], "other"⟩) ⟨.empty, [], 0⟩
      ⟨.empty, [.transport "down"], 2⟩ rfl rfl
  obtain ⟨-, -, hThird⟩ := hOther [("x", [0xFF])] ("x", [0xFF]) List.mem_cons_self hValue
    (fun _ => .done (.ok ⟨200, .empty, none⟩)) ⟨.empty, [], 0⟩ rfl
  exact ⟨recording, hBare, hFirst, hSecond, hThird⟩

end Memory

end BufferedHttp
