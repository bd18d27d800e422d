import BufferedHttp.Proofs.Memory.Buffering
import BufferedHttp.Proofs.Memory.Serving

/-!
# A response is delivered whole

On an out-parameter that fails no call, an answer that is taken comes out whole: its head, its
body in as few chunks as the bound allows, and the events of that one behind the other. It does not
show whether a body of no bytes was there at all.
-/

namespace BufferedHttp

def Answer.chunks (limits : Limits) : Answer → List Bytes
  | .response r => chunked limits.write_pos r.bodyBytes
  | .internalError => []

theorem Answer.flatten_chunks (limits : Limits) (answer : Answer) :
    (answer.chunks limits).flatten = answer.bytes := by
  cases answer with
  | response r => exact flatten_chunked limits.write_pos r.bodyBytes
  | internalError => rfl

namespace Memory

/-- The only calls that fail are those for a header that is rejected and for a status that is out
of range. -/
structure Outparam.Reliable (out : Outparam) : Prop where
  faults : out.faults = .none
  writes : out.writeFailure = none

/-- No call fails but writes. -/
def Outparam.Sound (out : Outparam) : Prop := { out.faults with writes := .none } = Faults.none

/-- What stands behind the writes of an answer that came out whole. -/
def closingEvents : Answer → List Event
  | .response _ => [.outputStreamDropped, .outgoingBodyFinished]
  | .internalError => [.outgoingBodyFinished]

def World.delivered (w : World) (limits : Limits) (answer : Answer) : World :=
  { w with recording := { w.recording with
    events := w.recording.events ++ .statusSet answer.status :: .outparamSet ::
      (writeEvents (answer.chunks limits) ++ closingEvents answer)
    resolutions := w.recording.resolutions + 1
    status := some answer.status
    headers := answer.fields
    body := w.recording.body ++ answer.bytes
    writes := w.recording.writes ++ (answer.chunks limits).map List.length } }

/-- The world in which the out-parameter has its answer and nothing of the body is written. -/
def World.answered (w : World) (answer : Answer) : World :=
  { w with recording := { w.recording with
    events := w.recording.events ++ [.statusSet answer.status, .outparamSet]
    resolutions := w.recording.resolutions + 1
    status := some answer.status
    headers := answer.fields } }

variable {config : Config} {limits : Limits} {handler : Handler} {request : IncomingRequest}
  {shown : Request} {out : Outparam} {answer : Answer} {r : Response} {w w₁ : World}

/-- No header of an internal error can be rejected. -/
theorem Outparam.refusal?_internalError_of_faults (hFaults : out.faults = .none) :
    out.refusal? .internalError = none := by
  simp [refusal?, newResponse, Answer.fields, hFaults, Faults.none, Faults.ofAnswer?,
    Faults.ofStatus?]

namespace Outparam.Sound

theorem faults_eq (h : out.Sound) :
    out.faults = ⟨none, none, none, none, out.faults.writes, none⟩ := by
  have hOthers : { out.faults with writes := .none } = Faults.none := h
  obtain ⟨writeFailure, rejected, ⟨newResponse, status, body, stream, writes, finish⟩⟩ := out
  cases hOthers
  rfl

theorem refusal?_response (h : out.Sound) (hStatus : 100 ≤ r.status ∧ r.status ≤ 999)
    (hFields : ∀ field ∈ r.headers.toFields, out.isRejected field.1 = false) :
    out.refusal? (.response r) = none := by
  have hFind : r.headers.toFields.find? (fun field => out.isRejected field.1) = none := by
    rw [List.find?_eq_none]
    intro field hField
    rw [hFields field hField]
    exact Bool.false_ne_true
  rw [Outparam.refusal?, Outparam.newResponse, h.faults_eq]
  simp only [Answer.fields, hFind, Faults.ofAnswer?, Faults.ofStatus?, if_pos hStatus]
  rfl

end Outparam.Sound

namespace Outparam.Reliable

theorem sound (hOut : out.Reliable) : out.Sound := by
  rw [Outparam.Sound, hOut.faults]
  rfl

theorem refusal?_internalError (hOut : out.Reliable) :
    out.refusal? .internalError = none := out.refusal?_internalError_of_faults hOut.faults

theorem failure?_eq_none (hOut : out.Reliable) {chunk : Bytes}
    (hChunk : chunk.length ≤ maxWriteSize) (calls : Nat) :
    (out.writer calls).failure? chunk = none := by
  have hWrites : out.faults.writes = .none := by
    rw [hOut.faults]
    rfl
  simp only [OutputStream.failure?, writer, hWrites, hOut.writes, WriteFaults.at?_none,
    if_neg (Nat.not_lt.mpr hChunk)]

end Outparam.Reliable

theorem Completion.of_reliable {result : Except Error Unit} {written : List Bytes}
    {events : List Event} (hOut : out.Reliable)
    (h : Completion out limits answer result written events) :
    result = .ok () ∧ written = answer.chunks limits ∧ events = closingEvents answer := by
  have hFaults := hOut.faults
  cases h with
  | finished => exact ⟨rfl, rfl, rfl⟩
  | bareFinished => exact ⟨rfl, rfl, rfl⟩
  | unopened hOpen =>
    rw [hFaults] at hOpen
    cases hOpen
  | unfinished hOpen hFinish =>
    rw [hFaults] at hFinish
    cases hFinish
  | bareUnfinished hFinish =>
    rw [hFaults] at hFinish
    cases hFinish
  | @cut r _ rest chunk fault hOpen hChunks hFault =>
    -- without faults a write fails only on a chunk above what limits allow
    have hMem : chunk ∈ chunked limits.write_pos r.bodyBytes := by
      rw [hChunks]
      exact List.mem_append_right _ List.mem_cons_self
    have hBound := ((cuts_chunked limits.write_pos r.bodyBytes).bounded chunk hMem).2
    rw [hOut.failure?_eq_none (Nat.le_trans hBound limits.write_le)] at hFault
    cases hFault

theorem resolve_eq_answered (w : World) (out : Outparam) (answer : Answer) :
    host.resolve out (out.head answer.fields answer.status)
      (w.recordAll [.statusSet answer.status]) = w.answered answer := by
  simp [World.recordAll, World.resolve, Recording.addResponse, Recording.add, Outparam.head,
    World.answered]

theorem delivered_eq (w : World) (limits : Limits) (answer : Answer) :
    w.delivered limits answer =
      ((w.answered answer).recordWrites (answer.chunks limits)).recordAll
        (closingEvents answer) := by
  simp [World.delivered, World.answered, World.recordAll, World.recordWrites,
    Answer.flatten_chunks]

theorem serve_of_complete {result : Except Error Unit} {w₂ : World}
    (hAnswer : host.answerRequest config (handler.on host) request w = .ok (limits, answer) w₁)
    (hTaken : out.refusal? answer = none)
    (hComplete : host.complete limits out.body answer (w₁.answered answer) =
      Action.ofExcept result w₂) :
    host.serve config handler request out w = Action.ofExcept result w₂ := by
  have hRun :=
    Host.serveWith_of_deliver_ok hAnswer (Host.deliver_of_ok (prepare_of_taken w₁ hTaken))
  rw [resolve_eq_answered, Action.ensuring, hComplete] at hRun
  refine hRun.trans ?_
  cases result <;> rfl

theorem serve_of_taken (hOut : out.Reliable)
    (hAnswer : host.answerRequest config (handler.on host) request w = .ok (limits, answer) w₁)
    (hTaken : out.refusal? answer = none) :
    host.serve config handler request out w = .ok () (w₁.delivered limits answer) := by
  obtain ⟨result, written, events, hBodyOut, hComplete⟩ :=
    complete_completion out limits answer (w₁.answered answer)
  obtain ⟨rfl, rfl, rfl⟩ := hBodyOut.of_reliable hOut
  rw [serve_of_complete hAnswer hTaken hComplete, delivered_eq]
  rfl

theorem receiveRequest_of_readable (hReadable : Readable request)
    (hShown : Buffers request shown) (limits : Limits) (w : World) :
    host.receiveRequest limits request w =
      .ok (.ok shown) (w.recordAll (readingEvents limits.read request.script)) := by
  have hSource : request.source = .ok request.script :=
    (request.source_eq_ok_iff _).mpr ⟨hReadable.unconsumed, hReadable.streamed, rfl⟩
  have hFailure := (Script.failure?_eq_none_iff _).mpr hReadable.unbroken
  have hWith := (shownWith_eq_ok_iff request shown).mpr hShown
  rw [receiveRequest_eq, hSource, gather_of_none hFailure, Except.map, hWith]
  rfl

theorem answerRequest_of_returned {result : Except Failure Response}
    (hLimits : config.limits = .ok limits) (hReadable : Readable request)
    (hShown : Buffers request shown)
    (hReturned : (handler shown).run host ((host.receiveRequest limits request).after w) =
      (result, w₁)) :
    host.answerRequest config (handler.on host) request w =
      .ok (limits, .ofResult result) w₁ := by
  have hReceive := receiveRequest_of_readable hReadable hShown limits w
  rw [Action.after, hReceive] at hReturned
  rw [Host.answerRequest_of_ok hLimits hReceive, Host.answer, Handler.on]
  simp only [hReturned]

/-- Up to the return of the handler nothing is written. -/
theorem unwritten_of_returned {result : Except Failure Response}
    (hReturned : (handler shown).run host ((host.receiveRequest limits request).after w) =
      (result, w₁)) :
    w₁.recording.body = w.recording.body ∧ w₁.recording.writes = w.recording.writes := by
  obtain ⟨called, sent, replies, -, hRun⟩ :=
    run_phase (handler shown) ((host.receiveRequest limits request).after w)
  rw [hReturned, Action.after_of_eq (receiveRequest_eq limits request w)] at hRun
  obtain rfl : w₁ = _ := hRun
  exact ⟨rfl, rfl⟩

theorem serve_of_response (hLimits : config.limits = .ok limits) (hReadable : Readable request)
    (hShown : Buffers request shown) (hOut : out.Reliable)
    (hReturned : (handler shown).run host ((host.receiveRequest limits request).after w) =
      (.ok r, w₁))
    (hStatus : 100 ≤ r.status ∧ r.status ≤ 999)
    (hFields : ∀ field ∈ r.headers.toFields, out.isRejected field.1 = false) :
    host.serve config handler request out w = .ok () (w₁.delivered limits (.response r)) := by
  have hAnswer := answerRequest_of_returned hLimits hReadable hShown hReturned
  exact serve_of_taken hOut hAnswer (hOut.sound.refusal?_response hStatus hFields)

/-- The client has the whole response in `w'`, which the handler returned in `w₁` while the
request in `w` was served. -/
structure ResponseDelivered (size : Nat) (r : Response) (w w₁ w' : World) : Prop where
  status : w'.recording.status = some r.status
  headers : w'.recording.headers =
    r.headers.entries.map fun header => (header.name, Text.Utf8.encode header.value)
  body : w'.recording.body = w.recording.body ++ r.bodyBytes
  chunks : ∃ chunks, Cuts size r.bodyBytes chunks ∧
    w'.recording.writes = w.recording.writes ++ chunks.map List.length ∧
    w'.recording.events = w₁.recording.events ++ .statusSet r.status :: .outparamSet ::
      (writeEvents chunks ++ [.outputStreamDropped, .outgoingBodyFinished])

theorem responseDelivered (limits : Limits) (hBody : w₁.recording.body = w.recording.body)
    (hWrites : w₁.recording.writes = w.recording.writes) :
    ResponseDelivered limits.write r w w₁ (w₁.delivered limits (.response r)) where
  status := rfl
  headers := rfl
  body := by
    rw [← hBody]
    rfl
  chunks := by
    refine ⟨chunked limits.write_pos r.bodyBytes, cuts_chunked limits.write_pos r.bodyBytes,
      ?_, rfl⟩
    rw [← hWrites]
    rfl

/-- The response of a handler is delivered whole and without an error, and one without a body as
one with a body of no bytes. -/
theorem response_delivered_exactly (handler : Handler) (w : World)
    (hLimits : config.limits = .ok limits)
    (hReadable : Readable request) (hShown : Buffers request shown) (hOut : out.Reliable)
    (hReturned : (handler shown).run host ((host.receiveRequest limits request).after w) =
      (.ok r, w₁))
    (hStatus : 100 ≤ r.status ∧ r.status ≤ 999)
    (hHeaders : ∀ header ∈ r.headers.entries, out.isRejected header.name = false) :
    (host.serve config handler request out).result w = .ok () ∧
    ResponseDelivered config.writeChunkSize.toNat r w w₁
      ((host.serve config handler request out).after w) ∧
    ∀ handler' : Handler, r.body = none →
      (handler' shown).run host ((host.receiveRequest limits request).after w) =
        (.ok { r with body := some [] }, w₁) →
      (host.serve config handler' request out).after w =
        (host.serve config handler request out).after w := by
  have hFields : ∀ field ∈ r.headers.toFields, out.isRejected field.1 = false := by
    intro field hField
    obtain ⟨header, hHeader, rfl⟩ := List.mem_map.mp hField
    exact hHeaders header hHeader
  have hServe := serve_of_response hLimits hReadable hShown hOut hReturned hStatus hFields
  obtain ⟨hBody, hWrites⟩ := unwritten_of_returned hReturned
  refine ⟨Action.result_of_ok hServe, ?_, ?_⟩
  · rw [Action.after, hServe, ← Config.write_of_limits hLimits]
    exact responseDelivered limits hBody hWrites
  · intro handler' hNone hReturned'
    have hServe' := serve_of_response hLimits hReadable hShown hOut hReturned' hStatus hFields
    rw [Action.after, hServe', Action.after, hServe]
    simp only [World.delivered, Answer.chunks, Answer.status, Answer.fields, Answer.bytes,
      Response.bodyBytes, hNone, Option.getD_none, Option.getD_some, closingEvents]

theorem five_bytes_in_three_writes :
    ∃ w', (host.serve ⟨4, 2, none, none, none⟩
        (fun _ => .done (.ok ⟨201, ⟨[⟨"a", "b"⟩, ⟨"A", "\u00e9"⟩]⟩, some [1, 2, 3, 4, 5]⟩))
        ⟨.get, none, [], [], false, none⟩ ⟨none, ["x"], .none⟩) ⟨.empty, [], 0⟩ = .ok () w' ∧
      w'.recording.status = some 201 ∧
      w'.recording.headers = [("a", [0x62]), ("A", [0xC3, 0xA9])] ∧
      w'.recording.body = [1, 2, 3, 4, 5] ∧ w'.recording.writes.length = 3 := by
  have hLimits : Config.limits ⟨4, 2, none, none, none⟩ =
      .ok ⟨4, 2, by decide, by decide, by decide⟩ := rfl
  have hReadable : Readable ⟨.get, none, [], [], false, none⟩ := ⟨rfl, rfl, by simp, by simp⟩
  have hShown : Buffers ⟨.get, none, [], [], false, none⟩ ⟨.get, "/", .empty, some []⟩ :=
    ⟨rfl, rfl, rfl, rfl⟩
  have hOut : Outparam.Reliable ⟨none, ["x"], .none⟩ := ⟨rfl, rfl⟩
  obtain ⟨hResult, hDelivered, -⟩ := response_delivered_exactly
    (fun _ => .done (.ok ⟨201, ⟨[⟨"a", "b"⟩, ⟨"A", "\u00e9"⟩]⟩, some [1, 2, 3, 4, 5]⟩))
    ⟨.empty, [], 0⟩ hLimits hReadable hShown hOut rfl (by decide) (by decide)
  refine ⟨_, ?_, hDelivered.status, ?_, hDelivered.body, ?_⟩
  · rw [Action.eq_ofExcept (host.serve _ _ _ _), hResult]
    rfl
  · rw [hDelivered.headers]
    decide
  · obtain ⟨chunks, hCuts, hWrites, -⟩ := hDelivered.chunks
    rw [hWrites, List.length_append, List.length_map, hCuts.length]
    rfl

end Memory

end BufferedHttp
