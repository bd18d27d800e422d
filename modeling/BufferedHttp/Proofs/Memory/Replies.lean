import BufferedHttp.Proofs.Host.Tapped
import BufferedHttp.Proofs.Memory.Buffering
import BufferedHttp.Proofs.Memory.Order

/-!
# A send comes to what its reply says

A send that takes a reply waits as often as the host demands and then comes to what the reply
yields: a transport error, a header that does not decode, a body that is gone, the first failing
step of the body, or the whole response. How long it waited and in which pieces it read the body
does not show. A future gives its outcome once, so the send must not look again when it has one.
-/

namespace BufferedHttp

theorem Script.failure?_eq_some_iff (script : Script) (message : String) :
    script.failure? = some message ↔
      ∃ before after, script = before ++ .fail message :: after ∧
        ∀ earlier, .fail earlier ∉ before := by
  rw [failure?, List.findSome?_eq_some_iff]
  constructor
  · rintro ⟨before, step, after, rfl, hStep, hBefore⟩
    cases step with
    | data bytes => cases hStep
    | fail earlier =>
      cases hStep
      refine ⟨before, after, rfl, ?_⟩
      intro earlier hEarlier
      cases hBefore (.fail earlier) hEarlier
  · rintro ⟨before, after, rfl, hBefore⟩
    refine ⟨before, .fail message, after, rfl, rfl, ?_⟩
    rintro (bytes | earlier) hStep
    · rfl
    · exact absurd hStep (hBefore earlier)

theorem Request.outgoingHead_eq_ok_iff (request : Request) (head : RequestHead) :
    request.outgoingHead = .ok head ↔ request.body = none ∧ request.head = .ok head := by
  rw [outgoingHead]
  cases request.body with
  | some bytes => simp
  | none => cases request.head <;> simp [Except.mapError]

theorem Request.outgoingHead_ne_alreadyTaken (request : Request) :
    request.outgoingHead ≠ .error .responseAlreadyTaken := by
  rw [outgoingHead]
  cases request.body with
  | some bytes => simp
  | none => cases request.head <;> simp [Except.mapError]

namespace Memory

/-- What a reply comes to. Its headers are looked at before its body. -/
inductive Reply.Yields : Reply → Except Error Response → Prop where
  | transport (message : String) : Yields (.transport message) (.error (.transport message))
  | undecodable {r : IncomingResponse} {field : String × Bytes} {u : Undecodable}
      (hField : field ∈ r.headers) (hValue : ∀ value, Text.Utf8.encode value ≠ field.2)
      (hFault : HeaderMap.ofFields r.headers = .error u) :
      Yields (.response r) (.error (.header u.message))
  | consumed {r : IncomingResponse} {headers : HeaderMap}
      (hHeaders : headers.toFields = r.headers) (hBody : r.consumed = true) :
      Yields (.response r) (.error (.body "response body already consumed"))
  | broken {r : IncomingResponse} {headers : HeaderMap} {before after : Script}
      {message : String} (hHeaders : headers.toFields = r.headers) (hBody : r.consumed = false)
      (hScript : r.script = before ++ .fail message :: after)
      (hFirst : ∀ earlier, .fail earlier ∉ before) :
      Yields (.response r) (.error (.stream message))
  | complete {r : IncomingResponse} {headers : HeaderMap}
      (hHeaders : headers.toFields = r.headers) (hBody : r.consumed = false)
      (hScript : ∀ message, .fail message ∉ r.script) :
      Yields (.response r) (.ok ⟨r.status, headers, some r.script.bytes⟩)

/-- The same reply with its body cut in other steps. -/
inductive Reply.Resplit : Reply → Reply → Prop where
  | transport (message : String) : Resplit (.transport message) (.transport message)
  | response (r : IncomingResponse) {script : Script} (hBytes : script.bytes = r.script.bytes)
      (hFailure : script.failure? = r.script.failure?) :
      Resplit (.response r) (.response { r with script })

variable {config : Config} {limits : Limits} {request : Request} {head : RequestHead}
  {reply reply' : Reply} {replies : List Reply} {w : World}

theorem exists_untextual_of_ofFields {fields : FieldList} {u : Undecodable}
    (h : HeaderMap.ofFields fields = .error u) :
    ∃ field ∈ fields, ∀ value, Text.Utf8.encode value ≠ field.2 := by
  by_contra hTextual
  push Not at hTextual
  obtain ⟨headers, hFields⟩ := (HeaderMap.exists_toFields_eq_iff fields).mpr hTextual
  rw [(HeaderMap.ofFields_eq_ok_iff fields headers).mpr hFields] at h
  cases h

theorem received_of_textual {bound : Nat} {r : IncomingResponse} {headers : HeaderMap}
    (hHeaders : headers.toFields = r.headers) :
    (r.received bound).1 =
      (gather bound r.source).1.map fun bytes => ⟨r.status, headers, some bytes⟩ := by
  rw [IncomingResponse.received, (HeaderMap.ofFields_eq_ok_iff _ _).mpr hHeaders]

theorem yields_received (bound : Nat) (reply : Reply) :
    reply.Yields (reply.received bound).1 := by
  cases reply with
  | transport message => exact .transport message
  | response r =>
    rw [Reply.received]
    cases hDecoded : HeaderMap.ofFields r.headers with
    | error u =>
      obtain ⟨field, hField, hValue⟩ := exists_untextual_of_ofFields hDecoded
      rw [IncomingResponse.received, hDecoded]
      exact .undecodable hField hValue hDecoded
    | ok headers =>
      have hHeaders := (HeaderMap.ofFields_eq_ok_iff _ _).mp hDecoded
      rw [received_of_textual hHeaders, IncomingResponse.source]
      cases hBody : r.consumed with
      | true => exact .consumed hHeaders hBody
      | false =>
        rw [if_neg Bool.false_ne_true]
        cases hFailure : r.script.failure? with
        | some message =>
          obtain ⟨before, after, hScript, hFirst⟩ :=
            (Script.failure?_eq_some_iff _ _).mp hFailure
          rw [gather_of_failure hFailure]
          exact .broken hHeaders hBody hScript hFirst
        | none =>
          rw [gather_of_none hFailure]
          exact .complete hHeaders hBody ((Script.failure?_eq_none_iff _).mp hFailure)

theorem received_of_resplit (h : reply.Resplit reply') (bound bound' : Nat) :
    (reply'.received bound').1 = (reply.received bound).1 := by
  cases h with
  | transport message => rfl
  | @response r script hBytes hFailure =>
    have hContent : script.content = r.script.content := by
      rw [Script.content, Script.content, hFailure, hBytes]
    simp only [Reply.received, IncomingResponse.received]
    cases HeaderMap.ofFields r.headers with
    | error u => rfl
    | ok headers =>
      simp only [IncomingResponse.source]
      -- the events may differ here, but what was gathered is the content of the script
      cases r.consumed with
      | true => rfl
      | false => simp [gather, hContent]

theorem received_of_header {bound : Nat} {message : String}
    (h : (reply.received bound).1 = .error (.header message)) :
    (reply.received bound).2 = [] := by
  cases reply with
  | transport => cases h
  | response r =>
    rw [Reply.received, IncomingResponse.received] at h ⊢
    cases hDecoded : HeaderMap.ofFields r.headers with
    | error u => rfl
    | ok headers =>
      rw [hDecoded] at h
      rw [IncomingResponse.source] at h
      cases hBody : r.consumed with
      | true =>
        rw [hBody] at h
        cases h
      | false =>
        rw [hBody, if_neg Bool.false_ne_true] at h
        cases hFailure : r.script.failure? with
        | some message' =>
          rw [gather_of_failure hFailure] at h
          cases h
        | none =>
          rw [gather_of_none hFailure] at h
          cases h

theorem Reply.Yields.ne_alreadyTaken {result : Except Error Response} (h : reply.Yields result) :
    result ≠ .error .responseAlreadyTaken := by
  cases h <;> simp

def Event.isReading : Event → Bool
  | read _ | inputStreamDropped | incomingBodyFinished => true
  | _ => false

theorem notMem_readingEvents {e : Event} (h : e.isReading = false) (bound : Nat)
    (script : Script) : e ∉ readingEvents bound script := by
  intro hMem
  rw [readingEvents, List.mem_append, List.mem_map, List.mem_cons] at hMem
  rcases hMem with ⟨n, -, rfl⟩ | rfl | hMem
  · cases h
  · cases h
  · split at hMem
    · rw [List.mem_singleton.mp hMem] at h
      cases h
    · cases hMem

theorem ReplyPhase.notMem {bound : Nat} {events : List Event} {e : Event}
    (h : ReplyPhase bound reply events) (hEvent : e.isReading = false) : e ∉ events := by
  cases h with
  | transport | undecodable | unavailable => exact List.not_mem_nil
  | read => exact notMem_readingEvents hEvent _ _

theorem result_of_reply (hLimits : config.limits = .ok limits)
    (hHead : request.outgoingHead = .ok head) (hReplies : w.replies = reply :: replies) :
    (host.send config request).result w = (reply.received limits.read).1 :=
  Action.result_of_eq (send_of_reply hLimits hHead hReplies)

theorem events_of_reply (hLimits : config.limits = .ok limits)
    (hHead : request.outgoingHead = .ok head) (hReplies : w.replies = reply :: replies) :
    (added (host.send config request) w).events =
      .requestSent :: (waitingEvents w.pending ++ (reply.received limits.read).2) := by
  apply events_added (send_of_reply hLimits hHead hReplies)
  simp [Recording.addSent]

theorem Sent.ne_alreadyTaken {w' : World} {result : Except Error Response}
    (h : Sent config request w result w') : result ≠ .error .responseAlreadyTaken := by
  cases h with
  | @invalid fault => cases fault <;> simp [Config.Fault.toError]
  | headless _ hHead =>
    rintro ⟨⟩
    exact request.outgoingHead_ne_alreadyTaken hHead
  | exhausted => simp
  | @accepted limits _ reply => exact (yields_received limits.read reply).ne_alreadyTaken

/-! ## Waiting -/

/-- A future that gave its outcome says from then on that it was taken. -/
theorem poll_of_given {future future' : Future} {w' : World}
    {outcome : Except Error IncomingResponse}
    (h : host.poll future w = (some outcome, future', w')) :
    host.poll future' w' = (some (.error .responseAlreadyTaken), future', w') := by
  obtain ⟨reply, pending⟩ := future
  cases pending with
  | succ pending =>
    simp [Future.poll_waiting] at h
  | zero =>
    obtain rfl : future' = ⟨none, 0⟩ := by
      cases reply with
      | none => exact (Prod.mk.inj (Prod.mk.inj h).2).1.symm
      | some reply =>
        simp only [Future.poll_ready, Prod.mk.injEq] at h
        exact h.2.1.symm
    simp only [Future.poll_empty]

/-- The calls that wait for a reply. Only the last look finds it. -/
def waitingCalls (pending : Nat) : List Host.Call :=
  (List.replicate pending [Host.Call.poll, Host.Call.block]).flatten ++ [.poll]

theorem awaitOutcome_tapped_eq (pollable : Pollable) (reply : Reply) (pending : Nat) (w : World)
    (log : List Host.Call) :
    host.tapped.awaitOutcome pollable (Future.mk (some reply) pending) (w, log) =
      (reply.outcome, ⟨none, 0⟩, w.recordAll (List.replicate pending .blocked),
        log ++ waitingCalls pending) := by
  induction pending generalizing w log with
  | zero =>
    have hPoll : host.tapped.poll ⟨some reply, 0⟩ (w, log) =
        (some reply.outcome, ⟨none, 0⟩, w, log ++ [.poll]) := by
      simp only [Future.poll_ready]
    rw [host.tapped.awaitOutcome_of_some pollable hPoll]
    simp [waitingCalls]
  | succ pending ih =>
    have hPoll : host.tapped.poll ⟨some reply, pending + 1⟩ (w, log) =
        (none, ⟨some reply, pending + 1⟩, w, log ++ [.poll]) := by
      simp only [Future.poll_waiting]
    have hBlock : host.tapped.block pollable ⟨some reply, pending + 1⟩ (w, log ++ [.poll]) =
        (⟨some reply, pending⟩, w.recordAll [.blocked], log ++ [.poll] ++ [.block]) := rfl
    rw [host.tapped.awaitOutcome_of_none pollable hPoll, hBlock, ih, World.recordAll_recordAll,
      List.replicate_succ, List.singleton_append]
    simp [waitingCalls, List.replicate_succ]

theorem await_tapped_eq (reply : Reply) (pending : Nat) (w : World) (log : List Host.Call) :
    host.tapped.await (Future.mk (some reply) pending) (w, log) =
      Action.ofExcept reply.outcome (w.recordAll (waitingEvents pending),
        log ++ .subscribe :: waitingCalls pending) := by
  have hOutcome := awaitOutcome_tapped_eq ⟨⟩ reply pending w (log ++ [.subscribe])
  apply Action.ofCall_eq_ofExcept
  simp only [Host.Call.get, hOutcome, Prod.map_apply, id, World.record_eq_recordAll,
    World.recordAll_recordAll, waitingEvents, List.append_assoc, List.singleton_append]

/-- A send that takes a reply looks for it once more than it blocks, and then only reads. -/
theorem calls_of_reply (hLimits : config.limits = .ok limits)
    (hHead : request.outgoingHead = .ok head) (hReplies : w.replies = reply :: replies) :
    ∃ reading, (∀ call ∈ reading, call.Receives limits.read) ∧
      ((host.tapped.send config request).after (w, [])).2 =
        .handle :: .subscribe :: (waitingCalls w.pending ++ reading) := by
  have hHandle : host.tapped.handle head config.requestOptions (w, []) =
      .ok ⟨some reply, w.pending⟩
        ({ w with recording := w.recording.addSent head config.requestOptions, replies },
          [.handle]) := by
    simp only [Host.Call.act, Action.ofCall, World.handle, hReplies, Action.pairWith,
      List.nil_append]
  have hAwait := await_tapped_eq reply w.pending
    { w with recording := w.recording.addSent head config.requestOptions, replies } [.handle]
  rw [Action.after, Host.send_of_head hLimits hHead, Host.exchange, Action.bind_of_ok hHandle]
  cases reply with
  | transport message =>
    rw [Action.bind_of_error hAwait]
    exact ⟨[], List.forall_mem_nil _, by rw [List.append_nil]; rfl⟩
  | response r =>
    obtain ⟨reading, hReading, hRun⟩ := host.receiveResponse_tapped limits r
      ({ w with
          recording := w.recording.addSent head config.requestOptions
          replies }.recordAll (waitingEvents w.pending))
      ([.handle] ++ .subscribe :: waitingCalls w.pending)
    rw [Action.bind_of_ok hAwait, hRun]
    refine ⟨reading, hReading, ?_⟩
    generalize host.receiveResponse limits r _ = result
    cases result <;> rfl

/-- A send that takes a reply waits as often as the host demands and comes to what the reply
yields, however long it waits and however it reads. It looks for the reply once more than it
blocks, and not again when it has it: a second look would say that the reply was taken. On any host
a header that does not decode leaves the body alone. -/
theorem send_determined_by_reply (hConfig : config.validate = .ok ()) (hBody : request.body = none)
    (hHead : request.head = .ok head) (hReplies : w.replies = reply :: replies) :
    reply.Yields ((host.send config request).result w) ∧
    (added (host.send config request) w).events.count .blocked = w.pending ∧
    (∀ message, (host.send config request).result w = .error (.header message) →
      (added (host.send config request) w).events =
        .requestSent :: (List.replicate w.pending .blocked ++ [.pollableDropped, .futureDropped])) ∧
    (∃ reading, (∀ call ∈ reading, call.Receives config.readChunkSize.toNat) ∧
      ((host.tapped.send config request).after (w, [])).2 =
        .handle :: .subscribe :: (waitingCalls w.pending ++ reading)) ∧
    (∀ (future future' : Future) (outcome : Except Error IncomingResponse) (s s' : World),
      host.poll future s = (some outcome, future', s') →
        host.poll future' s' = (some (.error .responseAlreadyTaken), future', s')) ∧
    (∀ (config' : Config) (reply' : Reply) (replies' : List Reply) (w' : World),
      config'.validate = .ok () → reply.Resplit reply' → w'.replies = reply' :: replies' →
        (host.send config' request).result w' = (host.send config request).result w) ∧
    (∀ {S : Type} (any : Host S) (limits : Limits) (incoming : any.IncomingResponse) (s : S)
      (u : Undecodable), HeaderMap.ofFields
        (any.responseHeaders incoming (any.responseStatus incoming s).2).1 = .error u →
      any.receiveResponse limits incoming s = .error (.header u.message)
        (any.dropIncomingResponse incoming
          (any.responseHeaders incoming (any.responseStatus incoming s).2).2)) ∧
    ∀ (config : Config) (request : Request) (w : World),
      (host.send config request).result w ≠ .error .responseAlreadyTaken := by
  obtain ⟨limits, hLimits⟩ := config.validate_eq_ok_iff.mp hConfig
  have hOutgoing := (request.outgoingHead_eq_ok_iff head).mpr ⟨hBody, hHead⟩
  have hResult := result_of_reply hLimits hOutgoing hReplies
  have hEvents := events_of_reply hLimits hOutgoing hReplies
  refine ⟨?_, ?_, ?_, ?_, ?_, ?_, ?_, ?_⟩
  · rw [hResult]
    exact yields_received limits.read reply
  · have hReading : (reply.received limits.read).2.count .blocked = 0 :=
      List.count_eq_zero.mpr ((received_phase limits.read reply).notMem rfl)
    rw [hEvents, List.count_cons, List.count_append, hReading, waitingEvents]
    simp
  · intro message hMessage
    rw [hResult] at hMessage
    rw [hEvents, received_of_header hMessage, List.append_nil, waitingEvents]
  · rw [← Config.read_of_limits hLimits]
    exact calls_of_reply hLimits hOutgoing hReplies
  · intro future future' outcome s s' hGiven
    exact poll_of_given hGiven
  · intro config' reply' replies' w' hConfig' hSame hReplies'
    obtain ⟨limits', hLimits'⟩ := config'.validate_eq_ok_iff.mp hConfig'
    rw [hResult, result_of_reply hLimits' hOutgoing hReplies']
    exact received_of_resplit hSame limits.read limits'.read
  · intro S any limits incoming s u hUndecodable
    exact Host.receiveResponse_of_undecodable hUndecodable
  · intro config request w
    exact (send_sent config request w).ne_alreadyTaken

theorem whole_reply_after_two_waits :
    (host.send .default (.get "http://a/")).result
        ⟨.empty, [.response ⟨204, [("n", [0x76])], [.data [1, 2], .data [], .data [3]], false⟩], 2⟩ =
      .ok ⟨204, ⟨[⟨"n", "v"⟩]⟩, some [1, 2, 3]⟩ ∧
    (added (host.send .default (.get "http://a/"))
        ⟨.empty, [.response ⟨204, [("n", [0x76])], [.data [1, 2], .data [], .data [3]], false⟩],
          2⟩).events.count .blocked = 2 := by
  have hHead : (Request.get "http://a/").head = .ok ⟨.get, .http, "a", "/", []⟩ := by decide +kernel
  have hText : HeaderMap.ofFields [("n", [0x76])] = .ok ⟨[⟨"n", "v"⟩]⟩ := by decide +kernel
  obtain ⟨hYields, hBlocked, -⟩ := send_determined_by_reply
    (w := ⟨.empty, [.response ⟨204, [("n", [0x76])], [.data [1, 2], .data [], .data [3]], false⟩], 2⟩)
    (by rfl : Config.default.validate = .ok ()) rfl hHead rfl
  refine ⟨?_, hBlocked⟩
  generalize (host.send .default (.get "http://a/")).result _ = result at hYields ⊢
  cases hYields with
  | undecodable hField hValue hFault =>
    rw [hText] at hFault
    cases hFault
  | consumed hHeaders hBody => cases hBody
  | broken hHeaders hBody hScript hFirst =>
    cases (Script.failure?_eq_some_iff _ _).mpr ⟨_, _, hScript, hFirst⟩
  | complete hHeaders hBody hScript =>
    have hDecoded := (HeaderMap.ofFields_eq_ok_iff _ _).mpr hHeaders
    rw [hText] at hDecoded
    cases hDecoded
    rfl

end Memory

end BufferedHttp
