import BufferedHttp.Proofs.Host.Phases

/-!
# Watching a host

A watched host does what the host does and notes beside it which out-parameter was resolved, and
with what. A watched service notes in the same list which requests it was given. Reading, sending
and writing add no note, and no run goes another way for being watched.
-/

namespace BufferedHttp

variable {World : Type}

/-- What is noted of a run: a call of the service, or an out-parameter resolved either way. -/
inductive Host.Note (host : Host World) where
  | called (request : Request)
  | resolved (out : host.Outparam) (response : host.OutgoingResponse)
  | rejected (out : host.Outparam) (message : String)

namespace Host

def Note.isResolution {host : Host World} : host.Note → Bool
  | .called _ => false
  | .resolved _ _ | .rejected _ _ => true

def Note.request? {host : Host World} : host.Note → Option Request
  | .called request => some request
  | .resolved _ _ | .rejected _ _ => none

/-- The note says how this out-parameter was resolved. -/
inductive Note.Resolves {host : Host World} (out : host.Outparam) : host.Note → Prop where
  | resolved (response : host.OutgoingResponse) : Resolves out (.resolved out response)
  | rejected (message : String) : Resolves out (.rejected out message)

@[reducible] def watched (host : Host World) : Host (World × List host.Note) where
  IncomingBody := host.IncomingBody
  InputStream := host.InputStream
  openInput b := (host.openInput b).beside
  read s n w :=
    let r := host.read s n w.1
    (r.1, r.2.1, r.2.2, w.2)
  dropInput s := Prod.map (host.dropInput s) id
  finishIncoming b := Prod.map (host.finishIncoming b) id
  dropIncoming b := Prod.map (host.dropIncoming b) id
  unread := host.unread
  unread_read := by
    intro s n w bytes s' w' pos h
    obtain ⟨h₁, h₂⟩ := Prod.mk.inj h
    obtain ⟨h₂, -⟩ := Prod.mk.inj h₂
    exact host.unread_read pos (Prod.ext h₁ (Prod.ext h₂ rfl))
  IncomingRequest := host.IncomingRequest
  requestMethod r w := ((host.requestMethod r w.1).1, (host.requestMethod r w.1).2, w.2)
  requestPath r w := ((host.requestPath r w.1).1, (host.requestPath r w.1).2, w.2)
  requestHeaders r w := ((host.requestHeaders r w.1).1, (host.requestHeaders r w.1).2, w.2)
  consumeRequest r := (host.consumeRequest r).beside
  dropRequest r := Prod.map (host.dropRequest r) id
  Outparam := host.Outparam
  OutgoingResponse := host.OutgoingResponse
  OutgoingBody := host.OutgoingBody
  OutputStream := host.OutputStream
  newResponse o fields := (host.newResponse o fields).beside
  setStatus r status := (host.setStatus r status).beside
  takeBody r := (host.takeBody r).beside
  dropResponse r := Prod.map (host.dropResponse r) id
  resolve o r w := (host.resolve o r w.1, w.2 ++ [.resolved o r])
  reject o message w := (host.reject o message w.1, w.2 ++ [.rejected o message])
  openOutput b := (host.openOutput b).beside
  write s bytes w :=
    let r := host.write s bytes w.1
    (r.1, r.2.1, r.2.2, w.2)
  dropOutput s := Prod.map (host.dropOutput s) id
  finishOutgoing b := (host.finishOutgoing b).beside
  dropOutgoing b := Prod.map (host.dropOutgoing b) id
  Future := host.Future
  Pollable := host.Pollable
  IncomingResponse := host.IncomingResponse
  handle head options := (host.handle head options).beside
  subscribe f w := ((host.subscribe f w.1).1, (host.subscribe f w.1).2, w.2)
  poll f w :=
    let r := host.poll f w.1
    (r.1, r.2.1, r.2.2, w.2)
  block p f w := ((host.block p f w.1).1, (host.block p f w.1).2, w.2)
  dropPollable p := Prod.map (host.dropPollable p) id
  dropFuture f := Prod.map (host.dropFuture f) id
  waits := host.waits
  waits_block := by
    intro p f f' w w' h
    obtain ⟨h₁, h₂⟩ := Prod.mk.inj h
    obtain ⟨h₂, h₃⟩ := Prod.mk.inj h₂
    exact host.waits_block (Prod.ext h₁ (Prod.ext h₂ (congrArg Prod.fst h₃)))
  responseStatus r w := ((host.responseStatus r w.1).1, (host.responseStatus r w.1).2, w.2)
  responseHeaders r w := ((host.responseHeaders r w.1).1, (host.responseHeaders r w.1).2, w.2)
  consumeResponse r := (host.consumeResponse r).beside
  dropIncomingResponse r := Prod.map (host.dropIncomingResponse r) id

/-! ## Reading and sending -/

theorem readAll_watched (host : Host World) {bound : Nat} (pos : 0 < bound)
    (stream : host.InputStream) (before : Bytes) (w : World) (notes : List host.Note) :
    host.watched.readAll pos stream before (w, notes) =
      ((host.readAll pos stream before w).1, (host.readAll pos stream before w).2.1,
        (host.readAll pos stream before w).2.2, notes) := by
  match h : host.read stream bound w with
  | (.ok bytes, stream', w') =>
    have hWatched : host.watched.read stream bound (w, notes) =
        (.ok bytes, stream', w', notes) := by
      simp only [h]
    have := host.unread_read pos h
    rw [readAll_of_ok host pos before h, readAll_of_ok host.watched pos before hWatched]
    exact host.readAll_watched pos stream' (before ++ bytes) w' notes
  | (.error .closed, stream', w') =>
    have hWatched : host.watched.read stream bound (w, notes) =
        (.error .closed, stream', w', notes) := by
      simp only [h]
    rw [readAll_of_closed host pos before h, readAll_of_closed host.watched pos before hWatched]
  | (.error (.failed message), stream', w') =>
    have hWatched : host.watched.read stream bound (w, notes) =
        (.error (.failed message), stream', w', notes) := by
      simp only [h]
    rw [readAll_of_failed host pos before h, readAll_of_failed host.watched pos before hWatched]
  termination_by host.unread stream

theorem readOut_watched (host : Host World) {bound : Nat} (pos : 0 < bound)
    (stream : host.InputStream) :
    host.watched.readOut pos stream = (host.readOut pos stream).beside := by
  rw [readOut, readOut, Action.beside_ofCall]
  congr 1
  funext w
  rw [readAll_watched host pos stream [] w.1 w.2]
  rfl

theorem drain_watched (host : Host World) {bound : Nat} (pos : 0 < bound)
    (body : host.IncomingBody) :
    host.watched.drain pos body = (host.drain pos body).beside := by
  simp only [drain, readOut_watched, Action.beside_bind, Action.beside_onFailure,
    Action.beside_modify, Action.beside_pure]

theorem awaitOutcome_watched (host : Host World) (pollable : host.Pollable) (future : host.Future)
    (w : World) (notes : List host.Note) :
    host.watched.awaitOutcome pollable future (w, notes) =
      ((host.awaitOutcome pollable future w).1, (host.awaitOutcome pollable future w).2.1,
        (host.awaitOutcome pollable future w).2.2, notes) := by
  match h : host.poll future w with
  | (some outcome, future', w') =>
    have hWatched : host.watched.poll future (w, notes) =
        (some outcome, future', w', notes) := by
      simp only [h]
    rw [awaitOutcome_of_some host pollable h, awaitOutcome_of_some host.watched pollable hWatched]
  | (none, future', w') =>
    have hWatched : host.watched.poll future (w, notes) = (none, future', w', notes) := by
      simp only [h]
    have := host.waits_block (p := pollable) h
    rw [awaitOutcome_of_none host pollable h, awaitOutcome_of_none host.watched pollable hWatched]
    exact host.awaitOutcome_watched pollable _ _ notes
  termination_by host.waits future

theorem await_watched (host : Host World) (future : host.Future) :
    host.watched.await future = (host.await future).beside := by
  rw [await, await, Action.beside_ofCall]
  congr 1
  funext w
  simp only [awaitOutcome_watched]
  rfl

theorem receiveResponse_watched (host : Host World) (limits : Limits)
    (incoming : host.IncomingResponse) :
    host.watched.receiveResponse limits incoming =
      (host.receiveResponse limits incoming).beside := by
  simp only [receiveResponse, drain_watched, Action.beside_bind, Action.beside_modifyGet,
    Action.beside_ofExcept, Action.beside_onFailure, Action.beside_ensuring, Action.beside_pure]

theorem send_watched (host : Host World) (config : Config) (request : Request) :
    host.watched.send config request = (host.send config request).beside := by
  simp only [send, await_watched, receiveResponse_watched, Action.beside_bind,
    Action.beside_ofExcept]

theorem run_watched (host : Host World) (handling : Handling) (w : World)
    (notes : List host.Note) :
    handling.run host.watched (w, notes) =
      ((handling.run host w).1, (handling.run host w).2, notes) := by
  induction handling generalizing w with
  | done result => rfl
  | send config request next ih =>
    rw [Handling.run, Handling.run, send_watched, Action.beside]
    cases host.send config request w with
    | ok response w' => exact ih (.ok response) w'
    | error e w' => exact ih (.error e) w'

/-! ## Answering -/

theorem writeAll_watched (host : Host World) (chunks : List Bytes) (stream : host.OutputStream)
    (w : World) (notes : List host.Note) :
    host.watched.writeAll chunks stream (w, notes) =
      ((host.writeAll chunks stream w).1, (host.writeAll chunks stream w).2.1,
        (host.writeAll chunks stream w).2.2, notes) := by
  induction chunks generalizing stream w with
  | nil => rfl
  | cons chunk chunks ih =>
    have hWrite : host.watched.write stream chunk (w, notes) =
        ((host.write stream chunk w).1, (host.write stream chunk w).2.1,
          (host.write stream chunk w).2.2, notes) := rfl
    rw [writeAll, writeAll, hWrite]
    rcases host.write stream chunk w with ⟨_ | _, stream', w'⟩
    · rfl
    · exact ih stream' w'

theorem writeOut_watched (host : Host World) (chunks : List Bytes) (stream : host.OutputStream) :
    host.watched.writeOut chunks stream = (host.writeOut chunks stream).beside := by
  rw [writeOut, writeOut, Action.beside_ofCall]
  congr 1
  funext w
  rw [writeAll_watched host chunks stream w.1 w.2]
  rfl

theorem fill_watched (host : Host World) (body : host.OutgoingBody) (chunks : List Bytes) :
    host.watched.fill body chunks = (host.fill body chunks).beside := by
  simp only [fill, writeOut_watched, Action.beside_bind, Action.beside_onFailure]

theorem complete_watched (host : Host World) (limits : Limits) (body : host.OutgoingBody)
    (answer : Answer) :
    host.watched.complete limits body answer = (host.complete limits body answer).beside := by
  cases answer with
  | response r => exact host.fill_watched body _
  | internalError => rfl

theorem finishHead_watched (host : Host World) (response : host.OutgoingResponse)
    (answer : Answer) :
    host.watched.finishHead response answer = (host.finishHead response answer).beside := by
  cases answer <;>
    simp only [finishHead, Action.beside_bind, Action.beside_onFailure, Action.beside_pure]

theorem prepare_watched (host : Host World) (out : host.Outparam) (answer : Answer) :
    host.watched.prepare out answer = (host.prepare out answer).beside := by
  simp only [prepare, finishHead_watched, Action.beside_bind, Action.beside_onFailure]

theorem receiveRequest_watched (host : Host World) (limits : Limits)
    (request : host.IncomingRequest) :
    host.watched.receiveRequest limits request = (host.receiveRequest limits request).beside := by
  simp only [receiveRequest, drain_watched, Action.beside_bind, Action.beside_modifyGet,
    Action.beside_pure]

/-- A service that notes every request before it is given it. -/
def noting (host : Host World) (service : Service (World × List host.Note)) :
    Service (World × List host.Note) :=
  fun request w => service request (w.1, w.2 ++ [.called request])

theorem answerRequest_watched (host : Host World) (config : Config) (handler : Handler)
    (request : host.IncomingRequest) (w : World) (notes : List host.Note) :
    host.watched.answerRequest config (host.noting (handler.on host.watched)) request (w, notes) =
      Action.pairWith (notes ++ (host.shown? config request w).toList.map .called)
        (host.answerRequest config (handler.on host) request w) := by
  cases hLimits : config.limits with
  | error fault =>
    rw [answerRequest_of_fault hLimits, answerRequest_of_fault hLimits, shown?_of_fault hLimits]
    simp [Action.pairWith]
  | ok limits =>
    cases hReceived : host.receiveRequest limits request w with
    | error e w' =>
      have hWatched := Action.beside_of_error (w := (w, notes)) hReceived
      rw [← receiveRequest_watched] at hWatched
      rw [answerRequest_of_error hLimits hReceived, answerRequest_of_error hLimits hWatched,
        shown?_of_error hLimits hReceived]
      simp [Action.pairWith]
    | ok received w' =>
      have hWatched := Action.beside_of_ok (w := (w, notes)) hReceived
      rw [← receiveRequest_watched] at hWatched
      rw [answerRequest_of_ok hLimits hReceived, answerRequest_of_ok hLimits hWatched,
        shown?_of_ok hLimits hReceived]
      cases received with
      | error e => simp [answer, Action.pairWith, Except.toOption]
      | ok shown =>
        simp [answer, noting, Handler.on, run_watched, Action.pairWith, Except.toOption]

/-- A watched run goes as the run that is not watched. It notes the request that the handler is
shown, if it is shown one, and after that one resolution of the out-parameter. -/
theorem serveWith_watched (host : Host World) (config : Config) (handler : Handler)
    (request : host.IncomingRequest) (out : host.Outparam) (w : World) (notes : List host.Note) :
    ∃ resolution : host.Note, resolution.Resolves out ∧
      host.watched.serveWith config (host.noting (handler.on host.watched)) request out (w, notes) =
        Action.pairWith
          (notes ++ (host.shown? config request w).toList.map .called ++ [resolution])
          (host.serve config handler request out w) := by
  have hWatched := host.answerRequest_watched config handler request w notes
  cases hAnswer : host.answerRequest config (handler.on host) request w with
  | error e w₁ =>
    rw [hAnswer] at hWatched
    refine ⟨.rejected out abortMessage, .rejected _, ?_⟩
    rw [serve, serveWith_of_answer_error hAnswer, serveWith_of_answer_error hWatched]
    rfl
  | ok chosen w₁ =>
    obtain ⟨limits, answer⟩ := chosen
    rw [hAnswer] at hWatched
    cases hPrepare : host.prepare out answer w₁ with
    | error e w₂ =>
      have hPrepared := Action.beside_of_error
        (w := (w₁, notes ++ (host.shown? config request w).toList.map .called)) hPrepare
      rw [← prepare_watched] at hPrepared
      refine ⟨.rejected out abortMessage, .rejected _, ?_⟩
      rw [serve, serveWith_of_deliver_error hAnswer (deliver_of_error hPrepare),
        serveWith_of_deliver_error hWatched (deliver_of_error hPrepared)]
      rfl
    | ok prepared w₂ =>
      obtain ⟨response, body⟩ := prepared
      have hPrepared := Action.beside_of_ok
        (w := (w₁, notes ++ (host.shown? config request w).toList.map .called)) hPrepare
      rw [← prepare_watched] at hPrepared
      refine ⟨.resolved out response, .resolved _, ?_⟩
      rw [serve, serveWith_of_deliver_ok hAnswer (deliver_of_ok hPrepare),
        serveWith_of_deliver_ok hWatched (deliver_of_ok hPrepared), complete_watched,
        ← Action.beside_ensuring, Action.beside]

def serveWatched (host : Host World) (config : Config) (handler : Handler)
    (request : host.IncomingRequest) (out : host.Outparam) :
    Action (World × List host.Note) Unit :=
  host.watched.serveWith config (host.noting (handler.on host.watched)) request out

def notes (host : Host World) (config : Config) (handler : Handler)
    (request : host.IncomingRequest) (out : host.Outparam) (w : World) : List host.Note :=
  ((host.serveWatched config handler request out).after (w, [])).2

/-- The requests that the handler is called with. -/
def calls (host : Host World) (config : Config) (handler : Handler)
    (request : host.IncomingRequest) (out : host.Outparam) (w : World) : List Request :=
  (host.notes config handler request out w).filterMap Note.request?

section Notes

variable (host : Host World) (config : Config) (handler : Handler)
  (request : host.IncomingRequest) (out : host.Outparam) (w : World)

theorem result_serveWatched :
    (host.serveWatched config handler request out).result (w, []) =
      (host.serve config handler request out).result w := by
  obtain ⟨resolution, -, hRun⟩ := host.serveWith_watched config handler request out w []
  rw [Action.result, serveWatched, hRun, Action.result]
  cases host.serve config handler request out w <;> rfl

theorem after_serveWatched :
    ((host.serveWatched config handler request out).after (w, [])).1 =
      (host.serve config handler request out).after w := by
  obtain ⟨resolution, -, hRun⟩ := host.serveWith_watched config handler request out w []
  rw [Action.after, serveWatched, hRun, Action.after]
  cases host.serve config handler request out w <;> rfl

theorem notes_eq :
    ∃ resolution : host.Note, resolution.Resolves out ∧
      host.notes config handler request out w =
        (host.shown? config request w).toList.map .called ++ [resolution] := by
  obtain ⟨resolution, hResolves, hRun⟩ := host.serveWith_watched config handler request out w []
  refine ⟨resolution, hResolves, ?_⟩
  rw [notes, Action.after, serveWatched, hRun]
  cases host.serve config handler request out w <;> rfl

theorem Note.Resolves.isResolution_eq {host : Host World} {out : host.Outparam}
    {note : host.Note} (h : note.Resolves out) : note.isResolution = true := by
  cases h <;> rfl

theorem filter_isResolution_notes :
    ∃ resolution : host.Note, resolution.Resolves out ∧
      (host.notes config handler request out w).filter Note.isResolution = [resolution] := by
  obtain ⟨resolution, hResolves, hNotes⟩ := host.notes_eq config handler request out w
  refine ⟨resolution, hResolves, ?_⟩
  rw [hNotes, List.filter_append, List.filter_cons_of_pos hResolves.isResolution_eq]
  cases host.shown? config request w <;> rfl

theorem calls_eq :
    host.calls config handler request out w = (host.shown? config request w).toList := by
  obtain ⟨resolution, hResolves, hNotes⟩ := host.notes_eq config handler request out w
  rw [calls, hNotes, List.filterMap_append]
  cases hResolves <;> cases host.shown? config request w <;> rfl

end Notes

end Host

end BufferedHttp
