import BufferedHttp.Proofs.Config.Limits
import BufferedHttp.Proofs.Host.Phases
import BufferedHttp.Proofs.Logged
import BufferedHttp.Proofs.Transfer.Chunks

/-!
# Tapping the calls of a host

A tapped host does what the host does and logs every call that is made to it, with what a read
asks for and gives and with what a write carries. Dropping a resource is no call of its own.
Reading, sending and serving go on a tapped host as they go on the host, and each of them makes
calls of its kind only.
-/

namespace BufferedHttp

open BufferedHttp.Action

variable {World S : Type}

inductive Host.Call where
  | openInput
  | read (bound : Nat) (outcome : Except StreamError Bytes)
  | finishIncoming
  | requestMethod
  | requestPath
  | requestHeaders
  | consumeRequest
  | newResponse
  | setStatus
  | takeBody
  | resolve
  | reject (message : String)
  | openOutput
  | write (bytes : Bytes)
  | finishOutgoing
  | handle
  | subscribe
  | poll
  | block
  | responseStatus
  | responseHeaders
  | consumeResponse

/-- A service that leaves a second part of the world alone. -/
def Service.beside (service : Service World) : Service (World × S) :=
  fun request w => ((service request w.1).1, (service request w.1).2, w.2)

namespace Host

/-! ## Calls and the log -/

/-- An action that is logged as a call. -/
def Call.act {α : Type} (call : Call) (act : Action World α) : Action (World × List Call) α :=
  fun w => pairWith (w.2 ++ [call]) (act w.1)

def Call.get {α : Type} (call : Call) (f : World → α × World) (w : World × List Call) :
    α × World × List Call :=
  ((f w.1).1, (f w.1).2, w.2 ++ [call])

def Call.step (call : Call) (f : World → World) (w : World × List Call) : World × List Call :=
  (f w.1, w.2 ++ [call])

@[reducible] def tapped (host : Host World) : Host (World × List Call) where
  IncomingBody := host.IncomingBody
  InputStream := host.InputStream
  openInput b := Call.openInput.act (host.openInput b)
  read s n w :=
    let r := host.read s n w.1
    (r.1, r.2.1, r.2.2, w.2 ++ [.read n r.1])
  dropInput s := Prod.map (host.dropInput s) id
  finishIncoming b := Call.finishIncoming.step (host.finishIncoming b)
  dropIncoming b := Prod.map (host.dropIncoming b) id
  unread := host.unread
  unread_read := by
    intro s n w bytes s' w' pos h
    obtain ⟨h₁, h₂⟩ := Prod.mk.inj h
    obtain ⟨h₂, -⟩ := Prod.mk.inj h₂
    exact host.unread_read pos (Prod.ext h₁ (Prod.ext h₂ rfl))
  IncomingRequest := host.IncomingRequest
  requestMethod r := Call.requestMethod.get (host.requestMethod r)
  requestPath r := Call.requestPath.get (host.requestPath r)
  requestHeaders r := Call.requestHeaders.get (host.requestHeaders r)
  consumeRequest r := Call.consumeRequest.act (host.consumeRequest r)
  dropRequest r := Prod.map (host.dropRequest r) id
  Outparam := host.Outparam
  OutgoingResponse := host.OutgoingResponse
  OutgoingBody := host.OutgoingBody
  OutputStream := host.OutputStream
  newResponse o fields := Call.newResponse.act (host.newResponse o fields)
  setStatus r status := Call.setStatus.act (host.setStatus r status)
  takeBody r := Call.takeBody.act (host.takeBody r)
  dropResponse r := Prod.map (host.dropResponse r) id
  resolve o r := Call.resolve.step (host.resolve o r)
  reject o message := (Call.reject message).step (host.reject o message)
  openOutput b := Call.openOutput.act (host.openOutput b)
  write s bytes w :=
    let r := host.write s bytes w.1
    (r.1, r.2.1, r.2.2, w.2 ++ [.write bytes])
  dropOutput s := Prod.map (host.dropOutput s) id
  finishOutgoing b := Call.finishOutgoing.act (host.finishOutgoing b)
  dropOutgoing b := Prod.map (host.dropOutgoing b) id
  Future := host.Future
  Pollable := host.Pollable
  IncomingResponse := host.IncomingResponse
  handle head options := Call.handle.act (host.handle head options)
  subscribe f := Call.subscribe.get (host.subscribe f)
  poll f w :=
    let r := host.poll f w.1
    (r.1, r.2.1, r.2.2, w.2 ++ [.poll])
  block p f := Call.block.get (host.block p f)
  dropPollable p := Prod.map (host.dropPollable p) id
  dropFuture f := Prod.map (host.dropFuture f) id
  waits := host.waits
  waits_block := by
    intro p f f' w w' h
    obtain ⟨h₁, h₂⟩ := Prod.mk.inj h
    obtain ⟨h₂, h₃⟩ := Prod.mk.inj h₂
    exact host.waits_block (Prod.ext h₁ (Prod.ext h₂ (congrArg Prod.fst h₃)))
  responseStatus r := Call.responseStatus.get (host.responseStatus r)
  responseHeaders r := Call.responseHeaders.get (host.responseHeaders r)
  consumeResponse r := Call.consumeResponse.act (host.consumeResponse r)
  dropIncomingResponse r := Prod.map (host.dropIncomingResponse r) id

/-- The calls that read a body whole. -/
inductive Call.Drains (bound : Nat) : Call → Prop where
  | opens : Drains bound .openInput
  | reads (outcome : Except StreamError Bytes) : Drains bound (.read bound outcome)
  | finishes : Drains bound .finishIncoming

/-- The calls that read a response whole. None of them waits. -/
inductive Call.Receives (bound : Nat) : Call → Prop where
  | status : Receives bound .responseStatus
  | headers : Receives bound .responseHeaders
  | consumes : Receives bound .consumeResponse
  | drains {call : Call} (h : call.Drains bound) : Receives bound call

section Rules

variable {P : Call → Prop} {call : Call} {α : Type}

theorem Call.logs_act (h : P call) (act : Action World α) : Logs P (call.act act) act := by
  intro w log
  exact ⟨[call], List.forall_mem_singleton.mpr h, rfl⟩

theorem Call.logs_get (h : P call) (f : World → α × World) :
    Logs P (modifyGet (call.get f)) (modifyGet f : Action World α) := by
  intro w log
  exact ⟨[call], List.forall_mem_singleton.mpr h, rfl⟩

theorem Call.logs_step (h : P call) (f : World → World) :
    Logs P (modify (call.step f)) (modify f : Action World PUnit) := by
  intro w log
  exact ⟨[call], List.forall_mem_singleton.mpr h, rfl⟩

/-- What happens without a call when an action fails. -/
theorem logs_onFailure_drop {logged : Action (World × List Call) α} {plain : Action World α}
    (drop : World → World) (h : Logs P logged plain) :
    Logs P (logged.onFailure (Prod.map drop id)) (plain.onFailure drop) := by
  refine h.onFailure fun w log => ⟨[], List.forall_mem_nil P, ?_⟩
  rw [List.append_nil, Prod.map_apply, id]

end Rules

/-! ## Reading and waiting -/

/-- What the reads up to the end of a stream give, in order. -/
def readings (host : Host World) {bound : Nat} (pos : 0 < bound) (stream : host.InputStream)
    (w : World) : List (Except StreamError Bytes) :=
  match h : host.read stream bound w with
  | (.ok bytes, stream', w') =>
    have := host.unread_read pos h
    .ok bytes :: host.readings pos stream' w'
  | (.error e, _, _) => [.error e]
  termination_by host.unread stream

theorem readings_of_ok (host : Host World) {bound : Nat} (pos : 0 < bound)
    {stream stream' : host.InputStream} {w w' : World} {bytes : Bytes}
    (h : host.read stream bound w = (.ok bytes, stream', w')) :
    host.readings pos stream w = .ok bytes :: host.readings pos stream' w' := by
  rw [readings]
  split <;> simp_all

theorem readings_of_error (host : Host World) {bound : Nat} (pos : 0 < bound)
    {stream stream' : host.InputStream} {w w' : World} {e : StreamError}
    (h : host.read stream bound w = (.error e, stream', w')) :
    host.readings pos stream w = [.error e] := by
  rw [readings]
  split <;> simp_all

theorem readAll_tapped (host : Host World) {bound : Nat} (pos : 0 < bound)
    (stream : host.InputStream) (before : Bytes) (w : World) (log : List Call) :
    host.tapped.readAll pos stream before (w, log) =
      ((host.readAll pos stream before w).1, (host.readAll pos stream before w).2.1,
        (host.readAll pos stream before w).2.2,
        log ++ (host.readings pos stream w).map (.read bound)) := by
  match h : host.read stream bound w with
  | (.ok bytes, stream', w') =>
    have hTapped : host.tapped.read stream bound (w, log) =
        (.ok bytes, stream', w', log ++ [.read bound (.ok bytes)]) := by
      simp only [h]
    have := host.unread_read pos h
    rw [readAll_of_ok host pos before h, readAll_of_ok host.tapped pos before hTapped,
      readings_of_ok host pos h, host.readAll_tapped pos stream' (before ++ bytes) w',
      List.append_assoc]
    rfl
  | (.error .closed, stream', w') =>
    have hTapped : host.tapped.read stream bound (w, log) =
        (.error .closed, stream', w', log ++ [.read bound (.error .closed)]) := by
      simp only [h]
    rw [readAll_of_closed host pos before h, readAll_of_closed host.tapped pos before hTapped,
      readings_of_error host pos h]
    rfl
  | (.error (.failed message), stream', w') =>
    have hTapped : host.tapped.read stream bound (w, log) =
        (.error (.failed message), stream', w',
          log ++ [.read bound (.error (.failed message))]) := by
      simp only [h]
    rw [readAll_of_failed host pos before h, readAll_of_failed host.tapped pos before hTapped,
      readings_of_error host pos h]
    rfl
  termination_by host.unread stream

theorem readOut_eq_ofExcept (host : Host World) {bound : Nat} (pos : 0 < bound)
    (stream : host.InputStream) (w : World) :
    host.readOut pos stream w =
      ofExcept ((host.readAll pos stream [] w).1.mapError .stream)
        (host.dropInput (host.readAll pos stream [] w).2.1
          (host.readAll pos stream [] w).2.2) := ofCall_eq_ofExcept rfl

theorem readOut_tapped (host : Host World) {bound : Nat} (pos : 0 < bound)
    (stream : host.InputStream) (w : World) (log : List Call) :
    host.tapped.readOut pos stream (w, log) =
      pairWith (log ++ (host.readings pos stream w).map (.read bound))
        (host.readOut pos stream w) := by
  rw [host.readOut_eq_ofExcept, pairWith_ofExcept]
  apply ofCall_eq_ofExcept
  simp only [readAll_tapped, Prod.map_apply, id]

/-- A body is read to its end and then given back, or to the first failing read. -/
theorem drain_tapped_of_open (host : Host World) {bound : Nat} (pos : 0 < bound)
    {body body' : host.IncomingBody} {stream : host.InputStream} {w w₁ : World} (log : List Call)
    (h : host.openInput body w = .ok (stream, body') w₁) :
    host.tapped.drain pos body (w, log) =
      pairWith (log ++ .openInput :: ((host.readings pos stream w₁).map (.read bound) ++
        if (host.readAll pos stream [] w₁).1.isOk then [.finishIncoming] else []))
        (host.drain pos body w) := by
  have hOpen : host.tapped.openInput body (w, log) =
      .ok (stream, body') (w₁, log ++ [.openInput]) := by
    simp only [Call.act, h, pairWith]
  have hTapped := host.readOut_tapped pos stream w₁ (log ++ [.openInput])
  have hOut := host.readOut_eq_ofExcept pos stream w₁
  rw [hOut, pairWith_ofExcept] at hTapped
  cases hResult : (host.readAll pos stream [] w₁).1 with
  | error message =>
    rw [hResult] at hOut hTapped
    rw [drain_of_read_error pos h hOut, drain_of_read_error pos hOpen hTapped]
    simp [pairWith, Except.isOk, Except.toBool]
  | ok bytes =>
    rw [hResult] at hOut hTapped
    rw [drain_of_read_ok pos h hOut, drain_of_read_ok pos hOpen hTapped]
    refine congrArg (EStateM.Result.ok bytes) (Prod.ext rfl ?_)
    simp [Call.step, Except.isOk, Except.toBool]

theorem drain_tapped (host : Host World) {bound : Nat} (pos : 0 < bound)
    (body : host.IncomingBody) :
    Logs (Call.Drains bound) (host.tapped.drain pos body) (host.drain pos body) := by
  have hOut (stream : host.InputStream) : Logs (Call.Drains bound)
      (host.tapped.readOut pos stream) (host.readOut pos stream) := by
    intro w log
    refine ⟨_, ?_, host.readOut_tapped pos stream w log⟩
    intro call hCall
    obtain ⟨outcome, -, rfl⟩ := List.mem_map.mp hCall
    exact .reads outcome
  refine (logs_onFailure_drop _ (Call.logs_act .opens _)).bind fun opened => ?_
  refine (logs_onFailure_drop _ (hOut opened.1)).bind fun bytes => ?_
  exact (Call.logs_step .finishes _).bind fun _ => logs_pure bytes

theorem receiveResponse_tapped (host : Host World) (limits : Limits)
    (incoming : host.IncomingResponse) :
    Logs (Call.Receives limits.read) (host.tapped.receiveResponse limits incoming)
      (host.receiveResponse limits incoming) := by
  refine (Call.logs_get .status _).bind fun status => ?_
  refine (Call.logs_get .headers _).bind fun fields => ?_
  refine (logs_onFailure_drop _ (logs_ofExcept _)).bind fun headers => ?_
  refine (logs_onFailure_drop _ (Call.logs_act .consumes _)).bind fun taken => ?_
  have hDrain : Logs (Call.Receives limits.read) (host.tapped.drain limits.read_pos taken.1)
      (host.drain limits.read_pos taken.1) :=
    (host.drain_tapped limits.read_pos taken.1).mono fun _ h => .drains h
  exact (hDrain.ensuring _).bind fun bytes => logs_pure _

theorem awaitOutcome_tapped (host : Host World) {P : Call → Prop} (hPoll : P .poll)
    (hBlock : P .block) (pollable : host.Pollable) (future : host.Future) (w : World)
    (log : List Call) :
    ∃ more, (∀ call ∈ more, P call) ∧
      host.tapped.awaitOutcome pollable future (w, log) =
        ((host.awaitOutcome pollable future w).1, (host.awaitOutcome pollable future w).2.1,
          (host.awaitOutcome pollable future w).2.2, log ++ more) := by
  match h : host.poll future w with
  | (some outcome, future', w') =>
    have hTapped : host.tapped.poll future (w, log) =
        (some outcome, future', w', log ++ [.poll]) := by
      simp only [h]
    refine ⟨[.poll], List.forall_mem_singleton.mpr hPoll, ?_⟩
    rw [awaitOutcome_of_some host pollable h, awaitOutcome_of_some host.tapped pollable hTapped]
  | (none, future', w') =>
    have hTapped : host.tapped.poll future (w, log) = (none, future', w', log ++ [.poll]) := by
      simp only [h]
    have := host.waits_block (p := pollable) h
    obtain ⟨more, hMore, hRest⟩ := host.awaitOutcome_tapped hPoll hBlock pollable
      (host.block pollable future' w').1 (host.block pollable future' w').2
      (log ++ [.poll] ++ [.block])
    refine ⟨[.poll, .block] ++ more, ?_, ?_⟩
    · exact List.forall_mem_append.mpr
        ⟨List.forall_mem_cons.mpr ⟨hPoll, List.forall_mem_singleton.mpr hBlock⟩, hMore⟩
    · rw [awaitOutcome_of_none host pollable h, awaitOutcome_of_none host.tapped pollable hTapped]
      refine Eq.trans hRest ?_
      rw [List.append_assoc, List.append_assoc]
      rfl
  termination_by host.waits future

theorem writeAll_tapped (host : Host World) {P : Call → Prop} {chunks : List Bytes}
    (hChunks : ∀ chunk ∈ chunks, P (.write chunk)) (stream : host.OutputStream) (w : World)
    (log : List Call) :
    ∃ more, (∀ call ∈ more, P call) ∧
      host.tapped.writeAll chunks stream (w, log) =
        ((host.writeAll chunks stream w).1, (host.writeAll chunks stream w).2.1,
          (host.writeAll chunks stream w).2.2, log ++ more) := by
  induction chunks generalizing stream w log with
  | nil => exact ⟨[], List.forall_mem_nil P, by rw [List.append_nil]; rfl⟩
  | cons chunk chunks ih =>
    obtain ⟨hChunk, hRest⟩ := List.forall_mem_cons.mp hChunks
    match h : host.write stream chunk w with
    | (.ok (), stream', w') =>
      have hTapped : host.tapped.write stream chunk (w, log) =
          (.ok (), stream', w', log ++ [.write chunk]) := by
        simp only [h]
      obtain ⟨more, hMore, hRun⟩ := ih hRest stream' w' (log ++ [.write chunk])
      refine ⟨.write chunk :: more, List.forall_mem_cons.mpr ⟨hChunk, hMore⟩, ?_⟩
      rw [writeAll_of_ok host chunks h, writeAll_of_ok host.tapped chunks hTapped, hRun,
        List.append_assoc]
      rfl
    | (.error e, stream', w') =>
      have hTapped : host.tapped.write stream chunk (w, log) =
          (.error e, stream', w', log ++ [.write chunk]) := by
        simp only [h]
      refine ⟨[.write chunk], List.forall_mem_singleton.mpr hChunk, ?_⟩
      rw [writeAll_of_error host chunks h, writeAll_of_error host.tapped chunks hTapped]

/-! ## Calls in bounds -/

/-- A read asks for just the bytes that the configuration says, and at least one; a write carries
at least one byte and no more than the configuration and the host allow. -/
def Call.Within (config : Config) : Call → Prop
  | .read bound _ => bound = config.readChunkSize.toNat ∧ 1 ≤ bound
  | .write bytes =>
    1 ≤ bytes.length ∧ bytes.length ≤ min config.writeChunkSize.toNat maxWriteSize
  | _ => True

section Within

variable {config : Config} {limits : Limits}

theorem within_read (hLimits : config.limits = .ok limits)
    (outcome : Except StreamError Bytes) : (Call.read limits.read outcome).Within config :=
  ⟨Config.read_of_limits hLimits, limits.read_pos⟩

theorem within_write (hLimits : config.limits = .ok limits) (bytes : Bytes) :
    ∀ chunk ∈ chunked limits.write_pos bytes, (Call.write chunk).Within config := by
  intro chunk hChunk
  obtain ⟨hPos, hLe⟩ := (cuts_chunked limits.write_pos bytes).bounded chunk hChunk
  have hSize := Config.write_of_limits hLimits
  exact ⟨hPos, Nat.le_min.mpr ⟨hSize ▸ hLe, Nat.le_trans hLe limits.write_le⟩⟩

theorem Call.Drains.within {call : Call} (hLimits : config.limits = .ok limits)
    (h : call.Drains limits.read) : call.Within config := by
  cases h with
  | opens | finishes => trivial
  | reads outcome => exact within_read hLimits outcome

theorem Call.Receives.within {call : Call} (hLimits : config.limits = .ok limits)
    (h : call.Receives limits.read) : call.Within config := by
  cases h with
  | status | headers | consumes => trivial
  | drains hDrains => exact hDrains.within hLimits

theorem await_tapped (host : Host World) (future : host.Future) :
    Logs (Call.Within config) (host.tapped.await future) (host.await future) := by
  apply logs_ofCall
  intro w log
  obtain ⟨more, hMore, hRun⟩ := host.awaitOutcome_tapped (P := Call.Within config) trivial trivial
    (host.subscribe future w).1 future (host.subscribe future w).2 (log ++ [.subscribe])
  refine ⟨.subscribe :: more, List.forall_mem_cons.mpr ⟨trivial, hMore⟩, ?_⟩
  simp only [Call.get, hRun, Prod.map_apply, id, List.append_assoc, List.singleton_append]

theorem exchange_tapped (host : Host World) (hLimits : config.limits = .ok limits)
    (head : RequestHead) (options : Option RequestOptions) :
    Logs (Call.Within config) (host.tapped.exchange limits head options)
      (host.exchange limits head options) := by
  refine (Call.logs_act trivial _).bind fun future => ?_
  refine (host.await_tapped future).bind fun incoming => ?_
  exact (host.receiveResponse_tapped limits incoming).mono fun _ h => h.within hLimits

theorem send_tapped (host : Host World) (config : Config) (request : Request) :
    Logs (Call.Within config) (host.tapped.send config request) (host.send config request) := by
  intro w log
  cases hLimits : config.limits with
  | error fault =>
    refine ⟨[], List.forall_mem_nil _, ?_⟩
    rw [send_of_fault hLimits, send_of_fault hLimits, List.append_nil, pairWith]
  | ok limits =>
    cases hHead : request.outgoingHead with
    | error e =>
      refine ⟨[], List.forall_mem_nil _, ?_⟩
      rw [send_of_headless hLimits hHead, send_of_headless hLimits hHead, List.append_nil, pairWith]
    | ok head =>
      rw [send_of_head hLimits hHead, send_of_head hLimits hHead]
      exact host.exchange_tapped hLimits head config.requestOptions w log

theorem fill_tapped (host : Host World) (hLimits : config.limits = .ok limits)
    (body : host.OutgoingBody) (bytes : Bytes) :
    Logs (Call.Within config) (host.tapped.fill body (chunked limits.write_pos bytes))
      (host.fill body (chunked limits.write_pos bytes)) := by
  have hOut (stream : host.OutputStream) : Logs (Call.Within config)
      (host.tapped.writeOut (chunked limits.write_pos bytes) stream)
      (host.writeOut (chunked limits.write_pos bytes) stream) := by
    apply logs_ofCall
    intro w log
    obtain ⟨more, hMore, hRun⟩ := host.writeAll_tapped (within_write hLimits bytes) stream w log
    refine ⟨more, hMore, ?_⟩
    simp only [hRun, Prod.map_apply, id]
  refine (logs_onFailure_drop _ (Call.logs_act trivial _)).bind fun opened => ?_
  refine (logs_onFailure_drop _ (hOut opened.1)).bind fun _ => ?_
  exact Call.logs_act trivial _

theorem complete_tapped (host : Host World) (hLimits : config.limits = .ok limits)
    (body : host.OutgoingBody) (answer : Answer) :
    Logs (Call.Within config) (host.tapped.complete limits body answer)
      (host.complete limits body answer) := by
  cases answer with
  | response r => exact host.fill_tapped hLimits body r.bodyBytes
  | internalError => exact Call.logs_act trivial _

theorem finishHead_tapped (host : Host World) (response : host.OutgoingResponse)
    (answer : Answer) :
    Logs (Call.Within config) (host.tapped.finishHead response answer)
      (host.finishHead response answer) := by
  cases answer with
  | response r =>
    refine (Call.logs_act trivial _).bind fun response => ?_
    exact (Call.logs_act trivial _).bind fun taken => logs_pure _
  | internalError =>
    refine (Call.logs_act trivial _).bind fun taken => ?_
    exact (logs_onFailure_drop _ (Call.logs_act trivial _)).bind fun response => logs_pure _

theorem deliver_tapped (host : Host World) (out : host.Outparam) (answer : Answer) :
    Logs (Call.Within config) (host.tapped.deliver out answer) (host.deliver out answer) := by
  have hPrepare : Logs (Call.Within config) (host.tapped.prepare out answer)
      (host.prepare out answer) :=
    (Call.logs_act trivial _).bind fun response =>
      logs_onFailure_drop _ (host.finishHead_tapped response answer)
  refine hPrepare.bind fun prepared => ?_
  exact (Call.logs_step trivial _).bind fun _ => logs_pure _

theorem receiveRequest_tapped (host : Host World) (hLimits : config.limits = .ok limits)
    (request : host.IncomingRequest) :
    Logs (Call.Within config) (host.tapped.receiveRequest limits request)
      (host.receiveRequest limits request) := by
  refine (Call.logs_get trivial _).bind fun method => ?_
  refine (Call.logs_act trivial _).bind fun taken => ?_
  have hDrain : Logs (Call.Within config) (host.tapped.drain limits.read_pos taken.1)
      (host.drain limits.read_pos taken.1) :=
    (host.drain_tapped limits.read_pos taken.1).mono fun _ h => h.within hLimits
  refine hDrain.bind fun bytes => ?_
  refine (Call.logs_get trivial _).bind fun path => ?_
  exact (Call.logs_get trivial _).bind fun fields => logs_pure _

theorem answerRequest_tapped (host : Host World) (config : Config) (service : Service World)
    (request : host.IncomingRequest) :
    Logs (Call.Within config) (host.tapped.answerRequest config service.beside request)
      (host.answerRequest config service request) := by
  cases hLimits : config.limits with
  | error fault =>
    intro w log
    refine ⟨[], List.forall_mem_nil _, ?_⟩
    rw [answerRequest_of_fault hLimits, answerRequest_of_fault hLimits, List.append_nil, pairWith]
  | ok limits =>
    intro w log
    obtain ⟨more, hMore, hReceive⟩ := host.receiveRequest_tapped hLimits request w log
    refine ⟨more, hMore, ?_⟩
    cases hPlain : host.receiveRequest limits request w with
    | error e w' =>
      rw [hPlain, pairWith] at hReceive
      rw [answerRequest_of_error hLimits hReceive, answerRequest_of_error hLimits hPlain, pairWith]
    | ok received w' =>
      rw [hPlain, pairWith] at hReceive
      rw [answerRequest_of_ok hLimits hReceive, answerRequest_of_ok hLimits hPlain, pairWith]
      cases received <;> rfl

theorem limits_of_answerRequest (host : Host World) {service : Service World}
    {request : host.IncomingRequest} {w w' : World} {answered : Limits × Answer}
    (h : host.answerRequest config service request w = .ok answered w') :
    config.limits = .ok answered.1 := by
  cases hLimits : config.limits with
  | error fault =>
    rw [answerRequest_of_fault hLimits] at h
    cases h
  | ok limits =>
    cases hReceived : host.receiveRequest limits request w with
    | error e w₁ =>
      rw [answerRequest_of_error hLimits hReceived] at h
      cases h
    | ok received w₁ =>
      rw [answerRequest_of_ok hLimits hReceived] at h
      cases h
      rfl

theorem limits_of_produce (host : Host World) {service : Service World}
    {request : host.IncomingRequest} {out : host.Outparam} {w w' : World}
    {produced : Limits × Answer × host.OutgoingBody}
    (h : host.produce config service request out w = .ok produced w') :
    config.limits = .ok produced.1 := by
  obtain ⟨answered, w₁, hAnswered, hRest⟩ := exists_of_bind_eq_ok h
  obtain ⟨body, w₂, -, hProduced⟩ := exists_of_bind_eq_ok hRest
  cases hProduced
  exact host.limits_of_answerRequest hAnswered

theorem serveWith_tapped (host : Host World) (config : Config) (service : Service World)
    (request : host.IncomingRequest) (out : host.Outparam) :
    Logs (Call.Within config) (host.tapped.serveWith config service.beside request out)
      (host.serveWith config service request out) := by
  have hProduce : Logs (Call.Within config)
      (host.tapped.produce config service.beside request out)
      (host.produce config service request out) :=
    (host.answerRequest_tapped config service request).bind fun answered =>
      (host.deliver_tapped out answered.2).bind fun body => logs_pure _
  have hRejected : Logs (Call.Within config)
      ((host.tapped.produce config service.beside request out).onFailure
        (host.tapped.reject out abortMessage))
      ((host.produce config service request out).onFailure (host.reject out abortMessage)) :=
    hProduce.onFailure fun w log => ⟨[.reject abortMessage], List.forall_mem_singleton.mpr trivial,
      rfl⟩
  refine Logs.ensuring _ (hRejected.bind_of_results (Q := fun produced =>
    config.limits = .ok produced.1) ?_ ?_)
  · intro w produced w' hRun
    exact host.limits_of_produce (eq_ok_of_onFailure hRun)
  · intro produced hLimits
    exact host.complete_tapped hLimits produced.2.2 produced.2.1

end Within

end Host

end BufferedHttp
