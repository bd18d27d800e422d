import BufferedHttp.Proofs.Alike
import BufferedHttp.Proofs.Host.Phases
import BufferedHttp.Proofs.Transfer.Chunks

/-!
# One host simulates another

Two hosts simulate each other when their operations go alike, each on related resources. Then
serving and sending go alike on them. Some operations are asked for less: a stream of a body for
the first time, as hosts may word the refusal of a second one differently, a write for chunks that
a host takes, and handing over a request for worlds that are supplied, in which the host has a
reply to it.
-/

namespace BufferedHttp

open BufferedHttp.Action

namespace Host

variable {S T : Type}

/-- What a stream or a future leaves behind on both sides: outcome, resource and world. -/
structure Beside {ρ σ α β : Type} (R : S → T → Prop) (P : ρ → σ → Prop) (Q : α → β → Prop)
    (left : ρ × α × S) (right : σ × β × T) : Prop where
  outcome : P left.1 right.1
  resource : Q left.2.1 right.2.1
  worlds : R left.2.2 right.2.2

structure Simulation (a : Host S) (b : Host T) where
  worlds : S → T → Prop
  supplied : S → Prop
  bodies : a.IncomingBody → b.IncomingBody → Prop
  /-- Bodies with their stream. -/
  unopened : a.IncomingBody → b.IncomingBody → Prop
  inputs : a.InputStream → b.InputStream → Prop
  requests : a.IncomingRequest → b.IncomingRequest → Prop
  outparams : a.Outparam → b.Outparam → Prop
  heads : a.OutgoingResponse → b.OutgoingResponse → Prop
  outgoing : a.OutgoingBody → b.OutgoingBody → Prop
  /-- Bodies to which nothing was written yet. -/
  blank : a.OutgoingBody → b.OutgoingBody → Prop
  outputs : a.OutputStream → b.OutputStream → Prop
  futures : a.Future → b.Future → Prop
  pollables : a.Pollable → b.Pollable → Prop
  responses : a.IncomingResponse → b.IncomingResponse → Prop
  bodies_of_unopened : ∀ {x y}, unopened x y → bodies x y
  outgoing_of_blank : ∀ {x y}, blank x y → outgoing x y
  openInput : ∀ {x y s t}, unopened x y → worlds s t →
    Alike worlds (Both inputs bodies) (a.openInput x s) (b.openInput y t)
  read : ∀ {x y s t} (n : Nat), inputs x y → worlds s t →
    Beside worlds Eq inputs (a.read x n s) (b.read y n t)
  dropInput : ∀ {x y s t}, inputs x y → worlds s t → worlds (a.dropInput x s) (b.dropInput y t)
  finishIncoming : ∀ {x y s t}, bodies x y → worlds s t →
    worlds (a.finishIncoming x s) (b.finishIncoming y t)
  dropIncoming : ∀ {x y s t}, bodies x y → worlds s t →
    worlds (a.dropIncoming x s) (b.dropIncoming y t)
  requestMethod : ∀ {x y s t}, requests x y → worlds s t →
    (a.requestMethod x s).1 = (b.requestMethod y t).1 ∧
      worlds (a.requestMethod x s).2 (b.requestMethod y t).2
  requestPath : ∀ {x y s t}, requests x y → worlds s t →
    (a.requestPath x s).1 = (b.requestPath y t).1 ∧
      worlds (a.requestPath x s).2 (b.requestPath y t).2
  requestHeaders : ∀ {x y s t}, requests x y → worlds s t →
    (a.requestHeaders x s).1 = (b.requestHeaders y t).1 ∧
      worlds (a.requestHeaders x s).2 (b.requestHeaders y t).2
  consumeRequest : ∀ {x y s t}, requests x y → worlds s t →
    Alike worlds (Both unopened requests) (a.consumeRequest x s) (b.consumeRequest y t)
  dropRequest : ∀ {x y s t}, requests x y → worlds s t →
    worlds (a.dropRequest x s) (b.dropRequest y t)
  newResponse : ∀ {x y s t} (fields : FieldList), outparams x y → worlds s t →
    Alike worlds heads (a.newResponse x fields s) (b.newResponse y fields t)
  setStatus : ∀ {x y s t} (status : UInt16), heads x y → worlds s t →
    Alike worlds heads (a.setStatus x status s) (b.setStatus y status t)
  takeBody : ∀ {x y s t}, heads x y → worlds s t →
    Alike worlds (Both blank heads) (a.takeBody x s) (b.takeBody y t)
  dropResponse : ∀ {x y s t}, heads x y → worlds s t →
    worlds (a.dropResponse x s) (b.dropResponse y t)
  resolve : ∀ {o p x y s t}, outparams o p → heads x y → worlds s t →
    worlds (a.resolve o x s) (b.resolve p y t)
  reject : ∀ {o p s t} (message : String), outparams o p → worlds s t →
    worlds (a.reject o message s) (b.reject p message t)
  openOutput : ∀ {x y s t}, blank x y → worlds s t →
    Alike worlds (Both outputs outgoing) (a.openOutput x s) (b.openOutput y t)
  write : ∀ {x y s t} {bytes : Bytes}, bytes.length ≤ maxWriteSize → outputs x y → worlds s t →
    Beside worlds Eq outputs (a.write x bytes s) (b.write y bytes t)
  dropOutput : ∀ {x y s t}, outputs x y → worlds s t →
    worlds (a.dropOutput x s) (b.dropOutput y t)
  finishOutgoing : ∀ {x y s t}, outgoing x y → worlds s t →
    Alike worlds Eq (a.finishOutgoing x s) (b.finishOutgoing y t)
  dropOutgoing : ∀ {x y s t}, outgoing x y → worlds s t →
    worlds (a.dropOutgoing x s) (b.dropOutgoing y t)
  handle : ∀ {s t} (head : RequestHead) (options : Option RequestOptions), supplied s →
    worlds s t → Alike worlds futures (a.handle head options s) (b.handle head options t)
  subscribe : ∀ {x y s t}, futures x y → worlds s t →
    pollables (a.subscribe x s).1 (b.subscribe y t).1 ∧
      worlds (a.subscribe x s).2 (b.subscribe y t).2
  poll : ∀ {x y s t}, futures x y → worlds s t →
    Beside worlds (Option.Rel (Agree responses)) futures (a.poll x s) (b.poll y t)
  block : ∀ {p q x y s t}, pollables p q → futures x y → worlds s t →
    futures (a.block p x s).1 (b.block q y t).1 ∧ worlds (a.block p x s).2 (b.block q y t).2
  dropPollable : ∀ {p q s t}, pollables p q → worlds s t →
    worlds (a.dropPollable p s) (b.dropPollable q t)
  dropFuture : ∀ {x y s t}, futures x y → worlds s t →
    worlds (a.dropFuture x s) (b.dropFuture y t)
  responseStatus : ∀ {x y s t}, responses x y → worlds s t →
    (a.responseStatus x s).1 = (b.responseStatus y t).1 ∧
      worlds (a.responseStatus x s).2 (b.responseStatus y t).2
  responseHeaders : ∀ {x y s t}, responses x y → worlds s t →
    (a.responseHeaders x s).1 = (b.responseHeaders y t).1 ∧
      worlds (a.responseHeaders x s).2 (b.responseHeaders y t).2
  consumeResponse : ∀ {x y s t}, responses x y → worlds s t →
    Alike worlds (Both unopened responses) (a.consumeResponse x s) (b.consumeResponse y t)
  dropIncomingResponse : ∀ {x y s t}, responses x y → worlds s t →
    worlds (a.dropIncomingResponse x s) (b.dropIncomingResponse y t)

end Host

/-- Every send of a handler that reaches the host finds it in a supplied world. -/
def Handling.Supplied {World : Type} (host : Host World) (supplied : World → Prop) :
    Handling → World → Prop
  | .done _, _ => True
  | .send config request next, w =>
    (∀ limits head, config.limits = .ok limits → request.outgoingHead = .ok head → supplied w) ∧
      (next ((host.send config request).result w)).Supplied host supplied
        ((host.send config request).after w)

namespace Host.Simulation

variable {S T : Type} {a : Host S} {b : Host T} (sim : Simulation a b) {s : S} {t : T}

/-! ## Reading -/

theorem readAll {s : S} {t : T} {bound : Nat} (pos : 0 < bound) {x : a.InputStream}
    {y : b.InputStream} (before : Bytes) (hInputs : sim.inputs x y) (hWorlds : sim.worlds s t) :
    Beside sim.worlds Eq sim.inputs (a.readAll pos x before s) (b.readAll pos y before t) := by
  have hRead := sim.read bound hInputs hWorlds
  match hLeft : a.read x bound s, hRight : b.read y bound t with
  | (result, x', s'), (result', y', t') =>
    rw [hLeft, hRight] at hRead
    obtain ⟨hResult, hInputs', hWorlds'⟩ := hRead
    cases hResult
    match result with
    | .ok bytes =>
      have := a.unread_read pos hLeft
      rw [a.readAll_of_ok pos before hLeft, b.readAll_of_ok pos before hRight]
      exact readAll pos (before ++ bytes) hInputs' hWorlds'
    | .error .closed =>
      rw [a.readAll_of_closed pos before hLeft, b.readAll_of_closed pos before hRight]
      exact ⟨rfl, hInputs', hWorlds'⟩
    | .error (.failed message) =>
      rw [a.readAll_of_failed pos before hLeft, b.readAll_of_failed pos before hRight]
      exact ⟨rfl, hInputs', hWorlds'⟩
  termination_by a.unread x

theorem readOut {bound : Nat} (pos : 0 < bound) {x : a.InputStream} {y : b.InputStream}
    (hInputs : sim.inputs x y) (hWorlds : sim.worlds s t) :
    Alike sim.worlds Eq (a.readOut pos x s) (b.readOut pos y t) := by
  obtain ⟨hResult, hInputs', hWorlds'⟩ := sim.readAll pos [] hInputs hWorlds
  apply alike_ofCall
  · simp only [hResult]
    exact agree_refl _
  · exact sim.dropInput hInputs' hWorlds'

theorem drain {bound : Nat} (pos : 0 < bound) {x : a.IncomingBody} {y : b.IncomingBody}
    (hUnopened : sim.unopened x y) (hWorlds : sim.worlds s t) :
    Alike sim.worlds Eq (a.drain pos x s) (b.drain pos y t) := by
  refine ((sim.openInput hUnopened hWorlds).onFailure
    (sim.dropIncoming (sim.bodies_of_unopened hUnopened))).bind ?_
  rintro ⟨stream, body⟩ ⟨stream', body'⟩ s t ⟨hInputs, hBodies⟩ hWorlds
  refine ((sim.readOut pos hInputs hWorlds).onFailure (sim.dropIncoming hBodies)).bind ?_
  rintro bytes _ s t rfl hWorlds
  exact .ok rfl (sim.finishIncoming hBodies hWorlds)

theorem receiveRequest (limits : Limits) {x : a.IncomingRequest} {y : b.IncomingRequest}
    (hRequests : sim.requests x y) (hWorlds : sim.worlds s t) :
    Alike sim.worlds Eq (a.receiveRequest limits x s) (b.receiveRequest limits y t) := by
  obtain ⟨hMethod, hWorlds⟩ := sim.requestMethod hRequests hWorlds
  refine Alike.bind (.ok hMethod hWorlds) ?_
  rintro method _ s t rfl hWorlds
  refine (sim.consumeRequest hRequests hWorlds).bind ?_
  rintro ⟨body, request⟩ ⟨body', request'⟩ s t ⟨hUnopened, hRequests⟩ hWorlds
  refine (sim.drain limits.read_pos hUnopened hWorlds).bind ?_
  rintro bytes _ s t rfl hWorlds
  obtain ⟨hPath, hWorlds⟩ := sim.requestPath hRequests hWorlds
  refine Alike.bind (.ok hPath hWorlds) ?_
  rintro path _ s t rfl hWorlds
  obtain ⟨hFields, hWorlds⟩ := sim.requestHeaders hRequests hWorlds
  refine Alike.bind (.ok hFields hWorlds) ?_
  rintro fields _ s t rfl hWorlds
  exact .ok rfl hWorlds

theorem shown?_eq (config : Config) {x : a.IncomingRequest} {y : b.IncomingRequest}
    (hRequests : sim.requests x y) (hWorlds : sim.worlds s t) :
    a.shown? config x s = b.shown? config y t := by
  cases hLimits : config.limits with
  | error fault => rw [shown?_of_fault hLimits, shown?_of_fault hLimits]
  | ok limits =>
    have hReceived := sim.receiveRequest limits hRequests hWorlds
    generalize hLeft : a.receiveRequest limits x s = left,
      hRight : b.receiveRequest limits y t = right at hReceived
    cases hReceived with
    | ok hEq _ => rw [shown?_of_ok hLimits hLeft, shown?_of_ok hLimits hRight, hEq]
    | error e _ => rw [shown?_of_error hLimits hLeft, shown?_of_error hLimits hRight]

/-! ## Sending -/

theorem awaitOutcome {s : S} {t : T} {p : a.Pollable} {q : b.Pollable} {x : a.Future}
    {y : b.Future} (hPollables : sim.pollables p q) (hFutures : sim.futures x y)
    (hWorlds : sim.worlds s t) :
    Beside sim.worlds (Agree sim.responses) sim.futures (a.awaitOutcome p x s)
      (b.awaitOutcome q y t) := by
  have hPoll := sim.poll hFutures hWorlds
  match hLeft : a.poll x s, hRight : b.poll y t with
  | (outcome, x', s'), (outcome', y', t') =>
    rw [hLeft, hRight] at hPoll
    obtain ⟨hOutcome, hFutures', hWorlds'⟩ := hPoll
    match outcome, outcome', hOutcome with
    | some _, some _, .some hOutcome =>
      rw [a.awaitOutcome_of_some p hLeft, b.awaitOutcome_of_some q hRight]
      exact ⟨hOutcome, hFutures', hWorlds'⟩
    | none, none, .none =>
      have := a.waits_block (p := p) hLeft
      rw [a.awaitOutcome_of_none p hLeft, b.awaitOutcome_of_none q hRight]
      obtain ⟨hFutures'', hWorlds''⟩ := sim.block hPollables hFutures' hWorlds'
      exact awaitOutcome hPollables hFutures'' hWorlds''
  termination_by a.waits x

theorem await {x : a.Future} {y : b.Future} (hFutures : sim.futures x y)
    (hWorlds : sim.worlds s t) :
    Alike sim.worlds sim.responses (a.await x s) (b.await y t) := by
  obtain ⟨hPollables, hWorlds⟩ := sim.subscribe hFutures hWorlds
  obtain ⟨hOutcome, hFutures, hWorlds⟩ := sim.awaitOutcome hPollables hFutures hWorlds
  apply alike_ofCall
  · exact hOutcome
  · exact sim.dropFuture hFutures (sim.dropPollable hPollables hWorlds)

theorem receiveResponse (limits : Limits) {x : a.IncomingResponse} {y : b.IncomingResponse}
    (hResponses : sim.responses x y) (hWorlds : sim.worlds s t) :
    Alike sim.worlds Eq (a.receiveResponse limits x s) (b.receiveResponse limits y t) := by
  obtain ⟨hStatus, hWorlds⟩ := sim.responseStatus hResponses hWorlds
  refine Alike.bind (.ok hStatus hWorlds) ?_
  rintro status _ s t rfl hWorlds
  obtain ⟨hFields, hWorlds⟩ := sim.responseHeaders hResponses hWorlds
  refine Alike.bind (.ok hFields hWorlds) ?_
  rintro fields _ s t rfl hWorlds
  have hDecoded := alike_ofExcept (agree_refl ((HeaderMap.ofFields fields).mapError
    Undecodable.toError)) hWorlds
  refine (hDecoded.onFailure (sim.dropIncomingResponse hResponses)).bind ?_
  rintro headers _ s t rfl hWorlds
  refine ((sim.consumeResponse hResponses hWorlds).onFailure
    (sim.dropIncomingResponse hResponses)).bind ?_
  rintro ⟨body, incoming⟩ ⟨body', incoming'⟩ s t ⟨hUnopened, hResponses⟩ hWorlds
  refine ((sim.drain limits.read_pos hUnopened hWorlds).ensuring
    (sim.dropIncomingResponse hResponses)).bind ?_
  rintro bytes _ s t rfl hWorlds
  exact .ok rfl hWorlds

theorem exchange (limits : Limits) (head : RequestHead) (options : Option RequestOptions)
    (hSupplied : sim.supplied s) (hWorlds : sim.worlds s t) :
    Alike sim.worlds Eq (a.exchange limits head options s) (b.exchange limits head options t) := by
  refine (sim.handle head options hSupplied hWorlds).bind ?_
  intro future future' s t hFutures hWorlds
  refine (sim.await hFutures hWorlds).bind ?_
  intro incoming incoming' s t hResponses hWorlds
  exact sim.receiveResponse limits hResponses hWorlds

theorem send (config : Config) (request : Request) (hWorlds : sim.worlds s t)
    (hSupplied : ∀ limits head, config.limits = .ok limits → request.outgoingHead = .ok head →
      sim.supplied s) :
    Alike sim.worlds Eq (a.send config request s) (b.send config request t) := by
  cases hLimits : config.limits with
  | error fault =>
    rw [Host.send, Host.send, hLimits]
    exact .error _ hWorlds
  | ok limits =>
    cases hHead : request.outgoingHead with
    | error e =>
      rw [send_of_headless hLimits hHead, send_of_headless hLimits hHead]
      exact .error e hWorlds
    | ok head =>
      rw [send_of_head hLimits hHead, send_of_head hLimits hHead]
      exact sim.exchange limits head config.requestOptions (hSupplied limits head hLimits hHead)
        hWorlds

theorem run (handling : Handling) (hWorlds : sim.worlds s t)
    (hSupplied : handling.Supplied a sim.supplied s) :
    (handling.run a s).1 = (handling.run b t).1 ∧
      sim.worlds (handling.run a s).2 (handling.run b t).2 := by
  induction handling generalizing s t with
  | done result => exact ⟨rfl, hWorlds⟩
  | send config request next ih =>
    obtain ⟨hFirst, hRest⟩ := hSupplied
    have hSend := sim.send config request hWorlds hFirst
    rw [run_send, run_send, ← hSend.result_eq]
    exact ih _ hSend.after hRest

/-! ## Answering -/

theorem writeAll {chunks : List Bytes} (hChunks : ∀ chunk ∈ chunks, chunk.length ≤ maxWriteSize)
    {x : a.OutputStream} {y : b.OutputStream} (hOutputs : sim.outputs x y)
    (hWorlds : sim.worlds s t) :
    Beside sim.worlds Eq sim.outputs (a.writeAll chunks x s) (b.writeAll chunks y t) := by
  induction chunks generalizing x y s t with
  | nil => exact ⟨rfl, hOutputs, hWorlds⟩
  | cons chunk chunks ih =>
    rw [List.forall_mem_cons] at hChunks
    have hWrite := sim.write hChunks.1 hOutputs hWorlds
    match hLeft : a.write x chunk s, hRight : b.write y chunk t with
    | (result, x', s'), (result', y', t') =>
      rw [hLeft, hRight] at hWrite
      obtain ⟨hResult, hOutputs', hWorlds'⟩ := hWrite
      cases hResult
      cases result with
      | ok _ =>
        rw [a.writeAll_of_ok chunks hLeft, b.writeAll_of_ok chunks hRight]
        exact ih hChunks.2 hOutputs' hWorlds'
      | error e =>
        rw [a.writeAll_of_error chunks hLeft, b.writeAll_of_error chunks hRight]
        exact ⟨rfl, hOutputs', hWorlds'⟩

theorem fill {chunks : List Bytes} (hChunks : ∀ chunk ∈ chunks, chunk.length ≤ maxWriteSize)
    {x : a.OutgoingBody} {y : b.OutgoingBody} (hBlank : sim.blank x y)
    (hWorlds : sim.worlds s t) :
    Alike sim.worlds Eq (a.fill x chunks s) (b.fill y chunks t) := by
  refine ((sim.openOutput hBlank hWorlds).onFailure
    (sim.dropOutgoing (sim.outgoing_of_blank hBlank))).bind ?_
  rintro ⟨stream, body⟩ ⟨stream', body'⟩ s t ⟨hOutputs, hOutgoing⟩ hWorlds
  obtain ⟨hResult, hOutputs', hWorlds'⟩ := sim.writeAll hChunks hOutputs hWorlds
  have hWritten : Alike sim.worlds Eq (a.writeOut chunks stream s)
      (b.writeOut chunks stream' t) := by
    apply alike_ofCall
    · simp only [hResult]
      exact agree_refl _
    · exact sim.dropOutput hOutputs' hWorlds'
  refine (hWritten.onFailure (sim.dropOutgoing hOutgoing)).bind ?_
  intro _ _ s t _ hWorlds
  exact sim.finishOutgoing hOutgoing hWorlds

theorem complete (limits : Limits) (answer : Answer) {x : a.OutgoingBody} {y : b.OutgoingBody}
    (hBlank : sim.blank x y) (hWorlds : sim.worlds s t) :
    Alike sim.worlds Eq (a.complete limits x answer s) (b.complete limits y answer t) := by
  cases answer with
  | response r =>
    refine sim.fill ?_ hBlank hWorlds
    intro chunk hChunk
    have hBounded := (cuts_chunked limits.write_pos r.bodyBytes).bounded chunk hChunk
    exact Nat.le_trans hBounded.2 limits.write_le
  | internalError => exact sim.finishOutgoing (sim.outgoing_of_blank hBlank) hWorlds

theorem finishHead (answer : Answer) {x : a.OutgoingResponse} {y : b.OutgoingResponse}
    (hHeads : sim.heads x y) (hWorlds : sim.worlds s t) :
    Alike sim.worlds (Both sim.heads sim.blank) (a.finishHead x answer s)
      (b.finishHead y answer t) := by
  cases answer with
  | response r =>
    refine (sim.setStatus r.status hHeads hWorlds).bind ?_
    intro head head' s t hHeads hWorlds
    refine (sim.takeBody hHeads hWorlds).bind ?_
    rintro ⟨body, head⟩ ⟨body', head'⟩ s t ⟨hBlank, hHeads⟩ hWorlds
    exact .ok ⟨hHeads, hBlank⟩ hWorlds
  | internalError =>
    refine (sim.takeBody hHeads hWorlds).bind ?_
    rintro ⟨body, head⟩ ⟨body', head'⟩ s t ⟨hBlank, hHeads⟩ hWorlds
    refine ((sim.setStatus 500 hHeads hWorlds).onFailure
      (sim.dropOutgoing (sim.outgoing_of_blank hBlank))).bind ?_
    intro head head' s t hHeads hWorlds
    exact .ok ⟨hHeads, hBlank⟩ hWorlds

theorem deliver (answer : Answer) {o : a.Outparam} {p : b.Outparam} (hOut : sim.outparams o p)
    (hWorlds : sim.worlds s t) :
    Alike sim.worlds sim.blank (a.deliver o answer s) (b.deliver p answer t) := by
  have hPrepared : Alike sim.worlds (Both sim.heads sim.blank) (a.prepare o answer s)
      (b.prepare p answer t) := by
    refine (sim.newResponse answer.fields hOut hWorlds).bind ?_
    intro head head' s t hHeads hWorlds
    exact (sim.finishHead answer hHeads hWorlds).onFailure (sim.dropResponse hHeads)
  refine hPrepared.bind ?_
  rintro ⟨head, body⟩ ⟨head', body'⟩ s t ⟨hHeads, hBlank⟩ hWorlds
  exact .ok hBlank (sim.resolve hOut hHeads hWorlds)

/-! ## Serving -/

section Serve

variable (config : Config) (handler : Handler) {x : a.IncomingRequest} {y : b.IncomingRequest}
  {o : a.Outparam} {p : b.Outparam}

theorem answerRequest (hRequests : sim.requests x y) (hWorlds : sim.worlds s t)
    (hSupplied : ∀ limits shown s', config.limits = .ok limits →
      a.receiveRequest limits x s = .ok (.ok shown) s' →
      (handler shown).Supplied a sim.supplied s') :
    Alike sim.worlds Eq (a.answerRequest config (handler.on a) x s)
      (b.answerRequest config (handler.on b) y t) := by
  cases hLimits : config.limits with
  | error fault =>
    rw [answerRequest_of_fault hLimits, answerRequest_of_fault hLimits]
    exact .error _ hWorlds
  | ok limits =>
    have hReceived := sim.receiveRequest limits hRequests hWorlds
    generalize hLeft : a.receiveRequest limits x s = left,
      hRight : b.receiveRequest limits y t = right at hReceived
    cases hReceived with
    | error e hWorlds' =>
      rw [answerRequest_of_error hLimits hLeft, answerRequest_of_error hLimits hRight]
      exact .error e hWorlds'
    | @ok received _ s' t' hEq hWorlds' =>
      cases hEq
      rw [answerRequest_of_ok hLimits hLeft, answerRequest_of_ok hLimits hRight]
      cases received with
      | error e => exact .ok rfl hWorlds'
      | ok shown =>
        obtain ⟨hResult, hWorlds''⟩ :=
          sim.run (handler shown) hWorlds' (hSupplied limits shown s' hLimits hLeft)
        refine .ok ?_ hWorlds''
        simp only [answer, Handler.on, hResult]

theorem serve (hRequests : sim.requests x y) (hOut : sim.outparams o p)
    (hWorlds : sim.worlds s t)
    (hSupplied : ∀ limits shown s', config.limits = .ok limits →
      a.receiveRequest limits x s = .ok (.ok shown) s' →
      (handler shown).Supplied a sim.supplied s') :
    Alike sim.worlds Eq (a.serve config handler x o s) (b.serve config handler y p t) := by
  have hProduced : Alike sim.worlds
      (fun p q => p.1 = q.1 ∧ p.2.1 = q.2.1 ∧ sim.blank p.2.2 q.2.2)
      (a.produce config (handler.on a) x o s) (b.produce config (handler.on b) y p t) := by
    refine (sim.answerRequest config handler hRequests hWorlds hSupplied).bind ?_
    rintro ⟨limits, answer⟩ _ s t rfl hWorlds
    refine (sim.deliver answer hOut hWorlds).bind ?_
    intro body body' s t hBlank hWorlds
    exact .ok ⟨rfl, rfl, hBlank⟩ hWorlds
  apply Alike.ensuring
  · refine (hProduced.onFailure (sim.reject abortMessage hOut)).bind ?_
    rintro ⟨limits, answer, body⟩ ⟨_, _, body'⟩ s t ⟨rfl, rfl, hBlank⟩ hWorlds
    exact sim.complete limits answer hBlank hWorlds
  · exact sim.dropRequest hRequests

end Serve

end Host.Simulation

end BufferedHttp
