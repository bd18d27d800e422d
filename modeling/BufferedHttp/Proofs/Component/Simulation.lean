import BufferedHttp.Proofs.Component.Matched
import BufferedHttp.Proofs.Host.Simulation

/-!
# The host in memory simulates the component host

Each resource of a component host that accepts every call has its counterpart in memory, and every
operation on the one goes as on the other, however many calls of the component it takes.
-/

namespace BufferedHttp.Component

open BufferedHttp.Action Host

variable {m : Memory.World} {c : World}

/-! ## Resources with their counterparts -/

structure SameBody (x : Memory.IncomingBody) (y : IncomingBody) : Prop where
  kind : y.handle.kind = .incomingBody
  content : x = ⟨y.script, y.streamTaken, none⟩

/-- Bodies whose stream was not taken. -/
def SameUnopened (x : Memory.IncomingBody) (y : IncomingBody) : Prop :=
  SameBody x y ∧ y.streamTaken = false

structure SameInput (x : Memory.InputStream) (y : InputStream) : Prop where
  kind : y.handle.kind = .inputStream
  script : x.script = y.script

structure SameRequest (x : Memory.IncomingRequest) (y : IncomingRequest) : Prop where
  kind : y.handle.kind = .incomingRequest
  free : y.streamTaken = false
  content : ∃ method, SameMethod y.method method ∧
    x = ⟨method, y.path, y.headers, y.script, y.consumed, none⟩

structure SameOutparam (x : Memory.Outparam) (y : Outparam) : Prop where
  kind : y.handle.kind = .responseOutparam
  plan : y.plan = .none
  content : x = ⟨none, [], .none⟩

structure SameHead (x : Memory.OutgoingResponse) (y : OutgoingResponse) : Prop where
  kind : y.handle.kind = .outgoingResponse
  plan : y.plan = { Plan.none with bodyTaken := y.plan.bodyTaken }
  content : x = ⟨y.headers, y.status, y.plan.bodyTaken, none, .none⟩

structure SameOutgoing (x : Memory.OutgoingBody) (y : OutgoingBody) : Prop where
  kind : y.handle.kind = .outgoingBody
  plan : y.plan = { Plan.none with streamTaken := y.plan.streamTaken }
  content : x = ⟨y.plan.streamTaken, none, .none⟩

/-- Bodies whose stream was not taken. -/
def SameBlank (x : Memory.OutgoingBody) (y : OutgoingBody) : Prop :=
  SameOutgoing x y ∧ y.plan.streamTaken = false

structure SameOutput (x : Memory.OutputStream) (y : OutputStream) : Prop where
  kind : y.handle.kind = .outputStream
  plan : y.plan = .none
  content : x = ⟨none, .none, y.calls⟩

/-- What two futures still hold. -/
inductive SameOutcome : Option Memory.Reply → Reply → Prop where
  | taken : SameOutcome none .taken
  | untaken {reply : Memory.Reply} {reply' : Reply} (hSame : SameReply reply reply') :
      SameOutcome (some reply) reply'

structure SameFuture (x : Memory.Future) (y : Future) : Prop where
  kind : y.handle.kind = .futureIncomingResponse
  pending : x.pending = y.pending
  reply : SameOutcome x.reply y.reply

structure SameResponse (x : Memory.IncomingResponse) (y : IncomingResponse) : Prop where
  kind : y.handle.kind = .incomingResponse
  free : y.content.streamTaken = false
  content : x = ⟨y.content.status, y.content.headers, y.content.script, y.content.consumed⟩

/-! ## Operations that may be refused -/

/-- Both hosts give out a resource, or it was used before and both refuse it. -/
theorem alike_giveOut {α β : Type} {Q : α → β → Prop} (r : Except Error α) {e : Error} {a : α}
    {call : Call} {used : Bool} {kind : Kind} {owner : Handle} {make : Handle → β}
    (giveOut : World → Option β × World)
    (hCall : giveOut c = c.giveOut call used kind owner make)
    (hMemory : r = if used then .error e else .ok a)
    (hValues : used = false → Q a (make ⟨kind, c.nextId⟩))
    (hQuiet : (Entry.call call).deed? = none) (h : Matched m c) :
    Alike Matched Q (ofExcept r m) (accepted e giveOut c) := by
  have hCalled := h.call call hQuiet
  rw [hMemory]
  cases used with
  | true =>
    rw [accepted_of_none giveOut hCall]
    exact .error e hCalled
  | false =>
    rw [accepted_of_some giveOut hCall]
    exact .ok (hValues rfl) (hCalled.obtain kind owner)

theorem alike_openInput {x : Memory.IncomingBody} {y : IncomingBody} (hSame : SameUnopened x y)
    (h : Matched m c) :
    Alike Matched (Both SameInput SameBody) (Memory.host.openInput x m) (host.openInput y c) := by
  obtain ⟨⟨hKind, rfl⟩, hFree⟩ := hSame
  apply alike_giveOut _ (fun w => w.bodyStream y) (bodyStream_eq c y)
  · rw [hFree]
    rfl
  · intro _
    exact ⟨⟨rfl, rfl⟩, ⟨hKind, rfl⟩⟩
  · rfl
  · exact h

theorem alike_consumeRequest {x : Memory.IncomingRequest} {y : IncomingRequest}
    (hSame : SameRequest x y) (h : Matched m c) :
    Alike Matched (Both SameUnopened SameRequest) (Memory.host.consumeRequest x m)
      (host.consumeRequest y c) := by
  obtain ⟨hKind, hFree, method, hMethod, rfl⟩ := hSame
  apply alike_giveOut _ (fun w => w.requestConsume y) (requestConsume_eq c y)
  · rfl
  · intro _
    exact ⟨⟨⟨rfl, by rw [hFree]; rfl⟩, hFree⟩, ⟨hKind, hFree, method, hMethod, rfl⟩⟩
  · rfl
  · exact h

theorem alike_consumeResponse {x : Memory.IncomingResponse} {y : IncomingResponse}
    (hSame : SameResponse x y) (h : Matched m c) :
    Alike Matched (Both SameUnopened SameResponse) (Memory.host.consumeResponse x m)
      (host.consumeResponse y c) := by
  obtain ⟨hKind, hFree, rfl⟩ := hSame
  apply alike_giveOut _ (fun w => w.responseConsume y) (responseConsume_eq c y)
  · rfl
  · intro _
    exact ⟨⟨⟨rfl, by rw [hFree]; rfl⟩, hFree⟩, ⟨hKind, hFree, rfl⟩⟩
  · rfl
  · exact h

theorem alike_takeBody {x : Memory.OutgoingResponse} {y : OutgoingResponse} (hSame : SameHead x y)
    (h : Matched m c) :
    Alike Matched (Both SameBlank SameHead) (Memory.host.takeBody x m) (host.takeBody y c) := by
  obtain ⟨hKind, hPlan, rfl⟩ := hSame
  apply alike_giveOut _ (fun w => w.responseBody y) (responseBody_eq c y)
  · rfl
  · intro hFree
    rw [hFree] at hPlan
    exact ⟨⟨⟨rfl, by rw [hPlan]; rfl, by rw [hPlan]; rfl⟩, by rw [hPlan]; rfl⟩,
      ⟨hKind, by rw [hPlan], rfl⟩⟩
  · rfl
  · exact h

theorem alike_openOutput {x : Memory.OutgoingBody} {y : OutgoingBody} (hSame : SameBlank x y)
    (h : Matched m c) :
    Alike Matched (Both SameOutput SameOutgoing) (Memory.host.openOutput x m)
      (host.openOutput y c) := by
  obtain ⟨⟨hKind, hPlan, rfl⟩, hFree⟩ := hSame
  rw [hFree] at hPlan
  apply alike_giveOut _ (fun w => w.bodyWrite y) (bodyWrite_eq c y)
  · rw [hPlan]
    rfl
  · intro _
    exact ⟨⟨rfl, hPlan, rfl⟩, ⟨hKind, by rw [hPlan], rfl⟩⟩
  · rfl
  · exact h

theorem alike_newResponse {x : Memory.Outparam} {y : Outparam} (fields : FieldList)
    (hSame : SameOutparam x y) (h : Matched m c) :
    Alike Matched SameHead (Memory.host.newResponse x fields m) (host.newResponse y fields c) := by
  obtain ⟨-, hPlan, rfl⟩ := hSame
  have hMemory : Memory.Outparam.newResponse ⟨none, [], .none⟩ fields =
      .ok ⟨fields, 200, false, none, .none⟩ := by
    have hNone : fields.find? (fun field =>
        Memory.Outparam.isRejected ⟨none, [], .none⟩ field.1) = none := by
      simp [Memory.Outparam.isRejected]
    rw [Memory.Outparam.newResponse, hNone]
    rfl
  obtain ⟨f, c', hFields, rfl, h⟩ := succeeds_newFields fields h
  have hGiven := (h.call .newResponse rfl).give f.handle
  rw [show host.newResponse y f.entries c = _ from Action.bind_of_ok hFields,
    show Memory.host.newResponse _ f.entries m = ofExcept _ m from congrArg (ofExcept · m) hMemory]
  refine .ok ⟨rfl, by rw [hPlan], ?_⟩ (hGiven.obtain .outgoingResponse none)
  rw [hPlan]
  rfl

theorem alike_setStatus {x : Memory.OutgoingResponse} {y : OutgoingResponse} (status : UInt16)
    (hSame : SameHead x y) (h : Matched m c) :
    Alike Matched SameHead (Memory.host.setStatus x status m) (host.setStatus y status c) := by
  obtain ⟨hKind, hPlan, rfl⟩ := hSame
  have hCalled := h.call (.setStatusCode status) rfl
  by_cases hStatus : 100 ≤ status ∧ status ≤ 999
  · have hMemory : Memory.OutgoingResponse.setStatus
        ⟨y.headers, y.status, y.plan.bodyTaken, none, .none⟩ status m =
        (.ok ⟨y.headers, status, y.plan.bodyTaken, none, .none⟩, m.record (.statusSet status)) := by
      simp [Memory.OutgoingResponse.setStatus, Memory.Faults.none, hStatus]
    have hTaken : c.setStatusCode y status =
        (some { y with status }, c.call (.setStatusCode status)) := by
      rw [World.setStatusCode, hPlan]
      simp [hStatus, Plan.none]
    rw [show host.setStatus y status c = _ from
        accepted_of_some (fun w => w.setStatusCode y status) hTaken,
      show Memory.host.setStatus _ status m = _ from ofCall_eq_ofExcept hMemory]
    exact .ok ⟨hKind, hPlan, rfl⟩ (hCalled.note _ rfl rfl)
  · have hMemory : Memory.OutgoingResponse.setStatus
        ⟨y.headers, y.status, y.plan.bodyTaken, none, .none⟩ status m =
          (.error (.host s!"invalid status code {status}"), m) := by
      simp [Memory.OutgoingResponse.setStatus, Memory.Faults.none, hStatus]
    have hRefused : c.setStatusCode y status = (none, c.call (.setStatusCode status)) := by
      simp only [World.setStatusCode, ← and_assoc, hStatus, false_and, if_false]
    rw [show host.setStatus y status c = _ from
        accepted_of_none (fun w => w.setStatusCode y status) hRefused,
      show Memory.host.setStatus _ status m = _ from ofCall_eq_ofExcept hMemory]
    exact .error _ hCalled

theorem alike_finishOutgoing {x : Memory.OutgoingBody} {y : OutgoingBody}
    (hSame : SameOutgoing x y) (h : Matched m c) :
    Alike Matched Eq (Memory.host.finishOutgoing x m) (host.finishOutgoing y c) := by
  obtain ⟨hKind, hPlan, rfl⟩ := hSame
  have hFinished : Matched (m.record .outgoingBodyFinished) (c.call .outgoingBodyFinish) :=
    h.record rfl rfl rfl rfl
  have hComponent : host.finishOutgoing y c =
      .ok () ((c.call .outgoingBodyFinish).give y.handle) := by
    simp only [ofCall, World.outgoingBodyFinish]
    rw [hPlan]
    rfl
  rw [hComponent]
  exact .ok rfl (hFinished.give y.handle)

/-! ## Reading and writing -/

theorem matched_described (h : Matched m c) (e : StreamError) :
    (described (c.streamFault e).1 (c.streamFault e).2).1 = e ∧
      Matched m (described (c.streamFault e).1 (c.streamFault e).2).2 := by
  cases e with
  | closed => exact ⟨rfl, h⟩
  | failed message =>
    have hObtained := h.obtain .ioError none
    have hDescribed := hObtained.call .errorToDebugString rfl
    exact ⟨rfl, hDescribed.release rfl rfl⟩

theorem beside_read {x : Memory.InputStream} {y : InputStream} (n : Nat) (hSame : SameInput x y)
    (h : Matched m c) :
    Beside Matched Eq SameInput (Memory.host.read x n m) (host.read y n c) := by
  have hCalled := h.call (.blockingRead n) rfl
  change Beside _ _ _ (x.read n m) (describedResult (c.blockingRead y n))
  rw [Memory.InputStream.read, World.blockingRead, hSame.script]
  match y.script.read n with
  | (.ok bytes, rest) => exact ⟨rfl, ⟨hSame.kind, rfl⟩, hCalled.note _ rfl rfl⟩
  | (.error e, rest) =>
    obtain ⟨hError, hWorlds⟩ := matched_described hCalled e
    exact ⟨congrArg Except.error hError.symm, ⟨hSame.kind, rfl⟩, hWorlds⟩

theorem beside_write {x : Memory.OutputStream} {y : OutputStream} {bytes : Bytes}
    (hLength : bytes.length ≤ maxWriteSize) (hSame : SameOutput x y) (h : Matched m c) :
    Beside Matched Eq SameOutput (Memory.host.write x bytes m) (host.write y bytes c) := by
  obtain ⟨hKind, hPlan, rfl⟩ := hSame
  have hMemory : Memory.OutputStream.failure? ⟨none, .none, y.calls⟩ bytes = none := by
    simp [Memory.OutputStream.failure?, Memory.Faults.none, hLength]
  have hComponent : describedResult (c.blockingWriteAndFlush y bytes) =
      (.ok (), { y with calls := y.calls + 1 },
        { c.call (.blockingWriteAndFlush bytes.length) with body := c.body ++ bytes }) := by
    simp only [describedResult, World.blockingWriteAndFlush, hPlan, Plan.none,
      WriteFaults.at?_none]
    rfl
  change Beside _ _ _ (Memory.OutputStream.write _ bytes m) (describedResult _)
  rw [hComponent, Memory.OutputStream.write, hMemory]
  exact ⟨rfl, ⟨hKind, hPlan, rfl⟩, h.write bytes⟩

theorem matched_finishIncoming {x : Memory.IncomingBody} {y : IncomingBody} (h : Matched m c) :
    Matched (Memory.host.finishIncoming x m) (host.finishIncoming y c) := by
  have hFinished : Matched (m.record .incomingBodyFinished) (c.call .incomingBodyFinish) :=
    h.record rfl rfl rfl rfl
  have hTrailers := (hFinished.give y.handle).obtain .futureTrailers none
  exact hTrailers.release rfl rfl

/-! ## Asking -/

theorem matched_handOver (h : Matched m c) {head : RequestHead} {options : Option RequestOptions}
    {r : OutgoingRequest} {o : Option Options} (hSent : World.sentOf r o = .ofHead head options)
    {reply : Memory.Reply} {replies : List Memory.Reply} {reply' : Reply} {replies' : List Reply}
    (hMemory : m.replies = reply :: replies) (hComponent : c.replies = reply' :: replies') :
    SameReply reply reply' ∧
      Matched { m with recording := m.recording.addSent head options, replies }
        { c.handOver r o with replies := replies' } := by
  obtain ⟨hReply, hTold⟩ := h.send head options hMemory hComponent
  refine ⟨hReply, ?_⟩
  rw [World.handOver, hSent]
  cases o with
  | none => exact hTold.give r.handle
  | some o => exact (hTold.give r.handle).give o.handle

theorem alike_handle (head : RequestHead) (options : Option RequestOptions)
    (hReplies : m.replies ≠ []) (h : Matched m c) :
    Alike Matched SameFuture (Memory.host.handle head options m) (host.handle head options c) := by
  obtain ⟨fields, c₁, hFields, hEntries, h⟩ := succeeds_newFields head.headers h
  obtain ⟨blank, c₂, hBlank, hRequest, h⟩ := succeeds_newRequest hEntries h
  have hFilled : Succeeds m (fun p => World.sentOf p.1 p.2 = .ofHead head options)
      (Action.onFailure (fun w => w.release blank.handle) do
        let r ← fillRequest blank head
        let o ← newOptions? options
        return (r, o)) := by
    apply Succeeds.onFailure
    refine (succeeds_fillRequest blank head).bind ?_
    rintro r rfl
    refine (succeeds_newOptions? options).bind ?_
    intro o hTimeouts
    apply succeeds_pure
    rw [World.sentOf, Sent.ofHead, hTimeouts, hRequest]
  obtain ⟨⟨r, o⟩, c₃, hFill, hSent, h⟩ := hFilled h
  obtain ⟨reply, replies, hMemory⟩ := List.exists_cons_of_ne_nil hReplies
  have hMatching := h.replies
  rw [hMemory, List.forall₂_cons_left_iff] at hMatching
  obtain ⟨reply', replies', hReply, -, hComponent⟩ := hMatching
  have hAccepted : ∀ code, reply' ≠ .refused code := by
    rintro code rfl
    cases hReply
  obtain ⟨-, hOver⟩ := matched_handOver h hSent hMemory hComponent
  have hHandled : host.handle head options c =
      .ok ⟨⟨.futureIncomingResponse, (c₃.handOver r o).nextId⟩, reply', c₃.pending⟩
        ({ c₃.handOver r o with replies := replies' }.obtain .futureIncomingResponse none).2 := by
    refine (Action.bind_of_ok hFields).trans ((Action.bind_of_ok hBlank).trans
      ((Action.bind_of_ok hFill).trans ?_))
    simp only [ofCall, handle_of_reply hComponent hAccepted]
  have hKept : Memory.host.handle head options m =
      .ok ⟨some reply, m.pending⟩
        { m with recording := m.recording.addSent head options, replies } := by
    simp only [ofCall, Memory.World.handle, hMemory]
  rw [hHandled, hKept]
  exact .ok ⟨rfl, h.pending, .untaken hReply⟩ (hOver.obtain .futureIncomingResponse none)

theorem beside_poll {x : Memory.Future} {y : Future} (hSame : SameFuture x y) (h : Matched m c) :
    Beside Matched (Option.Rel (Agree SameResponse)) SameFuture (Memory.host.poll x m)
      (host.poll y c) := by
  obtain ⟨reply, pending⟩ := x
  obtain ⟨handle, reply', _⟩ := y
  obtain ⟨hKind, rfl, hReply⟩ := hSame
  have hCalled := h.call .get rfl
  change Beside _ _ _ ((Memory.Future.mk reply pending).poll.1,
    (Memory.Future.mk reply pending).poll.2, m) (poll ⟨handle, reply', pending⟩ c)
  rw [Memory.Future.poll, poll, World.get]
  by_cases hWaiting : 0 < pending
  · rw [if_pos hWaiting, if_pos hWaiting]
    exact ⟨.none, ⟨hKind, rfl, hReply⟩, hCalled⟩
  · rw [if_neg hWaiting, if_neg hWaiting]
    -- an outcome that was given leaves both futures empty
    cases hReply with
    | taken => exact ⟨.some (.error _), ⟨hKind, rfl, .taken⟩, hCalled⟩
    | untaken hSame =>
      cases hSame with
      | transport code => exact ⟨.some (.error _), ⟨hKind, rfl, .taken⟩, hCalled⟩
      | response status headers script consumed =>
        exact ⟨.some (.ok ⟨rfl, rfl, rfl⟩), ⟨hKind, rfl, .taken⟩,
          hCalled.obtain .incomingResponse none⟩

theorem matched_block {x : Memory.Future} {y : Future} (p : Pollable) (hSame : SameFuture x y)
    (h : Matched m c) :
    SameFuture x.block (host.block p y c).1 ∧
      Matched (m.record .blocked) (host.block p y c).2 := by
  have hBlocked : Matched (m.record .blocked) (c.call .block) := h.record rfl rfl rfl rfl
  refine ⟨⟨hSame.kind, ?_, hSame.reply⟩, hBlocked⟩
  simp only [Memory.Future.block, World.block, hSame.pending]

theorem matched_entries (h : Matched m c) (call : Call) (owner : Option Handle)
    (entries : FieldList) (hQuiet : (Entry.call call).deed? = none) :
    Matched m
      (entriesOf (⟨⟨.fields, c.nextId⟩, entries⟩, ((c.call call).obtain .fields owner).2)).2 := by
  have hRead := ((h.call call hQuiet).obtain .fields owner).call .fieldsEntries rfl
  exact hRead.release rfl rfl

theorem matched_resolve {x : Memory.OutgoingResponse} {o : Outparam} {y : OutgoingResponse}
    (hSame : SameHead x y) (h : Matched m c) :
    Matched (m.resolve x) (c.outparamSet o (.ok y)) := by
  obtain ⟨-, -, rfl⟩ := hSame
  have hResolved := h.resolve y.status y.headers
  exact (hResolved.give y.handle).give o.handle

theorem matched_reject {o : Outparam} (message : String) (h : Matched m c) :
    Matched (m.reject message)
      (c.outparamSet o (.error (.internalError (some message)))) :=
  (h.reject message).give o.handle

/-! ## The simulation -/

def simulation : Simulation Memory.host host where
  worlds := Matched
  supplied w := w.replies ≠ []
  bodies := SameBody
  unopened := SameUnopened
  inputs := SameInput
  requests := SameRequest
  outparams := SameOutparam
  heads := SameHead
  outgoing := SameOutgoing
  blank := SameBlank
  outputs := SameOutput
  futures := SameFuture
  pollables _ y := y.handle.kind = .pollable
  responses := SameResponse
  bodies_of_unopened := And.left
  outgoing_of_blank := And.left
  openInput := alike_openInput
  read := beside_read
  dropInput hSame h := h.recordReleased hSame.kind rfl rfl rfl rfl
  finishIncoming _ h := matched_finishIncoming h
  dropIncoming hSame h := h.release hSame.kind rfl
  requestMethod := by
    rintro _ y m c ⟨-, -, method, hMethod, rfl⟩ h
    exact ⟨sameMethod_iff.mp hMethod, h.call .requestMethod rfl⟩
  requestPath := by
    rintro _ y m c ⟨-, -, method, -, rfl⟩ h
    exact ⟨rfl, h.call .requestPath rfl⟩
  requestHeaders := by
    rintro _ y m c ⟨-, -, method, -, rfl⟩ h
    exact ⟨rfl, matched_entries h .requestHeaders y.handle y.headers rfl⟩
  consumeRequest := alike_consumeRequest
  dropRequest hSame h := h.release hSame.kind rfl
  newResponse := alike_newResponse
  setStatus := alike_setStatus
  takeBody := alike_takeBody
  dropResponse hSame h := h.release hSame.kind rfl
  resolve _ hSame h := matched_resolve hSame h
  reject message _ h := matched_reject message h
  openOutput := alike_openOutput
  write := beside_write
  dropOutput hSame h := h.recordReleased hSame.kind rfl rfl rfl rfl
  finishOutgoing := alike_finishOutgoing
  dropOutgoing hSame h := h.release hSame.kind rfl
  handle head options := alike_handle head options
  subscribe := by
    intro x y m c hSame h
    exact ⟨rfl, (h.call .subscribe rfl).obtain .pollable y.handle⟩
  poll := beside_poll
  block := by
    intro p q x y m c _ hSame h
    exact matched_block q hSame h
  dropPollable hKind h := h.recordReleased hKind rfl rfl rfl rfl
  dropFuture hSame h := h.recordReleased hSame.kind rfl rfl rfl rfl
  responseStatus := by
    intro x y m c hSame h
    exact ⟨by rw [hSame.content]; rfl, h.call .responseStatus rfl⟩
  responseHeaders := by
    intro x y m c hSame h
    exact ⟨by rw [hSame.content]; rfl,
      matched_entries h .responseHeaders y.handle y.content.headers rfl⟩
  consumeResponse := alike_consumeResponse
  dropIncomingResponse hSame h := h.release hSame.kind rfl

end BufferedHttp.Component
