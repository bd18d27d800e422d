import BufferedHttp.Proofs.Component.Calls
import BufferedHttp.Proofs.Host.Simulation

/-!
# What happened before does not matter

Serving a request without a send goes on a component host as if nothing had happened on it before:
what was entered in the ledger, answered, written and sent only stands before what is added.
-/

namespace BufferedHttp.Component

open BufferedHttp.Action Host

/-- The world on a host with a past. It refuses the same fields; the replies and setters, which
only a send asks for, are those of the past. -/
def World.behind (w past : World) : World :=
  { w with
    ledger := past.ledger ++ w.ledger
    sent := past.sent ++ w.sent
    answers := past.answers ++ w.answers
    body := past.body ++ w.body
    replies := past.replies
    pending := past.pending
    refused := past.refused }

def Behind (past w w' : World) : Prop := w' = w.behind past

/-- The world on a host to which nothing has happened, but that it goes on counting the lists of
fields that it is given. -/
def World.fresh (w : World) : World :=
  { w with ledger := [], sent := [], answers := [], body := [], replies := [], pending := 0,
           refused := [] }

theorem behind_fresh (w : World) : Behind w w.fresh w := by
  simp only [Behind, World.behind, World.fresh, List.append_nil]

section Operations

variable {α : Type} (w past : World)

@[simp] theorem nextId_behind : (w.behind past).nextId = w.nextId := rfl

@[simp] theorem enter_behind (e : Entry) : (w.behind past).enter e = (w.enter e).behind past := by
  simp only [World.enter, World.behind, List.append_assoc]

@[simp] theorem call_behind (c : Call) : (w.behind past).call c = (w.call c).behind past :=
  enter_behind w past (.call c)

@[simp] theorem release_behind (h : Handle) :
    (w.behind past).release h = (w.release h).behind past :=
  enter_behind w past (.released h)

@[simp] theorem give_behind (h : Handle) : (w.behind past).give h = (w.give h).behind past :=
  enter_behind w past (.given h)

@[simp] theorem obtain_behind (kind : Kind) (owner : Option Handle) :
    (w.behind past).obtain kind owner =
      ((w.obtain kind owner).1, (w.obtain kind owner).2.behind past) := by
  have hEntered := enter_behind w past (.obtained ⟨kind, w.nextId⟩ owner)
  simp only [World.obtain, nextId_behind, hEntered]
  rfl

@[simp] theorem giveOut_behind (c : Call) (used : Bool) (kind : Kind) (owner : Handle)
    (make : Handle → α) :
    (w.behind past).giveOut c used kind owner make =
      ((w.giveOut c used kind owner make).1, (w.giveOut c used kind owner make).2.behind past) := by
  cases used with
  | true => simp [World.giveOut]
  | false => simp [World.giveOut]

@[simp] theorem fieldError?_behind : (w.behind past).fieldError? = w.fieldError? := rfl

@[simp] theorem listed_behind : (w.behind past).listed = w.listed.behind past := by
  simp only [World.listed, call_behind]
  rfl

@[simp] theorem fieldsFromList_behind (fields : FieldList) :
    (w.behind past).fieldsFromList fields =
      ((w.fieldsFromList fields).1, (w.fieldsFromList fields).2.behind past) := by
  simp only [World.fieldsFromList, listed_behind, fieldError?_behind, obtain_behind]
  cases fields.findSome? w.fieldError? <;> rfl

@[simp] theorem newResponse_behind (f : Fields) (plan : Plan) :
    (w.behind past).newResponse f plan =
      ((w.newResponse f plan).1, (w.newResponse f plan).2.behind past) := by
  simp only [World.newResponse, call_behind, give_behind, obtain_behind]

@[simp] theorem described_streamFault_behind (e : StreamError) :
    described ((w.behind past).streamFault e).1 ((w.behind past).streamFault e).2 =
      ((described (w.streamFault e).1 (w.streamFault e).2).1,
        (described (w.streamFault e).1 (w.streamFault e).2).2.behind past) := by
  cases e with
  | closed => rfl
  | failed message => simp [World.streamFault, described, World.toDebugString]

@[simp] theorem outparamSet_behind (out : Outparam)
    (answer : Except ErrorCode OutgoingResponse) :
    (w.behind past).outparamSet out answer = (w.outparamSet out answer).behind past := by
  cases answer <;>
    simp [World.outparamSet, World.behind, World.call, World.enter, World.give]

@[simp] theorem arrive_behind (request : Handle → IncomingRequest) (plan : Plan) :
    (w.behind past).arrive request plan =
      ((w.arrive request plan).1, (w.arrive request plan).2.1,
        (w.arrive request plan).2.2.behind past) := by
  simp only [World.arrive, obtain_behind]

end Operations

section Calls

variable {α : Type} {w w' past : World}

theorem Behind.call (h : Behind past w w') (c : Call) : Behind past (w.call c) (w'.call c) := by
  obtain rfl : w' = _ := h
  exact call_behind w past c

theorem Behind.release (h : Behind past w w') (handle : Handle) :
    Behind past (w.release handle) (w'.release handle) := by
  obtain rfl : w' = _ := h
  exact release_behind w past handle

theorem Behind.outparamSet (h : Behind past w w') (out : Outparam)
    (answer : Except ErrorCode OutgoingResponse) :
    Behind past (w.outparamSet out answer) (w'.outparamSet out answer) := by
  obtain rfl : w' = _ := h
  exact outparamSet_behind w past out answer

theorem Behind.accepted (h : Behind past w w') (e : Error) {call : World → Option α × World}
    (hLocal : call (w.behind past) = ((call w).1, (call w).2.behind past)) :
    Alike (Behind past) Eq (Component.accepted e call w) (Component.accepted e call w') := by
  obtain rfl : w' = _ := h
  match hCall : call w with
  | (some a, w₁) =>
    rw [hCall] at hLocal
    rw [accepted_of_some call hCall, accepted_of_some call hLocal]
    exact .ok rfl rfl
  | (none, w₁) =>
    rw [hCall] at hLocal
    rw [accepted_of_none call hCall, accepted_of_none call hLocal]
    exact .error e rfl

theorem Behind.ofCall (h : Behind past w w') {call : World → Except Error α × World}
    (hLocal : call (w.behind past) = ((call w).1, (call w).2.behind past)) :
    Alike (Behind past) Eq (Action.ofCall call w) (Action.ofCall call w') := by
  obtain rfl : w' = _ := h
  apply alike_ofCall
  · rw [hLocal]
    exact agree_refl _
  · rw [hLocal]
    rfl

theorem Behind.read (h : Behind past w w') (s : InputStream) (n : Nat) :
    Beside (Behind past) Eq Eq (host.read s n w) (host.read s n w') := by
  obtain rfl : w' = _ := h
  change Beside _ _ _ (describedResult (w.blockingRead s n))
    (describedResult ((w.behind past).blockingRead s n))
  rw [World.blockingRead, World.blockingRead, call_behind]
  match s.script.read n with
  | (.ok bytes, rest) => exact ⟨rfl, rfl, rfl⟩
  | (.error e, rest) =>
    have hDescribed := described_streamFault_behind (w.call (.blockingRead n)) past e
    refine ⟨congrArg Except.error ?_, rfl, ?_⟩
    · exact (congrArg Prod.fst hDescribed).symm
    · exact congrArg Prod.snd hDescribed

theorem Behind.write (h : Behind past w w') (s : OutputStream) (bytes : Bytes) :
    Beside (Behind past) Eq Eq (host.write s bytes w) (host.write s bytes w') := by
  obtain rfl : w' = _ := h
  change Beside _ _ _ (describedResult (w.blockingWriteAndFlush s bytes))
    (describedResult ((w.behind past).blockingWriteAndFlush s bytes))
  rw [World.blockingWriteAndFlush, World.blockingWriteAndFlush, call_behind]
  match s.plan.writes.at? s.calls with
  | some e =>
    have hDescribed :=
      described_streamFault_behind (w.call (.blockingWriteAndFlush bytes.length)) past e
    refine ⟨congrArg Except.error ?_, rfl, ?_⟩
    · exact (congrArg Prod.fst hDescribed).symm
    · exact congrArg Prod.snd hDescribed
  | none =>
    refine ⟨rfl, rfl, ?_⟩
    simp [describedResult, Behind, World.behind, World.call, World.enter]

theorem Behind.newResponse (h : Behind past w w') (out : Outparam) (fields : FieldList) :
    Alike (Behind past) Eq (host.newResponse out fields w) (host.newResponse out fields w') := by
  have hFields : Alike (Behind past) Eq (newFields fields w) (newFields fields w') := by
    apply h.ofCall
    rw [fieldsFromList_behind]
    rcases w.fieldsFromList fields with ⟨e | f, w₁⟩ <;> rfl
  refine hFields.bind ?_
  rintro f _ s _ rfl rfl
  have hCreated := newResponse_behind s past f out.plan
  exact .ok (congrArg Prod.fst hCreated).symm (congrArg Prod.snd hCreated)

theorem Behind.setStatus (h : Behind past w w') (r : OutgoingResponse) (status : UInt16) :
    Alike (Behind past) Eq (host.setStatus r status w) (host.setStatus r status w') := by
  apply h.accepted
  simp only [World.setStatusCode, call_behind]
  split <;> rfl

theorem Behind.finishOutgoing (h : Behind past w w') (b : OutgoingBody) :
    Alike (Behind past) Eq (host.finishOutgoing b w) (host.finishOutgoing b w') := by
  apply h.ofCall
  simp only [World.outgoingBodyFinish, call_behind, give_behind]
  cases b.plan.finishError <;> rfl

theorem Behind.poll (h : Behind past w w') (f : Future) :
    Beside (Behind past) (Option.Rel (Agree Eq)) Eq (host.poll f w) (host.poll f w') := by
  obtain rfl : w' = _ := h
  change Beside _ _ _ (Component.poll f w) (Component.poll f (w.behind past))
  by_cases hWaiting : 0 < f.pending
  · rw [poll_of_pending hWaiting, poll_of_pending hWaiting, call_behind]
    exact ⟨.none, rfl, rfl⟩
  · simp only [Component.poll, World.get, call_behind, if_neg hWaiting]
    cases f.reply with
    | taken => exact ⟨.some (.error _), rfl, rfl⟩
    | failed code | refused code => exact ⟨.some (.error _), rfl, rfl⟩
    | response r =>
      simp only [obtain_behind]
      exact ⟨.some (.ok rfl), rfl, rfl⟩

theorem Behind.entries (h : Behind past w w') (call : Call) (owner : Handle)
    (entries : FieldList) :
    let read := fun w : World =>
      entriesOf (⟨((w.call call).obtain .fields owner).1, entries⟩,
        ((w.call call).obtain .fields owner).2)
    (read w).1 = (read w').1 ∧ Behind past (read w).2 (read w').2 := by
  obtain rfl : w' = _ := h
  simp [entriesOf, World.fieldsEntries, Behind]

end Calls

/-- Every call goes alike, that of the send apart, which takes a reply. -/
def behindPast (past : World) : Simulation host host where
  worlds := Behind past
  supplied _ := False
  bodies := Eq
  unopened := Eq
  inputs := Eq
  requests := Eq
  outparams := Eq
  heads := Eq
  outgoing := Eq
  blank := Eq
  outputs := Eq
  futures := Eq
  pollables := Eq
  responses := Eq
  bodies_of_unopened := id
  outgoing_of_blank := id
  openInput := by
    rintro b _ w w' rfl h
    apply Alike.both
    apply h.accepted
    simp only [bodyStream_eq, giveOut_behind]
  read := by
    rintro s _ w w' n rfl h
    exact h.read s n
  dropInput := by
    rintro s _ w w' rfl h
    exact h.release s.handle
  finishIncoming := by
    rintro b _ w w' rfl h
    obtain rfl : w' = _ := h
    simp [World.bodyFinish, Behind]
  dropIncoming := by
    rintro b _ w w' rfl h
    exact h.release b.handle
  requestMethod := by
    rintro r _ w w' rfl h
    exact ⟨rfl, h.call .requestMethod⟩
  requestPath := by
    rintro r _ w w' rfl h
    exact ⟨rfl, h.call .requestPath⟩
  requestHeaders := by
    rintro r _ w w' rfl h
    exact h.entries .requestHeaders r.handle r.headers
  consumeRequest := by
    rintro r _ w w' rfl h
    apply Alike.both
    apply h.accepted
    simp only [requestConsume_eq, giveOut_behind]
  dropRequest := by
    rintro r _ w w' rfl h
    exact h.release r.handle
  newResponse := by
    rintro out _ w w' fields rfl h
    exact h.newResponse out fields
  setStatus := by
    rintro r _ w w' status rfl h
    exact h.setStatus r status
  takeBody := by
    rintro r _ w w' rfl h
    apply Alike.both
    apply h.accepted
    simp only [responseBody_eq, giveOut_behind]
  dropResponse := by
    rintro r _ w w' rfl h
    exact h.release r.handle
  resolve := by
    rintro out _ r _ w w' rfl rfl h
    exact h.outparamSet out (.ok r)
  reject := by
    rintro out _ w w' message rfl h
    exact h.outparamSet out (.error (.internalError (some message)))
  openOutput := by
    rintro b _ w w' rfl h
    apply Alike.both
    apply h.accepted
    simp only [bodyWrite_eq, giveOut_behind]
  write := by
    rintro s _ w w' bytes - rfl h
    exact h.write s bytes
  dropOutput := by
    rintro s _ w w' rfl h
    exact h.release s.handle
  finishOutgoing := by
    rintro b _ w w' rfl h
    exact h.finishOutgoing b
  dropOutgoing := by
    rintro b _ w w' rfl h
    exact h.release b.handle
  handle := nofun
  subscribe := by
    rintro f _ w w' rfl h
    obtain rfl : w' = _ := h
    simp [World.subscribe, Behind]
  poll := by
    rintro f _ w w' rfl h
    exact h.poll f
  block := by
    rintro p _ f _ w w' rfl rfl h
    exact ⟨rfl, h.call .block⟩
  dropPollable := by
    rintro p _ w w' rfl h
    exact h.release p.handle
  dropFuture := by
    rintro f _ w w' rfl h
    exact h.release f.handle
  responseStatus := by
    rintro r _ w w' rfl h
    exact ⟨rfl, h.call .responseStatus⟩
  responseHeaders := by
    rintro r _ w w' rfl h
    exact h.entries .responseHeaders r.handle r.content.headers
  consumeResponse := by
    rintro r _ w w' rfl h
    apply Alike.both
    apply h.accepted
    simp only [responseConsume_eq, giveOut_behind]
  dropIncomingResponse := by
    rintro r _ w w' rfl h
    exact h.release r.handle

theorem arrive_fresh {w w₁ : World} {make : Handle → IncomingRequest} {plan : Plan}
    {request : IncomingRequest} {out : Outparam} (h : w.arrive make plan = (request, out, w₁)) :
    ∃ w₀, w.fresh.arrive make plan = (request, out, w₀) ∧ Behind w w₀ w₁ := by
  have hArrived := arrive_behind w.fresh w make plan
  rw [← behind_fresh w, h, Prod.mk.injEq, Prod.mk.injEq] at hArrived
  obtain ⟨rfl, rfl, hBehind⟩ := hArrived
  exact ⟨_, rfl, hBehind⟩

/-- A handler that sends nothing is not told what happened before, and neither is the client. -/
theorem Behind.serve {w w' past : World} (h : Behind past w w') (config : Config)
    {handler : Handler} (request : IncomingRequest) (out : Outparam)
    (hDone : ∀ limits shown w₁, config.limits = .ok limits →
      host.receiveRequest limits request w = .ok (.ok shown) w₁ →
      ∃ result, handler shown = .done result) :
    Alike (Behind past) Eq (host.serve config handler request out w)
      (host.serve config handler request out w') := by
  apply (behindPast past).serve config handler rfl rfl h
  intro limits shown w₁ hLimits hReceived
  obtain ⟨result, hResult⟩ := hDone limits shown w₁ hLimits hReceived
  rw [hResult]
  trivial

end BufferedHttp.Component
