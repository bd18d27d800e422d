import BufferedHttp.Component.Host
import BufferedHttp.Proofs.Action

/-!
# Calls of the component interface

How the operations of a component host come out, each from the outcome of the call it rests on.
-/

namespace BufferedHttp.Component

variable {α σ : Type} {w w' : World}

theorem accepted_of_some {e : Error} (call : World → Option α × World) {a : α}
    (h : call w = (some a, w')) : accepted e call w = .ok a w' := by
  simp only [accepted, Action.ofCall, h]

theorem accepted_of_none {e : Error} (call : World → Option α × World)
    (h : call w = (none, w')) : accepted e call w = .error e w' := by
  simp only [accepted, Action.ofCall, h]

/-- A call that gives out a handle, once. -/
def World.giveOut (w : World) (c : Call) (used : Bool) (kind : Kind) (owner : Handle)
    (make : Handle → α) : Option α × World :=
  if used then (none, w.call c)
  else (some (make ⟨kind, w.nextId⟩), ((w.call c).obtain kind owner).2)

section GiveOut

variable (w : World)

theorem bodyStream_eq (b : IncomingBody) :
    w.bodyStream b = w.giveOut .incomingBodyStream b.streamTaken .inputStream b.handle
      fun h => (⟨h, b.script⟩, { b with streamTaken := true }) := by
  rw [World.bodyStream, World.giveOut]
  cases b.streamTaken <;> rfl

theorem requestConsume_eq (r : IncomingRequest) :
    w.requestConsume r = w.giveOut .requestConsume r.consumed .incomingBody r.handle
      fun h => (⟨h, r.script, r.streamTaken⟩, { r with consumed := true }) := by
  rw [World.requestConsume, World.giveOut]
  cases r.consumed <;> rfl

theorem responseConsume_eq (r : IncomingResponse) :
    w.responseConsume r = w.giveOut .responseConsume r.content.consumed .incomingBody r.handle
      fun h => (⟨h, r.content.script, r.content.streamTaken⟩,
        { r with content := { r.content with consumed := true } }) := by
  rw [World.responseConsume, World.giveOut]
  cases r.content.consumed <;> rfl

theorem responseBody_eq (r : OutgoingResponse) :
    w.responseBody r = w.giveOut .responseBody r.plan.bodyTaken .outgoingBody r.handle
      fun h => (⟨h, r.plan⟩, { r with plan := { r.plan with bodyTaken := true } }) := by
  rw [World.responseBody, World.giveOut]
  cases r.plan.bodyTaken <;> rfl

theorem bodyWrite_eq (b : OutgoingBody) :
    w.bodyWrite b = w.giveOut .outgoingBodyWrite b.plan.streamTaken .outputStream b.handle
      fun h => (⟨h, b.plan, 0⟩, { b with plan := { b.plan with streamTaken := true } }) := by
  rw [World.bodyWrite, World.giveOut]
  cases b.plan.streamTaken <;> rfl

end GiveOut

theorem newFields_of_accepted {fields : FieldList} (h : fields.findSome? w.fieldError? = none) :
    newFields fields w =
      .ok ⟨⟨.fields, w.nextId⟩, fields⟩ (w.listed.obtain .fields none).2 := by
  simp only [newFields, Action.ofCall, World.fieldsFromList, h]
  rfl

theorem newFields_of_refused {fields : FieldList} {e : HeaderError}
    (h : fields.findSome? w.fieldError? = some e) :
    newFields fields w = .error (.header e.text) w.listed := by
  simp only [newFields, Action.ofCall, World.fieldsFromList, h]

/-- The world in which the host has a request, and its options if there are any. -/
def World.handOver (w : World) (r : OutgoingRequest) (o : Option Options) : World :=
  let given := (w.call .handle).give r.handle
  { o.elim given fun o => given.give o.handle with sent := w.sent ++ [sentOf r o] }

theorem handle_of_reply {r : OutgoingRequest} {o : Option Options} {reply : Reply}
    {replies : List Reply} (h : w.replies = reply :: replies)
    (hAccepted : ∀ code, reply ≠ .refused code) :
    w.handle r o = (.ok ⟨⟨.futureIncomingResponse, (w.handOver r o).nextId⟩, reply, w.pending⟩,
      ({ w.handOver r o with replies }.obtain .futureIncomingResponse none).2) := by
  cases reply with
  | refused code => exact absurd rfl (hAccepted code)
  | failed code | taken | response r =>
    cases o <;> simp only [World.handle, World.call, World.enter, World.give, h] <;> rfl

theorem handle_of_refused {r : OutgoingRequest} {o : Option Options} {code : ErrorCode}
    {replies : List Reply} (h : w.replies = .refused code :: replies) :
    w.handle r o = (.error code, { w.handOver r o with replies }) := by
  cases o <;> simp only [World.handle, World.call, World.enter, World.give, h] <;> rfl

theorem handle_of_nil {r : OutgoingRequest} {o : Option Options} (h : w.replies = []) :
    w.handle r o = (.error (.internalError (some "no reply queued")), w.handOver r o) := by
  cases o <;> simp only [World.handle, World.call, World.enter, World.give, h] <;>
    simp [World.handOver, World.call, World.enter, World.give, h]

end BufferedHttp.Component
