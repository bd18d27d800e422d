import BufferedHttp.Component.Incoming

/-!
# How a component answers

The out-parameter of a request, the response that it takes, and the body of the response. The
out-parameter knows which calls on its response are to fail; what was taken once cannot be taken
again.
-/

namespace BufferedHttp.Component

structure Outparam where
  handle : Handle
  plan : Plan

structure OutgoingResponse where
  handle : Handle
  headers : FieldList
  status : UInt16
  plan : Plan

def OutgoingResponse.delivered (r : OutgoingResponse) : Delivered := ⟨r.status, r.headers⟩

structure OutgoingBody where
  handle : Handle
  plan : Plan

structure OutputStream where
  handle : Handle
  plan : Plan
  /-- The writes asked for so far. -/
  calls : Nat

namespace World

def newResponse (w : World) (f : Fields) (plan : Plan) : OutgoingResponse × World :=
  let (handle, w) := ((w.call .newResponse).give f.handle).obtain .outgoingResponse none
  (⟨handle, f.entries, 200, plan⟩, w)

/-- Sets a status of three digits, `none` when it is refused. -/
def setStatusCode (w : World) (r : OutgoingResponse) (status : UInt16) :
    Option OutgoingResponse × World :=
  let w := w.call (.setStatusCode status)
  if 100 ≤ status ∧ status ≤ 999 ∧ !r.plan.statusRefused then (some { r with status }, w)
  else (none, w)

def responseBody (w : World) (r : OutgoingResponse) :
    Option (OutgoingBody × OutgoingResponse) × World :=
  let w := w.call .responseBody
  if r.plan.bodyTaken then (none, w)
  else
    let (handle, w) := w.obtain .outgoingBody r.handle
    (some (⟨handle, r.plan⟩, { r with plan := { r.plan with bodyTaken := true } }), w)

def bodyWrite (w : World) (b : OutgoingBody) : Option (OutputStream × OutgoingBody) × World :=
  let w := w.call .outgoingBodyWrite
  if b.plan.streamTaken then (none, w)
  else
    let (handle, w) := w.obtain .outputStream b.handle
    (some (⟨handle, b.plan, 0⟩, { b with plan := { b.plan with streamTaken := true } }), w)

def blockingWriteAndFlush (w : World) (s : OutputStream) (bytes : Bytes) :
    Except StreamFault Unit × OutputStream × World :=
  let w := w.call (.blockingWriteAndFlush bytes.length)
  let next := { s with calls := s.calls + 1 }
  match s.plan.writes.at? s.calls with
  | some e =>
    let (fault, w) := w.streamFault e
    (.error fault, next, w)
  | none => (.ok (), next, { w with body := w.body ++ bytes })

def outgoingBodyFinish (w : World) (b : OutgoingBody) : Except ErrorCode Unit × World :=
  let w := (w.call .outgoingBodyFinish).give b.handle
  match b.plan.finishError with
  | some code => (.error code, w)
  | none => (.ok (), w)

/-- Answers an out-parameter, which takes the response that it gets. -/
def outparamSet (w : World) (out : Outparam) (answer : Except ErrorCode OutgoingResponse) :
    World :=
  let w := w.call .outparamSet
  let w := match answer with
    | .ok r => w.give r.handle
    | .error _ => w
  let w := { w with answers := w.answers ++ [answer.map OutgoingResponse.delivered] }
  w.give out.handle

/-- A request that comes in, with the place for its answer. -/
def arrive (w : World) (request : Handle → IncomingRequest) (plan : Plan) :
    IncomingRequest × Outparam × World :=
  let (r, w) := w.obtain .incomingRequest none
  let (o, w) := w.obtain .responseOutparam none
  (request r, ⟨o, plan⟩, w)

end World

end BufferedHttp.Component
