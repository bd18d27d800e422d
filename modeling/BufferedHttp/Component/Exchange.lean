import BufferedHttp.Component.Incoming

/-!
# How a component asks

An outgoing request with its options, the call that hands it to the host, and the future of its
response.
-/

namespace BufferedHttp.Component

structure OutgoingRequest where
  handle : Handle
  headers : FieldList
  method : Method
  scheme : Option Scheme
  authority : Option String
  path : Option String

structure Options where
  handle : Handle
  timeouts : Timeouts

structure Future where
  handle : Handle
  reply : Reply
  /-- How often blocking is still needed. -/
  pending : Nat

structure Pollable where
  handle : Handle

namespace World

def newOptions (w : World) : Options × World :=
  let (handle, w) := (w.call .newOptions).obtain .requestOptions none
  (⟨handle, ⟨none, none, none⟩⟩, w)

def newRequest (w : World) (f : Fields) : OutgoingRequest × World :=
  let (handle, w) := ((w.call .newRequest).give f.handle).obtain .outgoingRequest none
  (⟨handle, f.entries, .get, none, none, none⟩, w)

/-- A call of a setter, `none` when it is refused. -/
def set (w : World) (c : Call) (s : Setter) (changed : α) : Option α × World :=
  (if s ∈ w.refused then none else some changed, w.call c)

def setConnectTimeout (w : World) (o : Options) (n : UInt64) : Option Options × World :=
  w.set .setConnectTimeout .connect
    { o with timeouts := { o.timeouts with connect := some n } }

def setFirstByteTimeout (w : World) (o : Options) (n : UInt64) : Option Options × World :=
  w.set .setFirstByteTimeout .firstByte
    { o with timeouts := { o.timeouts with firstByte := some n } }

def setBetweenBytesTimeout (w : World) (o : Options) (n : UInt64) : Option Options × World :=
  w.set .setBetweenBytesTimeout .betweenBytes
    { o with timeouts := { o.timeouts with betweenBytes := some n } }

def setMethod (w : World) (r : OutgoingRequest) (m : Method) : Option OutgoingRequest × World :=
  w.set .setMethod .method { r with method := m }

def setScheme (w : World) (r : OutgoingRequest) (s : Scheme) : Option OutgoingRequest × World :=
  w.set .setScheme .scheme { r with scheme := some s }

def setAuthority (w : World) (r : OutgoingRequest) (a : String) :
    Option OutgoingRequest × World :=
  w.set .setAuthority .authority { r with authority := some a }

def setPathWithQuery (w : World) (r : OutgoingRequest) (p : String) :
    Option OutgoingRequest × World :=
  w.set .setPathWithQuery .path { r with path := some p }

def sentOf (r : OutgoingRequest) (o : Option Options) : Sent :=
  ⟨r.method, r.scheme, r.authority, r.path, r.headers, o.map Options.timeouts⟩

/-- Hands a request to the host, and its options if there are any. -/
def handle (w : World) (r : OutgoingRequest) (o : Option Options) :
    Except ErrorCode Future × World :=
  let w := (w.call .handle).give r.handle
  let w := match o with
    | some o => w.give o.handle
    | none => w
  let w := { w with sent := w.sent ++ [sentOf r o] }
  match w.replies with
  | [] => (.error (.internalError (some "no reply queued")), w)
  | .refused code :: replies => (.error code, { w with replies })
  | reply :: replies =>
    let (handle, w) := { w with replies }.obtain .futureIncomingResponse none
    (.ok ⟨handle, reply, w.pending⟩, w)

def subscribe (w : World) (f : Future) : Pollable × World :=
  let (handle, w) := (w.call .subscribe).obtain .pollable f.handle
  (⟨handle⟩, w)

/-- What a future gives: a note that its outcome was taken, an error or a response. -/
inductive Outcome where
  | taken
  | failed (code : ErrorCode)
  | response (r : IncomingResponse)

/-- The outcome of a future, `none` while it is pending. An outcome is given once. -/
def get (w : World) (f : Future) : Option Outcome × Future × World :=
  let w := w.call .get
  if 0 < f.pending then (none, f, w)
  else
    let emptied := { f with reply := .taken }
    match f.reply with
    | .response r =>
      let (handle, w) := w.obtain .incomingResponse none
      (some (.response ⟨handle, r⟩), emptied, w)
    | .taken => (some .taken, emptied, w)
    | .failed code => (some (.failed code), emptied, w)
    | .refused code => (some (.failed code), emptied, w)

def block (w : World) (_ : Pollable) (f : Future) : Future × World :=
  ({ f with pending := f.pending - 1 }, w.call .block)

end World

end BufferedHttp.Component
