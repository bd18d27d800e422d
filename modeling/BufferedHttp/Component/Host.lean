import BufferedHttp.Component.Answer
import BufferedHttp.Component.Exchange

/-!
# The component interface as a host

Each operation of a host is one call of the component interface or a few of them. A handle that an
operation obtains for its own use it releases before it ends; what a call refuses becomes an error
that names it.
-/

namespace BufferedHttp.Component

/-- A call that may refuse, with the error for that. -/
def accepted (e : Error) (call : World → Option α × World) : Action World α :=
  .ofCall fun w =>
    match call w with
    | (some a, w) => (.ok a, w)
    | (none, w) => (.error e, w)

def described (fault : StreamFault) (w : World) : StreamError × World :=
  match fault with
  | .closed => (.closed, w)
  | .failed e =>
    let (message, w) := w.toDebugString e
    (.failed message, w.release e.handle)

def describedResult (call : Except StreamFault α × σ × World) :
    Except StreamError α × σ × World :=
  match call with
  | (.ok a, s, w) => (.ok a, s, w)
  | (.error fault, s, w) =>
    let (e, w) := described fault w
    (.error e, s, w)

/-- The entries of fields that are needed for nothing else. -/
def entriesOf (call : Fields × World) : FieldList × World :=
  let (fields, w) := call
  let (entries, w) := w.fieldsEntries fields
  (entries, w.release fields.handle)

def newFields (fields : FieldList) : Action World Fields :=
  .ofCall fun w =>
    match w.fieldsFromList fields with
    | (.ok f, w) => (.ok f, w)
    | (.error e, w) => (.error (.header e.text), w)

def setTimeout (name : String) (set : World → Options → UInt64 → Option Options × World)
    (o : Options) : Option Duration → Action World Options
  | none => return o
  | some d =>
    accepted (.host (name ++ " timeout not supported by host")) fun w => set w o d.toNanoseconds

def newOptions (options : RequestOptions) : Action World Options := do
  let o ← modifyGet World.newOptions
  Action.onFailure (fun w => w.release o.handle) do
    let o ← setTimeout "connect" World.setConnectTimeout o options.connect
    let o ← setTimeout "first-byte" World.setFirstByteTimeout o options.firstByte
    setTimeout "between-bytes" World.setBetweenBytesTimeout o options.betweenBytes

/-- The error of a part of a request that the host does not take. -/
def rejected (part value : String) : Error := .host (part ++ " `" ++ value ++ "` rejected")

def fillRequest (r : OutgoingRequest) (head : RequestHead) : Action World OutgoingRequest := do
  let r ← accepted (rejected "method" head.method.name) fun w =>
    w.setMethod r (.ofMessage head.method)
  let r ← accepted (rejected "scheme" head.scheme.name) fun w =>
    w.setScheme r (.ofMessage head.scheme)
  let r ← accepted (rejected "authority" head.authority) fun w => w.setAuthority r head.authority
  accepted (rejected "path" head.pathWithQuery) fun w => w.setPathWithQuery r head.pathWithQuery

def newOptions? : Option RequestOptions → Action World (Option Options)
  | none => return none
  | some options => do return some (← newOptions options)

def handleRequest (head : RequestHead) (options : Option RequestOptions) :
    Action World Future := do
  let fields ← newFields head.headers
  let r ← modifyGet fun w => w.newRequest fields
  let (r, o) ← Action.onFailure (fun w => w.release r.handle) do
    let r ← fillRequest r head
    let o ← newOptions? options
    return (r, o)
  .ofCall fun w =>
    match w.handle r o with
    | (.ok f, w) => (.ok f, w)
    | (.error code, w) => (.error (.transport code.text), w)

def poll (f : Future) (w : World) : Option (Except Error IncomingResponse) × Future × World :=
  match w.get f with
  | (none, f, w) => (none, f, w)
  | (some .taken, f, w) => (some (.error .responseAlreadyTaken), f, w)
  | (some (.failed code), f, w) => (some (.error (.transport code.text)), f, w)
  | (some (.response r), f, w) => (some (.ok r), f, w)

theorem poll_of_pending {f : Future} (h : 0 < f.pending) (w : World) :
    poll f w = (none, f, w.call .get) := by
  simp only [poll, World.get, if_pos h]

/-- Only a future that needs blocking has no outcome, and it stays as it is. -/
theorem pending_of_poll {f f' : Future} {w w' : World} (h : poll f w = (none, f', w')) :
    0 < f.pending ∧ f' = f ∧ w' = w.call .get := by
  by_cases hPending : 0 < f.pending
  · rw [poll_of_pending hPending] at h
    obtain ⟨-, rfl, rfl⟩ := h
    exact ⟨hPending, rfl, rfl⟩
  · simp only [poll, World.get, if_neg hPending] at h
    cases hReply : f.reply <;> simp [hReply] at h

theorem size_lt_of_blockingRead {s s' : InputStream} {n : Nat} {w w' : World} {bytes : Bytes}
    (pos : 0 < n) (h : describedResult (w.blockingRead s n) = (.ok bytes, s', w')) :
    s'.script.size < s.script.size := by
  unfold describedResult World.blockingRead at h
  split at h
  · rename_i heq
    split at heq
    · rename_i hread
      obtain ⟨-, heq⟩ := Prod.mk.inj heq
      obtain ⟨rfl, -⟩ := Prod.mk.inj heq
      obtain ⟨-, h⟩ := Prod.mk.inj h
      obtain ⟨rfl, -⟩ := Prod.mk.inj h
      exact Script.size_read_lt pos hread
    · simp at heq
  · simp at h

@[reducible] def host : Host World where
  IncomingBody := IncomingBody
  InputStream := InputStream
  openInput b := accepted (.body "incoming body stream already taken") fun w => w.bodyStream b
  read s n w := describedResult (w.blockingRead s n)
  dropInput s w := w.release s.handle
  finishIncoming b w :=
    let (trailers, w) := w.bodyFinish b
    w.release trailers
  dropIncoming b w := w.release b.handle
  unread s := s.script.size
  unread_read := size_lt_of_blockingRead
  IncomingRequest := IncomingRequest
  requestMethod r w :=
    let (method, w) := w.requestMethod r
    (method.toMessage, w)
  requestPath r w := w.requestPath r
  requestHeaders r w := entriesOf (w.requestHeaders r)
  consumeRequest r := accepted (.body "request body already consumed") fun w => w.requestConsume r
  dropRequest r w := w.release r.handle
  Outparam := Outparam
  OutgoingResponse := OutgoingResponse
  OutgoingBody := OutgoingBody
  OutputStream := OutputStream
  newResponse o headers := do
    let fields ← newFields headers
    modifyGet fun w => w.newResponse fields o.plan
  setStatus r status :=
    accepted (.host s!"invalid status code {status}") fun w => w.setStatusCode r status
  takeBody r := accepted (.body "response body already taken") fun w => w.responseBody r
  dropResponse r w := w.release r.handle
  resolve o r w := w.outparamSet o (.ok r)
  reject o message w := w.outparamSet o (.error (.internalError (some message)))
  openOutput b := accepted (.body "outgoing body stream already taken") fun w => w.bodyWrite b
  write s bytes w := describedResult (w.blockingWriteAndFlush s bytes)
  dropOutput s w := w.release s.handle
  finishOutgoing b := .ofCall fun w =>
    match w.outgoingBodyFinish b with
    | (.ok _, w) => (.ok (), w)
    | (.error code, w) => (.error (.host code.text), w)
  dropOutgoing b w := w.release b.handle
  Future := Future
  Pollable := Pollable
  IncomingResponse := IncomingResponse
  handle := handleRequest
  subscribe f w := w.subscribe f
  poll := poll
  block p f w := w.block p f
  dropPollable p w := w.release p.handle
  dropFuture f w := w.release f.handle
  waits f := f.pending
  waits_block := by
    intro p f f' w w' h
    obtain ⟨hPending, rfl, -⟩ := pending_of_poll h
    simp only [World.block]
    omega
  responseStatus r w := w.responseStatus r
  responseHeaders r w := entriesOf (w.responseHeaders r)
  consumeResponse r :=
    accepted (.body "response body already consumed") fun w => w.responseConsume r
  dropIncomingResponse r w := w.release r.handle

end BufferedHttp.Component
