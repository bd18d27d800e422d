/-!
# The ledger of a component host

Every resource that a component holds has a handle. The ledger keeps, in order, the calls that the
component makes and what becomes of handles: a handle is obtained from the host, and later
released, or given to the host by a call that takes it.
-/

namespace BufferedHttp.Component

inductive Kind where
  | fields
  | incomingRequest
  | incomingResponse
  | incomingBody
  | inputStream
  | futureTrailers
  | responseOutparam
  | outgoingResponse
  | outgoingBody
  | outputStream
  | requestOptions
  | outgoingRequest
  | futureIncomingResponse
  | pollable
  | ioError
  deriving DecidableEq

structure Handle where
  kind : Kind
  id : Nat
  deriving DecidableEq

inductive Call where
  | requestMethod
  | requestPath
  | requestHeaders
  | requestConsume
  | responseStatus
  | responseHeaders
  | responseConsume
  | fieldsEntries
  | fieldsFromList
  | incomingBodyStream
  | incomingBodyFinish
  | blockingRead (length : Nat)
  | errorToDebugString
  | newResponse
  | setStatusCode (status : UInt16)
  | responseBody
  | outgoingBodyWrite
  | blockingWriteAndFlush (length : Nat)
  | outgoingBodyFinish
  | outparamSet
  | newOptions
  | setConnectTimeout
  | setFirstByteTimeout
  | setBetweenBytesTimeout
  | newRequest
  | setMethod
  | setScheme
  | setAuthority
  | setPathWithQuery
  | handle
  | subscribe
  | get
  | block
  deriving DecidableEq

def Call.text : Call → String
  | requestMethod => "incoming-request.method"
  | requestPath => "incoming-request.path-with-query"
  | requestHeaders => "incoming-request.headers"
  | requestConsume => "incoming-request.consume"
  | responseStatus => "incoming-response.status"
  | responseHeaders => "incoming-response.headers"
  | responseConsume => "incoming-response.consume"
  | fieldsEntries => "fields.entries"
  | fieldsFromList => "fields.from-list"
  | incomingBodyStream => "incoming-body.stream"
  | incomingBodyFinish => "incoming-body.finish"
  | blockingRead n => s!"input-stream.blocking-read({n})"
  | errorToDebugString => "error.to-debug-string"
  | newResponse => "outgoing-response.new"
  | setStatusCode status => s!"outgoing-response.set-status-code({status})"
  | responseBody => "outgoing-response.body"
  | outgoingBodyWrite => "outgoing-body.write"
  | blockingWriteAndFlush n => s!"output-stream.blocking-write-and-flush({n})"
  | outgoingBodyFinish => "outgoing-body.finish(none)"
  | outparamSet => "response-outparam.set"
  | newOptions => "request-options.new"
  | setConnectTimeout => "request-options.set-connect-timeout"
  | setFirstByteTimeout => "request-options.set-first-byte-timeout"
  | setBetweenBytesTimeout => "request-options.set-between-bytes-timeout"
  | newRequest => "outgoing-request.new"
  | setMethod => "outgoing-request.set-method"
  | setScheme => "outgoing-request.set-scheme"
  | setAuthority => "outgoing-request.set-authority"
  | setPathWithQuery => "outgoing-request.set-path-with-query"
  | handle => "outgoing-handler.handle"
  | subscribe => "future-incoming-response.subscribe"
  | get => "future-incoming-response.get"
  | block => "pollable.block"

inductive Entry where
  | call (c : Call)
  /-- A handle from the host, and the one it came from. -/
  | obtained (handle : Handle) (owner : Option Handle)
  | released (handle : Handle)
  | given (handle : Handle)
  deriving DecidableEq

namespace Entry

/-- What a trace shows of a released handle: streams, pollables and futures. -/
def releaseText? : Kind → Option String
  | .inputStream => some "input-stream.drop"
  | .outputStream => some "output-stream.drop"
  | .pollable => some "pollable.drop"
  | .futureIncomingResponse => some "future-incoming-response.drop"
  | _ => none

def text? : Entry → Option String
  | call c => some c.text
  | released h => releaseText? h.kind
  | _ => none

end Entry

end BufferedHttp.Component
