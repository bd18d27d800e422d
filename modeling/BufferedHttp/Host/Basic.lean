import BufferedHttp.Config
import BufferedHttp.Host.Action
import BufferedHttp.Message.Head

/-!
# Hosts

A host keeps its state in a world and hands out resources as values: an operation that changes a
resource returns the changed one, also when what it changes is only that something was taken from
it, and a resource that is no longer needed is dropped by an operation of its own. Which resource
it is does not change, so one that is dropped where it was made is dropped as it was then. A stream
comes from a body, a body from a request or a response, a pollable from a future, and a host may
demand that what came from a resource is dropped before it.

Two laws make waiting end: a read of at least one byte leaves less to read, and blocking on a
future that was not ready leaves less to wait for.
-/

namespace BufferedHttp

/-- What a stream reports instead of doing its work. -/
inductive StreamError where
  | closed
  | failed (message : String)
  deriving DecidableEq

/-- What a host can be asked to do. -/
structure Operations (World : Type) where
  IncomingBody : Type
  InputStream : Type
  openInput : IncomingBody → Action World (InputStream × IncomingBody)
  read : InputStream → Nat → World → Except StreamError Bytes × InputStream × World
  dropInput : InputStream → World → World
  /-- Gives the body back when it has been read; trailers are not looked at. -/
  finishIncoming : IncomingBody → World → World
  dropIncoming : IncomingBody → World → World
  IncomingRequest : Type
  requestMethod : IncomingRequest → World → Method × World
  requestPath : IncomingRequest → World → Option String × World
  requestHeaders : IncomingRequest → World → FieldList × World
  consumeRequest : IncomingRequest → Action World (IncomingBody × IncomingRequest)
  dropRequest : IncomingRequest → World → World
  /-- The place for the answer to a request. It takes one answer. -/
  Outparam : Type
  OutgoingResponse : Type
  OutgoingBody : Type
  OutputStream : Type
  newResponse : Outparam → FieldList → Action World OutgoingResponse
  setStatus : OutgoingResponse → UInt16 → Action World OutgoingResponse
  takeBody : OutgoingResponse → Action World (OutgoingBody × OutgoingResponse)
  dropResponse : OutgoingResponse → World → World
  resolve : Outparam → OutgoingResponse → World → World
  reject : Outparam → String → World → World
  openOutput : OutgoingBody → Action World (OutputStream × OutgoingBody)
  /-- Writes bytes and waits until they are out. -/
  write : OutputStream → Bytes → World → Except StreamError Unit × OutputStream × World
  dropOutput : OutputStream → World → World
  finishOutgoing : OutgoingBody → Action World Unit
  dropOutgoing : OutgoingBody → World → World
  /-- A response that may not be there yet. -/
  Future : Type
  Pollable : Type
  IncomingResponse : Type
  handle : RequestHead → Option RequestOptions → Action World Future
  subscribe : Future → World → Pollable × World
  /-- The outcome of a future, `none` while there is none. -/
  poll : Future → World → Option (Except Error IncomingResponse) × Future × World
  block : Pollable → Future → World → Future × World
  dropPollable : Pollable → World → World
  dropFuture : Future → World → World
  responseStatus : IncomingResponse → World → UInt16 × World
  responseHeaders : IncomingResponse → World → FieldList × World
  consumeResponse : IncomingResponse → Action World (IncomingBody × IncomingResponse)
  dropIncomingResponse : IncomingResponse → World → World

structure Host (World : Type) extends Operations World where
  /-- A bound on the reads that a stream still answers. -/
  unread : InputStream → Nat
  unread_read : ∀ {s n w bytes s' w'}, 0 < n → read s n w = (.ok bytes, s', w') →
    unread s' < unread s
  /-- A bound on the blocking that a future still needs. -/
  waits : Future → Nat
  waits_block : ∀ {p f f' w w'}, poll f w = (none, f', w') → waits (block p f' w').1 < waits f

end BufferedHttp
