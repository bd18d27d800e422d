import BufferedHttp.Component.World
import BufferedHttp.Text.Basic

/-!
# What a component reads

Fields, bodies with their streams, and the requests and responses that they come from. A body is
given out once, and so is the stream of a body.
-/

namespace BufferedHttp.Component

/-- A failure of a stream that the host can describe. -/
structure IoError where
  handle : Handle
  message : String

inductive StreamFault where
  | closed
  | failed (error : IoError)

namespace World

def streamFault (w : World) : StreamError → StreamFault × World
  | .closed => (.closed, w)
  | .failed message =>
    let (handle, w) := w.obtain .ioError none
    (.failed ⟨handle, message⟩, w)

def toDebugString (w : World) (e : IoError) : String × World :=
  (e.message, w.call .errorToDebugString)

end World

structure Fields where
  handle : Handle
  entries : FieldList

def FieldRule.applies (k : Nat) (field : String × Bytes) : FieldRule → Bool
  | name n => Text.equalFolded field.1 n
  | value bytes => field.2 = bytes
  | list n => k = n

namespace World

/-- What the host has against a field of the list that it is given next. -/
def fieldError? (w : World) (field : String × Bytes) : Option HeaderError :=
  if w.invalid.any (FieldRule.applies w.fieldLists field) then some .invalidSyntax
  else if w.forbidden.any (FieldRule.applies w.fieldLists field) then some .forbidden
  else none

/-- The world in which the host was given one more list of fields. -/
def listed (w : World) : World :=
  { w.call .fieldsFromList with fieldLists := w.fieldLists + 1 }

/-- Makes a resource of a list of fields; the first that is not accepted decides. -/
def fieldsFromList (w : World) (fields : FieldList) : Except HeaderError Fields × World :=
  match fields.findSome? w.fieldError? with
  | some e => (.error e, w.listed)
  | none =>
    let (handle, w) := w.listed.obtain .fields none
    (.ok ⟨handle, fields⟩, w)

def fieldsEntries (w : World) (f : Fields) : FieldList × World :=
  (f.entries, w.call .fieldsEntries)

end World

structure IncomingBody where
  handle : Handle
  script : Script
  streamTaken : Bool

structure InputStream where
  handle : Handle
  script : Script

namespace World

def bodyStream (w : World) (b : IncomingBody) : Option (InputStream × IncomingBody) × World :=
  let w := w.call .incomingBodyStream
  if b.streamTaken then (none, w)
  else
    let (handle, w) := w.obtain .inputStream b.handle
    (some (⟨handle, b.script⟩, { b with streamTaken := true }), w)

def blockingRead (w : World) (s : InputStream) (n : Nat) :
    Except StreamFault Bytes × InputStream × World :=
  let w := w.call (.blockingRead n)
  match s.script.read n with
  | (.ok bytes, rest) => (.ok bytes, { s with script := rest }, w)
  | (.error e, rest) =>
    let (fault, w) := w.streamFault e
    (.error fault, { s with script := rest }, w)

def bodyFinish (w : World) (b : IncomingBody) : Handle × World :=
  ((w.call .incomingBodyFinish).give b.handle).obtain .futureTrailers none

end World

structure IncomingRequest where
  handle : Handle
  method : Method
  path : Option String
  headers : FieldList
  script : Script
  consumed : Bool
  streamTaken : Bool

namespace World

def requestMethod (w : World) (r : IncomingRequest) : Method × World :=
  (r.method, w.call .requestMethod)

def requestPath (w : World) (r : IncomingRequest) : Option String × World :=
  (r.path, w.call .requestPath)

def requestHeaders (w : World) (r : IncomingRequest) : Fields × World :=
  let (handle, w) := (w.call .requestHeaders).obtain .fields r.handle
  (⟨handle, r.headers⟩, w)

def requestConsume (w : World) (r : IncomingRequest) :
    Option (IncomingBody × IncomingRequest) × World :=
  let w := w.call .requestConsume
  if r.consumed then (none, w)
  else
    let (handle, w) := w.obtain .incomingBody r.handle
    (some (⟨handle, r.script, r.streamTaken⟩, { r with consumed := true }), w)

end World

structure IncomingResponse where
  handle : Handle
  content : ResponseScript

namespace World

def responseStatus (w : World) (r : IncomingResponse) : UInt16 × World :=
  (r.content.status, w.call .responseStatus)

def responseHeaders (w : World) (r : IncomingResponse) : Fields × World :=
  let (handle, w) := (w.call .responseHeaders).obtain .fields r.handle
  (⟨handle, r.content.headers⟩, w)

def responseConsume (w : World) (r : IncomingResponse) :
    Option (IncomingBody × IncomingResponse) × World :=
  let w := w.call .responseConsume
  if r.content.consumed then (none, w)
  else
    let (handle, w) := w.obtain .incomingBody r.handle
    (some (⟨handle, r.content.script, r.content.streamTaken⟩,
      { r with content := { r.content with consumed := true } }), w)

end World

end BufferedHttp.Component
