import BufferedHttp.Host.Script
import BufferedHttp.Memory.Recording
import BufferedHttp.Text.Basic

/-!
# Resources of a host in memory

What the resources hold and what they do. A body is given out once, and so are the stream of a
body and the reply of a future. A fault makes a call fail that would succeed otherwise; such a call
leaves its resource as it is and records nothing.
-/

namespace BufferedHttp.Memory

structure IncomingBody where
  script : Script
  streamTaken : Bool
  streamFault : Option String

structure InputStream where
  script : Script

structure IncomingRequest where
  method : Method
  path : Option String
  headers : FieldList
  script : Script
  consumed : Bool
  streamFault : Option String

structure IncomingResponse where
  status : UInt16
  headers : FieldList
  script : Script
  consumed : Bool

inductive Reply where
  | transport (message : String)
  | response (r : IncomingResponse)

structure Future where
  /-- The reply, until it is taken. -/
  reply : Option Reply
  /-- How often blocking is still needed. -/
  pending : Nat

/-- Calls that are to fail while a response is delivered. -/
structure Faults where
  newResponse : Option String
  status : Option String
  body : Option String
  stream : Option String
  writes : WriteFaults
  finish : Option String

def Faults.none : Faults := ⟨.none, .none, .none, .none, .none, .none⟩

structure Outparam where
  /-- The message of every write, when all writes fail. -/
  writeFailure : Option String
  rejected : List String
  faults : Faults

structure OutgoingResponse where
  headers : FieldList
  status : UInt16
  bodyTaken : Bool
  writeFailure : Option String
  faults : Faults

structure OutgoingBody where
  streamTaken : Bool
  writeFailure : Option String
  faults : Faults

structure OutputStream where
  writeFailure : Option String
  faults : Faults
  /-- The writes asked for so far. -/
  calls : Nat

structure World where
  recording : Recording
  replies : List Reply
  /-- How often a future needs blocking. -/
  pending : Nat

def World.record (w : World) (e : Event) : World := { w with recording := w.recording.add e }

namespace IncomingBody

def ofScript (script : Script) : IncomingBody := ⟨script, false, none⟩

def stream (b : IncomingBody) : Except Error (InputStream × IncomingBody) :=
  match b.streamFault with
  | some message => .error (.body message)
  | none =>
    if b.streamTaken then .error (.body "input stream already taken")
    else .ok (⟨b.script⟩, { b with streamTaken := true })

end IncomingBody

namespace InputStream

/-- Reads at most so many bytes; a read that gives bytes is recorded. -/
def read (s : InputStream) (n : Nat) (w : World) :
    Except StreamError Bytes × InputStream × World :=
  match s.script.read n with
  | (.ok bytes, rest) => (.ok bytes, ⟨rest⟩, w.record (.read bytes.length))
  | (.error e, rest) => (.error e, ⟨rest⟩, w)

end InputStream

namespace IncomingRequest

def consume (r : IncomingRequest) : Except Error (IncomingBody × IncomingRequest) :=
  if r.consumed then .error (.body "request body already consumed")
  else .ok ({ IncomingBody.ofScript r.script with streamFault := r.streamFault },
    { r with consumed := true })

end IncomingRequest

namespace IncomingResponse

def consume (r : IncomingResponse) : Except Error (IncomingBody × IncomingResponse) :=
  if r.consumed then .error (.body "response body already consumed")
  else .ok (.ofScript r.script, { r with consumed := true })

end IncomingResponse

namespace Outparam

def isRejected (o : Outparam) (name : String) : Bool :=
  o.rejected.any fun rejected => Text.equalFolded rejected name

def newResponse (o : Outparam) (headers : FieldList) : Except Error OutgoingResponse :=
  match o.faults.newResponse with
  | some message => .error (.header message)
  | none =>
    match headers.find? fun field => o.isRejected field.1 with
    | some (name, _) => .error (.header ("forbidden header `" ++ name ++ "`"))
    | none => .ok ⟨headers, 200, false, o.writeFailure, o.faults⟩

end Outparam

namespace OutgoingResponse

def setStatus (r : OutgoingResponse) (status : UInt16) (w : World) :
    Except Error OutgoingResponse × World :=
  match r.faults.status with
  | some message => (.error (.host message), w)
  | none =>
    if 100 ≤ status ∧ status ≤ 999 then
      (.ok { r with status }, w.record (.statusSet status))
    else (.error (.host s!"invalid status code {status}"), w)

def body (r : OutgoingResponse) : Except Error (OutgoingBody × OutgoingResponse) :=
  match r.faults.body with
  | some message => .error (.body message)
  | none =>
    if r.bodyTaken then .error (.body "response body already taken")
    else .ok (⟨false, r.writeFailure, r.faults⟩, { r with bodyTaken := true })

end OutgoingResponse

namespace OutgoingBody

def stream (b : OutgoingBody) : Except Error (OutputStream × OutgoingBody) :=
  match b.faults.stream with
  | some message => .error (.body message)
  | none =>
    if b.streamTaken then .error (.body "output stream already taken")
    else .ok (⟨b.writeFailure, b.faults, 0⟩, { b with streamTaken := true })

def finish (b : OutgoingBody) (w : World) : Except Error Unit × World :=
  match b.faults.finish with
  | some message => (.error (.host message), w)
  | none => (.ok (), w.record .outgoingBodyFinished)

end OutgoingBody

namespace OutputStream

def failure? (s : OutputStream) (bytes : Bytes) : Option StreamError :=
  match s.faults.writes.at? s.calls, s.writeFailure with
  | some e, _ => some e
  | none, some message => some (.failed message)
  | none, none =>
    if maxWriteSize < bytes.length then
      some (.failed s!"write of {bytes.length} bytes exceeds the permitted {maxWriteSize}")
    else none

def write (s : OutputStream) (bytes : Bytes) (w : World) :
    Except StreamError Unit × OutputStream × World :=
  let next := { s with calls := s.calls + 1 }
  match s.failure? bytes with
  | some e => (.error e, next, w)
  | none => (.ok (), next, { w with recording := w.recording.addWrite bytes })

end OutputStream

namespace World

def resolve (w : World) (r : OutgoingResponse) : World :=
  { w with recording := w.recording.addResponse r.status r.headers }

def reject (w : World) (message : String) : World :=
  { w with recording := w.recording.addFailure message }

/-- Takes a request, and the next reply for it. -/
def handle (w : World) (head : RequestHead) (options : Option RequestOptions) :
    Except Error Future × World :=
  let recording := w.recording.addSent head options
  match w.replies with
  | [] => (.error (.host "no reply queued"), { w with recording })
  | reply :: replies => (.ok ⟨some reply, w.pending⟩, { w with recording, replies })

end World

namespace Future

/-- The outcome, `none` while it is pending. An outcome is given once. -/
def poll (f : Future) : Option (Except Error IncomingResponse) × Future :=
  if 0 < f.pending then (none, f)
  else match f.reply with
    | none => (some (.error .responseAlreadyTaken), f)
    | some (.transport message) => (some (.error (.transport message)), { f with reply := none })
    | some (.response r) => (some (.ok r), { f with reply := none })

def block (f : Future) : Future := { f with pending := f.pending - 1 }

end Future

end BufferedHttp.Memory
