import BufferedHttp.Config
import BufferedHttp.Message.Head

/-!
# What a host in memory records

The recording keeps every effect in order, and with it the totals that they add up to.
-/

namespace BufferedHttp.Memory

inductive Event where
  | read (length : Nat)
  | inputStreamDropped
  | incomingBodyFinished
  | statusSet (status : UInt16)
  | outparamSet
  | outparamFailed
  | write (length : Nat)
  | outputStreamDropped
  | outgoingBodyFinished
  | requestSent
  | blocked
  | pollableDropped
  | futureDropped
  deriving DecidableEq

def Event.text : Event → String
  | read n => s!"Read({n})"
  | inputStreamDropped => "InputStreamDropped"
  | incomingBodyFinished => "IncomingBodyFinished"
  | statusSet status => s!"StatusSet({status})"
  | outparamSet => "OutparamSet"
  | outparamFailed => "OutparamFailed"
  | write n => s!"Write({n})"
  | outputStreamDropped => "OutputStreamDropped"
  | outgoingBodyFinished => "OutgoingBodyFinished"
  | requestSent => "RequestSent"
  | blocked => "Blocked"
  | pollableDropped => "PollableDropped"
  | futureDropped => "FutureDropped"

structure Recording where
  events : List Event
  /-- How often an out-parameter was resolved, either way. -/
  resolutions : Nat
  /-- The message of the last out-parameter that got an error. -/
  failure : Option String
  /-- The status of the last response that an out-parameter got. -/
  status : Option UInt16
  headers : FieldList
  body : Bytes
  writes : List Nat
  sent : List (RequestHead × Option RequestOptions)

namespace Recording

def empty : Recording := ⟨[], 0, none, none, [], [], [], []⟩

def add (r : Recording) (e : Event) : Recording := { r with events := r.events ++ [e] }

def addWrite (r : Recording) (bytes : Bytes) : Recording :=
  { r.add (.write bytes.length) with
    writes := r.writes ++ [bytes.length]
    body := r.body ++ bytes }

def addSent (r : Recording) (head : RequestHead) (options : Option RequestOptions) : Recording :=
  { r.add .requestSent with sent := r.sent ++ [(head, options)] }

def addResponse (r : Recording) (status : UInt16) (headers : FieldList) : Recording :=
  { r.add .outparamSet with
    resolutions := r.resolutions + 1
    status := some status
    headers }

def addFailure (r : Recording) (message : String) : Recording :=
  { r.add .outparamFailed with
    resolutions := r.resolutions + 1
    failure := some message }

@[simp] theorem events_add (r : Recording) (e : Event) : (r.add e).events = r.events ++ [e] := rfl

/-- The recording with the entries of an earlier one left out of its lists; totals stay. -/
def since (r earlier : Recording) : Recording :=
  { r with
    events := r.events.drop earlier.events.length
    writes := r.writes.drop earlier.writes.length
    sent := r.sent.drop earlier.sent.length }

end Recording

end BufferedHttp.Memory
