import BufferedHttp.Component.ErrorCode
import BufferedHttp.Component.Ledger
import BufferedHttp.Component.Method
import BufferedHttp.Host.Script

/-!
# The state of a component host

A scripted host of the component interface. Every call is entered in its ledger, whether it
succeeds or not, and so is what becomes of handles.
-/

namespace BufferedHttp.Component

inductive Setter where
  | method
  | scheme
  | authority
  | path
  | connect
  | firstByte
  | betweenBytes
  deriving DecidableEq

/-- Fields that a host does not accept: those of a name, in any case, those of a value, or all that
are in one of the lists, which are counted from 0. -/
inductive FieldRule where
  | name (name : String)
  | value (bytes : Bytes)
  | list (k : Nat)
  deriving DecidableEq

structure ResponseScript where
  status : UInt16
  headers : FieldList
  script : Script
  consumed : Bool
  streamTaken : Bool

inductive Reply where
  | refused (code : ErrorCode)
  | failed (code : ErrorCode)
  /-- The response was taken by someone else. -/
  | taken
  | response (r : ResponseScript)

/-- Calls that are to fail while a response is delivered. -/
structure Plan where
  statusRefused : Bool
  bodyTaken : Bool
  streamTaken : Bool
  writes : WriteFaults
  finishError : Option ErrorCode

def Plan.none : Plan := ⟨false, false, false, .none, .none⟩

/-- Timeouts in nanoseconds. -/
structure Timeouts where
  connect : Option UInt64
  firstByte : Option UInt64
  betweenBytes : Option UInt64
  deriving DecidableEq

/-- An outgoing request as the host got it. -/
structure Sent where
  method : Method
  scheme : Option Scheme
  authority : Option String
  path : Option String
  headers : FieldList
  timeouts : Option Timeouts
  deriving DecidableEq

structure Delivered where
  status : UInt16
  headers : FieldList
  deriving DecidableEq

structure World where
  ledger : List Entry
  nextId : Nat
  sent : List Sent
  answers : List (Except ErrorCode Delivered)
  body : Bytes
  replies : List Reply
  /-- How often a future needs blocking. -/
  pending : Nat
  /-- How many lists of fields the host was given. -/
  fieldLists : Nat
  forbidden : List FieldRule
  invalid : List FieldRule
  refused : List Setter

namespace World

def enter (w : World) (e : Entry) : World := { w with ledger := w.ledger ++ [e] }

def call (w : World) (c : Call) : World := w.enter (.call c)

def obtain (w : World) (kind : Kind) (owner : Option Handle) : Handle × World :=
  (⟨kind, w.nextId⟩, { w.enter (.obtained ⟨kind, w.nextId⟩ owner) with nextId := w.nextId + 1 })

def release (w : World) (h : Handle) : World := w.enter (.released h)

def give (w : World) (h : Handle) : World := w.enter (.given h)

/-- The calls and releases that a trace shows. -/
def trace (w : World) : List String := w.ledger.filterMap Entry.text?

/-- The world with the entries of an earlier one left out of its lists. -/
def since (w earlier : World) : World :=
  { w with
    ledger := w.ledger.drop earlier.ledger.length
    sent := w.sent.drop earlier.sent.length
    answers := w.answers.drop earlier.answers.length
    body := w.body.drop earlier.body.length }

end World

end BufferedHttp.Component
