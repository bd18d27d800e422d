import Mathlib.Data.List.Forall2
import BufferedHttp.Memory.Host
import BufferedHttp.Proofs.Component.Calls
import BufferedHttp.Proofs.Component.Method

/-!
# Matching worlds

A world of the host in memory matches one of the component host when both tell of the same deeds in
the same order, got the same answers, bytes and requests, and have the same replies still to give.
The component host has to accept every call for that: it refuses no field and no part of a request.
-/

namespace BufferedHttp

/-- What both hosts record, the one as an event and the other as a ledger entry. -/
inductive Deed where
  | inputDropped
  | bodyFinished
  | resolved
  | wrote (length : Nat)
  | outputDropped
  | outputFinished
  | sent
  | blocked
  | pollableDropped
  | futureDropped
  deriving DecidableEq

namespace Deed

def length? : Deed → Option Nat
  | wrote n => some n
  | _ => none

def ofReleased? : Component.Kind → Option Deed
  | .inputStream => some inputDropped
  | .outputStream => some outputDropped
  | .pollable => some pollableDropped
  | .futureIncomingResponse => some futureDropped
  | _ => none

end Deed

def Memory.Event.deed? : Memory.Event → Option Deed
  | read _ | statusSet _ => none
  | inputStreamDropped => some .inputDropped
  | incomingBodyFinished => some .bodyFinished
  | outparamSet | outparamFailed => some .resolved
  | write n => some (.wrote n)
  | outputStreamDropped => some .outputDropped
  | outgoingBodyFinished => some .outputFinished
  | requestSent => some .sent
  | blocked => some .blocked
  | pollableDropped => some .pollableDropped
  | futureDropped => some .futureDropped

/-- Whether an event sets an out-parameter to a response. -/
def Memory.Event.answers? : Memory.Event → Option Bool
  | outparamSet => some true
  | outparamFailed => some false
  | _ => none

namespace Component

def Entry.deed? : Entry → Option Deed
  | call .incomingBodyFinish => some .bodyFinished
  | call .outparamSet => some .resolved
  | call (.blockingWriteAndFlush n) => some (.wrote n)
  | call .outgoingBodyFinish => some .outputFinished
  | call .handle => some .sent
  | call .block => some .blocked
  | released h => Deed.ofReleased? h.kind
  | _ => none

def World.deeds (w : World) : List Deed := w.ledger.filterMap Entry.deed?

def Timeouts.ofOptions (o : RequestOptions) : Timeouts :=
  ⟨o.connect.map Duration.toNanoseconds, o.firstByte.map Duration.toNanoseconds,
    o.betweenBytes.map Duration.toNanoseconds⟩

def Sent.ofHead (head : RequestHead) (options : Option RequestOptions) : Sent :=
  ⟨.ofMessage head.method, some (.ofMessage head.scheme), some head.authority,
    some head.pathWithQuery, head.headers, options.map Timeouts.ofOptions⟩

/-- The host got a request as it was sent, with nothing left out. -/
structure SameSent (told : RequestHead × Option RequestOptions) (got : Sent) : Prop where
  method : SameMethod got.method told.1.method
  scheme : ∃ scheme, got.scheme = some scheme ∧ SameScheme scheme told.1.scheme
  authority : got.authority = some told.1.authority
  path : got.path = some told.1.pathWithQuery
  headers : got.headers = told.1.headers
  timeouts : got.timeouts = told.2.map Timeouts.ofOptions

theorem sameSent_ofHead (head : RequestHead) (options : Option RequestOptions) :
    SameSent (head, options) (.ofHead head options) where
  method := sameMethod_ofMessage head.method
  scheme := ⟨_, rfl, sameScheme_ofMessage head.scheme⟩
  authority := rfl
  path := rfl
  headers := rfl
  timeouts := rfl

/-- The reply to a request that was accepted, and its counterpart in memory. -/
inductive SameReply : Memory.Reply → Reply → Prop where
  | transport (code : ErrorCode) : SameReply (.transport code.text) (.failed code)
  | response (status : UInt16) (headers : FieldList) (script : Script) (consumed : Bool) :
      SameReply (.response ⟨status, headers, script, consumed⟩)
        (.response ⟨status, headers, script, consumed, false⟩)

def message? : Except ErrorCode Delivered → Option String
  | .error (.internalError message) => message
  | _ => none

/-- Both hosts tell of the same run. -/
structure Matched (m : Memory.World) (c : World) : Prop where
  deeds : m.recording.events.filterMap Memory.Event.deed? = c.deeds
  resolutions : m.recording.resolutions = c.answers.length
  answers : m.recording.events.filterMap Memory.Event.answers? = c.answers.map Except.isOk
  response : m.recording.status.map (fun status => Delivered.mk status m.recording.headers) =
    (c.answers.filterMap Except.toOption).getLast?
  failure : m.recording.failure = (c.answers.filterMap message?).getLast?
  writes : m.recording.writes = c.deeds.filterMap Deed.length?
  body : m.recording.body = c.body
  sent : List.Forall₂ SameSent m.recording.sent c.sent
  replies : List.Forall₂ SameReply m.replies c.replies
  pending : m.pending = c.pending
  forbidden : c.forbidden = []
  invalid : c.invalid = []
  refused : c.refused = []

namespace Matched

variable {m : Memory.World} {c : World}

@[simp] theorem deeds_enter (c : World) (e : Entry) :
    (c.enter e).deeds = c.deeds ++ e.deed?.toList := by
  simp only [World.deeds, World.enter, List.filterMap_append, List.filterMap_cons,
    List.filterMap_nil]
  cases e.deed? <;> rfl

theorem enter (h : Matched m c) (entry : Entry) (hQuiet : entry.deed? = none) :
    Matched m (c.enter entry) := by
  have hDeeds : (c.enter entry).deeds = c.deeds := by
    rw [deeds_enter, hQuiet, Option.toList_none, List.append_nil]
  exact { h with
    deeds := h.deeds.trans hDeeds.symm
    writes := hDeeds ▸ h.writes }

theorem obtain (h : Matched m c) (kind : Kind) (owner : Option Handle) :
    Matched m (c.obtain kind owner).2 :=
  { h.enter (.obtained ⟨kind, c.nextId⟩ owner) rfl with }

theorem call (h : Matched m c) (call : Call) (hQuiet : (Entry.call call).deed? = none) :
    Matched m (c.call call) := h.enter (.call call) hQuiet

theorem give (h : Matched m c) (handle : Handle) : Matched m (c.give handle) :=
  h.enter (.given handle) rfl

theorem release (h : Matched m c) {handle : Handle} {kind : Kind} (hKind : handle.kind = kind)
    (hQuiet : Deed.ofReleased? kind = none) : Matched m (c.release handle) := by
  subst hKind
  exact h.enter (.released handle) hQuiet

theorem note (h : Matched m c) (event : Memory.Event) (hQuiet : event.deed? = none)
    (hAnswer : event.answers? = none) : Matched (m.record event) c :=
  { h with
    deeds := by simp [Memory.World.record, h.deeds, hQuiet]
    answers := by simp [Memory.World.record, h.answers, hAnswer] }

/-- One event and one entry that tell of the same deed, which is no write and no answer. -/
theorem record (h : Matched m c) {event : Memory.Event} {entry : Entry} {deed : Deed}
    (hEvent : event.deed? = some deed) (hEntry : entry.deed? = some deed)
    (hAnswer : event.answers? = none) (hLength : deed.length? = none) :
    Matched (m.record event) (c.enter entry) :=
  { h with
    deeds := by simp [Memory.World.record, h.deeds, hEvent, hEntry]
    answers := by simp [Memory.World.record, h.answers, hAnswer, World.enter]
    writes := by simp [Memory.World.record, Memory.Recording.add, h.writes, hEntry, hLength] }

theorem recordReleased (h : Matched m c) {event : Memory.Event} {handle : Handle} {kind : Kind}
    {deed : Deed} (hKind : handle.kind = kind) (hReleased : Deed.ofReleased? kind = some deed)
    (hEvent : event.deed? = some deed) (hAnswer : event.answers? = none)
    (hLength : deed.length? = none) : Matched (m.record event) (c.release handle) := by
  subst hKind
  exact h.record hEvent hReleased hAnswer hLength

theorem write (h : Matched m c) (bytes : Bytes) :
    Matched { m with recording := m.recording.addWrite bytes }
      { c.call (.blockingWriteAndFlush bytes.length) with body := c.body ++ bytes } :=
  { h with
    deeds := by
      simp [Memory.Recording.addWrite, h.deeds, Memory.Event.deed?, World.deeds, World.call,
        World.enter, Entry.deed?]
    answers := by
      simp [Memory.Recording.addWrite, h.answers, Memory.Event.answers?, World.call, World.enter]
    writes := by
      simp [Memory.Recording.addWrite, h.writes, World.deeds, World.call, World.enter, Entry.deed?,
        Deed.length?]
    body := by
      simp only [Memory.Recording.addWrite, Memory.Recording.add, h.body] }

theorem resolve (h : Matched m c) (status : UInt16) (headers : FieldList) :
    Matched { m with recording := m.recording.addResponse status headers }
      { c.call .outparamSet with answers := c.answers ++ [.ok ⟨status, headers⟩] } :=
  { h with
    deeds := by
      simp [Memory.Recording.addResponse, h.deeds, Memory.Event.deed?, World.deeds, World.call,
        World.enter, Entry.deed?]
    resolutions := by simp [Memory.Recording.addResponse, h.resolutions]
    answers := by
      simp [Memory.Recording.addResponse, h.answers, Memory.Event.answers?, Except.isOk,
        Except.toBool]
    response := by simp [Memory.Recording.addResponse, Except.toOption]
    failure := by
      simp [Memory.Recording.addResponse, Memory.Recording.add, h.failure, message?]
    writes := by
      simp [Memory.Recording.addResponse, Memory.Recording.add, h.writes, World.deeds, World.call,
        World.enter, Entry.deed?, Deed.length?] }

theorem reject (h : Matched m c) (message : String) :
    Matched { m with recording := m.recording.addFailure message }
      { c.call .outparamSet with
        answers := c.answers ++ [.error (.internalError (some message))] } :=
  { h with
    deeds := by
      simp [Memory.Recording.addFailure, h.deeds, Memory.Event.deed?, World.deeds, World.call,
        World.enter, Entry.deed?]
    resolutions := by simp [Memory.Recording.addFailure, h.resolutions]
    answers := by
      simp [Memory.Recording.addFailure, h.answers, Memory.Event.answers?, Except.isOk,
        Except.toBool]
    response := by
      simp [Memory.Recording.addFailure, Memory.Recording.add, h.response, Except.toOption]
    failure := by simp [Memory.Recording.addFailure, message?]
    writes := by
      simp [Memory.Recording.addFailure, Memory.Recording.add, h.writes, World.deeds, World.call,
        World.enter, Entry.deed?, Deed.length?] }

/-- A request goes to both hosts and takes the next reply on both. -/
theorem send (h : Matched m c) (head : RequestHead) (options : Option RequestOptions)
    {reply : Memory.Reply} {replies : List Memory.Reply} {reply' : Reply} {replies' : List Reply}
    (hMemory : m.replies = reply :: replies) (hComponent : c.replies = reply' :: replies') :
    SameReply reply reply' ∧
      Matched { m with recording := m.recording.addSent head options, replies }
        { c.call .handle with
          sent := c.sent ++ [Sent.ofHead head options]
          replies := replies' } := by
  have hReplies := h.replies
  rw [hMemory, hComponent, List.forall₂_cons] at hReplies
  refine ⟨hReplies.1, ?_⟩
  exact { h with
    deeds := by
      simp [Memory.Recording.addSent, h.deeds, Memory.Event.deed?, World.deeds, World.call,
        World.enter, Entry.deed?]
    answers := by
      simp [Memory.Recording.addSent, h.answers, Memory.Event.answers?, World.call, World.enter]
    writes := by
      simp [Memory.Recording.addSent, Memory.Recording.add, h.writes, World.deeds, World.call,
        World.enter, Entry.deed?, Deed.length?]
    sent := List.rel_append h.sent (.cons (sameSent_ofHead head options) .nil)
    replies := hReplies.2 }

end Matched

/-! ## Calls that are accepted -/

/-- From every world that matches, the action succeeds with such a result and matches again. -/
def Succeeds (m : Memory.World) (P : α → Prop) (act : Action World α) : Prop :=
  ∀ ⦃c⦄, Matched m c → ∃ a c', act c = .ok a c' ∧ P a ∧ Matched m c'

section Succeeds

variable {α β : Type} {m : Memory.World} {P : α → Prop} {Q : β → Prop}

theorem succeeds_pure {a : α} (h : P a) : Succeeds m P (pure a) :=
  fun c hMatched => ⟨a, c, rfl, h, hMatched⟩

theorem Succeeds.bind {act : Action World α} {next : α → Action World β}
    (h : Succeeds m P act) (hNext : ∀ a, P a → Succeeds m Q (next a)) :
    Succeeds m Q (act >>= next) := by
  intro c hMatched
  obtain ⟨a, c₁, hAct, hValue, hMatched⟩ := h hMatched
  obtain ⟨b, c₂, hRest, hResult, hMatched⟩ := hNext a hValue hMatched
  exact ⟨b, c₂, (Action.bind_of_ok hAct).trans hRest, hResult, hMatched⟩

theorem Succeeds.onFailure {cleanup : World → World} {act : Action World α}
    (h : Succeeds m P act) : Succeeds m P (act.onFailure cleanup) := by
  intro c hMatched
  obtain ⟨a, c', hAct, hValue, hMatched⟩ := h hMatched
  exact ⟨a, c', Action.onFailure_of_ok hAct, hValue, hMatched⟩

theorem succeeds_set (e : Error) {call : Call} (setter : Setter) {changed : α} (h : P changed)
    (hQuiet : (Entry.call call).deed? = none) :
    Succeeds m P (accepted e fun w => w.set call setter changed) := by
  intro c hMatched
  have hTaken : c.set call setter changed = (some changed, c.call call) := by
    simp [World.set, hMatched.refused]
  exact ⟨changed, c.call call, accepted_of_some _ hTaken, h, hMatched.call call hQuiet⟩

theorem succeeds_newFields (fields : FieldList) :
    Succeeds m (fun f => f.entries = fields) (newFields fields) := by
  intro c hMatched
  have hAccepted : fields.findSome? c.fieldError? = none := by
    rw [List.findSome?_eq_none_iff]
    intro field hField
    simp [World.fieldError?, hMatched.invalid, hMatched.forbidden]
  have hListed : Matched m c.listed := { hMatched.call .fieldsFromList rfl with }
  exact ⟨_, _, newFields_of_accepted hAccepted, rfl, hListed.obtain .fields none⟩

theorem succeeds_newRequest {fields : Fields} {entries : FieldList}
    (h : fields.entries = entries) :
    Succeeds m (fun r => r = ⟨r.handle, entries, .get, none, none, none⟩)
      (modifyGet fun w => w.newRequest fields) := by
  intro c hMatched
  refine ⟨_, _, rfl, ?_, ?_⟩
  · simp only [h]
  · have hCalled := hMatched.call .newRequest rfl
    exact (hCalled.give fields.handle).obtain .outgoingRequest none

theorem succeeds_fillRequest (r : OutgoingRequest) (head : RequestHead) :
    Succeeds m
      (fun filled => filled = ⟨r.handle, r.headers, .ofMessage head.method,
        some (.ofMessage head.scheme), some head.authority, some head.pathWithQuery⟩)
      (fillRequest r head) := by
  refine Succeeds.bind (P := fun r' => r' = { r with method := .ofMessage head.method }) ?_ ?_
  · exact succeeds_set _ .method rfl rfl
  rintro r' rfl
  refine Succeeds.bind
    (P := fun r' => r' = { r with
      method := .ofMessage head.method, scheme := some (.ofMessage head.scheme) }) ?_ ?_
  · exact succeeds_set _ .scheme rfl rfl
  rintro r' rfl
  refine Succeeds.bind
    (P := fun r' => r' = { r with
      method := .ofMessage head.method, scheme := some (.ofMessage head.scheme),
      authority := some head.authority }) ?_ ?_
  · exact succeeds_set _ .authority rfl rfl
  rintro r' rfl
  exact succeeds_set _ .path rfl rfl

theorem succeeds_setTimeout {name : String} {o : Options} {P : Options → Prop}
    {set : World → Options → UInt64 → Option Options × World} (d : Option Duration)
    (hNone : d = none → P o)
    (hSome : ∀ d', d = some d' → ∀ e, Succeeds m P (accepted e fun w => set w o d'.toNanoseconds)) :
    Succeeds m P (setTimeout name set o d) := by
  cases d with
  | none => exact succeeds_pure (hNone rfl)
  | some d => exact hSome d rfl _

theorem succeeds_newOptions (options : RequestOptions) :
    Succeeds m (fun o => o.timeouts = .ofOptions options) (newOptions options) := by
  have hNew : Succeeds m (fun o => o.timeouts = ⟨none, none, none⟩)
      (modifyGet World.newOptions) := by
    intro c hMatched
    have hCalled := hMatched.call .newOptions rfl
    exact ⟨_, _, rfl, rfl, hCalled.obtain .requestOptions none⟩
  refine hNew.bind ?_
  intro o hTimeouts
  apply Succeeds.onFailure
  have hConnect : Succeeds m
      (fun o => o.timeouts = ⟨options.connect.map Duration.toNanoseconds, none, none⟩)
      (setTimeout "connect" World.setConnectTimeout o options.connect) := by
    apply succeeds_setTimeout
    · intro hd
      rw [hTimeouts, hd, Option.map_none]
    · intro d hd e
      exact succeeds_set e .connect (by rw [hTimeouts, hd, Option.map_some]) rfl
  refine hConnect.bind ?_
  intro o hTimeouts
  have hFirstByte : Succeeds m
      (fun o => o.timeouts = ⟨options.connect.map Duration.toNanoseconds,
        options.firstByte.map Duration.toNanoseconds, none⟩)
      (setTimeout "first-byte" World.setFirstByteTimeout o options.firstByte) := by
    apply succeeds_setTimeout
    · intro hd
      rw [hTimeouts, hd, Option.map_none]
    · intro d hd e
      exact succeeds_set e .firstByte (by rw [hTimeouts, hd, Option.map_some]) rfl
  refine hFirstByte.bind ?_
  intro o hTimeouts
  apply succeeds_setTimeout
  · intro hd
    rw [hTimeouts, Timeouts.ofOptions, hd, Option.map_none]
  · intro d hd e
    exact succeeds_set e .betweenBytes (by rw [hTimeouts, Timeouts.ofOptions, hd, Option.map_some])
      rfl

theorem succeeds_newOptions? (options : Option RequestOptions) :
    Succeeds m (fun o => o.map Options.timeouts = options.map Timeouts.ofOptions)
      (newOptions? options) := by
  cases options with
  | none => exact succeeds_pure rfl
  | some options =>
    refine (succeeds_newOptions options).bind ?_
    intro o hTimeouts
    apply succeeds_pure
    rw [Option.map_some, Option.map_some, hTimeouts]

end Succeeds

end Component

end BufferedHttp
