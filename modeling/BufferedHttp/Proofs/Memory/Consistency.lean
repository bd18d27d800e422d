import Mathlib.Algebra.Ring.Nat
import BufferedHttp.Proofs.Memory.Queue

/-!
# The fields of a recording agree

Beside its events a recording keeps what was written and sent, and what out-parameters came to.
Every step of a session adds to the lists of a recording and takes nothing away, and all that it
changes is what its events tell. So the fields of a recording can be read off its events.
-/

namespace BufferedHttp

/-! ## Futures that are handed out -/

namespace Host

variable {World : Type}

/-- A send up to the future that the host gives out for its request. -/
def handOver (host : Host World) (config : Config) (request : Request) :
    Action World (Limits × host.Future) := do
  let limits ← .ofExcept (config.limits.mapError Config.Fault.toError)
  let head ← .ofExcept request.outgoingHead
  let future ← host.handle head config.requestOptions
  return (limits, future)

theorem send_eq_handOver_bind (host : Host World) (config : Config) (request : Request) :
    host.send config request = (do
      let (limits, future) ← host.handOver config request
      let incoming ← host.await future
      host.receiveResponse limits incoming) := by
  simp only [send, handOver, bind_assoc, pure_bind]

end Host

namespace Memory

/-- The host gave out a future for the request. -/
def Sending.handed (s : Sending) : Bool :=
  ((host.handOver s.config s.request).result s.before).isOk

namespace Sending

variable {s : Sending} {limits : Limits} {head : RequestHead}

theorem handed_of_fault {fault : Config.Fault} (hLimits : s.config.limits = .error fault) :
    s.handed = false := by
  rw [handed, Host.handOver, hLimits]
  rfl

theorem handed_of_headless {e : Error} (hLimits : s.config.limits = .ok limits)
    (hHead : s.request.outgoingHead = .error e) : s.handed = false := by
  rw [handed, Host.handOver, hLimits, hHead]
  rfl

theorem handed_of_exhausted (hLimits : s.config.limits = .ok limits)
    (hHead : s.request.outgoingHead = .ok head) (hReplies : s.before.replies = []) :
    s.handed = false := by
  have hHandle : ∃ e w', host.handle head s.config.requestOptions s.before = .error e w' := by
    simp only [Action.ofCall, World.handle, hReplies]
    exact ⟨_, _, rfl⟩
  obtain ⟨e, w', hHandle⟩ := hHandle
  have hHandOver : host.handOver s.config s.request s.before = .error e w' := by
    rw [Host.handOver, hLimits, hHead]
    exact (Action.bind_of_ok rfl).trans ((Action.bind_of_ok rfl).trans
      (Action.bind_of_error hHandle))
  rw [handed, Action.result_of_error hHandOver]
  rfl

theorem handed_of_reply {reply : Reply} {replies : List Reply}
    (hLimits : s.config.limits = .ok limits) (hHead : s.request.outgoingHead = .ok head)
    (hReplies : s.before.replies = reply :: replies) : s.handed = true := by
  have hHandle :
      ∃ future w', host.handle head s.config.requestOptions s.before = .ok future w' := by
    simp only [Action.ofCall, World.handle, hReplies]
    exact ⟨_, _, rfl⟩
  obtain ⟨future, w', hHandle⟩ := hHandle
  have hHandOver : host.handOver s.config s.request s.before = .ok (limits, future) w' := by
    rw [Host.handOver, hLimits, hHead]
    exact (Action.bind_of_ok rfl).trans ((Action.bind_of_ok rfl).trans (Action.bind_of_ok hHandle))
  rw [handed, Action.result_of_ok hHandOver]
  rfl

end Sending

/-! ## What events tell -/

def Event.written? : Event → Option Nat
  | write n => some n
  | _ => none

/-- Whether an event tells of nothing that the recording keeps beside it. -/
def Event.isPlain : Event → Bool
  | read _ | inputStreamDropped | incomingBodyFinished | statusSet _ | outputStreamDropped
  | outgoingBodyFinished | blocked => true
  | outparamSet | outparamFailed | write _ | requestSent | pollableDropped | futureDropped => false

def Plain (events : List Event) : Prop := ∀ e ∈ events, e.isPlain = true

theorem Plain.notMem {events : List Event} (h : Plain events) {e : Event}
    (hEvent : e.isPlain = false) : e ∉ events := by
  intro he
  rw [h e he] at hEvent
  cases hEvent

theorem filterMap_written_eq_nil {events : List Event} (h : ∀ n, .write n ∉ events) :
    events.filterMap Event.written? = [] := by
  rw [List.filterMap_eq_nil_iff]
  intro e he
  cases e with
  | write n => exact absurd he (h n)
  | _ => rfl

theorem filterMap_written_writeEvents (chunks : List Bytes) :
    (writeEvents chunks).filterMap Event.written? = chunks.map List.length := by
  rw [writeEvents, List.filterMap_map, ← List.filterMap_eq_map]
  rfl

theorem Event.isReading_of_not_isPlain {e : Event} (h : e.isPlain = false) :
    e.isReading = false := by
  cases e with
  | outparamSet | outparamFailed | write | requestSent | pollableDropped | futureDropped => rfl
  | read | inputStreamDropped | incomingBodyFinished | statusSet | outputStreamDropped
  | outgoingBodyFinished | blocked => cases h

theorem plain_gather (bound : Nat) (source : Except Error Script) :
    Plain (gather bound source).2 := by
  cases source with
  | error e => exact fun e he => nomatch he
  | ok script =>
    intro e he
    by_contra hPlain
    have hReading := Event.isReading_of_not_isPlain (Bool.eq_false_iff.mpr hPlain)
    exact notMem_readingEvents hReading bound script he

/-- The status behind the events: that of the last response that an out-parameter was set to, which
was set right before, or the one there was. -/
inductive Restated (events : List Event) (before : Option UInt16) : Option UInt16 → Prop where
  | kept (hNone : .outparamSet ∉ events) : Restated events before before
  | set (front behind : List Event) (status : UInt16)
      (hEvents : events = front ++ .statusSet status :: .outparamSet :: behind)
      (hLast : .outparamSet ∉ behind) : Restated events before (some status)

theorem Restated.trans {first second : List Event} {a b c : Option UInt16}
    (hFirst : Restated first a b) (hSecond : Restated second b c) :
    Restated (first ++ second) a c := by
  cases hSecond with
  | set front behind status hEvents hLast =>
    exact .set (first ++ front) behind status (by rw [hEvents, List.append_assoc]) hLast
  | kept hNone =>
    cases hFirst with
    | kept hNone' => exact .kept (by simp [hNone, hNone'])
    | set front behind status hEvents hLast =>
      exact .set front (behind ++ second) status (by simp [hEvents]) (by simp [hLast, hNone])

/-- The sends of a run, the events that it added to a recording, and with them all that they tell
of. -/
structure Grows (sends : List Sending) (told : List Event) (r r' : Recording) : Prop where
  events : r'.events = r.events ++ told
  writes : r'.writes = r.writes ++ told.filterMap Event.written?
  body : ∃ bytes, r'.body = r.body ++ bytes ∧
    bytes.length = (told.filterMap Event.written?).sum
  sent : ∃ entries, r'.sent = r.sent ++ entries ∧ entries.length = told.count .requestSent
  resolutions : r'.resolutions =
    r.resolutions + (told.count .outparamSet + told.count .outparamFailed)
  status : Restated told r.status r'.status
  failure : r'.failure.isSome = true ↔ r.failure.isSome = true ∨ .outparamFailed ∈ told
  pollables : told.count .pollableDropped = sends.countP Sending.handed
  futures : told.count .futureDropped = sends.countP Sending.handed

namespace Grows

variable {first second : List Sending} {told told' : List Event} {r r₁ r₂ : Recording}

theorem refl (sends : List Sending) (r : Recording) (h : sends.countP Sending.handed = 0) :
    Grows sends [] r r where
  events := (List.append_nil _).symm
  writes := (List.append_nil _).symm
  body := ⟨[], (List.append_nil _).symm, rfl⟩
  sent := ⟨[], (List.append_nil _).symm, rfl⟩
  resolutions := rfl
  status := .kept List.not_mem_nil
  failure := (or_iff_left List.not_mem_nil).symm
  pollables := h.symm
  futures := h.symm

theorem trans (hFirst : Grows first told r r₁) (hSecond : Grows second told' r₁ r₂) :
    Grows (first ++ second) (told ++ told') r r₂ where
  events := by rw [hSecond.events, hFirst.events, List.append_assoc]
  writes := by rw [hSecond.writes, hFirst.writes, List.filterMap_append, List.append_assoc]
  body := by
    obtain ⟨bytes, hBody, hLength⟩ := hFirst.body
    obtain ⟨bytes', hBody', hLength'⟩ := hSecond.body
    refine ⟨bytes ++ bytes', ?_, ?_⟩
    · rw [hBody', hBody, List.append_assoc]
    · rw [List.length_append, hLength, hLength', List.filterMap_append, List.sum_append]
  sent := by
    obtain ⟨entries, hSent, hLength⟩ := hFirst.sent
    obtain ⟨entries', hSent', hLength'⟩ := hSecond.sent
    refine ⟨entries ++ entries', ?_, ?_⟩
    · rw [hSent', hSent, List.append_assoc]
    · rw [List.length_append, hLength, hLength', List.count_append]
  resolutions := by
    rw [hSecond.resolutions, hFirst.resolutions, List.count_append, List.count_append]
    omega
  status := hFirst.status.trans hSecond.status
  failure := by rw [hSecond.failure, hFirst.failure, List.mem_append, or_assoc]
  pollables := by
    rw [List.count_append, hFirst.pollables, hSecond.pollables, List.countP_append]
  futures := by rw [List.count_append, hFirst.futures, hSecond.futures, List.countP_append]

/-- No byte is written and no out-parameter resolved. -/
theorem of_unresolved (r : Recording) (sends : List Sending)
    (entries : List (RequestHead × Option RequestOptions))
    (hWrites : ∀ n, .write n ∉ told) (hSet : .outparamSet ∉ told)
    (hFailed : .outparamFailed ∉ told) (hSent : entries.length = told.count .requestSent)
    (hPollables : told.count .pollableDropped = sends.countP Sending.handed)
    (hFutures : told.count .futureDropped = sends.countP Sending.handed) :
    Grows sends told r { r with events := r.events ++ told, sent := r.sent ++ entries } where
  events := rfl
  writes := by rw [filterMap_written_eq_nil hWrites, List.append_nil]
  body := ⟨[], (List.append_nil _).symm, by rw [filterMap_written_eq_nil hWrites]; rfl⟩
  sent := ⟨entries, rfl, hSent⟩
  resolutions := by
    rw [List.count_eq_zero.mpr hSet, List.count_eq_zero.mpr hFailed]
    rfl
  status := .kept hSet
  failure := by rw [or_iff_left hFailed]
  pollables := hPollables
  futures := hFutures

end Grows

section Operations

variable (w : World)

theorem grows_recordAll {events : List Event} (h : Plain events) :
    Grows [] events w.recording (w.recordAll events).recording := by
  have hCount : ∀ e : Event, e.isPlain = false → events.count e = 0 := fun e he =>
    List.count_eq_zero.mpr (h.notMem he)
  have hGrows := Grows.of_unresolved w.recording [] []
    (fun n => h.notMem (e := .write n) rfl) (h.notMem rfl) (h.notMem rfl)
    (hCount .requestSent rfl).symm (hCount .pollableDropped rfl) (hCount .futureDropped rfl)
  rw [List.append_nil] at hGrows
  exact hGrows

theorem grows_recordWrites (chunks : List Bytes) :
    Grows [] (writeEvents chunks) w.recording (w.recordWrites chunks).recording := by
  have hCount : ∀ e : Event, (∀ n, e ≠ .write n) → (writeEvents chunks).count e = 0 :=
    fun e he => List.count_eq_zero.mpr (notMem_writeEvents he)
  have hFailed : .outparamFailed ∉ writeEvents chunks := notMem_writeEvents nofun
  exact {
    events := rfl
    writes := by rw [filterMap_written_writeEvents]; rfl
    body := ⟨chunks.flatten, rfl, by rw [filterMap_written_writeEvents, List.length_flatten]⟩
    sent := ⟨[], (List.append_nil _).symm, (hCount .requestSent nofun).symm⟩
    resolutions := by rw [hCount .outparamSet nofun, hCount .outparamFailed nofun]; rfl
    status := .kept (notMem_writeEvents nofun)
    failure := (or_iff_left hFailed).symm
    pollables := hCount .pollableDropped nofun
    futures := hCount .futureDropped nofun }

/-- A response is resolved to right behind the event of its status. -/
theorem grows_resolve (response : OutgoingResponse) :
    Grows [] [.statusSet response.status, .outparamSet] w.recording
      ((w.recordAll [.statusSet response.status]).resolve response).recording where
  events := List.append_assoc _ _ _
  writes := (List.append_nil _).symm
  body := ⟨[], (List.append_nil _).symm, rfl⟩
  sent := ⟨[], (List.append_nil _).symm, rfl⟩
  resolutions := rfl
  status := .set [] [] response.status rfl List.not_mem_nil
  failure := by simp [World.resolve, World.recordAll, Recording.addResponse, Recording.add]
  pollables := rfl
  futures := rfl

theorem grows_reject (message : String) :
    Grows [] [.outparamFailed] w.recording (w.reject message).recording where
  events := rfl
  writes := (List.append_nil _).symm
  body := ⟨[], (List.append_nil _).symm, rfl⟩
  sent := ⟨[], (List.append_nil _).symm, rfl⟩
  resolutions := rfl
  status := .kept (by decide)
  failure := by simp [World.reject, Recording.addFailure]
  pollables := rfl
  futures := rfl

end Operations

/-! ## Sends, handlers and steps -/

theorem grows_send (s : Sending) :
    ∃ told, Grows [s] told s.before.recording s.after.recording := by
  have hSent : Sent s.config s.request s.before s.result s.after := send_sent _ _ _
  generalize s.result = result, s.after = w' at hSent
  cases hSent with
  | invalid hLimits =>
    have hHanded : s.handed = false := Sending.handed_of_fault hLimits
    exact ⟨[], .refl [s] _ (by simp [hHanded])⟩
  | headless hLimits hHead =>
    have hHanded : s.handed = false := Sending.handed_of_headless hLimits hHead
    exact ⟨[], .refl [s] _ (by simp [hHanded])⟩
  | exhausted hLimits hHead hReplies =>
    have hHanded : s.handed = false := Sending.handed_of_exhausted hLimits hHead hReplies
    refine ⟨[.requestSent], Grows.of_unresolved _ _ _ ?_ ?_ ?_ rfl ?_ ?_⟩
    all_goals simp [hHanded]
  | @accepted limits head reply replies hLimits hHead hReplies =>
    -- the future is released behind the waits, and reading its response tells of no other
    have hHanded : s.handed = true := Sending.handed_of_reply hLimits hHead hReplies
    have hReading := received_phase limits.read reply
    have hNone : ∀ e : Event, e.isReading = false → e ∉ (reply.received limits.read).2 :=
      fun e he => hReading.notMem he
    have hCount : ∀ e : Event, e.isReading = false → (reply.received limits.read).2.count e = 0 :=
      fun e he => List.count_eq_zero.mpr (hNone e he)
    refine ⟨_, Grows.of_unresolved _ _ _ ?_ ?_ ?_ ?_ ?_ ?_⟩
    · intro n
      simp [waitingEvents, hNone (.write n) rfl]
    · simp [waitingEvents, hNone .outparamSet rfl]
    · simp [waitingEvents, hNone .outparamFailed rfl]
    · simp [waitingEvents, hCount .requestSent rfl, List.count_replicate]
    · simp [waitingEvents, hCount .pollableDropped rfl, List.count_replicate, hHanded]
    · simp [waitingEvents, hCount .futureDropped rfl, List.count_replicate, hHanded]

theorem grows_run (handling : Handling) (w : World) :
    ∃ told, Grows (sendsOf handling w) told w.recording (handling.run host w).2.recording := by
  induction handling generalizing w with
  | done result => exact ⟨[], .refl [] _ rfl⟩
  | send config request next ih =>
    obtain ⟨first, hFirst⟩ := grows_send ⟨config, request, w⟩
    obtain ⟨rest, hRest⟩ := ih ((host.send config request).result w)
      ((host.send config request).after w)
    rw [Host.run_send]
    exact ⟨first ++ rest, hFirst.trans hRest⟩

theorem grows_answer (handler : Handler) (received : Except Error Request) (w : World) :
    ∃ told, Grows (sendsOn handler received w) told w.recording
      (Host.answer (handler.on host) received w).2.recording := by
  cases received with
  | error e => exact ⟨[], .refl [] _ rfl⟩
  | ok request => exact grows_run (handler request) w

section Serve

variable {config : Config} {handler : Handler} {request : IncomingRequest} {out : Outparam}
  {limits : Limits} {w w₁ : World} {r : Recording}

/-- The events behind the handler, and before them those of reading and of its sends. -/
theorem grows_of_answer {bytes : Bytes} {reading behind : List Event} {answer : Answer}
    (hLimits : config.limits = .ok limits)
    (hBody : gather limits.read request.source = (.ok bytes, reading))
    (hAnswer : Host.answer (handler.on host) (request.shownWith bytes) (w.recordAll reading) =
      (answer, w₁)) (hBehind : Grows [] behind w₁.recording r) :
    ∃ told, Grows ((Step.serve config handler request out).sends w) told w.recording r := by
  have hReading := plain_gather limits.read request.source
  obtain ⟨called, hCalled⟩ := grows_answer handler (request.shownWith bytes) (w.recordAll reading)
  rw [hBody] at hReading
  rw [hAnswer] at hCalled
  have hGrows := ((grows_recordAll w hReading).trans hCalled).trans hBehind
  rw [List.append_nil] at hGrows
  rw [sends_of_received hLimits hBody]
  exact ⟨_, hGrows⟩

theorem Served.grows {w' : World} {result : Except Error Unit} {events : List Event}
    (h : Served config handler request out w result events w') :
    ∃ told, Grows ((Step.serve config handler request out).sends w) told w.recording
      w'.recording := by
  cases h with
  | invalid hLimits =>
    simp only [Step.sends, hLimits]
    exact ⟨_, grows_reject w _⟩
  | @unreceived limits e reading hLimits hBody =>
    have hReading := plain_gather limits.read request.source
    rw [hBody] at hReading
    rw [sends_of_unreceived hLimits hBody]
    exact ⟨_, (grows_recordAll w hReading).trans (grows_reject _ _)⟩
  | @refused _ _ _ _ events _ _ _ _ hLimits hBody hCalled hAnswer hRefused =>
    apply grows_of_answer hLimits hBody hAnswer
    have hPlain : Plain events := by
      rcases Outparam.events_of_refusal hRefused with rfl | rfl <;> simp [Plain, Event.isPlain]
    exact (grows_recordAll _ hPlain).trans (grows_reject _ _)
  | @delivered _ _ _ _ events answer _ _ _ written hLimits hBody hCalled hAnswer hTaken hBodyOut =>
    apply grows_of_answer hLimits hBody hAnswer
    have hPlain : Plain events := by
      rcases hBodyOut.events_eq with ⟨-, rfl | rfl⟩ | rfl | rfl <;> simp [Plain, Event.isPlain]
    exact ((grows_resolve _ (out.head answer.fields answer.status)).trans
      (grows_recordWrites _ written)).trans (grows_recordAll _ hPlain)

end Serve

theorem grows_step (w : World) (step : Step) :
    ∃ told, Grows (step.sends w) told w.recording (step.run w).recording := by
  cases step with
  | serve config handler request out => exact (serve_served config handler request out w).grows
  | send config request => exact grows_send ⟨config, request, w⟩
  | queue replies pending => exact ⟨[], .refl [] _ rfl⟩

theorem grows_session (steps : List Step) (w : World) :
    ∃ told, Grows (sends steps w) told w.recording (session steps w).recording := by
  induction steps generalizing w with
  | nil => exact ⟨[], .refl [] _ rfl⟩
  | cons step steps ih =>
    obtain ⟨first, hFirst⟩ := grows_step w step
    obtain ⟨rest, hRest⟩ := ih (step.run w)
    exact ⟨first ++ rest, hFirst.trans hRest⟩

/-! ## The whole recording -/

/-- What the fields of a recording are, read off its events and the sends that were made. -/
structure Recording.Consistent (r : Recording) (sends : List Sending) : Prop where
  writes : r.writes = r.events.filterMap Event.written?
  body : r.body.length = r.writes.sum
  sent : r.sent.length = r.events.count .requestSent
  resolutions : r.resolutions = r.events.count .outparamSet + r.events.count .outparamFailed
  answered : r.status.isSome = true ↔ .outparamSet ∈ r.events
  status : ∀ status, r.status = some status → ∃ front behind,
    r.events = front ++ .statusSet status :: .outparamSet :: behind ∧ .outparamSet ∉ behind
  failure : r.failure.isSome = true ↔ .outparamFailed ∈ r.events
  pollables : r.events.count .pollableDropped = sends.countP Sending.handed
  futures : r.events.count .futureDropped = sends.countP Sending.handed

/-- The lists of a recording begin with those of an earlier one. -/
structure Recording.Extends (r earlier : Recording) : Prop where
  events : earlier.events <+: r.events
  writes : earlier.writes <+: r.writes
  body : earlier.body <+: r.body
  sent : earlier.sent <+: r.sent

theorem Grows.extending {sends : List Sending} {told : List Event} {r r' : Recording}
    (h : Grows sends told r r') : r'.Extends r where
  events := ⟨told, h.events.symm⟩
  writes := ⟨_, h.writes.symm⟩
  body := by
    obtain ⟨bytes, hBody, -⟩ := h.body
    exact ⟨bytes, hBody.symm⟩
  sent := by
    obtain ⟨entries, hSent, -⟩ := h.sent
    exact ⟨entries, hSent.symm⟩

theorem Restated.isSome_iff {events : List Event} {status : Option UInt16}
    (h : Restated events none status) : status.isSome = true ↔ .outparamSet ∈ events := by
  cases h with
  | kept hNone => exact iff_of_false Bool.false_ne_true hNone
  | set _ _ _ hEvents => exact iff_of_true rfl (by simp [hEvents])

theorem Restated.exists_of_eq_some {events : List Event} {after : Option UInt16}
    (h : Restated events none after) (status : UInt16) (hStatus : after = some status) :
    ∃ front behind, events = front ++ .statusSet status :: .outparamSet :: behind ∧
      .outparamSet ∉ behind := by
  cases h with
  | kept => cases hStatus
  | set front behind _ hEvents hLast =>
    cases hStatus
    exact ⟨front, behind, hEvents, hLast⟩

theorem Grows.consistent {sends : List Sending} {told : List Event} {r : Recording}
    (h : Grows sends told .empty r) : r.Consistent sends := by
  obtain rfl : r.events = told := h.events
  obtain ⟨bytes, hBody, hBytes⟩ := h.body
  obtain ⟨entries, hSent, hEntries⟩ := h.sent
  have hWrites : r.writes = r.events.filterMap Event.written? := h.writes
  exact {
    writes := hWrites
    body := by
      rw [hBody, hWrites]
      exact hBytes
    sent := by
      rw [hSent]
      exact hEntries
    resolutions := h.resolutions.trans (Nat.zero_add _)
    answered := h.status.isSome_iff
    status := h.status.exists_of_eq_some
    failure := h.failure.trans (or_iff_right Bool.false_ne_true)
    pollables := h.pollables
    futures := h.futures }

/-- Each step only adds to the lists of a recording, and after every session on a host without a
past the fields of its recording are what the events say. -/
theorem recording_consistent :
    (∀ (w : World) (step : Step), (step.run w).recording.Extends w.recording) ∧
    ∀ (steps : List Step) (replies : List Reply) (pending : Nat),
      (session steps ⟨.empty, replies, pending⟩).recording.Consistent
        (sends steps ⟨.empty, replies, pending⟩) := by
  constructor
  · intro w step
    obtain ⟨told, hGrows⟩ := grows_step w step
    exact hGrows.extending
  · intro steps replies pending
    obtain ⟨told, hGrows⟩ := grows_session steps ⟨.empty, replies, pending⟩
    exact hGrows.consistent

end Memory

end BufferedHttp
