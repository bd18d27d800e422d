import BufferedHttp.Proofs.Memory.Serving
import Mathlib.Data.List.Basic

/-!
# The order of events

Serving reads the request, then calls the handler, then answers. The events of reading and of the
sends of a handler are quiet: none of them is about an answer, so the events of answering stand in
the whole run as they stand alone.
-/

namespace BufferedHttp.Memory

def Event.isAnswering : Event → Bool
  | statusSet _ | outparamSet | outparamFailed | write _ | outputStreamDropped
  | outgoingBodyFinished => true
  | read _ | inputStreamDropped | incomingBodyFinished | requestSent | blocked | pollableDropped
  | futureDropped => false

def Quiet (events : List Event) : Prop := ∀ e ∈ events, e.isAnswering = false

theorem quiet_nil : Quiet [] := by
  intro e he
  cases he

theorem Quiet.append {first second : List Event} (hFirst : Quiet first) (hSecond : Quiet second) :
    Quiet (first ++ second) := by
  intro e he
  rcases List.mem_append.mp he with h | h
  · exact hFirst e h
  · exact hSecond e h

theorem Quiet.notMem {quiet : List Event} (h : Quiet quiet) {e : Event}
    (hEvent : e.isAnswering = true) : e ∉ quiet := by
  intro he
  rw [h e he] at hEvent
  cases hEvent

theorem Quiet.mem_append_iff {quiet events : List Event} (h : Quiet quiet) {e : Event}
    (hEvent : e.isAnswering = true) : e ∈ quiet ++ events ↔ e ∈ events := by
  rw [List.mem_append, or_iff_right (h.notMem hEvent)]

theorem Quiet.count_append {quiet events : List Event} (h : Quiet quiet) {e : Event}
    (hEvent : e.isAnswering = true) : (quiet ++ events).count e = events.count e := by
  rw [List.count_append, List.count_eq_zero.mpr (h.notMem hEvent), Nat.zero_add]

theorem quiet_readingEvents (bound : Nat) (script : Script) :
    Quiet (readingEvents bound script) := by
  intro e he
  rw [readingEvents, List.mem_append, List.mem_map] at he
  rcases he with ⟨n, -, rfl⟩ | he
  · rfl
  · rcases List.mem_cons.mp he with rfl | he
    · rfl
    · split at he
      · rw [List.mem_singleton.mp he]
        rfl
      · cases he

theorem quiet_gather (bound : Nat) (source : Except Error Script) :
    Quiet (gather bound source).2 := by
  cases source with
  | error e => exact quiet_nil
  | ok script => exact quiet_readingEvents bound script

theorem quiet_of_gather {bound : Nat} {source : Except Error Script} {r : Except Error Bytes}
    {reading : List Event} (h : gather bound source = (r, reading)) : Quiet reading := by
  have hQuiet := quiet_gather bound source
  rw [h] at hQuiet
  exact hQuiet

theorem ReplyPhase.quiet {bound : Nat} {reply : Reply} {events : List Event}
    (h : ReplyPhase bound reply events) : Quiet events := by
  cases h with
  | transport | undecodable | unavailable => exact quiet_nil
  | read => exact quiet_readingEvents _ _

theorem SendPhase.quiet {config : Config} {request : Request} {w : World} {events : List Event}
    (h : SendPhase config request w events) : Quiet events := by
  cases h with
  | invalid | headless => exact quiet_nil
  | exhausted =>
    intro e he
    rw [List.mem_singleton.mp he]
    rfl
  | accepted _ _ _ hReply =>
    intro e he
    simp only [List.mem_cons, List.mem_append, List.mem_replicate] at he
    rcases he with (rfl | ⟨-, rfl⟩) | rfl | rfl | he
    · rfl
    · rfl
    · rfl
    · rfl
    · exact hReply.quiet e he

theorem HandlingPhase.quiet {handling : Handling} {w : World} {events : List Event}
    (h : HandlingPhase handling w events) : Quiet events := by
  induction h with
  | done => exact quiet_nil
  | send hSend _ ih => exact hSend.quiet.append ih

theorem CallPhase.quiet {handler : Handler} {received : Except Error Request} {w : World}
    {events : List Event} (h : CallPhase handler received w events) : Quiet events := by
  cases h with
  | undecodable => exact quiet_nil
  | called hHandling => exact hHandling.quiet

/-- The events of answering: the out-parameter refuses the answer, or takes it and then its body
comes out. -/
inductive AnswerPhase (out : Outparam) (limits : Limits) (answer : Answer) :
    Except Error Unit → List Event → Prop where
  | refused {e : Error} {events : List Event} (hRefused : out.refusal? answer = some (e, events)) :
      AnswerPhase out limits answer (.error e) (events ++ [.outparamFailed])
  | delivered {result : Except Error Unit} {written : List Bytes} {events : List Event}
      (hTaken : out.refusal? answer = none)
      (hBodyOut : Completion out limits answer result written events) :
      AnswerPhase out limits answer result
        (.statusSet answer.status :: .outparamSet ::
          (writeEvents written ++ events))

inductive ServePhase (config : Config) (handler : Handler) (request : IncomingRequest)
    (out : Outparam) (w : World) : Except Error Unit → List Event → Prop where
  | invalid {fault : Config.Fault} (hLimits : config.limits = .error fault) :
      ServePhase config handler request out w (.error fault.toError) [.outparamFailed]
  | unavailable {limits : Limits} {e : Error} (hLimits : config.limits = .ok limits)
      (hBody : request.source = .error e) :
      ServePhase config handler request out w (.error e) [.outparamFailed]
  | broken {limits : Limits} {script : Script} {message : String}
      (hLimits : config.limits = .ok limits) (hBody : request.source = .ok script)
      (hFailure : script.failure? = some message) :
      ServePhase config handler request out w (.error (.stream message))
        (readingEvents limits.read script ++ [.outparamFailed])
  | answered {limits : Limits} {script : Script} {called answering : List Event}
      {result : Except Error Unit} (hLimits : config.limits = .ok limits)
      (hBody : request.source = .ok script) (hFailure : script.failure? = none)
      (hCalled : CallPhase handler (request.shownWith script.bytes)
        (w.recordAll (readingEvents limits.read script)) called)
      (hAnswering : AnswerPhase out limits
        (Host.answer (handler.on host) (request.shownWith script.bytes)
          (w.recordAll (readingEvents limits.read script))).1 result answering) :
      ServePhase config handler request out w result
        (readingEvents limits.read script ++ (called ++ answering))

/-- One of the two resolutions happened, once, and the other did not. -/
def ResolvedOnce (events : List Event) : Prop :=
  (events.count .outparamSet = 1 ∧ events.count .outparamFailed = 0) ∨
    (events.count .outparamSet = 0 ∧ events.count .outparamFailed = 1)

theorem ResolvedOnce.quiet_append {quiet events : List Event} (hQuiet : Quiet quiet)
    (h : ResolvedOnce events) : ResolvedOnce (quiet ++ events) := by
  rw [ResolvedOnce, hQuiet.count_append rfl, hQuiet.count_append rfl]
  exact h

theorem resolvedOnce_failed : ResolvedOnce [.outparamFailed] := .inr ⟨rfl, rfl⟩

variable {config : Config} {handler : Handler} {request : IncomingRequest} {out : Outparam}
  {limits : Limits} {answer : Answer} {w w' : World} {result : Except Error Unit}
  {events : List Event}

theorem AnswerPhase.resolvedOnce
    (h : AnswerPhase out limits answer result events) : ResolvedOnce events := by
  cases h with
  | refused hRefused =>
    rcases Outparam.events_of_refusal hRefused with rfl | rfl
    · exact resolvedOnce_failed
    · exact .inr ⟨rfl, rfl⟩
  | @delivered _ written events hTaken hBodyOut =>
    have hSet : (writeEvents written).count .outparamSet = 0 :=
      List.count_eq_zero.mpr (notMem_writeEvents nofun)
    have hFailed : (writeEvents written).count .outparamFailed = 0 :=
      List.count_eq_zero.mpr (notMem_writeEvents nofun)
    left
    rcases hBodyOut.events_eq with ⟨-, rfl | rfl⟩ | rfl | rfl <;>
      simp [List.count_append, hSet, hFailed]

theorem ServePhase.resolvedOnce
    (h : ServePhase config handler request out w result events) : ResolvedOnce events := by
  cases h with
  | invalid | unavailable => exact resolvedOnce_failed
  | broken => exact resolvedOnce_failed.quiet_append (quiet_readingEvents _ _)
  | answered _ _ _ hCalled hAnswering =>
    have hAnswered := hAnswering.resolvedOnce.quiet_append hCalled.quiet
    exact hAnswered.quiet_append (quiet_readingEvents _ _)

theorem Served.phase (h : Served config handler request out w result events w') :
    ServePhase config handler request out w result events := by
  cases h with
  | invalid hLimits => exact .invalid hLimits
  | unreceived hLimits hBody =>
    rcases gather_eq_error hBody with ⟨hSource, rfl⟩ |
      ⟨script, message, hSource, hFailure, rfl, rfl⟩
    · exact .unavailable hLimits hSource
    · exact .broken hLimits hSource hFailure
  | refused hLimits hBody hCalled hAnswer hRefused =>
    obtain ⟨script, hSource, hFailure, rfl, rfl⟩ := gather_eq_ok hBody
    apply ServePhase.answered hLimits hSource hFailure hCalled
    rw [hAnswer]
    exact .refused hRefused
  | delivered hLimits hBody hCalled hAnswer hTaken hBodyOut =>
    obtain ⟨script, hSource, hFailure, rfl, rfl⟩ := gather_eq_ok hBody
    apply ServePhase.answered hLimits hSource hFailure hCalled
    rw [hAnswer]
    exact .delivered hTaken hBodyOut

theorem serve_phase (config : Config) (handler : Handler) (request : IncomingRequest)
    (out : Outparam) (w : World) :
    ServePhase config handler request out w
      ((host.serve config handler request out).result w)
      (added (host.serve config handler request out) w).events :=
  (serve_served config handler request out w).phase

theorem send_phase_added (config : Config) (request : Request) (w : World) :
    SendPhase config request w (added (host.send config request) w).events := by
  obtain ⟨events, sent, replies, hPhase, hAfter⟩ := send_phase config request w
  have hRun := (host.send config request).eq_ofExcept w
  rw [hAfter] at hRun
  rw [events_added hRun rfl]
  exact hPhase

end BufferedHttp.Memory
