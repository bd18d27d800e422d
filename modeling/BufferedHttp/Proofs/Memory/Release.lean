import BufferedHttp.Proofs.Memory.Order
import Mathlib.Data.List.Basic

/-!
# The order of release

What was opened first is released last. The stream of a body is dropped before its body is given
back or finished, the pollable of a future before the future. The out-parameter is set right
behind the status that is delivered, and the end of the body is the last event of a run.
-/

namespace BufferedHttp.Memory

/-- How the events of answering follow each other, for the status that the client has. -/
structure InOrder (status : Option UInt16) (events : List Event) : Prop where
  set : ∀ before after, events = before ++ .outparamSet :: after →
    (∃ earlier s, before = earlier ++ [.statusSet s] ∧ status = some s) ∧ ∀ n, .write n ∉ before
  write : ∀ n, .write n ∈ events → .outparamSet ∈ events
  dropped : ∀ before after, events = before ++ .outputStreamDropped :: after →
    (∀ n, .write n ∉ after) ∧ .outgoingBodyFinished ∉ before
  finished : ∀ before after, events = before ++ .outgoingBodyFinished :: after → after = []

theorem Quiet.split {quiet events before after : List Event} {e : Event} (hQuiet : Quiet quiet)
    (hEvent : e.isAnswering = true) (h : quiet ++ events = before ++ e :: after) :
    ∃ middle, before = quiet ++ middle ∧ events = middle ++ e :: after := by
  rcases List.append_eq_append_iff.mp h with ⟨middle, hBefore, hEvents⟩ | ⟨middle, hPrefix, hRest⟩
  · exact ⟨middle, hBefore, hEvents⟩
  · cases middle with
    | nil =>
      rw [List.append_nil] at hPrefix
      rw [List.nil_append] at hRest
      refine ⟨[], ?_, ?_⟩
      · rw [hPrefix, List.append_nil]
      · rw [← hRest, List.nil_append]
    | cons first middle =>
      obtain ⟨rfl, -⟩ := List.cons.inj hRest
      have hMem : e ∈ quiet := by
        rw [hPrefix]
        exact List.mem_append_right before List.mem_cons_self
      rw [hQuiet e hMem] at hEvent
      cases hEvent

theorem InOrder.quiet_append {status : Option UInt16} {quiet events : List Event}
    (hQuiet : Quiet quiet) (h : InOrder status events) : InOrder status (quiet ++ events) where
  set := by
    intro before after hSplit
    obtain ⟨middle, rfl, hEvents⟩ := hQuiet.split rfl hSplit
    obtain ⟨⟨earlier, s, rfl, hStatus⟩, hWrites⟩ := h.set middle after hEvents
    refine ⟨⟨quiet ++ earlier, s, ?_, hStatus⟩, ?_⟩
    · rw [List.append_assoc]
    · intro n
      rw [hQuiet.mem_append_iff rfl]
      exact hWrites n
  write := by
    intro n hWrite
    rw [hQuiet.mem_append_iff rfl] at hWrite ⊢
    exact h.write n hWrite
  dropped := by
    intro before after hSplit
    obtain ⟨middle, rfl, hEvents⟩ := hQuiet.split rfl hSplit
    rw [hQuiet.mem_append_iff rfl]
    exact h.dropped middle after hEvents
  finished := by
    intro before after hSplit
    obtain ⟨middle, rfl, hEvents⟩ := hQuiet.split rfl hSplit
    exact h.finished middle after hEvents

theorem mem_of_split {events before after : List Event} {e : Event}
    (h : events = before ++ e :: after) : e ∈ events := by
  rw [h]
  exact List.mem_append_right before List.mem_cons_self

theorem inOrder_of_unset {status : Option UInt16} {events : List Event}
    (hSet : .outparamSet ∉ events) (hWrite : ∀ n, .write n ∉ events)
    (hDropped : .outputStreamDropped ∉ events) (hFinished : .outgoingBodyFinished ∉ events) :
    InOrder status events where
  set _ _ hSplit := absurd (mem_of_split hSplit) hSet
  write n h := absurd h (hWrite n)
  dropped _ _ hSplit := absurd (mem_of_split hSplit) hDropped
  finished _ _ hSplit := absurd (mem_of_split hSplit) hFinished

variable {config : Config} {handler : Handler} {request : IncomingRequest} {out : Outparam}
  {limits : Limits} {answer : Answer} {w w' : World} {result : Except Error Unit}
  {written : List Bytes} {events : List Event}

theorem Completion.inOrder (h : Completion out limits answer result written events) :
    InOrder (some answer.status)
      (.statusSet answer.status :: .outparamSet :: (writeEvents written ++ events)) where
  set := by
    intro before after hSplit
    have hNotSet : .outparamSet ∉ writeEvents written ++ events := by
      rw [List.mem_append, not_or]
      refine ⟨notMem_writeEvents nofun, ?_⟩
      rcases h.events_eq with ⟨-, rfl | rfl⟩ | rfl | rfl <;> simp
    have hNotStatus : Event.outparamSet ∉ [Event.statusSet answer.status] := by simp
    obtain ⟨rfl, -, -⟩ := (List.append_cons_inj_of_notMem hNotStatus hNotSet).mp hSplit
    refine ⟨⟨[], answer.status, rfl, rfl⟩, ?_⟩
    simp
  write := by simp
  dropped := by
    intro before after hSplit
    have hDropped : .outputStreamDropped ∉ writeEvents written := notMem_writeEvents nofun
    have hFinished : .outgoingBodyFinished ∉ writeEvents written := notMem_writeEvents nofun
    have hHead : .outputStreamDropped ∉
        .statusSet answer.status :: .outparamSet :: writeEvents written := by
      simp [hDropped]
    rcases h.events_eq with ⟨rfl, rfl | rfl⟩ | rfl | rfl
    · exact absurd (mem_of_split hSplit) (by simp [writeEvents])
    · exact absurd (mem_of_split hSplit) (by simp [writeEvents])
    · obtain ⟨rfl, -, rfl⟩ := (List.append_cons_inj_of_notMem hHead (by simp)).mp hSplit
      exact ⟨by simp, by simp [hFinished]⟩
    · obtain ⟨rfl, -, rfl⟩ := (List.append_cons_inj_of_notMem hHead (by simp)).mp hSplit
      exact ⟨by simp, by simp [hFinished]⟩
  finished := by
    intro before after hSplit
    have hFinished : .outgoingBodyFinished ∉ writeEvents written := notMem_writeEvents nofun
    have hHead : .outgoingBodyFinished ∉
        .statusSet answer.status :: .outparamSet :: writeEvents written := by
      simp [hFinished]
    rcases h.events_eq with ⟨rfl, rfl | rfl⟩ | rfl | rfl
    · exact absurd (mem_of_split hSplit) (by simp [writeEvents])
    · obtain ⟨-, -, rfl⟩ := (List.append_cons_inj_of_notMem hHead (by simp)).mp hSplit
      rfl
    · exact absurd (mem_of_split hSplit) (by simp [hFinished])
    · have hDropped : .outgoingBodyFinished ∉
          .statusSet answer.status :: .outparamSet :: writeEvents written ++
            [.outputStreamDropped] := by
        simp [hFinished]
      have hLast : (.statusSet answer.status :: .outparamSet :: writeEvents written ++
          [.outputStreamDropped]) ++ .outgoingBodyFinished :: [] =
          before ++ .outgoingBodyFinished :: after := by
        rw [List.append_assoc]
        exact hSplit
      obtain ⟨-, -, rfl⟩ := (List.append_cons_inj_of_notMem hDropped (by simp)).mp hLast
      rfl

theorem inOrder_of_refusal {e : Error}
    (h : out.refusal? answer = some (e, events)) (status : Option UInt16) :
    InOrder status (events ++ [.outparamFailed]) := by
  rcases Outparam.events_of_refusal h with rfl | rfl <;>
    exact inOrder_of_unset (by simp) (by simp) (by simp) (by simp)

theorem Served.inOrder (h : Served config handler request out w result events w') :
    InOrder w'.recording.status events := by
  have hFailed : InOrder w'.recording.status [.outparamFailed] :=
    inOrder_of_unset (by simp) (by simp) (by simp) (by simp)
  cases h with
  | invalid => exact hFailed
  | unreceived _ hBody => exact hFailed.quiet_append (quiet_of_gather hBody)
  | refused _ hBody hCalled _ hRefused =>
    apply InOrder.quiet_append (quiet_of_gather hBody)
    apply InOrder.quiet_append hCalled.quiet
    exact inOrder_of_refusal hRefused _
  | delivered _ hBody hCalled _ _ hBodyOut =>
    apply InOrder.quiet_append (quiet_of_gather hBody)
    apply InOrder.quiet_append hCalled.quiet
    exact hBodyOut.inOrder

/-- A stream for the body of the answer is opened while the request is served. -/
def BodyOpened (config : Config) (handler : Handler) (request : IncomingRequest) (out : Outparam)
    (w : World) : Prop :=
  ∃ limits r body opened w₁ w₂ w₃,
    host.answerRequest config (handler.on host) request w = .ok (limits, .response r) w₁ ∧
      host.deliver out (.response r) w₁ = .ok body w₂ ∧ host.openOutput body w₂ = .ok opened w₃

theorem not_bodyOpened_of_answer_error {e : Error}
    (h : host.answerRequest config (handler.on host) request w = .error e w') :
    ¬BodyOpened config handler request out w := by
  rintro ⟨limits, r, body, opened, w₁, w₂, w₃, hAnswer, -, -⟩
  rw [h] at hAnswer
  cases hAnswer

theorem not_bodyOpened_of_refused {refusal : Error × List Event}
    (hAnswer : host.answerRequest config (handler.on host) request w = .ok (limits, answer) w')
    (hRefused : out.refusal? answer = some refusal) :
    ¬BodyOpened config handler request out w := by
  rintro ⟨limits', r, body, opened, w₁, w₂, w₃, hAnswer', hDeliver, -⟩
  rw [hAnswer] at hAnswer'
  cases hAnswer'
  rw [Host.deliver_of_error (prepare_of_refused w' hRefused)] at hDeliver
  cases hDeliver

theorem bodyOpened_iff_of_taken
    (hAnswer : host.answerRequest config (handler.on host) request w = .ok (limits, answer) w')
    (hTaken : out.refusal? answer = none) :
    BodyOpened config handler request out w ↔
      answer ≠ .internalError ∧ out.faults.stream = none := by
  have hDelivered := Host.deliver_of_ok (prepare_of_taken w' hTaken)
  constructor
  · rintro ⟨limits', r, body, opened, w₁, w₂, w₃, hAnswer', hDeliver, hOpen⟩
    rw [hAnswer] at hAnswer'
    cases hAnswer'
    rw [hDelivered] at hDeliver
    cases hDeliver
    refine ⟨nofun, ?_⟩
    cases hStream : out.faults.stream with
    | none => rfl
    | some message =>
      rw [openOutput_of_refused _ hStream] at hOpen
      cases hOpen
  · rintro ⟨hResponse, hStream⟩
    cases answer with
    | internalError => exact absurd rfl hResponse
    | response r =>
      exact ⟨limits, r, out.body, (out.writer 0, out.openedBody), w', _, _, hAnswer, hDelivered,
        openOutput_of_taken _ hStream⟩

theorem Completion.count_dropped (h : Completion out limits answer result written events) :
    events.count .outputStreamDropped = 1 ∧ answer ≠ .internalError ∧ out.faults.stream = none ∨
      events.count .outputStreamDropped = 0 ∧
        ¬(answer ≠ .internalError ∧ out.faults.stream = none) := by
  cases h with
  | unopened hOpen => simp [hOpen]
  | cut hOpen => simp [hOpen]
  | unfinished hOpen => simp [hOpen]
  | finished hOpen => simp [hOpen]
  | bareUnfinished => simp
  | bareFinished => simp

theorem Served.count_dropped (h : Served config handler request out w result events w') :
    events.count .outputStreamDropped = 1 ∧ BodyOpened config handler request out w ∨
      events.count .outputStreamDropped = 0 ∧ ¬BodyOpened config handler request out w := by
  cases h with
  | invalid hLimits =>
    right
    exact ⟨rfl, not_bodyOpened_of_answer_error (Host.answerRequest_of_fault hLimits)⟩
  | unreceived hLimits hBody =>
    right
    rw [(quiet_of_gather hBody).count_append rfl]
    exact ⟨rfl, not_bodyOpened_of_answer_error (answerRequest_of_unreceived w hLimits hBody)⟩
  | refused hLimits hBody hCalled hAnswer hRefused =>
    have hAnswered := answerRequest_of_received hLimits hBody hAnswer
    right
    rw [(quiet_of_gather hBody).count_append rfl, hCalled.quiet.count_append rfl]
    refine ⟨?_, not_bodyOpened_of_refused hAnswered hRefused⟩
    rcases Outparam.events_of_refusal hRefused with rfl | rfl <;> rfl
  | @delivered _ _ _ _ _ _ _ _ _ written hLimits hBody hCalled hAnswer hTaken hBodyOut =>
    have hAnswered := answerRequest_of_received hLimits hBody hAnswer
    have hWrites : (writeEvents written).count .outputStreamDropped = 0 :=
      List.count_eq_zero.mpr (notMem_writeEvents nofun)
    rw [(quiet_of_gather hBody).count_append rfl, hCalled.quiet.count_append rfl,
      bodyOpened_iff_of_taken hAnswered hTaken]
    simpa [hWrites] using hBodyOut.count_dropped

/-- The events of a run come in the phases of the run, and those of answering in order. The stream
for the body of an answer is dropped once if it was opened, and not otherwise. -/
theorem released_in_order :
    (∀ {bound : Nat} (pos : 0 < bound) (body body' : IncomingBody) (stream : InputStream)
        (w : World),
      host.openInput body w = .ok (stream, body') w →
        (added (host.drain pos body) w).events =
          (stream.script.lengths bound).map .read ++ .inputStreamDropped ::
            if (host.readAll pos stream [] w).1.isOk then [.incomingBodyFinished] else []) ∧
    (∀ (config : Config) (handler : Handler) (request : IncomingRequest) (out : Outparam)
      (w : World),
      ServePhase config handler request out w
        ((host.serve config handler request out).result w)
        (added (host.serve config handler request out) w).events ∧
      InOrder ((host.serve config handler request out).after w).recording.status
        (added (host.serve config handler request out) w).events ∧
      ((added (host.serve config handler request out) w).events.count .outputStreamDropped = 1 ∧
          BodyOpened config handler request out w ∨
        (added (host.serve config handler request out) w).events.count .outputStreamDropped = 0 ∧
          ¬BodyOpened config handler request out w)) ∧
    ∀ (config : Config) (request : Request) (w : World),
      SendPhase config request w (added (host.send config request) w).events := by
  refine ⟨?_, ?_, ?_⟩
  · intro bound pos body body' stream w hOpen
    exact events_drain pos hOpen
  · intro config handler request out w
    have hServed := serve_served config handler request out w
    exact ⟨hServed.phase, hServed.inOrder, hServed.count_dropped⟩
  · exact send_phase_added

end BufferedHttp.Memory
