import BufferedHttp.Proofs.Memory.Completing
import BufferedHttp.Proofs.Memory.Sends

/-!
# How serving ends on the host in memory

There are four ends: the configuration is not usable, the request is not received, the answer is
not taken, or it is taken and its body comes out one way or another. In the first three the
out-parameter gets an error, in the last the answer.
-/

namespace BufferedHttp.Memory

/-- The events of calling a handler with a request, if its headers could be decoded. -/
inductive CallPhase (handler : Handler) : Except Error Request → World → List Event → Prop where
  | undecodable (e : Error) (w : World) : CallPhase handler (.error e) w []
  | called {request : Request} {w : World} {events : List Event}
      (hHandling : HandlingPhase (handler request) w events) :
      CallPhase handler (.ok request) w events

theorem answer_phase (handler : Handler) (received : Except Error Request) (w : World) :
    ∃ events sent replies, CallPhase handler received w events ∧
      (Host.answer (handler.on host) received w).2 = w.afterSends events sent replies := by
  cases received with
  | error e => exact ⟨[], [], w.replies, .undecodable e w, w.afterSends_nil.symm⟩
  | ok request =>
    obtain ⟨events, sent, replies, hHandling, hRun⟩ := run_phase (handler request) w
    exact ⟨events, sent, replies, .called hHandling, hRun⟩

/-- The ends of serving: the result, the events, and the world behind them. -/
inductive Served (config : Config) (handler : Handler) (request : IncomingRequest) (out : Outparam)
    (w : World) : Except Error Unit → List Event → World → Prop where
  | invalid {fault : Config.Fault} (hLimits : config.limits = .error fault) :
      Served config handler request out w (.error fault.toError) [.outparamFailed]
        (w.reject abortMessage)
  | unreceived {limits : Limits} {e : Error} {reading : List Event}
      (hLimits : config.limits = .ok limits)
      (hBody : gather limits.read request.source = (.error e, reading)) :
      Served config handler request out w (.error e) (reading ++ [.outparamFailed])
        ((w.recordAll reading).reject abortMessage)
  | refused {limits : Limits} {bytes : Bytes} {reading called events : List Event}
      {answer : Answer} {sent : List (RequestHead × Option RequestOptions)} {replies : List Reply}
      {e : Error} (hLimits : config.limits = .ok limits)
      (hBody : gather limits.read request.source = (.ok bytes, reading))
      (hCalled : CallPhase handler (request.shownWith bytes) (w.recordAll reading) called)
      (hAnswer : Host.answer (handler.on host) (request.shownWith bytes) (w.recordAll reading) =
        (answer, (w.recordAll reading).afterSends called sent replies))
      (hRefused : out.refusal? answer = some (e, events)) :
      Served config handler request out w (.error e)
        (reading ++ (called ++ (events ++ [.outparamFailed])))
        ((((w.recordAll reading).afterSends called sent replies).recordAll events).reject
          abortMessage)
  | delivered {limits : Limits} {bytes : Bytes} {reading called events : List Event}
      {answer : Answer} {sent : List (RequestHead × Option RequestOptions)} {replies : List Reply}
      {result : Except Error Unit} {written : List Bytes} (hLimits : config.limits = .ok limits)
      (hBody : gather limits.read request.source = (.ok bytes, reading))
      (hCalled : CallPhase handler (request.shownWith bytes) (w.recordAll reading) called)
      (hAnswer : Host.answer (handler.on host) (request.shownWith bytes) (w.recordAll reading) =
        (answer, (w.recordAll reading).afterSends called sent replies))
      (hTaken : out.refusal? answer = none)
      (hBodyOut : Completion out limits answer result written events) :
      Served config handler request out w result
        (reading ++ (called ++ (.statusSet answer.status :: .outparamSet ::
          (writeEvents written ++ events))))
        ((((((w.recordAll reading).afterSends called sent replies).recordAll
          [.statusSet answer.status]).resolve (out.head answer.fields answer.status)).recordWrites
            written).recordAll events)

theorem Served.events_eq {config : Config} {handler : Handler} {request : IncomingRequest}
    {out : Outparam} {w w' : World} {result : Except Error Unit} {events : List Event}
    (h : Served config handler request out w result events w') :
    w'.recording.events = w.recording.events ++ events := by
  cases h with
  | invalid => rfl
  | unreceived => simp
  | refused => simp [World.afterSends]
  | delivered => simp [World.afterSends]

theorem answerRequest_of_unreceived {config : Config} {limits : Limits} {request : IncomingRequest}
    {service : Service World} {e : Error} {events : List Event} (w : World)
    (hLimits : config.limits = .ok limits)
    (hBody : gather limits.read request.source = (.error e, events)) :
    host.answerRequest config service request w = .error e (w.recordAll events) := by
  have hReceive := receiveRequest_eq limits request w
  rw [hBody] at hReceive
  exact Host.answerRequest_of_error hLimits hReceive

theorem answerRequest_of_received {config : Config} {limits : Limits} {request : IncomingRequest}
    {service : Service World} {bytes : Bytes} {events : List Event} {answer : Answer} {w w' : World}
    (hLimits : config.limits = .ok limits)
    (hBody : gather limits.read request.source = (.ok bytes, events))
    (hAnswer : Host.answer service (request.shownWith bytes) (w.recordAll events) = (answer, w')) :
    host.answerRequest config service request w = .ok (limits, answer) w' := by
  have hReceive := receiveRequest_eq limits request w
  rw [hBody] at hReceive
  rw [Host.answerRequest_of_ok hLimits hReceive]
  change EStateM.Result.ok (limits, (Host.answer service (request.shownWith bytes)
    (w.recordAll events)).1) _ = _
  rw [hAnswer]

theorem exists_served (config : Config) (handler : Handler) (request : IncomingRequest)
    (out : Outparam) (w : World) :
    ∃ result events w', Served config handler request out w result events w' ∧
      host.serve config handler request out w = Action.ofExcept result w' := by
  cases hLimits : config.limits with
  | error fault =>
    exact ⟨_, _, _, .invalid hLimits,
      Host.serveWith_of_answer_error (Host.answerRequest_of_fault hLimits)⟩
  | ok limits =>
    rcases hBody : gather limits.read request.source with ⟨e | bytes, reading⟩
    · exact ⟨_, _, _, .unreceived hLimits hBody,
        Host.serveWith_of_answer_error (answerRequest_of_unreceived w hLimits hBody)⟩
    · obtain ⟨called, sent, replies, hCalled, hAfter⟩ :=
        answer_phase handler (request.shownWith bytes) (w.recordAll reading)
      rcases hAnswer : Host.answer (handler.on host) (request.shownWith bytes)
        (w.recordAll reading) with ⟨answer, w₁⟩
      rw [hAnswer] at hAfter
      obtain rfl : w₁ = _ := hAfter
      have hAnswered := answerRequest_of_received hLimits hBody hAnswer
      cases hRefusal : out.refusal? answer with
      | some refusal =>
        obtain ⟨e, events⟩ := refusal
        exact ⟨_, _, _, .refused hLimits hBody hCalled hAnswer hRefusal,
          Host.serveWith_of_deliver_error hAnswered
            (Host.deliver_of_error (prepare_of_refused _ hRefusal))⟩
      | none =>
        have hDelivered := Host.deliver_of_ok (prepare_of_taken
          ((w.recordAll reading).afterSends called sent replies) hRefusal)
        obtain ⟨result, written, events, hBodyOut, hComplete⟩ := complete_completion out limits
          answer ((((w.recordAll reading).afterSends called sent replies).recordAll
            [.statusSet answer.status]).resolve (out.head answer.fields answer.status))
        refine ⟨_, _, _, .delivered hLimits hBody hCalled hAnswer hRefusal hBodyOut, ?_⟩
        refine (Host.serveWith_of_deliver_ok hAnswered hDelivered).trans ?_
        rw [Action.ensuring, hComplete]
        cases result <;> rfl

theorem serve_served (config : Config) (handler : Handler) (request : IncomingRequest)
    (out : Outparam) (w : World) :
    Served config handler request out w ((host.serve config handler request out).result w)
      (added (host.serve config handler request out) w).events
      ((host.serve config handler request out).after w) := by
  obtain ⟨result, events, w', hServed, hRun⟩ := exists_served config handler request out w
  rw [Action.result_of_eq hRun, Action.after_of_eq hRun, events_added hRun hServed.events_eq]
  exact hServed

end BufferedHttp.Memory
