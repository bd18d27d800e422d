import BufferedHttp.Proofs.Memory.Receiving

/-!
# Sending on the host in memory

A send that its configuration and its request allow reaches the host, which takes one reply off
its queue. The future blocks as often as the host says, is released behind its pollable, and only
then the reply is read.
-/

namespace BufferedHttp.Memory

/-- What a reply comes to when its response is read whole, and the events of reading it. -/
def Reply.received (bound : Nat) : Reply → Except Error Response × List Event
  | .transport message => (.error (.transport message), [])
  | .response r => r.received bound

def Reply.outcome : Reply → Except Error IncomingResponse
  | .transport message => .error (.transport message)
  | .response r => .ok r

def waitingEvents (pending : Nat) : List Event :=
  List.replicate pending .blocked ++ [.pollableDropped, .futureDropped]

namespace Future

theorem poll_waiting (reply : Option Reply) (pending : Nat) :
    poll ⟨reply, pending + 1⟩ = (none, ⟨reply, pending + 1⟩) := by
  simp [poll]

theorem poll_ready (reply : Reply) : poll ⟨some reply, 0⟩ = (some reply.outcome, ⟨none, 0⟩) := by
  cases reply <;> rfl

theorem poll_empty : poll ⟨none, 0⟩ = (some (.error .responseAlreadyTaken), ⟨none, 0⟩) := rfl

end Future

/-- The first outcome ends the wait, and leaves nothing in the future. -/
theorem awaitOutcome_eq (pollable : Pollable) (reply : Reply) (pending : Nat) (w : World) :
    host.awaitOutcome pollable (Future.mk (some reply) pending) w =
      (reply.outcome, ⟨none, 0⟩, w.recordAll (List.replicate pending .blocked)) := by
  induction pending generalizing w with
  | zero =>
    have hPoll : host.poll ⟨some reply, 0⟩ w = (some reply.outcome, ⟨none, 0⟩, w) := by
      simp only [Future.poll_ready]
    rw [host.awaitOutcome_of_some pollable hPoll]
    simp
  | succ pending ih =>
    have hPoll : host.poll ⟨some reply, pending + 1⟩ w =
        (none, ⟨some reply, pending + 1⟩, w) := by
      simp only [Future.poll_waiting]
    have hBlock : host.block pollable ⟨some reply, pending + 1⟩ w =
        (⟨some reply, pending⟩, w.recordAll [.blocked]) := rfl
    rw [host.awaitOutcome_of_none pollable hPoll, hBlock, ih, World.recordAll_recordAll,
      List.replicate_succ, List.singleton_append]

theorem await_eq (reply : Reply) (pending : Nat) (w : World) :
    host.await (Future.mk (some reply) pending) w =
      Action.ofExcept reply.outcome (w.recordAll (waitingEvents pending)) := by
  apply Action.ofCall_eq_ofExcept
  simp only [awaitOutcome_eq, World.record_eq_recordAll, World.recordAll_recordAll, waitingEvents,
    List.append_assoc, List.singleton_append]

section Send

variable {config : Config} {request : Request} {limits : Limits} {head : RequestHead} {w : World}

theorem send_of_exhausted (hLimits : config.limits = .ok limits)
    (hHead : request.outgoingHead = .ok head) (h : w.replies = []) :
    host.send config request w = .error (.host "no reply queued")
      { w with recording := w.recording.addSent head config.requestOptions } := by
  have hHandle : host.handle head config.requestOptions w = .error (.host "no reply queued")
      { w with recording := w.recording.addSent head config.requestOptions } := by
    simp only [Action.ofCall, World.handle, h]
  rw [Host.send, hLimits, hHead]
  exact (Action.bind_of_ok rfl).trans ((Action.bind_of_ok rfl).trans (Action.bind_of_error hHandle))

theorem send_of_reply {reply : Reply} {replies : List Reply} (hLimits : config.limits = .ok limits)
    (hHead : request.outgoingHead = .ok head) (h : w.replies = reply :: replies) :
    host.send config request w =
      Action.ofExcept (reply.received limits.read).1
        ({ w with
            recording := w.recording.addSent head config.requestOptions
            replies }.recordAll (waitingEvents w.pending ++ (reply.received limits.read).2)) := by
  have hHandle : host.handle head config.requestOptions w =
      .ok ⟨some reply, w.pending⟩
        { w with recording := w.recording.addSent head config.requestOptions, replies } := by
    simp only [Action.ofCall, World.handle, h]
  rw [Host.send, hLimits, hHead]
  refine (Action.bind_of_ok rfl).trans ((Action.bind_of_ok rfl).trans
    ((Action.bind_of_ok hHandle).trans ?_))
  have hAwait := await_eq reply w.pending
    { w with recording := w.recording.addSent head config.requestOptions, replies }
  cases reply with
  | transport message =>
    rw [Action.bind_of_error hAwait]
    simp [Reply.received, Action.ofExcept]
  | response r =>
    rw [Action.bind_of_ok hAwait, receiveResponse_eq, World.recordAll_recordAll, Reply.received]

end Send

end BufferedHttp.Memory
