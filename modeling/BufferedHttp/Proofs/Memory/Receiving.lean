import BufferedHttp.Proofs.Memory.Reading
import BufferedHttp.Transfer.Serve

/-!
# Requests and responses received

What a received message comes to is decided by its fields, by whether its body can be had, and by
the script of that body. Nothing of the world enters, and only the events of reading are added.
-/

namespace BufferedHttp.Memory

def IncomingRequest.source (r : IncomingRequest) : Except Error Script :=
  if r.consumed then .error (.body "request body already consumed")
  else match r.streamFault with
    | some message => .error (.body message)
    | none => .ok r.script

def IncomingResponse.source (r : IncomingResponse) : Except Error Script :=
  if r.consumed then .error (.body "response body already consumed") else .ok r.script

/-- The request with its body as a handler gets it; the error is a header that does not decode. -/
def IncomingRequest.shownWith (r : IncomingRequest) (bytes : Bytes) : Except Error Request :=
  match HeaderMap.ofFields r.headers with
  | .ok headers => .ok ⟨r.method, r.path.getD "/", headers, some bytes⟩
  | .error u => .error u.toError

/-- The response read whole, and the events on the way. Headers are decoded before the body. -/
def IncomingResponse.received (bound : Nat) (r : IncomingResponse) :
    Except Error Response × List Event :=
  match HeaderMap.ofFields r.headers with
  | .error u => (.error u.toError, [])
  | .ok headers =>
    ((gather bound r.source).1.map fun bytes => ⟨r.status, headers, some bytes⟩,
      (gather bound r.source).2)

theorem IncomingRequest.source_eq_ok_iff (r : IncomingRequest) (script : Script) :
    r.source = .ok script ↔ r.consumed = false ∧ r.streamFault = none ∧ r.script = script := by
  rw [source]
  cases r.consumed <;> cases r.streamFault <;> simp

/-- A request gives out a body with its source, or its source says why not. -/
theorem IncomingRequest.consume_cases (r : IncomingRequest) :
    (∃ e, r.consume = .error e ∧ r.source = .error e) ∨
      ∃ body, r.consume = .ok (body, { r with consumed := true }) ∧ body.source = r.source := by
  rw [consume, source]
  cases r.consumed with
  | true => exact .inl ⟨_, rfl, rfl⟩
  | false =>
    refine .inr ⟨_, rfl, ?_⟩
    cases r.streamFault <;> rfl

theorem IncomingResponse.consume_cases (r : IncomingResponse) :
    (∃ e, r.consume = .error e ∧ r.source = .error e) ∨
      ∃ body, r.consume = .ok (body, { r with consumed := true }) ∧ body.source = r.source := by
  rw [consume, source]
  cases r.consumed with
  | true => exact .inl ⟨_, rfl, rfl⟩
  | false => exact .inr ⟨_, rfl, rfl⟩

theorem receiveRequest_eq (limits : Limits) (r : IncomingRequest) (w : World) :
    host.receiveRequest limits r w =
      Action.ofExcept ((gather limits.read r.source).1.map r.shownWith)
        (w.recordAll (gather limits.read r.source).2) := by
  rw [Host.receiveRequest]
  refine (Action.bind_of_ok rfl).trans ?_
  obtain ⟨e, hConsume, hSource⟩ | ⟨body, hConsume, hSource⟩ := r.consume_cases
  · have hCall : host.consumeRequest r w = .error e w := by
      simp only [hConsume, Action.ofExcept]
    rw [hSource]
    refine (Action.bind_of_error hCall).trans ?_
    simp [gather, Except.map, Action.ofExcept]
  · have hCall : host.consumeRequest r w = .ok (body, { r with consumed := true }) w := by
      simp only [hConsume, Action.ofExcept]
    have hDrain := drain_eq limits.read_pos body w
    rw [hSource] at hDrain
    refine (Action.bind_of_ok hCall).trans ?_
    cases hBytes : (gather limits.read r.source).1 with
    | error e =>
      rw [hBytes] at hDrain
      exact Action.bind_of_error hDrain
    | ok bytes =>
      rw [hBytes] at hDrain
      refine (Action.bind_of_ok hDrain).trans ?_
      simp only [Except.map, IncomingRequest.shownWith]
      rfl

/-- Dropping a response leaves no trace, so none is seen of it on any way out. -/
theorem receiveResponse_eq (limits : Limits) (r : IncomingResponse) (w : World) :
    host.receiveResponse limits r w =
      Action.ofExcept (r.received limits.read).1 (w.recordAll (r.received limits.read).2) := by
  rw [Host.receiveResponse, IncomingResponse.received]
  refine (Action.bind_of_ok rfl).trans ((Action.bind_of_ok rfl).trans ?_)
  cases HeaderMap.ofFields r.headers with
  | error u =>
    refine (Action.bind_of_error rfl).trans ?_
    simp [Action.ofExcept]
  | ok headers =>
    refine (Action.bind_of_ok rfl).trans ?_
    obtain ⟨e, hConsume, hSource⟩ | ⟨body, hConsume, hSource⟩ := r.consume_cases
    · have hCall : host.consumeResponse r w = .error e w := by
        simp only [hConsume, Action.ofExcept]
      rw [hSource]
      refine (Action.bind_of_error (Action.onFailure_of_error hCall)).trans ?_
      simp [gather, Except.map, Action.ofExcept]
    · have hCall : host.consumeResponse r w = .ok (body, { r with consumed := true }) w := by
        simp only [hConsume, Action.ofExcept]
      have hDrain := drain_eq limits.read_pos body w
      rw [hSource] at hDrain
      refine (Action.bind_of_ok (Action.onFailure_of_ok hCall)).trans ?_
      cases hBytes : (gather limits.read r.source).1 with
      | error e =>
        rw [hBytes] at hDrain
        exact Action.bind_of_error (Action.ensuring_of_error hDrain)
      | ok bytes =>
        rw [hBytes] at hDrain
        exact Action.bind_of_ok (Action.ensuring_of_ok hDrain)

end BufferedHttp.Memory
