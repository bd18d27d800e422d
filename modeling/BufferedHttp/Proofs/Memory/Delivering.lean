import BufferedHttp.Proofs.Action
import BufferedHttp.Proofs.Memory.Recording
import BufferedHttp.Memory.Host
import BufferedHttp.Transfer.Serve

/-!
# Delivering an answer on the host in memory

An out-parameter takes an answer unless one of its calls refuses, and then the body is written in
chunks until a write is refused. Both are decided by the out-parameter and the answer alone.
-/

namespace BufferedHttp.Memory

def Faults.ofStatus? (f : Faults) (status : UInt16) : Option Error :=
  match f.status with
  | some message => some (.host message)
  | .none =>
    if 100 ≤ status ∧ status ≤ 999 then .none else some (.host s!"invalid status code {status}")

/-- Why a response under construction does not become an answer, and the events up to that. A
response has its status set before its body is taken, an internal error the other way round. -/
def Faults.ofAnswer? (f : Faults) : Answer → Option (Error × List Event)
  | .response r =>
    match f.ofStatus? r.status with
    | some e => some (e, [])
    | .none => f.body.map fun message => (.body message, [.statusSet r.status])
  | .internalError =>
    match f.body with
    | some message => some (.body message, [])
    | .none => (f.ofStatus? 500).map fun e => (e, [])

/-- Why an answer is not taken, if it is not, and the events up to that. -/
def Outparam.refusal? (out : Outparam) (answer : Answer) : Option (Error × List Event) :=
  match out.newResponse answer.fields with
  | .error e => some (e, [])
  | .ok _ => out.faults.ofAnswer? answer

/-- A response for an out-parameter as it is made. -/
def Outparam.blank (out : Outparam) (fields : FieldList) : OutgoingResponse :=
  ⟨fields, 200, false, out.writeFailure, out.faults⟩

/-- The response that an out-parameter takes. Its body was given out. -/
def Outparam.head (out : Outparam) (fields : FieldList) (status : UInt16) : OutgoingResponse :=
  ⟨fields, status, true, out.writeFailure, out.faults⟩

def Outparam.body (out : Outparam) : OutgoingBody := ⟨false, out.writeFailure, out.faults⟩

theorem Outparam.eq_blank_of_newResponse {out : Outparam} {fields : FieldList}
    {response : OutgoingResponse} (h : out.newResponse fields = .ok response) :
    response = out.blank fields := by
  rw [newResponse] at h
  split at h
  · cases h
  · split at h
    · cases h
    · cases h
      rfl

/-- Before an answer is refused at most its status is set. -/
theorem Outparam.events_of_refusal {out : Outparam} {answer : Answer} {e : Error}
    {events : List Event} (h : out.refusal? answer = some (e, events)) :
    events = [] ∨ events = [.statusSet answer.status] := by
  rw [refusal?] at h
  cases hNew : out.newResponse answer.fields with
  | error e' =>
    rw [hNew] at h
    cases h
    exact .inl rfl
  | ok response =>
    rw [hNew] at h
    cases answer with
    | response r =>
      cases hStatus : out.faults.ofStatus? r.status with
      | some e' =>
        simp only [Faults.ofAnswer?, hStatus] at h
        cases h
        exact .inl rfl
      | none =>
        simp only [Faults.ofAnswer?, hStatus, Option.map_eq_some_iff] at h
        obtain ⟨message, -, hPair⟩ := h
        cases hPair
        exact .inr rfl
    | internalError =>
      cases hBody : out.faults.body with
      | some message =>
        simp only [Faults.ofAnswer?, hBody] at h
        cases h
        exact .inl rfl
      | none =>
        simp only [Faults.ofAnswer?, hBody, Option.map_eq_some_iff] at h
        obtain ⟨e', -, hPair⟩ := h
        cases hPair
        exact .inl rfl

theorem setStatus_of_refused {r : OutgoingResponse} {status : UInt16} {e : Error} (w : World)
    (h : r.faults.ofStatus? status = some e) : host.setStatus r status w = .error e w := by
  rw [Faults.ofStatus?] at h
  simp only [Action.ofCall, OutgoingResponse.setStatus]
  cases hFault : r.faults.status with
  | some message =>
    rw [hFault] at h
    cases h
    rfl
  | none =>
    simp only [hFault] at h
    split at h
    · cases h
    · rename_i hRange
      cases h
      simp only [if_neg hRange]

theorem setStatus_of_taken {r : OutgoingResponse} {status : UInt16} (w : World)
    (h : r.faults.ofStatus? status = none) :
    host.setStatus r status w = .ok { r with status } (w.recordAll [.statusSet status]) := by
  rw [Faults.ofStatus?] at h
  simp only [Action.ofCall, OutgoingResponse.setStatus]
  cases hFault : r.faults.status with
  | some message =>
    rw [hFault] at h
    cases h
  | none =>
    simp only [hFault] at h
    split at h
    · rename_i hRange
      simp only [if_pos hRange, World.record_eq_recordAll]
    · cases h

theorem takeBody_of_refused {r : OutgoingResponse} {message : String} (w : World)
    (h : r.faults.body = some message) : host.takeBody r w = .error (.body message) w := by
  simp only [OutgoingResponse.body, h, Action.ofExcept]

theorem takeBody_of_taken {r : OutgoingResponse} (w : World) (hFresh : r.bodyTaken = false)
    (h : r.faults.body = none) :
    host.takeBody r w =
      .ok (⟨false, r.writeFailure, r.faults⟩, { r with bodyTaken := true }) w := by
  simp [OutgoingResponse.body, h, hFresh, Action.ofExcept]

theorem finishHead_of_refused {r : OutgoingResponse} {answer : Answer} {e : Error}
    {events : List Event} (w : World) (hFresh : r.bodyTaken = false)
    (h : r.faults.ofAnswer? answer = some (e, events)) :
    host.finishHead r answer w = .error e (w.recordAll events) := by
  cases answer with
  | response response =>
    cases hStatus : r.faults.ofStatus? response.status with
    | some e' =>
      simp only [Faults.ofAnswer?, hStatus] at h
      cases h
      rw [World.recordAll_nil]
      exact Action.bind_of_error (setStatus_of_refused w hStatus)
    | none =>
      cases hBody : r.faults.body with
      | none => simp [Faults.ofAnswer?, hStatus, hBody] at h
      | some message =>
        simp only [Faults.ofAnswer?, hStatus, hBody] at h
        cases h
        exact (Action.bind_of_ok (setStatus_of_taken w hStatus)).trans
          (Action.bind_of_error (takeBody_of_refused _ hBody))
  | internalError =>
    cases hBody : r.faults.body with
    | some message =>
      simp only [Faults.ofAnswer?, hBody] at h
      cases h
      rw [World.recordAll_nil]
      exact Action.bind_of_error (takeBody_of_refused w hBody)
    | none =>
      cases hStatus : r.faults.ofStatus? 500 with
      | none => simp [Faults.ofAnswer?, hStatus, hBody] at h
      | some e' =>
        simp only [Faults.ofAnswer?, hStatus, hBody] at h
        cases h
        rw [World.recordAll_nil]
        exact (Action.bind_of_ok (takeBody_of_taken w hFresh hBody)).trans
          (Action.bind_of_error (Action.onFailure_of_error (setStatus_of_refused w hStatus)))

theorem finishHead_of_taken {r : OutgoingResponse} {answer : Answer} (w : World)
    (hFresh : r.bodyTaken = false) (h : r.faults.ofAnswer? answer = none) :
    host.finishHead r answer w =
      .ok ({ r with status := answer.status, bodyTaken := true },
        ⟨false, r.writeFailure, r.faults⟩)
        (w.recordAll [.statusSet answer.status]) := by
  cases answer with
  | response response =>
    cases hStatus : r.faults.ofStatus? response.status with
    | some e' => simp [Faults.ofAnswer?, hStatus] at h
    | none =>
      have hBody : r.faults.body = none := by simpa [Faults.ofAnswer?, hStatus] using h
      have hTaken := takeBody_of_taken (r := { r with status := response.status })
        (w.recordAll [.statusSet response.status]) hFresh hBody
      exact (Action.bind_of_ok (setStatus_of_taken w hStatus)).trans (Action.bind_of_ok hTaken)
  | internalError =>
    cases hBody : r.faults.body with
    | some message => simp [Faults.ofAnswer?, hBody] at h
    | none =>
      have hStatus : r.faults.ofStatus? 500 = none := by simpa [Faults.ofAnswer?, hBody] using h
      exact (Action.bind_of_ok (takeBody_of_taken w hFresh hBody)).trans
        (Action.bind_of_ok (Action.onFailure_of_ok (setStatus_of_taken w hStatus)))

theorem prepare_of_refused {out : Outparam} {answer : Answer} {e : Error} {events : List Event}
    (w : World) (h : out.refusal? answer = some (e, events)) :
    host.prepare out answer w = .error e (w.recordAll events) := by
  rw [Outparam.refusal?] at h
  cases hNew : out.newResponse answer.fields with
  | error e' =>
    rw [hNew] at h
    cases h
    have hCall : host.newResponse out answer.fields w = .error e w := by
      simp only [hNew, Action.ofExcept]
    rw [World.recordAll_nil]
    exact Action.bind_of_error hCall
  | ok response =>
    rw [hNew] at h
    obtain rfl := out.eq_blank_of_newResponse hNew
    have hCall : host.newResponse out answer.fields w = .ok (out.blank answer.fields) w := by
      simp only [hNew, Action.ofExcept]
    exact (Action.bind_of_ok hCall).trans
      (Action.onFailure_of_error (finishHead_of_refused w rfl h))

theorem prepare_of_taken {out : Outparam} {answer : Answer} (w : World)
    (h : out.refusal? answer = none) :
    host.prepare out answer w = .ok (out.head answer.fields answer.status, out.body)
      (w.recordAll [.statusSet answer.status]) := by
  rw [Outparam.refusal?] at h
  cases hNew : out.newResponse answer.fields with
  | error e =>
    rw [hNew] at h
    cases h
  | ok response =>
    rw [hNew] at h
    obtain rfl := out.eq_blank_of_newResponse hNew
    have hCall : host.newResponse out answer.fields w = .ok (out.blank answer.fields) w := by
      simp only [hNew, Action.ofExcept]
    exact (Action.bind_of_ok hCall).trans (Action.onFailure_of_ok (finishHead_of_taken w rfl h))

end BufferedHttp.Memory
