import BufferedHttp.Proofs.Host.Phases
import BufferedHttp.Proofs.Memory.Delivering
import BufferedHttp.Proofs.Transfer.Chunks

/-!
# Completing the body of an answer on the host in memory

The chunks of a response are written until a write is refused, the stream is dropped, and the body
is finished when all chunks went out. The body of an internal error is only finished.
-/

namespace BufferedHttp.Memory

/-- The stream of the body of a response behind so many writes. -/
def Outparam.writer (out : Outparam) (calls : Nat) : OutputStream :=
  ⟨out.writeFailure, out.faults, calls⟩

/-- The body of a response whose stream was taken. -/
def Outparam.openedBody (out : Outparam) : OutgoingBody := { out.body with streamTaken := true }

/-- How the body of an answer that was taken comes out: the result, the chunks that were written,
and the events behind them. -/
inductive Completion (out : Outparam) (limits : Limits) :
    Answer → Except Error Unit → List Bytes → List Event → Prop where
  | unopened {r : Response} {message : String} (hOpen : out.faults.stream = some message) :
      Completion out limits (.response r) (.error (.body message)) [] []
  | cut {r : Response} {done rest : List Bytes} {chunk : Bytes} {fault : StreamError}
      (hOpen : out.faults.stream = none)
      (hChunks : chunked limits.write_pos r.bodyBytes = done ++ chunk :: rest)
      (hFault : (out.writer done.length).failure? chunk = some fault) :
      Completion out limits (.response r) (.error fault.ofWrite) done [.outputStreamDropped]
  | unfinished {r : Response} {message : String} (hOpen : out.faults.stream = none)
      (hFinish : out.faults.finish = some message) :
      Completion out limits (.response r) (.error (.host message))
        (chunked limits.write_pos r.bodyBytes) [.outputStreamDropped]
  | finished {r : Response} (hOpen : out.faults.stream = none)
      (hFinish : out.faults.finish = none) :
      Completion out limits (.response r) (.ok ()) (chunked limits.write_pos r.bodyBytes)
        [.outputStreamDropped, .outgoingBodyFinished]
  | bareUnfinished {message : String} (hFinish : out.faults.finish = some message) :
      Completion out limits .internalError (.error (.host message)) [] []
  | bareFinished (hFinish : out.faults.finish = none) :
      Completion out limits .internalError (.ok ()) [] [.outgoingBodyFinished]

section

variable {out : Outparam} {limits : Limits} {answer : Answer} {result : Except Error Unit}
  {written : List Bytes} {events : List Event}

theorem Completion.events_eq (h : Completion out limits answer result written events) :
    written = [] ∧ (events = [] ∨ events = [.outgoingBodyFinished]) ∨
      events = [.outputStreamDropped] ∨
      events = [.outputStreamDropped, .outgoingBodyFinished] := by
  cases h with
  | unopened | bareUnfinished => exact .inl ⟨rfl, .inl rfl⟩
  | bareFinished => exact .inl ⟨rfl, .inr rfl⟩
  | cut | unfinished => exact .inr (.inl rfl)
  | finished => exact .inr (.inr rfl)

end

theorem openOutput_of_refused {out : Outparam} {message : String} (w : World)
    (h : out.faults.stream = some message) :
    host.openOutput out.body w = .error (.body message) w := by
  simp only [OutgoingBody.stream, Outparam.body, h, Action.ofExcept]

theorem openOutput_of_taken {out : Outparam} (w : World) (h : out.faults.stream = none) :
    host.openOutput out.body w = .ok (out.writer 0, out.openedBody) w := by
  simp [OutgoingBody.stream, Outparam.openedBody, Outparam.body, Outparam.writer, h,
    Action.ofExcept]

theorem write_of_refused {stream : OutputStream} {chunk : Bytes} {fault : StreamError} (w : World)
    (h : stream.failure? chunk = some fault) :
    host.write stream chunk w = (.error fault, { stream with calls := stream.calls + 1 }, w) := by
  simp only [OutputStream.write, h]

theorem write_of_taken {stream : OutputStream} {chunk : Bytes} (w : World)
    (h : stream.failure? chunk = none) :
    host.write stream chunk w = (.ok (), { stream with calls := stream.calls + 1 },
      { w with recording := w.recording.addWrite chunk }) := by
  simp only [OutputStream.write, h]

theorem finish_of_refused {body : OutgoingBody} {message : String} (w : World)
    (h : body.faults.finish = some message) :
    host.finishOutgoing body w = .error (.host message) w := by
  simp only [Action.ofCall, OutgoingBody.finish, h]

theorem finish_of_taken {body : OutgoingBody} (w : World) (h : body.faults.finish = none) :
    host.finishOutgoing body w = .ok () (w.recordAll [.outgoingBodyFinished]) := by
  simp only [Action.ofCall, OutgoingBody.finish, h, World.record_eq_recordAll]

/-- Either all chunks are written, or those before the first that is refused. -/
theorem writeAll_cases (out : Outparam) (calls : Nat) (chunks : List Bytes) (w : World) :
    (∃ stream, host.writeAll chunks (out.writer calls) w =
      (.ok (), stream, w.recordWrites chunks)) ∨
    ∃ done chunk rest fault stream, chunks = done ++ chunk :: rest ∧
      (out.writer (calls + done.length)).failure? chunk = some fault ∧
      host.writeAll chunks (out.writer calls) w =
        (.error fault.ofWrite, stream, w.recordWrites done) := by
  induction chunks generalizing calls w with
  | nil => exact .inl ⟨out.writer calls, by rw [World.recordWrites_nil]; rfl⟩
  | cons chunk chunks ih =>
    cases hFault : (out.writer calls).failure? chunk with
    | some fault =>
      refine .inr ⟨[], chunk, chunks, fault, out.writer (calls + 1), rfl, hFault, ?_⟩
      rw [host.writeAll_of_error chunks (write_of_refused w hFault), World.recordWrites_nil]
      rfl
    | none =>
      rw [host.writeAll_of_ok chunks (write_of_taken w hFault)]
      obtain ⟨stream, hAll⟩ | ⟨done, chunk', rest, fault, stream, hChunks, hFault', hAll⟩ :=
        ih (calls + 1) { w with recording := w.recording.addWrite chunk }
      · left
        exact ⟨stream, hAll.trans (by rw [World.recordWrites_cons])⟩
      · refine .inr ⟨chunk :: done, chunk', rest, fault, stream, ?_, ?_, ?_⟩
        · rw [hChunks, List.cons_append]
        · rwa [List.length_cons, Nat.add_comm done.length, ← Nat.add_assoc]
        · exact hAll.trans (by rw [World.recordWrites_cons])

theorem writeOut_of_writeAll {chunks done : List Bytes} {stream stream' : OutputStream}
    {result : Except Error Unit} {w : World}
    (h : host.writeAll chunks stream w = (result, stream', w.recordWrites done)) :
    host.writeOut chunks stream w =
      Action.ofExcept result ((w.recordWrites done).recordAll [.outputStreamDropped]) := by
  apply Action.ofCall_eq_ofExcept
  simp only [h, World.record_eq_recordAll]

theorem fill_of_unopened {out : Outparam} {message : String} (chunks : List Bytes) (w : World)
    (h : out.faults.stream = some message) :
    host.fill out.body chunks w = .error (.body message) w :=
  Host.fill_of_open_error chunks (openOutput_of_refused w h)

theorem fill_of_cut {out : Outparam} {chunks : List Bytes} {e : Error} {w w' : World}
    (hOpen : out.faults.stream = none)
    (hOut : host.writeOut chunks (out.writer 0) w = .error e w') :
    host.fill out.body chunks w = .error e w' :=
  Host.fill_of_write_error (openOutput_of_taken w hOpen) hOut

theorem fill_of_written {out : Outparam} {chunks : List Bytes} {w w' : World}
    (hOpen : out.faults.stream = none)
    (hOut : host.writeOut chunks (out.writer 0) w = .ok () w') :
    host.fill out.body chunks w = host.finishOutgoing out.openedBody w' :=
  Host.fill_of_write_ok (openOutput_of_taken w hOpen) hOut

theorem fill_completion (out : Outparam) (limits : Limits) (r : Response) (w : World) :
    ∃ result written events, Completion out limits (.response r) result written events ∧
      host.fill out.body (chunked limits.write_pos r.bodyBytes) w =
        Action.ofExcept result ((w.recordWrites written).recordAll events) := by
  cases hOpen : out.faults.stream with
  | some message =>
    refine ⟨_, _, _, .unopened hOpen, ?_⟩
    rw [World.recordWrites_nil, World.recordAll_nil]
    exact fill_of_unopened _ w hOpen
  | none =>
    obtain ⟨stream, hAll⟩ | ⟨done, chunk, rest, fault, stream, hChunks, hFault, hAll⟩ :=
      writeAll_cases out 0 (chunked limits.write_pos r.bodyBytes) w
    · have hFill := fill_of_written hOpen (writeOut_of_writeAll hAll)
      cases hFinish : out.faults.finish with
      | some message =>
        exact ⟨_, _, _, .unfinished hOpen hFinish, hFill.trans (finish_of_refused _ hFinish)⟩
      | none =>
        refine ⟨_, _, _, .finished hOpen hFinish, hFill.trans ?_⟩
        exact (finish_of_taken _ hFinish).trans (by rw [World.recordAll_recordAll]; rfl)
    · rw [Nat.zero_add] at hFault
      exact ⟨_, _, _, .cut hOpen hChunks hFault, fill_of_cut hOpen (writeOut_of_writeAll hAll)⟩

theorem complete_completion (out : Outparam) (limits : Limits) (answer : Answer) (w : World) :
    ∃ result written events, Completion out limits answer result written events ∧
      host.complete limits out.body answer w =
        Action.ofExcept result ((w.recordWrites written).recordAll events) := by
  cases answer with
  | response r => exact fill_completion out limits r w
  | internalError =>
    cases hFinish : out.faults.finish with
    | some message =>
      refine ⟨_, _, _, .bareUnfinished hFinish, ?_⟩
      rw [World.recordWrites_nil, World.recordAll_nil]
      exact finish_of_refused w hFinish
    | none =>
      refine ⟨_, _, _, .bareFinished hFinish, ?_⟩
      rw [World.recordWrites_nil]
      exact finish_of_taken w hFinish

end BufferedHttp.Memory
