import BufferedHttp.Proofs.Memory.Delivery

/-!
# A write that fails cuts the body off

When a write fails and no other call does, the chunks before it are out and nothing behind it is
tried: the stream is dropped, the body is not finished, and the answer that the out-parameter got
stays. A write that there is no chunk for cannot fail.
-/

namespace BufferedHttp.Memory

/-- Why the write of a number fails, whatever it is to write. -/
def Outparam.writeFault? (out : Outparam) (k : Nat) : Option StreamError :=
  (out.faults.writes.at? k).or (out.writeFailure.map .failed)

/-- The out-parameter with its faults left out. It still rejects the same headers. -/
def Outparam.faultless (out : Outparam) : Outparam := ⟨none, out.rejected, .none⟩

/-- No call fails but writes, and among them the one of this number is the first. -/
structure Outparam.FailsAt (out : Outparam) (k : Nat) (fault : StreamError) : Prop where
  sound : out.Sound
  before : ∀ j < k, out.writeFault? j = none
  here : out.writeFault? k = some fault

variable {config : Config} {limits : Limits} {handler : Handler} {request : IncomingRequest}
  {shown : Request} {out : Outparam} {answer : Answer} {r : Response} {w w₁ : World} {k : Nat}
  {fault : StreamError}

theorem Outparam.reliable_faultless (out : Outparam) : out.faultless.Reliable := ⟨rfl, rfl⟩

theorem Outparam.failure?_writer (out : Outparam) (k : Nat) {chunk : Bytes}
    (hChunk : chunk.length ≤ maxWriteSize) :
    (out.writer k).failure? chunk = out.writeFault? k := by
  rw [OutputStream.failure?, writeFault?, writer]
  simp only [if_neg (Nat.not_lt.mpr hChunk)]
  cases out.faults.writes.at? k <;> cases out.writeFailure <;> rfl

/-! ## Writing -/

theorem writeAll_append (out : Outparam) (done rest : List Bytes) (calls : Nat) (w : World)
    (hBound : ∀ chunk ∈ done, chunk.length ≤ maxWriteSize)
    (hNone : ∀ j < done.length, out.writeFault? (calls + j) = none) :
    host.writeAll (done ++ rest) (out.writer calls) w =
      host.writeAll rest (out.writer (calls + done.length)) (w.recordWrites done) := by
  induction done generalizing calls w with
  | nil => rw [World.recordWrites_nil]; rfl
  | cons chunk done ih =>
    rw [List.forall_mem_cons] at hBound
    have hNumber (j : Nat) : calls + (j + 1) = calls + 1 + j := by omega
    have hTaken : (out.writer calls).failure? chunk = none :=
      (out.failure?_writer calls hBound.1).trans (hNone 0 (Nat.succ_pos _))
    rw [List.cons_append, host.writeAll_of_ok _ (write_of_taken w hTaken),
      World.recordWrites_cons, List.length_cons, hNumber]
    apply ih (calls + 1) _ hBound.2
    intro j hj
    rw [← hNumber]
    exact hNone (j + 1) (Nat.succ_lt_succ hj)

/-- The stream has been asked for one write more than there are chunks out, and for no other. -/
theorem writeAll_of_fault (out : Outparam) {chunks : List Bytes} (w : World)
    (hBound : ∀ chunk ∈ chunks, chunk.length ≤ maxWriteSize) (hLt : k < chunks.length)
    (hBefore : ∀ j < k, out.writeFault? j = none) (hFault : out.writeFault? k = some fault) :
    host.writeAll chunks (out.writer 0) w =
      (.error fault.ofWrite, out.writer (k + 1), w.recordWrites (chunks.take k)) := by
  have hSplit : chunks = chunks.take k ++ chunks[k] :: chunks.drop (k + 1) := by
    rw [← List.drop_eq_getElem_cons hLt, List.take_append_drop]
  have hLength : (chunks.take k).length = k := List.length_take_of_le (Nat.le_of_lt hLt)
  have hDone : host.writeAll chunks (out.writer 0) w =
      host.writeAll (chunks[k] :: chunks.drop (k + 1)) (out.writer k)
        (w.recordWrites (chunks.take k)) := by
    have hAppend := writeAll_append out (chunks.take k) (chunks[k] :: chunks.drop (k + 1)) 0 w
      (fun chunk hChunk => hBound chunk (List.mem_of_mem_take hChunk))
      (fun j hj => by rw [Nat.zero_add]; exact hBefore j (hLength ▸ hj))
    rwa [← hSplit, hLength, Nat.zero_add] at hAppend
  have hRefused := (out.failure?_writer k (hBound _ (List.getElem_mem hLt))).trans hFault
  rw [hDone, host.writeAll_of_error _ (write_of_refused _ hRefused)]
  rfl

theorem bounded_chunked (limits : Limits) (bytes : Bytes) :
    ∀ chunk ∈ chunked limits.write_pos bytes, chunk.length ≤ maxWriteSize := by
  intro chunk hChunk
  have hSize := ((cuts_chunked limits.write_pos bytes).bounded chunk hChunk).2
  exact Nat.le_trans hSize limits.write_le

theorem writeEvents_take {size : Nat} {bytes : Bytes} {chunks : List Bytes}
    (h : Cuts size bytes chunks) (hLt : k < chunks.length) :
    writeEvents (chunks.take k) = List.replicate k (.write size) := by
  rw [← List.map_replicate, ← h.lengths_take hLt, List.map_map]
  rfl

theorem complete_of_fault (hOpen : out.faults.stream = none) (w : World)
    (hLt : k < (chunked limits.write_pos r.bodyBytes).length)
    (hBefore : ∀ j < k, out.writeFault? j = none) (hFault : out.writeFault? k = some fault) :
    host.complete limits out.body (.response r) w =
      Action.ofExcept (.error fault.ofWrite)
        ((w.recordWrites ((chunked limits.write_pos r.bodyBytes).take k)).recordAll
          [.outputStreamDropped]) := by
  have hAll := writeAll_of_fault out w (bounded_chunked limits r.bodyBytes) hLt hBefore hFault
  exact fill_of_cut hOpen (writeOut_of_writeAll hAll)

/-- When no write fails, all chunks are out before the body is finished. -/
theorem complete_of_no_fault (hOpen : out.faults.stream = none) (w : World)
    (hNone : ∀ j < (chunked limits.write_pos r.bodyBytes).length, out.writeFault? j = none) :
    host.complete limits out.body (.response r) w =
      host.finishOutgoing out.openedBody
        ((w.recordWrites (chunked limits.write_pos r.bodyBytes)).recordAll
          [.outputStreamDropped]) := by
  have hAll := writeAll_append out _ [] 0 w (bounded_chunked limits r.bodyBytes) (fun j hj => by
    rw [Nat.zero_add]
    exact hNone j hj)
  rw [List.append_nil] at hAll
  exact fill_of_written hOpen (writeOut_of_writeAll hAll)

namespace Outparam.FailsAt

theorem complete_of_lt (h : out.FailsAt k fault) (w : World)
    (hLt : k < (chunked limits.write_pos r.bodyBytes).length) :
    host.complete limits out.body (.response r) w =
      Action.ofExcept (.error fault.ofWrite)
        ((w.recordWrites ((chunked limits.write_pos r.bodyBytes).take k)).recordAll
          [.outputStreamDropped]) := by
  have hOpen : out.faults.stream = none := by rw [h.sound.faults_eq]
  exact complete_of_fault hOpen w hLt h.before h.here

theorem complete_of_le (h : out.FailsAt k fault) (w : World)
    (hLe : (chunked limits.write_pos r.bodyBytes).length ≤ k) :
    host.complete limits out.body (.response r) w =
      Action.ofExcept (.ok ())
        ((w.recordWrites (chunked limits.write_pos r.bodyBytes)).recordAll
          [.outputStreamDropped, .outgoingBodyFinished]) := by
  have hOpen : out.faults.stream = none := by rw [h.sound.faults_eq]
  have hFinish : out.faults.finish = none := by rw [h.sound.faults_eq]
  have hNone : host.complete limits out.body (.response r) w = _ :=
    complete_of_no_fault hOpen w fun j hj => h.before j (Nat.lt_of_lt_of_le hj hLe)
  refine hNone.trans ((finish_of_taken _ hFinish).trans ?_)
  rw [World.recordAll_recordAll]
  rfl

end Outparam.FailsAt

/-! ## Serving -/

/-- The client has a response of which the first `k` chunks came out and no more. It is that of
the handler, which returned it in `w₁` while the request in `w` was served. -/
structure Truncated (size k : Nat) (r : Response) (w w₁ w' : World) : Prop where
  resolutions : w'.recording.resolutions = w₁.recording.resolutions + 1
  status : w'.recording.status = some r.status
  headers : w'.recording.headers =
    r.headers.entries.map fun header => (header.name, Text.Utf8.encode header.value)
  body : w'.recording.body = w.recording.body ++ r.bodyBytes.take (k * size)
  writes : w'.recording.writes = w.recording.writes ++ List.replicate k size
  events : w'.recording.events = w₁.recording.events ++ .statusSet r.status :: .outparamSet ::
    (List.replicate k (.write size) ++ [.outputStreamDropped])

theorem truncated_of_cuts {size : Nat} {chunks : List Bytes} (hCuts : Cuts size r.bodyBytes chunks)
    (hLt : k < chunks.length) (hBody : w₁.recording.body = w.recording.body)
    (hWrites : w₁.recording.writes = w.recording.writes) :
    Truncated size k r w w₁
      (((w₁.answered (.response r)).recordWrites (chunks.take k)).recordAll
        [.outputStreamDropped]) where
  resolutions := rfl
  status := rfl
  headers := rfl
  body := by
    rw [World.body_recordAll, World.body_recordWrites, hCuts.flatten_take hLt, ← hBody]
    rfl
  writes := by
    rw [World.writes_recordAll, ← hWrites, ← hCuts.lengths_take hLt]
    rfl
  events := by
    rw [World.events_recordAll, World.events_recordWrites, writeEvents_take hCuts hLt]
    simp [World.answered, Answer.status]

/-- A write that fails leaves the chunks before it and the answer. Nothing is tried behind it: the
stream was asked for `k + 1` writes, and what later ones would come to makes no difference. Where
there is no chunk for the write, there is no failure. -/
theorem failed_write_truncates (handler : Handler) (w : World)
    (hLimits : config.limits = .ok limits) (hReadable : Readable request)
    (hShown : Buffers request shown) (hOut : out.FailsAt k fault)
    (hReturned : (handler shown).run host ((host.receiveRequest limits request).after w) =
      (.ok r, w₁))
    (hStatus : 100 ≤ r.status ∧ r.status ≤ 999)
    (hHeaders : ∀ header ∈ r.headers.entries, out.isRejected header.name = false) :
    (k < (r.bodyBytes.length + (config.writeChunkSize.toNat - 1)) / config.writeChunkSize.toNat →
      (fault = .closed → (host.serve config handler request out).result w =
        .error (.stream "output stream closed")) ∧
      (∀ message, fault = .failed message →
        (host.serve config handler request out).result w = .error (.stream message)) ∧
      Truncated config.writeChunkSize.toNat k r w w₁
        ((host.serve config handler request out).after w) ∧
      (∀ w₂, (host.writeAll (chunked limits.write_pos r.bodyBytes) (out.writer 0) w₂).2.1.calls =
        k + 1) ∧
      ∀ out' : Outparam, out'.rejected = out.rejected → out'.FailsAt k fault →
        host.serve config handler request out' w = host.serve config handler request out w) ∧
    ((r.bodyBytes.length + (config.writeChunkSize.toNat - 1)) / config.writeChunkSize.toNat ≤ k →
      host.serve config handler request out w =
        host.serve config handler request out.faultless w) := by
  have hAnswer := answerRequest_of_returned hLimits hReadable hShown hReturned
  have hCuts := cuts_chunked limits.write_pos r.bodyBytes
  have hFields : ∀ field ∈ r.headers.toFields, out.isRejected field.1 = false := by
    intro field hField
    obtain ⟨header, hHeader, rfl⟩ := List.mem_map.mp hField
    exact hHeaders header hHeader
  rw [← Config.write_of_limits hLimits, ← hCuts.length]
  constructor
  · intro hLt
    have hServe : ∀ out' : Outparam, out'.rejected = out.rejected → out'.FailsAt k fault →
        host.serve config handler request out' w = Action.ofExcept (.error fault.ofWrite)
          (((w₁.answered (.response r)).recordWrites
            ((chunked limits.write_pos r.bodyBytes).take k)).recordAll [.outputStreamDropped]) := by
      intro out' hRejected hOut'
      have hTaken := hOut'.sound.refusal?_response hStatus (by
        simp only [Outparam.isRejected, hRejected]
        exact hFields)
      exact serve_of_complete hAnswer hTaken (hOut'.complete_of_lt _ hLt)
    have hRun := hServe out rfl hOut
    obtain ⟨hBody, hWrites⟩ := unwritten_of_returned hReturned
    refine ⟨?_, ?_, ?_, ?_, ?_⟩
    · rintro rfl
      exact Action.result_of_error hRun
    · rintro message rfl
      exact Action.result_of_error hRun
    · rw [Action.after, hRun]
      exact truncated_of_cuts hCuts hLt hBody hWrites
    · intro w₂
      rw [writeAll_of_fault out w₂ (bounded_chunked limits r.bodyBytes) hLt hOut.before hOut.here]
      rfl
    · intro out' hRejected hOut'
      rw [hServe out' hRejected hOut', hRun]
  · intro hLe
    have hTaken := hOut.sound.refusal?_response hStatus hFields
    have hServe := serve_of_complete hAnswer hTaken (hOut.complete_of_le _ hLe)
    have hFaultless := serve_of_response hLimits hReadable hShown out.reliable_faultless hReturned
      hStatus hFields
    rw [hServe, hFaultless, delivered_eq]
    rfl

theorem two_of_five_bytes_written :
    ∃ w', (host.serve ⟨4, 2, none, none, none⟩
        (fun _ => .done (.ok ⟨200, .empty, some [1, 2, 3, 4, 5]⟩))
        ⟨.get, none, [], [], false, none⟩
        ⟨none, [], { Faults.none with writes := ⟨none, some (1, "broken pipe")⟩ }⟩)
        ⟨.empty, [], 0⟩ = .error (.stream "broken pipe") w' ∧
      w'.recording.status = some 200 ∧ w'.recording.body = [1, 2] ∧
      w'.recording.writes = [2] := by
  have hLimits : Config.limits ⟨4, 2, none, none, none⟩ =
      .ok ⟨4, 2, by decide, by decide, by decide⟩ := rfl
  have hReadable : Readable ⟨.get, none, [], [], false, none⟩ := ⟨rfl, rfl, by simp, by simp⟩
  have hShown : Buffers ⟨.get, none, [], [], false, none⟩ ⟨.get, "/", .empty, some []⟩ :=
    ⟨rfl, rfl, rfl, rfl⟩
  have hOut : Outparam.FailsAt
      ⟨none, [], { Faults.none with writes := ⟨none, some (1, "broken pipe")⟩ }⟩ 1
      (.failed "broken pipe") := ⟨rfl, by decide, rfl⟩
  obtain ⟨hCut, -⟩ := failed_write_truncates
    (fun _ => .done (.ok ⟨200, .empty, some [1, 2, 3, 4, 5]⟩))
    ⟨.empty, [], 0⟩ hLimits hReadable hShown hOut rfl (by decide) (by decide)
  obtain ⟨-, hFailed, hTruncated, -⟩ := hCut (by decide)
  refine ⟨_, ?_, hTruncated.status, hTruncated.body, hTruncated.writes⟩
  rw [Action.eq_ofExcept (host.serve _ _ _ _), hFailed _ rfl]
  rfl

end BufferedHttp.Memory
