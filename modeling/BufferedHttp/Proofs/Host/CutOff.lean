import BufferedHttp.Proofs.Host.Tapped
import BufferedHttp.Proofs.Host.Watched

/-!
# Runs that are cut off

Operations that never end a stream, or never have a response, run on without end. Cut off, every
stream is closed behind a number of reads and every future fails behind a number of looks, and then
the laws of a host hold. Reading and waiting go on what is cut off as on the operations themselves,
up to the cut; where they end before, the cut does not show. So what holds on every host holds of
every beginning of a run without end.
-/

namespace BufferedHttp

open BufferedHttp.Action

variable {World : Type}

namespace Operations

/-- What a look at a future gives behind the cut. -/
def late : Error := .host "cut off"

/-- The operations with so many reads of each stream and so many looks at each future. -/
@[reducible] def cutOff (ops : Operations World) (reads looks : Nat) : Host World where
  IncomingBody := ops.IncomingBody
  InputStream := ops.InputStream × Nat
  openInput b := do
    let (stream, body) ← ops.openInput b
    return ((stream, reads), body)
  read
    | (s, 0), _, w => (.error .closed, (s, 0), w)
    | (s, left + 1), n, w =>
      let r := ops.read s n w
      (r.1, (r.2.1, left), r.2.2)
  dropInput s := ops.dropInput s.1
  finishIncoming := ops.finishIncoming
  dropIncoming := ops.dropIncoming
  unread s := s.2
  unread_read := by
    rintro ⟨s, left⟩ n w bytes s' w' - h
    cases left with
    | zero => cases h
    | succ left =>
      obtain ⟨-, h⟩ := Prod.mk.inj h
      obtain ⟨rfl, -⟩ := Prod.mk.inj h
      exact Nat.lt_succ_self left
  IncomingRequest := ops.IncomingRequest
  requestMethod := ops.requestMethod
  requestPath := ops.requestPath
  requestHeaders := ops.requestHeaders
  consumeRequest := ops.consumeRequest
  dropRequest := ops.dropRequest
  Outparam := ops.Outparam
  OutgoingResponse := ops.OutgoingResponse
  OutgoingBody := ops.OutgoingBody
  OutputStream := ops.OutputStream
  newResponse := ops.newResponse
  setStatus := ops.setStatus
  takeBody := ops.takeBody
  dropResponse := ops.dropResponse
  resolve := ops.resolve
  reject := ops.reject
  openOutput := ops.openOutput
  write := ops.write
  dropOutput := ops.dropOutput
  finishOutgoing := ops.finishOutgoing
  dropOutgoing := ops.dropOutgoing
  Future := ops.Future × Nat
  Pollable := ops.Pollable
  IncomingResponse := ops.IncomingResponse
  handle head options := do
    let future ← ops.handle head options
    return (future, looks)
  subscribe f := ops.subscribe f.1
  poll
    | (f, 0), w => (some (.error late), (f, 0), w)
    | (f, left + 1), w =>
      let r := ops.poll f w
      (r.1, (r.2.1, left), r.2.2)
  block p f w :=
    let r := ops.block p f.1 w
    ((r.1, f.2), r.2)
  dropPollable := ops.dropPollable
  dropFuture f := ops.dropFuture f.1
  waits f := f.2
  waits_block := by
    rintro p ⟨f, left⟩ f' w w' h
    cases left with
    | zero => cases h
    | succ left =>
      obtain ⟨-, h⟩ := Prod.mk.inj h
      obtain ⟨rfl, -⟩ := Prod.mk.inj h
      exact Nat.lt_succ_self left
  responseStatus := ops.responseStatus
  responseHeaders := ops.responseHeaders
  consumeResponse := ops.consumeResponse
  dropIncomingResponse := ops.dropIncomingResponse

/-! ## Reading -/

/-- Reads of a stream, one after the other, and what each gave. -/
inductive Reads (ops : Operations World) (bound : Nat) :
    ops.InputStream → World → List Bytes → ops.InputStream → World → Prop where
  | nil (s : ops.InputStream) (w : World) : Reads ops bound s w [] s w
  | cons {s s₁ s' : ops.InputStream} {w w₁ w' : World} {bytes : Bytes} {pieces : List Bytes}
      (h : ops.read s bound w = (.ok bytes, s₁, w₁)) (hRest : Reads ops bound s₁ w₁ pieces s' w') :
      Reads ops bound s w (bytes :: pieces) s' w'

variable {ops : Operations World} {reads looks bound : Nat}

/-- The reads that come first do not depend on where the run is cut. -/
theorem Reads.readAll_eq (pos : 0 < bound) {s s' : ops.InputStream} {w w' : World}
    {pieces : List Bytes} (h : ops.Reads bound s w pieces s' w') (left : Nat) (before : Bytes) :
    (ops.cutOff reads looks).readAll pos (s, pieces.length + left) before w =
      (ops.cutOff reads looks).readAll pos (s', left) (before ++ pieces.flatten) w' := by
  induction h generalizing before with
  | nil s w => simp
  | @cons s s₁ s' w w₁ w' bytes pieces h hRest ih =>
    have hRead : (ops.cutOff reads looks).read (s, pieces.length + left + 1) bound w =
        (.ok bytes, (s₁, pieces.length + left), w₁) := by
      simp only [h]
    rw [List.length_cons, Nat.add_right_comm, Host.readAll_of_ok _ pos before hRead, ih,
      List.flatten_cons, List.append_assoc]

/-- A stream has so many reads that give bytes, or fewer up to one that gives none. -/
theorem exists_reads (ops : Operations World) (bound : Nat) (s : ops.InputStream) (w : World)
    (count : Nat) :
    ∃ pieces s' w', ops.Reads bound s w pieces s' w' ∧
      (pieces.length = count ∨
        pieces.length < count ∧ ∃ e s'' w'', ops.read s' bound w' = (.error e, s'', w'')) := by
  induction count generalizing s w with
  | zero => exact ⟨[], s, w, .nil s w, .inl rfl⟩
  | succ count ih =>
    match h : ops.read s bound w with
    | (.ok bytes, s₁, w₁) =>
      obtain ⟨pieces, s', w', hReads, hEnd⟩ := ih s₁ w₁
      refine ⟨bytes :: pieces, s', w', .cons h hReads, ?_⟩
      rw [List.length_cons, Nat.succ_inj, Nat.succ_lt_succ_iff]
      exact hEnd
    | (.error e, s'', w'') => exact ⟨[], s, w, .nil s w, .inr ⟨Nat.succ_pos count, e, s'', w'', h⟩⟩

/-- What reading comes to at a read that gives no bytes. -/
def ending (bytes : Bytes) : StreamError → Except String Bytes
  | .closed => .ok bytes
  | .failed message => .error message

theorem readAll_of_error {s s' : ops.InputStream} {w w' : World} {e : StreamError}
    (pos : 0 < bound) (h : ops.read s bound w = (.error e, s', w')) (left : Nat) (before : Bytes) :
    (ops.cutOff reads looks).readAll pos (s, left + 1) before w =
      (ending before e, (s', left), w') := by
  have hRead : (ops.cutOff reads looks).read (s, left + 1) bound w =
      (.error e, (s', left), w') := by
    simp only [h]
  cases e with
  | closed => exact Host.readAll_of_closed _ pos before hRead
  | failed message => exact Host.readAll_of_failed _ pos before hRead

/-- Reading what is cut off takes the first reads of the stream itself. Either all that the cut
allows give bytes, or the one that gives none ends the reading as it does without a cut. -/
theorem readAll_cutOff (ops : Operations World) (reads looks : Nat) (pos : 0 < bound)
    (s : ops.InputStream) (left : Nat) (before : Bytes) (w : World) :
    ∃ pieces s' w', ops.Reads bound s w pieces s' w' ∧
      (pieces.length = left ∧ (ops.cutOff reads looks).readAll pos (s, left) before w =
          (.ok (before ++ pieces.flatten), (s', 0), w') ∨
        ∃ e s'' w'' spare, left = pieces.length + (spare + 1) ∧
          ops.read s' bound w' = (.error e, s'', w'') ∧
          (ops.cutOff reads looks).readAll pos (s, left) before w =
            (ending (before ++ pieces.flatten) e, (s'', spare), w'')) := by
  obtain ⟨pieces, s', w', hReads, rfl | ⟨hLt, e, s'', w'', hRead⟩⟩ :=
    ops.exists_reads bound s w left
  · refine ⟨pieces, s', w', hReads, .inl ⟨rfl, ?_⟩⟩
    have hCut :
        (ops.cutOff reads looks).read (s', 0) bound w' = (.error .closed, (s', 0), w') := rfl
    exact (hReads.readAll_eq pos 0 before).trans (Host.readAll_of_closed _ pos _ hCut)
  · obtain ⟨spare, rfl⟩ := Nat.exists_eq_add_of_lt hLt
    refine ⟨pieces, s', w', hReads, .inr ⟨e, s'', w'', spare, Nat.add_assoc _ _ _, hRead, ?_⟩⟩
    rw [Nat.add_assoc, hReads.readAll_eq pos]
    exact readAll_of_error pos hRead spare _

section Host

variable {host : Host World} {s s' : host.InputStream} {w w' : World} {pieces : List Bytes}

theorem Reads.length_add_unread_le (pos : 0 < bound)
    (h : Reads host.toOperations bound s w pieces s' w') :
    pieces.length + host.unread s' ≤ host.unread s := by
  induction h with
  | nil s w => simp
  | cons h hRest ih =>
    have hLess := host.unread_read pos h
    rw [List.length_cons]
    omega

theorem Reads.readAll_host (pos : 0 < bound) (h : Reads host.toOperations bound s w pieces s' w')
    (before : Bytes) :
    host.readAll pos s before w = host.readAll pos s' (before ++ pieces.flatten) w' := by
  induction h generalizing before with
  | nil s w => simp
  | cons h hRest ih =>
    rw [host.readAll_of_ok pos before h, ih, List.flatten_cons, List.append_assoc]

/-- On a host a cut behind the end does not show. -/
theorem readAll_cutOff_of_lt (pos : 0 < bound) {left : Nat} (hLt : host.unread s < left)
    (before : Bytes) (w : World) :
    ∃ spare, (host.cutOff reads looks).readAll pos (s, left) before w =
      ((host.readAll pos s before w).1, ((host.readAll pos s before w).2.1, spare),
        (host.readAll pos s before w).2.2) := by
  obtain ⟨pieces, s', w', hReads, ⟨hLength, -⟩ | ⟨e, s'', w'', spare, -, hRead, hRun⟩⟩ :=
    host.readAll_cutOff reads looks pos s left before w
  · have hLe := hReads.length_add_unread_le pos
    omega
  · refine ⟨spare, ?_⟩
    rw [hRun, hReads.readAll_host pos]
    cases e with
    | closed => rw [host.readAll_of_closed pos _ hRead, ending]
    | failed message => rw [host.readAll_of_failed pos _ hRead, ending]

end Host

/-! ## Waiting -/

/-- Looks at a future that find nothing, and the blocking behind each. -/
inductive Waits (ops : Operations World) (p : ops.Pollable) :
    ops.Future → World → Nat → ops.Future → World → Prop where
  | zero (f : ops.Future) (w : World) : Waits ops p f w 0 f w
  | succ {f f₁ f' : ops.Future} {w w₁ w' : World} {count : Nat}
      (h : ops.poll f w = (none, f₁, w₁))
      (hRest : Waits ops p (ops.block p f₁ w₁).1 (ops.block p f₁ w₁).2 count f' w') :
      Waits ops p f w (count + 1) f' w'

theorem Waits.awaitOutcome_eq {p : ops.Pollable} {f f' : ops.Future} {w w' : World} {count : Nat}
    (h : ops.Waits p f w count f' w') (left : Nat) :
    (ops.cutOff reads looks).awaitOutcome p (f, count + left) w =
      (ops.cutOff reads looks).awaitOutcome p (f', left) w' := by
  induction h with
  | zero f w => rw [Nat.zero_add]
  | @succ f f₁ f' w w₁ w' count h hRest ih =>
    have hPoll : (ops.cutOff reads looks).poll (f, count + left + 1) w =
        (none, (f₁, count + left), w₁) := by
      simp only [h]
    rw [Nat.add_right_comm, Host.awaitOutcome_of_none _ p hPoll, ← ih]

theorem exists_waits (ops : Operations World) (p : ops.Pollable) (f : ops.Future) (w : World)
    (count : Nat) :
    ∃ done f' w', ops.Waits p f w done f' w' ∧
      (done = count ∨
        done < count ∧ ∃ outcome f'' w'', ops.poll f' w' = (some outcome, f'', w'')) := by
  induction count generalizing f w with
  | zero => exact ⟨0, f, w, .zero f w, .inl rfl⟩
  | succ count ih =>
    match h : ops.poll f w with
    | (none, f₁, w₁) =>
      obtain ⟨done, f', w', hWaits, hEnd⟩ := ih (ops.block p f₁ w₁).1 (ops.block p f₁ w₁).2
      refine ⟨done + 1, f', w', .succ h hWaits, ?_⟩
      rw [Nat.succ_inj, Nat.succ_lt_succ_iff]
      exact hEnd
    | (some outcome, f'', w'') =>
      exact ⟨0, f, w, .zero f w, .inr ⟨Nat.succ_pos count, outcome, f'', w'', h⟩⟩

/-- Waiting on what is cut off looks as the first looks go. Either the outcome is found with one
that the cut allows, or the cut ends the wait. -/
theorem awaitOutcome_cutOff (ops : Operations World) (reads looks : Nat) (p : ops.Pollable)
    (f : ops.Future) (left : Nat) (w : World) :
    ∃ done f' w', ops.Waits p f w done f' w' ∧
      (done = left ∧
          (ops.cutOff reads looks).awaitOutcome p (f, left) w = (.error late, (f', 0), w') ∨
        ∃ outcome f'' w'' spare, left = done + (spare + 1) ∧
          ops.poll f' w' = (some outcome, f'', w'') ∧
          (ops.cutOff reads looks).awaitOutcome p (f, left) w = (outcome, (f'', spare), w'')) := by
  obtain ⟨done, f', w', hWaits, rfl | ⟨hLt, outcome, f'', w'', hPoll⟩⟩ :=
    ops.exists_waits p f w left
  · refine ⟨done, f', w', hWaits, .inl ⟨rfl, ?_⟩⟩
    have hCut : (ops.cutOff reads looks).poll (f', 0) w' = (some (.error late), (f', 0), w') := rfl
    exact (hWaits.awaitOutcome_eq 0).trans (Host.awaitOutcome_of_some _ p hCut)
  · obtain ⟨spare, rfl⟩ := Nat.exists_eq_add_of_lt hLt
    have hFound : (ops.cutOff reads looks).poll (f', spare + 1) w' =
        (some outcome, (f'', spare), w'') := by
      simp only [hPoll]
    refine ⟨done, f', w', hWaits, .inr ⟨outcome, f'', w'', spare, Nat.add_assoc _ _ _, hPoll, ?_⟩⟩
    rw [Nat.add_assoc, hWaits.awaitOutcome_eq]
    exact Host.awaitOutcome_of_some _ p hFound

section Host

variable {host : Host World} {p : host.Pollable} {f f' : host.Future} {w w' : World} {count : Nat}

theorem Waits.add_waits_le (h : Waits host.toOperations p f w count f' w') :
    count + host.waits f' ≤ host.waits f := by
  induction h with
  | zero f w => simp
  | succ h hRest ih =>
    have hLess := host.waits_block (p := p) h
    omega

theorem Waits.awaitOutcome_host (h : Waits host.toOperations p f w count f' w') :
    host.awaitOutcome p f w = host.awaitOutcome p f' w' := by
  induction h with
  | zero f w => rfl
  | succ h hRest ih => rw [host.awaitOutcome_of_none p h, ih]

theorem awaitOutcome_cutOff_of_lt {left : Nat} (hLt : host.waits f < left) (w : World) :
    ∃ spare, (host.cutOff reads looks).awaitOutcome p (f, left) w =
      ((host.awaitOutcome p f w).1, ((host.awaitOutcome p f w).2.1, spare),
        (host.awaitOutcome p f w).2.2) := by
  obtain ⟨done, f', w', hWaits, ⟨hDone, -⟩ | ⟨outcome, f'', w'', spare, -, hPoll, hRun⟩⟩ :=
    host.awaitOutcome_cutOff reads looks p f left w
  · have hLe := hWaits.add_waits_le
    omega
  · exact ⟨spare, by rw [hRun, hWaits.awaitOutcome_host, host.awaitOutcome_of_some p hPoll]⟩

end Host

/-! ## Serving -/

section Serving

variable (ops : Operations World) (reads looks : Nat) (config : Config)

/-- Wherever a run is cut off, its out-parameter was resolved once. -/
theorem cutOff_resolved_once (handler : Handler) (request : ops.IncomingRequest)
    (out : ops.Outparam) (w : World) :
    ∃ resolution : (ops.cutOff reads looks).Note, resolution.Resolves out ∧
      ((ops.cutOff reads looks).notes config handler request out w).filter
        Host.Note.isResolution = [resolution] :=
  (ops.cutOff reads looks).filter_isResolution_notes config handler request out w

/-- Wherever a run is cut off, all calls that it made were within their bounds. -/
theorem cutOff_calls_within (service : Service World) (request : ops.IncomingRequest)
    (out : ops.Outparam) (w : World) :
    ∀ call ∈ (((ops.cutOff reads looks).tapped.serveWith config service.beside request out).after
      (w, [])).2, call.Within config :=
  (((ops.cutOff reads looks).serveWith_tapped config service request out).eq_pairWith w).2

end Serving

end Operations

end BufferedHttp
