import BufferedHttp.Proofs.Host.Tapped
import BufferedHttp.Proofs.Memory.Reading

/-!
# The reads of a script, one by one

A script is data up to its end or up to a failure. Each data step is read in as many pieces as the
bound demands, and one more read, which gives no bytes and is not recorded, ends the reading.
-/

namespace BufferedHttp

/-- How reading a script goes: the data in front of its end or of its first failure, what the last
read gives, what comes of it all, and what is left unread. -/
inductive Script.Course :
    Script → List Bytes → StreamError → Except Error Bytes → Script → Prop where
  | closed (blocks : List Bytes) :
      Course (blocks.map .data) blocks .closed (.ok blocks.flatten) []
  | failed (blocks : List Bytes) (message : String) (steps : Script) :
      Course (blocks.map .data ++ .fail message :: steps) blocks (.failed message)
        (.error (.stream message)) steps

namespace Script

theorem exists_course (script : Script) :
    ∃ blocks ending result unread, script.Course blocks ending result unread := by
  induction script with
  | nil => exact ⟨[], _, _, _, .closed []⟩
  | cons step steps ih =>
    cases step with
    | fail message => exact ⟨[], _, _, _, .failed [] message steps⟩
    | data b =>
      obtain ⟨blocks, ending, result, unread, hCourse⟩ := ih
      cases hCourse with
      | closed => exact ⟨b :: blocks, _, _, _, .closed (b :: blocks)⟩
      | failed _ message => exact ⟨b :: blocks, _, _, _, .failed (b :: blocks) message unread⟩

section Data

variable (blocks : List Bytes) (behind : Script)

theorem content_append :
    content (blocks.map .data ++ behind) = (content behind).map (blocks.flatten ++ ·) := by
  induction blocks with
  | nil => cases h : content behind <;> simp [Except.map, h]
  | cons b blocks ih =>
    rw [List.map_cons, List.cons_append, content_data, ih]
    cases content behind <;> simp [Except.map]

theorem rest_append : rest (blocks.map .data ++ behind) = rest behind := by
  induction blocks with
  | nil => rfl
  | cons b blocks ih => exact ih

theorem lengths_append (bound : Nat) :
    lengths bound (blocks.map .data ++ behind) =
      blocks.flatMap (fun b => pieceLengths bound b.length) ++ lengths bound behind := by
  induction blocks with
  | nil => rfl
  | cons b blocks ih =>
    rw [List.map_cons, List.cons_append, lengths, ih, List.flatMap_cons, List.append_assoc]

theorem failure?_append : failure? (blocks.map .data ++ behind) = failure? behind := by
  induction blocks with
  | nil => rfl
  | cons b blocks ih => exact ih

end Data

namespace Course

variable {script unread : Script} {blocks : List Bytes} {ending : StreamError}
  {result : Except Error Bytes}

theorem content_eq (h : script.Course blocks ending result unread) :
    script.content.mapError .stream = result := by
  cases h with
  | closed =>
    rw [← List.append_nil (blocks.map ReadStep.data), content_append]
    exact congrArg Except.ok (List.append_nil blocks.flatten)
  | failed _ message =>
    rw [content_append]
    rfl

theorem rest_eq (h : script.Course blocks ending result unread) : script.rest = unread := by
  cases h with
  | closed =>
    rw [← List.append_nil (blocks.map ReadStep.data), rest_append]
    rfl
  | failed _ message => exact rest_append blocks _

theorem lengths_eq (h : script.Course blocks ending result unread) (bound : Nat) :
    script.lengths bound = blocks.flatMap fun b => pieceLengths bound b.length := by
  cases h with
  | closed =>
    rw [← List.append_nil (blocks.map ReadStep.data), lengths_append, lengths, List.append_nil]
  | failed _ message => rw [lengths_append, lengths, List.append_nil]

theorem failure?_eq_none_iff (h : script.Course blocks ending result unread) :
    script.failure? = none ↔ ending = .closed := by
  cases h with
  | closed =>
    rw [← List.append_nil (blocks.map ReadStep.data), failure?_append]
    exact iff_of_true rfl rfl
  | failed _ message =>
    rw [failure?_append]
    exact iff_of_false (Option.some_ne_none message) StreamError.noConfusion

theorem isOk_content (h : script.Course blocks ending result unread) :
    script.content.isOk = true ↔ ending = .closed := by
  rw [← h.failure?_eq_none_iff, content]
  cases script.failure? <;> simp [Except.isOk, Except.toBool]

end Course

end Script

namespace Memory

/-- A data step is read in pieces of the bound, up to the steps behind it. -/
theorem exists_pieces {bound : Nat} (pos : 0 < bound) (b : Bytes) (steps : Script) (w : World) :
    ∃ (pieces : List Bytes) (w' : World),
      pieces.map List.length = Script.pieceLengths bound b.length ∧
      pieces.flatten = b ∧
      host.readings pos (InputStream.mk (.data b :: steps)) w =
        pieces.map .ok ++ host.readings pos (InputStream.mk steps) w' := by
  rcases Nat.lt_or_ge bound b.length with hLong | hShort
  · have hRead := Script.read_data_of_lt steps hLong
    obtain ⟨pieces, w', hLengths, hFlatten, hRest⟩ :=
      exists_pieces pos (b.drop bound) steps (w.recordAll [.read (b.take bound).length])
    refine ⟨b.take bound :: pieces, w', ?_, ?_, ?_⟩
    · rw [List.map_cons, hLengths, Script.pieceLengths_of_lt pos hLong, List.length_take,
        List.length_drop, Nat.min_eq_left (Nat.le_of_lt hLong)]
    · rw [List.flatten_cons, hFlatten, List.take_append_drop]
    · rw [host.readings_of_ok pos (InputStream.read_of_ok w hRead), hRest]
      rfl
  · have hRead := Script.read_data_of_le steps hShort
    refine ⟨[b], _, ?_, ?_, host.readings_of_ok pos (InputStream.read_of_ok w hRead)⟩
    · rw [Script.pieceLengths_of_le pos hShort]
      rfl
    · rw [List.flatten_cons, List.flatten_nil, List.append_nil]
  termination_by b.length
  decreasing_by
    rw [List.length_drop]
    omega

/-- The data in front of a last read is read in pieces, and the last read ends the reading. -/
theorem exists_pieces_of_blocks {bound : Nat} (pos : 0 < bound) (blocks : List Bytes)
    {behind steps : Script} {ending : StreamError}
    (hEnd : behind.read bound = (.error ending, steps)) (w : World) :
    ∃ pieces : List Bytes, pieces.map List.length =
        blocks.flatMap (fun b => Script.pieceLengths bound b.length) ∧
      pieces.flatten = blocks.flatten ∧
      host.readings pos (InputStream.mk (blocks.map .data ++ behind)) w =
        pieces.map .ok ++ [.error ending] := by
  induction blocks generalizing w with
  | nil =>
    have hRead : host.read (InputStream.mk behind) bound w = (.error ending, ⟨steps⟩, w) := by
      simp only [InputStream.read, hEnd]
    exact ⟨[], rfl, rfl, host.readings_of_error pos hRead⟩
  | cons b blocks ih =>
    obtain ⟨first, w', hFirst, hFlatten, hRun⟩ :=
      exists_pieces pos b (blocks.map .data ++ behind) w
    obtain ⟨pieces, hLengths, hRest, hReadings⟩ := ih w'
    refine ⟨first ++ pieces, ?_, ?_, ?_⟩
    · rw [List.map_append, hFirst, hLengths, List.flatMap_cons]
    · rw [List.flatten_append, hFlatten, hRest, List.flatten_cons]
    · rw [List.map_cons, List.cons_append, hRun, hReadings, List.map_append, List.append_assoc]

theorem exists_pieces_of_course {bound : Nat} (pos : 0 < bound) {script unread : Script}
    {blocks : List Bytes} {ending : StreamError} {result : Except Error Bytes}
    (h : script.Course blocks ending result unread) (w : World) :
    ∃ pieces : List Bytes, pieces.map List.length =
        blocks.flatMap (fun b => Script.pieceLengths bound b.length) ∧
      pieces.flatten = blocks.flatten ∧
      host.readings pos (InputStream.mk script) w = pieces.map .ok ++ [.error ending] := by
  cases h with
  | closed =>
    rw [← List.append_nil (blocks.map ReadStep.data)]
    exact exists_pieces_of_blocks pos blocks rfl w
  | failed _ message => exact exists_pieces_of_blocks pos blocks rfl w

/-- Reading a body to its end asks for the bound again and again. It takes each data step up to
the first failure in pieces, which are recorded, and one more read ends it: with what it gave, and
with all that is behind a failure left where it is. -/
theorem reads_of_script {bound : Nat} (pos : 0 < bound) (script : Script) (w : World) :
    ∃ (blocks pieces : List Bytes) (ending : StreamError) (result : Except Error Bytes)
      (unread : Script),
      script.Course blocks ending result unread ∧
      pieces.map List.length = blocks.flatMap (fun b => Script.pieceLengths bound b.length) ∧
      pieces.flatten = blocks.flatten ∧
      (host.readAll pos (InputStream.mk script) [] w).2 =
        (⟨unread⟩, w.recordAll (pieces.map fun piece => .read piece.length)) ∧
      host.drain pos (.ofScript script) w = Action.ofExcept result
        (w.recordAll (pieces.map (fun piece => .read piece.length) ++
          .inputStreamDropped :: if ending = .closed then [.incomingBodyFinished] else [])) ∧
      host.tapped.drain pos (.ofScript script) (w, []) =
        Action.pairWith
          (.openInput :: (pieces.map (fun piece => .read bound (.ok piece)) ++
            .read bound (.error ending) :: if ending = .closed then [.finishIncoming] else []))
          (host.drain pos (.ofScript script) w) := by
  obtain ⟨blocks, ending, result, unread, hCourse⟩ := script.exists_course
  obtain ⟨pieces, hLengths, hFlatten, hReadings⟩ := exists_pieces_of_course pos hCourse w
  have hEvents : (script.lengths bound).map Event.read =
      pieces.map fun piece => .read piece.length := by
    rw [hCourse.lengths_eq bound, ← hLengths, List.map_map]
    rfl
  have hOpen : host.openInput (.ofScript script) w = .ok (⟨script⟩, ⟨script, true, none⟩) w := rfl
  refine ⟨blocks, pieces, ending, result, unread, hCourse, hLengths, hFlatten, ?_, ?_, ?_⟩
  · rw [readAll_eq, hCourse.rest_eq, hEvents]
  · have hSource : (IncomingBody.ofScript script).source = .ok script := rfl
    rw [drain_eq, hSource, gather, hCourse.content_eq, readingEvents, hEvents]
    simp only [hCourse.failure?_eq_none_iff]
  · have hIsOk : (host.readAll pos (InputStream.mk script) [] w).1.isOk = true ↔
        ending = .closed := by
      rw [readAll_eq, ← hCourse.isOk_content]
      cases script.content <;> exact Iff.rfl
    rw [host.drain_tapped_of_open pos [] hOpen, hReadings]
    simp only [hIsOk, List.nil_append, List.map_append, List.map_map, List.map_cons, List.map_nil,
      List.append_assoc, List.singleton_append]
    rfl

/-- An empty step is read once, a step of five bytes in three reads of at most two, and the step
behind the failure is left. -/
theorem reads_of_cut_script :
    0 < 2 ∧ ∃ pieces : List Bytes, pieces.map List.length = [0, 2, 2, 1] ∧
      (host.readAll (by decide : 0 < 2)
        (InputStream.mk [.data [], .data [1, 2, 3, 4, 5], .fail "cut", .data [6]]) []
        ⟨.empty, [], 0⟩).2.1 = ⟨[.data [6]]⟩ := by
  obtain ⟨blocks, pieces, ending, result, unread, hCourse, hLengths, -, hRead, -⟩ :=
    reads_of_script (by decide : 0 < 2)
      [.data [], .data [1, 2, 3, 4, 5], .fail "cut", .data [6]] ⟨.empty, [], 0⟩
  refine ⟨by decide, pieces, ?_, ?_⟩
  · rw [hLengths, ← hCourse.lengths_eq 2]
    rfl
  · rw [hRead, ← hCourse.rest_eq]
    rfl

end Memory

end BufferedHttp
