import BufferedHttp.Proofs.Text.WellFormed
import Mathlib.Order.Bounds.Basic

/-!
# Where decoding stops

Bytes that are not well-formed are read up to the first place where no sequence stands, and the
fault names that place. It says that a sequence is incomplete when more bytes could make one of
the rest. Otherwise its length is that of the longest beginning of a sequence there.
-/

namespace BufferedHttp.Text.Utf8

/-- The bytes are the beginning of a sequence, perhaps all of it. -/
def Begins (bytes : Bytes) : Prop := ∃ missing, Sequence (bytes ++ missing)

/-- No sequence stands at the start of the bytes. -/
def Stuck (bytes : Bytes) : Prop := ∀ sequence, Sequence sequence → ¬sequence <+: bytes

/-- What a fault says about the bytes from its position on. -/
inductive Breaks (position : Nat) (rest : Bytes) : Fault → Prop where
  | incomplete {missing : Bytes} (hMissing : missing ≠ []) (hSequence : Sequence (rest ++ missing)) :
      Breaks position rest (.incomplete position)
  | invalid {length longest : Nat} (hBroken : ¬Begins rest)
      (hLongest : IsGreatest {k | k ≤ rest.length ∧ Begins (rest.take k)} longest)
      (hLength : length = max 1 longest) (hShort : length ≤ 3) :
      Breaks position rest (.invalid position length)

/-- Well-formed up to the position of the fault, where no sequence stands. -/
structure Describes (bytes : Bytes) (fault : Fault) : Prop where
  read : WellFormed (bytes.take fault.position)
  unread : fault.position < bytes.length
  stuck : Stuck (bytes.drop fault.position)
  breaks : Breaks fault.position (bytes.drop fault.position) fault

/-! ## Beginnings of a sequence -/

theorem sequence_cons_iff {b : UInt8} {tail : Bytes} :
    Sequence (b :: tail) ↔ ∃ shape, Row b shape ∧ tail.length = shape.following ∧
      continued shape.following shape.low shape.high tail = shape.following := by
  constructor
  · intro h
    obtain ⟨c, hEncoded⟩ := h.exists_encodeChar
    exact (encodeChar_eq_cons_iff.mp hEncoded).shaped
  · intro h
    exact Reads.sequence ⟨h, rfl⟩

theorem Sequence.ne_nil {sequence : Bytes} (h : Sequence sequence) : sequence ≠ [] := by
  rintro rfl
  cases h

theorem begins_nil : Begins [] := ⟨[0x00], .one (by decide)⟩

theorem Row.unique {b : UInt8} {first second : Shape} (hFirst : Row b first)
    (hSecond : Row b second) : first = second := by
  rw [← shape?_eq_some_iff] at hFirst hSecond
  exact Option.some.inj (hFirst.symm.trans hSecond)

theorem Row.low_le_high {b : UInt8} {shape : Shape} (h : Row b shape) : shape.low ≤ shape.high := by
  cases h <;> exact of_decide_eq_true rfl

theorem Row.following_le {b : UInt8} {shape : Shape} (h : Row b shape) : shape.following ≤ 3 := by
  cases h <;> exact of_decide_eq_true rfl

theorem continued_le (n : Nat) (low high : UInt8) (bs : Bytes) : continued n low high bs ≤ n := by
  induction n generalizing low high bs with
  | zero => exact Nat.le_refl 0
  | succ n ih =>
    cases bs with
    | nil => exact Nat.zero_le _
    | cons b bs =>
      rw [continued]
      split
      · exact Nat.succ_le_succ (ih _ _ _)
      · exact Nat.zero_le _

theorem le_continued_iff {n k : Nat} {low high : UInt8} {bs : Bytes} (hk : k ≤ bs.length) :
    k ≤ continued n low high bs ↔ k ≤ n ∧ continued n low high (bs.take k) = k := by
  induction n generalizing k low high bs with
  | zero =>
    simp only [continued]
    omega
  | succ n ih =>
    cases k with
    | zero => simp [continued]
    | succ k =>
      cases bs with
      | nil => cases hk
      | cons b bs =>
        rw [List.take_succ_cons, continued, continued]
        split
        · rw [Nat.succ_le_succ_iff, Nat.succ_le_succ_iff, Nat.succ_inj]
          exact ih (Nat.le_of_succ_le_succ hk)
        · omega

/-- Bytes that all continue a sequence can be continued to its end. -/
theorem exists_completion {n : Nat} {low high : UInt8} {bs : Bytes} (hRange : low ≤ high)
    (hAll : continued n low high bs = bs.length) :
    ∃ missing, (bs ++ missing).length = n ∧ continued n low high (bs ++ missing) = n := by
  induction n generalizing low high bs with
  | zero =>
    obtain rfl := List.length_eq_zero_iff.mp hAll.symm
    exact ⟨[], rfl, rfl⟩
  | succ n ih =>
    have hTrailing : (0x80 : UInt8) ≤ 0xBF := by decide
    cases bs with
    | nil =>
      -- the first byte to add is bound by the narrow range, those behind it are trailing bytes
      have hNone : continued n 0x80 0xBF [] = ([] : Bytes).length := by cases n <;> rfl
      obtain ⟨missing, hLength, hContinued⟩ := ih hTrailing hNone
      refine ⟨low :: missing, congrArg Nat.succ hLength, ?_⟩
      rw [List.nil_append] at hContinued
      rw [List.nil_append, continued, if_pos ⟨UInt8.le_refl low, hRange⟩, hContinued]
    | cons b bs =>
      rw [continued] at hAll
      split at hAll
      · rename_i hByte
        obtain ⟨missing, hLength, hContinued⟩ := ih hTrailing (Nat.succ.inj hAll)
        refine ⟨missing, congrArg Nat.succ hLength, ?_⟩
        rw [List.cons_append, continued, if_pos hByte, hContinued]
      · cases hAll

theorem begins_cons_iff {b : UInt8} {bs : Bytes} :
    Begins (b :: bs) ↔ ∃ shape, Row b shape ∧
      continued shape.following shape.low shape.high bs = bs.length := by
  constructor
  · rintro ⟨missing, hSequence⟩
    rw [List.cons_append] at hSequence
    obtain ⟨shape, hRow, hLength, hContinued⟩ := sequence_cons_iff.mp hSequence
    have hAll : bs.length ≤ continued shape.following shape.low shape.high (bs ++ missing) := by
      rw [hContinued, ← hLength, List.length_append]
      exact Nat.le_add_right _ _
    rw [le_continued_iff (by simp), List.take_left] at hAll
    exact ⟨shape, hRow, hAll.2⟩
  · rintro ⟨shape, hRow, hAll⟩
    obtain ⟨missing, hLength, hContinued⟩ := exists_completion hRow.low_le_high hAll
    exact ⟨missing, sequence_cons_iff.mpr ⟨shape, hRow, hLength, hContinued⟩⟩

section Rows

variable {b : UInt8} {bs : Bytes} {shape : Shape}

/-- All bytes that the shape asks for make a sequence. -/
theorem not_stuck_of_continued (hRow : Row b shape)
    (hAll : continued shape.following shape.low shape.high bs = shape.following) :
    ¬Stuck (b :: bs) := by
  intro hStuck
  have hLength := continued_le_length shape.following shape.low shape.high bs
  rw [hAll] at hLength
  apply hStuck (b :: bs.take shape.following)
  · rw [sequence_cons_iff]
    exact ⟨shape, hRow, List.length_take_of_le hLength, continued_take hAll⟩
  · exact List.cons_prefix_cons.mpr ⟨rfl, List.take_prefix _ _⟩

theorem begins_take_iff (hRow : Row b shape) {k : Nat} (hk : k ≤ bs.length) :
    Begins (b :: bs.take k) ↔ k ≤ continued shape.following shape.low shape.high bs := by
  rw [begins_cons_iff, le_continued_iff hk, List.length_take_of_le hk]
  constructor
  · rintro ⟨other, hOther, hAll⟩
    obtain rfl := hOther.unique hRow
    exact ⟨hAll ▸ continued_le _ _ _ _, hAll⟩
  · rintro ⟨-, hAll⟩
    exact ⟨shape, hRow, hAll⟩

theorem longest_of_row (hRow : Row b shape) :
    IsGreatest {k | k ≤ (b :: bs).length ∧ Begins ((b :: bs).take k)}
      (continued shape.following shape.low shape.high bs + 1) := by
  have hLe := continued_le_length shape.following shape.low shape.high bs
  constructor
  · exact ⟨Nat.succ_le_succ hLe, (begins_take_iff hRow hLe).mpr (Nat.le_refl _)⟩
  · rintro k ⟨hLength, hBegins⟩
    cases k with
    | zero => exact Nat.zero_le _
    | succ k =>
      have hk := Nat.le_of_succ_le_succ hLength
      exact Nat.succ_le_succ ((begins_take_iff hRow hk).mp hBegins)

theorem not_begins_of_no_row (h : ∀ shape, ¬Row b shape) : ¬Begins (b :: bs) := by
  rw [begins_cons_iff]
  rintro ⟨shape, hRow, -⟩
  exact h shape hRow

theorem longest_of_no_row (h : ∀ shape, ¬Row b shape) :
    IsGreatest {k | k ≤ (b :: bs).length ∧ Begins ((b :: bs).take k)} 0 := by
  constructor
  · exact ⟨Nat.zero_le _, begins_nil⟩
  · rintro k ⟨-, hBegins⟩
    cases k with
    | zero => exact Nat.le_refl 0
    | succ k => exact absurd hBegins (not_begins_of_no_row h)

end Rows

/-! ## Reading up to the fault -/

theorem decodeFrom_of_stuck {b : UInt8} {bs : Bytes} (h : Stuck (b :: bs)) (position : Nat) :
    ∃ fault, decodeFrom position (b :: bs) = .error fault ∧ Breaks position (b :: bs) fault := by
  rw [decodeFrom]
  cases hShape : shape? b with
  | none =>
    have hNone : ∀ shape, ¬Row b shape := by
      intro shape hRow
      rw [shape?_eq_some_iff.mpr hRow] at hShape
      cases hShape
    exact ⟨_, rfl, .invalid (not_begins_of_no_row hNone) (longest_of_no_row hNone) rfl (by decide)⟩
  | some shape =>
    have hRow := shape?_eq_some_iff.mp hShape
    have hLe := continued_le shape.following shape.low shape.high bs
    have hFollowing := hRow.following_le
    have hOpen : continued shape.following shape.low shape.high bs ≠ shape.following :=
      fun hAll => not_stuck_of_continued hRow hAll h
    simp only [if_neg hOpen]
    split
    · rename_i hAll
      obtain ⟨missing, hSequence⟩ := begins_cons_iff.mpr ⟨shape, hRow, hAll⟩
      refine ⟨_, rfl, .incomplete ?_ hSequence⟩
      rintro rfl
      exact h _ hSequence (List.append_nil _ ▸ List.prefix_rfl)
    · rename_i hSome
      refine ⟨_, rfl, .invalid ?_ (longest_of_row hRow) (by omega) (by omega)⟩
      rw [begins_cons_iff]
      rintro ⟨other, hOther, hAll⟩
      obtain rfl := hOther.unique hRow
      exact hSome hAll

theorem decodeFrom_behind_eq_error_iff {b : UInt8} {tail : Bytes} {c : Char} (h : Reads b tail c)
    (position : Nat) (rest : Bytes) (fault : Fault) :
    decodeFrom position (b :: (tail ++ rest)) = .error fault ↔
      decodeFrom (position + tail.length + 1) rest = .error fault := by
  rw [decodeFrom_of_reads h]
  cases decodeFrom (position + tail.length + 1) rest <;> simp [Except.map]

/-- What was read does not matter for the fault but that it moves on the position. -/
theorem decodeFrom_append_eq_error_iff {read : Bytes} (h : WellFormed read) (position : Nat)
    (rest : Bytes) (fault : Fault) :
    decodeFrom position (read ++ rest) = .error fault ↔
      decodeFrom (position + read.length) rest = .error fault := by
  induction h generalizing position with
  | nil => rfl
  | append hSequence _ ih =>
    obtain ⟨c, rfl⟩ := hSequence.exists_encodeChar
    obtain ⟨b, tail, hEncoded, hReads⟩ := reads_of_encodeChar c
    rw [hEncoded, List.append_assoc, List.cons_append, decodeFrom_behind_eq_error_iff hReads, ih,
      List.length_append, List.length_cons, ← Nat.add_assoc, ← Nat.add_assoc]

theorem exists_read (bytes : Bytes) :
    ∃ read rest, bytes = read ++ rest ∧ WellFormed read ∧ Stuck rest := by
  induction hLength : bytes.length using Nat.strong_induction_on generalizing bytes with
  | _ n ih =>
    by_cases hNext : ∃ sequence, Sequence sequence ∧ sequence <+: bytes
    · obtain ⟨sequence, hSequence, behind, rfl⟩ := hNext
      have hPositive := List.length_pos_iff.mpr hSequence.ne_nil
      rw [List.length_append] at hLength
      obtain ⟨read, rest, rfl, hRead, hStuck⟩ := ih behind.length (by omega) behind rfl
      exact ⟨sequence ++ read, rest, (List.append_assoc _ _ _).symm, .append hSequence hRead,
        hStuck⟩
    · exact ⟨[], bytes, rfl, .nil, fun sequence hSequence hPrefix =>
        hNext ⟨sequence, hSequence, hPrefix⟩⟩

theorem Breaks.position_eq {position : Nat} {rest : Bytes} {fault : Fault}
    (h : Breaks position rest fault) : fault.position = position := by
  cases h <;> rfl

theorem Breaks.unique {position : Nat} {rest : Bytes} {first second : Fault}
    (hFirst : Breaks position rest first) (hSecond : Breaks position rest second) :
    first = second := by
  cases hFirst with
  | incomplete _ hSequence =>
    cases hSecond with
    | incomplete => rfl
    | invalid hBroken => exact absurd ⟨_, hSequence⟩ hBroken
  | invalid hBroken hLongest hLength =>
    cases hSecond with
    | incomplete _ hSequence => exact absurd ⟨_, hSequence⟩ hBroken
    | invalid _ hLongest' hLength' => rw [hLength, hLength', hLongest.unique hLongest']

theorem decode_eq_error_iff_decodeFrom {bytes : Bytes} {fault : Fault} :
    decode bytes = .error fault ↔ decodeFrom 0 bytes = .error fault := by
  rw [decode]
  cases decodeFrom 0 bytes with
  | ok cs => simp
  | error fault' => simp

/-- A place where no sequence stands, with bytes before it that were read, is the fault. -/
theorem decode_of_stuck {read : Bytes} {b : UInt8} {bs : Bytes} (hRead : WellFormed read)
    (hStuck : Stuck (b :: bs)) :
    ∃ fault, decode (read ++ b :: bs) = .error fault ∧ Breaks read.length (b :: bs) fault := by
  obtain ⟨fault, hError, hBreaks⟩ := decodeFrom_of_stuck hStuck read.length
  refine ⟨fault, ?_, hBreaks⟩
  rw [decode_eq_error_iff_decodeFrom, decodeFrom_append_eq_error_iff hRead, Nat.zero_add]
  exact hError

theorem decode_eq_error_iff (bytes : Bytes) (fault : Fault) :
    decode bytes = .error fault ↔ Describes bytes fault := by
  constructor
  · intro hError
    obtain ⟨read, rest, rfl, hRead, hStuck⟩ := exists_read bytes
    cases rest with
    | nil =>
      obtain ⟨s, hDecoded⟩ := (wellFormed_iff_decode read).mp hRead
      rw [List.append_nil, hDecoded] at hError
      cases hError
    | cons b bs =>
      obtain ⟨fault', hError', hBreaks⟩ := decode_of_stuck hRead hStuck
      obtain rfl := Except.error.inj (hError'.symm.trans hError)
      have hPosition := hBreaks.position_eq
      constructor
      · rwa [hPosition, List.take_left]
      · rw [hPosition, List.length_append, List.length_cons]
        omega
      · rwa [hPosition, List.drop_left]
      · rwa [hPosition, List.drop_left]
  · rintro ⟨hRead, hUnread, hStuck, hBreaks⟩
    have hLength := List.length_take_of_le (Nat.le_of_lt hUnread)
    have hSome : bytes.drop fault.position ≠ [] := by
      rw [List.ne_nil_iff_length_pos, List.length_drop]
      omega
    obtain ⟨b, bs, hRest⟩ := List.exists_cons_of_ne_nil hSome
    rw [hRest] at hStuck hBreaks
    obtain ⟨fault', hError, hBreaks'⟩ := decode_of_stuck hRead hStuck
    rw [hLength] at hBreaks'
    rw [← hRest, List.take_append_drop] at hError
    rw [hError, hBreaks.unique hBreaks']

theorem Describes.not_wellFormed {bytes : Bytes} {fault : Fault} (h : Describes bytes fault) :
    ¬WellFormed bytes := by
  intro hWellFormed
  obtain ⟨s, hDecoded⟩ := (wellFormed_iff_decode bytes).mp hWellFormed
  rw [← decode_eq_error_iff, hDecoded] at h
  cases h

end BufferedHttp.Text.Utf8
