import Mathlib.Algebra.Ring.Nat
import BufferedHttp.Proofs.Transfer.Iteration

/-!
# Chunks in machine words

A cursor can keep its numbers in words of 64 bits. The arithmetic of words is checked here: a sum, a
difference or a quotient that is not the one of the numbers is a fault. Drawn from as often as one
likes, a cursor of words meets no fault and goes as the cursor whose numbers have no bound.
-/

namespace BufferedHttp

/-! ## Checked arithmetic -/

namespace Word

inductive Fault where
  | overflow
  | underflow
  | zeroDivisor
  /-- The bounds of a slice are in the wrong order or outside of the buffer. -/
  | outOfBounds
  deriving DecidableEq

def add (a b : UInt64) : Except Fault UInt64 :=
  if UInt64.size ≤ a.toNat + b.toNat then .error .overflow else .ok (a + b)

def sub (a b : UInt64) : Except Fault UInt64 :=
  if a.toNat < b.toNat then .error .underflow else .ok (a - b)

/-- The quotient, and one more when there is a remainder. -/
def divCeil (a b : UInt64) : Except Fault UInt64 :=
  if b = 0 then .error .zeroDivisor
  else if a % b = 0 then .ok (a / b)
  else add (a / b) 1

theorem exists_toNat_eq {n : Nat} (h : n < 2 ^ 64) : ∃ a : UInt64, a.toNat = n :=
  ⟨.ofNat n, UInt64.toNat_ofNat_of_lt' h⟩

variable {a b c : UInt64}

theorem add_eq_ok_iff : add a b = .ok c ↔ c.toNat = a.toNat + b.toNat := by
  have hLt := c.toNat_lt
  rw [add, UInt64.size]
  split
  case isTrue hOver =>
    constructor
    · intro h
      cases h
    · intro h
      omega
  case isFalse hFits =>
    have hSum : (a + b).toNat = a.toNat + b.toNat := by
      rw [UInt64.toNat_add, Nat.mod_eq_of_lt (Nat.lt_of_not_le hFits)]
    rw [Except.ok.injEq, ← UInt64.toNat_inj, hSum]
    exact eq_comm

theorem sub_eq_ok_iff : sub a b = .ok c ↔ c.toNat + b.toNat = a.toNat := by
  rw [sub]
  split
  case isTrue hUnder =>
    constructor
    · intro h
      cases h
    · intro h
      omega
  case isFalse hFits =>
    have hLe : b.toNat ≤ a.toNat := Nat.le_of_not_lt hFits
    have hDiff : (a - b).toNat = a.toNat - b.toNat :=
      UInt64.toNat_sub_of_le a b (UInt64.le_iff_toNat_le.mpr hLe)
    rw [Except.ok.injEq, ← UInt64.toNat_inj, hDiff]
    omega

theorem add_pred_div_of_mod_eq_zero {n d : Nat} (pos : 0 < d) (h : n % d = 0) :
    (n + (d - 1)) / d = n / d := by
  have hBelow : d - 1 < d := Nat.sub_lt pos Nat.one_pos
  have hSplit : n + (d - 1) = d * (n / d) + (d - 1) := by
    rw [Nat.mul_div_cancel' (Nat.dvd_of_mod_eq_zero h)]
  rw [hSplit, Nat.mul_add_div pos, Nat.div_eq_of_lt hBelow, Nat.add_zero]

theorem add_pred_div_of_mod_pos {n d : Nat} (pos : 0 < d) (h : 0 < n % d) :
    (n + (d - 1)) / d = n / d + 1 := by
  have hParts := Nat.div_add_mod n d
  have hBelow : n % d - 1 < d := Nat.lt_of_le_of_lt (Nat.sub_le _ 1) (Nat.mod_lt n pos)
  have hSplit : n + (d - 1) = d * (n / d + 1) + (n % d - 1) := by
    rw [Nat.mul_add_one]
    omega
  rw [hSplit, Nat.mul_add_div pos, Nat.div_eq_of_lt hBelow, Nat.add_zero]

/-- With a remainder the divisor is not one, so the quotient has room for one more. -/
theorem add_pred_div_le {n d : Nat} (pos : 0 < d) : (n + (d - 1)) / d ≤ n := by
  rcases Nat.eq_zero_or_pos (n % d) with hWhole | hRest
  · rw [add_pred_div_of_mod_eq_zero pos hWhole]
    exact Nat.div_le_self n d
  · have hNe : d ≠ 1 := by
      rintro rfl
      rw [Nat.mod_one] at hRest
      exact Nat.lt_irrefl 0 hRest
    have hPos : 0 < n := Nat.pos_of_ne_zero fun hZero => by simp [hZero] at hRest
    rw [add_pred_div_of_mod_pos pos hRest]
    exact Nat.div_lt_self hPos (by omega)

theorem divCeil_eq_ok_iff :
    divCeil a b = .ok c ↔ b ≠ 0 ∧ c.toNat = (a.toNat + (b.toNat - 1)) / b.toNat := by
  rw [divCeil]
  split
  case isTrue hZero => simp [hZero]
  case isFalse hDivisor =>
    have hPos : 0 < b.toNat := Nat.pos_of_ne_zero fun h => hDivisor (UInt64.toNat_inj.mp h)
    rw [and_iff_right hDivisor]
    split
    case isTrue hWhole =>
      have hMod : a.toNat % b.toNat = 0 := by
        rw [← UInt64.toNat_mod, hWhole]
        rfl
      rw [add_pred_div_of_mod_eq_zero hPos hMod, ← UInt64.toNat_div, Except.ok.injEq,
        UInt64.toNat_inj]
      exact eq_comm
    case isFalse hRest =>
      have hMod : 0 < a.toNat % b.toNat := by
        rw [← UInt64.toNat_mod]
        exact Nat.pos_of_ne_zero fun h => hRest (UInt64.toNat_inj.mp h)
      rw [add_eq_ok_iff, add_pred_div_of_mod_pos hPos hMod, UInt64.toNat_div]
      rfl

end Word

/-! ## A cursor of words -/

/-- The length of a buffer, the size of its chunks and an offset, in words. -/
structure Words where
  length : UInt64
  size : UInt64
  offset : UInt64

namespace Words

/-- The smaller of the offset behind a whole chunk and the length. -/
def stop (m : Words) : Except Word.Fault UInt64 := do
  let whole ← Word.add m.offset m.size
  return if whole < m.length then whole else m.length

/-- Where the next chunk begins and ends, and the words behind it. -/
def draw (m : Words) : Except Word.Fault (Option (UInt64 × UInt64) × Words) :=
  if m.offset < m.length then do
    let stop ← m.stop
    if m.offset ≤ stop ∧ stop ≤ m.length then
      return (some (m.offset, stop), { m with offset := stop })
    else throw .outOfBounds
  else return (none, m)

def sizeHint (m : Words) : Except Word.Fault (UInt64 × Option UInt64) := do
  let left ← Word.sub m.length m.offset
  let count ← Word.divCeil left m.size
  return (count, some count)

def afterDraws (m : Words) : Nat → Except Word.Fault Words
  | 0 => return m
  | k + 1 => do
    let (_, behind) ← m.draw
    behind.afterDraws k

end Words

namespace Chunks

def words (c : Chunks) : Words := ⟨.ofNat c.buffer.length, .ofNat c.size, .ofNat c.offset⟩

/-- Where the next chunk begins and ends. -/
def bounds? (c : Chunks) : Option (Nat × Nat) :=
  if c.offset < c.buffer.length then some (c.offset, c.stop) else none

/-- The sum that a draw makes, if it makes one, is a word. -/
def SumFits (c : Chunks) : Prop := c.offset < c.buffer.length → c.offset + c.size < 2 ^ 64

theorem offset_le_stop (c : Chunks) : c.offset ≤ c.stop :=
  Nat.le_min.mpr ⟨Nat.le_add_right _ _, c.offset_le⟩

end Chunks

/-- The words are the numbers of the cursor. -/
structure Words.Hold (m : Words) (c : Chunks) : Prop where
  length : m.length.toNat = c.buffer.length
  size : m.size.toNat = c.size
  offset : m.offset.toNat = c.offset

namespace Words

variable {m : Words} {c : Chunks}

theorem hold_words (hBuffer : c.buffer.length < 2 ^ 63) (hSize : c.size < 2 ^ 64) :
    c.words.Hold c where
  length := UInt64.toNat_ofNat_of_lt' (by rw [UInt64.size]; omega)
  size := UInt64.toNat_ofNat_of_lt' hSize
  offset := UInt64.toNat_ofNat_of_lt' (by have := c.offset_le; rw [UInt64.size]; omega)

theorem Hold.offset_lt_iff (h : m.Hold c) :
    m.offset < m.length ↔ c.offset < c.buffer.length := by
  rw [UInt64.lt_iff_toNat_lt, h.offset, h.length]

theorem Hold.exists_stop (h : m.Hold c) (hSum : c.offset + c.size < 2 ^ 64) :
    ∃ stop, m.stop = .ok stop ∧ stop.toNat = c.stop := by
  obtain ⟨whole, hWhole⟩ := Word.exists_toNat_eq hSum
  have hAdd : Word.add m.offset m.size = .ok whole := by
    rw [Word.add_eq_ok_iff, hWhole, h.offset, h.size]
  have hLt : whole < m.length ↔ c.offset + c.size < c.buffer.length := by
    rw [UInt64.lt_iff_toNat_lt, hWhole, h.length]
  refine ⟨if whole < m.length then whole else m.length, by rw [stop, hAdd]; rfl, ?_⟩
  rw [Chunks.stop]
  split
  case isTrue hMore => rw [hWhole, Nat.min_eq_left (Nat.le_of_lt (hLt.mp hMore))]
  case isFalse hLast =>
    rw [h.length, Nat.min_eq_right (Nat.le_of_not_lt fun hMore => hLast (hLt.mpr hMore))]

/-- A draw from words gives the bounds of the chunk that is drawn from the cursor. -/
theorem Hold.exists_draw (h : m.Hold c) (hSum : c.SumFits) :
    ∃ bounds behind, m.draw = .ok (bounds, behind) ∧
      bounds.map (Prod.map UInt64.toNat UInt64.toNat) = c.bounds? ∧ behind.Hold c.draw.2 := by
  rw [draw, Chunks.bounds?]
  rcases Nat.lt_or_ge c.offset c.buffer.length with hOpen | hEnd
  · obtain ⟨stop, hStop, hEq⟩ := h.exists_stop (hSum hOpen)
    have hOrder : m.offset ≤ stop ∧ stop ≤ m.length := by
      rw [UInt64.le_iff_toNat_le, UInt64.le_iff_toNat_le, hEq, h.offset, h.length]
      exact ⟨c.offset_le_stop, Nat.min_le_right _ _⟩
    refine ⟨some (m.offset, stop), { m with offset := stop }, ?_, ?_, ?_⟩
    · rw [if_pos (h.offset_lt_iff.mpr hOpen), hStop]
      exact if_pos hOrder
    · rw [if_pos hOpen, ← h.offset, ← hEq]
      rfl
    · rw [Chunks.draw_of_lt hOpen]
      exact ⟨h.length, h.size, hEq⟩
  · -- at the end no sum is made, so none has to fit
    have hClosed := Nat.not_lt.mpr hEnd
    refine ⟨none, m, ?_, ?_, ?_⟩
    · exact if_neg fun hOpen => hClosed (h.offset_lt_iff.mp hOpen)
    · rw [if_neg hClosed]
      rfl
    · rw [Chunks.draw_of_le hEnd]
      exact h

theorem Hold.exists_sizeHint (h : m.Hold c) :
    ∃ count, m.sizeHint = .ok (count, some count) ∧ count.toNat = c.remaining := by
  have hPos : 0 < m.size.toNat := h.size ▸ c.size_pos
  obtain ⟨left, hLeft⟩ := Word.exists_toNat_eq
    (Nat.lt_of_le_of_lt (Nat.sub_le m.length.toNat m.offset.toNat) m.length.toNat_lt)
  have hSub : Word.sub m.length m.offset = .ok left := by
    rw [Word.sub_eq_ok_iff, hLeft, h.length, h.offset, Nat.sub_add_cancel c.offset_le]
  obtain ⟨count, hCount⟩ := Word.exists_toNat_eq
    (Nat.lt_of_le_of_lt (Word.add_pred_div_le (n := left.toNat) hPos) left.toNat_lt)
  have hDivisor : m.size ≠ 0 := by
    rintro hZero
    rw [hZero] at hPos
    exact Nat.lt_irrefl 0 hPos
  have hDiv : Word.divCeil left m.size = .ok count :=
    Word.divCeil_eq_ok_iff.mpr ⟨hDivisor, hCount⟩
  refine ⟨count, ?_, ?_⟩
  · calc
      m.sizeHint = (do let count ← Word.divCeil left m.size; return (count, some count)) := by
        rw [sizeHint, hSub]
        rfl
      _ = .ok (count, some count) := by
        rw [hDiv]
        rfl
  · rw [hCount, hLeft, h.length, h.offset, h.size, Chunks.remaining]

theorem Hold.exists_afterDraws (h : m.Hold c) (k : Nat)
    (hSums : ∀ j < k, (c.afterDraws j).SumFits) :
    ∃ behind, m.afterDraws k = .ok behind ∧ behind.Hold (c.afterDraws k) := by
  induction k generalizing m c with
  | zero => exact ⟨m, rfl, h⟩
  | succ k ih =>
    obtain ⟨bounds, first, hDraw, -, hFirst⟩ := h.exists_draw (hSums 0 (Nat.succ_pos k))
    obtain ⟨behind, hRest, hBehind⟩ :=
      ih hFirst fun j hj => hSums (j + 1) (Nat.succ_lt_succ hj)
    refine ⟨behind, ?_, hBehind⟩
    rw [afterDraws, hDraw]
    exact hRest

end Words

/-! ## Every point of an iteration -/

namespace Chunks

variable {c : Chunks}

theorem draw_eq (c : Chunks) :
    c.draw.2.buffer = c.buffer ∧ c.draw.2.size = c.size ∧
      c.draw.2.offset = min (c.offset + c.size) c.buffer.length := by
  rcases Nat.lt_or_ge c.offset c.buffer.length with hOpen | hEnd
  · rw [draw_of_lt hOpen]
    exact ⟨rfl, rfl, rfl⟩
  · have hOffset : c.offset = c.buffer.length := Nat.le_antisymm c.offset_le hEnd
    rw [draw_of_le hEnd, Nat.min_eq_right (Nat.le_add_right_of_le hEnd)]
    exact ⟨rfl, rfl, hOffset⟩

theorem afterDraws_eq (c : Chunks) (k : Nat) :
    (c.afterDraws k).buffer = c.buffer ∧ (c.afterDraws k).size = c.size ∧
      (c.afterDraws k).offset = min (c.offset + k * c.size) c.buffer.length := by
  induction k generalizing c with
  | zero => simp [afterDraws, Nat.min_eq_left c.offset_le]
  | succ k ih =>
    obtain ⟨hBuffer, hSize, hOffset⟩ := draw_eq c
    obtain ⟨hBuffer', hSize', hOffset'⟩ := ih c.draw.2
    rw [afterDraws, hBuffer', hSize', hOffset', hBuffer, hSize, hOffset, Nat.add_one_mul]
    refine ⟨rfl, rfl, ?_⟩
    omega

/-- Only the first draw can add a size that is longer than the buffer, and it adds it to zero. -/
theorem sumFits_afterDraws (hStart : c.offset = 0) (hBuffer : c.buffer.length < 2 ^ 63)
    (hSize : c.size < 2 ^ 64) (k : Nat) : (c.afterDraws k).SumFits := by
  obtain ⟨hSameBuffer, hSameSize, hOffset⟩ := afterDraws_eq c k
  rw [SumFits, hSameBuffer, hSameSize, hOffset, hStart, Nat.zero_add]
  intro hOpen
  have hReached : k * c.size < c.buffer.length := by omega
  rw [Nat.min_eq_left (Nat.le_of_lt hReached)]
  cases k with
  | zero => omega
  | succ k =>
    have hLe : c.size ≤ (k + 1) * c.size := Nat.le_mul_of_pos_left c.size (Nat.succ_pos k)
    omega

end Chunks

/-- The words are the numbers of the cursor, and what is computed from them comes out as it does
from the numbers: the sum of a draw, the bounds of its slice, and the difference and the quotient
that count the chunks to come. -/
structure Words.Suffice (m : Words) (c : Chunks) : Prop where
  hold : m.Hold c
  sum : c.offset < c.buffer.length → c.offset + c.size < 2 ^ 64
  bounds : c.offset ≤ c.stop ∧ c.stop ≤ c.buffer.length
  draw : ∃ bounds behind, m.draw = .ok (bounds, behind) ∧
    bounds.map (Prod.map UInt64.toNat UInt64.toNat) = c.bounds? ∧ behind.Hold c.draw.2
  sizeHint : ∃ count, m.sizeHint = .ok (count, some count) ∧
    c.sizeHint = (count.toNat, some count.toNat)

/-- From the start of a buffer that can be allocated, with chunks of any size that is a word, a
cursor of words meets no fault. -/
theorem Chunks.words_suffice (buffer : Bytes) {size : Nat} (pos : 0 < size)
    (hBuffer : buffer.length ≤ 2 ^ 63 - 1) (hSize : size ≤ 2 ^ 64 - 1) (k : Nat) :
    ∃ m, (ofBytes buffer size pos).words.afterDraws k = .ok m ∧
      m.Suffice ((ofBytes buffer size pos).afterDraws k) := by
  have hBufferLt : buffer.length < 2 ^ 63 := by omega
  have hSizeLt : size < 2 ^ 64 := by omega
  have hSums : ∀ j, ((ofBytes buffer size pos).afterDraws j).SumFits :=
    sumFits_afterDraws rfl hBufferLt hSizeLt
  have hStart : (ofBytes buffer size pos).words.Hold (ofBytes buffer size pos) :=
    Words.hold_words hBufferLt hSizeLt
  obtain ⟨m, hRun, hHold⟩ := hStart.exists_afterDraws k fun j _ => hSums j
  refine ⟨m, hRun, hHold, hSums k, ?_, hHold.exists_draw (hSums k), ?_⟩
  · exact ⟨offset_le_stop _, Nat.min_le_right _ _⟩
  · obtain ⟨count, hHint, hCount⟩ := hHold.exists_sizeHint
    refine ⟨count, hHint, ?_⟩
    rw [sizeHint, hCount]

/-- Chunks of the largest size: the first draw reaches the end, and the second makes no sum. -/
theorem Chunks.words_suffice_for_largest_size :
    0 < 2 ^ 64 - 1 ∧ ([1, 2, 3] : Bytes).length ≤ 2 ^ 63 - 1 ∧ 2 ^ 64 - 1 ≤ 2 ^ 64 - 1 ∧
      ∃ m, (ofBytes [1, 2, 3] (2 ^ 64 - 1) (by decide)).words.afterDraws 1 = .ok m ∧
        m.offset.toNat = 3 ∧ ∃ behind, m.draw = .ok (none, behind) := by
  have hLength : ([1, 2, 3] : Bytes).length ≤ 2 ^ 63 - 1 := by decide
  have hSize : 2 ^ 64 - 1 ≤ 2 ^ 64 - 1 := Nat.le_refl _
  obtain ⟨m, hRun, hSuffice⟩ := words_suffice [1, 2, 3] (by decide) hLength hSize 1
  obtain ⟨bounds, behind, hDraw, hBounds, -⟩ := hSuffice.draw
  have hEnd : bounds = none := Option.map_eq_none_iff.mp hBounds
  refine ⟨by decide, hLength, hSize, m, hRun, hSuffice.hold.offset, behind, ?_⟩
  rw [hDraw, hEnd]

end BufferedHttp
