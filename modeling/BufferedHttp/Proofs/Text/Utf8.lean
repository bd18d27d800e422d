import BufferedHttp.Text.Utf8
import Mathlib.Data.List.Basic

/-!
# Decoding inverts encoding

A first byte and the bytes that follow it are read as a character exactly when they are the
encoding of that character. So bytes decode to a text exactly when the text encodes to them.
-/

namespace BufferedHttp.Text.Utf8

/-- The first bytes of table 3-7, with the shapes that they announce. -/
inductive Row : UInt8 → Shape → Prop where
  | one {b : UInt8} (hHigh : b.toNat ≤ 0x7F) : Row b ⟨0, 0x80, 0xBF⟩
  | two {b : UInt8} (hLow : 0xC2 ≤ b.toNat) (hHigh : b.toNat ≤ 0xDF) : Row b ⟨1, 0x80, 0xBF⟩
  | threeLow {b : UInt8} (h : b.toNat = 0xE0) : Row b ⟨2, 0xA0, 0xBF⟩
  | threeBelow {b : UInt8} (h : b.toNat = 0xED) : Row b ⟨2, 0x80, 0x9F⟩
  | three {b : UInt8} (hLow : 0xE1 ≤ b.toNat) (hHigh : b.toNat ≤ 0xEF) (hGap : b.toNat ≠ 0xED) :
      Row b ⟨2, 0x80, 0xBF⟩
  | fourLow {b : UInt8} (h : b.toNat = 0xF0) : Row b ⟨3, 0x90, 0xBF⟩
  | four {b : UInt8} (hLow : 0xF1 ≤ b.toNat) (hHigh : b.toNat ≤ 0xF3) : Row b ⟨3, 0x80, 0xBF⟩
  | fourHigh {b : UInt8} (h : b.toNat = 0xF4) : Row b ⟨3, 0x80, 0x8F⟩

theorem shape?_eq_some_iff {b : UInt8} {shape : Shape} : shape? b = some shape ↔ Row b shape := by
  have hNat : shape? b =
      if b.toNat ≤ 0x7F then some ⟨0, 0x80, 0xBF⟩
      else if b.toNat < 0xC2 then none
      else if b.toNat ≤ 0xDF then some ⟨1, 0x80, 0xBF⟩
      else if b.toNat = 0xE0 then some ⟨2, 0xA0, 0xBF⟩
      else if b.toNat = 0xED then some ⟨2, 0x80, 0x9F⟩
      else if b.toNat ≤ 0xEF then some ⟨2, 0x80, 0xBF⟩
      else if b.toNat = 0xF0 then some ⟨3, 0x90, 0xBF⟩
      else if b.toNat ≤ 0xF3 then some ⟨3, 0x80, 0xBF⟩
      else if b.toNat = 0xF4 then some ⟨3, 0x80, 0x8F⟩
      else none := by
    simp only [shape?, UInt8.le_iff_toNat_le, UInt8.lt_iff_toNat_lt, ← UInt8.toNat_inj]
    rfl
  rw [hNat]
  constructor
  · intro h
    split at h
    · cases h
      exact .one (by omega)
    split at h
    · cases h
    split at h
    · cases h
      exact .two (by omega) (by omega)
    split at h
    · cases h
      exact .threeLow (by omega)
    split at h
    · cases h
      exact .threeBelow (by omega)
    split at h
    · cases h
      exact .three (by omega) (by omega) (by omega)
    split at h
    · cases h
      exact .fourLow (by omega)
    split at h
    · cases h
      exact .four (by omega) (by omega)
    split at h
    · cases h
      exact .fourHigh (by omega)
    · cases h
  · intro h
    cases h with
    | one hHigh => rw [if_pos hHigh]
    | two hLow hHigh => rw [if_neg (by omega), if_neg (by omega), if_pos hHigh]
    | threeLow h => rw [h]; rfl
    | threeBelow h => rw [h]; rfl
    | three hLow hHigh hGap =>
      rw [if_neg (by omega), if_neg (by omega), if_neg (by omega), if_neg (by omega),
        if_neg hGap, if_pos hHigh]
    | fourLow h => rw [h]; rfl
    | four hLow hHigh =>
      rw [if_neg (by omega), if_neg (by omega), if_neg (by omega), if_neg (by omega),
        if_neg (by omega), if_neg (by omega), if_neg (by omega), if_pos hHigh]
    | fourHigh h => rw [h]; rfl

theorem continued_succ_eq_iff (n : Nat) (low high b : UInt8) (bs : Bytes) :
    continued (n + 1) low high (b :: bs) = n + 1 ↔
      (low.toNat ≤ b.toNat ∧ b.toNat ≤ high.toNat) ∧ continued n 0x80 0xBF bs = n := by
  rw [continued, ← UInt8.le_iff_toNat_le, ← UInt8.le_iff_toNat_le]
  split
  · rename_i hRange
    simp [hRange]
  · rename_i hRange
    simp [hRange]

theorem continued_append {n : Nat} {low high : UInt8} {tail : Bytes} (rest : Bytes)
    (h : continued n low high tail = n) : continued n low high (tail ++ rest) = n := by
  induction n generalizing low high tail with
  | zero => rfl
  | succ n ih =>
    cases tail with
    | nil => cases h
    | cons b tail =>
      rw [continued_succ_eq_iff] at h
      rw [List.cons_append, continued_succ_eq_iff]
      exact ⟨h.1, ih h.2⟩

theorem continued_take {n : Nat} {low high : UInt8} {bs : Bytes}
    (h : continued n low high bs = n) : continued n low high (bs.take n) = n := by
  induction n generalizing low high bs with
  | zero => rfl
  | succ n ih =>
    cases bs with
    | nil => cases h
    | cons b bs =>
      rw [continued_succ_eq_iff] at h
      rw [List.take_succ_cons, continued_succ_eq_iff]
      exact ⟨h.1, ih h.2⟩

/-- The bytes are one sequence, and it has the scalar value of the character. -/
structure Reads (b : UInt8) (tail : Bytes) (c : Char) : Prop where
  shaped : ∃ shape, Row b shape ∧ tail.length = shape.following ∧
    continued shape.following shape.low shape.high tail = shape.following
  value : scalar b tail = c

theorem toNat_ofNat {n : Nat} (h : n.isValidChar) : (Char.ofNat n).toNat = n := by
  rw [Char.ofNat, dif_pos h]
  rfl

theorem toNat_byte {n : Nat} (h : n < 0x100) : (UInt8.ofNat n).toNat = n :=
  UInt8.toNat_ofNat_of_lt' h

theorem ofNat_eq_byte {n : Nat} {b : UInt8} (h : n = b.toNat) : UInt8.ofNat n = b := by
  rw [h, UInt8.ofNat_toNat]

theorem scalar_one (b : UInt8) : scalar b [] = Char.ofNat b.toNat := rfl

theorem scalar_two (b x : UInt8) :
    scalar b [x] = Char.ofNat ((b.toNat - 0xC0) * 0x40 + (x.toNat - 0x80)) := rfl

theorem scalar_three (b x y : UInt8) :
    scalar b [x, y] = Char.ofNat
      (((b.toNat - 0xE0) * 0x40 + (x.toNat - 0x80)) * 0x40 + (y.toNat - 0x80)) := rfl

theorem scalar_four (b x y z : UInt8) :
    scalar b [x, y, z] = Char.ofNat
      ((((b.toNat - 0xF0) * 0x40 + (x.toNat - 0x80)) * 0x40 + (y.toNat - 0x80)) * 0x40 +
        (z.toNat - 0x80)) := rfl

theorem encodeChar_scalar_one {b : UInt8} (hb : b.toNat ≤ 0x7F) :
    encodeChar (scalar b []) = [b] := by
  have hValue : (scalar b []).toNat = b.toNat := by
    rw [scalar_one]
    exact toNat_ofNat (.inl (by omega))
  simp only [encodeChar, hValue]
  rw [if_pos (by omega), ofNat_eq_byte rfl]

theorem encodeChar_scalar_two {b x : UInt8} (hb : 0xC2 ≤ b.toNat ∧ b.toNat ≤ 0xDF)
    (hx : 0x80 ≤ x.toNat ∧ x.toNat ≤ 0xBF) : encodeChar (scalar b [x]) = [b, x] := by
  have hValue : (scalar b [x]).toNat = (b.toNat - 0xC0) * 0x40 + (x.toNat - 0x80) := by
    rw [scalar_two]
    exact toNat_ofNat (.inl (by omega))
  simp only [encodeChar, hValue]
  rw [if_neg (by omega), if_pos (by omega), ofNat_eq_byte (b := b) (by omega),
    ofNat_eq_byte (b := x) (by omega)]

theorem encodeChar_scalar_three {b x y : UInt8} (hb : 0xE0 ≤ b.toNat ∧ b.toNat ≤ 0xEF)
    (hx : 0x80 ≤ x.toNat ∧ x.toNat ≤ 0xBF) (hy : 0x80 ≤ y.toNat ∧ y.toNat ≤ 0xBF)
    (hLow : b.toNat = 0xE0 → 0xA0 ≤ x.toNat) (hGap : b.toNat = 0xED → x.toNat ≤ 0x9F) :
    encodeChar (scalar b [x, y]) = [b, x, y] := by
  have hValue : (scalar b [x, y]).toNat =
      ((b.toNat - 0xE0) * 0x40 + (x.toNat - 0x80)) * 0x40 + (y.toNat - 0x80) := by
    rw [scalar_three]
    apply toNat_ofNat
    rcases Nat.lt_or_ge b.toNat 0xEE with hBelow | hAbove
    · exact .inl (by omega)
    · exact .inr (by omega)
  simp only [encodeChar, hValue]
  rw [if_neg (by omega), if_neg (by omega), if_pos (by omega), ofNat_eq_byte (b := b) (by omega),
    ofNat_eq_byte (b := x) (by omega), ofNat_eq_byte (b := y) (by omega)]

theorem encodeChar_scalar_four {b x y z : UInt8} (hb : 0xF0 ≤ b.toNat ∧ b.toNat ≤ 0xF4)
    (hx : 0x80 ≤ x.toNat ∧ x.toNat ≤ 0xBF) (hy : 0x80 ≤ y.toNat ∧ y.toNat ≤ 0xBF)
    (hz : 0x80 ≤ z.toNat ∧ z.toNat ≤ 0xBF) (hLow : b.toNat = 0xF0 → 0x90 ≤ x.toNat)
    (hHigh : b.toNat = 0xF4 → x.toNat ≤ 0x8F) :
    encodeChar (scalar b [x, y, z]) = [b, x, y, z] := by
  have hValue : (scalar b [x, y, z]).toNat =
      (((b.toNat - 0xF0) * 0x40 + (x.toNat - 0x80)) * 0x40 + (y.toNat - 0x80)) * 0x40 +
        (z.toNat - 0x80) := by
    rw [scalar_four]
    exact toNat_ofNat (.inr (by omega))
  simp only [encodeChar, hValue]
  rw [if_neg (by omega), if_neg (by omega), if_neg (by omega), ofNat_eq_byte (b := b) (by omega),
    ofNat_eq_byte (b := x) (by omega), ofNat_eq_byte (b := y) (by omega),
    ofNat_eq_byte (b := z) (by omega)]

theorem continued_two {low high : UInt8} {tail : Bytes} (hLength : tail.length = 2)
    (h : continued 2 low high tail = 2) :
    ∃ x y, tail = [x, y] ∧ (low.toNat ≤ x.toNat ∧ x.toNat ≤ high.toNat) ∧
      0x80 ≤ y.toNat ∧ y.toNat ≤ 0xBF := by
  obtain ⟨x, y, rfl⟩ := List.length_eq_two.mp hLength
  obtain ⟨hx, hRest⟩ := (continued_succ_eq_iff _ _ _ _ _).mp h
  obtain ⟨hy, -⟩ := (continued_succ_eq_iff _ _ _ _ _).mp hRest
  exact ⟨x, y, rfl, hx, hy⟩

theorem continued_three {low high : UInt8} {tail : Bytes} (hLength : tail.length = 3)
    (h : continued 3 low high tail = 3) :
    ∃ x y z, tail = [x, y, z] ∧ (low.toNat ≤ x.toNat ∧ x.toNat ≤ high.toNat) ∧
      (0x80 ≤ y.toNat ∧ y.toNat ≤ 0xBF) ∧ 0x80 ≤ z.toNat ∧ z.toNat ≤ 0xBF := by
  obtain ⟨x, y, z, rfl⟩ := List.length_eq_three.mp hLength
  obtain ⟨hx, hRest⟩ := (continued_succ_eq_iff _ _ _ _ _).mp h
  obtain ⟨hy, hRest⟩ := (continued_succ_eq_iff _ _ _ _ _).mp hRest
  obtain ⟨hz, -⟩ := (continued_succ_eq_iff _ _ _ _ _).mp hRest
  exact ⟨x, y, z, rfl, hx, hy, hz⟩

theorem Reads.encodeChar_eq {b : UInt8} {tail : Bytes} {c : Char} (h : Reads b tail c) :
    encodeChar c = b :: tail := by
  obtain ⟨⟨shape, hRow, hLength, hContinued⟩, rfl⟩ := h
  cases hRow with
  | one hHigh =>
    obtain rfl := List.length_eq_zero_iff.mp hLength
    exact encodeChar_scalar_one hHigh
  | two hLow hHigh =>
    obtain ⟨x, rfl⟩ := List.length_eq_one_iff.mp hLength
    obtain ⟨hx, -⟩ := (continued_succ_eq_iff _ _ _ _ _).mp hContinued
    exact encodeChar_scalar_two ⟨hLow, hHigh⟩ hx
  | threeLow hb =>
    obtain ⟨x, y, rfl, ⟨hLow, hHigh⟩, hy⟩ := continued_two hLength hContinued
    have hLow : 0xA0 ≤ x.toNat := hLow
    exact encodeChar_scalar_three (by omega) ⟨by omega, hHigh⟩ hy (fun _ => hLow) (by omega)
  | threeBelow hb =>
    obtain ⟨x, y, rfl, ⟨hLow, hHigh⟩, hy⟩ := continued_two hLength hContinued
    have hHigh : x.toNat ≤ 0x9F := hHigh
    exact encodeChar_scalar_three (by omega) ⟨hLow, by omega⟩ hy (by omega) (fun _ => hHigh)
  | three hbLow hbHigh hGap =>
    obtain ⟨x, y, rfl, hx, hy⟩ := continued_two hLength hContinued
    exact encodeChar_scalar_three (by omega) hx hy (by omega) (fun hb => absurd hb hGap)
  | fourLow hb =>
    obtain ⟨x, y, z, rfl, ⟨hLow, hHigh⟩, hy, hz⟩ := continued_three hLength hContinued
    have hLow : 0x90 ≤ x.toNat := hLow
    exact encodeChar_scalar_four (by omega) ⟨by omega, hHigh⟩ hy hz (fun _ => hLow) (by omega)
  | four hbLow hbHigh =>
    obtain ⟨x, y, z, rfl, hx, hy, hz⟩ := continued_three hLength hContinued
    exact encodeChar_scalar_four (by omega) hx hy hz (by omega) (by omega)
  | fourHigh hb =>
    obtain ⟨x, y, z, rfl, ⟨hLow, hHigh⟩, hy, hz⟩ := continued_three hLength hContinued
    have hHigh : x.toNat ≤ 0x8F := hHigh
    exact encodeChar_scalar_four (by omega) ⟨hLow, by omega⟩ hy hz (by omega) (fun _ => hHigh)

theorem ofNat_eq {n : Nat} {c : Char} (h : n = c.toNat) : Char.ofNat n = c := by
  rw [h, Char.ofNat_toNat]

theorem reads_one {b : UInt8} {c : Char} (hb : b.toNat = c.toNat) (hHigh : c.toNat < 0x80) :
    Reads b [] c where
  shaped := ⟨_, .one (by omega), rfl, rfl⟩
  value := by
    rw [scalar_one]
    exact ofNat_eq hb

theorem reads_two {b x : UInt8} {c : Char} (hb : b.toNat = 0xC0 + c.toNat / 0x40)
    (hx : x.toNat = 0x80 + c.toNat % 0x40) (hLow : 0x80 ≤ c.toNat) (hHigh : c.toNat < 0x800) :
    Reads b [x] c where
  shaped := by
    refine ⟨_, .two (by omega) (by omega), rfl, ?_⟩
    rw [continued_succ_eq_iff, show UInt8.toNat 0x80 = 0x80 from rfl,
      show UInt8.toNat 0xBF = 0xBF from rfl]
    exact ⟨by omega, rfl⟩
  value := by
    rw [scalar_two]
    exact ofNat_eq (by omega)

theorem shaped_three {b x y low high : UInt8} (hRow : Row b ⟨2, low, high⟩)
    (hx : low.toNat ≤ x.toNat ∧ x.toNat ≤ high.toNat) (hy : 0x80 ≤ y.toNat ∧ y.toNat ≤ 0xBF) :
    ∃ shape, Row b shape ∧ [x, y].length = shape.following ∧
      continued shape.following shape.low shape.high [x, y] = shape.following := by
  refine ⟨_, hRow, rfl, ?_⟩
  rw [continued_succ_eq_iff, continued_succ_eq_iff]
  exact ⟨hx, hy, rfl⟩

theorem shaped_four {b x y z low high : UInt8} (hRow : Row b ⟨3, low, high⟩)
    (hx : low.toNat ≤ x.toNat ∧ x.toNat ≤ high.toNat) (hy : 0x80 ≤ y.toNat ∧ y.toNat ≤ 0xBF)
    (hz : 0x80 ≤ z.toNat ∧ z.toNat ≤ 0xBF) :
    ∃ shape, Row b shape ∧ [x, y, z].length = shape.following ∧
      continued shape.following shape.low shape.high [x, y, z] = shape.following := by
  refine ⟨_, hRow, rfl, ?_⟩
  rw [continued_succ_eq_iff, continued_succ_eq_iff, continued_succ_eq_iff]
  exact ⟨hx, hy, hz, rfl⟩

theorem reads_three {b x y : UInt8} {c : Char} (hb : b.toNat = 0xE0 + c.toNat / 0x1000)
    (hx : x.toNat = 0x80 + c.toNat / 0x40 % 0x40) (hy : y.toNat = 0x80 + c.toNat % 0x40)
    (hLow : 0x800 ≤ c.toNat) (hHigh : c.toNat < 0x10000) : Reads b [x, y] c where
  shaped := by
    have hValid : c.toNat < 0xD800 ∨ 0xDFFF < c.toNat ∧ c.toNat < 0x110000 := c.valid
    by_cases hFirst : b.toNat = 0xE0
    · have hRange : 0xA0 ≤ x.toNat ∧ x.toNat ≤ 0xBF := by omega
      exact shaped_three (.threeLow hFirst) hRange (by omega)
    by_cases hGap : b.toNat = 0xED
    · have hRange : 0x80 ≤ x.toNat ∧ x.toNat ≤ 0x9F := by omega
      exact shaped_three (.threeBelow hGap) hRange (by omega)
    · have hRange : 0x80 ≤ x.toNat ∧ x.toNat ≤ 0xBF := by omega
      exact shaped_three (.three (by omega) (by omega) hGap) hRange (by omega)
  value := by
    rw [scalar_three]
    exact ofNat_eq (by omega)

theorem reads_four {b x y z : UInt8} {c : Char} (hb : b.toNat = 0xF0 + c.toNat / 0x40000)
    (hx : x.toNat = 0x80 + c.toNat / 0x1000 % 0x40) (hy : y.toNat = 0x80 + c.toNat / 0x40 % 0x40)
    (hz : z.toNat = 0x80 + c.toNat % 0x40) (hLow : 0x10000 ≤ c.toNat) : Reads b [x, y, z] c where
  shaped := by
    have hValid : c.toNat < 0xD800 ∨ 0xDFFF < c.toNat ∧ c.toNat < 0x110000 := c.valid
    by_cases hFirst : b.toNat = 0xF0
    · have hRange : 0x90 ≤ x.toNat ∧ x.toNat ≤ 0xBF := by omega
      exact shaped_four (.fourLow hFirst) hRange (by omega) (by omega)
    by_cases hLast : b.toNat = 0xF4
    · have hRange : 0x80 ≤ x.toNat ∧ x.toNat ≤ 0x8F := by omega
      exact shaped_four (.fourHigh hLast) hRange (by omega) (by omega)
    · have hRange : 0x80 ≤ x.toNat ∧ x.toNat ≤ 0xBF := by omega
      exact shaped_four (.four (by omega) (by omega)) hRange (by omega) (by omega)
  value := by
    rw [scalar_four]
    exact ofNat_eq (by omega)

theorem reads_of_encodeChar (c : Char) : ∃ b tail, encodeChar c = b :: tail ∧ Reads b tail c := by
  have hValid : c.toNat < 0xD800 ∨ 0xDFFF < c.toNat ∧ c.toNat < 0x110000 := c.valid
  simp only [encodeChar]
  split
  · rename_i hOne
    exact ⟨_, _, rfl, reads_one (toNat_byte (by omega)) hOne⟩
  split
  · rename_i hOne hTwo
    exact ⟨_, _, rfl, reads_two (toNat_byte (by omega)) (toNat_byte (by omega)) (by omega) hTwo⟩
  split
  · rename_i hOne hTwo hThree
    exact ⟨_, _, rfl, reads_three (toNat_byte (by omega)) (toNat_byte (by omega))
      (toNat_byte (by omega)) (by omega) hThree⟩
  · exact ⟨_, _, rfl, reads_four (toNat_byte (by omega)) (toNat_byte (by omega))
      (toNat_byte (by omega)) (toNat_byte (by omega)) (by omega)⟩

theorem encodeChar_eq_cons_iff {b : UInt8} {tail : Bytes} {c : Char} :
    encodeChar c = b :: tail ↔ Reads b tail c := by
  constructor
  · intro h
    obtain ⟨b', tail', hEncoded, hReads⟩ := reads_of_encodeChar c
    obtain ⟨rfl, rfl⟩ := List.cons.inj (hEncoded.symm.trans h)
    exact hReads
  · exact Reads.encodeChar_eq

theorem decodeFrom_of_reads {b : UInt8} {tail : Bytes} {c : Char} (h : Reads b tail c)
    (position : Nat) (rest : Bytes) :
    decodeFrom position (b :: (tail ++ rest)) =
      (decodeFrom (position + tail.length + 1) rest).map (c :: ·) := by
  obtain ⟨⟨shape, hRow, hLength, hContinued⟩, hValue⟩ := h
  have hShape := shape?_eq_some_iff.mpr hRow
  have hAll := continued_append rest hContinued
  rw [decodeFrom, hShape]
  simp only [hAll, if_true]
  rw [← hLength, List.drop_left, List.take_left, hValue]
  cases decodeFrom (position + tail.length + 1) rest <;> rfl

theorem reads_of_decodeFrom {position : Nat} {b : UInt8} {bs : Bytes} {cs : List Char}
    (h : decodeFrom position (b :: bs) = .ok cs) :
    ∃ c tail rest chars, bs = tail ++ rest ∧ Reads b tail c ∧ cs = c :: chars ∧
      decodeFrom (position + tail.length + 1) rest = .ok chars := by
  rw [decodeFrom] at h
  cases hShape : shape? b with
  | none =>
    rw [hShape] at h
    cases h
  | some shape =>
    simp only [hShape] at h
    split at h
    · rename_i hContinued
      have hLe := continued_le_length shape.following shape.low shape.high bs
      rw [hContinued] at hLe h
      have hLength : (bs.take shape.following).length = shape.following :=
        List.length_take_of_le hLe
      refine ⟨scalar b (bs.take shape.following), bs.take shape.following,
        bs.drop shape.following, ?_⟩
      cases hRest : decodeFrom (position + shape.following + 1) (bs.drop shape.following) with
      | error fault =>
        rw [hRest] at h
        cases h
      | ok chars =>
        rw [hRest] at h
        cases h
        rw [hLength]
        refine ⟨chars, (List.take_append_drop _ _).symm, ⟨?_, rfl⟩, rfl, hRest⟩
        exact ⟨shape, shape?_eq_some_iff.mp hShape, hLength, continued_take hContinued⟩
    · split at h <;> cases h

theorem decodeFrom_flatMap (position : Nat) (cs : List Char) :
    decodeFrom position (cs.flatMap encodeChar) = .ok cs := by
  induction cs generalizing position with
  | nil => rw [List.flatMap_nil, decodeFrom]
  | cons c cs ih =>
    obtain ⟨b, tail, hEncoded, hReads⟩ := reads_of_encodeChar c
    rw [List.flatMap_cons, hEncoded, List.cons_append, decodeFrom_of_reads hReads, ih]
    rfl

theorem flatMap_of_decodeFrom {position : Nat} {bs : Bytes} {cs : List Char}
    (h : decodeFrom position bs = .ok cs) : cs.flatMap encodeChar = bs := by
  induction cs generalizing position bs with
  | nil =>
    cases bs with
    | nil => rfl
    | cons b bs =>
      obtain ⟨c, tail, rest, chars, -, -, hChars, -⟩ := reads_of_decodeFrom h
      cases hChars
  | cons c cs ih =>
    cases bs with
    | nil =>
      rw [decodeFrom] at h
      cases h
    | cons b bs =>
      obtain ⟨c', tail, rest, chars, rfl, hReads, hChars, hRest⟩ := reads_of_decodeFrom h
      cases hChars
      rw [List.flatMap_cons, ih hRest, hReads.encodeChar_eq, List.cons_append]

theorem decode_encode (s : String) : decode (encode s) = .ok s := by
  rw [decode, encode, decodeFrom_flatMap]
  simp only [String.ofList_toList]

theorem encode_append (s t : String) : encode (s ++ t) = encode s ++ encode t := by
  rw [encode, String.toList_append, List.flatMap_append]
  rfl

theorem encode_of_decode {bs : Bytes} {s : String} (h : decode bs = .ok s) : encode s = bs := by
  rw [decode] at h
  cases hChars : decodeFrom 0 bs with
  | error fault =>
    rw [hChars] at h
    cases h
  | ok cs =>
    rw [hChars] at h
    cases h
    rw [encode, String.toList_ofList]
    exact flatMap_of_decodeFrom hChars

theorem decode_eq_ok_iff (bs : Bytes) (s : String) : decode bs = .ok s ↔ encode s = bs := by
  constructor
  · exact encode_of_decode
  · rintro rfl
    exact decode_encode s

end BufferedHttp.Text.Utf8
