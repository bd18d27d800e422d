import BufferedHttp.Proofs.Text.Utf8

/-!
# Well-formed UTF-8

Table 3-7 of the Unicode standard as a grammar of byte sequences, one constructor for each row.
A sequence of the table is the encoding of a character, and bytes made of such sequences are the
bytes that decode.
-/

namespace BufferedHttp.Text.Utf8

/-- The bytes that continue a sequence, where no row narrows the range. -/
def Trailing (b : UInt8) : Prop := 0x80 ≤ b.toNat ∧ b.toNat ≤ 0xBF

inductive Sequence : Bytes → Prop where
  | one {b : UInt8} (hFirst : b.toNat ≤ 0x7F) : Sequence [b]
  | two {b x : UInt8} (hFirst : 0xC2 ≤ b.toNat ∧ b.toNat ≤ 0xDF) (hSecond : Trailing x) :
      Sequence [b, x]
  | threeLow {x y : UInt8} (hSecond : 0xA0 ≤ x.toNat ∧ x.toNat ≤ 0xBF) (hThird : Trailing y) :
      Sequence [0xE0, x, y]
  | threeMiddle {b x y : UInt8} (hFirst : 0xE1 ≤ b.toNat ∧ b.toNat ≤ 0xEC)
      (hSecond : Trailing x) (hThird : Trailing y) : Sequence [b, x, y]
  | threeBelow {x y : UInt8} (hSecond : 0x80 ≤ x.toNat ∧ x.toNat ≤ 0x9F) (hThird : Trailing y) :
      Sequence [0xED, x, y]
  | threeHigh {b x y : UInt8} (hFirst : 0xEE ≤ b.toNat ∧ b.toNat ≤ 0xEF)
      (hSecond : Trailing x) (hThird : Trailing y) : Sequence [b, x, y]
  | fourLow {x y z : UInt8} (hSecond : 0x90 ≤ x.toNat ∧ x.toNat ≤ 0xBF) (hThird : Trailing y)
      (hFourth : Trailing z) : Sequence [0xF0, x, y, z]
  | fourMiddle {b x y z : UInt8} (hFirst : 0xF1 ≤ b.toNat ∧ b.toNat ≤ 0xF3)
      (hSecond : Trailing x) (hThird : Trailing y) (hFourth : Trailing z) :
      Sequence [b, x, y, z]
  | fourHigh {x y z : UInt8} (hSecond : 0x80 ≤ x.toNat ∧ x.toNat ≤ 0x8F) (hThird : Trailing y)
      (hFourth : Trailing z) : Sequence [0xF4, x, y, z]

inductive WellFormed : Bytes → Prop where
  | nil : WellFormed []
  | append {sequence rest : Bytes} (hSequence : Sequence sequence) (hRest : WellFormed rest) :
      WellFormed (sequence ++ rest)

theorem Reads.sequence {b : UInt8} {tail : Bytes} {c : Char} (h : Reads b tail c) :
    Sequence (b :: tail) := by
  obtain ⟨⟨shape, hRow, hLength, hContinued⟩, -⟩ := h
  cases hRow with
  | one hHigh =>
    obtain rfl := List.length_eq_zero_iff.mp hLength
    exact .one hHigh
  | two hLow hHigh =>
    obtain ⟨x, rfl⟩ := List.length_eq_one_iff.mp hLength
    obtain ⟨hx, -⟩ := (continued_succ_eq_iff _ _ _ _ _).mp hContinued
    exact .two ⟨hLow, hHigh⟩ hx
  | threeLow hb =>
    obtain ⟨x, y, rfl, hx, hy⟩ := continued_two hLength hContinued
    obtain rfl : b = 0xE0 := UInt8.toNat_inj.mp hb
    exact .threeLow hx hy
  | threeBelow hb =>
    obtain ⟨x, y, rfl, hx, hy⟩ := continued_two hLength hContinued
    obtain rfl : b = 0xED := UInt8.toNat_inj.mp hb
    exact .threeBelow hx hy
  | three hLow hHigh hGap =>
    obtain ⟨x, y, rfl, hx, hy⟩ := continued_two hLength hContinued
    rcases Nat.lt_or_gt_of_ne hGap with hBelow | hAbove
    · exact .threeMiddle ⟨hLow, by omega⟩ hx hy
    · exact .threeHigh ⟨by omega, hHigh⟩ hx hy
  | fourLow hb =>
    obtain ⟨x, y, z, rfl, hx, hy, hz⟩ := continued_three hLength hContinued
    obtain rfl : b = 0xF0 := UInt8.toNat_inj.mp hb
    exact .fourLow hx hy hz
  | four hLow hHigh =>
    obtain ⟨x, y, z, rfl, hx, hy, hz⟩ := continued_three hLength hContinued
    exact .fourMiddle ⟨hLow, hHigh⟩ hx hy hz
  | fourHigh hb =>
    obtain ⟨x, y, z, rfl, hx, hy, hz⟩ := continued_three hLength hContinued
    obtain rfl : b = 0xF4 := UInt8.toNat_inj.mp hb
    exact .fourHigh hx hy hz

theorem sequence_encodeChar (c : Char) : Sequence (encodeChar c) := by
  obtain ⟨b, tail, hEncoded, hReads⟩ := reads_of_encodeChar c
  rw [hEncoded]
  exact hReads.sequence

theorem Sequence.exists_encodeChar {bytes : Bytes} (h : Sequence bytes) :
    ∃ c, encodeChar c = bytes := by
  cases h with
  | one hFirst => exact ⟨_, encodeChar_scalar_one hFirst⟩
  | two hFirst hSecond => exact ⟨_, encodeChar_scalar_two hFirst hSecond⟩
  | threeLow hSecond hThird =>
    exact ⟨_, encodeChar_scalar_three (by decide) ⟨by omega, hSecond.2⟩ hThird
      (fun _ => hSecond.1) (fun hGap => absurd hGap (by decide))⟩
  | threeMiddle hFirst hSecond hThird =>
    exact ⟨_, encodeChar_scalar_three ⟨by omega, by omega⟩ hSecond hThird (by omega) (by omega)⟩
  | threeBelow hSecond hThird =>
    exact ⟨_, encodeChar_scalar_three (by decide) ⟨hSecond.1, by omega⟩ hThird
      (fun hLow => absurd hLow (by decide)) (fun _ => hSecond.2)⟩
  | threeHigh hFirst hSecond hThird =>
    exact ⟨_, encodeChar_scalar_three ⟨by omega, hFirst.2⟩ hSecond hThird (by omega) (by omega)⟩
  | fourLow hSecond hThird hFourth =>
    exact ⟨_, encodeChar_scalar_four (by decide) ⟨by omega, hSecond.2⟩ hThird hFourth
      (fun _ => hSecond.1) (fun hHigh => absurd hHigh (by decide))⟩
  | fourMiddle hFirst hSecond hThird hFourth =>
    exact ⟨_, encodeChar_scalar_four ⟨by omega, by omega⟩ hSecond hThird hFourth (by omega)
      (by omega)⟩
  | fourHigh hSecond hThird hFourth =>
    exact ⟨_, encodeChar_scalar_four (by decide) ⟨hSecond.1, by omega⟩ hThird hFourth
      (fun hLow => absurd hLow (by decide)) (fun _ => hSecond.2)⟩

theorem wellFormed_flatMap (cs : List Char) : WellFormed (cs.flatMap encodeChar) := by
  induction cs with
  | nil => exact .nil
  | cons c cs ih =>
    rw [List.flatMap_cons]
    exact .append (sequence_encodeChar c) ih

theorem WellFormed.exists_flatMap {bytes : Bytes} (h : WellFormed bytes) :
    ∃ cs : List Char, cs.flatMap encodeChar = bytes := by
  induction h with
  | nil => exact ⟨[], rfl⟩
  | append hSequence _ ih =>
    obtain ⟨c, rfl⟩ := hSequence.exists_encodeChar
    obtain ⟨cs, rfl⟩ := ih
    exact ⟨c :: cs, List.flatMap_cons⟩

theorem wellFormed_iff_encode (bytes : Bytes) : WellFormed bytes ↔ ∃ s, encode s = bytes := by
  constructor
  · intro h
    obtain ⟨cs, hBytes⟩ := h.exists_flatMap
    exact ⟨String.ofList cs, by rw [encode, String.toList_ofList, hBytes]⟩
  · rintro ⟨s, rfl⟩
    exact wellFormed_flatMap s.toList

theorem wellFormed_iff_decode (bytes : Bytes) :
    WellFormed bytes ↔ ∃ s, decode bytes = .ok s := by
  simp only [wellFormed_iff_encode, decode_eq_ok_iff]

end BufferedHttp.Text.Utf8
