import BufferedHttp.Proofs.Text.WellFormed
import BufferedHttp.Uri.Query

/-!
# What percent-encoding spells

A query value spells bytes: each escape the byte of its two digits, each plus sign a space, every
other byte itself. The value decodes to a text exactly when it spells the UTF-8 of that text. It does
not decode when some percent sign is no escape, or when the bytes that it spells are not UTF-8.
-/

namespace BufferedHttp.Percent

open Text.Utf8 (encode WellFormed)

/-- A hexadecimal digit of either case and its value. -/
inductive HexDigit : UInt8 → Nat → Prop where
  | decimal {b : UInt8} (h : 0x30 ≤ b.toNat ∧ b.toNat ≤ 0x39) : HexDigit b (b.toNat - 0x30)
  | upper {b : UInt8} (h : 0x41 ≤ b.toNat ∧ b.toNat ≤ 0x46) : HexDigit b (b.toNat - 0x41 + 10)
  | lower {b : UInt8} (h : 0x61 ≤ b.toNat ∧ b.toNat ≤ 0x66) : HexDigit b (b.toNat - 0x61 + 10)

/-- A piece of a query value and the byte that it stands for. -/
inductive Stands : Bytes → UInt8 → Prop where
  | escape {high low byte : UInt8} {h l : Nat} (hHigh : HexDigit high h) (hLow : HexDigit low l)
      (hByte : byte.toNat = 16 * h + l) : Stands [0x25, high, low] byte
  | plus : Stands [0x2B] 0x20
  | literal {b : UInt8} (hPercent : b ≠ 0x25) (hPlus : b ≠ 0x2B) : Stands [b] b

inductive Spells : Bytes → Bytes → Prop where
  | nil : Spells [] []
  | append {piece rest bytes : Bytes} {byte : UInt8} (hPiece : Stands piece byte)
      (hRest : Spells rest bytes) : Spells (piece ++ rest) (byte :: bytes)

/-- The bytes behind a percent sign that is no escape: too few, or not two digits. -/
inductive NoDigits : Bytes → Prop where
  | truncated {behind : Bytes} (h : behind.length < 2) : NoDigits behind
  | high {high : UInt8} {behind : Bytes} (h : ∀ n, ¬HexDigit high n) : NoDigits (high :: behind)
  | low {high low : UInt8} {behind : Bytes} (h : ∀ n, ¬HexDigit low n) :
      NoDigits (high :: low :: behind)

/-- Somewhere stands a percent sign that is no escape. -/
def Broken (bytes : Bytes) : Prop :=
  ∃ before behind, bytes = before ++ 0x25 :: behind ∧ NoDigits behind

/-! ## Digits -/

theorem HexDigit.lt {b : UInt8} {n : Nat} (h : HexDigit b n) : n < 16 := by
  cases h <;> omega

theorem HexDigit.ascii {b : UInt8} {n : Nat} (h : HexDigit b n) : b.toNat < 0x80 := by
  cases h <;> omega

theorem HexDigit.ne_percent {b : UInt8} {n : Nat} (h : HexDigit b n) : b ≠ 0x25 := by
  rintro rfl
  cases h with
  | decimal h => exact absurd h (by decide)
  | upper h => exact absurd h (by decide)
  | lower h => exact absurd h (by decide)

theorem toNat_sub {b : UInt8} {n : Nat} (hLow : n ≤ b.toNat) :
    (b - UInt8.ofNat n).toNat = b.toNat - n := by
  have hb := b.toNat_lt
  have hn : (UInt8.ofNat n).toNat = n := UInt8.toNat_ofNat_of_lt' (Nat.lt_of_le_of_lt hLow hb)
  rw [UInt8.toNat_sub_of_le _ _ (UInt8.le_iff_toNat_le.mpr (by rwa [hn])), hn]

theorem hexDigit?_eq_ite (b : UInt8) :
    hexDigit? b =
      if 0x30 ≤ b.toNat ∧ b.toNat ≤ 0x39 then some (b - UInt8.ofNat 0x30)
      else if 0x41 ≤ b.toNat ∧ b.toNat ≤ 0x46 then some (b - UInt8.ofNat 0x37)
      else if 0x61 ≤ b.toNat ∧ b.toNat ≤ 0x66 then some (b - UInt8.ofNat 0x57)
      else none := by
  simp only [hexDigit?, UInt8.le_iff_toNat_le]
  rfl

theorem hexDigit_of_hexDigit? {b value : UInt8} (h : hexDigit? b = some value) :
    HexDigit b value.toNat := by
  rw [hexDigit?_eq_ite] at h
  split at h
  · rename_i hDecimal
    cases h
    rw [toNat_sub hDecimal.1]
    exact .decimal hDecimal
  split at h
  · rename_i hUpper
    cases h
    rw [toNat_sub (by omega), show b.toNat - 0x37 = b.toNat - 0x41 + 10 by omega]
    exact .upper hUpper
  split at h
  · rename_i hLower
    cases h
    rw [toNat_sub (by omega), show b.toNat - 0x57 = b.toNat - 0x61 + 10 by omega]
    exact .lower hLower
  · cases h

theorem exists_hexDigit? {b : UInt8} {n : Nat} (h : HexDigit b n) :
    ∃ value, hexDigit? b = some value ∧ value.toNat = n := by
  rw [hexDigit?_eq_ite]
  cases h with
  | decimal h => exact ⟨_, if_pos h, toNat_sub h.1⟩
  | upper h =>
    rw [if_neg (by omega), if_pos h]
    exact ⟨_, rfl, by rw [toNat_sub (by omega)]; omega⟩
  | lower h =>
    rw [if_neg (by omega), if_neg (by omega), if_pos h]
    exact ⟨_, rfl, by rw [toNat_sub (by omega)]; omega⟩

theorem hexDigit?_eq_none_iff {b : UInt8} : hexDigit? b = none ↔ ∀ n, ¬HexDigit b n := by
  constructor
  · intro hNone n hDigit
    obtain ⟨value, hValue, -⟩ := exists_hexDigit? hDigit
    rw [hNone] at hValue
    cases hValue
  · intro hNone
    cases hValue : hexDigit? b with
    | none => rfl
    | some value => exact absurd (hexDigit_of_hexDigit? hValue) (hNone _)

theorem toNat_pair {h l : UInt8} (hHigh : h.toNat < 16) (hLow : l.toNat < 16) :
    (h * 16 + l).toNat = 16 * h.toNat + l.toNat := by
  rw [UInt8.toNat_add, UInt8.toNat_mul, show UInt8.toNat 16 = 16 from rfl]
  omega

theorem hexByte?_eq_some_iff {high low byte : UInt8} :
    hexByte? high low = some byte ↔
      ∃ h l, HexDigit high h ∧ HexDigit low l ∧ byte.toNat = 16 * h + l := by
  rw [hexByte?]
  constructor
  · intro hPair
    split at hPair
    · rename_i h l hHigh hLow
      cases hPair
      have hHigh := hexDigit_of_hexDigit? hHigh
      have hLow := hexDigit_of_hexDigit? hLow
      exact ⟨_, _, hHigh, hLow, toNat_pair hHigh.lt hLow.lt⟩
    · cases hPair
  · rintro ⟨_, _, hHigh, hLow, hByte⟩
    have hHighLt := hHigh.lt
    have hLowLt := hLow.lt
    obtain ⟨h, hSomeHigh, rfl⟩ := exists_hexDigit? hHigh
    obtain ⟨l, hSomeLow, rfl⟩ := exists_hexDigit? hLow
    simp only [hSomeHigh, hSomeLow, Option.some.injEq]
    rw [← UInt8.toNat_inj, hByte, toNat_pair hHighLt hLowLt]

theorem noDigits_of_hexByte? {high low : UInt8} (behind : Bytes)
    (h : hexByte? high low = none) : NoDigits (high :: low :: behind) := by
  rw [hexByte?] at h
  split at h
  · cases h
  · rename_i hPair
    cases hHigh : hexDigit? high with
    | none => exact .high (hexDigit?_eq_none_iff.mp hHigh)
    | some value =>
      apply NoDigits.low
      rw [← hexDigit?_eq_none_iff]
      cases hLow : hexDigit? low with
      | none => rfl
      | some value' => exact absurd hLow (hPair _ _ hHigh)

/-! ## What is spelled is read -/

theorem unescape?_cons_of_ne {b : UInt8} (h : b ≠ 0x25) (rest : Bytes) :
    unescape? (b :: rest) = (unescape? rest).map ((if b = 0x2B then 0x20 else b) :: ·) := by
  rw [unescape?.eq_def]
  simp only [if_neg h]

theorem unescape?_stands {piece : Bytes} {byte : UInt8} (h : Stands piece byte) (rest : Bytes) :
    unescape? (piece ++ rest) = (unescape? rest).map (byte :: ·) := by
  cases h with
  | escape hHigh hLow hByte =>
    have hPair := hexByte?_eq_some_iff.mpr ⟨_, _, hHigh, hLow, hByte⟩
    rw [List.cons_append, List.cons_append, List.cons_append, List.nil_append, unescape?]
    simp only [hPair, if_true]
  | plus => rw [List.singleton_append, unescape?_cons_of_ne (by decide), if_pos rfl]
  | literal hPercent hPlus =>
    rw [List.singleton_append, unescape?_cons_of_ne hPercent, if_neg hPlus]

theorem unescape?_of_spells {value bytes : Bytes} (h : Spells value bytes) :
    unescape? value = some bytes := by
  induction h with
  | nil => rfl
  | append hPiece _ ih => rw [unescape?_stands hPiece, ih, Option.map_some]

theorem broken_cons_iff {b : UInt8} {rest : Bytes} :
    Broken (b :: rest) ↔ (b = 0x25 ∧ NoDigits rest) ∨ Broken rest := by
  constructor
  · rintro ⟨before, behind, hValue, hBehind⟩
    cases before with
    | nil =>
      obtain ⟨rfl, rfl⟩ := List.cons.inj hValue
      exact .inl ⟨rfl, hBehind⟩
    | cons first before =>
      obtain ⟨rfl, rfl⟩ := List.cons.inj hValue
      exact .inr ⟨before, behind, rfl, hBehind⟩
  · rintro (⟨rfl, hBehind⟩ | ⟨before, behind, rfl, hBehind⟩)
    · exact ⟨[], rest, rfl, hBehind⟩
    · exact ⟨b :: before, behind, rfl, hBehind⟩

theorem broken_append (before : Bytes) {rest : Bytes} (h : Broken rest) :
    Broken (before ++ rest) := by
  obtain ⟨between, behind, rfl, hBehind⟩ := h
  exact ⟨before ++ between, behind, (List.append_assoc _ _ _).symm, hBehind⟩

/-- A value spells bytes, or reading it stops at a percent sign that is no escape. -/
theorem spells_or_stops (value : Bytes) :
    (∃ bytes, Spells value bytes) ∨ (unescape? value = none ∧ Broken value) := by
  induction value using unescape?.induct with
  | case1 => exact .inl ⟨[], .nil⟩
  | case2 high low rest byte hPair ih =>
    obtain ⟨h, l, hHigh, hLow, hByte⟩ := hexByte?_eq_some_iff.mp hPair
    have hPiece : Stands [0x25, high, low] byte := .escape hHigh hLow hByte
    refine ih.imp ?_ ?_
    · rintro ⟨bytes, hRest⟩
      exact ⟨_, .append hPiece hRest⟩
    · rintro ⟨hNone, hBroken⟩
      have hStep := unescape?_stands hPiece rest
      rw [hNone] at hStep
      exact ⟨hStep, broken_append [0x25, high, low] hBroken⟩
  | case3 high low rest hPair =>
    refine .inr ⟨?_, broken_cons_iff.mpr (.inl ⟨rfl, noDigits_of_hexByte? rest hPair⟩)⟩
    rw [unescape?]
    simp only [hPair, if_true]
  | case4 rest hShort =>
    refine .inr ?_
    match rest with
    | [] => exact ⟨rfl, broken_cons_iff.mpr (.inl ⟨rfl, .truncated Nat.zero_lt_two⟩)⟩
    | [_] => exact ⟨rfl, broken_cons_iff.mpr (.inl ⟨rfl, .truncated Nat.one_lt_two⟩)⟩
    | high :: low :: rest => exact (hShort high low rest rfl).elim
  | case5 b rest hPercent ih =>
    refine ih.imp ?_ ?_
    · rintro ⟨bytes, hRest⟩
      by_cases hPlus : b = 0x2B
      · rw [hPlus]
        exact ⟨_, .append .plus hRest⟩
      · exact ⟨_, .append (.literal hPercent hPlus) hRest⟩
    · rintro ⟨hNone, hBroken⟩
      rw [unescape?_cons_of_ne hPercent, hNone]
      exact ⟨rfl, broken_append [b] hBroken⟩

theorem not_noDigits {high low : UInt8} {h l : Nat} (hHigh : HexDigit high h)
    (hLow : HexDigit low l) (rest : Bytes) : ¬NoDigits (high :: low :: rest) := by
  intro hNone
  cases hNone with
  | truncated hShort => exact Nat.not_lt.mpr (Nat.le_add_left 2 rest.length) hShort
  | high hNot => exact hNot h hHigh
  | low hNot => exact hNot l hLow

theorem not_broken_append {piece rest : Bytes} {byte : UInt8} (hPiece : Stands piece byte)
    (hRest : ¬Broken rest) : ¬Broken (piece ++ rest) := by
  cases hPiece with
  | escape hHigh hLow _ =>
    -- a digit is no percent sign, so only the first byte could break the escape
    have hHighNe := hHigh.ne_percent
    have hLowNe := hLow.ne_percent
    simp [broken_cons_iff, hHighNe, hLowNe, hRest, not_noDigits hHigh hLow rest]
  | plus => simp [broken_cons_iff, hRest]
  | literal hPercent _ => simp [broken_cons_iff, hRest, hPercent]

theorem not_broken_of_spells {value bytes : Bytes} (h : Spells value bytes) : ¬Broken value := by
  induction h with
  | nil =>
    rintro ⟨before, behind, hValue, -⟩
    exact absurd hValue (by simp)
  | append hPiece _ ih => exact not_broken_append hPiece ih

theorem unescape?_eq_some_iff {value bytes : Bytes} :
    unescape? value = some bytes ↔ Spells value bytes := by
  constructor
  · intro h
    rcases spells_or_stops value with ⟨bytes', hSpells⟩ | ⟨hNone, -⟩
    · rw [unescape?_of_spells hSpells] at h
      exact Option.some.inj h ▸ hSpells
    · rw [hNone] at h
      cases h
  · exact unescape?_of_spells

/-! ## Values and texts -/

theorem Spells.unique {value first second : Bytes} (hFirst : Spells value first)
    (hSecond : Spells value second) : first = second := by
  rw [← unescape?_eq_some_iff] at hFirst hSecond
  exact Option.some.inj (hFirst.symm.trans hSecond)

theorem Spells.append_spells {first second firstBytes secondBytes : Bytes}
    (hFirst : Spells first firstBytes) (hSecond : Spells second secondBytes) :
    Spells (first ++ second) (firstBytes ++ secondBytes) := by
  induction hFirst with
  | nil => exact hSecond
  | append hPiece _ ih =>
    rw [List.append_assoc]
    exact .append hPiece ih

theorem decode?_eq_some_iff (v s : String) :
    decode? v = some s ↔ Spells (encode v) (encode s) := by
  rw [decode?, ← unescape?_eq_some_iff]
  cases unescape? (encode v) with
  | none => simp
  | some bytes =>
    rw [Option.some.injEq, eq_comm (a := bytes), ← Text.Utf8.decode_eq_ok_iff]
    cases hDecoded : Text.Utf8.decode bytes <;> simp [hDecoded, Except.toOption]

theorem exists_decode?_iff {v : String} {bytes : Bytes} (h : Spells (encode v) bytes) :
    (∃ s, decode? v = some s) ↔ WellFormed bytes := by
  rw [Text.Utf8.wellFormed_iff_encode]
  constructor
  · rintro ⟨s, hDecoded⟩
    exact ⟨s, ((decode?_eq_some_iff v s).mp hDecoded).unique h⟩
  · rintro ⟨s, rfl⟩
    exact ⟨s, (decode?_eq_some_iff v s).mpr h⟩

theorem decode?_eq_none_iff (v : String) :
    decode? v = none ↔
      Broken (encode v) ∨ ∃ bytes, Spells (encode v) bytes ∧ ¬WellFormed bytes := by
  constructor
  · intro hNone
    rcases spells_or_stops (encode v) with ⟨bytes, hSpells⟩ | ⟨-, hBroken⟩
    · refine .inr ⟨bytes, hSpells, ?_⟩
      rw [← exists_decode?_iff hSpells, hNone]
      simp
    · exact .inl hBroken
  · rw [Option.eq_none_iff_forall_ne_some]
    rintro (hBroken | ⟨bytes, hSpells, hIll⟩) s hDecoded
    · exact not_broken_of_spells ((decode?_eq_some_iff v s).mp hDecoded) hBroken
    · exact hIll ((exists_decode?_iff hSpells).mp ⟨s, hDecoded⟩)

theorem decode?_append {v w s t : String} (hFirst : decode? v = some s)
    (hSecond : decode? w = some t) : decode? (v ++ w) = some (s ++ t) := by
  rw [decode?_eq_some_iff] at hFirst hSecond ⊢
  rw [Text.Utf8.encode_append, Text.Utf8.encode_append]
  exact hFirst.append_spells hSecond

/-- A value decodes to a text exactly when it spells the UTF-8 of the text. What an escape yields
is not read again, whatever follows it. -/
theorem decodes_what_is_spelled (v : String) :
    (∀ s, decode? v = some s ↔ Spells (encode v) (encode s)) ∧
    (decode? v = none ↔
      Broken (encode v) ∨ ∃ bytes, Spells (encode v) bytes ∧ ¬WellFormed bytes) ∧
    (∀ bytes, Spells (encode v) bytes → ((∃ s, decode? v = some s) ↔ WellFormed bytes)) ∧
    (∀ b : UInt8, 0x80 ≤ b.toNat → ∀ n, ¬HexDigit b n) ∧
    ∀ s, decode? v = some s →
      decode? ("%25" ++ v) = some ("%" ++ s) ∧ decode? ("%2B" ++ v) = some ("+" ++ s) := by
  refine ⟨decode?_eq_some_iff v, decode?_eq_none_iff v, fun _ => exists_decode?_iff, ?_, ?_⟩
  · intro b hAbove n hDigit
    exact absurd hDigit.ascii (Nat.not_lt.mpr hAbove)
  · intro s hDecoded
    exact ⟨decode?_append (by decide +kernel) hDecoded, decode?_append (by decide +kernel) hDecoded⟩

example : decode? "%F0%9f%98%80+%2541" = some "😀 %41" := by decide +kernel

end BufferedHttp.Percent
