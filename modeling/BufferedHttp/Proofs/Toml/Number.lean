import BufferedHttp.Toml.Moment
import BufferedHttp.Toml.Number

/-!
# Decimal digits are read as their number

The decimal digits of a number are read as that number, and as no date or time. They have no
leading zero, so an integer that is read is one that fits a signed word, and every such number is
read from its digits.
-/

namespace BufferedHttp.Toml

/-! ## Integers -/

theorem digit?_of_isDigit {c : Char} (h : c.isDigit = true) :
    digit? 10 c = some (c.toNat - '0'.toNat) := by
  obtain ⟨hLow, hHigh⟩ := Char.isDigit_iff_toNat.mp h
  have hHex : hexDigit? c = some (c.toNat - '0'.toNat) := by
    rw [hexDigit?, if_pos ⟨Char.le_def.mpr hLow, Char.le_def.mpr hHigh⟩]
  have hBase : c.toNat - '0'.toNat < 10 := by
    have hNine : '9'.toNat - '0'.toNat = 9 := rfl
    omega
  simp only [digit?, hHex, if_pos hBase]

theorem notMem_of_digits {cs : List Char} {d : Char} (h : ∀ c ∈ cs, c.isDigit = true)
    (hOther : d.isDigit = false) : d ∉ cs := by
  intro hMem
  rw [h d hMem] at hOther
  cases hOther

theorem groupedFrom?_of_digits {cs : List Char} (h : ∀ c ∈ cs, c.isDigit = true) (n : Nat) :
    groupedFrom? 10 n cs = some (Nat.ofDigitChars 10 cs n) := by
  induction cs generalizing n with
  | nil => rfl
  | cons c cs ih =>
    have hMark : c ≠ '_' := by
      rintro rfl
      exact notMem_of_digits h rfl List.mem_cons_self
    rw [List.forall_mem_cons] at h
    rw [groupedFrom?.eq_3 _ _ _ _ fun _ _ hEq _ => hMark hEq, digit?_of_isDigit h.1]
    simp only
    rw [ih h.2, Nat.mul_comm n, Nat.ofDigitChars_cons]

theorem grouped?_of_digits {cs : List Char} (h : ∀ c ∈ cs, c.isDigit = true) (hNonempty : cs ≠ []) :
    grouped? 10 cs = some (Nat.ofDigitChars 10 cs 0) := by
  obtain ⟨c, cs, rfl⟩ := List.exists_cons_of_ne_nil hNonempty
  rw [List.forall_mem_cons] at h
  simp only [grouped?, digit?_of_isDigit h.1]
  rw [groupedFrom?_of_digits h.2, Nat.ofDigitChars_cons, Nat.mul_zero, Nat.zero_add]

theorem isDigit_of_mem_toDigits (n : Nat) : ∀ c ∈ Nat.toDigits 10 n, c.isDigit = true :=
  fun _ h => Nat.isDigit_of_mem_toDigits (by decide) (by decide) h

/-- Only zero begins with a zero. -/
theorem head?_toDigits_ne {n : Nat} (h : 0 < n) : (Nat.toDigits 10 n).head? ≠ some '0' := by
  induction n using Nat.strongRecOn with
  | ind n ih =>
    rcases Nat.lt_or_ge n 10 with hOne | hMore
    · rw [Nat.toDigits_of_lt_base hOne, List.head?_cons]
      intro hZero
      have hValue : n = 0 := Nat.digitChar_eq_zero.mp (Option.some.inj hZero)
      omega
    · obtain ⟨c, cs, hFirst⟩ := List.exists_cons_of_ne_nil
        (Nat.toDigits_ne_nil (n := n / 10) (b := 10))
      have hHead := ih (n / 10) (by omega) (by omega)
      rw [hFirst] at hHead
      rwa [Nat.toDigits_of_base_le (by decide) hMore, hFirst, List.cons_append]

theorem decimal?_toDigits (n : Nat) : decimal? (Nat.toDigits 10 n) = some n := by
  have hPlain : ¬((Nat.toDigits 10 n).head? = some '0' ∧ Nat.toDigits 10 n ≠ ['0']) := by
    rintro ⟨hZero, hMore⟩
    rcases Nat.eq_zero_or_pos n with rfl | hPos
    · exact hMore rfl
    · exact head?_toDigits_ne hPos hZero
  rw [decimal?, if_neg hPlain, grouped?_of_digits (isDigit_of_mem_toDigits n) Nat.toDigits_ne_nil,
    Nat.ofDigitChars_ten_toDigits]

theorem word?_eq_some_iff {n m : Int} :
    word? n = some m ↔ (-wordLimit ≤ n ∧ n < wordLimit) ∧ n = m := by
  rw [word?, Option.ite_none_right_eq_some, Option.some.injEq]

theorem splitSign_of_digits {cs : List Char} (h : ∀ c ∈ cs, c.isDigit = true) :
    splitSign cs = (false, cs) := by
  rw [splitSign.eq_def]
  split
  · exact absurd List.mem_cons_self (notMem_of_digits h (d := '+') rfl)
  · exact absurd List.mem_cons_self (notMem_of_digits h (d := '-') rfl)
  · rfl

theorem integer?_of_digits {cs : List Char} {n : Nat} (h : ∀ c ∈ cs, c.isDigit = true)
    (hDecimal : decimal? cs = some n) : integer? cs = word? n := by
  -- no digit marks another base
  have hBase : ∀ mark : Char, mark.isDigit = false → ∀ s, cs ≠ '0' :: mark :: s := by
    rintro mark hMark s rfl
    exact notMem_of_digits h hMark (List.mem_cons_of_mem _ List.mem_cons_self)
  rw [integer?.eq_4 cs (hBase 'x' rfl) (hBase 'o' rfl) (hBase 'b' rfl), splitSign_of_digits h]
  simp only [hDecimal]
  rw [Option.bind_some, if_neg Bool.false_ne_true]

theorem integer?_toDigits {n : Nat} (h : (n : Int) < wordLimit) :
    integer? (Nat.toDigits 10 n) = some (n : Int) := by
  rw [integer?_of_digits (isDigit_of_mem_toDigits n) (decimal?_toDigits n), word?_eq_some_iff]
  have hLimit : wordLimit = 0x8000000000000000 := rfl
  exact ⟨⟨by omega, h⟩, rfl⟩

theorem range_of_integer? {s : List Char} {n : Int} (h : integer? s = some n) :
    -wordLimit ≤ n ∧ n < wordLimit := by
  have hWord : ∃ m, word? m = some n := by
    rw [integer?.eq_def] at h
    split at h
    · obtain ⟨m, -, hm⟩ := Option.bind_eq_some_iff.mp h
      exact ⟨m, hm⟩
    · obtain ⟨m, -, hm⟩ := Option.bind_eq_some_iff.mp h
      exact ⟨m, hm⟩
    · obtain ⟨m, -, hm⟩ := Option.bind_eq_some_iff.mp h
      exact ⟨m, hm⟩
    · obtain ⟨m, -, hm⟩ := Option.bind_eq_some_iff.mp h
      exact ⟨_, hm⟩
  obtain ⟨m, hm⟩ := hWord
  obtain ⟨hRange, rfl⟩ := word?_eq_some_iff.mp hm
  exact hRange

/-! ## Dates and times -/

theorem isDate_of_digits {cs : List Char} (h : ∀ c ∈ cs, c.isDigit = true) : isDate cs = false := by
  rw [isDate.eq_def]
  split
  · exact absurd (by simp) (notMem_of_digits h (d := '-') rfl)
  · rfl

theorem isTime_of_digits {cs : List Char} (h : ∀ c ∈ cs, c.isDigit = true) : isTime cs = false := by
  rw [isTime.eq_def]
  split
  · exact absurd (by simp) (notMem_of_digits h (d := ':') rfl)
  · rfl

theorem isMoment_of_digits {cs : List Char} (h : ∀ c ∈ cs, c.isDigit = true) :
    isMoment cs = false := by
  have hStart : isDate (cs.take 10) = false :=
    isDate_of_digits fun c hc => h c (List.mem_of_mem_take hc)
  rw [isMoment, isDate_of_digits h, isTime_of_digits h]
  split
  · rw [hStart]
    rfl
  · rfl

end BufferedHttp.Toml
