import BufferedHttp.Text.Basic
import Mathlib

/-!
# What it is to be equal up to ASCII case

Two texts are equal up to ASCII case when they are equally long and each character of one is that of
the other or the same letter from `A` to `Z` in the other case. This is an equivalence, and
characters outside ASCII are only like themselves.
-/

namespace BufferedHttp.Text

/-- A letter from `A` to `Z` and its lower case. -/
structure IsCasePair (upper lower : Char) : Prop where
  le_toNat : 'A'.toNat ≤ upper.toNat
  toNat_le : upper.toNat ≤ 'Z'.toNat
  toNat_eq : lower.toNat = upper.toNat + 32

/-- The same character, or the same ASCII letter in both cases. -/
inductive SameLetter : Char → Char → Prop where
  | same (c : Char) : SameLetter c c
  | lowered {upper lower : Char} (h : IsCasePair upper lower) : SameLetter upper lower
  | raised {upper lower : Char} (h : IsCasePair upper lower) : SameLetter lower upper

/-- The texts differ at most in the case of ASCII letters. -/
def SameUpToCase (s t : String) : Prop := List.Forall₂ SameLetter s.toList t.toList

theorem isUpper_iff {c : Char} :
    c.isUpper = true ↔ 'A'.toNat ≤ c.toNat ∧ c.toNat ≤ 'Z'.toNat := by
  rw [Char.isUpper, decide_eq_true_eq]
  rfl

theorem isCasePair_toLower {c : Char} (h : c.isUpper = true) : IsCasePair c c.toLower := by
  obtain ⟨hLow, hHigh⟩ := isUpper_iff.mp h
  have hCode : 'Z'.toNat = 90 := rfl
  have hValid : (c.toNat + 32).isValidChar := .inl (by omega)
  refine ⟨hLow, hHigh, ?_⟩
  rw [Char.toLower_eq_of_isUpper h, Char.toNat_ofNat, if_pos hValid]

theorem IsCasePair.toLower_left {upper lower : Char} (h : IsCasePair upper lower) :
    upper.toLower = lower := by
  have hLower := isCasePair_toLower (isUpper_iff.mpr ⟨h.le_toNat, h.toNat_le⟩)
  rw [← Char.toNat_inj, hLower.toNat_eq, h.toNat_eq]

theorem IsCasePair.toLower_right {upper lower : Char} (h : IsCasePair upper lower) :
    lower.toLower = lower := by
  rw [← h.toLower_left]
  exact Char.toLower_eq_of_not_isUpper (by simp)

theorem sameLetter_of_toLower_eq {c d : Char} (h : c.toLower = d.toLower) : SameLetter c d := by
  -- only capitals are moved, and all by the same distance
  by_cases hc : c.isUpper = true
  · by_cases hd : d.isUpper = true
    · have hCode := h ▸ (isCasePair_toLower hc).toNat_eq
      rw [(isCasePair_toLower hd).toNat_eq, Nat.add_right_cancel_iff, Char.toNat_inj] at hCode
      rw [hCode]
      exact .same c
    · rw [Char.toLower_eq_of_not_isUpper hd] at h
      exact .lowered (h ▸ isCasePair_toLower hc)
  · rw [Char.toLower_eq_of_not_isUpper hc] at h
    by_cases hd : d.isUpper = true
    · exact .raised (h ▸ isCasePair_toLower hd)
    · rw [h, Char.toLower_eq_of_not_isUpper hd]
      exact .same d

theorem toLower_eq_iff {c d : Char} : c.toLower = d.toLower ↔ SameLetter c d := by
  constructor
  · exact sameLetter_of_toLower_eq
  · intro h
    cases h with
    | same => rfl
    | lowered h => rw [h.toLower_left, h.toLower_right]
    | raised h => rw [h.toLower_left, h.toLower_right]

theorem SameLetter.eq_of_not_ascii {c d : Char} (h : SameLetter c d)
    (hOther : 128 ≤ c.toNat ∨ 128 ≤ d.toNat) : c = d := by
  have hCode : 'Z'.toNat = 90 := rfl
  cases h with
  | same => rfl
  | lowered h | raised h =>
    have hHigh := h.toNat_le
    have hLower := h.toNat_eq
    omega

theorem folded_eq_iff {s t : String} : folded s = folded t ↔ SameUpToCase s t := by
  rw [folded, folded, ← List.forall₂_eq_eq_eq, List.forall₂_map_left_iff,
    List.forall₂_map_right_iff, SameUpToCase]
  simp only [toLower_eq_iff]

theorem equalFolded_iff_sameUpToCase {s t : String} :
    equalFolded s t = true ↔ SameUpToCase s t := by
  rw [equalFolded_iff, folded_eq_iff]

theorem sameUpToCase_equivalence : Equivalence SameUpToCase where
  refl _ := folded_eq_iff.mp rfl
  symm h := folded_eq_iff.mp (folded_eq_iff.mpr h).symm
  trans h h' := folded_eq_iff.mp ((folded_eq_iff.mpr h).trans (folded_eq_iff.mpr h'))

instance : DecidableRel SameUpToCase := fun _ _ => decidable_of_iff _ equalFolded_iff_sameUpToCase

end BufferedHttp.Text
