import BufferedHttp.Text.Basic
import Mathlib.Data.List.TakeWhile

/-!
# Cutting and joining are inverse

A run of characters is found up to what stops it. A cut is found at the first separator and nowhere
else, and the pieces of a text are the one list of texts without separators that joins to it.
-/

namespace BufferedHttp.Text

/-! ## A run and what stops it -/

section Runs

variable {p : Char → Bool} {run rest : List Char}

theorem takeWhile_append_stop (hRun : ∀ c ∈ run, p c = true)
    (hRest : ∀ c, rest.head? = some c → p c = false) : (run ++ rest).takeWhile p = run := by
  cases rest with
  | nil => rw [List.append_nil, List.takeWhile_eq_self_iff.mpr hRun]
  | cons c rest =>
    rw [List.takeWhile_append_of_pos hRun, List.takeWhile_cons_of_neg (by simp [hRest c rfl]),
      List.append_nil]

theorem dropWhile_append_stop (hRun : ∀ c ∈ run, p c = true)
    (hRest : ∀ c, rest.head? = some c → p c = false) : (run ++ rest).dropWhile p = rest := by
  have hBoth := List.takeWhile_append_dropWhile (p := p) (l := run ++ rest)
  rw [takeWhile_append_stop hRun hRest] at hBoth
  exact List.append_cancel_left hBoth

end Runs

/-! ## Pieces -/

theorem cut?_eq_some_iff {separator : Char} {cs before behind : List Char} :
    cut? separator cs = some (before, behind) ↔
      separator ∉ before ∧ cs = before ++ separator :: behind := by
  constructor
  · intro h
    induction cs generalizing before with
    | nil => cases h
    | cons c cs ih =>
      rw [cut?] at h
      split at h
      · rename_i hSeparator
        cases h
        exact ⟨List.not_mem_nil, by rw [hSeparator, List.nil_append]⟩
      · rename_i hOther
        obtain ⟨⟨before', behind'⟩, hCut, hPair⟩ := Option.map_eq_some_iff.mp h
        obtain ⟨rfl, rfl⟩ := Prod.mk.inj hPair
        obtain ⟨hFree, hJoin⟩ := ih hCut
        refine ⟨?_, by rw [hJoin, List.cons_append]⟩
        rw [List.mem_cons, not_or]
        exact ⟨Ne.symm hOther, hFree⟩
  · rintro ⟨hFree, rfl⟩
    exact cut?_append hFree

theorem pieces_eq_splitOn (separator : Char) (cs : List Char) :
    pieces separator cs = cs.splitOn separator := by
  induction cs with
  | nil => rfl
  | cons c cs ih =>
    rw [List.splitOn_cons_eq_if_modifyHead, pieces, ← ih]
    by_cases hSeparator : c = separator
    · rw [if_pos hSeparator, if_pos (beq_iff_eq.mpr hSeparator)]
    · rw [if_neg hSeparator, if_neg (by simpa using hSeparator)]
      cases hPieces : pieces separator cs with
      | nil => exact absurd hPieces (pieces_ne_nil separator cs)
      | cons piece rest => rfl

theorem notMem_of_mem_pieces {separator : Char} {cs piece : List Char}
    (h : piece ∈ pieces separator cs) : separator ∉ piece := by
  induction cs generalizing piece with
  | nil =>
    rw [pieces, List.mem_singleton] at h
    rw [h]
    exact List.not_mem_nil
  | cons c cs ih =>
    rw [pieces] at h
    split at h
    · rcases List.mem_cons.mp h with rfl | hRest
      · exact List.not_mem_nil
      · exact ih hRest
    · rename_i hOther
      split at h
      · rename_i hPieces
        exact absurd hPieces (pieces_ne_nil separator cs)
      · rename_i first rest hPieces
        rw [hPieces] at ih
        rcases List.mem_cons.mp h with rfl | hRest
        · rw [List.mem_cons, not_or]
          exact ⟨Ne.symm hOther, ih List.mem_cons_self⟩
        · exact ih (List.mem_cons_of_mem _ hRest)

theorem pieces_eq_iff {separator : Char} {cs : List Char} {segments : List (List Char)} :
    pieces separator cs = segments ↔
      segments ≠ [] ∧ (∀ segment ∈ segments, separator ∉ segment) ∧
        [separator].intercalate segments = cs := by
  constructor
  · rintro rfl
    refine ⟨pieces_ne_nil separator cs, fun segment => notMem_of_mem_pieces, ?_⟩
    rw [pieces_eq_splitOn, List.intercalate_splitOn]
  · rintro ⟨hSome, hFree, rfl⟩
    rw [pieces_eq_splitOn, List.splitOn_intercalate separator hFree hSome]

/-- A separator stands behind every piece that another one follows. -/
theorem intercalate_append_cons (separator : Char) (before after : List (List Char))
    (segment : List Char) :
    [separator].intercalate (before ++ segment :: after) =
      before.flatMap (· ++ [separator]) ++ [separator].intercalate (segment :: after) := by
  induction before with
  | nil => rfl
  | cons first before ih =>
    rw [List.flatMap_cons, List.append_assoc, ← ih]
    cases before with
    | nil => exact List.intercalate_cons_cons
    | cons second before => exact List.intercalate_cons_cons

end BufferedHttp.Text
