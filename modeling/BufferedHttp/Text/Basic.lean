/-!
# Comparing and cutting text

Header names are compared with the letters `A` to `Z` folded and nothing else: a letter outside
ASCII equals only itself. Text is cut at a separator, by `cut?` at the first one and by `pieces` at
every one; joining gives the text back.
-/

namespace BufferedHttp.Text

/-- The characters of a text with `A` to `Z` replaced by `a` to `z`. -/
def folded (s : String) : List Char := s.toList.map Char.toLower

/-- The texts differ at most in the case of ASCII letters. -/
def equalFolded (s t : String) : Bool := folded s == folded t

theorem equalFolded_iff (s t : String) : equalFolded s t = true ↔ folded s = folded t := by
  simp [equalFolded]

/-! ## Cutting -/

/-- What stands before and behind the first separator. -/
def cut? (separator : Char) : List Char → Option (List Char × List Char)
  | [] => none
  | c :: cs =>
    if c = separator then some ([], cs)
    else (cut? separator cs).map fun (before, behind) => (c :: before, behind)

/-- The texts between the separators, at least one. -/
def pieces (separator : Char) : List Char → List (List Char)
  | [] => [[]]
  | c :: cs =>
    if c = separator then [] :: pieces separator cs
    else match pieces separator cs with
      | [] => [[c]]
      | piece :: rest => (c :: piece) :: rest

theorem pieces_ne_nil (separator : Char) (cs : List Char) : pieces separator cs ≠ [] := by
  cases cs with
  | nil => simp [pieces]
  | cons c cs =>
    simp only [pieces]
    repeat' split
    all_goals simp

theorem cut?_eq_none_iff {separator : Char} {cs : List Char} :
    cut? separator cs = none ↔ separator ∉ cs := by
  induction cs with
  | nil => simp [cut?]
  | cons c cs ih =>
    by_cases h : c = separator
    · simp [cut?, h]
    · simp [cut?, h, ih, Ne.symm h]

theorem cut?_append {separator : Char} {before behind : List Char} (h : separator ∉ before) :
    cut? separator (before ++ separator :: behind) = some (before, behind) := by
  induction before with
  | nil => simp [cut?]
  | cons c cs ih =>
    simp only [List.mem_cons, not_or] at h
    simp [cut?, Ne.symm h.1, ih h.2]

end BufferedHttp.Text
