/-!
# Space between tokens

Blanks are spaces and tabs. A line ends with a line feed, alone or behind a carriage return, or
with the text; a comment reaches up to there.
-/

namespace BufferedHttp.Toml

def isBlank (c : Char) : Bool := c = ' ' || c = '\t'

/-- Tab, or any character outside the ASCII controls. -/
def isText (c : Char) : Bool := c = '\t' || (' ' ≤ c && c ≠ '\x7f')

def skipBlanks (s : List Char) : List Char := s.dropWhile isBlank

/-- What stands behind a line break at the start. -/
def newline? : List Char → Option (List Char)
  | '\n' :: rest => some rest
  | '\r' :: '\n' :: rest => some rest
  | _ => none

/-- The text behind a comment at the start, without the end of its line. -/
def skipComment : List Char → List Char
  | '#' :: rest => rest.dropWhile isText
  | s => s

/-- What stands behind the end of a line: blanks, a comment, and a line break unless the text
ends. -/
def endLine? (s : List Char) : Option (List Char) :=
  match skipComment (skipBlanks s) with
  | [] => some []
  | s => newline? s

theorem length_newline?_lt {s rest : List Char} (h : newline? s = some rest) :
    rest.length < s.length := by
  unfold newline? at h
  split at h
  · obtain rfl := Option.some.inj h
    simp
  · obtain rfl := Option.some.inj h
    simp only [List.length_cons]
    omega
  · exact absurd h (by simp)

/-- A run that is not empty leaves less behind it. -/
theorem length_dropWhile_lt {p : Char → Bool} {s : List Char} (ne : s.takeWhile p ≠ []) :
    (s.dropWhile p).length < s.length := by
  have := congrArg List.length (List.takeWhile_append_dropWhile : s.takeWhile p ++ s.dropWhile p = s)
  have := List.length_pos_iff.mpr ne
  rw [List.length_append] at *
  omega

theorem length_skipComment_le (s : List Char) : (skipComment s).length ≤ s.length := by
  unfold skipComment
  split
  · simp only [List.length_cons]
    have := (List.dropWhile_suffix (l := ‹List Char›) isText).length_le
    omega
  · exact Nat.le_refl _

/-- What stands behind blanks, comments and line breaks. -/
def skipLines (s : List Char) : List Char :=
  match h : newline? (skipComment (skipBlanks s)) with
  | some rest =>
    have := length_newline?_lt h
    skipLines rest
  | none => skipBlanks s
  termination_by s.length
  decreasing_by
    have := length_skipComment_le (skipBlanks s)
    have := (List.dropWhile_suffix (l := s) isBlank).length_le
    simp only [skipBlanks] at *
    omega

theorem length_skipBlanks_le (s : List Char) : (skipBlanks s).length ≤ s.length :=
  (List.dropWhile_suffix isBlank).length_le

theorem length_skipLines_le (s : List Char) : (skipLines s).length ≤ s.length := by
  fun_induction skipLines s with
  | case1 s rest h ih =>
    have := length_newline?_lt h
    have := length_skipComment_le (skipBlanks s)
    have := length_skipBlanks_le s
    omega
  | case2 s h => exact length_skipBlanks_le s

/-- The end of a line takes something, unless the text has ended. -/
theorem length_endLine?_lt {s rest : List Char} (h : endLine? s = some rest) (ne : s ≠ []) :
    rest.length < s.length := by
  have := length_skipBlanks_le s
  have := length_skipComment_le (skipBlanks s)
  unfold endLine? at h
  split at h
  · obtain rfl := Option.some.inj h
    exact List.length_pos_iff.mpr ne
  · have := length_newline?_lt h
    omega

theorem length_endLine?_le {s rest : List Char} (h : endLine? s = some rest) :
    rest.length ≤ s.length := by
  by_cases ne : s = []
  · subst ne
    simp only [endLine?, skipBlanks, List.dropWhile_nil, skipComment] at h
    obtain rfl := Option.some.inj h
    exact Nat.le_refl _
  · exact Nat.le_of_lt (length_endLine?_lt h ne)

end BufferedHttp.Toml
