import BufferedHttp.Toml.Quoted
import BufferedHttp.Toml.Table

/-!
# TOML keys

A key is bare, or a string of one line. Keys with dots between them, blanks allowed around the
dots, form a path; a path has fewer than eighty keys.
-/

namespace BufferedHttp.Toml

def isBare (c : Char) : Bool := c.isAlphanum || c = '_' || c = '-'

/-- One key, and what follows it. -/
def key? : List Char → Option (List Char × List Char)
  | '"' :: s => basic? s
  | '\'' :: s => literal? s
  | s =>
    let name := s.takeWhile isBare
    if name = [] then none else some (name, s.dropWhile isBare)

theorem length_key?_lt {s name rest : List Char} (h : key? s = some (name, rest)) :
    rest.length < s.length := by
  unfold key? at h
  split at h
  · have := length_basic?_lt h
    simp only [List.length_cons]
    omega
  · have := length_literal?_lt h
    simp only [List.length_cons]
    omega
  · dsimp only at h
    split at h
    · simp at h
    · obtain ⟨-, rfl⟩ := Prod.mk.inj (Option.some.inj h)
      exact length_dropWhile_lt ‹_›

/-- A key with the blanks around it, and what follows. -/
def spacedKey? (s : List Char) : Option (String × List Char) :=
  (key? (skipBlanks s)).map fun (name, rest) => (String.ofList name, skipBlanks rest)

theorem length_spacedKey?_lt {s rest : List Char} {name : String}
    (h : spacedKey? s = some (name, rest)) : rest.length < s.length := by
  obtain ⟨⟨cs, after⟩, hk, he⟩ := Option.map_eq_some_iff.mp h
  obtain ⟨-, rfl⟩ := Prod.mk.inj he
  have := length_key?_lt hk
  have := length_skipBlanks_le s
  have := length_skipBlanks_le after
  omega

/-- The keys of a path, with the blanks around them, and what follows. -/
def keys? (s : List Char) : Option (List String × List Char) :=
  match h : spacedKey? s with
  | none => none
  | some (name, '.' :: rest) =>
    have := length_spacedKey?_lt h
    (keys? rest).map fun (names, rest) => (name :: names, rest)
  | some (name, rest) => some ([name], rest)
  termination_by s.length
  decreasing_by
    simp only [List.length_cons] at this
    omega

theorem length_keys?_lt {s rest : List Char} {names : List String}
    (h : keys? s = some (names, rest)) : rest.length < s.length := by
  fun_induction keys? s generalizing names with
  | case1 => simp at h
  | case2 s name after hk shorter ih =>
    obtain ⟨⟨names', rest'⟩, hr, he⟩ := Option.map_eq_some_iff.mp h
    obtain ⟨-, rfl⟩ := Prod.mk.inj he
    have := ih hr
    simp only [List.length_cons] at shorter
    omega
  | case3 s name after _ hk =>
    obtain ⟨-, rfl⟩ := Prod.mk.inj (Option.some.inj h)
    exact length_spacedKey?_lt hk

def maxKeys : Nat := 79

/-- A path, with the blanks around its keys, and what follows. -/
def path? (s : List Char) : Option (Path × List Char) :=
  match keys? s with
  | some (names, rest) =>
    match names.getLast? with
    | some name =>
      if names.length ≤ maxKeys then some (⟨names.dropLast, name⟩, rest) else none
    | none => none
  | none => none

theorem length_path?_lt {s rest : List Char} {path : Path} (h : path? s = some (path, rest)) :
    rest.length < s.length := by
  unfold path? at h
  split at h
  · rename_i names after hk
    split at h
    · split at h
      · obtain ⟨-, rfl⟩ := Prod.mk.inj (Option.some.inj h)
        exact length_keys?_lt hk
      · simp at h
    · simp at h
  · simp at h

end BufferedHttp.Toml
