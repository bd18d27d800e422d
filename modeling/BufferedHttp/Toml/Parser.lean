import BufferedHttp.Toml.Key
import BufferedHttp.Toml.Moment
import BufferedHttp.Toml.Number

/-!
# Reading TOML values

A reader takes characters from the start of a text and gives what they stand for, with the text
that follows them. It takes at least one character, so reading again and again comes to an end.
Numbers, booleans, dates and times are read from a longest run of the characters that they are
made of. Arrays and inline tables nest to a fixed depth.
-/

namespace BufferedHttp.Toml

structure Reader (α : Type) where
  read : List Char → Option (α × List Char)
  length_lt : ∀ {s a rest}, read s = some (a, rest) → rest.length < s.length

/-- A character of a number, a boolean, a date or a time. -/
def isToken (c : Char) : Bool :=
  c.isAlphanum || c = '_' || c = '+' || c = '-' || c = '.' || c = ':'

def token? (s : List Char) : Option Value :=
  if s = ['t', 'r', 'u', 'e'] then some (.boolean true)
  else if s = ['f', 'a', 'l', 's', 'e'] then some (.boolean false)
  else if isMoment s then some (.moment (String.ofList s))
  else match integer? s with
    | some n => some (.integer n)
    | none => (float? s).map .float

/-- A number, a boolean, a date or a time, and what follows. A space may stand between a date and
its time. -/
def plain? (s : List Char) : Option (Value × List Char) :=
  let token := s.takeWhile isToken
  let rest := s.dropWhile isToken
  match rest with
  | ' ' :: more =>
    let time := more.takeWhile isToken
    if isDate token ∧ isOffsetTime time then
      some (.moment (String.ofList (token ++ ' ' :: time)), more.dropWhile isToken)
    else (token? token).map (·, rest)
  | _ => (token? token).map (·, rest)

theorem token?_nil : token? [] = none := by decide

/-- What `plain?` reads as one token leaves less behind it. -/
theorem length_lt_of_token? {s : List Char} {v : Value}
    (h : token? (s.takeWhile isToken) = some v) : (s.dropWhile isToken).length < s.length :=
  length_dropWhile_lt fun empty => by
    rw [empty, token?_nil] at h
    exact absurd h (by simp)

theorem length_plain?_lt {s rest : List Char} {v : Value} (h : plain? s = some (v, rest)) :
    rest.length < s.length := by
  unfold plain? at h
  dsimp only at h
  split at h
  · rename_i more hs
    split at h
    · obtain ⟨-, rfl⟩ := Prod.mk.inj (Option.some.inj h)
      have := (List.dropWhile_suffix (l := more) isToken).length_le
      have le := (List.dropWhile_suffix (l := s) isToken).length_le
      rw [hs, List.length_cons] at le
      omega
    · obtain ⟨w, ht, he⟩ := Option.map_eq_some_iff.mp h
      obtain ⟨-, rfl⟩ := Prod.mk.inj he
      exact length_lt_of_token? ht
  · obtain ⟨w, ht, he⟩ := Option.map_eq_some_iff.mp h
    obtain ⟨-, rfl⟩ := Prod.mk.inj he
    exact length_lt_of_token? ht

/-- A value that holds no other: a string, or a run of token characters. -/
def flat? (s : List Char) : Option (Value × List Char) :=
  match s with
  | '"' :: _ | '\'' :: _ => (quoted? s).map fun (cs, rest) => (.string (String.ofList cs), rest)
  | _ => plain? s

theorem length_lt_of_map_quoted? {s rest : List Char} {v : Value}
    (h : (quoted? s).map (fun (cs, rest) => (Value.string (String.ofList cs), rest)) =
      some (v, rest)) : rest.length < s.length := by
  obtain ⟨⟨cs, after⟩, hq, he⟩ := Option.map_eq_some_iff.mp h
  obtain ⟨-, rfl⟩ := Prod.mk.inj he
  exact length_quoted?_lt hq

theorem length_flat?_lt {s rest : List Char} {v : Value} (h : flat? s = some (v, rest)) :
    rest.length < s.length := by
  unfold flat? at h
  split at h
  · exact length_lt_of_map_quoted? h
  · exact length_lt_of_map_quoted? h
  · exact length_plain?_lt h

def item? (value : Reader Value) (s : List Char) : Option (Value × List Char) :=
  (value.read (skipLines s)).map fun (v, rest) => (v, skipLines rest)

theorem length_item?_lt {value : Reader Value} {s rest : List Char} {v : Value}
    (h : item? value s = some (v, rest)) : rest.length < s.length := by
  obtain ⟨⟨w, after⟩, hv, he⟩ := Option.map_eq_some_iff.mp h
  obtain ⟨-, rfl⟩ := Prod.mk.inj he
  have := value.length_lt hv
  have := length_skipLines_le s
  have := length_skipLines_le after
  omega

/-- The items of an array behind its bracket, up to the closing one. A comma may stand behind the
last item. -/
def items? (value : Reader Value) (s : List Char) : Option (List Value × List Char) :=
  match skipLines s with
  | ']' :: rest => some ([], rest)
  | _ =>
    match h : item? value s with
    | some (v, ']' :: rest) => some ([v], rest)
    | some (v, ',' :: rest) =>
      have := length_item?_lt h
      (items? value rest).map fun (vs, rest) => (v :: vs, rest)
    | _ => none
  termination_by s.length
  decreasing_by
    simp only [List.length_cons] at this
    omega

theorem length_items?_lt {value : Reader Value} {s rest : List Char} {vs : List Value}
    (h : items? value s = some (vs, rest)) : rest.length < s.length := by
  fun_induction items? value s generalizing vs with
  | case1 s after hs =>
    obtain ⟨-, rfl⟩ := Prod.mk.inj (Option.some.inj h)
    have := length_skipLines_le s
    rw [hs, List.length_cons] at this
    exact this
  | case2 s v after hv =>
    obtain ⟨-, rfl⟩ := Prod.mk.inj (Option.some.inj h)
    have := length_item?_lt hv
    simp only [List.length_cons] at this
    omega
  | case3 s v after hv shorter _ ih =>
    obtain ⟨⟨vs', rest'⟩, hr, he⟩ := Option.map_eq_some_iff.mp h
    obtain ⟨-, rfl⟩ := Prod.mk.inj he
    have := ih hr
    simp only [List.length_cons] at shorter
    omega
  | case4 => exact absurd h (by simp)

def binding? (value : Reader Value) (s : List Char) : Option (Binding × List Char) :=
  match path? s with
  | some (path, '=' :: rest) =>
    (value.read (skipBlanks rest)).map fun (v, rest) => (⟨path, v⟩, rest)
  | _ => none

theorem length_binding?_lt {value : Reader Value} {s rest : List Char} {b : Binding}
    (h : binding? value s = some (b, rest)) : rest.length < s.length := by
  unfold binding? at h
  split at h
  · rename_i path after hp
    obtain ⟨⟨v, rest'⟩, hv, he⟩ := Option.map_eq_some_iff.mp h
    obtain ⟨-, rfl⟩ := Prod.mk.inj he
    have := length_path?_lt hp
    have := value.length_lt hv
    have := length_skipBlanks_le after
    simp only [List.length_cons] at *
    omega
  · exact absurd h (by simp)

/-- A binding with the blanks behind it, and what follows. -/
def spacedBinding? (value : Reader Value) (s : List Char) : Option (Binding × List Char) :=
  (binding? value s).map fun (b, rest) => (b, skipBlanks rest)

theorem length_spacedBinding?_lt {value : Reader Value} {s rest : List Char} {b : Binding}
    (h : spacedBinding? value s = some (b, rest)) : rest.length < s.length := by
  obtain ⟨⟨b', after⟩, hb, he⟩ := Option.map_eq_some_iff.mp h
  obtain ⟨-, rfl⟩ := Prod.mk.inj he
  have := length_binding?_lt hb
  have := length_skipBlanks_le after
  omega

/-- The bindings of an inline table behind its brace, at least one, up to the closing one. -/
def bindings? (value : Reader Value) (s : List Char) : Option (List Binding × List Char) :=
  match h : spacedBinding? value s with
  | some (b, '\x7d' :: rest) => some ([b], rest)
  | some (b, ',' :: rest) =>
    have := length_spacedBinding?_lt h
    (bindings? value rest).map fun (bs, rest) => (b :: bs, rest)
  | _ => none
  termination_by s.length
  decreasing_by
    simp only [List.length_cons] at this
    omega

theorem length_bindings?_lt {value : Reader Value} {s rest : List Char} {bs : List Binding}
    (h : bindings? value s = some (bs, rest)) : rest.length < s.length := by
  fun_induction bindings? value s generalizing bs with
  | case1 s b after hb =>
    obtain ⟨-, rfl⟩ := Prod.mk.inj (Option.some.inj h)
    have := length_spacedBinding?_lt hb
    simp only [List.length_cons] at this
    omega
  | case2 s b after hb shorter ih =>
    obtain ⟨⟨bs', rest'⟩, hr, he⟩ := Option.map_eq_some_iff.mp h
    obtain ⟨-, rfl⟩ := Prod.mk.inj he
    have := ih hr
    simp only [List.length_cons] at shorter
    omega
  | case3 => exact absurd h (by simp)

def inline? (value : Reader Value) (s : List Char) : Option (Value × List Char) :=
  match skipBlanks s with
  | '\x7d' :: rest => some (.table .inline [], rest)
  | s =>
    match bindings? value s with
    | some (bs, rest) => (Entries.bindAll [] bs).map fun es => (.table .inline es, rest)
    | none => none

theorem length_inline?_lt {value : Reader Value} {s rest : List Char} {v : Value}
    (h : inline? value s = some (v, rest)) : rest.length < s.length := by
  have le := length_skipBlanks_le s
  unfold inline? at h
  split at h
  · rename_i after hs
    obtain ⟨-, rfl⟩ := Prod.mk.inj (Option.some.inj h)
    rw [hs, List.length_cons] at le
    exact le
  · split at h
    · rename_i bs after hb
      obtain ⟨es, -, he⟩ := Option.map_eq_some_iff.mp h
      obtain ⟨-, rfl⟩ := Prod.mk.inj he
      exact Nat.lt_of_lt_of_le (length_bindings?_lt hb) le
    · exact absurd h (by simp)

/-- A value, and what follows; `value` reads those inside it. -/
def nested? (value : Reader Value) (s : List Char) : Option (Value × List Char) :=
  match s with
  | '[' :: rest => (items? value rest).map fun (vs, rest) => (.array vs, rest)
  | '\x7b' :: rest => inline? value rest
  | _ => flat? s

theorem length_nested?_lt {value : Reader Value} {s rest : List Char} {v : Value}
    (h : nested? value s = some (v, rest)) : rest.length < s.length := by
  unfold nested? at h
  split at h
  · obtain ⟨⟨vs, after⟩, hi, he⟩ := Option.map_eq_some_iff.mp h
    obtain ⟨-, rfl⟩ := Prod.mk.inj he
    exact Nat.lt_succ_of_lt (length_items?_lt hi)
  · exact Nat.lt_succ_of_lt (length_inline?_lt h)
  · exact length_flat?_lt h

/-- A value whose arrays and inline tables nest at most `depth` deep. -/
def value : Nat → Reader Value
  | 0 => ⟨flat?, length_flat?_lt⟩
  | depth + 1 => ⟨nested? (value depth), length_nested?_lt⟩

def maxDepth : Nat := 79

end BufferedHttp.Toml
