import BufferedHttp.Toml.Space

/-!
# TOML strings

A string in double quotes has escapes, one in single quotes has none. Three quotes open a string
of several lines: a line break directly behind them is left out, line breaks inside are line
feeds, and up to two quotes may stand before the closing three. The readers get the text behind
the opening quotes and give the string and what follows it.
-/

namespace BufferedHttp.Toml

def hexDigit? (c : Char) : Option Nat :=
  if '0' ≤ c ∧ c ≤ '9' then some (c.toNat - '0'.toNat)
  else if 'a' ≤ c ∧ c ≤ 'f' then some (c.toNat - 'a'.toNat + 10)
  else if 'A' ≤ c ∧ c ≤ 'F' then some (c.toNat - 'A'.toNat + 10)
  else none

def hexNumber? (count : Nat) (s : List Char) : Option Nat :=
  if s.length < count then none
  else (s.take count).foldlM (fun n c => (hexDigit? c).map (n * 16 + ·)) 0

def scalar? (n : Nat) : Option Char :=
  if n.isValidChar then some (Char.ofNat n) else none

/-- The character of an escape, and how many characters it takes behind the backslash. -/
def escape? : List Char → Option (Char × Nat)
  | 'b' :: _ => some ('\x08', 1)
  | 't' :: _ => some ('\t', 1)
  | 'n' :: _ => some ('\n', 1)
  | 'f' :: _ => some ('\x0c', 1)
  | 'r' :: _ => some ('\r', 1)
  | '"' :: _ => some ('"', 1)
  | '\\' :: _ => some ('\\', 1)
  | 'u' :: s => ((hexNumber? 4 s).bind scalar?).map (·, 5)
  | 'U' :: s => ((hexNumber? 8 s).bind scalar?).map (·, 9)
  | _ => none

/-- A character put before what a reader gave. -/
def consText (c : Char) (read : List Char × List Char) : List Char × List Char :=
  (c :: read.1, read.2)

theorem read_of_map_consText {c : Char} {read : Option (List Char × List Char)}
    {cs rest : List Char} (h : read.map (consText c) = some (cs, rest)) :
    ∃ cs', read = some (cs', rest) := by
  obtain ⟨⟨cs', rest'⟩, hr, he⟩ := Option.map_eq_some_iff.mp h
  obtain ⟨-, rfl⟩ := Prod.mk.inj he
  exact ⟨cs', hr⟩

def basic? : List Char → Option (List Char × List Char)
  | [] => none
  | c :: s =>
    if c = '"' then some ([], s)
    else if c = '\\' then
      match escape? s with
      | some (x, n) => (basic? (s.drop n)).map (consText x)
      | none => none
    else if isText c then (basic? s).map (consText c)
    else none
  termination_by s => s.length
  decreasing_by all_goals simp only [List.length_cons, List.length_drop]; omega

theorem length_basic?_lt {s cs rest : List Char} (h : basic? s = some (cs, rest)) :
    rest.length < s.length := by
  fun_induction basic? s generalizing cs with
  | case1 => simp at h
  | case2 s =>
    obtain ⟨-, rfl⟩ := Prod.mk.inj (Option.some.inj h)
    simp
  | case3 s x n _ _ ih =>
    obtain ⟨_, h⟩ := read_of_map_consText h
    have := ih h
    simp only [List.length_drop, List.length_cons] at *
    omega
  | case4 => simp at h
  | case5 c s _ _ _ ih =>
    obtain ⟨_, h⟩ := read_of_map_consText h
    have := ih h
    simp only [List.length_cons]
    omega
  | case6 => simp at h

def literal? : List Char → Option (List Char × List Char)
  | [] => none
  | c :: s =>
    if c = '\'' then some ([], s)
    else if isText c then (literal? s).map (consText c)
    else none

theorem length_literal?_lt {s cs rest : List Char} (h : literal? s = some (cs, rest)) :
    rest.length < s.length := by
  fun_induction literal? s generalizing cs with
  | case1 => simp at h
  | case2 s =>
    obtain ⟨-, rfl⟩ := Prod.mk.inj (Option.some.inj h)
    simp
  | case3 c s _ _ ih =>
    obtain ⟨_, h⟩ := read_of_map_consText h
    have := ih h
    simp only [List.length_cons]
    omega
  | case4 => simp at h

/-- How many quotes open the text, and no more than five. -/
def quoteRun (quote : Char) (s : List Char) : Nat := min (s.takeWhile (· = quote)).length 5

theorem quoteRun_le_length (quote : Char) (s : List Char) : quoteRun quote s ≤ s.length :=
  Nat.le_trans (Nat.min_le_left _ _) (List.takeWhile_prefix _).length_le

/-- What stands behind blanks and line breaks. -/
def skipBreaks (s : List Char) : List Char :=
  match h : newline? (skipBlanks s) with
  | some rest =>
    have := length_newline?_lt h
    skipBreaks rest
  | none => skipBlanks s
  termination_by s.length
  decreasing_by
    have := length_skipBlanks_le s
    omega

theorem length_skipBreaks_le (s : List Char) : (skipBreaks s).length ≤ s.length := by
  fun_induction skipBreaks s with
  | case1 s rest h ih =>
    have := length_newline?_lt h
    have := length_skipBlanks_le s
    omega
  | case2 s h => exact length_skipBlanks_le s

/-- A string of several lines in double quotes. A backslash before a line break takes all blanks
and line breaks up to the next other character. -/
def basicLines? (s : List Char) : Option (List Char × List Char) :=
  let quotes := quoteRun '"' s
  if 3 ≤ quotes then some (List.replicate (quotes - 3) '"', s.drop quotes)
  else match s with
    | [] => none
    | c :: rest =>
      if c = '\\' then
        match newline? (skipBlanks rest) with
        | some _ => basicLines? (skipBreaks rest)
        | none =>
          match escape? rest with
          | some (x, n) => (basicLines? (rest.drop n)).map (consText x)
          | none => none
      else if isText c then (basicLines? rest).map (consText c)
      else match h : newline? (c :: rest) with
        | some rest =>
          have := length_newline?_lt h
          (basicLines? rest).map (consText '\n')
        | none => none
  termination_by s.length
  decreasing_by
    · have := length_skipBreaks_le rest
      simp only [List.length_cons]
      omega
    · simp only [List.length_cons, List.length_drop]
      omega
    · simp only [List.length_cons]
      omega
    · assumption

theorem length_basicLines?_lt {s cs rest : List Char} (h : basicLines? s = some (cs, rest)) :
    rest.length < s.length := by
  fun_induction basicLines? s generalizing cs with
  | case1 s quotes =>
    obtain ⟨-, rfl⟩ := Prod.mk.inj (Option.some.inj h)
    have : quotes ≤ s.length := quoteRun_le_length _ s
    rw [List.length_drop]
    omega
  | case2 => simp at h
  | case3 s =>
    rename_i ih
    have := ih h
    have := length_skipBreaks_le s
    simp only [List.length_cons]
    omega
  | case4 s =>
    rename_i ih
    obtain ⟨_, h⟩ := read_of_map_consText h
    have := ih h
    simp only [List.length_drop, List.length_cons] at *
    omega
  | case5 => simp at h
  | case6 c s =>
    rename_i ih
    obtain ⟨_, h⟩ := read_of_map_consText h
    have := ih h
    simp only [List.length_cons]
    omega
  | case7 c s =>
    rename_i ih
    obtain ⟨_, h⟩ := read_of_map_consText h
    have := ih h
    omega
  | case8 => simp at h

def literalLines? (s : List Char) : Option (List Char × List Char) :=
  let quotes := quoteRun '\'' s
  if 3 ≤ quotes then some (List.replicate (quotes - 3) '\'', s.drop quotes)
  else match s with
    | [] => none
    | c :: rest =>
      if isText c then (literalLines? rest).map (consText c)
      else match h : newline? (c :: rest) with
        | some rest =>
          have := length_newline?_lt h
          (literalLines? rest).map (consText '\n')
        | none => none
  termination_by s.length
  decreasing_by
    · simp only [List.length_cons]
      omega
    · assumption

theorem length_literalLines?_lt {s cs rest : List Char}
    (h : literalLines? s = some (cs, rest)) : rest.length < s.length := by
  fun_induction literalLines? s generalizing cs with
  | case1 s quotes =>
    obtain ⟨-, rfl⟩ := Prod.mk.inj (Option.some.inj h)
    have : quotes ≤ s.length := quoteRun_le_length _ s
    rw [List.length_drop]
    omega
  | case2 => simp at h
  | case3 c s =>
    rename_i ih
    obtain ⟨_, h⟩ := read_of_map_consText h
    have := ih h
    simp only [List.length_cons]
    omega
  | case4 c s =>
    rename_i ih
    obtain ⟨_, h⟩ := read_of_map_consText h
    have := ih h
    omega
  | case5 => simp at h

def quoted? : List Char → Option (List Char × List Char)
  | '"' :: '"' :: '"' :: s => basicLines? ((newline? s).getD s)
  | '"' :: s => basic? s
  | '\'' :: '\'' :: '\'' :: s => literalLines? ((newline? s).getD s)
  | '\'' :: s => literal? s
  | _ => none

theorem length_getD_newline?_le (s : List Char) : ((newline? s).getD s).length ≤ s.length := by
  match h : newline? s with
  | some rest => exact Nat.le_of_lt (length_newline?_lt h)
  | none => exact Nat.le_refl _

theorem length_quoted?_lt {s cs rest : List Char} (h : quoted? s = some (cs, rest)) :
    rest.length < s.length := by
  unfold quoted? at h
  split at h
  · rename_i s
    have := length_basicLines?_lt h
    have := length_getD_newline?_le s
    simp only [List.length_cons]
    omega
  · have := length_basic?_lt h
    simp only [List.length_cons]
    omega
  · rename_i s
    have := length_literalLines?_lt h
    have := length_getD_newline?_le s
    simp only [List.length_cons]
    omega
  · have := length_literal?_lt h
    simp only [List.length_cons]
    omega
  · simp at h

end BufferedHttp.Toml
