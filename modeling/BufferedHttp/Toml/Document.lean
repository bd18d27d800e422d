import BufferedHttp.Toml.Parser

/-!
# TOML documents

A document is a sequence of lines: bindings, headers of tables, and lines without content. The
bindings below a header belong to the table that it opens, those before the first header to the
document itself.
-/

namespace BufferedHttp.Toml

inductive Line where
  | binding (b : Binding)
  | header (repeated : Bool) (path : Path)

/-- The end of a line behind what was read. -/
def closed? (read : Option (α × List Char)) : Option (α × List Char) :=
  match read with
  | some (a, rest) => (endLine? rest).map (a, ·)
  | none => none

theorem length_le_of_closed? {read : Option (α × List Char)} {a : α} {rest : List Char}
    (h : closed? read = some (a, rest)) :
    ∃ after, read = some (a, after) ∧ rest.length ≤ after.length := by
  unfold closed? at h
  split at h
  · rename_i b after
    obtain ⟨rest', hr, he⟩ := Option.map_eq_some_iff.mp h
    obtain ⟨rfl, rfl⟩ := Prod.mk.inj he
    exact ⟨after, rfl, length_endLine?_le hr⟩
  · exact absurd h (by simp)

/-- A header behind its opening brackets. -/
def header? (repeated : Bool) (s : List Char) : Option (Line × List Char) :=
  match repeated, path? s with
  | false, some (path, ']' :: rest) => some (.header false path, rest)
  | true, some (path, ']' :: ']' :: rest) => some (.header true path, rest)
  | _, _ => none

theorem length_header?_lt {repeated : Bool} {s rest : List Char} {line : Line}
    (h : header? repeated s = some (line, rest)) : rest.length < s.length := by
  unfold header? at h
  split at h
  · rename_i path after hp
    obtain ⟨-, rfl⟩ := Prod.mk.inj (Option.some.inj h)
    have := length_path?_lt hp
    simp only [List.length_cons] at this
    omega
  · rename_i path after hp
    obtain ⟨-, rfl⟩ := Prod.mk.inj (Option.some.inj h)
    have := length_path?_lt hp
    simp only [List.length_cons] at this
    omega
  · exact absurd h (by simp)

/-- One line with content, and what follows its end. -/
def content? : List Char → Option (Line × List Char)
  | '[' :: '[' :: s => closed? (header? true s)
  | '[' :: s => closed? (header? false s)
  | s => closed? ((binding? (value maxDepth) s).map fun (b, rest) => (.binding b, rest))

theorem length_content?_lt {s rest : List Char} {line : Line}
    (h : content? s = some (line, rest)) : rest.length < s.length := by
  unfold content? at h
  split at h
  · obtain ⟨after, hh, le⟩ := length_le_of_closed? h
    have := length_header?_lt hh
    simp only [List.length_cons]
    omega
  · obtain ⟨after, hh, le⟩ := length_le_of_closed? h
    have := length_header?_lt hh
    simp only [List.length_cons]
    omega
  · obtain ⟨after, hb, le⟩ := length_le_of_closed? h
    obtain ⟨⟨b, after'⟩, hr, he⟩ := Option.map_eq_some_iff.mp hb
    obtain ⟨-, rfl⟩ := Prod.mk.inj he
    have := length_binding?_lt hr
    omega

def lines? (s : List Char) : Option (List Line) :=
  if ne : skipBlanks s = [] then some []
  else
    match h : endLine? (skipBlanks s) with
    | some rest =>
      have := length_endLine?_lt h ne
      lines? rest
    | none =>
      match h : content? (skipBlanks s) with
      | some (line, rest) =>
        have := length_content?_lt h
        (lines? rest).map (line :: ·)
      | none => none
  termination_by s.length
  decreasing_by
    all_goals
      have := length_skipBlanks_le s
      omega

/-- The bindings before the first header, and every header with its bindings. -/
def grouped : List Line → List Binding × List Section
  | [] => ([], [])
  | .binding b :: lines =>
    let (bs, sections) := grouped lines
    (b :: bs, sections)
  | .header repeated path :: lines =>
    let (bs, sections) := grouped lines
    ([], ⟨path, repeated, bs⟩ :: sections)

def ofLines? (lines : List Line) : Option Entries :=
  let (bs, sections) := grouped lines
  (Entries.bindAll [] bs).bind fun es => sections.foldlM Entries.addSection es

/-- The text without a byte order mark at its start. -/
def skipMark : List Char → List Char
  | '\ufeff' :: s => s
  | s => s

/-- The table of a document, `none` when the text is not one. -/
def parse? (text : String) : Option Entries := (lines? (skipMark text.toList)).bind ofLines?

end BufferedHttp.Toml
