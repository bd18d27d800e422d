/-!
# The authority of a URI

The authority reaches up to the first slash, question mark or number sign. It is scanned from left
to right with a count of colons, which restarts behind a closing bracket and behind userinfo; a
percent sign may stand in userinfo or between brackets only. What stands behind the last colon is
not looked at.
-/

namespace BufferedHttp

/-- Why a text is not a usable URI. -/
inductive UriFault where
  | tooLong
  | empty
  | invalidCharacter
  | invalidAuthority
  | invalidFormat
  | schemeTooLong
  | missingScheme
  | missingAuthority
  | userinfo
  deriving DecidableEq

def UriFault.message : UriFault → String
  | tooLong => "uri too long"
  | empty => "empty string"
  | invalidCharacter => "invalid uri character"
  | invalidAuthority => "invalid authority"
  | invalidFormat => "invalid format"
  | schemeTooLong => "scheme too long"
  | missingScheme => "missing scheme"
  | missingAuthority => "missing authority"
  | userinfo => "userinfo is not allowed in the authority"

namespace Authority

def isEnd (c : Char) : Bool := c = '/' || c = '?' || c = '#'

/-- A character of an authority without a meaning of its own. -/
def isPlain (c : Char) : Bool :=
  c.isAlphanum || c ∈ ['!', '$', '&', '\'', '(', ')', '*', '+', ',', '-', '.', ';', '=', '_', '~']

/-- What a scan has seen since the last restart, and of brackets at all. -/
structure Scan where
  colons : Nat
  percent : Bool
  opened : Bool
  closed : Bool
  deriving DecidableEq

def start : Scan := ⟨0, false, false, false⟩

def step (s : Scan) (c : Char) : Except UriFault Scan :=
  if c = ':' then
    if 8 ≤ s.colons then .error .invalidAuthority else .ok { s with colons := s.colons + 1 }
  else if c = '[' then
    if s.percent || s.opened then .error .invalidAuthority else .ok { s with opened := true }
  else if c = ']' then
    if !s.opened || s.closed then .error .invalidAuthority
    else .ok { colons := 0, percent := false, opened := true, closed := true }
  else if c = '@' then .ok { s with colons := 0, percent := false }
  else if c = '%' then .ok { s with percent := true }
  else if isPlain c then .ok s
  else .error .invalidCharacter

def check (cs : List Char) : Except UriFault Unit :=
  match cs.foldlM step start with
  | .error fault => .error fault
  | .ok s =>
    if s.opened ≠ s.closed ∨ 1 < s.colons ∨ cs.getLast? = some '@' ∨ s.percent then
      .error .invalidAuthority
    else .ok ()

/-- The authority at the start of a text, and what follows it. -/
def split (cs : List Char) : Except UriFault (List Char × List Char) :=
  if cs = [] then .error .empty
  else
    let authority := cs.takeWhile (!isEnd ·)
    match check authority with
    | .ok _ => .ok (authority, cs.dropWhile (!isEnd ·))
    | .error fault => .error fault

theorem append_of_split {cs authority rest : List Char}
    (h : split cs = .ok (authority, rest)) : authority ++ rest = cs := by
  unfold split at h
  split at h
  · contradiction
  · dsimp only at h
    split at h
    · injection h with h
      injection h with h₁ h₂
      rw [← h₁, ← h₂, List.takeWhile_append_dropWhile]
    · contradiction

end Authority

end BufferedHttp
