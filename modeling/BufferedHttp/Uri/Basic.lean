import BufferedHttp.Uri.Authority

/-!
# URIs

A URI in absolute form has a scheme, an authority, a path and perhaps a query; a URI that is only
a path or only an authority has no scheme. A fragment is dropped without a look at it. An empty
path in front of a query or a fragment, or at the end, reads as the root.
-/

namespace BufferedHttp

structure Uri where
  scheme : Option String
  authority : Option String
  path : String
  query : Option String
  deriving DecidableEq

namespace Uri

def maxLength : Nat := 65534

def maxSchemeLength : Nat := 64

def isPathChar (c : Char) : Bool :=
  let n := c.toNat
  n = 0x21 || n = 0x22 || (0x24 ≤ n && n ≤ 0x3B) || n = 0x3D || (0x40 ≤ n && n ≤ 0x5F) ||
    (0x61 ≤ n && n ≤ 0x7E) || 0x80 ≤ n

def isQueryChar (c : Char) : Bool :=
  let n := c.toNat
  n = 0x21 || (0x24 ≤ n && n ≤ 0x3B) || n = 0x3D || (0x3F ≤ n && n ≤ 0x7E) || 0x80 ≤ n

def isSchemeChar (c : Char) : Bool := c.isAlphanum || c ∈ ['+', '-', '.', '~']

/-- The query behind a path; a fragment ends it. -/
def splitQuery : List Char → Except UriFault (Option (List Char))
  | '?' :: cs =>
    let query := cs.takeWhile (· ≠ '#')
    if query.all isQueryChar then .ok (some query) else .error .invalidCharacter
  | _ => .ok none

/-- Path and query of what follows an authority. -/
def splitPath (cs : List Char) : Except UriFault (List Char × Option (List Char)) :=
  let path := cs.takeWhile fun c => c ≠ '?' ∧ c ≠ '#'
  if path.all isPathChar then
    match splitQuery (cs.dropWhile fun c => c ≠ '?' ∧ c ≠ '#') with
    | .ok query => .ok (if path = [] then ['/'] else path, query)
    | .error fault => .error fault
  else .error .invalidCharacter

/-- The scheme in front of a colon and two slashes, and what follows them. The two well-known
schemes are recognised in any case and put in lower case. -/
def splitScheme (cs : List Char) : Except UriFault (Option (String × List Char)) :=
  let lower := cs.map Char.toLower
  if "http://".toList.isPrefixOf lower then .ok (some ("http", cs.drop 7))
  else if "https://".toList.isPrefixOf lower then .ok (some ("https", cs.drop 8))
  else
    let scheme := cs.takeWhile isSchemeChar
    match cs.dropWhile isSchemeChar with
    | ':' :: '/' :: '/' :: rest =>
      if scheme = [] ∧ rest = [] then .ok none
      else if maxSchemeLength < scheme.length then .error .schemeTooLong
      else .ok (some (String.ofList scheme, rest))
    | _ => .ok none

/-- A text of one character: the root, an asterisk or an authority. -/
def parseOne (c : Char) : Except UriFault Uri :=
  if c = '/' ∨ c = '*' then .ok ⟨none, none, c.toString, none⟩
  else
    match Authority.split [c] with
    | .error fault => .error fault
    | .ok (authority, rest) =>
      if rest = [] then .ok ⟨none, some (String.ofList authority), "", none⟩
      else .error .invalidCharacter

def parseAbsolute (cs : List Char) : Except UriFault Uri :=
  match splitScheme cs with
  | .error fault => .error fault
  | .ok none =>
    match Authority.split cs with
    | .error fault => .error fault
    | .ok (authority, rest) =>
      if rest = [] then .ok ⟨none, some (String.ofList authority), "", none⟩
      else .error .invalidFormat
  | .ok (some (scheme, behind)) =>
    match Authority.split behind with
    | .error fault => .error fault
    | .ok (authority, rest) =>
      if authority = [] then .error .invalidFormat
      else
        match splitPath rest with
        | .error fault => .error fault
        | .ok (path, query) =>
          .ok ⟨some scheme, some (String.ofList authority), String.ofList path,
            query.map String.ofList⟩

def parseRelative (cs : List Char) : Except UriFault Uri :=
  match splitPath cs with
  | .error fault => .error fault
  | .ok (path, query) => .ok ⟨none, none, String.ofList path, query.map String.ofList⟩

def parse (text : String) : Except UriFault Uri :=
  if maxLength < text.utf8ByteSize then .error .tooLong
  else
    match text.toList with
    | [] => .error .empty
    | [c] => parseOne c
    | '/' :: cs => parseRelative ('/' :: cs)
    | cs => parseAbsolute cs

/-- Path and query as a host takes them. -/
def pathWithQuery (u : Uri) : String :=
  match u.query with
  | some query => u.path ++ "?" ++ query
  | none => u.path

end Uri

end BufferedHttp
