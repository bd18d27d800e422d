import BufferedHttp.Error
import BufferedHttp.Text.Basic
import BufferedHttp.Text.Utf8

/-!
# Header fields

A header map keeps every entry in the order in which it came, repeated names included, and looks
names up without regard to ASCII case. A host keeps values as bytes: `toFields` encodes a map for
the host, `ofFields` decodes what the host delivers and fails at the first value that is not
UTF-8.
-/

namespace BufferedHttp

/-- Header entries as a host stores them. -/
abbrev FieldList := List (String × Bytes)

structure Header where
  name : String
  value : String
  deriving DecidableEq

namespace Header

def toField (h : Header) : String × Bytes := (h.name, Text.Utf8.encode h.value)

def isNamed (name : String) (h : Header) : Bool := Text.equalFolded h.name name

end Header

structure Undecodable where
  name : String
  fault : Text.Utf8.Fault
  deriving DecidableEq

namespace Undecodable

def message (u : Undecodable) : String :=
  "value of `" ++ u.name ++ "` is not valid utf-8: " ++ u.fault.message

def toError (u : Undecodable) : Error := .header u.message

end Undecodable

structure HeaderMap where
  entries : List Header
  deriving DecidableEq

namespace HeaderMap

def empty : HeaderMap := ⟨[]⟩

/-- The map with one more entry at its end; entries of the same name stay. -/
def insert (m : HeaderMap) (name value : String) : HeaderMap :=
  ⟨m.entries ++ [⟨name, value⟩]⟩

def ofList (pairs : List (String × String)) : HeaderMap :=
  ⟨pairs.map fun (name, value) => ⟨name, value⟩⟩

def getAll (m : HeaderMap) (name : String) : List String :=
  (m.entries.filter (Header.isNamed name)).map Header.value

def get? (m : HeaderMap) (name : String) : Option String :=
  (m.entries.find? (Header.isNamed name)).map Header.value

def size (m : HeaderMap) : Nat := m.entries.length

def isEmpty (m : HeaderMap) : Bool := m.entries.isEmpty

@[simp] theorem entries_insert (m : HeaderMap) (name value : String) :
    (m.insert name value).entries = m.entries ++ [⟨name, value⟩] := rfl

theorem get?_eq_head?_getAll (m : HeaderMap) (name : String) :
    m.get? name = (m.getAll name).head? := by
  simp [get?, getAll]

def toFields (m : HeaderMap) : FieldList := m.entries.map Header.toField

def decodeField (field : String × Bytes) : Except Undecodable Header :=
  match Text.Utf8.decode field.2 with
  | .ok value => .ok ⟨field.1, value⟩
  | .error fault => .error ⟨field.1, fault⟩

/-- The entries of a host, decoded in order; the first undecodable value decides. -/
def decodeFields : FieldList → Except Undecodable (List Header)
  | [] => .ok []
  | field :: rest =>
    match decodeField field with
    | .error u => .error u
    | .ok header =>
      match decodeFields rest with
      | .error u => .error u
      | .ok headers => .ok (header :: headers)

def ofFields (fields : FieldList) : Except Undecodable HeaderMap :=
  match decodeFields fields with
  | .ok headers => .ok ⟨headers⟩
  | .error u => .error u

end HeaderMap

end BufferedHttp
