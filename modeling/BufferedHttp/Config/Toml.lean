import BufferedHttp.Config
import BufferedHttp.Decimal.Shortest
import BufferedHttp.Text.Quoted
import BufferedHttp.Text.Utf8
import BufferedHttp.Toml.Document

/-!
# Configurations as TOML documents

A document binds some of the five fields to numbers; the fields that it leaves out keep their
defaults. Loading reports the first thing that is wrong: the document, then its entries in order,
then the configuration they make. Saving writes one line per field that is set.
-/

namespace BufferedHttp.Config

inductive Field where
  | readChunkSize
  | writeChunkSize
  | connectTimeout
  | firstByteTimeout
  | betweenBytesTimeout
  deriving DecidableEq

namespace Field

def key : Field → String
  | readChunkSize => "read_chunk_size"
  | writeChunkSize => "write_chunk_size"
  | connectTimeout => "connect_timeout_ms"
  | firstByteTimeout => "first_byte_timeout_ms"
  | betweenBytesTimeout => "between_bytes_timeout_ms"

/-- The fields in the order in which they are written. -/
def all : List Field :=
  [readChunkSize, writeChunkSize, connectTimeout, firstByteTimeout, betweenBytesTimeout]

def ofKey? (s : String) : Option Field := all.find? fun f => f.key = s

/-- What a message calls the numbers that the field takes. -/
def expected : Field → String
  | writeChunkSize => "usize"
  | _ => "u64"

end Field

def get? (c : Config) : Field → Option UInt64
  | .readChunkSize => some c.readChunkSize
  | .writeChunkSize => some c.writeChunkSize
  | .connectTimeout => c.connectTimeoutMs
  | .firstByteTimeout => c.firstByteTimeoutMs
  | .betweenBytesTimeout => c.betweenBytesTimeoutMs

def set (c : Config) (n : UInt64) : Field → Config
  | .readChunkSize => { c with readChunkSize := n }
  | .writeChunkSize => { c with writeChunkSize := n }
  | .connectTimeout => { c with connectTimeoutMs := some n }
  | .firstByteTimeout => { c with firstByteTimeoutMs := some n }
  | .betweenBytesTimeout => { c with betweenBytesTimeoutMs := some n }

theorem get?_set (c : Config) (n : UInt64) (f g : Field) :
    (c.set n f).get? g = if g = f then some n else c.get? g := by
  cases f <;> cases g <;> rfl

inductive EntryFault where
  | unknownField (key : String)
  | negative (field : Field) (n : Int)
  | wrongType (field : Field) (value : Toml.Value)

/-- What a message calls a value that is not an integer. -/
def kindOf : Toml.Value → String
  | .string s => "string " ++ Text.quoted s
  | .integer n => "integer `" ++ toString n ++ "`"
  | .float x => "floating point `" ++ x.text ++ "`"
  | .boolean b => "boolean `" ++ (if b then "true" else "false") ++ "`"
  | .moment _ => "map"
  | .table .. => "map"
  | .array _ => "sequence"
  | .tables _ => "sequence"

namespace EntryFault

/-- The keys as a message lists them. -/
def keyList : String :=
  String.intercalate ", " (Field.all.map fun f => "`" ++ f.key ++ "`")

def message : EntryFault → String
  | unknownField key => "unknown field `" ++ key ++ "`, expected one of " ++ keyList
  | negative f n => "invalid value: integer `" ++ toString n ++ "`, expected " ++ f.expected
  | wrongType f v => "invalid type: " ++ kindOf v ++ ", expected " ++ f.expected

end EntryFault

inductive LoadError where
  | malformed
  | entry (fault : EntryFault)
  | config (fault : Fault)
  /-- There is no file, or it is not a text. -/
  | unreadable

def setEntry (c : Config) (entry : String × Toml.Value) : Except EntryFault Config :=
  match Field.ofKey? entry.1 with
  | none => .error (.unknownField entry.1)
  | some f =>
    match entry.2 with
    | .integer n => if n < 0 then .error (.negative f n) else .ok (c.set (UInt64.ofNat n.toNat) f)
    | v => .error (.wrongType f v)

def setEntries (c : Config) : Toml.Entries → Except EntryFault Config
  | [] => .ok c
  | entry :: rest =>
    match c.setEntry entry with
    | .ok c => c.setEntries rest
    | .error fault => .error fault

def load (text : String) : Except LoadError Config :=
  match Toml.parse? text with
  | none => .error .malformed
  | some entries =>
    match default.setEntries entries with
    | .error fault => .error (.entry fault)
    | .ok c =>
      match c.validate with
      | .ok _ => .ok c
      | .error fault => .error (.config fault)

/-- The configuration of a file with this content, `none` when there is no file. -/
def loadFile (content : Option Bytes) : Except LoadError Config :=
  match content.map Text.Utf8.decode with
  | some (.ok text) => load text
  | _ => .error .unreadable

/-- A number of the configuration is too large for a document. -/
inductive SaveError where
  | outOfRange
  deriving DecidableEq

def SaveError.message : SaveError → String
  | .outOfRange => "out-of-range value for u64 type"

def maxSaved : Nat := 0x7FFFFFFFFFFFFFFF

def saveFields (c : Config) : List Field → Except SaveError (List String)
  | [] => .ok []
  | f :: fs =>
    match c.get? f with
    | none => c.saveFields fs
    | some n =>
      if n.toNat ≤ maxSaved then
        (c.saveFields fs).map fun lines => (f.key ++ " = " ++ toString n.toNat ++ "\n") :: lines
      else .error .outOfRange

def save (c : Config) : Except SaveError String := (c.saveFields Field.all).map String.join

end BufferedHttp.Config
