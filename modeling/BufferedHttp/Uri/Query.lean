import BufferedHttp.Text.Basic
import BufferedHttp.Text.Utf8

/-!
# Query parameters

The query of a URI stands behind its first question mark. Its segments are divided by `&`; a
segment with an equals sign binds the key before the first one to the value behind it.

A value is percent-encoded. An escape is a percent sign and two hexadecimal digits, a plus sign is a
space, every other byte stands for itself. Reading fails on a broken escape, and when the bytes it
yields are not UTF-8.
-/

namespace BufferedHttp

namespace Query

def binding? (segment : List Char) : Option (List Char × List Char) := Text.cut? '=' segment

def lookup? (key query : List Char) : Option (List Char) :=
  (((Text.pieces '&' query).filterMap binding?).find? fun (k, _) => k == key).map Prod.snd

/-- The value of a query parameter of a URI, as it is written there. -/
def param? (uri name : String) : Option String :=
  match Text.cut? '?' uri.toList with
  | none => none
  | some (_, query) => (lookup? name.toList query).map String.ofList

end Query

namespace Percent

def hexDigit? (b : UInt8) : Option UInt8 :=
  if 0x30 ≤ b ∧ b ≤ 0x39 then some (b - 0x30)
  else if 0x41 ≤ b ∧ b ≤ 0x46 then some (b - 0x37)
  else if 0x61 ≤ b ∧ b ≤ 0x66 then some (b - 0x57)
  else none

def hexByte? (high low : UInt8) : Option UInt8 :=
  match hexDigit? high, hexDigit? low with
  | some h, some l => some (h * 16 + l)
  | _, _ => none

def unescape? : Bytes → Option Bytes
  | [] => some []
  | b :: rest =>
    if b = 0x25 then
      match rest with
      | high :: low :: rest =>
        match hexByte? high low with
        | some byte => (unescape? rest).map (byte :: ·)
        | none => none
      | _ => none
    else
      (unescape? rest).map ((if b = 0x2B then 0x20 else b) :: ·)

/-- The text of a query value. -/
def decode? (value : String) : Option String :=
  match unescape? (Text.Utf8.encode value) with
  | none => none
  | some bytes => (Text.Utf8.decode bytes).toOption

end Percent

end BufferedHttp
