import BufferedHttp.Text.GraphemeExtend

/-!
# Quoted text

A text in double quotes in which every character is visible: the common control characters, the
quote and the backslash have short escapes, and a character that is hidden or would join the one
before it is written by its number.
-/

namespace BufferedHttp.Text

def hexDigits (n : Nat) : List Char := Nat.toDigits 16 n

def escaped (c : Char) : List Char :=
  match c with
  | '\x00' => ['\\', '0']
  | '\t' => ['\\', 't']
  | '\r' => ['\\', 'r']
  | '\n' => ['\\', 'n']
  | '"' => ['\\', '"']
  | '\\' => ['\\', '\\']
  | c =>
    if isJoining c || isHidden c then
      ['\\', 'u', '\x7b'] ++ hexDigits c.toNat ++ ['\x7d']
    else
      [c]

def quoted (s : String) : String :=
  String.ofList (['"'] ++ s.toList.flatMap escaped ++ ['"'])

end BufferedHttp.Text
