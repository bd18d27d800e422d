/-!
# Bytes and UTF-8

Bodies, header values and encoded text are finite sequences of bytes. `encode` writes a text as
bytes and `decode` reads bytes back. Reading fails at the first byte that belongs to no well-formed
sequence, and the fault says where that is and whether the bytes only end too early. The shapes of
well-formed sequences are those of Unicode table 3-7.
-/

namespace BufferedHttp

abbrev Bytes := List UInt8

namespace Text.Utf8

def encodeChar (c : Char) : Bytes :=
  let n := c.toNat
  if n < 0x80 then
    [UInt8.ofNat n]
  else if n < 0x800 then
    [UInt8.ofNat (0xC0 + n / 0x40), UInt8.ofNat (0x80 + n % 0x40)]
  else if n < 0x10000 then
    [UInt8.ofNat (0xE0 + n / 0x1000), UInt8.ofNat (0x80 + n / 0x40 % 0x40),
      UInt8.ofNat (0x80 + n % 0x40)]
  else
    [UInt8.ofNat (0xF0 + n / 0x40000), UInt8.ofNat (0x80 + n / 0x1000 % 0x40),
      UInt8.ofNat (0x80 + n / 0x40 % 0x40), UInt8.ofNat (0x80 + n % 0x40)]

def encode (s : String) : Bytes := s.toList.flatMap encodeChar

/-- Why bytes are not a text. Positions count bytes from the start. -/
inductive Fault where
  /-- The bytes end inside a sequence that is well-formed so far. -/
  | incomplete (position : Nat)
  /-- A sequence breaks off after `length` bytes (at least one). -/
  | invalid (position length : Nat)
  deriving DecidableEq

def Fault.position : Fault → Nat
  | .incomplete p => p
  | .invalid p _ => p

def Fault.message : Fault → String
  | .incomplete p => s!"incomplete utf-8 byte sequence from index {p}"
  | .invalid p n => s!"invalid utf-8 sequence of {n} bytes from index {p}"

/-- What the first byte of a sequence fixes: how many bytes follow it, and the range of the
second byte. Later bytes range over `80` to `BF`. -/
structure Shape where
  following : Nat
  low : UInt8
  high : UInt8
  deriving DecidableEq

/-- The shape that a first byte announces; `none` for a byte that starts no sequence. -/
def shape? (b : UInt8) : Option Shape :=
  if b ≤ 0x7F then some ⟨0, 0x80, 0xBF⟩
  else if b < 0xC2 then none
  else if b ≤ 0xDF then some ⟨1, 0x80, 0xBF⟩
  else if b = 0xE0 then some ⟨2, 0xA0, 0xBF⟩
  else if b = 0xED then some ⟨2, 0x80, 0x9F⟩
  else if b ≤ 0xEF then some ⟨2, 0x80, 0xBF⟩
  else if b = 0xF0 then some ⟨3, 0x90, 0xBF⟩
  else if b ≤ 0xF3 then some ⟨3, 0x80, 0xBF⟩
  else if b = 0xF4 then some ⟨3, 0x80, 0x8F⟩
  else none

/-- How many bytes continue a sequence that still needs `n` bytes, the next one in
`low` to `high`. -/
def continued : Nat → UInt8 → UInt8 → Bytes → Nat
  | 0, _, _, _ => 0
  | _ + 1, _, _, [] => 0
  | n + 1, low, high, b :: bs =>
    if low ≤ b ∧ b ≤ high then continued n 0x80 0xBF bs + 1 else 0

theorem continued_le_length (n : Nat) (low high : UInt8) (bs : Bytes) :
    continued n low high bs ≤ bs.length := by
  induction n generalizing low high bs with
  | zero => simp [continued]
  | succ n ih =>
    cases bs with
    | nil => simp [continued]
    | cons b bs =>
      simp only [continued, List.length_cons]
      split
      · exact Nat.succ_le_succ (ih _ _ _)
      · exact Nat.zero_le _

/-- The scalar value of a well-formed sequence, from the payload bits of its first byte and six
bits of every byte that follows. -/
def scalar (b : UInt8) (tail : Bytes) : Char :=
  let lead := match tail.length with
    | 0 => b.toNat
    | 1 => b.toNat - 0xC0
    | 2 => b.toNat - 0xE0
    | _ => b.toNat - 0xF0
  Char.ofNat (tail.foldl (fun n t => n * 0x40 + (t.toNat - 0x80)) lead)

/-- The characters of bytes that start at `position` of the whole. -/
def decodeFrom (position : Nat) : Bytes → Except Fault (List Char)
  | [] => .ok []
  | b :: bs =>
    match shape? b with
    | none => .error (.invalid position 1)
    | some shape =>
      let n := continued shape.following shape.low shape.high bs
      if n = shape.following then
        match decodeFrom (position + n + 1) (bs.drop n) with
        | .ok cs => .ok (scalar b (bs.take n) :: cs)
        | .error fault => .error fault
      else if n = bs.length then
        .error (.incomplete position)
      else
        .error (.invalid position (n + 1))
  termination_by bs => bs.length
  decreasing_by simp only [List.length_drop, List.length_cons]; omega

def decode (bs : Bytes) : Except Fault String :=
  match decodeFrom 0 bs with
  | .ok cs => .ok (String.ofList cs)
  | .error fault => .error fault

end Text.Utf8

end BufferedHttp
