import BufferedHttp.Toml.Quoted
import BufferedHttp.Toml.Value

/-!
# TOML numbers

A number is read from the whole of its characters. Digits may be grouped by single underscores
between two of them; a decimal has no leading zero. An integer is a signed word of 64 bits, and
a float must not lie above the finite range.
-/

namespace BufferedHttp.Toml

def digit? (base : Nat) (c : Char) : Option Nat :=
  match hexDigit? c with
  | some d => if d < base then some d else none
  | none => none

/-- Digits behind a digit, each with an underscore before it or not; `n` is the number so far. -/
def groupedFrom? (base n : Nat) : List Char → Option Nat
  | [] => some n
  | '_' :: c :: s =>
    match digit? base c with
    | some d => groupedFrom? base (n * base + d) s
    | none => none
  | c :: s =>
    match digit? base c with
    | some d => groupedFrom? base (n * base + d) s
    | none => none

/-- At least one digit, grouped or not. -/
def grouped? (base : Nat) : List Char → Option Nat
  | [] => none
  | c :: s =>
    match digit? base c with
    | some d => groupedFrom? base d s
    | none => none

/-- A decimal without a leading zero. -/
def decimal? (s : List Char) : Option Nat :=
  if s.head? = some '0' ∧ s ≠ ['0'] then none else grouped? 10 s

/-- A sign, if there is one, and what follows it; `true` for minus. -/
def splitSign : List Char → Bool × List Char
  | '+' :: s => (false, s)
  | '-' :: s => (true, s)
  | s => (false, s)

/-- How many signed words are not negative. -/
def wordLimit : Int := 0x8000000000000000

/-- An integer that fits a signed word. -/
def word? (n : Int) : Option Int :=
  if -wordLimit ≤ n ∧ n < wordLimit then some n else none

def integer? : List Char → Option Int
  | '0' :: 'x' :: s => (grouped? 16 s).bind fun n => word? n
  | '0' :: 'o' :: s => (grouped? 8 s).bind fun n => word? n
  | '0' :: 'b' :: s => (grouped? 2 s).bind fun n => word? n
  | s =>
    let (negative, s) := splitSign s
    (decimal? s).bind fun n => word? (if negative then -(n : Int) else n)

/-- The exponent of a float, behind its `e`. -/
def exponent? (s : List Char) : Option Int :=
  let (negative, s) := splitSign s
  (grouped? 10 s).map fun n => if negative then -(n : Int) else n

/-- How many digits stand in grouped digits. -/
def places (s : List Char) : Nat := s.countP (· ≠ '_')

/-- Digits with or without a fraction, as a number and a negative power of ten. -/
def significand? (s : List Char) : Option (Nat × Nat) :=
  let whole := s.takeWhile (· ≠ '.')
  match s.dropWhile (· ≠ '.') with
  | [] => (decimal? whole).map (·, 0)
  | _ :: fraction =>
    match decimal? whole, grouped? 10 fraction with
    | some n, some f => some (n * Nat.pow 10 (places fraction) + f, places fraction)
    | _, _ => none

def isExponentMark (c : Char) : Bool := c = 'e' || c = 'E'

/-- A decimal float with a fraction, an exponent or both. -/
def decimalFloat? (negative : Bool) (s : List Char) : Option Decimal.Binary64 :=
  let mantissa := s.takeWhile (!isExponentMark ·)
  match s.dropWhile (!isExponentMark ·) with
  | [] =>
    if '.' ∈ mantissa then
      (significand? mantissa).map fun (n, k) => .ofDecimal negative n (-(k : Int))
    else none
  | _ :: power =>
    match significand? mantissa, exponent? power with
    | some (n, k), some e => some (.ofDecimal negative n (e - k))
    | _, _ => none

def float? (s : List Char) : Option Decimal.Binary64 :=
  let (negative, s) := splitSign s
  if s = ['i', 'n', 'f'] then some (.infinite negative)
  else if s = ['n', 'a', 'n'] then some .nan
  else
    match decimalFloat? negative s with
    | some (.infinite false) => none
    | x => x

end BufferedHttp.Toml
