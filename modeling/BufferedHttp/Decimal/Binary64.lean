/-!
# Binary floating point of 64 bits

A finite number is a significand below `2 ^ 53` times a power of two. Reading a decimal takes the
nearest number, of two equally near ones the one with the even significand. Everything is done in
exact arithmetic on natural numbers.
-/

namespace BufferedHttp.Decimal

inductive Binary64 where
  | finite (negative : Bool) (significand : Nat) (exponent : Int)
  | infinite (negative : Bool)
  | nan
  deriving DecidableEq

/-- A quotient rounded to the nearest number, a half to the even neighbour. -/
def roundHalfEven (num den : Nat) : Nat :=
  let q := num / den
  let r := num % den
  if 2 * r < den then q
  else if den < 2 * r then q + 1
  else q + q % 2

/-- `num / den` times a power of `base`, as a quotient of natural numbers. -/
def scale (base num den : Nat) (exponent : Int) : Nat × Nat :=
  if 0 ≤ exponent then (num * base.pow exponent.toNat, den)
  else (num, den * base.pow (-exponent).toNat)

namespace Binary64

def minSignificand : Nat := 0x10000000000000

def minExponent : Int := -1074

def maxExponent : Int := 971

/-- The exponent at which a positive quotient has a significand of 53 bits, or the least one. -/
def exponentOf (num den : Nat) : Int :=
  let l : Int := Int.ofNat num.log2 - Int.ofNat den.log2
  let (n, d) := scale 2 num den (-l)
  max (if n < d then l - 53 else l - 52) minExponent

def ofQuotient (negative : Bool) (num den : Nat) : Binary64 :=
  let e := exponentOf num den
  let (n, d) := scale 2 num den (-e)
  let m := roundHalfEven n d
  let (m, e) := if m = 2 * minSignificand then (minSignificand, e + 1) else (m, e)
  if maxExponent < e then infinite negative else finite negative m e

/-- The number nearest to `digits * 10 ^ exponent`. Decimals far outside the range are decided by
their order of magnitude alone. -/
def ofDecimal (negative : Bool) (digits : Nat) (exponent : Int) : Binary64 :=
  if digits = 0 then finite negative 0 minExponent
  else
    let magnitude : Int := Int.ofNat (Nat.toDigits 10 digits).length + exponent
    if 400 < magnitude then infinite negative
    else if magnitude < -400 then finite negative 0 minExponent
    else
      let (n, d) := scale 10 digits 1 exponent
      ofQuotient negative n d

end Binary64

end BufferedHttp.Decimal
