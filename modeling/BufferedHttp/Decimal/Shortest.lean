import BufferedHttp.Decimal.Binary64

/-!
# The shortest decimal that reads back

A positive finite number is the nearest one to every decimal of an interval around it. Of the
decimal grids, from coarse to fine, the first with a point in that interval gives the digits; of
two points the nearer one is taken, and the upper one when both are equally near.
-/

namespace BufferedHttp.Decimal

/-- A quotient with the interval of quotients that read back as it, over one denominator. The
ends belong to the interval when `closed`. -/
structure Rounding where
  low : Nat
  value : Nat
  high : Nat
  denominator : Nat
  closed : Bool

namespace Rounding

/-- The interval of a significand and an exponent. Below a power of two the numbers lie twice as
dense. -/
def ofBinary (significand : Nat) (exponent : Int) : Rounding :=
  let (n, d) := scale 2 1 4 exponent
  let below := if significand = Binary64.minSignificand ∧ Binary64.minExponent < exponent then 1 else 2
  ⟨(4 * significand - below) * n, 4 * significand * n, (4 * significand + 2) * n, d,
    significand % 2 = 0⟩

def contains (r : Rounding) (digits : Nat) (exponent : Int) : Bool :=
  let (n, d) := scale 10 digits 1 exponent
  let point := n * r.denominator
  if r.closed then r.low * d ≤ point && point ≤ r.high * d
  else r.low * d < point && point < r.high * d

/-- The point of a decimal grid that lies in the interval, the nearer of two. -/
def pointAt? (r : Rounding) (exponent : Int) : Option (Nat × Int) :=
  let (n, d) := scale 10 r.value r.denominator (-exponent)
  let below := n / d
  match r.contains below exponent, r.contains (below + 1) exponent with
  | true, true => if 2 * (n % d) < d then some (below, exponent) else some (below + 1, exponent)
  | true, false => some (below, exponent)
  | false, true => some (below + 1, exponent)
  | false, false => none

/-- The digits and the decimal exponent of the first grid with a point in the interval. Seventeen
digits always suffice. -/
def shortest (r : Rounding) : Nat × Int :=
  let top : Int :=
    Int.ofNat (Nat.toDigits 10 r.value).length - Int.ofNat (Nat.toDigits 10 r.denominator).length + 1
  ((List.range 22).findSome? fun i => r.pointAt? (top - Int.ofNat i)).getD (0, 0)

end Rounding

/-- Digits and a decimal exponent written out without an exponent, with at least one digit on
either side of the point. -/
def positional (digits : Nat) (exponent : Int) : String :=
  let ds := Nat.toDigits 10 digits
  if 0 ≤ exponent then
    String.ofList (ds ++ List.replicate exponent.toNat '0' ++ ['.', '0'])
  else
    let places := (-exponent).toNat
    let padded := List.replicate (places + 1 - ds.length) '0' ++ ds
    let whole := padded.length - places
    String.ofList (padded.take whole ++ '.' :: padded.drop whole)

/-- The text of a number: never an exponent, always a fraction. -/
def Binary64.text : Binary64 → String
  | nan => "NaN"
  | infinite negative => if negative then "-inf" else "inf"
  | finite negative significand exponent =>
    let (digits, power) :=
      if significand = 0 then (0, 0) else (Rounding.ofBinary significand exponent).shortest
    (if negative then "-" else "") ++ positional digits power

end BufferedHttp.Decimal
