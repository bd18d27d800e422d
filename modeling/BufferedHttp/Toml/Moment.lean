import BufferedHttp.Toml.Space

/-!
# TOML dates and times

A date has a day of the Gregorian calendar. A time has seconds, with a fraction or not; a leap
second is allowed. An offset is `Z` or hours and minutes. The checks take the whole of the
characters.
-/

namespace BufferedHttp.Toml

/-- The number of exactly `count` decimal digits. -/
def fixedNumber? (count : Nat) (s : List Char) : Option Nat :=
  if s.length = count ∧ s.all Char.isDigit then
    some (s.foldl (fun n c => n * 10 + (c.toNat - '0'.toNat)) 0)
  else none

def isLeapYear (year : Nat) : Bool :=
  year % 4 = 0 && (year % 100 ≠ 0 || year % 400 = 0)

def daysInMonth (year month : Nat) : Nat :=
  if month = 2 then (if isLeapYear year then 29 else 28)
  else if month ∈ [4, 6, 9, 11] then 30
  else 31

def isDate : List Char → Bool
  | [y₁, y₂, y₃, y₄, '-', m₁, m₂, '-', d₁, d₂] =>
    match fixedNumber? 4 [y₁, y₂, y₃, y₄], fixedNumber? 2 [m₁, m₂], fixedNumber? 2 [d₁, d₂] with
    | some year, some month, some day =>
      1 ≤ month && month ≤ 12 && 1 ≤ day && day ≤ daysInMonth year month
    | _, _, _ => false
  | _ => false

/-- Two digits for a number up to a limit. -/
def isUpTo (limit : Nat) (s : List Char) : Bool :=
  match fixedNumber? 2 s with
  | some n => n ≤ limit
  | none => false

/-- A fraction of a second, or nothing. -/
def isSecondFraction : List Char → Bool
  | [] => true
  | '.' :: s => s ≠ [] && s.all Char.isDigit
  | _ => false

def isTime : List Char → Bool
  | h₁ :: h₂ :: ':' :: m₁ :: m₂ :: ':' :: s₁ :: s₂ :: fraction =>
    isUpTo 23 [h₁, h₂] && isUpTo 59 [m₁, m₂] && isUpTo 60 [s₁, s₂] && isSecondFraction fraction
  | _ => false

def isOffset : List Char → Bool
  | ['Z'] => true
  | ['z'] => true
  | [sign, h₁, h₂, ':', m₁, m₂] =>
    (sign = '+' || sign = '-') && isUpTo 23 [h₁, h₂] && isUpTo 59 [m₁, m₂]
  | _ => false

def isTimeText (c : Char) : Bool := c.isDigit || c = ':' || c = '.'

def isOffsetTime (s : List Char) : Bool :=
  let offset := s.dropWhile isTimeText
  isTime (s.takeWhile isTimeText) && (offset = [] || isOffset offset)

/-- A date, a time, or a date and a time with a letter `T` between them. -/
def isMoment (s : List Char) : Bool :=
  isDate s || isTime s ||
    match s.drop 10 with
    | mark :: time => isDate (s.take 10) && (mark = 'T' || mark = 't') && isOffsetTime time
    | [] => false

end BufferedHttp.Toml
