/-!
# DataSchema.Toml.Moment

**The words that are dates and times.** A moment is a date, a time of day, or both with a letter `T`
or a space between them; after both may come how far the clock is from universal time. The calendar
is the Gregorian one, carried back to the year 0.
-/

namespace DataSchema.Toml

/-- The number that decimal digits stand for, if they are that. -/
def number? (s : List Char) : Option Nat :=
  if s.all Char.isDigit then some (s.foldl (fun n c => 10 * n + (c.toNat - 48)) 0) else none

/-- Are the two characters a number between two bounds? -/
def isBetween (least greatest : Nat) (tens ones : Char) : Bool :=
  (number? [tens, ones]).any fun n => least ≤ n && n ≤ greatest

/-- Has the year a day more? -/
def isLeapYear (year : Nat) : Bool := year % 4 = 0 && (year % 100 ≠ 0 || year % 400 = 0)

/-- The number of days in a month. -/
def daysIn (year month : Nat) : Nat :=
  if month = 2 then if isLeapYear year then 29 else 28
  else if month = 4 ∨ month = 6 ∨ month = 9 ∨ month = 11 then 30
  else 31

/-- Is the text a date? -/
def isDate : List Char → Bool
  | [y₁, y₂, y₃, y₄, '-', m₁, m₂, '-', d₁, d₂] =>
    match number? [y₁, y₂, y₃, y₄], number? [m₁, m₂] with
    | some year, some month =>
      1 ≤ month && month ≤ 12 && isBetween 1 (daysIn year month) d₁ d₂
    | _, _ => false
  | _ => false

/-- Is the text a time of day? It has seconds, of which the last may be a leap second, and digits of
a second only after a point. -/
def isClock : List Char → Bool
  | h₁ :: h₂ :: ':' :: m₁ :: m₂ :: ':' :: s₁ :: s₂ :: rest =>
    isBetween 0 23 h₁ h₂ && isBetween 0 59 m₁ m₂ && isBetween 0 60 s₁ s₂ &&
      match rest with
      | [] => true
      | '.' :: digits => digits ≠ [] && digits.all Char.isDigit
      | _ => false
  | _ => false

/-- Does the text say how far a clock is from universal time, if it says anything? -/
def isOffset : List Char → Bool
  | [] => true
  | ['Z'] => true
  | ['z'] => true
  | [sign, h₁, h₂, ':', m₁, m₂] =>
    (sign = '+' || sign = '-') && isBetween 0 23 h₁ h₂ && isBetween 0 59 m₁ m₂
  | _ => false

/-- Is the text a time of day, and perhaps how far the clock is from universal time? -/
def isClockWithOffset (s : List Char) : Bool :=
  let (clock, offset) := s.span fun c => c.isDigit || c = ':' || c = '.'
  isClock clock && isOffset offset

/-- Is the text a date, a time of day, or both? -/
def isMoment (s : List Char) : Bool :=
  isDate s || isClock s ||
    (isDate (s.take 10) &&
      match s.drop 10 with
      | 'T' :: rest => isClockWithOffset rest
      | 't' :: rest => isClockWithOffset rest
      | ' ' :: rest => isClockWithOffset rest
      | _ => false)

end DataSchema.Toml
