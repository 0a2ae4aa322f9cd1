import DataSchema.Text.Hexadecimal

/-!
# DataSchema.Toml.Number

**The words that are numbers.** No setting is a number, so the value of one is never asked for; but
a file is well formed only if its numbers are, and if they fit: an integer into 64 bits with a sign,
and a fraction, when it is rounded to double precision, below infinity. A negative fraction has no
such bound.

Digits may be set apart by single underscores. A decimal number has no zeros in front.
-/

namespace DataSchema.Toml

/-- A text without the sign at its front, and whether that was a minus. -/
def splitSign : List Char → Bool × List Char
  | '-' :: rest => (true, rest)
  | '+' :: rest => (false, rest)
  | s => (false, s)

/-- The digits of a text of digits, in which underscores stand only between digits. -/
def digits? (isDigit : Char → Bool) (s : List Char) : Option (List Char) :=
  let groups := s.splitOn '_'
  if groups.all (fun group => group ≠ [] && group.all isDigit) then some groups.flatten else none

/-- The digits of a decimal integer: more than one do not start with a zero. -/
def wholeDigits? (s : List Char) : Option (List Char) :=
  (digits? Char.isDigit s).filter fun digits => digits.length = 1 || digits.head? ≠ some '0'

/-- The number that digits stand for. -/
def valueOf (base : Nat) (digits : List Char) : Nat :=
  digits.foldl (fun n c => base * n + (Text.hexValue? c).getD 0) 0

/-- Is the character a digit in a base of at most sixteen? -/
def isDigitIn (base : Nat) (c : Char) : Bool := (Text.hexValue? c).any (· < base)

/-- The least number that is too large for 64 bits of which one is the sign. -/
def integerBound : Nat := Nat.pow 2 63

/-- Is the text an integer in a base, without a sign, that fits? -/
def isIntegerIn (base : Nat) (s : List Char) : Bool :=
  (digits? (isDigitIn base) s).any fun digits => valueOf base digits < integerBound

/-- Is the text an integer that fits? -/
def isInteger : List Char → Bool
  | '0' :: 'x' :: rest => isIntegerIn 16 rest
  | '0' :: 'o' :: rest => isIntegerIn 8 rest
  | '0' :: 'b' :: rest => isIntegerIn 2 rest
  | s =>
    let (negative, rest) := splitSign s
    (wholeDigits? rest).any fun digits =>
      valueOf 10 digits < integerBound || (negative && valueOf 10 digits = integerBound)

/-- The least number that rounds to infinity: halfway from the greatest finite number of double
precision to the power of two above it. -/
def infinityBound : Nat := Nat.pow 2 1024 - Nat.pow 2 970

/-- Does the number with these digits, times a power of ten, round to infinity? The bound has 309
digits, so that only numbers of the same length have to be compared with it. -/
def roundsToInfinity (digits : List Char) (exponent : Int) : Bool :=
  let digits := digits.dropWhile (· = '0')
  let length := digits.length + exponent
  if digits = [] ∨ length < 309 then false
  else if 309 < length then true
  else
    infinityBound * Nat.pow 10 (-exponent).toNat ≤ valueOf 10 digits * Nat.pow 10 exponent.toNat

/-- The digits behind the point, in what follows the integer part. -/
def fractionDigits? : List Char → Option (List Char)
  | [] => some []
  | _ :: rest => digits? Char.isDigit rest

/-- The exponent, in what follows the digits. -/
def exponent? : List Char → Option Int
  | [] => some 0
  | _ :: rest =>
    let (negative, rest) := splitSign rest
    (digits? Char.isDigit rest).map fun digits =>
      if negative then -(valueOf 10 digits : Int) else valueOf 10 digits

/-- Is the text a number with a fraction or an exponent that fits? Infinity and what is not a number
have words of their own. -/
def isFraction (s : List Char) : Bool :=
  let (negative, rest) := splitSign s
  let (mantissa, power) := rest.span fun c => c ≠ 'e' && c ≠ 'E'
  let (whole, point) := mantissa.span (· ≠ '.')
  if rest = "inf".toList ∨ rest = "nan".toList then true
  else if point = [] ∧ power = [] then false
  else
    match wholeDigits? whole, fractionDigits? point, exponent? power with
    | some whole, some fraction, some exponent =>
      negative || !roundsToInfinity (whole ++ fraction) (exponent - fraction.length)
    | _, _, _ => false

end DataSchema.Toml
