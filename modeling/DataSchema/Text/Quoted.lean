import DataSchema.Text.Table.GraphemeBreak
import DataSchema.Text.Table.Unprintable

/-!
# DataSchema.Text.Quoted

**A text in double quotes, for people to read.** Quotes and backslashes are escaped, the common
controls have short forms, and a character that would not show — because it is not printable, or
because it would melt into the character before it — is written by its number.
-/

namespace DataSchema.Text

open Table (inRanges)

/-- The characters that extend the one before them and yet show on their own: the halfwidth voicing
marks and the modifiers of pictographs. -/
def spacingRanges : List (Nat × Nat) := [(0xFF9E, 0xFF9F), (0x1F3FB, 0x1F3FF)]

/-- Does the character melt into the one before it? -/
def isCombining (c : Char) : Bool :=
  inRanges Table.extendRanges c.toNat && !inRanges spacingRanges c.toNat

/-- Does the character show as itself? -/
def isPrintable (c : Char) : Bool := !inRanges Table.unprintableRanges c.toNat

/-- The number of a character in braces, in lower-case hexadecimal digits. -/
def numberEscape (c : Char) : List Char :=
  "\\u\x7b".toList ++ Nat.toDigits 16 c.toNat ++ "\x7d".toList

/-- One character inside the quotes. -/
def quotedChar (c : Char) : List Char :=
  match c with
  | '\x00' => ['\\', '0']
  | '\t' => ['\\', 't']
  | '\r' => ['\\', 'r']
  | '\n' => ['\\', 'n']
  | '\\' => ['\\', '\\']
  | '"' => ['\\', '"']
  | c => if isCombining c || !isPrintable c then numberEscape c else [c]

/-- A text in double quotes. -/
def quoted (s : String) : String :=
  String.ofList ('"' :: (s.toList.flatMap quotedChar ++ ['"']))

/-- A list of texts in quotes, in brackets and with commas between them. -/
def quotedList (items : List String) : String :=
  "[" ++ ", ".intercalate (items.map quoted) ++ "]"

end DataSchema.Text
