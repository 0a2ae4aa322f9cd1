import DataSchema.Json.Value
import DataSchema.Text.Hexadecimal

/-!
# DataSchema.Json.Printer

**Writing JSON values.** Two layouts differ only in the blanks between tokens: the compact one has
none, the indented one puts every item and every member on a line of its own. Empty arrays and
objects are written without a break in both.

In a string, the quote, the backslash and the control characters below the space are escaped, and
nothing else.
-/

namespace DataSchema.Json

/-! ### Scalars -/

/-- One character inside a string. -/
def escapeChar (c : Char) : List Char :=
  if c = '"' then ['\\', '"']
  else if c = '\\' then ['\\', '\\']
  else if c = '\n' then ['\\', 'n']
  else if c = '\r' then ['\\', 'r']
  else if c = '\t' then ['\\', 't']
  else if c.toNat = 8 then ['\\', 'b']
  else if c.toNat = 12 then ['\\', 'f']
  else if c.toNat < 32 then
    ['\\', 'u', '0', '0', Text.hexDigit (c.toNat / 16), Text.hexDigit (c.toNat % 16)]
  else [c]

/-- A string with its quotes. -/
def renderString (s : String) : List Char := '"' :: (s.toList.flatMap escapeChar ++ ['"'])

/-- The decimal digits of a number, the last one first. -/
def digitsReversed (n : Nat) : List Char :=
  if n < 10 then [Char.ofNat (n + 48)]
  else Char.ofNat (n % 10 + 48) :: digitsReversed (n / 10)

/-- A number in decimal digits. -/
def renderNat (n : Nat) : List Char := (digitsReversed n).reverse

/-! ### Values -/

/-- The blanks between tokens. -/
structure Layout where
  /-- What stands before an item or a closing bracket that is `depth` levels deep. -/
  lineBreak : (depth : Nat) → List Char
  /-- What stands between a name and its value. -/
  colon : List Char

/-- No blanks at all. -/
def Layout.compact : Layout := ⟨fun _ => [], [':']⟩

/-- Two spaces for each level, and one after a colon. -/
def Layout.indented : Layout := ⟨fun depth => '\n' :: List.replicate (2 * depth) ' ', [':', ' ']⟩

/-- Items between brackets, each on a line one level deeper. -/
def enclose (l : Layout) (depth : Nat) (opening closing : Char) (items : List (List Char)) :
    List Char :=
  if items = [] then [opening, closing]
  else
    opening :: ([','].intercalate (items.map (l.lineBreak (depth + 1) ++ ·)) ++
      l.lineBreak depth ++ [closing])

mutual

/-- A value that stands `depth` levels deep. -/
def renderWith (l : Layout) (depth : Nat) : Json → List Char
  | null => "null".toList
  | bool true => "true".toList
  | bool false => "false".toList
  | nat n => renderNat n
  | string s => renderString s
  | array items => enclose l depth '[' ']' (renderItems l (depth + 1) items)
  | object members => enclose l depth '\x7b' '\x7d' (renderMembers l (depth + 1) members)
  | foreign => "null".toList

/-- The items of an array, each on its own. -/
def renderItems (l : Layout) (depth : Nat) : List Json → List (List Char)
  | [] => []
  | v :: rest => renderWith l depth v :: renderItems l depth rest

/-- The members of an object, each on its own. -/
def renderMembers (l : Layout) (depth : Nat) : List (String × Json) → List (List Char)
  | [] => []
  | (name, v) :: rest =>
    (renderString name ++ l.colon ++ renderWith l depth v) :: renderMembers l depth rest

end

/-- A value without blanks. -/
def compact (v : Json) : String := String.ofList (renderWith .compact 0 v)

/-- A value on several lines. -/
def indented (v : Json) : String := String.ofList (renderWith .indented 0 v)

end DataSchema.Json
