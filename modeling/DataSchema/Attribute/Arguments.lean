import DataSchema.Text.Blank
import DataSchema.Text.Quoting

/-!
# DataSchema.Attribute.Arguments

**Cutting an argument list at its commas.** A comma separates two arguments only outside every
bracket and outside every string. The three kinds of bracket count alike: the cut needs to know how
deep it is, not which bracket it is in, and a closing bracket too many is ignored.

What the cut sees is a `Cursor`, moved along one character at a time.
-/

namespace DataSchema.Attribute

open Text (Quoting)

/-- The state of the cut between two characters. -/
structure Cursor where
  /-- How many brackets are open. -/
  depth : Nat
  /-- Whether a string is open. -/
  quoting : Quoting
deriving DecidableEq, Repr, Inhabited

namespace Cursor

/-- Outside every bracket and every string. -/
def start : Cursor := ⟨0, .plain⟩

/-- One of the three opening brackets. -/
def isOpening (c : Char) : Bool := c == '(' || c == '[' || c == '\x7b'

/-- One of the three closing brackets. -/
def isClosing (c : Char) : Bool := c == ')' || c == ']' || c == '\x7d'

/-- The state after one more character. Brackets count outside strings only. -/
def next (k : Cursor) (c : Char) : Cursor where
  depth :=
    if k.quoting ≠ .plain then k.depth
    else if isOpening c then k.depth + 1
    else if isClosing c then k.depth - 1
    else k.depth
  quoting := k.quoting.next c

/-- Does the character end an argument here? -/
def separates (k : Cursor) (c : Char) : Bool := k == start && c == ','

end Cursor

/-- The pieces of a text between the commas that separate, as they are written. -/
def pieces (k : Cursor) : List Char → List (List Char)
  | [] => [[]]
  | c :: rest =>
    if k.separates c then [] :: pieces (k.next c) rest
    else (pieces (k.next c) rest).modifyHead (c :: ·)

/-- The arguments in an argument list: the pieces, trimmed, without the empty ones. -/
def splitArguments (s : List Char) : List (List Char) :=
  ((pieces .start s).map Text.trim).filter (· ≠ [])

/-- What stands between the quotes of a text that begins with one quote and ends with another. -/
def unquote? (s : List Char) : Option (List Char) :=
  match Text.trim s with
  | '"' :: rest => if rest.getLast? = some '"' then some rest.dropLast else none
  | _ => none

/-- The value of an argument `name: "…"`. -/
def namedValue? (argument : List Char) : Option (List Char) :=
  match argument.dropWhile (· ≠ ':') with
  | ':' :: value =>
    if Text.trim (argument.takeWhile (· ≠ ':')) = "name".toList then unquote? value else none
  | _ => none

/-- The name among the arguments: the first argument if it is a string, else the first argument
`name: "…"`. -/
def nameArgument? (s : List Char) : Option (List Char) :=
  let arguments := splitArguments s
  match arguments.head?.bind unquote? with
  | some name => some name
  | none => arguments.findSome? namedValue?

end DataSchema.Attribute
