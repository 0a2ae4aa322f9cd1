import DataSchema.Text.Blank

/-!
# DataSchema.Source.Header

**Header lines**, which declare a model or an enumeration. A line is a header when its first word is
exactly one of the two keywords and its second word, less the braces at its end, is not empty.
Nothing after the second word matters, so `model User {`, `model User{` and a bare `model User` all
declare `User`. The opening brace decides only whether the header also opens a block.
-/

namespace DataSchema.Source

/-- What a block declares. -/
inductive BlockKind
  /-- A model: a record with fields. -/
  | model
  /-- An enumeration: a list of values. -/
  | enum
deriving DecidableEq, Repr, Inhabited

namespace BlockKind

/-- The word that opens a header of this kind. -/
def keyword : BlockKind → String
  | model => "model"
  | enum => "enum"

/-- The kind that a word opens. -/
def ofKeyword? (word : String) : Option BlockKind :=
  if word = model.keyword then some model
  else if word = enum.keyword then some enum
  else none

@[simp] theorem ofKeyword?_keyword (kind : BlockKind) : ofKeyword? kind.keyword = some kind := by
  cases kind <;> decide

end BlockKind

/-- The opening or the closing brace of a block. -/
def isBrace (c : Char) : Bool := c == '\x7b' || c == '\x7d'

/-- What a header line declares. -/
structure Header where
  /-- The kind of thing declared. -/
  kind : BlockKind
  /-- Its name. -/
  name : String
deriving DecidableEq, Repr, Inhabited

/-- Read a header line. -/
def Header.parse? (line : String) : Option Header :=
  match Text.words line.toList with
  | keyword :: second :: _ => do
    let kind ← BlockKind.ofKeyword? (String.ofList keyword)
    let name := Text.dropRightWhile isBrace second
    if name = [] then none else some ⟨kind, String.ofList name⟩
  | _ => none

end DataSchema.Source
