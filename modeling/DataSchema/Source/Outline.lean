import DataSchema.Source.Line
import DataSchema.Source.LineRange
import DataSchema.Source.Header

/-!
# DataSchema.Source.Outline

**The outline of a schema**: its normalized lines and the blocks among them.

A header line that holds an opening brace opens a block. The block ends on the spot if a closing
brace follows the first opening brace in the header itself; otherwise it ends at the first later
line that is exactly a closing brace, and where there is none it runs to the end of the text. Blocks
do not nest: a header inside another block's body opens a block of its own, which shares its closing
line with the outer one.
-/

namespace DataSchema.Source

/-- A block: where it is declared, and the lines of its body. -/
structure Block where
  /-- What the block declares. -/
  kind : BlockKind
  /-- The declared name. -/
  name : String
  /-- The number of the header line. -/
  header : Nat
  /-- The lines between the header and the closing line. -/
  body : LineRange
deriving DecidableEq, Repr, Inhabited

/-- The line that closes a block and holds nothing else. -/
def closingLine : String := "\x7d"

/-- Does the line hold an opening brace? -/
def opensBlock (line : String) : Bool := line.toList.contains '\x7b'

/-- Is there a closing brace after the line's first opening brace? -/
def closesItself (line : String) : Bool :=
  (line.toList.dropWhile (· ≠ '\x7b')).contains '\x7d'

/-- The number of the first closing line at or after line `start`, or the number of lines. -/
def closingIndex (lines : List String) (start : Nat) : Nat :=
  start + (lines.drop start).findIdx (· = closingLine)

/-- The block that the line numbered `index` opens, if it is a header with an opening brace. -/
def blockAt? (lines : List String) (line : String) (index : Nat) : Option Block := do
  let header ← Header.parse? line
  guard (opensBlock line)
  let start := index + 1
  let stop := if closesItself line then start else closingIndex lines start
  some ⟨header.kind, header.name, index, ⟨start, stop⟩⟩

/-- The blocks among the lines, in the order of their headers. -/
def locateBlocks (lines : List String) : List Block :=
  lines.zipIdx.filterMap (fun (line, index) => blockAt? lines line index)

/-- Normalized lines, with the blocks found among them. -/
structure Outline where
  /-- One normalized line for each physical line. -/
  lines : List String
  /-- The blocks, in the order of their headers. -/
  blocks : List Block
deriving DecidableEq, Repr, Inhabited

namespace Outline

/-- The outline of lines that are in normal form. -/
def ofLines (lines : List String) : Outline := ⟨lines, locateBlocks lines⟩

/-- The outline of a schema text. -/
def ofText (source : String) : Outline := ofLines (normalizedLines source)

/-- The line with a number. -/
def line? (o : Outline) (index : Nat) : Option String := o.lines[index]?

/-- The lines of a range that exist and are not empty, each with its number. -/
def bodyLines (o : Outline) (range : LineRange) : List (Nat × String) :=
  ((o.lines.zipIdx.take range.stop).drop range.start).filterMap
    (fun (line, index) => if line = "" then none else some (index, line))

/-- The first block of a kind and a name. -/
def findBlock? (o : Outline) (kind : BlockKind) (name : String) : Option Block :=
  o.blocks.find? (fun block => block.kind = kind ∧ block.name = name)

/-- The first words of a range's lines that are not empty, less those that start with `@`. In the
body of an enumeration these are its values. -/
def firstWords (o : Outline) (range : LineRange) : List String :=
  (o.bodyLines range).filterMap fun (_, line) =>
    match (Text.words line.toList).head? with
    | some word => if word.head? = some '@' then none else some (String.ofList word)
    | none => none

end Outline

end DataSchema.Source
