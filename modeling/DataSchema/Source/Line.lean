import DataSchema.Text.Blank

/-!
# DataSchema.Source.Line

**Physical lines and their normal form.** A schema is read line by line. Before anything looks at a
line it is *normalized*: a line with a comment mark anywhere becomes empty, and any other line
becomes its words with single spaces between them.

The comment rule is coarse on purpose. It takes the whole line, also what stands before the mark,
and it does not ask whether the mark is inside a string. What it buys is that no later stage has to
know about comments.
-/

namespace DataSchema.Source

/-- The physical lines of a text. A line break ends a line, so the text after the last break counts
only if there is some. A carriage return before a break is left in the line, where it is a blank. -/
def physicalLines (s : List Char) : List (List Char) :=
  let pieces := s.splitOn '\n'
  if pieces.getLast? = some [] then pieces.dropLast else pieces

/-- Does the line hold two slashes in a row? -/
def hasCommentMark : List Char → Bool
  | '/' :: '/' :: _ => true
  | _ :: rest => hasCommentMark rest
  | [] => false

/-- The normal form of a line: nothing if it holds a comment mark, else its words with single
spaces between them. -/
def normalize (line : List Char) : List Char :=
  if hasCommentMark line then [] else Text.collapse line

/-- The normal form of a line. -/
def normalizeLine (line : String) : String := String.ofList (normalize line.toList)

/-- The normalized lines of a text. -/
def normalizedLines (source : String) : List String :=
  (physicalLines source.toList).map (fun line => String.ofList (normalize line))

end DataSchema.Source
