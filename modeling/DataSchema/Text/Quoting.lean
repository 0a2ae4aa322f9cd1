/-!
# DataSchema.Text.Quoting

**Inside a string or outside it**, followed one character at a time. A string literal runs from one
double quote to the next; between them a backslash takes the character after it, whatever it is, so
an escaped quote does not end the string.

Two readers need to know where they stand: the one that finds the end of a parenthesized group, and
the one that cuts an argument list at its commas. Both follow the same three states.
-/

namespace DataSchema.Text

/-- Where a reader stands with respect to string literals. -/
inductive Quoting
  /-- Outside every string. -/
  | plain
  /-- Inside a string. -/
  | quoted
  /-- Inside a string, right after a backslash. -/
  | escaped
deriving DecidableEq, Repr, Inhabited

/-- The state after one more character. -/
def Quoting.next : Quoting → Char → Quoting
  | plain, c => if c = '"' then quoted else plain
  | quoted, c => if c = '\\' then escaped else if c = '"' then plain else quoted
  | escaped, _ => quoted

@[simp] theorem Quoting.next_escaped (c : Char) : Quoting.escaped.next c = .quoted := rfl

end DataSchema.Text
