/-!
# DataSchema.Text.Blank

**White space, and the three things done with it**: trimming a text, cutting it into words, and
writing the words back with single spaces between them.

A character is blank when it has the Unicode property `White_Space`. The property holds of 25
characters and is closed: no later version of the standard adds to it. It is wider than ASCII (a
no-break space and an ideographic space are blank) and narrower than "invisible" (a zero-width space
is not).
-/

namespace DataSchema.Text

/-- The characters with the property `White_Space`. -/
def isBlank (c : Char) : Bool :=
  let n := c.toNat
  (9 ≤ n && n ≤ 13) || n == 0x20 || n == 0x85 || n == 0xA0 || n == 0x1680 ||
    (0x2000 ≤ n && n ≤ 0x200A) || n == 0x2028 || n == 0x2029 || n == 0x202F || n == 0x205F ||
    n == 0x3000

/-- What core calls white space is blank. -/
theorem isBlank_of_isWhitespace {c : Char} (h : c.isWhitespace = true) : isBlank c = true := by
  simp only [Char.isWhitespace, Bool.or_eq_true, decide_eq_true_eq] at h
  rcases h with ((rfl | rfl) | rfl) | rfl <;> decide

/-- A text without the longest run at its end whose characters all satisfy `p`. -/
def dropRightWhile (p : Char → Bool) (s : List Char) : List Char :=
  (s.reverse.dropWhile p).reverse

/-- A text without the blanks at its two ends. -/
def trim (s : List Char) : List Char := dropRightWhile isBlank (s.dropWhile isBlank)

/-- The maximal runs of characters that are not blank, in order. -/
def words (s : List Char) : List (List Char) := (s.splitOnP isBlank).filter (· ≠ [])

/-- The words of a text, one space between each two. -/
def collapse (s : List Char) : List Char := [' '].intercalate (words s)

/-- Is there a blank in the text? -/
def hasBlank (s : List Char) : Bool := s.any isBlank

/-- A text without the blanks at its two ends. -/
def trimmed (s : String) : String := String.ofList (trim s.toList)

end DataSchema.Text
