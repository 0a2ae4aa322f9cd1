import DataSchema.Text.Hexadecimal
import DataSchema.Toml.Moment

/-!
# DataSchema.Toml.Lexer

**The tokens of a settings file.** Comments and blanks are dropped here, line breaks are kept: they
end statements. A string is read in two steps. The first finds where it ends and turns every line
break inside it into a single character; the second resolves the escapes. An escape that is only
blanks up to the end of its line takes all blanks and line breaks that follow.

What is not quoted is a word. A word is kept whole, because its dots separate the parts of a key but
belong to a number; where it stands decides how it is read.
-/

namespace DataSchema.Toml

/-- The tokens. -/
inductive Token
  /-- The end of a line. -/
  | lineBreak
  /-- A run of characters without quotes: a piece of a key, or a value. -/
  | word (w : String)
  /-- A string on one line, which can be a key or a value. -/
  | text (value : String)
  /-- A string in triple quotes, which can only be a value. -/
  | block (value : String)
  /-- The sign between a key and its value. -/
  | equals
  /-- The sign between items. -/
  | comma
  /-- An opening bracket. -/
  | openBracket
  /-- A closing bracket. -/
  | closeBracket
  /-- An opening brace. -/
  | openBrace
  /-- A closing brace. -/
  | closeBrace
deriving DecidableEq, Repr, Inhabited

/-! ### Characters -/

/-- A blank within a line. -/
def isLineBlank (c : Char) : Bool := c == ' ' || c == '\t'

/-- A character that can stand in a comment or in a string on one line: any but the controls. -/
def isTextChar (c : Char) : Bool := c == '\t' || (32 ≤ c.toNat && c.toNat != 127)

/-- A character of a bare key. -/
def isBareChar (c : Char) : Bool := c.isAlphanum || c == '-' || c == '_'

/-- A character of a word: of a key with dots, of a number or of a moment. -/
def isWordChar (c : Char) : Bool := isBareChar c || c == '.' || c == '+' || c == ':'

/-- The text after the rest of a comment, from the end of its line on. -/
def skipComment : List Char → Option (List Char)
  | [] => some []
  | '\n' :: rest => some ('\n' :: rest)
  | '\r' :: '\n' :: rest => some ('\n' :: rest)
  | c :: rest => if isTextChar c then skipComment rest else none

/-! ### The ends of strings -/

/-- The inside of a string on one line, as it is written, and what follows the closing quote. -/
def lineBody (quote : Char) (escapes : Bool) : List Char → Option (List Char × List Char)
  | [] => none
  | c :: rest =>
    if c = quote then some ([], rest)
    else if !isTextChar c then none
    else if escapes ∧ c = '\\' then
      match rest with
      | [] => none
      | d :: after =>
        if d = quote ∨ d = '\\' then
          (lineBody quote escapes after).map fun (s, left) => (c :: d :: s, left)
        else (lineBody quote escapes (d :: after)).map fun (s, left) => (c :: s, left)
    else (lineBody quote escapes rest).map fun (s, left) => (c :: s, left)

/-- The inside of a string in triple quotes, as it is written but with plain line breaks, and what
follows the closing quotes. Up to two quotes right before the closing ones belong to the string. -/
def blockBody (quote : Char) (escapes : Bool) : List Char → Option (List Char × List Char)
  | [] => none
  | c :: rest =>
    let run := ((c :: rest).takeWhile (· = quote)).length
    if 3 ≤ run then
      some (List.replicate (min run 5 - 3) quote, (c :: rest).drop (min run 5))
    else if c = '\r' then
      match rest with
      | '\n' :: after => (blockBody quote escapes after).map fun (s, left) => ('\n' :: s, left)
      | _ => none
    else if !(isTextChar c || c == '\n') then none
    else if escapes ∧ c = '\\' then
      match rest with
      | [] => none
      | d :: after =>
        if d = quote ∨ d = '\\' then
          (blockBody quote escapes after).map fun (s, left) => (c :: d :: s, left)
        else (blockBody quote escapes (d :: after)).map fun (s, left) => (c :: s, left)
    else (blockBody quote escapes rest).map fun (s, left) => (c :: s, left)

/-- The text after one line break, if it starts with one. -/
def skipLineBreak : List Char → List Char
  | '\n' :: rest => rest
  | '\r' :: '\n' :: rest => rest
  | s => s

/-! ### Escapes -/

/-- The character with a number, if there is one. -/
def scalar? (n : Nat) : Option Char := if n.isValidChar then some (Char.ofNat n) else none

/-- The character that a letter after a backslash stands for. -/
def escapedChar? (c : Char) : Option Char :=
  if c = '"' ∨ c = '\\' then some c
  else if c = 'b' then some (Char.ofNat 8)
  else if c = 't' then some '\t'
  else if c = 'n' then some '\n'
  else if c = 'f' then some (Char.ofNat 12)
  else if c = 'r' then some '\r'
  else none

/-- Is nothing left on the line but blanks, with another line after it? -/
def endsLine (s : List Char) : Bool := (s.dropWhile isLineBlank).head? == some '\n'

/-- The text that an inside with escapes stands for. While `folding`, blanks and line breaks are
dropped. -/
def unescape? (folding : Bool) : List Char → Option (List Char)
  | [] => some []
  | c :: rest =>
    if folding && (isLineBlank c || c == '\n') then unescape? true rest
    else if c = '\\' then
      match rest with
      | [] => none
      | 'u' :: a :: b :: c :: d :: after => do
        let n ← Text.hexNumber? [a, b, c, d]
        let char ← scalar? n
        (unescape? false after).map (char :: ·)
      | 'U' :: a :: b :: c :: d :: e :: f :: g :: h :: after => do
        let n ← Text.hexNumber? [a, b, c, d, e, f, g, h]
        let char ← scalar? n
        (unescape? false after).map (char :: ·)
      | d :: after =>
        if endsLine (d :: after) then unescape? true after
        else do
          let char ← escapedChar? d
          (unescape? false after).map (char :: ·)
    else (unescape? false rest).map (c :: ·)

/-! ### Tokens -/

/-- The text of an inside, with escapes or without. -/
def resolve? (escapes : Bool) (inside : List Char) : Option String :=
  (if escapes then unescape? false inside else some inside).map String.ofList

/-- The string at the front of a text that starts with a quote. -/
def readString (quote : Char) (escapes : Bool) (s : List Char) : Option (Token × List Char) :=
  if [quote, quote, quote].isPrefixOf s then do
    let (inside, after) ← blockBody quote escapes (skipLineBreak (s.drop 3))
    (resolve? escapes inside).map fun value => (.block value, after)
  else do
    let (inside, after) ← lineBody quote escapes (s.drop 1)
    (resolve? escapes inside).map fun value => (.text value, after)

/-- The word at the front of a text. A date goes on after one space if a time of day follows. -/
def readWord (s : List Char) : List Char × List Char :=
  let (word, rest) := s.span isWordChar
  match rest with
  | ' ' :: c :: after =>
    if isDate word && c.isDigit then
      (word ++ ' ' :: (c :: after).takeWhile isWordChar, (c :: after).dropWhile isWordChar)
    else (word, rest)
  | _ => (word, rest)

/-- The token at the front of a text that starts with neither a blank nor a comment. -/
def readToken : List Char → Option (Token × List Char)
  | [] => none
  | '\n' :: rest => some (.lineBreak, rest)
  | '\r' :: '\n' :: rest => some (.lineBreak, rest)
  | '=' :: rest => some (.equals, rest)
  | ',' :: rest => some (.comma, rest)
  | '[' :: rest => some (.openBracket, rest)
  | ']' :: rest => some (.closeBracket, rest)
  | '\x7b' :: rest => some (.openBrace, rest)
  | '\x7d' :: rest => some (.closeBrace, rest)
  | '"' :: rest => readString '"' true ('"' :: rest)
  | '\x27' :: rest => readString '\x27' false ('\x27' :: rest)
  | s =>
    match readWord s with
    | ([], _) => none
    | (word, rest) => some (.word (String.ofList word), rest)

/-- The tokens of a text. The bound is on their number; the length of the text always suffices,
since every step takes at least one character. -/
def tokensWithin? : (bound : Nat) → List Char → Option (List Token)
  | _, [] => some []
  | 0, _ :: _ => none
  | bound + 1, c :: rest =>
    if isLineBlank c then tokensWithin? bound rest
    else if c = '#' then (skipComment rest).bind (tokensWithin? bound)
    else do
      let (token, after) ← readToken (c :: rest)
      (tokensWithin? bound after).map (token :: ·)

/-- The tokens of a file. A byte order mark at its front is passed over. -/
def tokens? (text : String) : Option (List Token) :=
  let s := match text.toList with
    | '\uFEFF' :: rest => rest
    | s => s
  tokensWithin? s.length s

end DataSchema.Toml
