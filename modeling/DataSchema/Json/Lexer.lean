import DataSchema.Json.Value
import DataSchema.Text.Hexadecimal

/-!
# DataSchema.Json.Lexer

**The tokens of a JSON text.** A string is read in two steps. The first finds its end and resolves
the escapes one by one; an escape by number gives a 16-bit unit, which need not be a character. The
second joins pairs of surrogate units into characters. A unit that is left alone makes the string
`foreign`, but not ill formed.

Of a number only naturals are kept; any other is checked for its form and becomes `foreign`.
-/

namespace DataSchema.Json

/-- The tokens. -/
inductive Token
  /-- A bracket that opens an array. -/
  | openArray
  /-- A bracket that closes an array. -/
  | closeArray
  /-- A brace that opens an object. -/
  | openObject
  /-- A brace that closes an object. -/
  | closeObject
  /-- The colon after a name. -/
  | colon
  /-- The comma between two items. -/
  | comma
  /-- A string; without a value if it is no Unicode text. -/
  | string (value : Option String)
  /-- Any other value that is one token. -/
  | scalar (value : Json)
deriving Inhabited

/-! ### Strings -/

/-- One element of a string: a character, or a 16-bit unit that was escaped by its number. -/
inductive StringPiece
  /-- A character. -/
  | char (c : Char)
  /-- A unit. -/
  | unit (n : Nat)
deriving DecidableEq, Repr, Inhabited

/-- The character that a letter after a backslash stands for. -/
def escapedChar? (c : Char) : Option Char :=
  if c = '"' ∨ c = '\\' ∨ c = '/' then some c
  else if c = 'b' then some (Char.ofNat 8)
  else if c = 'f' then some (Char.ofNat 12)
  else if c = 'n' then some '\n'
  else if c = 'r' then some '\r'
  else if c = 't' then some '\t'
  else none

/-- The pieces of a string up to its closing quote, and what follows. -/
def stringPieces : List Char → Option (List StringPiece × List Char)
  | [] => none
  | '"' :: rest => some ([], rest)
  | '\\' :: 'u' :: a :: b :: c :: d :: rest => do
    let n ← Text.hexNumber? [a, b, c, d]
    let (pieces, after) ← stringPieces rest
    some (.unit n :: pieces, after)
  | '\\' :: c :: rest => do
    let c ← escapedChar? c
    let (pieces, after) ← stringPieces rest
    some (.char c :: pieces, after)
  | c :: rest =>
    if c.toNat < 32 ∨ c = '\\' then none
    else do
      let (pieces, after) ← stringPieces rest
      some (.char c :: pieces, after)

theorem length_of_stringPieces {s rest : List Char} {pieces : List StringPiece}
    (h : stringPieces s = some (pieces, rest)) : rest.length < s.length := by
  fun_induction stringPieces s generalizing pieces rest with
  | case1 => simp at h
  | case2 r =>
    simp only [Option.some.injEq, Prod.mk.injEq] at h
    simp [h.2]
  | case3 a b c d r ih =>
    simp only [Option.bind_eq_bind, Option.bind_eq_some_iff, Option.some.injEq,
      Prod.mk.injEq] at h
    obtain ⟨_, _, ⟨_, _⟩, hp, _, rfl⟩ := h
    have := ih hp
    simp only [List.length_cons]
    omega
  | case4 c r _ ih =>
    simp only [Option.bind_eq_bind, Option.bind_eq_some_iff, Option.some.injEq,
      Prod.mk.injEq] at h
    obtain ⟨_, _, ⟨_, _⟩, hp, _, rfl⟩ := h
    have := ih hp
    simp only [List.length_cons]
    omega
  | case5 => simp at h
  | case6 c r _ _ _ _ ih =>
    simp only [Option.bind_eq_bind, Option.bind_eq_some_iff, Option.some.injEq,
      Prod.mk.injEq] at h
    obtain ⟨⟨_, _⟩, hp, _, rfl⟩ := h
    have := ih hp
    simp only [List.length_cons]
    omega

/-- Is the unit the first of a surrogate pair? -/
def isHighSurrogate (n : Nat) : Bool := 0xD800 ≤ n && n < 0xDC00

/-- Is the unit the second of a surrogate pair? -/
def isLowSurrogate (n : Nat) : Bool := 0xDC00 ≤ n && n < 0xE000

/-- The character of a surrogate pair. -/
def surrogatePair (high low : Nat) : Char :=
  Char.ofNat (0x10000 + (high - 0xD800) * 0x400 + (low - 0xDC00))

/-- The text of the pieces, if no surrogate stands alone. -/
def joinPieces? : List StringPiece → Option (List Char)
  | [] => some []
  | .char c :: rest => (joinPieces? rest).map (c :: ·)
  | .unit n :: rest =>
    if isHighSurrogate n then
      match rest with
      | .unit m :: rest =>
        if isLowSurrogate m then (joinPieces? rest).map (surrogatePair n m :: ·) else none
      | _ => none
    else if isLowSurrogate n then none
    else (joinPieces? rest).map (Char.ofNat n :: ·)

/-! ### Numbers -/

/-- The value of a run of decimal digits. -/
def natOfDigits (digits : List Char) : Nat :=
  digits.foldl (fun n c => n * 10 + (c.toNat - 48)) 0

/-- The text after a minus sign, if there is one. -/
def skipMinus : List Char → List Char
  | '-' :: rest => rest
  | s => s

/-- The integer part at the front: a zero, or digits that start with another one. -/
def integerPart : List Char → Option (List Char × List Char)
  | [] => none
  | c :: rest =>
    if c = '0' then some ([c], rest)
    else if c.isDigit then some (c :: rest.takeWhile Char.isDigit, rest.dropWhile Char.isDigit)
    else none

/-- The text after a run of one or more digits. -/
def skipDigits : List Char → Option (List Char)
  | [] => none
  | c :: rest => if c.isDigit then some (rest.dropWhile Char.isDigit) else none

/-- The text after a fraction, if there is one. -/
def skipFraction : List Char → Option (List Char)
  | '.' :: rest => skipDigits rest
  | s => some s

/-- The text after a sign, if there is one. -/
def skipSign : List Char → List Char
  | '+' :: rest => rest
  | '-' :: rest => rest
  | s => s

/-- The text after an exponent, if there is one. -/
def skipExponent : List Char → Option (List Char)
  | 'e' :: rest => skipDigits (skipSign rest)
  | 'E' :: rest => skipDigits (skipSign rest)
  | s => some s

/-- The number at the front. It is a natural if its integer part is all of it. -/
def readNumber (s : List Char) : Option (Json × List Char) := do
  let (digits, afterInteger) ← integerPart (skipMinus s)
  let rest ← (skipFraction afterInteger).bind skipExponent
  if s = digits ++ rest then some (nat (natOfDigits digits), rest) else some (foreign, rest)

/-! ### Tokens -/

/-- The blanks that may stand between tokens. -/
def isJsonBlank (c : Char) : Bool := c == ' ' || c == '\n' || c == '\r' || c == '\t'

/-- The text after a word, if the word stands at the front. -/
def skipWord (word s : List Char) : Option (List Char) :=
  if word.isPrefixOf s then some (s.drop word.length) else none

/-- The token at the front of a text that does not start with a blank. -/
def readToken : List Char → Option (Token × List Char)
  | [] => none
  | '[' :: rest => some (.openArray, rest)
  | ']' :: rest => some (.closeArray, rest)
  | '\x7b' :: rest => some (.openObject, rest)
  | '\x7d' :: rest => some (.closeObject, rest)
  | ':' :: rest => some (.colon, rest)
  | ',' :: rest => some (.comma, rest)
  | '"' :: rest => do
    let (pieces, after) ← stringPieces rest
    some (.string ((joinPieces? pieces).map String.ofList), after)
  | 'n' :: rest => (skipWord "ull".toList rest).map (.scalar null, ·)
  | 't' :: rest => (skipWord "rue".toList rest).map (.scalar (bool true), ·)
  | 'f' :: rest => (skipWord "alse".toList rest).map (.scalar (bool false), ·)
  | s => (readNumber s).map fun (v, after) => (.scalar v, after)

theorem length_of_skipDigits {s rest : List Char} (h : skipDigits s = some rest) :
    rest.length < s.length := by
  cases s with
  | nil => simp [skipDigits] at h
  | cons c r =>
    simp only [skipDigits, Option.ite_none_right_eq_some, Option.some.injEq] at h
    obtain ⟨-, rfl⟩ := h
    exact Nat.lt_succ_of_le (List.dropWhile_sublist _).length_le

theorem length_skipSign (s : List Char) : (skipSign s).length ≤ s.length := by
  unfold skipSign
  split <;> simp

theorem length_of_skipFraction {s rest : List Char} (h : skipFraction s = some rest) :
    rest.length ≤ s.length := by
  unfold skipFraction at h
  split at h
  · exact Nat.le_succ_of_le (Nat.le_of_lt (length_of_skipDigits h))
  · cases h
    exact Nat.le_refl _

theorem length_of_skipExponent {s rest : List Char} (h : skipExponent s = some rest) :
    rest.length ≤ s.length := by
  unfold skipExponent at h
  split at h
  · exact Nat.le_succ_of_le (Nat.le_of_lt (Nat.lt_of_lt_of_le (length_of_skipDigits h)
      (length_skipSign _)))
  · exact Nat.le_succ_of_le (Nat.le_of_lt (Nat.lt_of_lt_of_le (length_of_skipDigits h)
      (length_skipSign _)))
  · cases h
    exact Nat.le_refl _

theorem length_skipMinus (s : List Char) : (skipMinus s).length ≤ s.length := by
  unfold skipMinus
  split <;> simp

theorem length_of_integerPart {s digits rest : List Char}
    (h : integerPart s = some (digits, rest)) : rest.length < s.length := by
  cases s with
  | nil => simp [integerPart] at h
  | cons c r =>
    simp only [integerPart] at h
    split at h
    · cases h
      exact Nat.lt_succ_self _
    · simp only [Option.ite_none_right_eq_some, Option.some.injEq, Prod.mk.injEq] at h
      obtain ⟨-, -, rfl⟩ := h
      exact Nat.lt_succ_of_le (List.dropWhile_sublist _).length_le

theorem length_of_readNumber {s rest : List Char} {v : Json}
    (h : readNumber s = some (v, rest)) : rest.length < s.length := by
  obtain ⟨⟨digits, after⟩, hi, h⟩ := Option.bind_eq_some_iff.1 h
  obtain ⟨r, hr, h⟩ := Option.bind_eq_some_iff.1 h
  obtain ⟨f, hf, he⟩ := Option.bind_eq_some_iff.1 hr
  have h1 := length_of_integerPart hi
  have h2 := length_of_skipFraction hf
  have h3 := length_of_skipExponent he
  have h4 := length_skipMinus s
  have : rest = r := by
    split at h <;> cases h <;> rfl
  subst this
  omega

theorem length_of_skipWord {word s rest : List Char} (h : skipWord word s = some rest) :
    rest.length ≤ s.length := by
  simp only [skipWord, Option.ite_none_right_eq_some, Option.some.injEq] at h
  rw [← h.2, List.length_drop]
  omega

/-- Reading a token makes the text shorter. -/
theorem length_of_readToken {s rest : List Char} {t : Token}
    (h : readToken s = some (t, rest)) : rest.length < s.length := by
  unfold readToken at h
  split at h
  case h_1 => simp at h
  case h_8 =>
    obtain ⟨⟨pieces, after⟩, hp, he⟩ := Option.bind_eq_some_iff.1 h
    cases he
    exact Nat.lt_succ_of_lt (length_of_stringPieces hp)
  case h_9 | h_10 | h_11 =>
    obtain ⟨r, hr, he⟩ := Option.map_eq_some_iff.1 h
    cases he
    exact Nat.lt_succ_of_le (length_of_skipWord hr)
  case h_12 =>
    obtain ⟨⟨v, r⟩, hr, he⟩ := Option.map_eq_some_iff.1 h
    cases he
    exact length_of_readNumber hr
  all_goals
    cases h
    exact Nat.lt_succ_self _

/-- The tokens of a text, if it is made of tokens and blanks. -/
def tokens? (s : List Char) : Option (List Token) :=
  match s with
  | [] => some []
  | c :: rest =>
    if isJsonBlank c then tokens? rest
    else
      match _h : readToken (c :: rest) with
      | some (token, after) => (tokens? after).map (token :: ·)
      | none => none
termination_by s.length
decreasing_by
  · exact Nat.lt_succ_self _
  · exact length_of_readToken _h

end DataSchema.Json
