import DataSchema.Text.Table.GraphemeBreak

/-!
# DataSchema.Text.Grapheme

**Cutting a text into user-perceived characters** — extended grapheme clusters. Whether a text may
be cut between two characters depends on their classes and, in three cases, on what stands further
to the left: flags are pairs of indicators, a pictograph may be joined to one further left, and so
may a consonant of a script with linkers.

What of the left context matters is carried along in a `Context`, so one pass from left to right
finds all cuts.
-/

namespace DataSchema.Text.Grapheme

open Table (inRanges)

/-- The classes of characters that the rules speak of. -/
inductive BreakClass
  /-- A carriage return. -/
  | carriageReturn
  /-- A line feed. -/
  | lineFeed
  /-- Any other control character. -/
  | control
  /-- Extends the character before it. -/
  | extend
  /-- The zero-width joiner. -/
  | joiner
  /-- Half of a flag. -/
  | regional
  /-- Goes with the character after it. -/
  | prepend
  /-- A mark that takes space. -/
  | spacingMark
  /-- A leading consonant of a Hangul syllable. -/
  | hangulL
  /-- A vowel of a Hangul syllable. -/
  | hangulV
  /-- A trailing consonant of a Hangul syllable. -/
  | hangulT
  /-- A Hangul syllable without a trailing consonant. -/
  | hangulLV
  /-- A Hangul syllable with a trailing consonant. -/
  | hangulLVT
  /-- Anything else. -/
  | other
deriving DecidableEq, Repr, Inhabited

/-- The Hangul class of a code point, if it has one. -/
def hangulClass? (n : Nat) : Option BreakClass :=
  if 0xAC00 ≤ n ∧ n ≤ 0xD7A3 then
    some (if (n - 0xAC00) % 28 = 0 then .hangulLV else .hangulLVT)
  else if (0x1100 ≤ n ∧ n ≤ 0x115F) ∨ (0xA960 ≤ n ∧ n ≤ 0xA97C) then some .hangulL
  else if (0x1160 ≤ n ∧ n ≤ 0x11A7) ∨ (0xD7B0 ≤ n ∧ n ≤ 0xD7C6) ∨ n = 0x16D63 ∨
      (0x16D67 ≤ n ∧ n ≤ 0x16D6A) then some .hangulV
  else if (0x11A8 ≤ n ∧ n ≤ 0x11FF) ∨ (0xD7CB ≤ n ∧ n ≤ 0xD7FB) then some .hangulT
  else none

/-- The class of a character. -/
def breakClass (c : Char) : BreakClass :=
  let n := c.toNat
  if n = 0x0D then .carriageReturn
  else if n = 0x0A then .lineFeed
  else if inRanges Table.controlRanges n then .control
  else if n < 0x80 then .other
  else if n = 0x200D then .joiner
  else if 0x1F1E6 ≤ n ∧ n ≤ 0x1F1FF then .regional
  else if inRanges Table.extendRanges n then .extend
  else if inRanges Table.prependRanges n then .prepend
  else if inRanges Table.spacingMarkRanges n then .spacingMark
  else (hangulClass? n).getD .other

/-- Is the character a pictograph? -/
def isPictograph (c : Char) : Bool := inRanges Table.pictographRanges c.toNat

/-- Is the character a consonant that a linker can join? -/
def isConjunctConsonant (c : Char) : Bool := inRanges Table.conjunctConsonantRanges c.toNat

/-- Is the character a linker? -/
def isConjunctLinker (c : Char) : Bool := Table.conjunctLinkers.contains c.toNat

/-- Can the character stand between a consonant, a linker and the next consonant? -/
def isConjunctExtend (c : Char) : Bool :=
  (breakClass c == .extend || breakClass c == .joiner) && !isConjunctLinker c && c.toNat != 0x200C

/-- What of the text to the left bears on the next cut. -/
structure Context where
  /-- The class of the last character. -/
  last : BreakClass
  /-- An odd number of flag halves ends the text so far. -/
  oddRegional : Bool
  /-- A pictograph and the characters that extend it end the text so far. -/
  pictograph : Bool
  /-- The last character is a joiner that such a pictograph stands before. -/
  joinedPictograph : Bool
  /-- A consonant, and what may stand between it and the next one, ends the text so far. -/
  consonant : Bool
  /-- A linker is among what stands after that consonant. -/
  linked : Bool
deriving Repr, Inhabited

/-- The context of a text of one character. -/
def Context.first (c : Char) : Context where
  last := breakClass c
  oddRegional := breakClass c == .regional
  pictograph := isPictograph c
  joinedPictograph := false
  consonant := isConjunctConsonant c
  linked := false

/-- The context after one more character. -/
def Context.next (k : Context) (c : Char) : Context where
  last := breakClass c
  oddRegional := breakClass c == .regional && !k.oddRegional
  pictograph := isPictograph c || (k.pictograph && breakClass c == .extend)
  joinedPictograph := k.pictograph && breakClass c == .joiner
  consonant :=
    isConjunctConsonant c || (k.consonant && (isConjunctLinker c || isConjunctExtend c))
  linked :=
    !isConjunctConsonant c && k.consonant &&
      (isConjunctLinker c || (k.linked && isConjunctExtend c))

/-- Do two Hangul characters belong to one syllable? -/
def joinsHangul : BreakClass → BreakClass → Bool
  | .hangulL, next =>
    next == .hangulL || next == .hangulV || next == .hangulLV || next == .hangulLVT
  | .hangulLV, next => next == .hangulV || next == .hangulT
  | .hangulV, next => next == .hangulV || next == .hangulT
  | .hangulLVT, next => next == .hangulT
  | .hangulT, next => next == .hangulT
  | _, _ => false

/-- Is the class a control, a line feed or a carriage return? -/
def BreakClass.isControl (b : BreakClass) : Bool :=
  b == .control || b == .lineFeed || b == .carriageReturn

/-- May the text not be cut before the next character? -/
def joins (k : Context) (c : Char) : Bool :=
  let next := breakClass c
  -- A line break of two characters is one cluster; every other control stands alone.
  if k.last == .carriageReturn && next == .lineFeed then true
  else if k.last.isControl || next.isControl then false
  else
    -- Syllables and marks look at one character to the left only.
    joinsHangul k.last next
      || next == .extend || next == .joiner || next == .spacingMark
      || k.last == .prepend
      -- Conjuncts, joined pictographs and flags look further.
      || (k.consonant && k.linked && isConjunctConsonant c)
      || (k.joinedPictograph && isPictograph c)
      || (k.oddRegional && next == .regional)

/-- The clusters of a text that goes on after the characters of `cluster`, given last first. -/
def clustersFrom (k : Context) (cluster : List Char) : List Char → List (List Char)
  | [] => [cluster.reverse]
  | c :: rest =>
    if joins k c then clustersFrom (k.next c) (c :: cluster) rest
    else cluster.reverse :: clustersFrom (k.next c) [c] rest

/-- The clusters of a text, in order. -/
def clusters : List Char → List (List Char)
  | [] => []
  | c :: rest => clustersFrom (.first c) [c] rest

/-- The clusters make up the text again. -/
theorem flatten_clusters (s : List Char) : (clusters s).flatten = s := by
  have h : ∀ (s cluster : List Char) (k : Context),
      (clustersFrom k cluster s).flatten = cluster.reverse ++ s := by
    intro s
    induction s with
    | nil => simp [clustersFrom]
    | cons c rest ih =>
      intro cluster k
      rw [clustersFrom]
      split <;> simp [ih]
  cases s with
  | nil => rfl
  | cons c rest => simp [clusters, h]

end DataSchema.Text.Grapheme
