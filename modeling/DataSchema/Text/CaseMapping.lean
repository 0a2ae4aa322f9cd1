import DataSchema.Text.Table.Casing

/-!
# DataSchema.Text.CaseMapping

**Upper and lower case of a text**, by the full mappings of the Unicode standard. A character may
become several (`ß` in upper case is `SS`), and one mapping looks at its neighbours: a capital sigma
at the end of a word becomes `ς`, any other `σ`. A sigma ends a word when a cased character stands
before it and none after it, characters without a case of their own being passed over.
-/

namespace DataSchema.Text

open Table (CaseRun inRanges)

/-- The mapping of one character by a table of expansions and a table of runs. A character in
neither is its own image. -/
def mapCase (expansions : List (Nat × List Nat)) (runs : List CaseRun) (c : Char) : List Char :=
  match expansions.find? (fun e => e.1 = c.toNat) with
  | some (_, image) => image.map Char.ofNat
  | none =>
    match runs.find? (fun r =>
      r.first ≤ c.toNat ∧ c.toNat ≤ r.last ∧ (c.toNat - r.first) % r.stride = 0) with
    | some run => [Char.ofNat (c.toNat + run.distance).toNat]
    | none => [c]

/-- The upper case of a character. -/
def upperChar (c : Char) : List Char :=
  if c.toNat < 0x80 then [c.toUpper] else mapCase Table.upperExpansions Table.upperRuns c

/-- The lower case of a character, without regard to its neighbours. -/
def lowerChar (c : Char) : List Char :=
  if c.toNat < 0x80 then [c.toLower] else mapCase Table.lowerExpansions Table.lowerRuns c

/-- Does a cased character come next, when those without a case of their own are passed over? -/
def casedNext (s : List Char) : Bool :=
  (s.dropWhile (fun c => inRanges Table.caseIgnorableRanges c.toNat)).head?.any
    (fun c => inRanges Table.casedRanges c.toNat)

/-- The lower case of a text whose characters before it are `before`, nearest first. -/
def lowerAfter (before : List Char) : List Char → List Char
  | [] => []
  | c :: rest =>
    (if c = 'Σ' then if casedNext before && !casedNext rest then ['ς'] else ['σ']
     else lowerChar c) ++ lowerAfter (c :: before) rest

/-- The lower case of a text. -/
def toLower (s : List Char) : List Char := lowerAfter [] s

/-- The upper case of a text. -/
def toUpper (s : List Char) : List Char := s.flatMap upperChar

end DataSchema.Text
