import DataSchema.Field.Lexical

/-!
# DataSchema.Field.Syntax

**The concrete syntax of a field line**: a name, a type token and attributes, with the gaps between
them kept. Nothing of the line is lost, so `FieldSyntax.text` gives the line back, and whatever
needs positions in the line can count them off the pieces.

Reading never backtracks: each token is the longest of its kind at the front of what is left, and a
line is accepted when the last attribute and the gap after it leave nothing.
-/

namespace DataSchema.Field

/-- An attribute as it is written, without its `@`. -/
structure AttributeSyntax where
  /-- The dotted path. -/
  path : List Char
  /-- The group of arguments with its parentheses, if there is one. -/
  args : Option (List Char)
deriving DecidableEq, Repr, Inhabited

/-- The attribute as it is written. -/
def AttributeSyntax.text (a : AttributeSyntax) : List Char := '@' :: a.path ++ a.args.getD []

/-- The pieces of a field line, in order. -/
structure FieldSyntax where
  /-- The gap before the name. -/
  lead : List Char
  /-- The name. -/
  name : List Char
  /-- The gap between name and type, possibly empty. -/
  nameGap : List Char
  /-- The type token. -/
  type : List Char
  /-- The gap after the type. -/
  typeGap : List Char
  /-- The attributes, each with the gap after it. -/
  attributes : List (AttributeSyntax × List Char)
deriving DecidableEq, Repr, Inhabited

/-- The line that the pieces make. -/
def FieldSyntax.text (f : FieldSyntax) : List Char :=
  f.lead ++ f.name ++ f.nameGap ++ f.type ++ f.typeGap ++
    f.attributes.flatMap (fun (a, gap) => a.text ++ gap)

/-! ### Reading attributes -/

/-- The arguments at the front: a group, if one stands there. -/
def readArguments (s : List Char) : Option (List Char) × List Char :=
  match group s with
  | some (text, rest) => (some text, rest)
  | none => (none, s)

theorem readArguments_append (s : List Char) :
    (readArguments s).1.getD [] ++ (readArguments s).2 = s ∧
      (readArguments s).2.length ≤ s.length := by
  unfold readArguments
  split
  · next h => exact ⟨(group_append h).1, Nat.le_of_lt (group_append h).2⟩
  · exact ⟨rfl, Nat.le_refl _⟩

/-- The attribute at the front. -/
def readAttribute : List Char → Option (AttributeSyntax × List Char)
  | '@' :: s => do
    let (path, afterPath) ← attributePath s
    some (⟨path, (readArguments afterPath).1⟩, (readArguments afterPath).2)
  | _ => none

theorem readAttribute_append {s rest : List Char} {a : AttributeSyntax}
    (h : readAttribute s = some (a, rest)) : a.text ++ rest = s ∧ rest.length < s.length := by
  unfold readAttribute at h
  split at h
  · next s =>
    obtain ⟨⟨path, after⟩, hp, he⟩ := Option.bind_eq_some_iff.1 h
    cases he
    have ha := readArguments_append after
    have hs := attributePath_append hp
    have hlen := congrArg List.length hs
    simp only [List.length_append] at hlen
    refine ⟨?_, ?_⟩
    · simp only [AttributeSyntax.text, List.cons_append, List.append_assoc]
      rw [ha.1, hs]
    · simp only [List.length_cons]
      omega
  · simp at h

/-- The attributes at the front, each with the gap after it. -/
def readAttributes (s : List Char) : List (AttributeSyntax × List Char) × List Char :=
  match _ha : readAttribute s with
  | none => ([], s)
  | some (a, rest) =>
    let (more, after) := readAttributes (rest.dropWhile isGap)
    ((a, rest.takeWhile isGap) :: more, after)
termination_by s.length
decreasing_by
  exact Nat.lt_of_le_of_lt (List.dropWhile_sublist isGap).length_le (readAttribute_append _ha).2

theorem readAttributes_append (s : List Char) :
    (readAttributes s).1.flatMap (fun (a, gap) => a.text ++ gap) ++ (readAttributes s).2 = s := by
  fun_induction readAttributes s with
  | case1 => rfl
  | case2 s a rest ha more after he ih =>
    rw [he] at ih
    simp only [List.flatMap_cons, List.append_assoc]
    rw [ih, List.takeWhile_append_dropWhile]
    exact (readAttribute_append ha).1

/-! ### Reading a line -/

/-- Read a whole line. -/
def FieldSyntax.parse? (s : List Char) : Option FieldSyntax := do
  let (name, afterName) ← identifier (s.dropWhile isGap)
  let (type, afterType) ← typeToken (afterName.dropWhile isGap)
  let (attrs, rest) := readAttributes (afterType.dropWhile isGap)
  guard (rest = [])
  some {
    lead := s.takeWhile isGap
    name
    nameGap := afterName.takeWhile isGap
    type
    typeGap := afterType.takeWhile isGap
    attributes := attrs }

end DataSchema.Field
