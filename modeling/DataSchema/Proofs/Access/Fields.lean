import DataSchema.Proofs.Access.Basic
import DataSchema.Proofs.Attribute.Splitting
import DataSchema.Proofs.Field.Decomposition
import DataSchema.Proofs.Field.GroupBody

/-!
# DataSchema.Proofs.Access.Fields

**Fields read by counting.** The text between the parentheses of an attribute is cut out one byte
from each end, and the arguments between two commas from the byte after the one up to the byte of the
other. The first is in range because a group is its two parentheses with something between them, the
second because a comma is one byte, whatever stands around it (`piecesFrom_eq`).
-/

namespace DataSchema.Checked

open Attribute (Cursor namedValue? unquote?)
open DataSchema.Field (AttributeSyntax Declaration FieldSyntax byteSize)

/-! ### Counting -/

/-- The attribute that is written. -/
def toAttribute (a : AttributeSyntax) : Checked Attribute :=
  match a.args with
  | none => pure ⟨String.ofList a.path, none⟩
  | some group => do
    let inner ← text group 1 (byteSize group - 1)
    pure ⟨String.ofList a.path, some (String.ofList (Text.trim inner))⟩

/-- The pieces of an argument list from the byte `start` on, where the rest begins at the byte
`place`. -/
def piecesFrom (args : List Char) (k : Cursor) (start place : Nat) :
    List Char → Checked (List (List Char))
  | [] => do
    let piece ← textFrom args start
    pure [piece]
  | c :: rest =>
    if k.separates c then do
      let piece ← text args start place
      let pieces ← piecesFrom args (k.next c) (place + 1) (place + c.utf8Size) rest
      pure (piece :: pieces)
    else piecesFrom args (k.next c) start (place + c.utf8Size) rest

/-- The arguments in an argument list. -/
def splitArguments (args : List Char) : Checked (List (List Char)) := do
  let pieces ← piecesFrom args .start 0 0 args
  pure ((pieces.map Text.trim).filter (· ≠ []))

/-- The name among the arguments. -/
def nameArgument? (args : List Char) : Checked (Option (List Char)) := do
  let arguments ← splitArguments args
  match arguments.head?.bind unquote? with
  | some name => pure (some name)
  | none => pure (arguments.findSome? namedValue?)

/-- The name given in the arguments of an attribute. -/
def nameArg? (a : Attribute) : Checked (Option String) :=
  match a.args with
  | none => pure none
  | some args => do
    let name ← nameArgument? args.toList
    pure (name.map String.ofList)

/-- The name in the first `@relation` that gives one. Arguments are not cut after it. -/
def relationLabel? : List Attribute → Checked (Option String)
  | [] => pure none
  | a :: rest =>
    if a.path = "relation" then do
      match ← nameArg? a with
      | some name => pure (some name)
      | none => relationLabel? rest
    else relationLabel? rest

/-- The declaration that a text makes. -/
def declaration? (s : List Char) : Checked (Option Declaration) :=
  match FieldSyntax.parse? s with
  | none => pure none
  | some f => do
    let attributes ← f.attributes.mapM fun piece => toAttribute piece.1
    pure (some { f.toDeclaration with attributes })

/-- The declaration on a line of a body. -/
def parse? (line : String) : Checked (Option Declaration) :=
  if Text.trim line.toList = [] ∨ (Text.trim line.toList).head? = some '@' then pure none
  else declaration? (Text.trim line.toList)

/-- The property that a declaration means. -/
def toProperty (d : Declaration) (line : Nat) (scope : Scope) : Checked Property := do
  let relationLabel ← relationLabel? d.attributes
  pure { d.toProperty line scope with relationLabel }

/-! ### Groups -/

/-- The bytes between the parentheses of a group. -/
theorem text_group (inner : List Char) :
    text ('(' :: (inner ++ [')'])) 1 (byteSize ('(' :: (inner ++ [')'])) - 1) = pure inner := by
  have hopening : byteSize ['('] = 1 := by decide
  have hclosing : byteSize [')'] = 1 := by decide
  have hstop : byteSize ('(' :: (inner ++ [')'])) - 1 = byteSize (['('] ++ inner) := by
    rw [← List.cons_append, byteSize_append, hclosing, Nat.add_sub_cancel]
    rfl
  rw [hstop, ← hopening]
  exact text_eq ['('] inner [')']

/-- A group has its two parentheses, which are two bytes. -/
theorem ends_of_group {group : List Char} (h : Field.Grammar.Group group) :
    2 ≤ byteSize group ∧ group.head? = some '(' ∧ group.getLast? = some ')' := by
  obtain ⟨inner, -, rfl⟩ := Field.exists_body_of_group h
  have hopening : '('.utf8Size = 1 := by decide
  have hclosing : byteSize [')'] = 1 := by decide
  refine ⟨?_, rfl, ?_⟩
  · rw [byteSize_cons, byteSize_append, hopening, hclosing]
    omega
  · rw [← List.cons_append, List.getLast?_append]
    rfl

theorem toAttribute_eq {a : AttributeSyntax} {gap : List Char} (h : a.WellFormed gap) :
    toAttribute a = pure a.toAttribute := by
  unfold toAttribute AttributeSyntax.toAttribute
  cases hargs : a.args with
  | none => rfl
  | some group =>
      obtain ⟨inner, -, rfl⟩ := Field.exists_body_of_group (h.args group hargs)
      dsimp only
      rw [text_group, pure_bind]
      simp

/-! ### Arguments -/

/-- The cuts are at both ends of each piece, where the piece at hand begins after `front`. -/
theorem piecesFrom_eq (front piece rest : List Char) (k : Cursor) :
    piecesFrom (front ++ piece ++ rest) k (byteSize front) (byteSize (front ++ piece)) rest =
      pure ((Attribute.pieces k rest).modifyHead (piece ++ ·)) := by
  induction rest generalizing front piece k with
  | nil =>
      rw [piecesFrom, List.append_nil, textFrom_eq, pure_bind, Attribute.pieces,
        List.modifyHead_cons, List.append_nil]
  | cons c rest ih =>
      by_cases hc : k.separates c = true
      · obtain ⟨rfl, rfl⟩ := Cursor.separates_iff.mp hc
        -- The next piece begins one byte after this one ends, and a comma is one byte.
        have hnext := ih (front ++ piece ++ [',']) [] .start
        have hcomma : byteSize (front ++ piece ++ [',']) = byteSize (front ++ piece) + 1 :=
          byteSize_append _ _
        have hsize : ','.utf8Size = 1 := by decide
        rw [List.append_nil, hcomma, List.append_assoc _ [','], List.singleton_append,
          ← Attribute.Uncut.nil .start rest, List.nil_append] at hnext
        rw [piecesFrom, if_pos hc, text_eq, pure_bind, Cursor.next_start_comma, hsize, hnext,
          pure_bind, Attribute.pieces_cons_of_separates hc, List.modifyHead_cons, List.append_nil]
      · have hnext := ih front (piece ++ [c]) (k.next c)
        have hplace : byteSize (front ++ (piece ++ [c])) = byteSize (front ++ piece) + c.utf8Size := by
          rw [← List.append_assoc, byteSize_append]
          rfl
        rw [hplace, ← List.append_assoc front, List.append_assoc _ [c], List.singleton_append]
          at hnext
        rw [piecesFrom, if_neg hc, hnext, Attribute.pieces_cons_of_not_separates hc,
          List.modifyHead_modifyHead]
        congr 2
        funext tail
        simp

theorem splitArguments_eq (args : List Char) :
    splitArguments args = pure (Attribute.splitArguments args) := by
  have hpieces := piecesFrom_eq [] [] args .start
  rw [← Attribute.Uncut.nil .start args, List.append_nil, List.nil_append, byteSize_nil] at hpieces
  rw [splitArguments, hpieces, pure_bind]
  rfl

theorem nameArgument?_eq (args : List Char) :
    nameArgument? args = pure (Attribute.nameArgument? args) := by
  rw [nameArgument?, splitArguments_eq, pure_bind, Attribute.nameArgument?]
  cases (Attribute.splitArguments args).head?.bind unquote? <;> rfl

theorem nameArg?_eq (a : Attribute) : nameArg? a = pure a.nameArg? := by
  unfold nameArg? Attribute.nameArg?
  cases a.args with
  | none => rfl
  | some args =>
      dsimp only
      rw [nameArgument?_eq, pure_bind]
      cases h : Attribute.nameArgument? args.toList <;> simp [h]

theorem relationLabel?_eq (attributes : List Attribute) :
    relationLabel? attributes = pure (DataSchema.relationLabel? attributes) := by
  induction attributes with
  | nil => rfl
  | cons a rest ih =>
      rw [relationLabel?, DataSchema.relationLabel?, List.findSome?_cons]
      by_cases hpath : a.path = "relation"
      · rw [if_pos hpath, if_pos hpath, nameArg?_eq, pure_bind]
        cases a.nameArg? with
        | none => exact ih
        | some name => rfl
      · rw [if_neg hpath, if_neg hpath]
        exact ih

/-! ### Declarations -/

/-- What is read as arguments is a group. -/
theorem wellFormed_of_parse? {s : List Char} {f : FieldSyntax} (h : FieldSyntax.parse? s = some f) :
    ∀ piece ∈ f.attributes, piece.1.WellFormed piece.2 := by
  simp only [FieldSyntax.parse?, Option.bind_eq_bind, Option.bind_eq_some_iff] at h
  obtain ⟨_, -, afterType, -, _, -, hf⟩ := h
  cases hf
  exact Field.wellFormed_of_readAttributes _

theorem declaration?_eq (s : List Char) :
    declaration? s = pure ((FieldSyntax.parse? s).map FieldSyntax.toDeclaration) := by
  unfold declaration?
  cases hparse : FieldSyntax.parse? s with
  | none => rfl
  | some f =>
      have hattributes := mapM_eq fun piece hpiece =>
        toAttribute_eq (wellFormed_of_parse? hparse piece hpiece)
      dsimp only
      rw [hattributes, pure_bind]
      rfl

/-- Every cut made in reading a line is in range. -/
theorem parse?_eq (line : String) : parse? line = pure (Declaration.parse? line) := by
  rw [parse?, Declaration.parse?_eq_bind]
  split
  · rfl
  · exact declaration?_eq _

theorem toProperty_eq (d : Declaration) (line : Nat) (scope : Scope) :
    toProperty d line scope = pure (d.toProperty line scope) := by
  rw [toProperty, relationLabel?_eq, pure_bind]
  rfl

end DataSchema.Checked
