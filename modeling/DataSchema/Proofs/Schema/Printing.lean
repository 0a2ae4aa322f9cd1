import DataSchema.Proofs.Field.Writing
import DataSchema.Proofs.Schema.References

/-!
# DataSchema.Proofs.Schema.Printing

**A property that is written out as a field line is read back.** The text of a property is its name,
its type with the suffixes, and its attributes, with single spaces between them. Reading it in the
same scope gives the property again (`Schema.exists_declaration_text`).

For a reference the written type token is the one that was declared: a reference goes by the word
that it was found by. A scalar goes by its name, which need not be the word that was declared, since
every word without a meaning is an unsupported scalar; but the name is a keyword and means the same
scalar. Money is the exception. It has a name and no keyword.
-/

namespace DataSchema

open DataSchema.Field (AttributeSyntax Declaration TypeToken FieldSyntax classifyBare)
open DataSchema.Field.Grammar (TypeWord)
open Source (Outline)
open Text (isBlank)

/-! ### Type tokens -/

namespace Field

/-- The token as it is written: the word, then `[]`, then `?`. -/
def TypeToken.text (t : TypeToken) : String :=
  t.bare ++ (if t.isArray then "[]" else "") ++ (if t.nullable then "?" else "")

theorem TypeToken.toList_text (t : TypeToken) :
    t.text.toList = t.bare.toList ++ (if t.isArray then "[]".toList else []) ++
      (if t.nullable then "?".toList else []) := by
  obtain ⟨bare, nullable, isArray⟩ := t
  cases nullable <;> cases isArray <;> simp [text]

/-- A token whose word does not end like a suffix is read as it is written. -/
theorem TypeToken.split_text {t : TypeToken}
    (h : ∀ c ∈ t.bare.toList.getLast?, c ≠ '?' ∧ c ≠ ']') : split t.text = t := by
  refine split_eq_iff.mpr ⟨t.toList_text, fun hnullable => ?_, fun _ => ?_⟩
  · rw [t.toList_text, hnullable]
    rintro ⟨front, hfront⟩
    cases hisArray : t.isArray with
    | false =>
        rw [hisArray] at hfront
        have hlast : '?' ∈ t.bare.toList.getLast? := by
          simpa using congrArg List.getLast? hfront.symm
        exact (h _ hlast).1 rfl
    | true =>
        rw [hisArray] at hfront
        have hlast := congrArg List.getLast? hfront
        simp at hlast
  · rintro ⟨front, hfront⟩
    have hlast : ']' ∈ t.bare.toList.getLast? := by simpa using congrArg List.getLast? hfront.symm
    exact (h _ hlast).2 rfl

/-- A reading of a text is written as the text. -/
theorem TypeToken.Reads.text_eq {raw : String} {t : TypeToken} (h : t.Reads raw) : t.text = raw :=
  String.toList_injective (t.toList_text.trans h.text.symm)

/-! ### Tokens of scalars -/

theorem isNameChar_of_mem_scalarName (t : ScalarType) :
    ∀ c ∈ t.name.toList, isNameChar c = true := by
  have hall : t.name.toList.all isNameChar = true := by cases t <;> decide +kernel
  exact List.all_eq_true.mp hall

theorem isTypeChar_of_isNameChar {c : Char} (h : isNameChar c = true) : isTypeChar c = true := by
  refine isTypeChar_iff.mpr ⟨?_, ?_, ?_⟩
  · exact isGap_of_not_isBlank (isBlank_of_isNameChar h)
  · rintro rfl
    exact absurd h (by decide)
  · rintro rfl
    exact absurd h (by decide)

section Scalar

variable {token : TypeToken} {t : ScalarType} (ht : token.bare = t.name)

include ht

/-- A token of a scalar has the characters of a name and those of the suffixes. -/
theorem TypeToken.mem_text_of_scalar :
    ∀ c ∈ token.text.toList, isNameChar c = true ∨ c ∈ ['[', ']', '?'] := by
  intro c hc
  rw [token.toList_text, ht, List.mem_append, List.mem_append] at hc
  rcases hc with (hc | hc) | hc
  · exact Or.inl (isNameChar_of_mem_scalarName t c hc)
  · refine Or.inr ?_
    split at hc
    · exact List.mem_append_left ['?'] hc
    · exact absurd hc List.not_mem_nil
  · refine Or.inr ?_
    split at hc
    · exact List.mem_append_right ['[', ']'] hc
    · exact absurd hc List.not_mem_nil

theorem TypeToken.typeWord_text_of_scalar : TypeWord token.text.toList := by
  refine typeWord_of_chars ?_ fun c hc => ?_
  · have hname : t.name.toList ≠ [] := by cases t <;> decide +kernel
    rw [token.toList_text, ht]
    simp [hname]
  · rcases mem_text_of_scalar ht c hc with hc | hc
    · exact isTypeChar_of_isNameChar hc
    · have hsuffixes : ∀ d ∈ ['[', ']', '?'], isTypeChar d = true := by simp [isTypeChar, isGap]
      exact hsuffixes c hc

theorem TypeToken.getLast?_text_of_scalar :
    ∀ c ∈ token.text.toList.getLast?, isBlank c = false := by
  intro c hc
  rcases mem_text_of_scalar ht c (List.mem_of_getLast? hc) with hc | hc
  · exact isBlank_of_isNameChar hc
  · have hsuffixes : ∀ d ∈ ['[', ']', '?'], isBlank d = false := by simp [isBlank]
    exact hsuffixes c hc

theorem TypeToken.split_text_of_scalar : split token.text = token := by
  refine split_text fun c hc => ?_
  rw [ht] at hc
  have hchar := isNameChar_of_mem_scalarName t c (List.mem_of_getLast? hc)
  constructor
  · rintro rfl
    exact absurd hchar (by decide)
  · rintro rfl
    exact absurd hchar (by decide)

end Scalar

/-! ### Types by their names -/

/-- A type other than money is what its own name means. -/
theorem classifyBare_name_of_ne_money {word : String} {isMoney : Bool} {scope : Scope}
    {t : FieldType} (ht : classifyBare word isMoney scope = t) (hmoney : t ≠ .scalar .money) :
    classifyBare t.name isMoney scope = t := by
  have hmeant := classifyBare_eq_iff.mp ht
  cases t with
  | relation model =>
      obtain ⟨rfl, -⟩ := hmeant
      exact ht
  | enum name =>
      obtain ⟨rfl, -⟩ := hmeant
      exact ht
  | scalar t =>
      have hne : t ≠ .money := fun h => hmoney (by rw [h])
      have hnot : ¬ (isMoney = true ∧ t = .decimal) := by
        rintro ⟨hisMoney, rfl⟩
        obtain ⟨-, hfalse⟩ := hmeant
        rw [hisMoney] at hfalse
        exact Bool.noConfusion hfalse
      exact (classifyBare_name hne).trans (congrArg FieldType.scalar (if_neg hnot))

end Field

/-! ### Properties -/

/-- The type token that is written for a property. -/
def Property.token (p : Property) : TypeToken := ⟨p.type.name, p.nullable, p.isArray⟩

theorem Property.toList_text (p : Property) :
    p.text.toList = p.key.toList ++ ' ' :: (p.token.text.toList ++
      p.attributes.flatMap fun a => ' ' :: a.text.toList) := by
  have htoken : p.token.text = p.type.name ++ (if p.isArray then "[]" else "") ++
      (if p.nullable then "?" else "") := rfl
  rw [htoken, text]
  simp [String.toList_join, List.flatMap_map]

namespace Field

variable {line : String} {d : Declaration}

/-- The token that is written is a scalar's, or the one that was declared. -/
theorem Declaration.token_toProperty (d : Declaration) (n : Nat) (scope : Scope) :
    (∃ t : ScalarType, (d.toProperty n scope).token.bare = t.name) ∨
      (d.toProperty n scope).token = TypeToken.split d.rawType := by
  have hmeant := classifyBare_eq_iff.mp (d.type_toProperty n scope).symm
  cases htype : (d.toProperty n scope).type with
  | scalar t =>
      refine Or.inl ⟨t, ?_⟩
      rw [Property.token, htype]
      rfl
  | enum name =>
      rw [htype] at hmeant
      obtain ⟨hword, -⟩ := hmeant
      refine Or.inr ?_
      rw [Property.token, htype]
      exact congrArg (TypeToken.mk · _ _) hword
  | relation model =>
      rw [htype] at hmeant
      obtain ⟨hword, -⟩ := hmeant
      refine Or.inr ?_
      rw [Property.token, htype]
      exact congrArg (TypeToken.mk · _ _) hword

/-- A type token that stands last in a trimmed line does not end with a blank. -/
theorem getLast?_type_of_decomposes {f : FieldSyntax} {text : List Char} (h : f.Decomposes text)
    (htrimmed : Text.Trimmed text) (hlast : f.attributes = []) :
    ∀ c ∈ f.type.getLast?, isBlank c = false := by
  have htext := h.eq
  rw [FieldSyntax.text, hlast, List.flatMap_nil, List.append_nil] at htext
  have hgap : f.typeGap = [] := by
    by_contra hne
    have hmem : f.typeGap.getLast hne ∈ text.getLast? := by
      rw [← htext, List.getLast?_append_of_ne_nil _ hne, List.getLast?_eq_some_getLast hne]
      rfl
    have hblank := isBlank_of_isGap (h.typeGap _ (List.getLast_mem hne))
    rw [htrimmed.last _ hmem] at hblank
    exact Bool.noConfusion hblank
  obtain ⟨c, rest, hcons, -⟩ := exists_cons_of_typeWord h.type
  have hne : f.type ≠ [] := by simp [hcons]
  rw [hgap, List.append_nil] at htext
  rw [← List.getLast?_append_of_ne_nil _ hne, htext]
  exact htrimmed.last

/-- The text of a property declares its name, its type token and its attributes. -/
theorem Declaration.parse?_text (h : Declaration.parse? line = some d) (n : Nat) (scope : Scope) :
    Declaration.parse? (d.toProperty n scope).text =
      some ⟨d.name, (d.toProperty n scope).token.text, d.attributes⟩ := by
  obtain ⟨f, hf, rfl⟩ := exists_decomposes_of_parse? h
  generalize hp : f.toDeclaration.toProperty n scope = p
  have htoken := Declaration.token_toProperty f.toDeclaration n scope
  rw [hp] at htoken
  -- A token that is not a scalar's is the declared one, which is part of the line.
  have hraw : p.token = TypeToken.split (String.ofList f.type) → p.token.text.toList = f.type := by
    intro hsplit
    rw [(TypeToken.split_eq_iff.mp hsplit.symm).text_eq, String.toList_ofList]
  have htype : TypeWord p.token.text.toList := by
    rcases htoken with ⟨t, ht⟩ | hsplit
    · exact TypeToken.typeWord_text_of_scalar ht
    · exact (hraw hsplit).symm ▸ hf.type
  have hlast : f.attributes.map (·.1.trimmed) = [] →
      ∀ c ∈ p.token.text.toList.getLast?, isBlank c = false := by
    intro hnone
    rcases htoken with ⟨t, ht⟩ | hsplit
    · exact TypeToken.getLast?_text_of_scalar ht
    · rw [hraw hsplit]
      exact getLast?_type_of_decomposes hf (Text.trimmed_trim _) (List.map_eq_nil_iff.mp hnone)
  have hattributes : ∀ a ∈ f.attributes.map (·.1.trimmed), a.WellFormed [] := by
    intro a ha
    obtain ⟨piece, hpiece, rfl⟩ := List.mem_map.mp ha
    exact (hf.attributes piece hpiece).trimmed
  have hwritten := Declaration.parse?_written hf.name htype hattributes hlast
  have hkey : p.key.toList = f.name := by
    rw [← hp]
    simp [Declaration.toProperty, FieldSyntax.toDeclaration]
  have htext : p.text = String.ofList (f.name ++ ' ' :: (p.token.text.toList ++
      (f.attributes.map (·.1.trimmed)).flatMap fun a => ' ' :: a.text)) := by
    refine String.toList_injective ?_
    rw [Property.toList_text, String.toList_ofList, hkey, ← hp]
    simp [Declaration.toProperty, FieldSyntax.toDeclaration, List.flatMap_map,
      AttributeSyntax.text_toAttribute]
  rw [htext, hwritten]
  simp [FieldSyntax.toDeclaration, Function.comp_def]

/-- The type token is read for the type and its suffixes only. -/
theorem Declaration.toProperty_eq (d : Declaration) (raw : String) (n : Nat) (scope : Scope) :
    (Declaration.mk d.name raw d.attributes).toProperty n scope =
      { d.toProperty n scope with
        type := classifyBare (TypeToken.split raw).bare
          (Flags.ofAttributes d.attributes scope.markers).isMoney scope
        nullable := (TypeToken.split raw).nullable
        isArray := (TypeToken.split raw).isArray } :=
  rfl

/-- Reading the text of a property in its own scope gives the property. -/
theorem Declaration.toProperty_text {n : Nat} {scope : Scope}
    (hmoney : (d.toProperty n scope).type ≠ .scalar .money) :
    (Declaration.mk d.name (d.toProperty n scope).token.text d.attributes).toProperty n scope =
      d.toProperty n scope := by
  have hsplit :
      TypeToken.split (d.toProperty n scope).token.text = (d.toProperty n scope).token := by
    rcases Declaration.token_toProperty d n scope with ⟨t, ht⟩ | hraw
    · exact TypeToken.split_text_of_scalar ht
    · rw [(TypeToken.split_eq_iff.mp hraw.symm).text_eq, hraw]
  have htype : classifyBare (d.toProperty n scope).token.bare
      (Flags.ofAttributes d.attributes scope.markers).isMoney scope = (d.toProperty n scope).type :=
    classifyBare_name_of_ne_money (d.type_toProperty n scope).symm hmoney
  rw [Declaration.toProperty_eq, hsplit, htype]
  rfl

end Field

/-! ### Schemas -/

namespace Schema

/-- **Properties can be written out.** The text of a property of a compiled schema declares a field,
and this field, on the line of the property and in the scope of the schema, means the property. -/
theorem exists_declaration_text {source : String} {markers : Markers} {m : Model} {p : Property}
    (hm : m ∈ (compile source markers).models.values) (hp : p ∈ m.properties)
    (hmoney : p.type ≠ .scalar .money) :
    ∃ d, Declaration.parse? p.text = some d ∧
      d.toProperty p.line ((Declarations.ofOutline (Outline.ofText source)).scope markers) = p := by
  obtain ⟨line, d, -, hparse, hproperty⟩ := exists_declaration_of_mem hm hp
  rw [hproperty] at hmoney
  have hread := Field.Declaration.parse?_text hparse p.line
    ((Declarations.ofOutline (Outline.ofText source)).scope markers)
  rw [← hproperty] at hread
  refine ⟨_, hread, ?_⟩
  have htext := Field.Declaration.toProperty_text hmoney
  rw [← hproperty] at htext
  exact htext

/-- Fields with odd tokens: a word that ends with a question mark, a group with a blank in it, and
arguments with parentheses, quotes and blanks around them. -/
def oddSchema : String :=
  "model A? \x7b\n a A??\n b Area(\"x (\" 2)[] @f( g(\"\\\")\") )\n" ++
    " c Decimal[]? @db.Money @id\n\x7d\n"

/-- The reference keeps its question mark, and the group is written as an unsupported type. -/
theorem exists_declaration_text_odd :
    let markers : Markers := ⟨[], ["@id"], [], []⟩
    let s := compile oddSchema markers
    let scope := (Declarations.ofOutline (Outline.ofText oddSchema)).scope markers
    ∃ m ∈ s.models.values, ∃ p ∈ m.properties, ∃ q ∈ m.properties, ∃ r ∈ m.properties,
      p.text = "a A??" ∧ q.text = "b Unsupported[] @f(g(\"\\\")\"))" ∧
      r.text = "c Decimal[]? @db.Money @id" ∧
      (∃ d, Declaration.parse? p.text = some d ∧ d.toProperty p.line scope = p) ∧
      (∃ d, Declaration.parse? q.text = some d ∧ d.toProperty q.line scope = q) ∧
      ∃ d, Declaration.parse? r.text = some d ∧ d.toProperty r.line scope = r := by
  intro markers s scope
  have hfields : ∃ m ∈ s.models.values, ∃ p ∈ m.properties, ∃ q ∈ m.properties,
      ∃ r ∈ m.properties, (p.text = "a A??" ∧ p.type ≠ .scalar .money) ∧
        (q.text = "b Unsupported[] @f(g(\"\\\")\"))" ∧ q.type ≠ .scalar .money) ∧
        r.text = "c Decimal[]? @db.Money @id" ∧ r.type ≠ .scalar .money := by
    decide +kernel
  obtain ⟨m, hm, p, hp, q, hq, r, hr, ⟨hptext, hptype⟩, ⟨hqtext, hqtype⟩, hrtext, hrtype⟩ := hfields
  exact ⟨m, hm, p, hp, q, hq, r, hr, hptext, hqtext, hrtext, exists_declaration_text hm hp hptype,
    exists_declaration_text hm hq hqtype, exists_declaration_text hm hr hrtype⟩

end Schema

end DataSchema
