import DataSchema.Proofs.Field.Decomposition
import DataSchema.Proofs.Field.GroupBody

/-!
# DataSchema.Proofs.Field.Writing

**A field line written with single spaces is read back.** A name, a type token and attributes of the
grammar, with one space between each two, make a line that declares exactly these
(`Declaration.parse?_written`). The line has to keep its ends when it is read: a name starts with no
blank, an attribute ends with none, and a type token that stands last must not end with one.

The arguments of an attribute are kept trimmed, so the attribute is written with trimmed arguments.
That gives an attribute of the grammar again, and the same arguments when it is read
(`AttributeSyntax.toAttribute_trimmed`).
-/

namespace DataSchema.Field

open Grammar
open Text (isBlank Trimmed)

/-! ### Characters that are no blanks -/

theorem isBlank_of_isNameChar {c : Char} (h : isNameChar c = true) : isBlank c = false := by
  have halpha : c.isAlpha = (c.isUpper || c.isLower) := rfl
  have hupper : c.isUpper = decide (65 ≤ c.val ∧ c.val ≤ 90) := rfl
  have hlower : c.isLower = (decide (97 ≤ c.val) && decide (c.val ≤ 122)) := rfl
  simp only [isNameChar, Char.isAlphanum, halpha, hupper, hlower, Char.isDigit, Bool.or_eq_true,
    Bool.and_eq_true, decide_eq_true_eq, beq_iff_eq, ge_iff_le, UInt32.le_iff_toNat_le] at h
  rcases h with h | rfl
  · change ((65 ≤ c.toNat ∧ c.toNat ≤ 90) ∨ (97 ≤ c.toNat ∧ c.toNat ≤ 122)) ∨
      (48 ≤ c.toNat ∧ c.toNat ≤ 57) at h
    simp only [isBlank, Bool.or_eq_false_iff, Bool.and_eq_false_iff, decide_eq_false_iff_not,
      beq_eq_false_iff_ne]
    omega
  · decide

theorem trimmed_of_nameChars {s : List Char} (h : ∀ c ∈ s, isNameChar c = true) : Trimmed s where
  head := fun c hc => isBlank_of_isNameChar (h c (List.mem_of_mem_head? hc))
  last := fun c hc => isBlank_of_isNameChar (h c (List.mem_of_getLast? hc))

theorem isNameChar_of_mem_name {name : List Char} (h : Name name) :
    ∀ c ∈ name, isNameChar c = true := by
  obtain ⟨hstart, hchars⟩ := h
  intro c hc
  rcases List.mem_cons.mp hc with rfl | hc
  · exact isNameChar_of_isNameStart hstart
  · exact hchars c hc

theorem name_of_chars {s : List Char} (start : s.head?.any isNameStart = true)
    (chars : s.all isNameChar = true) : Name s := by
  cases s with
  | nil => simp at start
  | cons c rest =>
      rw [List.all_cons, Bool.and_eq_true] at chars
      exact .mk (by simpa using start) (List.all_eq_true.mp chars.2)

/-- A token without groups. -/
theorem typeWord_of_chars {s : List Char} (hne : s ≠ []) (h : ∀ c ∈ s, isTypeChar c = true) :
    TypeWord s := by
  induction s with
  | nil => exact absurd rfl hne
  | cons c rest ih =>
      obtain ⟨hgap, hat, hopening⟩ := isTypeChar_iff.mp (h c (List.mem_cons_self ..))
      have hunits : rest = [] ∨ TypeWord rest := by
        by_cases hrest : rest = []
        · exact Or.inl hrest
        · exact Or.inr (ih hrest fun d hd => h d (List.mem_cons_of_mem _ hd))
      have hunit : TypeUnit [c] := .char hgap hat hopening
      exact typeWord_cons hunit hunits

/-- A path ends with the character of a name. -/
theorem getLast?_path {path : List Char} (h : Path path) :
    ∀ c ∈ path.getLast?, isNameChar c = true := by
  induction h with
  | single hname =>
      exact fun c hc => isNameChar_of_mem_name hname c (List.mem_of_getLast? hc)
  | dot _ hrest ih =>
      obtain ⟨d, rest, rfl, -⟩ := exists_cons_of_path hrest
      rw [List.getLast?_append_of_ne_nil _ (by simp), List.getLast?_cons_cons]
      exact ih

/-- The characters of a path are those of names, and dots. -/
theorem isNameChar_or_dot_of_mem_path {path : List Char} (h : Path path) :
    ∀ c ∈ path, isNameChar c = true ∨ c = '.' := by
  induction h with
  | single hname => exact fun c hc => .inl (isNameChar_of_mem_name hname c hc)
  | dot hname _ ih =>
      intro c hc
      rcases List.mem_append.mp hc with hc | hc
      · exact .inl (isNameChar_of_mem_name hname c hc)
      · rcases List.mem_cons.mp hc with rfl | hc
        · exact .inr rfl
        · exact ih c hc

theorem isBlank_of_mem_path {path : List Char} (h : Path path) :
    ∀ c ∈ path, isBlank c = false := by
  intro c hc
  rcases isNameChar_or_dot_of_mem_path h c hc with hname | rfl
  · exact isBlank_of_isNameChar hname
  · decide

/-! ### Attributes as they are kept -/

/-- The attribute with the blanks taken away that its arguments do not keep. -/
def AttributeSyntax.trimmed (a : AttributeSyntax) : AttributeSyntax where
  path := a.path
  args := a.args.map fun group => '(' :: (Text.trim group.tail.dropLast ++ [')'])

/-- What is written for an attribute. -/
theorem AttributeSyntax.text_toAttribute (a : AttributeSyntax) :
    a.toAttribute.text.toList = a.trimmed.text := by
  cases hargs : a.args with
  | none => simp [toAttribute, Attribute.text, trimmed, text, hargs]
  | some group => simp [toAttribute, Attribute.text, trimmed, text, hargs]

/-- Nothing is lost that is kept. -/
@[simp] theorem AttributeSyntax.toAttribute_trimmed (a : AttributeSyntax) :
    a.trimmed.toAttribute = a.toAttribute := by
  cases hargs : a.args with
  | none => simp [toAttribute, trimmed, hargs]
  | some group => simp [toAttribute, trimmed, hargs]

theorem group_trim {group : List Char} (h : Group group) :
    Group ('(' :: (Text.trim group.tail.dropLast ++ [')'])) := by
  obtain ⟨hinner⟩ := h
  rw [List.tail_cons, List.dropLast_concat]
  exact .mk (groupBody_trim hinner)

theorem AttributeSyntax.WellFormed.trimmed {a : AttributeSyntax} {gap : List Char}
    (h : a.WellFormed gap) : a.trimmed.WellFormed [] where
  path := h.path
  args := by
    intro group hgroup
    obtain ⟨written, hwritten, rfl⟩ := Option.map_eq_some_iff.mp hgroup
    exact group_trim (h.args written hwritten)
  gap := by simp

/-- An attribute starts with its `@` and ends with a name or a parenthesis. -/
theorem AttributeSyntax.WellFormed.trimmed_text {a : AttributeSyntax} {gap : List Char}
    (h : a.WellFormed gap) : Trimmed a.text where
  head := by
    intro c hc
    have hat : '@' = c := by simpa [text] using hc
    exact hat ▸ by decide
  last := by
    intro c hc
    obtain ⟨d, rest, hpath, -⟩ := exists_cons_of_path h.path
    cases hargs : a.args with
    | none =>
        rw [text, hargs, Option.getD_none, List.append_nil, hpath, List.getLast?_cons_cons,
          ← hpath] at hc
        exact isBlank_of_isNameChar (getLast?_path h.path c hc)
    | some group =>
        obtain ⟨_⟩ := h.args group hargs
        have hclosing : ')' = c := by
          rw [text, hargs, Option.getD_some, ← List.cons_append, ← List.append_assoc,
            List.getLast?_concat] at hc
          exact Option.some.inj hc
        exact hclosing ▸ by decide

/-! ### Lines -/

/-- Attributes with a space between each two. -/
def spaced : List AttributeSyntax → List (AttributeSyntax × List Char)
  | [] => []
  | [a] => [(a, [])]
  | a :: b :: rest => (a, [' ']) :: spaced (b :: rest)

theorem map_fst_spaced (attributes : List AttributeSyntax) :
    (spaced attributes).map Prod.fst = attributes := by
  fun_induction spaced attributes with
  | case1 => rfl
  | case2 a => rfl
  | case3 a b rest ih => rw [List.map_cons, ih]

theorem gap_of_mem_spaced {attributes : List AttributeSyntax} :
    ∀ piece ∈ spaced attributes, ∀ c ∈ piece.2, isGap c = true := by
  fun_induction spaced attributes with
  | case1 => simp
  | case2 a => simp
  | case3 a b rest ih =>
      intro piece hpiece
      rcases List.mem_cons.mp hpiece with rfl | hpiece
      · simp [isGap]
      · exact ih piece hpiece

/-- The pieces of a line with single spaces. -/
def FieldSyntax.written (name type : List Char) (attributes : List AttributeSyntax) :
    FieldSyntax where
  lead := []
  name
  nameGap := [' ']
  type
  typeGap := if attributes = [] then [] else [' ']
  attributes := spaced attributes

theorem text_spaced (attributes : List AttributeSyntax) :
    (if attributes = [] then [] else [' ']) ++
        (spaced attributes).flatMap (fun (a, gap) => a.text ++ gap) =
      attributes.flatMap fun a => ' ' :: a.text := by
  fun_induction spaced attributes with
  | case1 => rfl
  | case2 a => simp
  | case3 a b rest ih =>
      rw [if_neg (List.cons_ne_nil _ _)] at ih ⊢
      have hcons : (a :: b :: rest).flatMap (fun a => ' ' :: a.text) =
          ' ' :: a.text ++ (b :: rest).flatMap fun a => ' ' :: a.text := List.flatMap_cons
      rw [hcons, ← ih]
      simp

section Written

variable {name type : List Char} {attributes : List AttributeSyntax}

theorem FieldSyntax.text_written : (FieldSyntax.written name type attributes).text =
    name ++ ' ' :: (type ++ attributes.flatMap fun a => ' ' :: a.text) := by
  rw [← text_spaced]
  simp [FieldSyntax.text, FieldSyntax.written]

variable (hname : Name name) (htype : TypeWord type)
  (hattributes : ∀ a ∈ attributes, a.WellFormed [])

include hname htype hattributes

theorem FieldSyntax.decomposes_written :
    (FieldSyntax.written name type attributes).Decomposes
      (FieldSyntax.written name type attributes).text where
  eq := rfl
  lead := rfl
  name := hname
  longest := by
    intro other hfront hother
    rw [FieldSyntax.text_written] at hfront
    have hspace : isNameChar ' ' = false := by decide
    exact length_le_of_stop (by simpa using hspace) hfront hother
  nameGap := by simp [FieldSyntax.written, isGap]
  type := htype
  typeGap := by
    unfold FieldSyntax.written
    split
    · simp
    · simp [isGap]
  attributes := by
    intro piece hpiece
    have hmem : piece.1 ∈ attributes := by
      rw [← map_fst_spaced attributes]
      exact List.mem_map_of_mem hpiece
    exact ⟨(hattributes _ hmem).path, (hattributes _ hmem).args, gap_of_mem_spaced piece hpiece⟩

/-- A line with single spaces keeps its ends, if its type does where it stands last. -/
theorem FieldSyntax.trimmed_written
    (hlast : attributes = [] → ∀ c ∈ type.getLast?, isBlank c = false) :
    Trimmed (FieldSyntax.written name type attributes).text where
  head := by
    have hne : name ≠ [] := by
      obtain ⟨_, _⟩ := hname
      simp
    rw [FieldSyntax.text_written, List.head?_append_of_ne_nil _ hne]
    exact (trimmed_of_nameChars (isNameChar_of_mem_name hname)).head
  last := by
    obtain ⟨d, rest, htypeCons, -⟩ := exists_cons_of_typeWord htype
    have hne : type ≠ [] := by simp [htypeCons]
    rw [FieldSyntax.text_written]
    rcases List.eq_nil_or_concat' attributes with rfl | ⟨front, a, rfl⟩
    · rw [List.flatMap_nil, List.append_nil, List.append_cons,
        List.getLast?_append_of_ne_nil _ hne]
      exact hlast rfl
    · have ha : a.WellFormed [] := hattributes a (by simp)
      have htext : a.text ≠ [] := by simp [AttributeSyntax.text]
      have hsplit : name ++ ' ' :: (type ++ (front ++ [a]).flatMap fun a => ' ' :: a.text) =
          (name ++ ' ' :: (type ++ (front.flatMap fun a => ' ' :: a.text) ++ [' '])) ++ a.text := by
        simp
      rw [hsplit, List.getLast?_append_of_ne_nil _ htext]
      exact ha.trimmed_text.last

/-- A name, a type token and attributes that are written with single spaces are declared by the
line that they make. -/
theorem Declaration.parse?_written
    (hlast : attributes = [] → ∀ c ∈ type.getLast?, isBlank c = false) :
    Declaration.parse? (String.ofList
        (name ++ ' ' :: (type ++ attributes.flatMap fun a => ' ' :: a.text))) =
      some ⟨String.ofList name, String.ofList type, attributes.map (·.toAttribute)⟩ := by
  have htrim := (FieldSyntax.trimmed_written hname htype hattributes hlast).trim_eq
  have hread := FieldSyntax.parse?_of_decomposes
    (FieldSyntax.decomposes_written hname htype hattributes)
  have hdeclares : (FieldSyntax.written name type attributes).toDeclaration =
      ⟨String.ofList name, String.ofList type, attributes.map (·.toAttribute)⟩ := by
    simp only [FieldSyntax.toDeclaration, FieldSyntax.written, Declaration.mk.injEq, true_and]
    conv_rhs => rw [← map_fst_spaced attributes, List.map_map]
    rfl
  obtain ⟨c, rest, hcons, hstart⟩ : ∃ c rest, name = c :: rest ∧ c ≠ '@' := by
    obtain ⟨hstart, _⟩ := hname
    refine ⟨_, _, rfl, ?_⟩
    rintro rfl
    exact absurd hstart (by decide)
  rw [← FieldSyntax.text_written, Declaration.parse?_eq_bind, String.toList_ofList, htrim, if_neg,
    hread, Option.map_some, hdeclares]
  rw [FieldSyntax.text_written, hcons]
  simpa using hstart

end Written

end DataSchema.Field
