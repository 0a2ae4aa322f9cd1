import Mathlib.Data.Option.Basic
import DataSchema.Field.Declaration
import DataSchema.Proofs.Field.Grammar

/-!
# DataSchema.Proofs.Field.Decomposition

**A field line has at most one decomposition, and the reader finds it.** A line is taken apart into a
name, a type token and attributes, with gaps between them. `FieldSyntax.Decomposes` says when pieces
are a decomposition of a line, by the grammar alone. Reading is sound (`decomposes_of_parse?`) and
complete (`parse?_of_decomposes`), and because a reader has one answer, completeness also says that
there is no second decomposition.

The one rule that the grammar of the pieces does not give is that the name is the longest one: without
it `idInt` could be the name `i` with the type `dInt`. The other tokens need no such rule, since what
may follow a token cannot go on with it.
-/

namespace DataSchema.Field

open Grammar
open Text (takeWhile_append_of_stop dropWhile_append_of_stop head?_dropWhile)

/-! ### Decompositions -/

/-- An attribute of the grammar, with a gap after it. -/
structure AttributeSyntax.WellFormed (a : AttributeSyntax) (gap : List Char) : Prop where
  path : Path a.path
  args : ∀ text ∈ a.args, Group text
  gap : ∀ c ∈ gap, isGap c = true

/-- The pieces are a decomposition of the text. -/
structure FieldSyntax.Decomposes (f : FieldSyntax) (text : List Char) : Prop where
  /-- The pieces make the text, which starts with the name. -/
  eq : f.text = text
  lead : f.lead = []
  name : Name f.name
  /-- No longer name stands at the front of the text. -/
  longest : ∀ other, other <+: text → Name other → other.length ≤ f.name.length
  nameGap : ∀ c ∈ f.nameGap, isGap c = true
  type : TypeWord f.type
  typeGap : ∀ c ∈ f.typeGap, isGap c = true
  attributes : ∀ piece ∈ f.attributes, piece.1.WellFormed piece.2

/-- The arguments that a group stands for: the text between its parentheses, trimmed. An attribute
without a group has no arguments. -/
inductive Arguments : Option (List Char) → Option String → Prop
  | none : Arguments none none
  | group (inner : List Char) :
      Arguments (some ('(' :: (inner ++ [')']))) (some (String.ofList (Text.trim inner)))

/-- The declaration has the name, the type token and the attributes of the pieces. -/
structure FieldSyntax.Declares (f : FieldSyntax) (d : Declaration) : Prop where
  name : d.name.toList = f.name
  type : d.rawType.toList = f.type
  attributes : List.Forall₂ (fun (a : Attribute) (piece : AttributeSyntax × List Char) =>
    a.path.toList = piece.1.path ∧ Arguments piece.1.args a.args) d.attributes f.attributes

/-! ### Attributes -/

theorem not_isGap_at : isGap '@' = false := by decide

theorem ends_nil : Ends [] := by simp [Ends]

theorem ends_append_of_gap {gap s : List Char} (hgap : ∀ c ∈ gap, isGap c = true) (hs : Ends s) :
    Ends (gap ++ s) := by
  intro c hc
  cases gap with
  | nil => exact hs c hc
  | cons d rest =>
      have hdc : d = c := by simpa using hc
      exact Or.inl (hdc ▸ hgap d (List.mem_cons_self ..))

theorem readArguments_of_ends {args : Option (List Char)} {s : List Char}
    (hargs : ∀ text ∈ args, Group text) (stop : Ends s) :
    readArguments (args.getD [] ++ s) = (args, s) := by
  cases args with
  | none => simp [readArguments, group_eq_none_of_ends stop]
  | some text => simp [readArguments, group_append_of_group (hargs text rfl)]

theorem readAttribute_of_wellFormed {a : AttributeSyntax} {gap s : List Char}
    (ha : a.WellFormed gap) (stop : Ends s) : readAttribute (a.text ++ s) = some (a, s) := by
  -- A group, a gap and the next `@` all end a path.
  have hpath : ∀ c ∈ (a.args.getD [] ++ s).head?, isNameChar c = false ∧ c ≠ '.' := by
    intro c hc
    have hends : c = '(' ∨ c = ' ' ∨ c = '\t' ∨ c = '@' := by
      cases hargs : a.args with
      | none =>
          rw [hargs] at hc
          rcases stop c (by simpa using hc) with hgap | hat
          · simp only [isGap, Bool.or_eq_true, beq_iff_eq] at hgap
            rcases hgap with hspace | htab
            · exact Or.inr (Or.inl hspace)
            · exact Or.inr (Or.inr (Or.inl htab))
          · exact Or.inr (Or.inr (Or.inr hat))
      | some text =>
          obtain ⟨_⟩ := ha.args text hargs
          rw [hargs] at hc
          exact Or.inl (by simpa using hc.symm)
    rcases hends with rfl | rfl | rfl | rfl <;> decide
  have hread := attributePath_of_path ha.path hpath
  have hargs := readArguments_of_ends ha.args stop
  simp only [AttributeSyntax.text, List.cons_append, List.append_assoc, readAttribute]
  rw [hread]
  simp [hargs]

theorem wellFormed_of_readAttribute {s rest : List Char} {a : AttributeSyntax}
    (h : readAttribute s = some (a, rest)) {gap : List Char} (hgap : ∀ c ∈ gap, isGap c = true) :
    a.WellFormed gap := by
  unfold readAttribute at h
  split at h
  · obtain ⟨⟨path, after⟩, hpath, he⟩ := Option.bind_eq_some_iff.mp h
    cases he
    refine ⟨path_of_attributePath hpath, fun text htext => ?_, hgap⟩
    unfold readArguments at htext
    split at htext
    · next hgroup =>
        cases htext
        exact group_of_group hgroup
    · exact absurd htext (by simp)
  · simp at h

theorem ends_attributes (attributes : List (AttributeSyntax × List Char)) :
    Ends (attributes.flatMap fun (a, gap) => a.text ++ gap) := by
  cases attributes with
  | nil => exact ends_nil
  | cons piece rest =>
      intro c hc
      exact Or.inr (by simpa [AttributeSyntax.text] using hc.symm)

theorem head?_attributes (attributes : List (AttributeSyntax × List Char)) :
    ∀ c ∈ (attributes.flatMap fun (a, gap) => a.text ++ gap).head?, isGap c = false := by
  cases attributes with
  | nil => simp
  | cons piece rest =>
      intro c hc
      have hat : '@' = c := by simpa [AttributeSyntax.text] using hc
      exact hat ▸ not_isGap_at

theorem readAttributes_of_wellFormed {attributes : List (AttributeSyntax × List Char)}
    (h : ∀ piece ∈ attributes, piece.1.WellFormed piece.2) :
    readAttributes (attributes.flatMap fun (a, gap) => a.text ++ gap) = (attributes, []) := by
  induction attributes with
  | nil =>
      rw [List.flatMap_nil, readAttributes]
      rfl
  | cons piece rest ih =>
      obtain ⟨a, gap⟩ := piece
      have ha : a.WellFormed gap := h _ (List.mem_cons_self ..)
      have ih := ih fun piece hpiece => h piece (List.mem_cons_of_mem _ hpiece)
      have hread := readAttribute_of_wellFormed ha
        (ends_append_of_gap ha.gap (ends_attributes rest))
      rw [List.flatMap_cons, List.append_assoc, readAttributes]
      split
      · next he =>
          rw [hread] at he
          exact absurd he (by simp)
      · next a' after he =>
          rw [hread] at he
          cases he
          rw [dropWhile_append_of_stop ha.gap (head?_attributes rest),
            takeWhile_append_of_stop ha.gap (head?_attributes rest), ih]

theorem wellFormed_of_readAttributes (s : List Char) :
    ∀ piece ∈ (readAttributes s).1, piece.1.WellFormed piece.2 := by
  fun_induction readAttributes s with
  | case1 => simp
  | case2 s a rest ha more after he ih =>
      rw [he] at ih
      intro piece hpiece
      rcases List.mem_cons.mp hpiece with rfl | hpiece
      · exact wellFormed_of_readAttribute ha fun c hc => List.mem_takeWhile_imp hc
      · exact ih piece hpiece

/-! ### Lines -/

/-- A name with no name character after it is the longest name at the front. -/
theorem length_le_of_stop {name s other : List Char} (stop : ∀ c ∈ s.head?, isNameChar c = false)
    (hfront : other <+: name ++ s) (hother : Name other) : other.length ≤ name.length := by
  by_contra hlonger
  obtain ⟨rest, hrest⟩ := hfront
  obtain ⟨more, rfl⟩ : ∃ more, other = name ++ more := by
    obtain ⟨more, hmore⟩ := List.prefix_of_prefix_length_le (List.prefix_append name s)
      ⟨rest, hrest⟩ (by omega)
    exact ⟨more, hmore.symm⟩
  obtain ⟨c, more, rfl⟩ : ∃ c tail, more = c :: tail := by
    cases more with
    | nil => simp at hlonger
    | cons c tail => exact ⟨c, tail, rfl⟩
  have hs : s = c :: (more ++ rest) := by simpa using hrest.symm
  have hc : isNameChar c = true := by
    generalize hfull : name ++ c :: more = full at hother
    obtain ⟨hstart, hchars⟩ := hother
    have hmem : c ∈ name ++ c :: more := by simp
    rw [hfull] at hmem
    rcases List.mem_cons.mp hmem with rfl | hmem
    · exact isNameChar_of_isNameStart hstart
    · exact hchars c hmem
  have hnot : isNameChar c = false := stop c (by simp [hs])
  rw [hc] at hnot
  exact Bool.noConfusion hnot

/-- After the longest name no name character follows. -/
theorem stop_of_longest {name s : List Char} (hname : Name name)
    (longest : ∀ other, other <+: name ++ s → Name other → other.length ≤ name.length) :
    ∀ c ∈ s.head?, isNameChar c = false := by
  intro c hc
  by_contra htaken
  obtain ⟨rest, rfl⟩ : ∃ rest, s = c :: rest := by
    cases s with
    | nil => simp at hc
    | cons d rest => exact ⟨rest, by simpa using hc⟩
  have hlonger : Name (name ++ [c]) := by
    obtain ⟨hstart, hchars⟩ := hname
    refine .mk hstart fun d hd => ?_
    rcases List.mem_append.mp hd with hd | hd
    · exact hchars d hd
    · rw [List.mem_singleton.mp hd]
      simpa using htaken
  have hlength := longest (name ++ [c]) ⟨rest, by simp⟩ hlonger
  simp only [List.length_append, List.length_singleton] at hlength
  omega

theorem FieldSyntax.parse?_of_decomposes {f : FieldSyntax} {text : List Char}
    (h : f.Decomposes text) : FieldSyntax.parse? text = some f := by
  obtain ⟨lead, name, nameGap, type, typeGap, attributes⟩ := f
  obtain ⟨rfl, hlead, hname, longest, hnameGap, htype, htypeGap, hattributes⟩ := h
  dsimp only at hlead hname longest hnameGap htype htypeGap hattributes
  subst hlead
  -- The text after the name, after the type and after its gap.
  let attributesText := attributes.flatMap fun (a, gap) => a.text ++ gap
  let afterName := nameGap ++ (type ++ (typeGap ++ attributesText))
  have htext : FieldSyntax.text ⟨[], name, nameGap, type, typeGap, attributes⟩ =
      name ++ afterName := by
    simp [FieldSyntax.text, afterName, attributesText]
  rw [htext] at longest ⊢
  have hlead : ∀ c ∈ (name ++ afterName).head?, isGap c = false := by
    obtain ⟨d, rest, rfl, hd⟩ := exists_cons_of_name hname
    intro c hc
    have hdc : d = c := by simpa using hc
    exact hdc ▸ hd
  have hnoGap := @dropWhile_append_of_stop _ [] _ (by simp) hlead
  have hnoLead := @takeWhile_append_of_stop _ [] _ (by simp) hlead
  have hreadName := identifier_of_name hname (stop_of_longest hname longest)
  have htypeHead : ∀ c ∈ (type ++ (typeGap ++ attributesText)).head?, isGap c = false := by
    obtain ⟨d, rest, rfl, hd⟩ := exists_cons_of_typeWord htype
    intro c hc
    have hdc : d = c := by simpa using hc
    exact hdc ▸ hd
  have hends : Ends (typeGap ++ attributesText) :=
    ends_append_of_gap htypeGap (ends_attributes attributes)
  have hreadType := typeToken_of_typeWord htype hends
  have hafterName := dropWhile_append_of_stop hnameGap htypeHead
  have hnameGap := takeWhile_append_of_stop hnameGap htypeHead
  have hafterType := dropWhile_append_of_stop htypeGap (head?_attributes attributes)
  have htypeGap := takeWhile_append_of_stop htypeGap (head?_attributes attributes)
  have hreadAttributes := readAttributes_of_wellFormed hattributes
  simp only [List.nil_append] at hnoGap hnoLead
  rw [FieldSyntax.parse?, hnoGap, hnoLead, hreadName]
  simp [afterName, attributesText, hafterName, hnameGap, hreadType, hafterType, htypeGap,
    hreadAttributes]

theorem FieldSyntax.decomposes_of_parse? {f : FieldSyntax} {text : List Char}
    (hlead : ∀ c ∈ text.head?, isGap c = false) (h : FieldSyntax.parse? text = some f) :
    f.Decomposes text := by
  have hnoGap : text.dropWhile isGap = text :=
    @dropWhile_append_of_stop _ [] _ (by simp) hlead
  have hnoLead : text.takeWhile isGap = [] :=
    @takeWhile_append_of_stop _ [] _ (by simp) hlead
  obtain ⟨⟨name, afterName⟩, hname, h⟩ := Option.bind_eq_some_iff.mp h
  obtain ⟨⟨type, afterType⟩, htype, h⟩ := Option.bind_eq_some_iff.mp h
  dsimp only at h
  obtain ⟨_, hguard, he⟩ := Option.bind_eq_some_iff.mp h
  cases he
  rw [hnoGap] at hname
  obtain ⟨hnameOk, hstop⟩ := name_of_identifier hname
  obtain ⟨htypeOk, htypeText⟩ := typeWord_of_typeToken htype
  have hrest : (readAttributes (afterType.dropWhile isGap)).2 = [] :=
    (Option.guard_eq_some' _).mp hguard
  have hattributes := readAttributes_append (afterType.dropWhile isGap)
  have htext := identifier_append hname
  rw [hrest, List.append_nil] at hattributes
  refine ⟨?_, hnoLead, hnameOk, ?_, fun c hc => List.mem_takeWhile_imp hc, htypeOk,
    fun c hc => List.mem_takeWhile_imp hc, wellFormed_of_readAttributes _⟩
  · simp only [FieldSyntax.text, hnoLead, List.nil_append, List.append_assoc]
    rw [hattributes, List.takeWhile_append_dropWhile, htypeText, List.takeWhile_append_dropWhile,
      htext]
  · intro other hfront hother
    rw [← htext] at hfront
    exact length_le_of_stop hstop hfront hother

/-- A text that starts with no gap is read as its decomposition, if it has one. -/
theorem FieldSyntax.parse?_eq_some_iff {f : FieldSyntax} {text : List Char}
    (hlead : ∀ c ∈ text.head?, isGap c = false) :
    FieldSyntax.parse? text = some f ↔ f.Decomposes text :=
  ⟨decomposes_of_parse? hlead, parse?_of_decomposes⟩

/-- A text has at most one decomposition. -/
theorem FieldSyntax.Decomposes.unique {f g : FieldSyntax} {text : List Char}
    (hf : f.Decomposes text) (hg : g.Decomposes text) : f = g :=
  Option.some.inj ((parse?_of_decomposes hf).symm.trans (parse?_of_decomposes hg))

/-! ### Declarations -/

theorem arguments_toAttribute {a : AttributeSyntax} (hargs : ∀ text ∈ a.args, Group text) :
    Arguments a.args a.toAttribute.args := by
  cases h : a.args with
  | none =>
      rw [AttributeSyntax.toAttribute, h]
      exact .none
  | some text =>
      obtain ⟨hinner⟩ := hargs text h
      rename_i inner
      have htext : a.toAttribute.args = some (String.ofList (Text.trim inner)) := by
        simp [AttributeSyntax.toAttribute, h]
      rw [htext]
      exact .group inner

theorem Arguments.unique {written : Option (List Char)} {a b : Option String}
    (ha : Arguments written a) (hb : Arguments written b) : a = b := by
  cases ha with
  | none => cases hb with
    | none => rfl
  | group inner =>
      generalize hw : '(' :: (inner ++ [')']) = text at hb
      cases hb with
      | group other =>
          have hinner : inner = other := by simpa using hw
          rw [hinner]

/-- What a decomposition declares. -/
theorem FieldSyntax.Decomposes.declares_iff {f : FieldSyntax} {text : List Char}
    (h : f.Decomposes text) {d : Declaration} : f.Declares d ↔ f.toDeclaration = d := by
  have hargs : ∀ piece ∈ f.attributes, Arguments piece.1.args piece.1.toAttribute.args :=
    fun piece hpiece => arguments_toAttribute (h.attributes piece hpiece).args
  constructor
  · intro hd
    obtain ⟨name, type, attributes⟩ := d
    obtain ⟨hname, htype, hattributes⟩ := hd
    dsimp only at hname htype hattributes
    have hlist : f.attributes.map (fun (a, _) => a.toAttribute) = attributes := by
      generalize f.attributes = pieces at hargs hattributes
      induction hattributes with
      | nil => rfl
      | @cons a piece as pieces hhead _ ih =>
          have ih := ih fun piece hpiece => hargs piece (List.mem_cons_of_mem _ hpiece)
          obtain ⟨hpath, harguments⟩ := hhead
          have hsame := (hargs piece (List.mem_cons_self ..)).unique harguments
          obtain ⟨path, args⟩ := a
          dsimp only at hpath hsame
          rw [List.map_cons, ih, ← hsame, ← String.ofList_toList (s := path), hpath]
          rfl
    simp only [FieldSyntax.toDeclaration, hlist, ← hname, ← htype, String.ofList_toList]
  · rintro rfl
    refine ⟨by simp [toDeclaration], by simp [toDeclaration], ?_⟩
    simp only [toDeclaration]
    generalize f.attributes = pieces at hargs
    induction pieces with
    | nil => exact .nil
    | cons piece rest ih =>
        have ih := ih fun piece hpiece => hargs piece (List.mem_cons_of_mem _ hpiece)
        refine .cons ⟨?_, hargs piece (List.mem_cons_self ..)⟩ ih
        simp [AttributeSyntax.toAttribute]

theorem isBlank_of_isGap {c : Char} (h : isGap c = true) : Text.isBlank c = true := by
  simp only [isGap, Bool.or_eq_true, beq_iff_eq] at h
  rcases h with rfl | rfl <;> decide

theorem isGap_of_not_isBlank {c : Char} (h : Text.isBlank c = false) : isGap c = false := by
  by_contra hgap
  have hblank := isBlank_of_isGap (by simpa using hgap)
  rw [h] at hblank
  exact Bool.noConfusion hblank

theorem Declaration.parse?_eq_bind (line : String) :
    Declaration.parse? line =
      if Text.trim line.toList = [] ∨ (Text.trim line.toList).head? = some '@' then none
      else (FieldSyntax.parse? (Text.trim line.toList)).map FieldSyntax.toDeclaration := by
  unfold Declaration.parse?
  split
  · next h => simp [h]
  · next h => simp [h]
  · next hnil hat =>
      rw [if_neg]
      rintro (h | h)
      · exact hnil h
      · obtain ⟨rest, hrest⟩ := List.head?_eq_some_iff.mp h
        exact hat rest hrest

/-- A line that declares a field has a decomposition that declares it. -/
theorem exists_decomposes_of_parse? {line : String} {d : Declaration}
    (h : Declaration.parse? line = some d) :
    ∃ f : FieldSyntax, f.Decomposes (Text.trim line.toList) ∧ f.toDeclaration = d := by
  rw [Declaration.parse?_eq_bind] at h
  split at h
  · exact absurd h (by simp)
  · obtain ⟨f, hf, hd⟩ := Option.map_eq_some_iff.mp h
    have hlead : ∀ c ∈ (Text.trim line.toList).head?, isGap c = false :=
      fun c hc => isGap_of_not_isBlank (Text.head?_trim _ c hc)
    exact ⟨f, FieldSyntax.decomposes_of_parse? hlead hf, hd⟩

/-- A line declares a field exactly if, trimmed, it is not empty, does not start with `@` and has a
decomposition; the field is the one that the decomposition declares, and no text has two. -/
theorem Declaration.parse?_eq_some_iff_decomposes (line : String) :
    let text := Text.trim line.toList
    (∀ d, Declaration.parse? line = some d ↔ text ≠ [] ∧ text.head? ≠ some '@' ∧
      ∃ f : FieldSyntax, f.Decomposes text ∧ f.Declares d) ∧
    ∀ f g : FieldSyntax, f.Decomposes text → g.Decomposes text → f = g := by
  intro text
  refine ⟨fun d => ?_, fun f g => FieldSyntax.Decomposes.unique⟩
  have hlead : ∀ c ∈ text.head?, isGap c = false := by
    intro c hc
    by_contra hgap
    have hblank := isBlank_of_isGap (by simpa using hgap)
    rw [Text.head?_trim line.toList c hc] at hblank
    exact Bool.noConfusion hblank
  have hread : (FieldSyntax.parse? text).map FieldSyntax.toDeclaration = some d ↔
      ∃ f : FieldSyntax, f.Decomposes text ∧ f.Declares d := by
    rw [Option.map_eq_some_iff]
    constructor
    · rintro ⟨f, hf, hd⟩
      have hdecomposes := (FieldSyntax.parse?_eq_some_iff hlead).mp hf
      exact ⟨f, hdecomposes, hdecomposes.declares_iff.mpr hd⟩
    · rintro ⟨f, hdecomposes, hd⟩
      exact ⟨f, (FieldSyntax.parse?_eq_some_iff hlead).mpr hdecomposes,
        hdecomposes.declares_iff.mp hd⟩
  rw [Declaration.parse?_eq_bind, ← hread]
  by_cases hskipped : text = [] ∨ text.head? = some '@'
  · rw [if_pos hskipped]
    refine iff_of_false (by simp) fun ⟨hnil, hat, _⟩ => ?_
    exact hskipped.elim hnil hat
  · rw [if_neg hskipped]
    rw [not_or] at hskipped
    exact ⟨fun h => ⟨hskipped.1, hskipped.2, h⟩, fun h => h.2.2⟩

/-- An unbalanced parenthesis inside a string does not count. -/
theorem Declaration.parse?_eq_some_iff_decomposes_author :
    let line := " author User? @relation(\"By (\", fields: [by]) @a.b\t"
    ∃ f : FieldSyntax, f.Decomposes (Text.trim line.toList) ∧
      f.Declares ⟨"author", "User?",
        [⟨"relation", some "\"By (\", fields: [by]"⟩, ⟨"a.b", none⟩]⟩ ∧
      ∀ g : FieldSyntax, g.Decomposes (Text.trim line.toList) → g = f := by
  intro line
  obtain ⟨hread, hunique⟩ := Declaration.parse?_eq_some_iff_decomposes line
  have hline : Declaration.parse? line = some ⟨"author", "User?",
      [⟨"relation", some "\"By (\", fields: [by]"⟩, ⟨"a.b", none⟩]⟩ := by decide +kernel
  obtain ⟨-, -, f, hf, hd⟩ := (hread _).mp hline
  exact ⟨f, hf, hd, fun g hg => hunique g f hg hf⟩

end DataSchema.Field
