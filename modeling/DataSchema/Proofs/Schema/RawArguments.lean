import DataSchema.Proofs.Schema.Lines
import DataSchema.Proofs.Text.Squeezing

/-!
# DataSchema.Proofs.Schema.RawArguments

**What is kept of the arguments of an attribute.** The attributes of a property are written one after
the other at the end of its physical line, and the arguments of each are the text between its
parentheses, collapsed (`Attribute.WrittenAs`). The grammar and the taking away of the parentheses
change nothing, but a line is collapsed before it is read, the strings on it too.

So the arguments are the text between the parentheses, apart from blanks at its ends, if and only if
single spaces are the only blanks in it. The default value `"a  b"` is kept with one space.
-/

namespace DataSchema

open Source (physicalLines)
open Text (Spaced Squeezed collapse isBlank trim)
open DataSchema.Field (AttributeSyntax Declaration FieldSyntax)

/-- The text is the attribute with blanks after it. The arguments are collapsed. -/
inductive Attribute.WrittenAs : Attribute → List Char → Prop
  | bare {path gap : List Char} (hgap : ∀ c ∈ gap, isBlank c = true) :
      WrittenAs ⟨String.ofList path, none⟩ ('@' :: (path ++ gap))
  | group {path inner gap : List Char} (hgap : ∀ c ∈ gap, isBlank c = true) :
      WrittenAs ⟨String.ofList path, some (String.ofList (collapse inner))⟩
        ('@' :: (path ++ '(' :: (inner ++ ')' :: gap)))

/-! ### Attributes on a line -/

namespace Field

variable {line : List Char}

/-- Arguments that are read off a collapsed line are collapsed. -/
theorem trim_eq_collapse_of_squeezed {written inner : List Char} (hline : inner <:+: collapse line)
    (h : Squeezed written inner) : trim inner = collapse written := by
  have hspaced : Spaced (trim inner) := (Text.spaced_collapse line).of_piece
    ((Text.infix_trim inner).trans hline) (Text.trimmed_trim inner)
  rw [h.collapse_eq, ← Text.collapse_trim, hspaced.collapse_eq]

theorem AttributeSyntax.writtenAs_of_squeezed {a : AttributeSyntax} {gap written : List Char}
    (ha : a.WellFormed gap) (hline : a.text ++ gap <:+: collapse line)
    (h : Squeezed written (a.text ++ gap)) : a.toAttribute.WrittenAs written := by
  obtain ⟨path, args⟩ := a
  have hword : ∀ c ∈ '@' :: path, isBlank c = false :=
    List.forall_mem_cons.mpr ⟨by decide, isBlank_of_mem_path ha.path⟩
  have htext : AttributeSyntax.text ⟨path, args⟩ ++ gap = '@' :: path ++ (args.getD [] ++ gap) :=
    List.append_assoc ..
  have hgap : ∀ c ∈ gap, isBlank c = true := fun c hc => isBlank_of_isGap (ha.gap c hc)
  rw [htext] at hline h
  obtain ⟨rest, rfl, hrest⟩ := h.exists_word_append hword
  cases args with
  | none => exact .bare (hrest.all_blank hgap)
  | some group =>
      obtain ⟨inner, -, rfl⟩ := exists_body_of_group (ha.args group rfl)
      have hgroup : '(' :: (inner ++ [')']) ++ gap = '(' :: (inner ++ ')' :: gap) := by simp
      rw [Option.getD_some, hgroup] at hline hrest
      obtain ⟨body, rfl, hbody⟩ := hrest.exists_cons (by decide)
      obtain ⟨inside, closing, rfl, hinside, hclosing⟩ := hbody.exists_append
      obtain ⟨after, rfl, hafter⟩ := hclosing.exists_cons (by decide)
      have hinfix : inner <:+: collapse line :=
        List.IsInfix.trans ⟨'@' :: path ++ ['('], ')' :: gap, by simp⟩ hline
      have hargs : AttributeSyntax.toAttribute ⟨path, some ('(' :: (inner ++ [')']))⟩ =
          ⟨String.ofList path, some (String.ofList (collapse inside))⟩ := by
        rw [← trim_eq_collapse_of_squeezed hinfix hinside]
        simp [AttributeSyntax.toAttribute]
      rw [hargs]
      exact .group (hafter.all_blank hgap)

/-- The texts of the attributes stand side by side. -/
theorem exists_writtenAs {attributes : List (AttributeSyntax × List Char)} {written : List Char}
    (hattributes : ∀ piece ∈ attributes, piece.1.WellFormed piece.2)
    (hline : (attributes.flatMap fun (a, gap) => a.text ++ gap) <:+: collapse line)
    (h : Squeezed written (attributes.flatMap fun (a, gap) => a.text ++ gap)) :
    ∃ pieces, written = pieces.flatten ∧
      List.Forall₂ Attribute.WrittenAs (attributes.map fun (a, _) => a.toAttribute) pieces := by
  induction attributes generalizing written with
  | nil => exact ⟨[], h.eq_nil, .nil⟩
  | cons piece rest ih =>
      obtain ⟨a, gap⟩ := piece
      rw [List.flatMap_cons] at hline h
      obtain ⟨first, more, rfl, hfirst, hmore⟩ := h.exists_append
      have ha := AttributeSyntax.writtenAs_of_squeezed (hattributes _ (List.mem_cons_self ..))
        ((List.prefix_append ..).isInfix.trans hline) hfirst
      obtain ⟨pieces, rfl, hpieces⟩ := ih
        (fun other hother => hattributes other (List.mem_cons_of_mem _ hother))
        ((List.suffix_append ..).isInfix.trans hline) hmore
      exact ⟨first :: pieces, rfl, .cons ha hpieces⟩

/-- The attributes that a line declares are written at its end. -/
theorem Declaration.exists_writtenAs_of_parse? {d : Declaration}
    (h : Declaration.parse? (String.ofList (collapse line)) = some d) :
    ∃ front pieces after, line = front ++ (pieces.flatten ++ after) ∧
      (∀ c ∈ after, isBlank c = true) ∧ List.Forall₂ Attribute.WrittenAs d.attributes pieces := by
  obtain ⟨f, hf, rfl⟩ := exists_decomposes_of_parse? h
  rw [String.toList_ofList, (Text.spaced_collapse line).trimmed.trim_eq] at hf
  obtain ⟨core, after, hcore, hafter, hsqueezed⟩ := Text.exists_squeezed_collapse line
  have htext : f.name ++ (f.nameGap ++ (f.type ++ f.typeGap)) ++
      (f.attributes.flatMap fun (a, gap) => a.text ++ gap) = collapse line := by
    rw [← hf.eq, FieldSyntax.text, hf.lead]
    simp only [List.nil_append, List.append_assoc]
  rw [← htext] at hsqueezed
  obtain ⟨front, written, rfl, -, hwritten⟩ := hsqueezed.exists_append
  obtain ⟨pieces, rfl, hpieces⟩ :=
    exists_writtenAs hf.attributes ⟨_, [], by rw [List.append_nil, htext]⟩ hwritten
  refine ⟨line.takeWhile isBlank ++ front, pieces, after, ?_, hafter, hpieces⟩
  rw [List.append_assoc, ← List.append_assoc front, ← hcore, List.takeWhile_append_dropWhile]

end Field

/-- A member of a list has its piece of the text. -/
theorem Attribute.exists_infix_of_forall₂ {attributes : List Attribute}
    {pieces : List (List Char)} (h : List.Forall₂ Attribute.WrittenAs attributes pieces)
    {a : Attribute} (ha : a ∈ attributes) :
    ∃ piece, a.WrittenAs piece ∧ piece <:+: pieces.flatten := by
  induction h with
  | nil => exact absurd ha List.not_mem_nil
  | @cons b piece _ pieces hb _ ih =>
      rw [List.flatten_cons]
      rcases List.mem_cons.mp ha with rfl | ha
      · exact ⟨piece, hb, (List.prefix_append ..).isInfix⟩
      · obtain ⟨other, hother, hinfix⟩ := ih ha
        exact ⟨other, hother, hinfix.trans (List.suffix_append ..).isInfix⟩

/-! ### Properties of a schema -/

/-- **The arguments are collapsed.** The attributes of a property are written side by side at the end
of its physical line, and the arguments of each are the text between its parentheses, collapsed. Up
to the blanks at its ends they are that text exactly if the only blanks in it are single spaces. -/
theorem Schema.exists_writtenAs_compile {source : String} {markers : Markers} {m : Model}
    {p : Property} (hm : m ∈ (compile source markers).models.values) (hp : p ∈ m.properties) :
    ∃ line, (physicalLines source.toList)[p.line]? = some line ∧
      (∃ front pieces after, line = front ++ (pieces.flatten ++ after) ∧
        (∀ c ∈ after, isBlank c = true) ∧
        List.Forall₂ Attribute.WrittenAs p.attributes pieces) ∧
      ∀ a ∈ p.attributes, ∀ args ∈ a.args, ∃ inner,
        '@' :: (a.path.toList ++ '(' :: (inner ++ [')'])) <:+: line ∧
          args.toList = collapse inner ∧ (args.toList = trim inner ↔ Spaced (trim inner)) := by
  obtain ⟨line, d, hline, hparse, hproperty⟩ := exists_physicalLine_of_mem hm hp
  have hattributes : p.attributes = d.attributes := congrArg Property.attributes hproperty
  obtain ⟨front, pieces, after, heq, hafter, hwritten⟩ :=
    Declaration.exists_writtenAs_of_parse? hparse
  rw [← hattributes] at hwritten
  refine ⟨line, hline, ⟨front, pieces, after, heq, hafter, hwritten⟩, fun a ha args hargs => ?_⟩
  obtain ⟨piece, hpiece, hinfix⟩ := Attribute.exists_infix_of_forall₂ hwritten ha
  have hinfix : piece <:+: line := by
    rw [heq]
    exact hinfix.trans ⟨front, after, List.append_assoc ..⟩
  cases hpiece with
  | bare => exact absurd hargs (by simp)
  | @group path inner gap =>
      obtain rfl := Option.some.inj hargs
      refine ⟨inner, List.IsInfix.trans ⟨[], gap, by simp⟩ hinfix, String.toList_ofList, ?_⟩
      rw [String.toList_ofList]
      constructor
      · intro hsame
        exact hsame ▸ Text.spaced_collapse inner
      · intro hspaced
        rw [← Text.collapse_trim, hspaced.collapse_eq]

/-- The property of a line with a tab and spaces around the arguments. -/
theorem Schema.exists_writtenAs_compile_default :
    let source := "model A \x7b\n  t String @default(\t\"a b\"  )\n\x7d\n"
    ∃ m ∈ (compile source).models.values, ∃ p ∈ m.properties,
      (physicalLines source.toList)[p.line]? = some "  t String @default(\t\"a b\"  )".toList ∧
        ∃ inner, "@default(".toList ++ (inner ++ [')']) <:+:
            "  t String @default(\t\"a b\"  )".toList ∧
          "\"a b\"".toList = collapse inner := by
  intro source
  have hfield : ∃ m ∈ (compile source).models.values, ∃ p ∈ m.properties,
      p.attributes = [⟨"default", some "\"a b\""⟩] ∧
        (physicalLines source.toList)[p.line]? =
          some "  t String @default(\t\"a b\"  )".toList := by
    decide +kernel
  obtain ⟨m, hm, p, hp, hattributes, hphysical⟩ := hfield
  obtain ⟨line, hline, -, hargs⟩ := exists_writtenAs_compile hm hp
  obtain rfl := Option.some.inj (hphysical.symm.trans hline)
  have ha : ⟨"default", some "\"a b\""⟩ ∈ p.attributes := hattributes ▸ List.mem_singleton_self _
  obtain ⟨inner, hinfix, hcollapse, -⟩ := hargs _ ha _ rfl
  exact ⟨m, hm, p, hp, hphysical, inner, hinfix, hcollapse⟩

/-- A string with two spaces in it: the arguments are nowhere on the line of the property. -/
theorem Schema.exists_args_not_on_line :
    let source := "model A \x7b\n  t String @default(\"a  b\")\n\x7d\n"
    ∃ m ∈ (compile source).models.values, ∃ p ∈ m.properties, ∃ a ∈ p.attributes,
      ∃ args ∈ a.args, ∃ line ∈ (physicalLines source.toList)[p.line]?,
        ¬ args.toList <:+: line := by
  decide +kernel

end DataSchema
