import DataSchema.Proofs.Schema.Lines
import DataSchema.Proofs.Text.Spacing

/-!
# DataSchema.Proofs.Schema.Separation

**What separates the name of a field from its type.** Between the two stands a gap, which the reader
lets be empty. A name ends where its characters end, so a gap is needed only in front of a type token
that starts with a letter, a digit or an underscore, as every name of a type does. In front of other
tokens it may be missing: `tags[]` is a field with the name `tags` and the type token `[]`.

Whether it is missing can be seen at one character of the line, the one right after the name at the
front (`RunsOn`). Where that character is a gap, the gap separates name and type; where it is an `@`
or is not there, the line declares nothing; where it is anything else, the type token starts with it.
-/

namespace DataSchema

open Source (physicalLines)
open Text (isBlank)

namespace Field

open Grammar (Name TypeWord)

/-- The name at the front runs on: right after it stands a character that is no gap and does not
start an attribute. -/
def RunsOn (text : List Char) : Prop :=
  ∃ c ∈ (text.dropWhile isNameChar).head?, isGap c = false ∧ c ≠ '@'

theorem runsOn_iff {text : List Char} : RunsOn text ↔
    (text.dropWhile isNameChar).head?.any (fun c => !isGap c && c != '@') = true := by
  simp [RunsOn, Option.any_eq_true]

instance (text : List Char) : Decidable (RunsOn text) := decidable_of_iff' _ runsOn_iff

/-- A type token starts with no gap and no `@`. -/
theorem head?_typeWord {type : List Char} (h : TypeWord type) :
    ∃ c rest, type = c :: rest ∧ isGap c = false ∧ c ≠ '@' := by
  obtain ⟨unit, rest, rfl, hunit⟩ : ∃ unit rest, type = unit ++ rest ∧ Grammar.TypeUnit unit := by
    cases h with
    | single hunit => exact ⟨type, [], (List.append_nil _).symm, hunit⟩
    | cons hunit _ => exact ⟨_, _, rfl, hunit⟩
  cases hunit with
  | group hgroup =>
      obtain ⟨_⟩ := hgroup
      exact ⟨'(', _, rfl, by decide, by decide⟩
  | char hgap hat _ => exact ⟨_, rest, rfl, hgap, hat⟩

section Decomposes

variable {f : FieldSyntax} {text : List Char}

/-- After the run of name characters at the front come the gap and the type token. -/
theorem FieldSyntax.Decomposes.dropWhile_isNameChar (h : f.Decomposes text) :
    ∃ rest, text.dropWhile isNameChar = f.nameGap ++ (f.type ++ rest) := by
  obtain ⟨rest, hpieces⟩ : ∃ rest, f.name ++ (f.nameGap ++ (f.type ++ rest)) = text := by
    rw [← h.eq, FieldSyntax.text, h.lead]
    simp only [List.nil_append, List.append_assoc]
    exact ⟨_, rfl⟩
  have hcut := List.takeWhile_append_dropWhile (p := isNameChar) (l := text)
  rw [h.takeWhile_isNameChar] at hcut
  exact ⟨rest, List.append_cancel_left (hcut.trans hpieces.symm)⟩

/-- There is no gap between name and type if and only if the name runs on. -/
theorem FieldSyntax.Decomposes.nameGap_eq_nil_iff (h : f.Decomposes text) :
    f.nameGap = [] ↔ RunsOn text := by
  obtain ⟨rest, hafter⟩ := h.dropWhile_isNameChar
  rw [RunsOn, hafter]
  obtain ⟨c, more, htype, hgap, hat⟩ := head?_typeWord h.type
  constructor
  · intro hnil
    rw [hnil, htype]
    exact ⟨c, rfl, hgap, hat⟩
  · rintro ⟨d, hd, hdgap, -⟩
    cases hgaps : f.nameGap with
    | nil => rfl
    | cons e _ =>
        rw [hgaps] at hd
        obtain rfl := Option.some.inj hd
        have hseparates : isGap e = true := h.nameGap e (by simp [hgaps])
        rw [hdgap] at hseparates
        exact Bool.noConfusion hseparates

/-- Without blanks there are no gaps. -/
theorem FieldSyntax.Decomposes.nameGap_eq_nil (h : f.Decomposes text)
    (hblank : ∀ c ∈ text, isBlank c = false) : f.nameGap = [] := by
  obtain ⟨rest, hafter⟩ := h.dropWhile_isNameChar
  refine List.eq_nil_iff_forall_not_mem.mpr fun c hc => ?_
  have hmem : c ∈ text := by
    refine (List.dropWhile_sublist isNameChar).subset ?_
    rw [hafter]
    exact List.mem_append_left _ hc
  have hgap := isBlank_of_isGap (h.nameGap c hc)
  rw [hblank c hmem] at hgap
  exact Bool.noConfusion hgap

end Decomposes

theorem Declaration.runsOn_of_parse? {line : String} {d : Declaration}
    (h : Declaration.parse? line = some d)
    (hblank : ∀ c ∈ Text.trim line.toList, isBlank c = false) : RunsOn (Text.trim line.toList) := by
  obtain ⟨f, hf, -⟩ := exists_decomposes_of_parse? h
  exact hf.nameGap_eq_nil_iff.mp (hf.nameGap_eq_nil hblank)

end Field

open DataSchema.Field (Declaration FieldSyntax RunsOn)

/-! ### Lines of a schema -/

/-- A line with one word is collapsed to the word. -/
theorem Text.collapse_of_words_eq_singleton {line word : List Char} (h : words line = [word]) :
    collapse line = word ∧ ∀ c ∈ word, isBlank c = false := by
  refine ⟨?_, (mem_words (h ▸ List.mem_singleton_self word)).2⟩
  rw [collapse, h, List.intercalate_singleton]

/-- **A name, a gap and a type.** The gap between the name and the type of a field is empty if and
only if the name runs on. So a text without blanks declares no field unless its name runs on, and a
line with one word gives a schema no property unless the word does. -/
theorem Schema.nameGap_eq_nil_iff_runsOn (line source : String) (markers : Markers) :
    (∀ d, Declaration.parse? line = some d → ∃ f : FieldSyntax,
      f.Decomposes (Text.trim line.toList) ∧ f.Declares d ∧
        (f.nameGap = [] ↔ RunsOn (Text.trim line.toList))) ∧
    ((∀ c ∈ Text.trim line.toList, isBlank c = false) → ¬ RunsOn (Text.trim line.toList) →
      Declaration.parse? line = none) ∧
    ∀ m ∈ (compile source markers).models.values, ∀ p ∈ m.properties,
      ∃ written, (physicalLines source.toList)[p.line]? = some written ∧
        ∀ word, Text.words written = [word] → RunsOn word := by
  refine ⟨fun d hparse => ?_, fun hblank hruns => ?_, fun m hm p hp => ?_⟩
  · obtain ⟨f, hf, hd⟩ := Field.exists_decomposes_of_parse? hparse
    exact ⟨f, hf, hf.declares_iff.mpr hd, hf.nameGap_eq_nil_iff⟩
  · by_contra hparse
    obtain ⟨d, hparse⟩ := Option.ne_none_iff_exists'.mp hparse
    exact hruns (Declaration.runsOn_of_parse? hparse hblank)
  · obtain ⟨written, d, hline, hparse, -⟩ := exists_physicalLine_of_mem hm hp
    refine ⟨written, hline, fun word hword => ?_⟩
    obtain ⟨hcollapse, hblank⟩ := Text.collapse_of_words_eq_singleton hword
    have htrim : Text.trim word = word := (Text.spaced_of_no_blank hblank).trimmed.trim_eq
    have hruns := Declaration.runsOn_of_parse? hparse
    rw [hcollapse, String.toList_ofList, htrim] at hruns
    exact hruns hblank

/-- A field with a gap, a name that does not run on, and a field of one word that does. -/
theorem Schema.nameGap_eq_nil_iff_runsOn_ids :
    let source := "model A \x7b\n ids Int[]\n justaname\n x\"\"\n\x7d\n"
    (∃ f : FieldSyntax, f.Declares ⟨"ids", "Int[]", []⟩ ∧ f.nameGap ≠ []) ∧
      Declaration.parse? "justaname" = none ∧
      ∃ m ∈ (compile source).models.values, ∃ p ∈ m.properties, p.key = "x" ∧
        (physicalLines source.toList)[p.line]? = some " x\"\"".toList ∧
        Text.words " x\"\"".toList = ["x\"\"".toList] ∧ RunsOn "x\"\"".toList := by
  intro source
  have hids : Declaration.parse? "ids Int[]" = some ⟨"ids", "Int[]", []⟩ := by decide +kernel
  obtain ⟨f, -, hd, hgap⟩ := (nameGap_eq_nil_iff_runsOn "ids Int[]" source {}).1 _ hids
  have hname := (nameGap_eq_nil_iff_runsOn "justaname" source {}).2.1
    (Text.hasBlank_eq_false_iff.mp (by decide +kernel)) (by decide +kernel)
  have hfield : ∃ m ∈ (compile source).models.values, ∃ p ∈ m.properties, p.key = "x" ∧
      (physicalLines source.toList)[p.line]? = some " x\"\"".toList := by
    decide +kernel
  obtain ⟨m, hm, p, hp, hkey, hline⟩ := hfield
  have hwords : Text.words " x\"\"".toList = ["x\"\"".toList] := by decide +kernel
  obtain ⟨written, hwritten, hruns⟩ :=
    (nameGap_eq_nil_iff_runsOn "" source {}).2.2 m hm p hp
  obtain rfl := Option.some.inj (hline.symm.trans hwritten)
  refine ⟨⟨f, hd, fun hnil => ?_⟩, hname, m, hm, p, hp, hkey, hline, hwords, hruns _ hwords⟩
  exact absurd (hgap.mp hnil) (by decide +kernel)

/-- A line of one word, without any gap, that is a field. -/
theorem Schema.exists_property_of_one_word :
    Declaration.parse? "tags[]" = some ⟨"tags", "[]", []⟩ ∧
      Text.words "tags[]".toList = ["tags[]".toList] ∧
      ∃ m ∈ (compile "model A \x7b\n tags[]\n\x7d\n").models.values, ∃ p ∈ m.properties,
        p.key = "tags" ∧ p.line = 1 := by
  decide +kernel

end DataSchema
