import DataSchema.Config.Basic
import DataSchema.Proofs.Field.Writing

/-!
# DataSchema.Proofs.Config.Validation

**Which markers a configuration may have.** A marker can take effect if some field line has an
attribute that it names, and the markers that can are exactly the attribute paths with an `@` before
them (`canTakeEffect_iff`). All of them pass the check that a configuration goes through.

The check does not ask for a path. It asks for some text after the `@` and refuses blanks and opening
parentheses, which is enough to catch a marker without its `@` or with arguments. A marker with some
other character that no name has, or with a part between its dots that is empty or starts with a
digit, is admitted and names no attribute (`IsStray`). So a configuration is accepted if and only if
each of its markers can take effect or is stray (`parse_eq_ok_iff_of_decodes`).
-/

namespace DataSchema

open DataSchema.Field (Declaration AttributeSyntax isNameStart isNameChar)
open DataSchema.Field.Grammar (Name Path TypeWord)

/-! ### Paths by their parts -/

namespace Field

theorem dot_not_mem_name {name : List Char} (h : Name name) : '.' ∉ name := by
  intro hmem
  exact absurd (isNameChar_of_mem_name h '.' hmem) (by decide)

/-- A path is what has names between its dots. -/
theorem path_iff_parts {path : List Char} : Path path ↔ ∀ part ∈ path.splitOn '.', Name part := by
  constructor
  · intro h
    induction h with
    | @single name hname =>
        rw [List.splitOn_eq_singleton (dot_not_mem_name hname)]
        simpa using hname
    | @dot name rest hname _ ih =>
        have hparts : (name ++ '.' :: rest).splitOn '.' = name :: rest.splitOn '.' := by
          rw [List.splitOn, List.splitOnP_append_cons _ _ (by simp), ← List.splitOn,
            List.splitOn_eq_singleton (dot_not_mem_name hname)]
          rfl
        rw [hparts]
        exact List.forall_mem_cons.mpr ⟨hname, ih⟩
  · intro h
    have hpath : ['.'].intercalate (path.splitOn '.') = path := List.intercalate_splitOn '.'
    rw [← hpath]
    clear hpath
    obtain ⟨first, rest, hparts⟩ := List.exists_cons_of_ne_nil (List.splitOn_ne_nil '.' path)
    rw [hparts] at h ⊢
    clear hparts
    induction rest generalizing first with
    | nil =>
        rw [List.intercalate_singleton]
        exact .single (h first (List.mem_cons_self ..))
    | cons second rest ih =>
        obtain ⟨hfirst, hrest⟩ := List.forall_mem_cons.mp h
        rw [List.intercalate_cons_cons, List.append_assoc, List.singleton_append]
        exact .dot hfirst (ih second hrest)

theorem name_iff {s : List Char} :
    Name s ↔ s.head?.any isNameStart = true ∧ s.all isNameChar = true := by
  refine ⟨fun h => ⟨?_, List.all_eq_true.mpr (isNameChar_of_mem_name h)⟩,
    fun h => name_of_chars h.1 h.2⟩
  obtain ⟨hstart, -⟩ := h
  simpa using hstart

instance (s : List Char) : Decidable (Name s) := decidable_of_iff' _ name_iff

end Field

open DataSchema.Field (path_iff_parts isNameChar_or_dot_of_mem_path isBlank_of_mem_path)

/-! ### Markers -/

/-- Some field line has an attribute that the marker names. -/
def CanTakeEffect (marker : String) : Prop :=
  ∃ line d, Declaration.parse? line = some d ∧ ∃ a ∈ d.attributes, a.matchesMarker marker = true

/-- The marker is an attribute path with its `@`. -/
def IsPathMarker (marker : String) : Prop := ∃ path, marker.toList = '@' :: path ∧ Path path

/-- The check admits the marker, and a part of it between dots is no name. -/
def IsStray (marker : String) : Prop :=
  ∃ path, marker.toList = '@' :: path ∧ path ≠ [] ∧ (∀ c ∈ path, Text.isBlank c = false) ∧
    '(' ∉ path ∧ ∃ part ∈ path.splitOn '.', ¬ Name part

theorem matchesMarker_iff {a : Attribute} {marker : String} :
    a.matchesMarker marker = true ↔ marker.toList = '@' :: a.path.toList := by
  rw [Attribute.matchesMarker, beq_iff_eq, ← String.toList_inj]
  simp

/-- **The markers that can take effect** are the paths of the grammar. -/
theorem canTakeEffect_iff {marker : String} : CanTakeEffect marker ↔ IsPathMarker marker := by
  constructor
  · rintro ⟨line, d, hparse, a, ha, hmatches⟩
    obtain ⟨f, hf, rfl⟩ := Field.exists_decomposes_of_parse? hparse
    obtain ⟨piece, hpiece, rfl⟩ := List.mem_map.mp ha
    refine ⟨piece.1.path, ?_, (hf.attributes piece hpiece).path⟩
    simp [matchesMarker_iff.mp hmatches, AttributeSyntax.toAttribute]
  · rintro ⟨path, hmarker, hpath⟩
    let written : AttributeSyntax := ⟨path, none⟩
    have hwellFormed : ∀ a ∈ [written], a.WellFormed [] := by
      intro a ha
      obtain rfl := List.mem_singleton.mp ha
      exact ⟨hpath, by simp [written], by simp⟩
    have hname : Name ['a'] := by decide
    have htype : TypeWord ['A'] := Field.typeWord_of_chars (by simp) (List.all_eq_true.mp (by decide))
    have hparse := Declaration.parse?_written hname htype hwellFormed (by simp)
    refine ⟨_, _, hparse, written.toAttribute, by simp, ?_⟩
    simp [matchesMarker_iff, hmarker, AttributeSyntax.toAttribute, written]

theorem isWellFormedMarker_iff {marker : String} :
    isWellFormedMarker marker = true ↔ ∃ path, marker.toList = '@' :: path ∧ path ≠ [] ∧
      (∀ c ∈ path, Text.isBlank c = false) ∧ '(' ∉ path := by
  unfold isWellFormedMarker markerPath
  dsimp only
  split
  · next path hmarker => simp [hmarker, Text.hasBlank, and_assoc]
  · next hnot =>
      refine iff_of_false (by simp) ?_
      rintro ⟨path, hmarker, -⟩
      exact hnot path hmarker

/-- The check admits the markers that can take effect, and stray ones. -/
theorem isWellFormedMarker_iff_canTakeEffect {marker : String} :
    isWellFormedMarker marker = true ↔ CanTakeEffect marker ∨ IsStray marker := by
  rw [isWellFormedMarker_iff, canTakeEffect_iff]
  constructor
  · rintro ⟨path, hmarker, hne, hblank, hopening⟩
    by_cases hpath : Path path
    · exact .inl ⟨path, hmarker, hpath⟩
    · rw [path_iff_parts] at hpath
      push Not at hpath
      exact .inr ⟨path, hmarker, hne, hblank, hopening, hpath⟩
  · rintro (⟨path, hmarker, hpath⟩ | ⟨path, hmarker, hne, hblank, hopening, -⟩)
    · refine ⟨path, hmarker, ?_, fun c hc => ?_, fun hmem => ?_⟩
      · obtain ⟨c, rest, rfl, -⟩ := Field.exists_cons_of_path hpath
        exact List.cons_ne_nil _ _
      · exact isBlank_of_mem_path hpath c hc
      · exact absurd (isNameChar_or_dot_of_mem_path hpath _ hmem) (by decide)
    · exact ⟨path, hmarker, hne, hblank, hopening⟩

/-- No stray marker can take effect. -/
theorem IsStray.not_canTakeEffect {marker : String} (h : IsStray marker) :
    ¬ CanTakeEffect marker := by
  obtain ⟨path, hmarker, -, -, -, part, hpart, hnot⟩ := h
  rw [canTakeEffect_iff]
  rintro ⟨other, hother, hpath⟩
  obtain rfl := (List.cons.inj (hmarker.symm.trans hother)).2
  exact hnot (path_iff_parts.mp hpath part hpart)

/-! ### Configurations -/

namespace Config

/-- A configuration is accepted, or the first marker that the check refuses is reported. -/
theorem validate_cases (config : Config) :
    (config.validate = .ok config ∧
        ∀ marker ∈ config.markers.all, isWellFormedMarker marker = true) ∨
      ∃ marker ∈ config.markers.all, isWellFormedMarker marker = false ∧
        config.validate = .error (.malformedMarker marker) := by
  unfold validate
  cases hfind : config.markers.malformed? with
  | none =>
      refine .inl ⟨rfl, fun marker hmem => ?_⟩
      simpa using List.find?_eq_none.mp hfind marker hmem
  | some marker =>
      have hmalformed := List.find?_some hfind
      exact .inr ⟨marker, List.mem_of_find?_eq_some hfind, by simpa using hmalformed, rfl⟩

/-- The text, with its references expanded, decodes to the configuration. -/
def Decodes (env : Environment) (text : String) (config : Config) : Prop :=
  (Toml.parse? (expand env text)).bind ofValue? = some config

theorem parse_of_decodes {env : Environment} {text : String} {config : Config}
    (h : Decodes env text config) : parse env text = config.validate := by
  rw [parse, h]

/-- **A configuration is accepted** if and only if each marker can take effect or is stray, so where
no marker is stray, if and only if each can take effect. If it is not accepted, a marker that is
neither is reported. The markers that can take effect are the attribute paths. -/
theorem parse_eq_ok_iff_of_decodes {env : Environment} {text : String} {config : Config}
    (h : Decodes env text config) :
    (parse env text = .ok config ↔
      ∀ marker ∈ config.markers.all, CanTakeEffect marker ∨ IsStray marker) ∧
    ((∀ marker ∈ config.markers.all, ¬ IsStray marker) →
      (parse env text = .ok config ↔ ∀ marker ∈ config.markers.all, CanTakeEffect marker)) ∧
    (parse env text ≠ .ok config → ∃ marker ∈ config.markers.all,
      ¬ CanTakeEffect marker ∧ ¬ IsStray marker ∧
        parse env text = .error (.malformedMarker marker)) ∧
    ∀ marker, CanTakeEffect marker ↔ IsPathMarker marker := by
  have haccepted : parse env text = .ok config ↔
      ∀ marker ∈ config.markers.all, CanTakeEffect marker ∨ IsStray marker := by
    simp only [← isWellFormedMarker_iff_canTakeEffect]
    rw [parse_of_decodes h]
    rcases validate_cases config with ⟨hok, hall⟩ | ⟨marker, hmem, hmalformed, herror⟩
    · exact iff_of_true hok hall
    · refine iff_of_false (by simp [herror]) fun hall => ?_
      simp [hall marker hmem] at hmalformed
  refine ⟨haccepted, fun hstray => haccepted.trans ?_, fun hrefused => ?_,
    fun _ => canTakeEffect_iff⟩
  · exact forall₂_congr fun marker hmem => or_iff_left (hstray marker hmem)
  · rw [parse_of_decodes h] at hrefused ⊢
    rcases validate_cases config with ⟨hok, -⟩ | ⟨marker, hmem, hmalformed, herror⟩
    · exact absurd hok hrefused
    · have hneither : ¬ (CanTakeEffect marker ∨ IsStray marker) := by
        rw [← isWellFormedMarker_iff_canTakeEffect, hmalformed]
        exact Bool.false_ne_true
      rw [not_or] at hneither
      exact ⟨marker, hmem, hneither.1, hneither.2, herror⟩

/-- The marker comes out of the environment and has a dot in it. -/
theorem parse_eq_ok_iff_of_decodes_dotted :
    let env := Environment.ofList [("KEY", "key.part_2")]
    let text := "[attributes]\nid = [\"@$\x7bKEY\x7d\"]\nauto = []"
    let config : Config := { markers := { id := ["@key.part_2"], auto := [] } }
    Decodes env text config ∧ parse env text = .ok config ∧
      ∀ marker ∈ config.markers.all, CanTakeEffect marker := by
  intro env text config
  have hdecodes : Decodes env text config := by
    unfold Decodes
    decide +kernel
  obtain ⟨haccepted, -, -, heffect⟩ := parse_eq_ok_iff_of_decodes hdecodes
  have hpaths : ∀ marker ∈ config.markers.all,
      ∀ part ∈ marker.toList.tail.splitOn '.', Name part := by
    decide +kernel
  have hat : ∀ marker ∈ config.markers.all, marker.toList.head? = some '@' := by decide +kernel
  have hall : ∀ marker ∈ config.markers.all, CanTakeEffect marker := by
    intro marker hmem
    refine (heffect marker).mpr ⟨marker.toList.tail, ?_, path_iff_parts.mpr (hpaths marker hmem)⟩
    obtain ⟨path, hmarker⟩ := List.head?_eq_some_iff.mp (hat marker hmem)
    rw [hmarker, List.tail_cons]
  exact ⟨hdecodes, haccepted.mpr fun marker hmem => .inl (hall marker hmem), hall⟩

/-- A marker with a hyphen is accepted, and names no attribute. -/
theorem exists_stray_of_parse_eq_ok :
    let env := Environment.ofList []
    let text := "[attributes]\nid = [\"@a-b\"]"
    ∃ config, Decodes env text config ∧ parse env text = .ok config ∧
      ∃ marker ∈ config.markers.all, ¬ CanTakeEffect marker := by
  intro env text
  have hstray : IsStray "@a-b" :=
    ⟨"a-b".toList, by decide, by decide, Text.hasBlank_eq_false_iff.mp (by decide), by decide,
      "a-b".toList, by decide +kernel, by decide⟩
  refine ⟨{ markers := { id := ["@a-b"] } }, ?_, by decide +kernel, "@a-b", by decide,
    hstray.not_canTakeEffect⟩
  unfold Decodes
  decide +kernel

end Config

end DataSchema
