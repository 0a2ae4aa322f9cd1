import DataSchema.Proofs.Field.TypeToken
import DataSchema.Proofs.Relation.Buckets

/-!
# DataSchema.Proofs.Schema.References

**Every reference of a compiled schema leads somewhere.** A property comes from a line of its model's
block, and its type is what the word on that line means among the declared names. The declared names
are the keys of the maps, so a name that is found is a key, in whatever order the declarations and
their uses stand; and each model has its relation record under the same key.
-/

namespace DataSchema

open DataSchema.Field (Declaration TypeToken)
open Source (LineRange Outline)

/-! ### Properties and their lines -/

/-- The properties of a range are what the declarations on its lines mean. -/
theorem mem_propertiesIn {o : Outline} {range : LineRange} {scope : Scope} {p : Property} :
    p ∈ propertiesIn o range scope ↔
      ∃ line d, p.line ∈ range ∧ o.line? p.line = some line ∧ line ≠ "" ∧
        Declaration.parse? line = some d ∧ p = d.toProperty p.line scope := by
  rw [propertiesIn, List.mem_filterMap]
  constructor
  · intro h
    obtain ⟨⟨i, line⟩, hmem, hsome⟩ := h
    obtain ⟨hrange, hline, hne⟩ := Outline.mem_bodyLines.mp hmem
    obtain ⟨d, hparse, rfl⟩ := Option.map_eq_some_iff.mp hsome
    exact ⟨line, d, hrange, hline, hne, hparse, rfl⟩
  · intro h
    obtain ⟨line, d, hrange, hline, hne, hparse, hp⟩ := h
    refine ⟨(p.line, line), Outline.mem_bodyLines.mpr ⟨hrange, hline, hne⟩, ?_⟩
    dsimp only
    rw [hparse, Option.map_some, ← hp]

namespace Schema

/-- A property of a compiled schema is what the declaration on its line means. -/
theorem exists_declaration_of_mem {o : Outline} {markers : Markers} {m : Model} {p : Property}
    (hm : m ∈ (ofOutline o markers).models.values) (hp : p ∈ m.properties) :
    ∃ line d, o.line? p.line = some line ∧ Declaration.parse? line = some d ∧
      p = d.toProperty p.line ((Declarations.ofOutline o).scope markers) := by
  obtain ⟨name, -, rfl⟩ := exists_ofName_of_mem hm
  unfold Model.ofName at hp
  cases hblock : o.findBlock? .model name with
  | none =>
      rw [hblock] at hp
      exact absurd hp List.not_mem_nil
  | some block =>
      rw [hblock] at hp
      obtain ⟨line, d, -, hline, -, hparse, hproperty⟩ := mem_propertiesIn.mp hp
      exact ⟨line, d, hline, hparse, hproperty⟩

/-! ### References -/

/-- The type is what the word means in the schema, and a model that it refers to has a relation
record. -/
def Resolves (s : Schema) (isMoney : Bool) (word : String) (t : FieldType) : Prop :=
  t.MeantBy s.enums.keys s.models.keys isMoney word ∧
    ∀ model, t = .relation model → ∃ r, s.relations.get? model = some r

theorem exists_relations_of_mem_keys {o : Outline} {markers : Markers} {name : String}
    (h : name ∈ (ofOutline o markers).models.keys) :
    ∃ r, (ofOutline o markers).relations.get? name = some r := by
  have keyed := keyed_models_ofOutline o markers
  obtain ⟨⟨key, m⟩, hmem, rfl⟩ := List.mem_map.mp h
  have hget : (ofOutline o markers).models.get? key = some m := OrderedMap.get?_eq_some_iff.mpr hmem
  have hrelations : (ofOutline o markers).relations = inferRelations (ofOutline o markers).models :=
    rfl
  refine ⟨m.record (ofOutline o markers).models, ?_⟩
  rw [hrelations, get?_inferRelations keyed, hget, Option.map_some]

/-- The type of a property is what the word on the property's line means, and what it refers to is
in the schema. -/
theorem resolves_compile {source : String} {markers : Markers} {m : Model} {p : Property}
    (hm : m ∈ (compile source markers).models.values) (hp : p ∈ m.properties) :
    ∃ line d token, (Outline.ofText source).line? p.line = some line ∧
      Declaration.parse? line = some d ∧ TypeToken.Reads d.rawType token ∧
        (compile source markers).Resolves (Flags.ofAttributes d.attributes markers).isMoney
          token.bare p.type := by
  obtain ⟨line, d, hline, hparse, hproperty⟩ := exists_declaration_of_mem hm hp
  have htype : p.type = Field.classifyBare (TypeToken.split d.rawType).bare
      (Flags.ofAttributes d.attributes markers).isMoney
      ((Declarations.ofOutline (Outline.ofText source)).scope markers) := by
    rw [hproperty]
    rfl
  have hmeant := Field.classifyBare_eq_iff.mp htype.symm
  rw [← keys_models_ofOutline, ← keys_enums_ofOutline] at hmeant
  refine ⟨line, d, TypeToken.split d.rawType, hline, hparse, TypeToken.split_eq_iff.mp rfl, hmeant,
    fun model hmodel => ?_⟩
  rw [hmodel] at hmeant
  obtain ⟨rfl, hmem, -⟩ := hmeant
  exact exists_relations_of_mem_keys hmem

/-- Fields that stand before the declarations they refer to, one of a model without a block and one
of a name that both a model and an enumeration have. -/
def forwardSchema : String :=
  "model A \x7b\n b B[]?\n e E\n\x7d\nmodel B\nmodel E\nenum E\n"

theorem resolves_compile_forward :
    let s := compile forwardSchema
    ∃ m ∈ s.models.values, ∃ p ∈ m.properties, ∃ q ∈ m.properties,
      p.type = .relation "B" ∧ q.type = .enum "E" ∧
        (∃ line d token, (Outline.ofText forwardSchema).line? p.line = some line ∧
          Declaration.parse? line = some d ∧ TypeToken.Reads d.rawType token ∧ token.bare = "B") ∧
        (∃ r, s.relations.get? "B" = some r) ∧
        "B" ∉ s.enums.keys ∧ "E" ∈ s.enums.keys ∧ ¬ ScalarType.IsKeyword "E" := by
  intro s
  have hfields : ∃ m ∈ s.models.values, ∃ p ∈ m.properties, ∃ q ∈ m.properties,
      p.type = .relation "B" ∧ q.type = .enum "E" := by
    decide +kernel
  obtain ⟨m, hm, p, hp, q, hq, hptype, hqtype⟩ := hfields
  obtain ⟨line, d, token, hline, hparse, hreads, hmeant, hrecord⟩ := resolves_compile hm hp
  obtain ⟨_, _, _, -, -, -, hmeant', -⟩ := resolves_compile hm hq
  rw [hptype] at hmeant
  rw [hqtype] at hmeant'
  obtain ⟨hword, -, hnotEnum, -⟩ := hmeant
  obtain ⟨hword', henum, hkeyword⟩ := hmeant'
  rw [← hword] at hnotEnum
  rw [← hword'] at henum hkeyword
  exact ⟨m, hm, p, hp, q, hq, hptype, hqtype, ⟨line, d, token, hline, hparse, hreads, hword.symm⟩,
    hrecord "B" hptype, hnotEnum, henum, hkeyword⟩

end Schema

end DataSchema
