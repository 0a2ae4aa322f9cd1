import DataSchema.Proofs.Access.Blocks
import DataSchema.Proofs.Access.Fields
import DataSchema.Proofs.Access.Pairing
import DataSchema.Proofs.OrderedMap
import DataSchema.Schema

/-!
# DataSchema.Proofs.Access.Compile

**Compiling never goes out of range.** `Checked.compile` compiles a text with every element that is
looked up by an index, and every piece that is cut out between two places, checked against what it is
taken from. It ends with the compiled schema for every text and all markers (`compile_eq`), so no
check ever fails, and counting gives what the structure of texts and lists gives.

What is left to see here is the place of a list among the lists that are paired. It is looked up by
the name of the list, and the list is among them because it is one of the edges that they are picked
from (`exists_position`).
-/

namespace DataSchema.Checked

open DataSchema.Field (FieldSyntax byteSize)
open Source (LineRange Outline)

/-! ### Relations -/

/-- The references back that do not belong to a list. The partner of the list is looked up by the
list's place among the lists. -/
def deepKey? (own back : ClassifiedEdges) (list : RelationEdge) : Checked (Option (List String)) :=
  let references := back.leading .manyToOne list.source
  let lists := own.leading .oneToMany list.target
  if references.length < 2 then pure none
  else
    match lists.findIdx? (fun e => e.field = list.field) with
    | none => pure none
    | some position => do
      let partners ← pair (lists.map (·.label)) (references.map (·.label))
      let partner ← element partners position
      let remaining := references.zipIdx.filterMap fun (e, index) =>
        if some index = partner then none else some e.field
      pure (if remaining = [] then none else some remaining)

/-- The entry of an edge in a record. -/
def relationEntry (classified : OrderedMap ClassifiedEdges) (own : ClassifiedEdges)
    (edge : Cardinality × RelationEdge) : Checked RelationEntry := do
  let deepKey ←
    if edge.1 = .oneToMany then
      match classified.get? edge.2.target with
      | none => pure none
      | some back => deepKey? own back edge.2
    else pure none
  pure ⟨edge.2.field, edge.2.target, deepKey⟩

/-- The relation record of classified edges. -/
def relationRecord (classified : OrderedMap ClassifiedEdges) (own : ClassifiedEdges) :
    Checked RelationRecord := do
  let entries ← own.mapM fun edge => do
    let entry ← relationEntry classified own edge
    pure (edge.1, entry)
  pure (.ofList entries)

/-- The relation records of all models. -/
def inferRelations (models : OrderedMap Model) : Checked (OrderedMap RelationRecord) := do
  let classified := classifyEdges models
  let records ← classified.entries.mapM fun entry => do
    let record ← relationRecord classified entry.2
    pure (entry.1, record)
  pure (.ofList records)

/-! ### Schemas -/

/-- The properties that the lines of a range declare. -/
def propertiesIn (o : Outline) (range : LineRange) (scope : Scope) : Checked (List Property) :=
  (o.bodyLines range).filterMapM fun (index, line) => do
    match ← parse? line with
    | none => pure none
    | some d => do
      let p ← toProperty d index scope
      pure (some p)

/-- The model of a declared name. -/
def modelOfName (o : Outline) (scope : Scope) (name : String) : Checked Model :=
  match o.findBlock? .model name with
  | some block => do
    let properties ← propertiesIn o block.body scope
    pure ⟨block.name, properties, block.body⟩
  | none => pure ⟨name, [], ⟨0, 0⟩⟩

/-- Compile a schema text. -/
def compile (source : String) (markers : Markers) : Checked Schema := do
  let lines := Source.normalizedLines source
  let blocks ← locateBlocks lines
  let o : Outline := ⟨lines, blocks⟩
  let scope := (Declarations.ofOutline o).scope markers
  let models ← scope.models.mapM fun name => do
    let m ← modelOfName o scope name
    pure (name, m)
  let models := OrderedMap.ofList models
  let relations ← inferRelations models
  let enums := OrderedMap.ofList (scope.enums.map fun name => (name, Enumeration.ofName o name))
  pure ⟨enums, models, relations⟩

/-! ### Relations are in range -/

/-- The partners of the lists have an element at the place of each list. -/
theorem element_pair {lists references : List (Option String)} {position : Nat}
    (h : position < lists.length) :
    element (Pairing.pair lists references) position =
      pure ((Pairing.pair lists references)[position]?).join := by
  rw [← Pairing.length_pair lists references] at h
  have hsome := List.getElem?_eq_getElem h
  rw [element_eq hsome, hsome]
  rfl

theorem deepKey?_eq (own back : ClassifiedEdges) (list : RelationEdge) :
    deepKey? own back list = pure (DataSchema.deepKey? own back list) := by
  unfold deepKey? DataSchema.deepKey?
  dsimp only
  by_cases hshort : (back.leading .manyToOne list.source).length < 2
  · rw [if_pos hshort, if_pos hshort]
  · rw [if_neg hshort, if_neg hshort]
    cases hposition :
        (own.leading .oneToMany list.target).findIdx? fun e => e.field = list.field with
    | none => rfl
    | some position =>
        have hlt := (List.findIdx?_eq_some_iff_getElem.mp hposition).1
        dsimp only
        rw [pair_eq, pure_bind, element_pair (by rwa [List.length_map]), pure_bind]
        rfl

theorem relationEntry_eq (classified : OrderedMap ClassifiedEdges) (own : ClassifiedEdges)
    (edge : Cardinality × RelationEdge) :
    relationEntry classified own edge = pure (DataSchema.relationEntry classified own edge) := by
  unfold relationEntry DataSchema.relationEntry
  by_cases hlist : edge.1 = .oneToMany
  · rw [if_pos hlist, if_pos hlist]
    cases classified.get? edge.2.target with
    | none => rfl
    | some back =>
        dsimp only
        rw [deepKey?_eq, pure_bind]
        rfl
  · rw [if_neg hlist, if_neg hlist]
    rfl

theorem relationRecord_eq (classified : OrderedMap ClassifiedEdges) (own : ClassifiedEdges) :
    relationRecord classified own =
      pure (.ofList
        (own.map fun edge => (edge.1, DataSchema.relationEntry classified own edge))) := by
  rw [relationRecord, mapM_pair_eq _ fun edge _ => relationEntry_eq classified own edge, pure_bind]

theorem inferRelations_eq (models : OrderedMap Model) :
    inferRelations models = pure (DataSchema.inferRelations models) := by
  unfold inferRelations
  dsimp only
  rw [mapM_pair_eq _ fun entry _ => relationRecord_eq (classifyEdges models) entry.2, pure_bind]
  refine congrArg pure (OrderedMap.ext (OrderedMap.entries_ofList ?_))
  rw [List.map_map]
  exact (classifyEdges models).nodup

/-! ### Schemas are in range -/

theorem propertiesIn_eq (o : Outline) (range : LineRange) (scope : Scope) :
    propertiesIn o range scope = pure (DataSchema.propertiesIn o range scope) := by
  refine filterMapM_eq fun (index, line) _ => ?_
  dsimp only
  rw [parse?_eq, pure_bind]
  cases Field.Declaration.parse? line with
  | none => rfl
  | some d =>
      dsimp only
      rw [toProperty_eq]
      rfl

theorem modelOfName_eq (o : Outline) (scope : Scope) (name : String) :
    modelOfName o scope name = pure (Model.ofName o scope name) := by
  unfold modelOfName Model.ofName
  cases o.findBlock? .model name with
  | none => rfl
  | some block =>
      dsimp only
      rw [propertiesIn_eq]
      rfl

theorem compile_eq (source : String) (markers : Markers) :
    compile source markers = pure (Schema.compile source markers) := by
  unfold compile
  dsimp only
  rw [locateBlocks_eq, pure_bind, mapM_pair_eq _ fun name _ => modelOfName_eq _ _ name, pure_bind,
    inferRelations_eq, pure_bind]
  rfl

/-- A one-to-many edge has a place among the lists that lead where it leads, and the pairing of these
lists has a partner at this place. -/
theorem exists_position {own : ClassifiedEdges} {edge : Cardinality × RelationEdge}
    (hedge : edge ∈ own) (hlist : edge.1 = .oneToMany) (references : List RelationEdge) :
    let lists := own.leading .oneToMany edge.2.target
    ∃ position, lists.findIdx? (·.field = edge.2.field) = some position ∧
      position < (Pairing.pair (lists.map (·.label)) (references.map (·.label))).length := by
  intro lists
  have hmem : edge.2 ∈ lists := List.mem_map.mpr ⟨edge, by simp [hedge, hlist], rfl⟩
  have hsome : (lists.findIdx? (·.field = edge.2.field)).isSome := by
    rw [List.findIdx?_isSome, List.any_eq_true]
    exact ⟨edge.2, hmem, decide_eq_true rfl⟩
  obtain ⟨position, hposition⟩ := Option.isSome_iff_exists.mp hsome
  refine ⟨position, hposition, ?_⟩
  rw [Pairing.length_pair, List.length_map]
  exact (List.findIdx?_eq_some_iff_getElem.mp hposition).1

/-- **Compiling is in range.** The compiler that checks every access ends with the compiled schema.
Two facts that it rests on: what a line gives an attribute as arguments has its two parentheses, and
a list has a place among the lists that it is paired with. -/
theorem compile_inRange (source : String) (markers : Markers) :
    compile source markers = .ok (Schema.compile source markers) ∧
      (∀ line f, FieldSyntax.parse? line = some f → ∀ piece ∈ f.attributes,
        ∀ group, piece.1.args = some group →
          2 ≤ byteSize group ∧ group.head? = some '(' ∧ group.getLast? = some ')') ∧
        ∀ own ∈ (classifyEdges (Schema.compile source markers).models).values, ∀ edge ∈ own,
          edge.1 = .oneToMany → ∀ references : List RelationEdge,
            let lists := own.leading .oneToMany edge.2.target
            ∃ position, lists.findIdx? (·.field = edge.2.field) = some position ∧
              position < (Pairing.pair (lists.map (·.label)) (references.map (·.label))).length := by
  refine ⟨compile_eq source markers, ?_, ?_⟩
  · intro line f hparse piece hpiece group hargs
    exact ends_of_group ((wellFormed_of_parse? hparse piece hpiece).args group hargs)
  · intro own _ edge hedge hlist references
    exact exists_position hedge hlist references

end DataSchema.Checked
