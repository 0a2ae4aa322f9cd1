import DataSchema.Proofs.Relation.Shape
import DataSchema.Proofs.Schema.References

/-!
# DataSchema.Proofs.Schema.Markers

**A marker decides its own flag and nothing else.** One text compiled with two configurations gives
two schemas that differ in the flags of properties only, and in decimals that one of them takes for
money (`Schema.AgreesUpTo`). A flag that differs has been configured differently.

The markers are read at one place, where a declaration becomes a property. Before it, the lines are
read without them (`declarationsIn`). After it, relations are inferred from edges, and an edge has
nothing of what the markers decide: a type that depends on them is a scalar in both schemas.
-/

namespace DataSchema

open DataSchema.Field (Declaration TypeToken classifyBare)
open Source (LineRange Outline)

/-! ### Agreement -/

/-- The types are the same, but a decimal may be money on the other side. -/
inductive FieldType.EqUpToMoney : FieldType → FieldType → Prop
  | refl (t : FieldType) : EqUpToMoney t t
  | money : EqUpToMoney (.scalar .decimal) (.scalar .money)
  | decimal : EqUpToMoney (.scalar .money) (.scalar .decimal)

/-- The properties are the same but for what the markers decide. A difference there comes from a
difference in the markers that decide it. -/
structure Property.AgreesUpTo (markers markers' : Markers) (p q : Property) : Prop where
  key : p.key = q.key
  type : p.type.EqUpToMoney q.type
  nullable : p.nullable = q.nullable
  isArray : p.isArray = q.isArray
  relationLabel : p.relationLabel = q.relationLabel
  attributes : p.attributes = q.attributes
  line : p.line = q.line
  isId : p.isId ≠ q.isId → markers.id ≠ markers'.id
  isUnique : p.isUnique ≠ q.isUnique → markers.unique ≠ markers'.unique
  isAutoGenerated : p.isAutoGenerated ≠ q.isAutoGenerated → markers.auto ≠ markers'.auto
  money : p.type ≠ q.type → markers.money ≠ markers'.money

/-- The models are the same but for what the markers decide of their properties. -/
structure Model.AgreesUpTo (markers markers' : Markers) (m n : Model) : Prop where
  name : m.name = n.name
  body : m.body = n.body
  properties : List.Forall₂ (Property.AgreesUpTo markers markers') m.properties n.properties

/-- The schemas are the same but for what the markers decide of the properties. -/
structure Schema.AgreesUpTo (markers markers' : Markers) (s t : Schema) : Prop where
  enums : s.enums = t.enums
  models : List.Forall₂ (fun entry other => entry.1 = other.1 ∧
    Model.AgreesUpTo markers markers' entry.2 other.2) s.models.entries t.models.entries
  relations : s.relations = t.relations

/-! ### Properties -/

/-- Whether a decimal is money makes no difference to the other types. -/
theorem Field.classifyBare_eqUpToMoney (word : String) (isMoney isMoney' : Bool)
    {scope scope' : Scope} (henums : scope.enums = scope'.enums)
    (hmodels : scope.models = scope'.models) :
    (classifyBare word isMoney scope).EqUpToMoney (classifyBare word isMoney' scope') := by
  by_cases hword : ScalarType.IsKeyword word
  · obtain ⟨t, ht, rfl⟩ := hword
    rw [classifyBare_name ht, classifyBare_name ht]
    by_cases hdecimal : t = .decimal
    · subst hdecimal
      cases isMoney <;> cases isMoney' <;> constructor
    · simp only [hdecimal, and_false, if_false]
      exact .refl _
  · rw [classifyBare_of_not_isKeyword hword, classifyBare_of_not_isKeyword hword, henums, hmodels]
    exact .refl _

/-- One declaration in two scopes that have the same names. -/
theorem Field.Declaration.agreesUpTo_toProperty (d : Declaration) (line : Nat)
    {scope scope' : Scope} (henums : scope.enums = scope'.enums)
    (hmodels : scope.models = scope'.models) :
    (d.toProperty line scope).AgreesUpTo scope.markers scope'.markers
      (d.toProperty line scope') where
  key := rfl
  type := by
    rw [type_toProperty, type_toProperty]
    exact classifyBare_eqUpToMoney _ _ _ henums hmodels
  nullable := rfl
  isArray := rfl
  relationLabel := rfl
  attributes := rfl
  line := rfl
  isId := fun hne h => hne (by simp only [toProperty, Flags.ofAttributes, h])
  isUnique := fun hne h => hne (by simp only [toProperty, Flags.ofAttributes, h])
  isAutoGenerated := fun hne h => hne (by simp only [toProperty, Flags.ofAttributes, h])
  money := by
    intro hne hmoney
    refine hne ?_
    have hflag : (Flags.ofAttributes d.attributes scope.markers).isMoney =
        (Flags.ofAttributes d.attributes scope'.markers).isMoney := by
      simp only [Flags.ofAttributes, hmoney]
    rw [type_toProperty, type_toProperty, hflag]
    exact classifyBare_congr (by rw [henums]) (by rw [hmodels])

/-- The declarations on the lines of a range, each with the number of its line. -/
def declarationsIn (o : Outline) (range : LineRange) : List (Nat × Declaration) :=
  (o.bodyLines range).filterMap fun (index, line) =>
    (Declaration.parse? line).map fun d => (index, d)

/-- Which lines declare properties does not depend on the scope. -/
theorem propertiesIn_eq_map (o : Outline) (range : LineRange) (scope : Scope) :
    propertiesIn o range scope =
      (declarationsIn o range).map fun (index, d) => d.toProperty index scope := by
  rw [propertiesIn, declarationsIn, List.map_filterMap]
  refine List.filterMap_congr fun entry _ => ?_
  rw [Option.map_map]
  rfl

/-! ### Models and their edges -/

section Scopes

variable {o : Outline} {scope scope' : Scope} (henums : scope.enums = scope'.enums)
  (hmodels : scope.models = scope'.models)

include henums hmodels

theorem agreesUpTo_propertiesIn (range : LineRange) :
    List.Forall₂ (Property.AgreesUpTo scope.markers scope'.markers)
      (propertiesIn o range scope) (propertiesIn o range scope') := by
  rw [propertiesIn_eq_map, propertiesIn_eq_map, List.forall₂_map_left_iff,
    List.forall₂_map_right_iff, List.forall₂_same]
  exact fun entry _ => entry.2.agreesUpTo_toProperty entry.1 henums hmodels

theorem Model.agreesUpTo_ofName (name : String) :
    (Model.ofName o scope name).AgreesUpTo scope.markers scope'.markers
      (Model.ofName o scope' name) := by
  unfold Model.ofName
  cases o.findBlock? .model name with
  | none => exact ⟨rfl, rfl, .nil⟩
  | some block => exact ⟨rfl, rfl, agreesUpTo_propertiesIn henums hmodels block.body⟩

end Scopes

theorem FieldType.EqUpToMoney.relationName?_eq {t u : FieldType} (h : t.EqUpToMoney u) :
    t.relationName? = u.relationName? := by
  cases h <;> rfl

/-- Nothing that an edge is made of depends on the markers. -/
theorem Property.AgreesUpTo.ofProperty?_eq {markers markers' : Markers} {p q : Property}
    (h : p.AgreesUpTo markers markers' q) (source : String) :
    RelationEdge.ofProperty? source p = RelationEdge.ofProperty? source q := by
  have htarget : p.relationName? = q.relationName? := h.type.relationName?_eq
  rw [RelationEdge.ofProperty?, RelationEdge.ofProperty?, htarget, h.key, h.isArray,
    h.relationLabel]

theorem Model.AgreesUpTo.edges_eq {markers markers' : Markers} {m n : Model}
    (h : m.AgreesUpTo markers markers' n) : m.edges = n.edges := by
  rw [Model.edges, Model.edges, h.name]
  have hproperties := h.properties
  generalize m.properties = ps, n.properties = qs at hproperties
  induction hproperties with
  | nil => rfl
  | cons hhead _ ih => rw [List.filterMap_cons, List.filterMap_cons, hhead.ofProperty?_eq, ih]

/-! ### Schemas -/

namespace Schema

/-- **Markers have no side effects.** A text compiled with two configurations has the same
enumerations, the same models with the same fields in the same order, and the same relations. What
differs are flags that are configured differently, and decimals that one configuration marks as
money and the other does not. -/
theorem compile_agreesUpTo (source : String) (markers markers' : Markers) :
    (compile source markers).AgreesUpTo markers markers' (compile source markers') := by
  let o := Outline.ofText source
  let scope := (Declarations.ofOutline o).scope markers
  let scope' := (Declarations.ofOutline o).scope markers'
  have henums : scope.enums = scope'.enums := rfl
  have hmodels : scope.models = scope'.models := rfl
  have hmodel : ∀ name, (Model.ofName o scope name).AgreesUpTo markers markers'
      (Model.ofName o scope' name) := Model.agreesUpTo_ofName henums hmodels
  -- Both maps are written from the same names, so they can be compared name by name.
  have hentries := entries_models_ofOutline o markers
  have hentries' := entries_models_ofOutline o markers'
  refine ⟨rfl, ?_, relations_eq_of_edges (OrderedMap.ext ?_)⟩
  · rw [compile, compile, hentries, hentries', List.forall₂_map_left_iff,
      List.forall₂_map_right_iff]
    exact List.forall₂_same.mpr fun name _ => ⟨rfl, hmodel name⟩
  · rw [OrderedMap.entries_mapEntries, OrderedMap.entries_mapEntries, hentries, hentries',
      List.map_map, List.map_map]
    exact List.map_congr_left fun name _ => Prod.ext rfl (hmodel name).edges_eq

end Schema

end DataSchema
