import DataSchema.Proofs.OrderedMap
import DataSchema.Proofs.Source.Outline
import DataSchema.Schema

/-!
# DataSchema.Proofs.Schema.Naming

**Every declaration is filed under its own name.** The models and the enumerations of a compiled
schema are written from the declared names, each once, and a model or an enumeration takes the name
that it was looked up by, whether or not it has a block. So the map of models is keyed by the
models' names, which is what the inference of relations relies on: it goes from a name in a field to
a model and back.
-/

namespace DataSchema

open Source (Outline)

/-- The model of a declared name has that name, with and without a block. -/
@[simp] theorem Model.name_ofName (o : Outline) (scope : Scope) (name : String) :
    (Model.ofName o scope name).name = name := by
  unfold Model.ofName
  cases hblock : o.findBlock? .model name with
  | none => rfl
  | some block => exact (Outline.findBlock?_eq_some_iff.mp hblock).2.2

@[simp] theorem Enumeration.name_ofName (o : Outline) (name : String) :
    (Enumeration.ofName o name).name = name := by
  unfold Enumeration.ofName
  cases hblock : o.findBlock? .enum name with
  | none => rfl
  | some block => exact (Outline.findBlock?_eq_some_iff.mp hblock).2.2

namespace Schema

/-! ### Models -/

/-- The models of an outline, in the order in which their names are first declared. -/
theorem entries_models_ofOutline (o : Outline) (markers : Markers) :
    let scope := (Declarations.ofOutline o).scope markers
    (ofOutline o markers).models.entries =
      scope.models.map fun name => (name, Model.ofName o scope name) := by
  intro scope
  exact OrderedMap.entries_ofList_names (nodup_distinct _) _

theorem keys_models_ofOutline (o : Outline) (markers : Markers) :
    (ofOutline o markers).models.keys = ((Declarations.ofOutline o).scope markers).models :=
  OrderedMap.keys_ofList_names (nodup_distinct _) _

/-- A model of an outline is the model of a declared name. -/
theorem exists_ofName_of_mem {o : Outline} {markers : Markers} {m : Model}
    (hm : m ∈ (ofOutline o markers).models.values) :
    let scope := (Declarations.ofOutline o).scope markers
    ∃ name ∈ scope.models, Model.ofName o scope name = m :=
  (OrderedMap.mem_values_ofList_names (nodup_distinct _)).mp hm

theorem keyed_models_ofOutline (o : Outline) (markers : Markers) :
    (ofOutline o markers).models.KeyedBy Model.name := by
  intro entry hentry
  rw [entries_models_ofOutline] at hentry
  obtain ⟨name, -, rfl⟩ := List.mem_map.mp hentry
  exact Model.name_ofName o _ name

/-- The models of a compiled schema stand under their own names. -/
theorem keyed_models_compile (source : String) (markers : Markers) :
    (compile source markers).models.KeyedBy Model.name :=
  keyed_models_ofOutline _ markers

/-- The relations of a compiled schema are inferred from its models. -/
theorem relations_compile (source : String) (markers : Markers) :
    (compile source markers).relations = inferRelations (compile source markers).models := rfl

/-! ### Enumerations -/

theorem entries_enums_ofOutline (o : Outline) (markers : Markers) :
    (ofOutline o markers).enums.entries =
      ((Declarations.ofOutline o).scope markers).enums.map fun name =>
        (name, Enumeration.ofName o name) :=
  OrderedMap.entries_ofList_names (nodup_distinct _) _

theorem keys_enums_ofOutline (o : Outline) (markers : Markers) :
    (ofOutline o markers).enums.keys = ((Declarations.ofOutline o).scope markers).enums :=
  OrderedMap.keys_ofList_names (nodup_distinct _) _

theorem exists_enumeration_ofName_of_mem {o : Outline} {markers : Markers} {e : Enumeration}
    (he : e ∈ (ofOutline o markers).enums.values) :
    ∃ name ∈ ((Declarations.ofOutline o).scope markers).enums, Enumeration.ofName o name = e :=
  (OrderedMap.mem_values_ofList_names (nodup_distinct _)).mp he

end Schema

end DataSchema
