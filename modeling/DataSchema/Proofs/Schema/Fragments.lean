import DataSchema.Proofs.Relation.Locality
import DataSchema.Proofs.Schema.References
import DataSchema.Proofs.Source.Concatenation

/-!
# DataSchema.Proofs.Schema.Fragments

**Independent fragments compile independently.** Two texts that declare different names and do not
use each other's names give, written one after the other, the two schemas one after the other. Only
the line numbers of the second move.

Both halves are one argument about a part that stands in a whole (`Fits`). The whole declares more
names than the part does, but the words of the part mean the same in both; so the fields of the part
keep their types, its models keep their edges, and all models that these edges lead to belong to the
part. As an entry looks at two models only, the records stay the same.
-/

namespace DataSchema

open DataSchema.Field (Declaration TypeToken classifyBare)
open Source (Block BlockKind Header LineRange Outline)

/-! ### Further down -/

/-- The property with its line number moved. -/
def Property.moved (p : Property) (n : Nat) : Property := { p with line := p.line + n }

/-- The model with its lines moved. -/
def Model.moved (m : Model) (n : Nat) : Model :=
  { m with properties := m.properties.map (·.moved n), body := m.body.moved n }

/-- The enumeration with its lines moved. -/
def Enumeration.moved (e : Enumeration) (n : Nat) : Enumeration := { e with body := e.body.moved n }

/-- The model of an outline that stands `n` lines further down. A model without a block has no lines
that could move. -/
def Model.placed (o : Outline) (n : Nat) (name : String) (m : Model) : Model :=
  if (o.findBlock? .model name).isSome then m.moved n else m

/-- The enumeration of an outline that stands `n` lines further down. -/
def Enumeration.placed (o : Outline) (n : Nat) (name : String) (e : Enumeration) : Enumeration :=
  if (o.findBlock? .enum name).isSome then e.moved n else e

@[simp] theorem Model.placed_zero (o : Outline) (name : String) (m : Model) :
    m.placed o 0 name = m := by
  have hproperties : m.properties.map (·.moved 0) = m.properties := List.map_id _
  have hmoved : m.moved 0 = m := by
    rw [Model.moved, hproperties]
    rfl
  rw [Model.placed, hmoved, ite_self]

@[simp] theorem Enumeration.placed_zero (o : Outline) (name : String) (e : Enumeration) :
    e.placed o 0 name = e :=
  ite_self e

/-- The edges of a model have no line numbers. -/
theorem Model.edges_placed (o : Outline) (n : Nat) (name : String) (m : Model) :
    (m.placed o n name).edges = m.edges := by
  have hmoved : (m.moved n).edges = m.edges := by
    rw [Model.moved, Model.edges, List.filterMap_map]
    rfl
  unfold Model.placed
  split
  · exact hmoved
  · rfl

/-! ### Names and words -/

namespace Source.Outline

/-- The names that the header lines of one kind declare, as often as they are declared. -/
def declared (o : Outline) (kind : BlockKind) : List String :=
  Declarations.named kind (o.lines.filterMap Header.parse?)

/-- The words for types in the fields of models: the type tokens without their suffixes. -/
def typeWords (o : Outline) : List String :=
  (o.blocks.filter (·.kind = .model)).flatMap fun block =>
    (o.bodyLines block.body).filterMap fun (_, line) =>
      (Declaration.parse? line).map fun d => (TypeToken.split d.rawType).bare

theorem mem_declaredNames_of_mem_declared {o : Outline} {kind : BlockKind} {name : String}
    (h : name ∈ o.declared kind) : name ∈ o.declaredNames := by
  obtain ⟨header, hheader, rfl⟩ := List.mem_map.mp h
  exact List.mem_map.mpr ⟨header, (List.mem_filter.mp hheader).1, rfl⟩

theorem mem_typeWords {o : Outline} {block : Block} {i : Nat} {line : String} {d : Declaration}
    (hblock : block ∈ o.blocks) (hkind : block.kind = .model)
    (hline : (i, line) ∈ o.bodyLines block.body) (hparse : Declaration.parse? line = some d) :
    (TypeToken.split d.rawType).bare ∈ o.typeWords := by
  refine List.mem_flatMap.mpr ⟨block, List.mem_filter.mpr ⟨hblock, decide_eq_true hkind⟩, ?_⟩
  refine List.mem_filterMap.mpr ⟨(i, line), hline, ?_⟩
  dsimp only
  rw [hparse, Option.map_some]

/-- Two texts are *independent* if the blocks of the first do not run on into the second, and
neither declares a name that the other declares or uses for a type. -/
structure Independent (a b : Outline) : Prop where
  closed : ∀ block ∈ a.blocks, a.Closes block
  names : ∀ name ∈ a.declaredNames, name ∉ b.declaredNames
  wordsFirst : ∀ word ∈ a.typeWords, word ∉ b.declaredNames
  wordsSecond : ∀ word ∈ b.typeWords, word ∉ a.declaredNames

/-- The part stands in the whole `n` lines further down, and its words mean the same there. -/
structure Fits (part whole : Outline) (n : Nat) : Prop where
  contains : whole.Contains part n
  declared : ∀ kind, ∀ name ∈ part.declared kind, name ∈ whole.declared kind
  words : ∀ word ∈ part.typeWords, ∀ kind, word ∈ whole.declared kind ↔ word ∈ part.declared kind

section Append

variable {lines more : List String}

theorem declared_append (lines more : List String) (kind : BlockKind) :
    (ofLines (lines ++ more)).declared kind =
      (ofLines lines).declared kind ++ (ofLines more).declared kind := by
  simp only [declared, Declarations.named, ofLines, List.filterMap_append, List.filter_append,
    List.map_append]

theorem fits_append_left (h : (ofLines lines).Independent (ofLines more)) :
    (ofLines lines).Fits (ofLines (lines ++ more)) 0 where
  contains := contains_append_left h.closed h.names
  declared := by
    intro kind name hname
    rw [declared_append]
    exact List.mem_append_left _ hname
  words := by
    intro word hword kind
    have hother : word ∉ (ofLines more).declared kind := fun hmem =>
      h.wordsFirst word hword (mem_declaredNames_of_mem_declared hmem)
    simp [declared_append, hother]

theorem fits_append_right (h : (ofLines lines).Independent (ofLines more)) :
    (ofLines more).Fits (ofLines (lines ++ more)) lines.length where
  contains := contains_append_right h.closed h.names
  declared := by
    intro kind name hname
    rw [declared_append]
    exact List.mem_append_right _ hname
  words := by
    intro word hword kind
    have hother : word ∉ (ofLines lines).declared kind := fun hmem =>
      h.wordsSecond word hword (mem_declaredNames_of_mem_declared hmem)
    simp [declared_append, hother]

end Append

end Source.Outline

/-! ### A part of a schema -/

/-- The scope of an outline. -/
abbrev scopeOf (o : Outline) (markers : Markers) : Scope := (Declarations.ofOutline o).scope markers

theorem mem_scopeOf_models {o : Outline} {markers : Markers} {name : String} :
    name ∈ (scopeOf o markers).models ↔ name ∈ o.declared .model := mem_distinct

theorem mem_scopeOf_enums {o : Outline} {markers : Markers} {name : String} :
    name ∈ (scopeOf o markers).enums ↔ name ∈ o.declared .enum := mem_distinct

section Fits

variable {part whole : Outline} {n : Nat} (fits : part.Fits whole n) (markers : Markers)

include fits

/-- The fields of a block of the part have the same types in the whole. -/
theorem propertiesIn_of_fits {block : Block} (hblock : block ∈ part.blocks)
    (hkind : block.kind = .model) :
    propertiesIn whole (block.body.moved n) (scopeOf whole markers) =
      (propertiesIn part block.body (scopeOf part markers)).map (·.moved n) := by
  rw [propertiesIn, propertiesIn, fits.contains.bodyLines block hblock, List.filterMap_map,
    List.map_filterMap]
  refine List.filterMap_congr fun entry hentry => ?_
  obtain ⟨i, line⟩ := entry
  cases hparse : Declaration.parse? line with
  | none => simp [hparse]
  | some d =>
      have hword := Outline.mem_typeWords hblock hkind hentry hparse
      have htype : (d.toProperty (i + n) (scopeOf whole markers)).type =
          (d.toProperty i (scopeOf part markers)).type := by
        rw [Declaration.type_toProperty, Declaration.type_toProperty]
        refine Field.classifyBare_congr ?_ ?_
        · rw [mem_scopeOf_enums, mem_scopeOf_enums, fits.words _ hword]
        · rw [mem_scopeOf_models, mem_scopeOf_models, fits.words _ hword]
      -- The scope is read for nothing but the type and the markers, which are the same.
      have hproperty : d.toProperty (i + n) (scopeOf whole markers) =
          (d.toProperty i (scopeOf part markers)).moved n :=
        congrArg (fun type => { d.toProperty (i + n) (scopeOf whole markers) with type }) htype
      simp [hparse, hproperty]

theorem Model.ofName_of_fits {name : String} (hname : name ∈ part.declaredNames) :
    Model.ofName whole (scopeOf whole markers) name =
      (Model.ofName part (scopeOf part markers) name).placed part n name := by
  unfold Model.placed Model.ofName
  rw [fits.contains.findBlock? name hname]
  cases hblock : part.findBlock? .model name with
  | none => rfl
  | some block =>
      obtain ⟨hfirst, hkind, -⟩ := Outline.findBlock?_eq_some_iff.mp hblock
      have hproperties := propertiesIn_of_fits fits markers hfirst.mem hkind
      simp only [Option.map_some, Option.isSome_some, if_true]
      rw [Model.ofBlock, Model.ofBlock, Model.moved, ← hproperties]
      rfl

theorem Enumeration.ofName_of_fits {name : String} (hname : name ∈ part.declaredNames) :
    Enumeration.ofName whole name = (Enumeration.ofName part name).placed part n name := by
  unfold Enumeration.placed Enumeration.ofName
  rw [fits.contains.findBlock? name hname]
  cases hblock : part.findBlock? .enum name with
  | none => rfl
  | some block =>
      have hfirst := (Outline.findBlock?_eq_some_iff.mp hblock).1
      have hvalues : whole.firstWords (block.body.moved n) = part.firstWords block.body := by
        rw [Outline.firstWords, Outline.firstWords, fits.contains.bodyLines block hfirst.mem,
          List.filterMap_map]
        rfl
      simp only [Option.map_some, Option.isSome_some, if_true]
      rw [Enumeration.ofBlock, Enumeration.ofBlock, Enumeration.moved, ← hvalues]
      rfl

end Fits

/-! ### The records of a part -/

theorem edgesAt_models_ofOutline {o : Outline} {markers : Markers} {name : String}
    (hname : name ∈ (scopeOf o markers).models) :
    edgesAt (Schema.ofOutline o markers).models name =
      some (Model.ofName o (scopeOf o markers) name).edges := by
  have hentry : (name, Model.ofName o (scopeOf o markers) name) ∈
      (Schema.ofOutline o markers).models.entries := by
    rw [Schema.entries_models_ofOutline]
    exact List.mem_map_of_mem hname
  rw [edgesAt, OrderedMap.get?_eq_some_iff.mpr hentry, Option.map_some]

/-- The edges of the models of an outline lead to its models. -/
theorem target_mem_of_mem_edges {o : Outline} {markers : Markers} {m : Model}
    (hm : m ∈ (Schema.ofOutline o markers).models.values) {e : RelationEdge} (he : e ∈ m.edges) :
    e.target ∈ (scopeOf o markers).models := by
  obtain ⟨p, hp, hrel, rfl⟩ := Model.mem_edges.mp he
  obtain ⟨line, d, -, -, hproperty⟩ := Schema.exists_declaration_of_mem hm hp
  obtain ⟨model, hmodel⟩ := FieldType.isRelation_iff.mp hrel
  have htype := congrArg Property.type hproperty
  rw [hmodel, Declaration.type_toProperty] at htype
  obtain ⟨hword, hmem, -⟩ := Field.classifyBare_eq_iff.mp htype.symm
  show p.type.name ∈ _
  rw [hmodel]
  exact hword ▸ hmem

theorem Model.record_of_fits {part whole : Outline} {n : Nat} (fits : part.Fits whole n)
    {markers : Markers} {name : String} (hname : name ∈ (scopeOf part markers).models) :
    (Model.ofName whole (scopeOf whole markers) name).record
        (Schema.ofOutline whole markers).models =
      (Model.ofName part (scopeOf part markers) name).record
        (Schema.ofOutline part markers).models := by
  have hedges : ∀ other ∈ (scopeOf part markers).models,
      (Model.ofName whole (scopeOf whole markers) other).edges =
        (Model.ofName part (scopeOf part markers) other).edges := by
    intro other hother
    have hdeclared := Outline.mem_declaredNames_of_mem_declared (mem_scopeOf_models.mp hother)
    rw [Model.ofName_of_fits fits markers hdeclared, Model.edges_placed]
  have hat : ∀ other ∈ (scopeOf part markers).models,
      edgesAt (Schema.ofOutline whole markers).models other =
        edgesAt (Schema.ofOutline part markers).models other := by
    intro other hother
    have hwhole : other ∈ (scopeOf whole markers).models :=
      mem_scopeOf_models.mpr (fits.declared _ _ (mem_scopeOf_models.mp hother))
    rw [edgesAt_models_ofOutline hwhole, edgesAt_models_ofOutline hother, hedges other hother]
  have hmem : Model.ofName part (scopeOf part markers) name ∈
      (Schema.ofOutline part markers).models.values :=
    (OrderedMap.mem_values_ofList_names (nodup_distinct _)).mpr ⟨name, hname, rfl⟩
  refine Model.record_congr (Schema.keyed_models_ofOutline whole markers)
    (Schema.keyed_models_ofOutline part markers) (hedges name hname) ?_ fun e he => ?_
  · rw [Model.name_ofName]
    exact hat name hname
  · rw [hedges name hname] at he
    exact hat _ (target_mem_of_mem_edges hmem he)

namespace Schema

theorem entries_relations_ofOutline (o : Outline) (markers : Markers) :
    (ofOutline o markers).relations.entries = (scopeOf o markers).models.map fun name =>
      (name, (Model.ofName o (scopeOf o markers) name).record (ofOutline o markers).models) := by
  have hrelations : (ofOutline o markers).relations = inferRelations (ofOutline o markers).models :=
    rfl
  rw [hrelations, inferRelations_eq (keyed_models_ofOutline o markers),
    OrderedMap.entries_mapEntries, entries_models_ofOutline, List.map_map]
  rfl

/-! ### One schema after another -/

/-- What a whole has under a name is what one of its parts has there. -/
theorem map_names_append {α : Type} {s t : List String} {f g h : String → α}
    (hs : ∀ name ∈ s, f name = g name) (ht : ∀ name ∈ t, f name = h name) :
    ((s ++ t).map fun name => (name, f name)) =
      (s.map fun name => (name, g name)) ++ t.map fun name => (name, h name) := by
  rw [List.map_append]
  congr 1
  · exact List.map_congr_left fun name hname => by rw [hs name hname]
  · exact List.map_congr_left fun name hname => by rw [ht name hname]

section Append

variable {lines more : List String}
  (independent : (Outline.ofLines lines).Independent (Outline.ofLines more)) (markers : Markers)

include independent

theorem distinct_declared_append (kind : BlockKind) :
    distinct ((Outline.ofLines (lines ++ more)).declared kind) =
      distinct ((Outline.ofLines lines).declared kind) ++
        distinct ((Outline.ofLines more).declared kind) := by
  rw [Outline.declared_append, distinct_append]
  congr 1
  refine List.filter_eq_self.mpr fun name hname => decide_eq_true fun hother => ?_
  exact independent.names name (Outline.mem_declaredNames_of_mem_declared hother)
    (Outline.mem_declaredNames_of_mem_declared (mem_distinct.mp hname))

theorem entries_enums_append :
    (ofOutline (.ofLines (lines ++ more)) markers).enums.entries =
      (ofOutline (.ofLines lines) markers).enums.entries ++
        ((ofOutline (.ofLines more) markers).enums.mapEntries fun name e =>
          e.placed (.ofLines more) lines.length name).entries := by
  have hnames : (scopeOf (.ofLines (lines ++ more)) markers).enums =
      (scopeOf (.ofLines lines) markers).enums ++ (scopeOf (.ofLines more) markers).enums :=
    distinct_declared_append independent .enum
  rw [OrderedMap.entries_mapEntries, entries_enums_ofOutline, entries_enums_ofOutline,
    entries_enums_ofOutline, hnames, List.map_map]
  refine map_names_append (fun name hname => ?_) fun name hname => ?_
  · have hdeclared := Outline.mem_declaredNames_of_mem_declared (mem_scopeOf_enums.mp hname)
    rw [Enumeration.ofName_of_fits (Outline.fits_append_left independent) hdeclared,
      Enumeration.placed_zero]
  · have hdeclared := Outline.mem_declaredNames_of_mem_declared (mem_scopeOf_enums.mp hname)
    exact Enumeration.ofName_of_fits (Outline.fits_append_right independent) hdeclared

theorem scopeOf_models_append :
    (scopeOf (.ofLines (lines ++ more)) markers).models =
      (scopeOf (.ofLines lines) markers).models ++ (scopeOf (.ofLines more) markers).models :=
  distinct_declared_append independent .model

theorem entries_models_append :
    (ofOutline (.ofLines (lines ++ more)) markers).models.entries =
      (ofOutline (.ofLines lines) markers).models.entries ++
        ((ofOutline (.ofLines more) markers).models.mapEntries fun name m =>
          m.placed (.ofLines more) lines.length name).entries := by
  rw [OrderedMap.entries_mapEntries, entries_models_ofOutline, entries_models_ofOutline,
    entries_models_ofOutline, scopeOf_models_append independent, List.map_map]
  refine map_names_append (fun name hname => ?_) fun name hname => ?_
  · have hdeclared := Outline.mem_declaredNames_of_mem_declared (mem_scopeOf_models.mp hname)
    rw [Model.ofName_of_fits (Outline.fits_append_left independent) markers hdeclared,
      Model.placed_zero]
  · have hdeclared := Outline.mem_declaredNames_of_mem_declared (mem_scopeOf_models.mp hname)
    exact Model.ofName_of_fits (Outline.fits_append_right independent) markers hdeclared

theorem entries_relations_append :
    (ofOutline (.ofLines (lines ++ more)) markers).relations.entries =
      (ofOutline (.ofLines lines) markers).relations.entries ++
        (ofOutline (.ofLines more) markers).relations.entries := by
  rw [entries_relations_ofOutline, entries_relations_ofOutline, entries_relations_ofOutline,
    scopeOf_models_append independent]
  refine map_names_append (fun name hname => ?_) fun name hname => ?_
  · exact Model.record_of_fits (Outline.fits_append_left independent) hname
  · exact Model.record_of_fits (Outline.fits_append_right independent) hname

end Append

/-- **Independent fragments.** Let the first text be empty or end with a line break, and let the two
texts be independent. The schema of the two together has the enumerations, the models and the records
of the first, followed by those of the second. What has a block in the second text is as many lines
further down as the first text has lines; nothing else changes. -/
theorem compile_append {a b : String} (ends : a = "" ∨ a.toList.getLast? = some '\n')
    (independent : (Outline.ofText a).Independent (Outline.ofText b)) (markers : Markers) :
    let first := compile a markers
    let second := compile b markers
    let whole := compile (a ++ b) markers
    let count := (Outline.ofText a).lines.length
    whole.enums.entries = first.enums.entries ++
        (second.enums.mapEntries fun name e => e.placed (.ofText b) count name).entries ∧
      whole.models.entries = first.models.entries ++
        (second.models.mapEntries fun name m => m.placed (.ofText b) count name).entries ∧
      whole.relations.entries = first.relations.entries ++ second.relations.entries := by
  intro first second whole count
  have hwhole : whole = ofOutline (.ofLines ((Outline.ofText a).lines ++ (Outline.ofText b).lines))
      markers :=
    congrArg (ofOutline · markers) (Outline.ofText_append ends b)
  rw [hwhole]
  exact ⟨entries_enums_append independent markers, entries_models_append independent markers,
    entries_relations_append independent markers⟩

/-- Places and the people there. -/
def placesSchema : String :=
  "model Place \x7b\n of Person[]\n\x7d\nmodel Person \x7b\n at Place\n\x7d\n"

/-- An enumeration, a model without a block, and a block that is not closed. -/
def songsSchema : String :=
  "enum Tone \x7b\n LOW\n\x7d\nmodel Idea\nmodel Song \x7b\n of Idea\n tone Tone?\n"

/-- Songs and places have a field of the same name. The block of the songs stays open; that of the
tones, with one line, is as far down as the places are long. -/
theorem compile_append_songs :
    (placesSchema = "" ∨ placesSchema.toList.getLast? = some '\n') ∧
      (Outline.ofText placesSchema).Independent (Outline.ofText songsSchema) ∧
      (compile (placesSchema ++ songsSchema)).relations.entries =
        (compile placesSchema).relations.entries ++ (compile songsSchema).relations.entries ∧
      (compile (placesSchema ++ songsSchema)).enums.values = [⟨"Tone", ["LOW"], ⟨7, 8⟩⟩] ∧
      (compile (placesSchema ++ songsSchema)).models.values.map (fun m => (m.name, m.body)) =
        [("Place", ⟨1, 2⟩), ("Person", ⟨4, 5⟩), ("Idea", ⟨0, 0⟩), ("Song", ⟨11, 13⟩)] := by
  have ends : placesSchema = "" ∨ placesSchema.toList.getLast? = some '\n' := by decide +kernel
  have independent : (Outline.ofText placesSchema).Independent (Outline.ofText songsSchema) := by
    constructor
    · decide +kernel
    · decide +kernel
    · decide +kernel
    · decide +kernel
  obtain ⟨henums, hmodels, hrelations⟩ := compile_append ends independent {}
  refine ⟨ends, independent, hrelations, ?_, ?_⟩
  · rw [OrderedMap.values, henums]
    decide +kernel
  · rw [OrderedMap.values, hmodels]
    decide +kernel

end Schema

end DataSchema
