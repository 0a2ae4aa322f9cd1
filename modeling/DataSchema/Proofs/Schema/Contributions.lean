import Mathlib.Data.List.Nodup
import DataSchema.Proofs.Schema.Lines

/-!
# DataSchema.Proofs.Schema.Contributions

**What a line gives to a schema.** Blocks are found independently of one another, so a header inside
a body opens a block that shares its lines with the outer one, and a line can declare a property of
two models. This is the only way: two bodies are apart, or the inner one is empty or ends where the
outer one does. A text whose blocks do not stand in one another gives each of its lines to one
declaration at most.
-/

namespace DataSchema

open Source (Block BlockKind LineRange Outline numberedIn pairwise_numberedIn mem_numberedIn
  valueLines valueOn?)

/-- What one line gives to a schema. -/
inductive Contribution
  /-- A property of a model. -/
  | property (model : String) (p : Property)
  /-- A value of an enumeration. -/
  | value (enum : String) (value : String)
deriving DecidableEq, Repr

/-- What the lines of a text give to the schema, each with the number of the line. -/
def Schema.contributions (s : Schema) (source : String) : List (Nat × Contribution) :=
  (s.models.values.flatMap fun m => m.properties.map fun p => (p.line, .property m.name p)) ++
    s.enums.values.flatMap fun e =>
      (valueLines source e.body).map fun entry => (entry.1, .value e.name entry.2)

/-! ### The lines of one declaration -/

theorem Source.pairwise_valueLines (source : String) (range : LineRange) :
    (valueLines source range).Pairwise fun x y => x.1 < y.1 := by
  refine (pairwise_numberedIn _ range).filterMap _ fun x y hxy v hv w hw => ?_
  obtain ⟨_, -, rfl⟩ := Option.map_eq_some_iff.mp hv
  obtain ⟨_, -, rfl⟩ := Option.map_eq_some_iff.mp hw
  exact hxy

theorem Source.mem_of_mem_valueLines {source : String} {range : LineRange} {entry : Nat × String}
    (h : entry ∈ valueLines source range) : entry.1 ∈ range := by
  obtain ⟨⟨i, line⟩, hline, hvalue⟩ := List.mem_filterMap.mp h
  obtain ⟨_, -, rfl⟩ := Option.map_eq_some_iff.mp hvalue
  exact (mem_numberedIn.mp hline).1

namespace Source.Outline

/-- The numbers are of different lines, all in the body of one block of the kind and the name. -/
structure LinesOf (o : Outline) (kind : BlockKind) (name : String) (numbers : List Nat) : Prop where
  nodup : numbers.Nodup
  inBody : ∀ i ∈ numbers, ∃ block ∈ o.blocks, block.kind = kind ∧ block.name = name ∧ i ∈ block.body

theorem LinesOf.nil (o : Outline) (kind : BlockKind) (name : String) : o.LinesOf kind name [] :=
  ⟨.nil, fun _ h => absurd h List.not_mem_nil⟩

section Flat

variable {lines : List String} (flat : (ofLines lines).Flat)

include flat

theorem LinesOf.disjoint {kind kind' : BlockKind} {name name' : String} {s t : List Nat}
    (hs : (ofLines lines).LinesOf kind name s) (ht : (ofLines lines).LinesOf kind' name' t)
    (hne : ¬ (kind = kind' ∧ name = name')) : s.Disjoint t := by
  intro i his hit
  obtain ⟨b, hb, hbkind, hbname, hib⟩ := hs.inBody i his
  obtain ⟨c, hc, hckind, hcname, hic⟩ := ht.inBody i hit
  cases eq_of_mem_bodies flat hb hc hib hic
  exact hne ⟨hbkind.symm.trans hckind, hbname.symm.trans hcname⟩

/-- The lines of declarations with different names are different. -/
theorem nodup_flatMap_lines {kind : BlockKind} {names : List String} (hnames : names.Nodup)
    {numbers : String → List Nat} (h : ∀ name, (ofLines lines).LinesOf kind name (numbers name)) :
    (names.flatMap numbers).Nodup := by
  refine List.nodup_flatMap.mpr ⟨fun name _ => (h name).nodup, ?_⟩
  refine hnames.imp fun {name name'} hne => ?_
  exact (h name).disjoint flat (h name') fun hsame => hne hsame.2

end Flat

end Source.Outline

theorem Model.linesOf_ofName (source : String) (scope : Scope) (name : String) :
    (Outline.ofText source).LinesOf .model name
      ((Model.ofName (.ofText source) scope name).properties.map (·.line)) := by
  unfold Model.ofName
  cases hblock : (Outline.ofText source).findBlock? .model name with
  | none => exact .nil _ _ _
  | some block =>
      obtain ⟨hfirst, hkind, hname⟩ := Outline.findBlock?_eq_some_iff.mp hblock
      refine ⟨(pairwise_line_propertiesIn block.body _ scope).imp Nat.ne_of_lt, fun i hi => ?_⟩
      obtain ⟨p, hp, rfl⟩ := List.mem_map.mp hi
      exact ⟨block, hfirst.mem, hkind, hname, line_mem_of_mem_propertiesIn block.body hp⟩

theorem Enumeration.linesOf_ofName (source name : String) :
    (Outline.ofText source).LinesOf .enum name
      ((valueLines source (Enumeration.ofName (.ofText source) name).body).map Prod.fst) := by
  have hordered := Source.pairwise_valueLines source (Enumeration.ofName (.ofText source) name).body
  refine ⟨List.pairwise_map.mpr (hordered.imp Nat.ne_of_lt), fun i hi => ?_⟩
  obtain ⟨entry, hentry, rfl⟩ := List.mem_map.mp hi
  have hmem := Source.mem_of_mem_valueLines hentry
  unfold Enumeration.ofName at hmem
  cases hblock : (Outline.ofText source).findBlock? .enum name with
  | none =>
      rw [hblock] at hmem
      exact absurd hmem (LineRange.not_mem_zero _)
  | some block =>
      rw [hblock] at hmem
      obtain ⟨hfirst, hkind, hname⟩ := Outline.findBlock?_eq_some_iff.mp hblock
      exact ⟨block, hfirst.mem, hkind, hname, hmem⟩

theorem Enumeration.values_ofName (source name : String) :
    let e := Enumeration.ofName (.ofText source) name
    e.values = (valueLines source e.body).map Prod.snd := by
  intro e
  unfold e Enumeration.ofName
  cases (Outline.ofText source).findBlock? .enum name with
  | none =>
      have hnone : valueLines source ⟨0, 0⟩ = [] := List.eq_nil_iff_forall_not_mem.mpr
        fun _ h => LineRange.not_mem_zero _ (Source.mem_of_mem_valueLines h)
      rw [hnone]
      rfl
  | some block => exact firstWords_ofText source block.body

/-! ### All lines -/

namespace Schema

theorem map_fst_contributions (source : String) (markers : Markers) :
    let o := Outline.ofText source
    let scope := (Declarations.ofOutline o).scope markers
    ((compile source markers).contributions source).map Prod.fst =
      (scope.models.flatMap fun name => (Model.ofName o scope name).properties.map (·.line)) ++
        scope.enums.flatMap fun name =>
          (valueLines source (Enumeration.ofName o name).body).map Prod.fst := by
  intro o scope
  have hmodels : (compile source markers).models.values =
      scope.models.map (Model.ofName o scope) := by
    rw [OrderedMap.values, compile, entries_models_ofOutline, List.map_map]
    rfl
  have henums : (compile source markers).enums.values = scope.enums.map (Enumeration.ofName o) := by
    rw [OrderedMap.values, compile, entries_enums_ofOutline, List.map_map]
    rfl
  rw [contributions, hmodels, henums, List.map_append, List.map_flatMap, List.map_flatMap,
    List.flatMap_map, List.flatMap_map]
  simp only [List.map_map]
  rfl

/-- Where no block stands in another, no line gives two things to the schema. -/
theorem nodup_contributions {source : String} (flat : (Outline.ofText source).Flat)
    (markers : Markers) : (((compile source markers).contributions source).map Prod.fst).Nodup := by
  have hmodels := Model.linesOf_ofName source
    ((Declarations.ofOutline (.ofText source)).scope markers)
  have henums := Enumeration.linesOf_ofName source
  rw [map_fst_contributions]
  refine List.nodup_append.mpr ⟨Outline.nodup_flatMap_lines flat (nodup_distinct _) hmodels,
    Outline.nodup_flatMap_lines flat (nodup_distinct _) henums, fun i hi j hj hij => ?_⟩
  obtain ⟨name, -, hi⟩ := List.mem_flatMap.mp hi
  obtain ⟨name', -, hj⟩ := List.mem_flatMap.mp hj
  exact (hmodels name).disjoint flat (henums name') (by simp) hi (hij ▸ hj)

/-- **Blocks do not overlap in part.** Of two blocks the first ends before the header of the second,
or it holds this header, and then the second body is empty or ends where the first one does. Where
no block holds the header of a block, the bodies have no line in common, and each line gives at most
one property or value to the schema. -/
theorem apart_or_nested_compile (source : String) (markers : Markers) :
    let o := Outline.ofText source
    let s := compile source markers
    (∀ b ∈ o.blocks, ∀ c ∈ o.blocks, b.header < c.header →
      b.body.stop ≤ c.header ∨
        c.header ∈ b.body ∧ (c.body.isEmpty = true ∨ c.body.stop = b.body.stop)) ∧
    (o.Flat → (o.blocks.Pairwise fun b c => ∀ i ∈ b.body, i ∉ c.body) ∧
      ((s.contributions source).map Prod.fst).Nodup) ∧
    ∀ e ∈ s.enums.values, e.values = (valueLines source e.body).map Prod.snd := by
  intro o s
  refine ⟨fun b hb c hc hbc => Source.apart_or_nested hb hc hbc, fun flat => ⟨?_, ?_⟩, ?_⟩
  · exact (Source.pairwise_locateBlocks o.lines).imp_of_mem fun hb hc hbc =>
      Source.disjoint_of_flat flat hb hc hbc
  · exact nodup_contributions flat markers
  · intro e he
    obtain ⟨name, -, rfl⟩ := exists_enumeration_ofName_of_mem he
    exact Enumeration.values_ofName source name

/-- Blocks side by side; one is closed by its header and one is not closed at all. -/
def adjoiningSchema : String :=
  "enum E \x7b\n X\n Y\n\x7d\nmodel A \x7b\x7d\nmodel B \x7b\n e E\n as A[]"

/-- A model inside a model; both have the line below the inner header. -/
def nestedSchema : String := "model A \x7b\n id Int\nmodel B \x7b\n at Int\n\x7d\n"

theorem apart_or_nested_compile_nested :
    (Outline.ofText adjoiningSchema).Flat ∧
      (((compile adjoiningSchema).contributions adjoiningSchema).map Prod.fst).Nodup ∧
      ((compile adjoiningSchema).contributions adjoiningSchema).length = 4 ∧
      (∃ b ∈ (Outline.ofText nestedSchema).blocks, ∃ c ∈ (Outline.ofText nestedSchema).blocks,
        b.header < c.header ∧ c.body.isEmpty = false ∧ c.body.stop = b.body.stop) ∧
      ¬ (((compile nestedSchema).contributions nestedSchema).map Prod.fst).Nodup := by
  have flat : (Outline.ofText adjoiningSchema).Flat := by decide +kernel
  obtain ⟨-, hflat, -⟩ := apart_or_nested_compile adjoiningSchema {}
  obtain ⟨hnested, -, -⟩ := apart_or_nested_compile nestedSchema {}
  have hblocks : ∃ b ∈ (Outline.ofText nestedSchema).blocks,
      ∃ c ∈ (Outline.ofText nestedSchema).blocks,
        b.header < c.header ∧ c.body.isEmpty = false ∧ c.header ∈ b.body := by
    decide +kernel
  obtain ⟨b, hb, c, hc, hbc, hfull, hinner⟩ := hblocks
  refine ⟨flat, (hflat flat).2, by decide +kernel, ⟨b, hb, c, hc, hbc, hfull, ?_⟩,
    by decide +kernel⟩
  rcases hnested b hb c hc hbc with hapart | ⟨-, hempty | hstop⟩
  · exact absurd hinner.2 (Nat.not_lt.mpr hapart)
  · exact absurd (hfull.symm.trans hempty) Bool.false_ne_true
  · exact hstop

end Schema

end DataSchema
