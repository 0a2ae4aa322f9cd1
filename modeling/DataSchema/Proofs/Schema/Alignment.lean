import DataSchema.Proofs.Relation.Buckets

/-!
# DataSchema.Proofs.Schema.Alignment

**The maps of a compiled schema stand side by side.** Their keys are the names in the header lines,
each where its first header stands, and the relation records have the keys of the models. What stands
at a key comes from another place, the table of blocks, and agrees with it: a name has the body of
its first block, and no body exactly if no header of the name opens one.
-/

namespace DataSchema

open Source (Block BlockKind Header LineRange Outline opensBlock)

/-! ### Names in the order of their first headers -/

/-- Of what a list gives, each value is kept where it is given first. -/
theorem pairwise_findIdx_distinct {α β : Type} [DecidableEq β] (f : α → Option β) (s : List α) :
    (distinct (s.filterMap f)).Pairwise fun a b =>
      s.findIdx (fun x => f x = some a) < s.findIdx (fun x => f x = some b) := by
  induction s with
  | nil => exact .nil
  | cons x rest ih =>
      cases hx : f x with
      | none =>
          rw [List.filterMap_cons_none hx]
          refine ih.imp ?_
          intro a b hab
          simpa [List.findIdx_cons, hx] using hab
      | some c =>
          -- The value given here stands in front; all others are found one place later than in
          -- the rest.
          rw [List.filterMap_cons_some hx, distinct, List.pairwise_cons]
          constructor
          · intro a ha
            have hac : a ≠ c := by simpa using (List.mem_filter.mp ha).2
            simp [List.findIdx_cons, hx, hac.symm]
          · refine (ih.filter _).imp_of_mem ?_
            intro a b ha hb hab
            have hac : a ≠ c := by simpa using (List.mem_filter.mp ha).2
            have hbc : b ≠ c := by simpa using (List.mem_filter.mp hb).2
            simpa [List.findIdx_cons, hx, hac.symm, hbc.symm] using hab

namespace Source.Outline

/-- The number of the first header line of a kind and a name. -/
def firstHeader (o : Outline) (kind : BlockKind) (name : String) : Nat :=
  o.lines.findIdx (fun line => Header.parse? line = some ⟨kind, name⟩)

/-- The names are those in the header lines of a kind, in the order of their first headers. -/
structure Declares (o : Outline) (kind : BlockKind) (names : List String) : Prop where
  mem_iff : ∀ name, name ∈ names ↔ ∃ line ∈ o.lines, Header.parse? line = some ⟨kind, name⟩
  ordered : names.Pairwise fun a b => o.firstHeader kind a < o.firstHeader kind b

/-- The name that a line declares, if it is a header of the kind. -/
def declaredName? (kind : BlockKind) (line : String) : Option String :=
  (Header.parse? line).bind fun h => if h.kind = kind then some h.name else none

theorem declaredName?_eq_some_iff {kind : BlockKind} {line name : String} :
    declaredName? kind line = some name ↔ Header.parse? line = some ⟨kind, name⟩ := by
  rw [declaredName?, Option.bind_eq_some_iff]
  constructor
  · intro h
    obtain ⟨⟨kind', name'⟩, hparse, hname⟩ := h
    by_cases hkind : kind' = kind
    · rw [if_pos hkind] at hname
      cases hname
      rw [hparse, hkind]
    · rw [if_neg hkind] at hname
      exact absurd hname (by simp)
  · intro h
    exact ⟨_, h, if_pos rfl⟩

theorem named_eq_filterMap (o : Outline) (kind : BlockKind) :
    Declarations.named kind (o.lines.filterMap Header.parse?) =
      o.lines.filterMap (declaredName? kind) := by
  rw [Declarations.named]
  induction o.lines with
  | nil => rfl
  | cons line rest ih =>
      cases hparse : Header.parse? line with
      | none =>
          have hname : declaredName? kind line = none := by simp [declaredName?, hparse]
          rw [List.filterMap_cons_none hparse, List.filterMap_cons_none hname, ih]
      | some h =>
          rw [List.filterMap_cons_some hparse]
          by_cases hkind : h.kind = kind
          · have hname : declaredName? kind line = some h.name := by
              simp [declaredName?, hparse, hkind]
            rw [List.filter_cons_of_pos (by simpa using hkind), List.map_cons,
              List.filterMap_cons_some hname, ih]
          · have hname : declaredName? kind line = none := by simp [declaredName?, hparse, hkind]
            rw [List.filter_cons_of_neg (by simpa using hkind), List.filterMap_cons_none hname, ih]

theorem declares_distinct (o : Outline) (kind : BlockKind) :
    o.Declares kind (distinct (Declarations.named kind (o.lines.filterMap Header.parse?))) := by
  rw [named_eq_filterMap]
  constructor
  · intro name
    rw [mem_distinct, List.mem_filterMap]
    simp only [declaredName?_eq_some_iff]
  · have hordered := pairwise_findIdx_distinct (declaredName? kind) o.lines
    simp only [declaredName?_eq_some_iff] at hordered
    exact hordered

/-! ### Bodies -/

/-- The body that belongs to a name: of its first block, or none if no header opens a block. -/
structure IsBody (o : Outline) (kind : BlockKind) (name : String) (body : LineRange) : Prop where
  opened : o.Opens kind name →
    ∃ block, o.IsFirstBlock block ∧ block.kind = kind ∧ block.name = name ∧ body = block.body
  unopened : ¬ o.Opens kind name → body = ⟨0, 0⟩

theorem isBody_of_findBlock? {lines : List String} {kind : BlockKind} {name : String}
    {body : LineRange}
    (hblock : ∀ block, (ofLines lines).findBlock? kind name = some block → body = block.body)
    (hnone : (ofLines lines).findBlock? kind name = none → body = ⟨0, 0⟩) :
    (ofLines lines).IsBody kind name body := by
  constructor
  · intro hopens
    cases hfind : (ofLines lines).findBlock? kind name with
    | none => exact absurd hopens (findBlock?_eq_none_iff.mp hfind)
    | some block =>
        obtain ⟨hfirst, hkind, hname⟩ := findBlock?_eq_some_iff.mp hfind
        exact ⟨block, hfirst, hkind, hname, hblock block hfind⟩
  · intro hopens
    exact hnone (findBlock?_eq_none_iff.mpr hopens)

end Source.Outline

/-! ### Compiled schemas -/

theorem Model.isBody_ofName (lines : List String) (scope : Scope) (name : String) :
    (Outline.ofLines lines).IsBody .model name (Model.ofName (.ofLines lines) scope name).body := by
  refine Outline.isBody_of_findBlock? ?_ ?_
  · intro block hblock
    rw [ofName, hblock]
    rfl
  · intro hnone
    rw [ofName, hnone]

theorem Enumeration.isBody_ofName (lines : List String) (name : String) :
    (Outline.ofLines lines).IsBody .enum name (Enumeration.ofName (.ofLines lines) name).body := by
  refine Outline.isBody_of_findBlock? ?_ ?_
  · intro block hblock
    rw [ofName, hblock]
    rfl
  · intro hnone
    rw [ofName, hnone]

namespace Schema

/-- The maps of the schema hold what the outline declares, under the declared names. -/
structure Aligned (s : Schema) (o : Outline) : Prop where
  modelNames : o.Declares .model s.models.keys
  enumNames : o.Declares .enum s.enums.keys
  relationNames : s.relations.keys = s.models.keys
  models : ∀ entry ∈ s.models.entries,
    entry.2.name = entry.1 ∧ o.IsBody .model entry.1 entry.2.body
  enums : ∀ entry ∈ s.enums.entries,
    entry.2.name = entry.1 ∧ o.IsBody .enum entry.1 entry.2.body

/-- A compiled schema holds exactly what the lines of its text declare. -/
theorem aligned_compile (source : String) (markers : Markers) :
    (compile source markers).Aligned (.ofText source) where
  modelNames := by
    have hkeys := keys_models_ofOutline (Outline.ofText source) markers
    rw [compile, hkeys]
    exact Outline.declares_distinct _ .model
  enumNames := by
    have hkeys := keys_enums_ofOutline (Outline.ofText source) markers
    rw [compile, hkeys]
    exact Outline.declares_distinct _ .enum
  relationNames := by
    rw [relations_compile, inferRelations_eq (keyed_models_compile source markers),
      OrderedMap.keys_mapEntries]
  models := by
    intro entry hentry
    rw [compile, entries_models_ofOutline] at hentry
    obtain ⟨name, -, rfl⟩ := List.mem_map.mp hentry
    exact ⟨Model.name_ofName _ _ name, Model.isBody_ofName _ _ name⟩
  enums := by
    intro entry hentry
    rw [compile, entries_enums_ofOutline] at hentry
    obtain ⟨name, -, rfl⟩ := List.mem_map.mp hentry
    exact ⟨Enumeration.name_ofName _ name, Enumeration.isBody_ofName _ name⟩

-- Headers without a brace, inside a block, of a repeated name, and of both kinds.
example :
    let s := compile "model B\nmodel A \x7b\n enum B\nmodel B \x7b\n\x7d\nmodel A \x7b \x7d\n"
    s.models.entries.map (fun entry => (entry.1, entry.2.body)) = [("B", ⟨4, 4⟩), ("A", ⟨2, 4⟩)] ∧
      s.enums.entries.map (fun entry => (entry.1, entry.2.body)) = [("B", ⟨0, 0⟩)] := by
  decide +kernel

end Schema

end DataSchema
