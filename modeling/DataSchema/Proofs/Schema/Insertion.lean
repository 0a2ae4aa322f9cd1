import DataSchema.Proofs.Relation.Shape
import DataSchema.Proofs.Source.Insertion

/-!
# DataSchema.Proofs.Schema.Insertion

**Blank lines and comments do nothing.** A line that is blank or holds a comment mark can be put
anywhere among the lines of a text: before a block, inside it, in front of the line that closes it,
or at the end. The schema is the same, but for the numbers of the lines below
(`Schema.RenumbersTo`).

In the outline the new line is empty. It declares no name, so the fields are looked up in the same
scope; and the blocks have the lines that they had, so what is read off them is the same.
-/

namespace DataSchema

open DataSchema.Field (Declaration)
open Source (Block Header LineRange Outline normalize normalizedLines normalize_eq_nil_iff
  physicalLines renumber)

/-! ### Schemas that differ in line numbers -/

/-- The property after a line has been inserted in front of line `k`. -/
def Property.renumbered (k : Nat) (p : Property) : Property := { p with line := renumber k p.line }

/-- The models are the same but for the numbers of their lines. -/
structure Model.RenumbersTo (k : Nat) (m n : Model) : Prop where
  name : n.name = m.name
  properties : n.properties = m.properties.map (·.renumbered k)
  body : ∀ i, renumber k i ∈ n.body ↔ i ∈ m.body

/-- The enumerations are the same but for the numbers of their lines. -/
structure Enumeration.RenumbersTo (k : Nat) (e f : Enumeration) : Prop where
  name : f.name = e.name
  values : f.values = e.values
  body : ∀ i, renumber k i ∈ f.body ↔ i ∈ e.body

/-- The schemas are the same but for the numbers of lines, which in the second one are those after a
line has been inserted in front of line `k`. -/
structure Schema.RenumbersTo (k : Nat) (s t : Schema) : Prop where
  enums : List.Forall₂ (fun entry other => other.1 = entry.1 ∧ entry.2.RenumbersTo k other.2)
    s.enums.entries t.enums.entries
  models : List.Forall₂ (fun entry other => other.1 = entry.1 ∧ entry.2.RenumbersTo k other.2)
    s.models.entries t.models.entries
  relations : t.relations = s.relations

/-- An edge has no line number. -/
theorem Model.RenumbersTo.edges_eq {k : Nat} {m n : Model} (h : m.RenumbersTo k n) :
    n.edges = m.edges := by
  rw [Model.edges, Model.edges, h.name, h.properties, List.filterMap_map]
  rfl

/-! ### An empty line in an outline -/

section Outline

variable (before after : List String)

theorem declarations_insert :
    Declarations.ofOutline (.ofLines (before ++ "" :: after)) =
      Declarations.ofOutline (.ofLines (before ++ after)) := by
  have hheader : Header.parse? "" = none := by decide
  have hheaders : (before ++ "" :: after).filterMap Header.parse? =
      (before ++ after).filterMap Header.parse? := by
    rw [List.filterMap_append, List.filterMap_append, List.filterMap_cons_none hheader]
  simp only [Declarations.ofOutline, Outline.ofLines, hheaders]

variable {before after}

theorem propertiesIn_insert {b c : Block} (h : b.RenumbersTo before.length c) (scope : Scope) :
    propertiesIn (.ofLines (before ++ "" :: after)) c.body scope =
      (propertiesIn (.ofLines (before ++ after)) b.body scope).map
        (·.renumbered before.length) := by
  rw [propertiesIn, propertiesIn, Outline.bodyLines_insert h, List.filterMap_map,
    List.map_filterMap]
  refine List.filterMap_congr fun entry _ => ?_
  rw [Option.map_map]
  rfl

theorem firstWords_insert {b c : Block} (h : b.RenumbersTo before.length c) :
    (Outline.ofLines (before ++ "" :: after)).firstWords c.body =
      (Outline.ofLines (before ++ after)).firstWords b.body := by
  rw [Outline.firstWords, Outline.firstWords, Outline.bodyLines_insert h, List.filterMap_map]
  rfl

variable (before after)

theorem Model.renumbersTo_ofName (scope : Scope) (name : String) :
    (Model.ofName (.ofLines (before ++ after)) scope name).RenumbersTo before.length
      (Model.ofName (.ofLines (before ++ "" :: after)) scope name) := by
  have hfind := Outline.findBlock?_insert before after .model name
  unfold Model.ofName
  generalize (Outline.ofLines (before ++ after)).findBlock? .model name = found,
    (Outline.ofLines (before ++ "" :: after)).findBlock? .model name = found' at hfind ⊢
  cases hfind with
  | none => exact ⟨rfl, rfl, fun _ =>
      iff_of_false (LineRange.not_mem_zero _) (LineRange.not_mem_zero _)⟩
  | some h => exact ⟨h.name, propertiesIn_insert h scope, h.body⟩

theorem Enumeration.renumbersTo_ofName (name : String) :
    (Enumeration.ofName (.ofLines (before ++ after)) name).RenumbersTo before.length
      (Enumeration.ofName (.ofLines (before ++ "" :: after)) name) := by
  have hfind := Outline.findBlock?_insert before after .enum name
  unfold Enumeration.ofName
  generalize (Outline.ofLines (before ++ after)).findBlock? .enum name = found,
    (Outline.ofLines (before ++ "" :: after)).findBlock? .enum name = found' at hfind ⊢
  cases hfind with
  | none => exact ⟨rfl, rfl, fun _ =>
      iff_of_false (LineRange.not_mem_zero _) (LineRange.not_mem_zero _)⟩
  | some h => exact ⟨h.name, firstWords_insert h, h.body⟩

end Outline

/-! ### A line in a text -/

namespace Schema

theorem renumbersTo_ofOutline (before after : List String) (markers : Markers) :
    (ofOutline (.ofLines (before ++ after)) markers).RenumbersTo before.length
      (ofOutline (.ofLines (before ++ "" :: after)) markers) := by
  have hdeclarations := declarations_insert before after
  have hmodels := entries_models_ofOutline (.ofLines (before ++ after)) markers
  have hmodels' := entries_models_ofOutline (.ofLines (before ++ "" :: after)) markers
  have henums := entries_enums_ofOutline (.ofLines (before ++ after)) markers
  have henums' := entries_enums_ofOutline (.ofLines (before ++ "" :: after)) markers
  rw [hdeclarations] at hmodels' henums'
  constructor
  · rw [henums, henums', List.forall₂_map_left_iff, List.forall₂_map_right_iff]
    exact List.forall₂_same.mpr fun name _ =>
      ⟨rfl, Enumeration.renumbersTo_ofName before after name⟩
  · rw [hmodels, hmodels', List.forall₂_map_left_iff, List.forall₂_map_right_iff]
    exact List.forall₂_same.mpr fun name _ => ⟨rfl, Model.renumbersTo_ofName before after _ name⟩
  · refine relations_eq_of_edges (OrderedMap.ext ?_)
    rw [OrderedMap.entries_mapEntries, OrderedMap.entries_mapEntries, hmodels, hmodels',
      List.map_map, List.map_map]
    exact List.map_congr_left fun name _ =>
      Prod.ext rfl (Model.renumbersTo_ofName before after _ name).edges_eq

/-- **Blank lines and comments do nothing.** A line that is blank or holds a comment mark, put in
front of line `k` or at the end, changes the schema in the numbers of lines only: the numbers from
`k` on grow by one. -/
theorem renumbersTo_compile {source inserted : String} {before after : List (List Char)}
    {line : List Char} (hsource : physicalLines source.toList = before ++ after)
    (hinserted : physicalLines inserted.toList = before ++ line :: after)
    (inert : ['/', '/'] <:+: line ∨ ∀ c ∈ line, Text.isBlank c = true) (markers : Markers) :
    (compile source markers).RenumbersTo before.length (compile inserted markers) := by
  let normal : List Char → String := fun line => String.ofList (normalize line)
  have hnormal : normal line = "" := congrArg String.ofList (normalize_eq_nil_iff.mpr inert)
  have hbefore : Outline.ofText source = .ofLines (before.map normal ++ after.map normal) := by
    rw [Outline.ofText, normalizedLines, hsource, List.map_append]
  have hafter : Outline.ofText inserted =
      .ofLines (before.map normal ++ "" :: after.map normal) := by
    rw [Outline.ofText, normalizedLines, hinserted, List.map_append, List.map_cons]
    exact congrArg (fun line => Outline.ofLines (_ ++ line :: _)) hnormal
  have hlength : before.length = (before.map normal).length := (List.length_map _).symm
  rw [compile, compile, hbefore, hafter, hlength]
  exact renumbersTo_ofOutline _ _ markers

/-- Two models that refer to each other. -/
def shelfSchema : String :=
  "model Book \x7b\n on Shelf\n\x7d\nmodel Shelf \x7b\n books Book[]\n\x7d\n"

/-- The same text with a comment in front of the first closing line. -/
def commentedShelfSchema : String :=
  "model Book \x7b\n on Shelf\n // at Int \x7d\n\x7d\nmodel Shelf \x7b\n books Book[]\n\x7d\n"

theorem renumbersTo_compile_shelf :
    (compile shelfSchema).RenumbersTo 2 (compile commentedShelfSchema) ∧
      (compile shelfSchema).relationCount = 2 ∧
      (compile shelfSchema).models.values.map (·.properties.map (·.line)) = [[1], [4]] ∧
      (compile commentedShelfSchema).models.values.map (·.properties.map (·.line)) =
        [[1], [5]] := by
  let before := ["model Book \x7b".toList, " on Shelf".toList]
  let after := ["\x7d".toList, "model Shelf \x7b".toList, " books Book[]".toList, "\x7d".toList]
  let line := " // at Int \x7d".toList
  have hsource : physicalLines shelfSchema.toList = before ++ after := by decide +kernel
  have hinserted : physicalLines commentedShelfSchema.toList = before ++ line :: after := by
    decide +kernel
  have inert : ['/', '/'] <:+: line := by decide +kernel
  exact ⟨renumbersTo_compile hsource hinserted (.inl inert) {}, by decide +kernel,
    by decide +kernel, by decide +kernel⟩

end Schema

end DataSchema
