import DataSchema.Proofs.Schema.Alignment
import DataSchema.Proofs.Source.Emptying

/-!
# DataSchema.Proofs.Schema.Duplicates

**The first declaration wins.** A block of a kind and a name that an earlier block has declared is
read by nobody: the name is known already, and a search for the name finds the earlier block. So a
later block that stands on its own can be taken out, its lines made empty, and the schema stays what
it was, to the last line number (`Schema.compile_emptied`).
-/

namespace DataSchema

open Source (Block BlockKind EmptiedIn Header LineRange Outline emptied)

/-! ### Names -/

/-- What has been declared above adds no name. -/
theorem distinct_append_append {α : Type} [DecidableEq α] {s middle : List α}
    (h : ∀ a ∈ middle, a ∈ s) (t : List α) :
    distinct (s ++ (middle ++ t)) = distinct (s ++ t) := by
  have hmiddle : (distinct middle).filter (· ∉ s) = [] := by
    refine List.filter_eq_nil_iff.mpr fun a ha => ?_
    simpa using h a (mem_distinct.mp ha)
  have hrest : ((distinct t).filter (· ∉ middle)).filter (· ∉ s) = (distinct t).filter (· ∉ s) := by
    rw [List.filter_filter]
    refine List.filter_congr fun a _ => ?_
    have hnot : a ∉ s → a ∉ middle := mt (h a)
    by_cases ha : a ∈ s
    · simp [ha]
    · simp [ha, hnot ha]
  rw [distinct_append, distinct_append, distinct_append, List.filter_append, hmiddle, hrest,
    List.nil_append]

/-! ### Schemas of outlines that agree -/

/-- A schema depends on an outline through the names in its headers, the search for a block, and the
lines of the blocks that are found. -/
theorem Schema.ofOutline_congr {o p : Outline}
    (models : distinct (Declarations.ofOutline p).models =
      distinct (Declarations.ofOutline o).models)
    (enums : distinct (Declarations.ofOutline p).enums =
      distinct (Declarations.ofOutline o).enums)
    (find : ∀ kind name, p.findBlock? kind name = o.findBlock? kind name)
    (body : ∀ kind name, ∀ block ∈ o.findBlock? kind name,
      p.bodyLines block.body = o.bodyLines block.body)
    (markers : Markers) : ofOutline p markers = ofOutline o markers := by
  have hscope : (Declarations.ofOutline p).scope markers =
      (Declarations.ofOutline o).scope markers := by
    rw [Declarations.scope, Declarations.scope, models, enums]
  have hmodel : ∀ scope name, Model.ofName p scope name = Model.ofName o scope name := by
    intro scope name
    have hbody := body .model name
    unfold Model.ofName
    rw [find]
    cases hblock : o.findBlock? .model name with
    | none => rfl
    | some block =>
        have hlines := hbody block hblock
        simp only [Model.ofBlock, propertiesIn, hlines]
  have henum : ∀ name, Enumeration.ofName p name = Enumeration.ofName o name := by
    intro name
    have hbody := body .enum name
    unfold Enumeration.ofName
    rw [find]
    cases hblock : o.findBlock? .enum name with
    | none => rfl
    | some block =>
        have hlines := hbody block hblock
        simp only [Enumeration.ofBlock, Outline.firstWords, hlines]
  simp only [ofOutline, hscope, hmodel, henum]

/-! ### Later blocks -/

section Later

variable {lines after : List String} {first later : Block}
  (hfirst : first ∈ Source.locateBlocks lines) (hbefore : first.header < later.header)
  (hkind : first.kind = later.kind) (hname : first.name = later.name)
  (h : (Outline.ofLines lines).Detached later)
  (hempty : EmptiedIn "" ((Outline.ofLines lines).extent later) lines after)

include hfirst hbefore hkind hname h hempty

/-- The header that is gone declared a name that had been declared above. -/
theorem distinct_named_of_emptied (kind : BlockKind) :
    distinct (Declarations.named kind (after.filterMap Header.parse?)) =
      distinct (Declarations.named kind (lines.filterMap Header.parse?)) := by
  let range := (Outline.ofLines lines).extent later
  have hrange : range.start ≤ range.stop := Nat.le_of_lt h.header_mem_extent.2
  have hlines := Outline.named_eq_filterMap (.ofLines lines) kind
  have hafter := Outline.named_eq_filterMap (.ofLines after) kind
  simp only [Outline.ofLines] at hlines hafter
  rw [hlines, hafter, hempty.filterMap_eq (by rfl) hrange,
    congrArg (List.filterMap _) (Source.take_append_drop_take_append_drop lines hrange),
    List.filterMap_append, List.filterMap_append]
  refine (distinct_append_append (fun name hmem => ?_) _).symm
  obtain ⟨line, hline, hdeclared⟩ := List.mem_filterMap.mp hmem
  obtain ⟨i, hi, hline⟩ := Source.mem_drop_take_iff.mp hline
  have hparse := Outline.declaredName?_eq_some_iff.mp hdeclared
  obtain rfl := h.eq_header_of_parse? hi hline hparse
  -- The header is that of the later block, and the first block has its name.
  obtain ⟨own, hown, hownAt⟩ := Source.mem_locateBlocks_iff.mp h.mem
  obtain ⟨above, habove, haboveAt⟩ := Source.mem_locateBlocks_iff.mp hfirst
  cases hline.symm.trans hown
  cases hparse.symm.trans (Source.blockAt?_eq_some_iff.mp hownAt).1
  have hfront : (lines.take later.header)[first.header]? = some above := by
    rw [List.getElem?_take, if_pos hbefore, habove]
  refine List.mem_filterMap.mpr ⟨above, List.mem_of_getElem? hfront, ?_⟩
  rw [Outline.declaredName?_eq_some_iff, ← hkind, ← hname]
  exact (Source.blockAt?_eq_some_iff.mp haboveAt).1

theorem Schema.ofOutline_of_emptied (markers : Markers) :
    ofOutline (.ofLines after) markers = ofOutline (.ofLines lines) markers := by
  have hnames := distinct_named_of_emptied hfirst hbefore hkind hname h hempty
  have hfind := h.findBlock?_of_emptied hempty hfirst hbefore hkind hname
  refine ofOutline_congr ?_ ?_ hfind (fun kind name block hblock => ?_) markers
  · exact hnames .model
  · exact hnames .enum
  · obtain ⟨hblockFirst, -, -⟩ := Outline.findBlock?_eq_some_iff.mp hblock
    obtain ⟨hmem, hleast⟩ := Outline.isFirstBlock_iff.mp hblockFirst
    refine h.bodyLines_of_emptied hempty hmem ?_
    rintro rfl
    exact Nat.not_lt.mpr (hleast first hfirst hkind hname) hbefore

end Later

namespace Schema

/-- **The first declaration wins.** Let a later block have the kind and the name of an earlier one,
be closed, stand in no other block and hold no header. Making its header, its body and its closing
line empty does not change the schema. -/
theorem compile_emptied {source : String} {first later : Block}
    (hfirst : first ∈ (Outline.ofText source).blocks) (hbefore : first.header < later.header)
    (hkind : first.kind = later.kind) (hname : first.name = later.name)
    (detached : (Outline.ofText source).Detached later) (markers : Markers) :
    compile (emptied ((Outline.ofText source).extent later) source) markers =
      compile source markers := by
  let range := (Outline.ofText source).extent later
  have hempty : EmptiedIn "" range (Source.normalizedLines source)
      (Source.normalizedLines (emptied range source)) := by
    have htext := (Source.emptiedIn_emptyLines range source.toList).map fun line =>
      String.ofList (Source.normalize line)
    have hnil : String.ofList (Source.normalize []) = "" := by decide +kernel
    rw [hnil] at htext
    rwa [Source.normalizedLines, Source.normalizedLines, emptied, String.toList_ofList]
  exact ofOutline_of_emptied hfirst hbefore hkind hname detached hempty markers

/-- Two models and an enumeration of the same name, a header in a comment, and a model that is not
closed. -/
def lotSchema : String :=
  "model Lot \x7b\n at Place\n\x7d\nenum Lot \x7b\n X\n\x7d\nmodel Lot \x7b // not\n\x7d\n" ++
    "model Lot \x7b\n of Place[]\n\x7d\nmodel Place \x7b\n lots Lot[]\n"

/-- The second model goes, with its closing line. The enumeration stays, and the block that is not
closed ends where it did. -/
theorem compile_emptied_lot :
    let first : Block := ⟨.model, "Lot", 0, ⟨1, 2⟩⟩
    let later : Block := ⟨.model, "Lot", 8, ⟨9, 10⟩⟩
    let range := (Outline.ofText lotSchema).extent later
    first ∈ (Outline.ofText lotSchema).blocks ∧ (Outline.ofText lotSchema).Detached later ∧
      emptied range lotSchema =
        "model Lot \x7b\n at Place\n\x7d\nenum Lot \x7b\n X\n\x7d\nmodel Lot \x7b // not\n\x7d\n" ++
          "\n\n\nmodel Place \x7b\n lots Lot[]\n" ∧
      compile (emptied range lotSchema) = compile lotSchema ∧
      (compile lotSchema).models.values.map (fun m => (m.name, m.body)) =
        [("Lot", ⟨1, 2⟩), ("Place", ⟨12, 13⟩)] := by
  intro first later range
  have houtline : Outline.ofText lotSchema = .ofLines ["model Lot \x7b", "at Place", "\x7d",
      "enum Lot \x7b", "X", "\x7d", "", "\x7d", "model Lot \x7b", "of Place[]", "\x7d",
      "model Place \x7b", "lots Lot[]"] :=
    congrArg Outline.ofLines (by decide +kernel)
  have hfirst : first ∈ (Outline.ofText lotSchema).blocks := by
    rw [houtline]
    decide +kernel
  have detached : (Outline.ofText lotSchema).Detached later := by
    rw [houtline]
    constructor
    · decide +kernel
    · decide +kernel
    · decide +kernel
    · rintro i ⟨hstart, hstop⟩
      obtain rfl : i = 9 := Nat.le_antisymm (Nat.le_of_lt_succ hstop) hstart
      decide +kernel
  have hbefore : first.header < later.header := by decide
  have hkind : first.kind = later.kind := rfl
  have hname : first.name = later.name := rfl
  have hcompile : compile (emptied range lotSchema) = compile lotSchema :=
    compile_emptied hfirst hbefore hkind hname detached {}
  exact ⟨hfirst, detached, by decide +kernel, hcompile, by decide +kernel⟩

end Schema

end DataSchema
