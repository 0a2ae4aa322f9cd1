import Mathlib.Data.Option.Basic
import DataSchema.Source.Outline

/-!
# DataSchema.Proofs.Source.Outline

**What an outline says about its lines.** The lines of a range are found by number, and a block is
found where its header stands. Both are written with positions that a list of lines is paired with;
here the positions are gone (`mem_bodyLines`, `mem_locateBlocks_iff`), and what is left are lines and
their numbers.
-/

namespace DataSchema.Source

/-! ### Lines of a range -/

/-- What is cut out of a list by a range is what has its place in the range. -/
theorem mem_drop_take_iff {α : Type} {s : List α} {range : LineRange} {a : α} :
    a ∈ (s.take range.stop).drop range.start ↔ ∃ i ∈ range, s[i]? = some a := by
  simp only [List.mem_iff_getElem?, List.getElem?_drop, List.getElem?_take, LineRange.mem_def]
  constructor
  · intro h
    obtain ⟨i, hi⟩ := h
    split at hi
    · next hlt => exact ⟨range.start + i, ⟨Nat.le_add_right .., hlt⟩, hi⟩
    · exact absurd hi (by simp)
  · intro h
    obtain ⟨i, ⟨hstart, hstop⟩, ha⟩ := h
    refine ⟨i - range.start, ?_⟩
    rw [Nat.add_sub_cancel' hstart, if_pos hstop, ha]

namespace Outline

/-- The lines of a range are the lines with a number in the range that are not empty. -/
theorem mem_bodyLines {o : Outline} {range : LineRange} {i : Nat} {line : String} :
    (i, line) ∈ o.bodyLines range ↔ i ∈ range ∧ o.line? i = some line ∧ line ≠ "" := by
  -- Numbers are given before the range is cut out, so they are places in the whole text.
  have hpiece : (line, i) ∈ (o.lines.zipIdx.take range.stop).drop range.start ↔
      i ∈ range ∧ o.line? i = some line := by
    simp only [mem_drop_take_iff, List.getElem?_zipIdx, Option.map_eq_some_iff, Prod.mk.injEq,
      Nat.zero_add, line?]
    constructor
    · intro h
      obtain ⟨j, hj, _, hline, rfl, rfl⟩ := h
      exact ⟨hj, hline⟩
    · intro ⟨hi, hline⟩
      exact ⟨i, hi, line, hline, rfl, rfl⟩
  rw [bodyLines, List.mem_filterMap]
  constructor
  · intro h
    obtain ⟨⟨line', j⟩, hmem, hsome⟩ := h
    dsimp only at hsome
    by_cases hempty : line' = ""
    · rw [if_pos hempty] at hsome
      exact absurd hsome (by simp)
    · rw [if_neg hempty] at hsome
      cases hsome
      obtain ⟨hrange, hline⟩ := hpiece.mp hmem
      exact ⟨hrange, hline, hempty⟩
  · intro h
    obtain ⟨hrange, hline, hempty⟩ := h
    exact ⟨(line, i), hpiece.mpr ⟨hrange, hline⟩, if_neg hempty⟩

end Outline

/-! ### Blocks -/

/-- A line opens a block exactly if it is a header with an opening brace. -/
theorem blockAt?_eq_some_iff {lines : List String} {line : String} {index : Nat} {block : Block} :
    blockAt? lines line index = some block ↔
      Header.parse? line = some ⟨block.kind, block.name⟩ ∧ opensBlock line = true ∧
        block.header = index ∧
          block.body = ⟨index + 1,
            if closesItself line then index + 1 else closingIndex lines (index + 1)⟩ := by
  obtain ⟨kind, name, header, body⟩ := block
  unfold blockAt?
  cases hparse : Header.parse? line with
  | none =>
      constructor
      · intro heq
        cases heq
      · intro heq
        exact absurd heq.1 (by simp)
  | some h =>
      obtain ⟨kind', name'⟩ := h
      rw [Option.bind_eq_bind, Option.bind_some]
      constructor
      · intro heq
        obtain ⟨_, hguard, heq⟩ := Option.bind_eq_some_iff.mp heq
        cases heq
        exact ⟨rfl, (Option.guard_eq_some' _).mp hguard, rfl, rfl⟩
      · intro heq
        obtain ⟨hheader, hopens, hindex, hbody⟩ := heq
        cases hheader
        dsimp only at hindex hbody
        subst hindex hbody
        exact Option.bind_eq_some_iff.mpr ⟨(), (Option.guard_eq_some' _).mpr hopens, rfl⟩

/-- The blocks are those that the lines open at their own places. -/
theorem mem_locateBlocks_iff {lines : List String} {block : Block} :
    block ∈ locateBlocks lines ↔
      ∃ line, lines[block.header]? = some line ∧ blockAt? lines line block.header = some block := by
  rw [locateBlocks, List.mem_filterMap]
  constructor
  · intro h
    obtain ⟨⟨line, index⟩, hmem, hblock⟩ := h
    have hindex := (blockAt?_eq_some_iff.mp hblock).2.2.1
    subst hindex
    exact ⟨line, List.mk_mem_zipIdx_iff_getElem?.mp hmem, hblock⟩
  · intro h
    obtain ⟨line, hline, hblock⟩ := h
    exact ⟨(line, block.header), List.mk_mem_zipIdx_iff_getElem?.mpr hline, hblock⟩

/-- A header with an opening brace opens a block where it stands. -/
theorem exists_block_of_header {lines : List String} {i : Nat} {line : String} {header : Header}
    (hline : lines[i]? = some line) (hparse : Header.parse? line = some header)
    (hopens : opensBlock line = true) :
    ∃ block ∈ locateBlocks lines,
      block.header = i ∧ block.kind = header.kind ∧ block.name = header.name := by
  let body : LineRange :=
    ⟨i + 1, if closesItself line then i + 1 else closingIndex lines (i + 1)⟩
  let block : Block := ⟨header.kind, header.name, i, body⟩
  have hat : blockAt? lines line i = some block :=
    blockAt?_eq_some_iff.mpr ⟨hparse, hopens, rfl, rfl⟩
  exact ⟨block, mem_locateBlocks_iff.mpr ⟨line, hline, hat⟩, rfl, rfl, rfl⟩

theorem closingIndex_le_length {lines : List String} {start : Nat} (h : start ≤ lines.length) :
    closingIndex lines start ≤ lines.length := by
  have hfound : (lines.drop start).findIdx (· = closingLine) ≤ (lines.drop start).length :=
    List.findIdx_le_length
  rw [List.length_drop] at hfound
  unfold closingIndex
  omega

/-- The body of a block starts after its header and lies among the lines. -/
theorem body_bounds {lines : List String} {block : Block} (h : block ∈ locateBlocks lines) :
    block.body.start = block.header + 1 ∧ block.body.start ≤ block.body.stop ∧
      block.body.stop ≤ lines.length := by
  obtain ⟨line, hline, hat⟩ := mem_locateBlocks_iff.mp h
  have hbody := (blockAt?_eq_some_iff.mp hat).2.2.2
  have hheader : block.header + 1 ≤ lines.length := (List.getElem?_eq_some_iff.mp hline).1
  rw [hbody]
  refine ⟨rfl, ?_⟩
  dsimp only
  split
  · exact ⟨Nat.le_refl _, hheader⟩
  · exact ⟨Nat.le_add_right .., closingIndex_le_length hheader⟩

namespace Outline

/-- Some header line of this kind and name has an opening brace. -/
def Opens (o : Outline) (kind : BlockKind) (name : String) : Prop :=
  ∃ line ∈ o.lines, Header.parse? line = some ⟨kind, name⟩ ∧ opensBlock line = true

theorem exists_block_iff_opens {lines : List String} {kind : BlockKind} {name : String} :
    (∃ block ∈ locateBlocks lines, block.kind = kind ∧ block.name = name) ↔
      (ofLines lines).Opens kind name := by
  constructor
  · intro h
    obtain ⟨block, hblock, rfl, rfl⟩ := h
    obtain ⟨line, hline, hat⟩ := mem_locateBlocks_iff.mp hblock
    obtain ⟨hparse, hopens, -⟩ := blockAt?_eq_some_iff.mp hat
    exact ⟨line, List.mem_of_getElem? hline, hparse, hopens⟩
  · intro h
    obtain ⟨line, hline, hparse, hopens⟩ := h
    obtain ⟨i, hi⟩ := List.mem_iff_getElem?.mp hline
    obtain ⟨block, hblock, -, hkind, hname⟩ := exists_block_of_header hi hparse hopens
    exact ⟨block, hblock, hkind, hname⟩

/-- The block is the first one of its kind and name. -/
def IsFirstBlock (o : Outline) (block : Block) : Prop :=
  ∃ before after, o.blocks = before ++ block :: after ∧
    ∀ b ∈ before, ¬ (b.kind = block.kind ∧ b.name = block.name)

theorem IsFirstBlock.mem {o : Outline} {block : Block} (h : o.IsFirstBlock block) :
    block ∈ o.blocks := by
  obtain ⟨before, after, hblocks, -⟩ := h
  rw [hblocks]
  exact List.mem_append_right _ (List.mem_cons_self ..)

theorem findBlock?_eq_some_iff {o : Outline} {kind : BlockKind} {name : String} {block : Block} :
    o.findBlock? kind name = some block ↔
      o.IsFirstBlock block ∧ block.kind = kind ∧ block.name = name := by
  rw [findBlock?, List.find?_eq_some_iff_append]
  simp only [decide_eq_true_eq, Bool.not_eq_true', decide_eq_false_iff_not]
  constructor
  · intro h
    obtain ⟨⟨rfl, rfl⟩, before, after, hblocks, hbefore⟩ := h
    exact ⟨⟨before, after, hblocks, hbefore⟩, rfl, rfl⟩
  · intro h
    obtain ⟨⟨before, after, hblocks, hbefore⟩, rfl, rfl⟩ := h
    exact ⟨⟨rfl, rfl⟩, before, after, hblocks, hbefore⟩

/-- A name has no block exactly if no header line of the name opens one. -/
theorem findBlock?_eq_none_iff {lines : List String} {kind : BlockKind} {name : String} :
    (ofLines lines).findBlock? kind name = none ↔ ¬ (ofLines lines).Opens kind name := by
  rw [← exists_block_iff_opens, findBlock?, List.find?_eq_none]
  simp [ofLines]

end Outline

end DataSchema.Source
