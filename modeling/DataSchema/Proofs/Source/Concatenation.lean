import Mathlib.Data.List.Basic
import DataSchema.Proofs.Source.Outline

/-!
# DataSchema.Proofs.Source.Concatenation

**One text after another.** If the first text ends with a line break, the lines of the two texts
stand one after the other. A block looks only at the lines from its header on. So the blocks of the
second text are the same, as many lines further down as the first text has lines
(`locateBlocks_append`); and the blocks of the first text are the same if each of them finds its end
before the second text begins.

What a schema reads off its outline is carried along by `Outline.Contains`: the lines of a fragment's
blocks and the search for a block give in the whole what they give in the fragment.
-/

namespace DataSchema.Source

/-! ### Lines -/

theorem physicalLines_append_newline (s t : List Char) :
    physicalLines (s ++ '\n' :: t) = s.splitOn '\n' ++ physicalLines t := by
  have hne : t.splitOn '\n' ≠ [] := List.splitOn_ne_nil _ _
  simp only [physicalLines]
  rw [List.splitOn_append_cons_self, List.getLast?_append_of_ne_nil _ hne,
    List.dropLast_append_of_ne_nil hne]
  split <;> rfl

theorem physicalLines_append {s : List Char} (ends : s = [] ∨ s.getLast? = some '\n')
    (t : List Char) : physicalLines (s ++ t) = physicalLines s ++ physicalLines t := by
  have hnil : physicalLines [] = [] := rfl
  rcases ends with rfl | hlast
  · rw [hnil, List.nil_append, List.nil_append]
  · obtain ⟨front, rfl⟩ := List.getLast?_eq_some_iff.mp hlast
    rw [List.append_assoc, List.singleton_append, physicalLines_append_newline,
      physicalLines_append_newline, hnil, List.append_nil]

/-- The outline of two texts is that of their lines together. -/
theorem Outline.ofText_append {a : String} (ends : a = "" ∨ a.toList.getLast? = some '\n')
    (b : String) :
    ofText (a ++ b) = ofLines ((ofText a).lines ++ (ofText b).lines) := by
  have hends : a.toList = [] ∨ a.toList.getLast? = some '\n' := ends.imp_left fun h => by simp [h]
  have hlines : normalizedLines (a ++ b) = normalizedLines a ++ normalizedLines b := by
    simp only [normalizedLines, String.toList_append, physicalLines_append hends, List.map_append]
  exact congrArg ofLines hlines

/-! ### Blocks -/

/-- The range a number of lines further down. -/
def LineRange.moved (r : LineRange) (n : Nat) : LineRange := ⟨r.start + n, r.stop + n⟩

@[simp] theorem LineRange.moved_zero (r : LineRange) : r.moved 0 = r := rfl

/-- The block a number of lines further down. -/
def Block.moved (b : Block) (n : Nat) : Block :=
  { b with header := b.header + n, body := b.body.moved n }

/-- The block ends where a line closes it, or on its own header line. -/
def Outline.Closes (o : Outline) (block : Block) : Prop :=
  o.line? block.body.stop = some closingLine ∨
    ∃ line ∈ o.line? block.header, closesItself line = true

instance (o : Outline) (block : Block) : Decidable (o.Closes block) :=
  inferInstanceAs (Decidable (o.line? block.body.stop = some closingLine ∨
    ∃ line ∈ o.line? block.header, closesItself line = true))

theorem closingIndex_append_left {lines : List String} {start : Nat} (hstart : start ≤ lines.length)
    (hclosed : lines[closingIndex lines start]? = some closingLine) (after : List String) :
    closingIndex (lines ++ after) start = closingIndex lines start := by
  have hlt : closingIndex lines start < lines.length := (List.getElem?_eq_some_iff.mp hclosed).1
  have hfound : (lines.drop start).findIdx (· = closingLine) < (lines.drop start).length := by
    rw [List.length_drop]
    unfold closingIndex at hlt
    omega
  rw [closingIndex, List.drop_append_of_le_length hstart, List.findIdx_append, if_pos hfound,
    closingIndex]

theorem closingIndex_append_right (before lines : List String) (start : Nat) :
    closingIndex (before ++ lines) (before.length + start) =
      before.length + closingIndex lines start := by
  rw [closingIndex, List.drop_length_add_append, closingIndex, Nat.add_assoc]

/-- A block that is closed does not look at the lines that are added below. -/
theorem blockAt?_append_left {lines : List String} {line : String} {i : Nat}
    (hline : lines[i]? = some line)
    (closed : ∀ block, blockAt? lines line i = some block → (Outline.ofLines lines).Closes block)
    (after : List String) : blockAt? (lines ++ after) line i = blockAt? lines line i := by
  unfold blockAt? at closed ⊢
  cases hparse : Header.parse? line with
  | none => rfl
  | some header =>
      cases hopens : opensBlock line with
      | false => rfl
      | true =>
          cases hself : closesItself line with
          | true => rfl
          | false =>
              have hstop : closingIndex (lines ++ after) (i + 1) = closingIndex lines (i + 1) := by
                refine closingIndex_append_left (List.getElem?_eq_some_iff.mp hline).1 ?_ after
                rcases closed ⟨header.kind, header.name, i, i + 1, closingIndex lines (i + 1)⟩
                    (by simp [hparse, hopens, hself]) with hclosing | ⟨other, hother, hcloses⟩
                · exact hclosing
                · have hsame : line = other := Option.some.inj (hline.symm.trans hother)
                  rw [← hsame, hself] at hcloses
                  exact absurd hcloses Bool.false_ne_true
              simp [hstop]

/-- A block does not look at the lines above its header. -/
theorem blockAt?_append_right (before lines : List String) (line : String) (i : Nat) :
    blockAt? (before ++ lines) line (before.length + i) =
      (blockAt? lines line i).map (·.moved before.length) := by
  unfold blockAt?
  cases Header.parse? line with
  | none => rfl
  | some header =>
      cases opensBlock line with
      | false => rfl
      | true =>
          have hstop : closingIndex (before ++ lines) (before.length + i + 1) =
              before.length + closingIndex lines (i + 1) :=
            closingIndex_append_right before lines (i + 1)
          cases closesItself line with
          | true =>
              simp [Block.moved, LineRange.moved]
              omega
          | false =>
              simp [Block.moved, LineRange.moved, hstop]
              omega

theorem locateBlocks_append {lines : List String}
    (closed : ∀ block ∈ locateBlocks lines, (Outline.ofLines lines).Closes block)
    (more : List String) :
    locateBlocks (lines ++ more) =
      locateBlocks lines ++ (locateBlocks more).map (·.moved lines.length) := by
  simp only [locateBlocks, List.zipIdx_append, List.filterMap_append, Nat.zero_add]
  congr 1
  · refine List.filterMap_congr fun entry hentry => ?_
    obtain ⟨line, i⟩ := entry
    have hline : lines[i]? = some line := List.mk_mem_zipIdx_iff_getElem?.mp hentry
    refine blockAt?_append_left hline (fun block hblock => closed block ?_) more
    exact List.mem_filterMap.mpr ⟨(line, i), hentry, hblock⟩
  · rw [List.zipIdx_eq_map_add, List.filterMap_map, List.map_filterMap]
    exact List.filterMap_congr fun entry _ => blockAt?_append_right lines more entry.1 entry.2

/-! ### Lines of a range -/

namespace Outline

theorem bodyLines_append_left {lines : List String} {range : LineRange}
    (h : range.stop ≤ lines.length) (after : List String) :
    (ofLines (lines ++ after)).bodyLines range = (ofLines lines).bodyLines range := by
  have hlength : range.stop ≤ lines.zipIdx.length := by rwa [List.length_zipIdx]
  simp only [bodyLines, ofLines, List.zipIdx_append, List.take_append_of_le_length hlength]

/-- The lines of a range further down are those of the range, with their numbers moved. -/
theorem bodyLines_append_right (before lines : List String) (range : LineRange) :
    (ofLines (before ++ lines)).bodyLines (range.moved before.length) =
      ((ofLines lines).bodyLines range).map fun line => (line.1 + before.length, line.2) := by
  have hlength : before.length = before.zipIdx.length := List.length_zipIdx.symm
  have hcut : (((before ++ lines).zipIdx.take (range.stop + before.length)).drop
      (range.start + before.length)) =
        (((lines.zipIdx.take range.stop).drop range.start)).map fun entry =>
          (entry.1, before.length + entry.2) := by
    rw [List.zipIdx_append, Nat.add_comm range.stop, Nat.add_comm range.start, hlength,
      List.take_length_add_append, List.drop_length_add_append, Nat.zero_add,
      List.zipIdx_eq_map_add, List.map_drop, List.map_take]
  simp only [bodyLines, ofLines, LineRange.moved, hcut, List.filterMap_map, List.map_filterMap]
  refine List.filterMap_congr fun entry _ => ?_
  by_cases hempty : entry.1 = ""
  · simp [hempty]
  · simp [hempty, Nat.add_comm]

/-! ### Fragments in a whole -/

/-- The names that the header lines declare, of either kind. -/
def declaredNames (o : Outline) : List String := (o.lines.filterMap Header.parse?).map (·.name)

theorem findBlock?_eq_none_of_not_mem {lines : List String} {name : String}
    (h : name ∉ (ofLines lines).declaredNames) (kind : BlockKind) :
    (ofLines lines).findBlock? kind name = none := by
  refine findBlock?_eq_none_iff.mpr fun hopens => h ?_
  obtain ⟨line, hline, hparse, -⟩ := hopens
  exact List.mem_map.mpr ⟨⟨kind, name⟩, List.mem_filterMap.mpr ⟨line, hline, hparse⟩, rfl⟩

/-- A block of both texts is found in the first one, or further down in the second one. -/
theorem findBlock?_append {lines : List String}
    (closed : ∀ block ∈ (ofLines lines).blocks, (ofLines lines).Closes block) (more : List String)
    (kind : BlockKind) (name : String) :
    (ofLines (lines ++ more)).findBlock? kind name =
      ((ofLines lines).findBlock? kind name).or
        (((ofLines more).findBlock? kind name).map (·.moved lines.length)) := by
  have hblocks : (ofLines (lines ++ more)).blocks =
      (ofLines lines).blocks ++ (ofLines more).blocks.map (·.moved lines.length) :=
    locateBlocks_append closed more
  rw [findBlock?, hblocks, List.find?_append, List.find?_map]
  rfl

/-- The part stands in the whole with its lines moved by `n`: its blocks have the same lines there,
and what its names find are its own blocks. -/
structure Contains (whole part : Outline) (n : Nat) : Prop where
  bodyLines : ∀ block ∈ part.blocks, whole.bodyLines (block.body.moved n) =
    (part.bodyLines block.body).map fun line => (line.1 + n, line.2)
  findBlock? : ∀ name ∈ part.declaredNames, ∀ kind,
    whole.findBlock? kind name = (part.findBlock? kind name).map (·.moved n)

section Append

variable {lines more : List String}
  (closed : ∀ block ∈ (ofLines lines).blocks, (ofLines lines).Closes block)
  (disjoint : ∀ name ∈ (ofLines lines).declaredNames, name ∉ (ofLines more).declaredNames)

include closed disjoint

theorem contains_append_left : (ofLines (lines ++ more)).Contains (ofLines lines) 0 where
  bodyLines := by
    intro block hblock
    rw [LineRange.moved_zero, bodyLines_append_left (body_bounds hblock).2.2]
    exact (List.map_id _).symm
  findBlock? := by
    intro name hname kind
    rw [findBlock?_append closed, findBlock?_eq_none_of_not_mem (disjoint name hname),
      Option.map_none, Option.or_none]
    exact Option.map_id'.symm

theorem contains_append_right :
    (ofLines (lines ++ more)).Contains (ofLines more) lines.length where
  bodyLines := fun block _ => bodyLines_append_right lines more block.body
  findBlock? := by
    intro name hname kind
    have hother : name ∉ (ofLines lines).declaredNames := fun h => disjoint name h hname
    rw [findBlock?_append closed, findBlock?_eq_none_of_not_mem hother, Option.none_or]

end Append

end Outline

end DataSchema.Source
