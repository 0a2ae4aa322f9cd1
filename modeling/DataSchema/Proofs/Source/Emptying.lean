import DataSchema.Proofs.Source.Concatenation
import DataSchema.Proofs.Source.Lines

/-!
# DataSchema.Proofs.Source.Emptying

**Taking a block out of an outline.** The lines of a block, from its header to the line that closes
it, are made empty. If no header stands between them, and the block stands in no other, then the
outline loses this block and nothing else (`Outline.Detached.mem_locateBlocks_iff`,
`Outline.Detached.bodyLines_eq`).

The question is what the lost closing line did for the other blocks. A block that starts above and
does not hold the header has found its end before it. A block that starts below has its end below.
So no other block has looked at any of the lines, and none can tell that they are empty.
-/

namespace DataSchema.Source

/-! ### Empty lines for the lines of a range -/

/-- The second list is the first one with the lines of a range made empty. At the end such a line
may be missing: what comes after the last line break is a line only if it is not empty. -/
structure EmptiedIn {α : Type} (empty : α) (range : LineRange) (lines emptied : List α) : Prop where
  outside : ∀ i, i ∉ range → emptied[i]? = lines[i]?
  inside : ∀ i ∈ range, ∀ line ∈ emptied[i]?, line = empty

theorem EmptiedIn.map {α β : Type} {empty : α} {range : LineRange} {lines emptied : List α}
    (h : EmptiedIn empty range lines emptied) (f : α → β) :
    EmptiedIn (f empty) range (lines.map f) (emptied.map f) where
  outside := by
    intro i hi
    rw [List.getElem?_map, List.getElem?_map, h.outside i hi]
  inside := by
    intro i hi line hline
    rw [List.getElem?_map] at hline
    obtain ⟨written, hwritten, rfl⟩ := Option.map_eq_some_iff.mp hline
    rw [h.inside i hi written hwritten]

/-- A list is what comes before a range, what is in it, and what comes after it. -/
theorem take_append_drop_take_append_drop {α : Type} (s : List α) {m n : Nat} (h : m ≤ n) :
    s = s.take m ++ ((s.take n).drop m ++ s.drop n) := by
  have hfront : (s.take n).take m = s.take m := by rw [List.take_take, Nat.min_eq_left h]
  rw [← List.append_assoc, ← hfront, List.take_append_drop, List.take_append_drop]

/-- What is read off the lines is read off those outside the range. -/
theorem EmptiedIn.filterMap_eq {α β : Type} {empty : α} {range : LineRange} {lines after : List α}
    (h : EmptiedIn empty range lines after) {f : α → Option β} (hf : f empty = none)
    (hrange : range.start ≤ range.stop) :
    after.filterMap f =
      (lines.take range.start).filterMap f ++ (lines.drop range.stop).filterMap f := by
  have hfront : after.take range.start = lines.take range.start := by
    refine List.ext_getElem? fun i => ?_
    rw [List.getElem?_take, List.getElem?_take]
    split
    · next hi => exact h.outside i fun hmem => Nat.not_lt.mpr hmem.1 hi
    · rfl
  have hback : after.drop range.stop = lines.drop range.stop := by
    refine List.ext_getElem? fun i => ?_
    rw [List.getElem?_drop, List.getElem?_drop]
    exact h.outside _ fun hmem => absurd hmem.2 (by omega)
  have hmiddle : ((after.take range.stop).drop range.start).filterMap f = [] := by
    refine List.filterMap_eq_nil_iff.mpr fun line hline => ?_
    obtain ⟨i, hi, hline⟩ := mem_drop_take_iff.mp hline
    rw [h.inside i hi line hline, hf]
  rw [take_append_drop_take_append_drop after hrange, List.filterMap_append, List.filterMap_append,
    hfront, hback, hmiddle, List.nil_append]

/-- The text with the lines of a range made empty. The line breaks stay. -/
def emptyLines (range : LineRange) (s : List Char) : List Char :=
  ['\n'].intercalate ((s.splitOn '\n').mapIdx fun i line => if i ∈ range then [] else line)

/-- The text with the lines of a range made empty. -/
def emptied (range : LineRange) (source : String) : String :=
  String.ofList (emptyLines range source.toList)

theorem newline_not_mem_of_mem_splitOn {s piece : List Char} (h : piece ∈ s.splitOn '\n') :
    '\n' ∉ piece := by
  induction s generalizing piece with
  | nil => simp_all
  | cons c rest ih =>
      rw [List.splitOn_cons_eq_if_modifyHead] at h
      split at h
      · rcases List.mem_cons.mp h with rfl | h
        · exact List.not_mem_nil
        · exact ih h
      · next hc =>
          obtain ⟨first, more, hpieces⟩ :=
            List.exists_cons_of_ne_nil (List.splitOn_ne_nil '\n' rest)
          rw [hpieces, List.modifyHead_cons] at h
          rcases List.mem_cons.mp h with rfl | h
          · intro hmem
            rcases List.mem_cons.mp hmem with rfl | hmem
            · exact hc (beq_self_eq_true _)
            · exact ih (hpieces ▸ List.mem_cons_self ..) hmem
          · exact ih (hpieces ▸ List.mem_cons_of_mem _ h)

/-- The lines of a text are the pieces between line breaks, less an empty one at the end. -/
theorem getElem?_physicalLines {s line : List Char} {i : Nat} :
    (physicalLines s)[i]? = some line ↔
      (s.splitOn '\n')[i]? = some line ∧ (line = [] → i + 1 < (s.splitOn '\n').length) := by
  rcases List.eq_nil_or_concat (s.splitOn '\n') with hnil | ⟨front, last, hpieces⟩
  · exact absurd hnil (List.splitOn_ne_nil _ _)
  · rw [List.concat_eq_append] at hpieces
    have hend : (front ++ [last])[i]? = some line → line ≠ last → i < front.length := by
      intro h hne
      refine Nat.lt_of_not_le fun hi => hne ?_
      rw [List.getElem?_append_right hi] at h
      exact List.mem_singleton.mp (List.mem_of_getElem? h)
    simp only [physicalLines, hpieces, List.getLast?_concat, Option.some.injEq,
      List.dropLast_concat, List.length_append, List.length_singleton, Nat.add_lt_add_iff_right]
    by_cases hlast : last = []
    · rw [if_pos hlast]
      constructor
      · intro h
        have hi := (List.getElem?_eq_some_iff.mp h).1
        exact ⟨(List.getElem?_append_left hi).trans h, fun _ => hi⟩
      · rintro ⟨h, hshort⟩
        have hi : i < front.length := by
          by_cases hline : line = []
          · exact hshort hline
          · exact hend h (hlast ▸ hline)
        exact (List.getElem?_append_left hi).symm.trans h
    · rw [if_neg hlast]
      exact ⟨fun h => ⟨h, fun hline => hend h (hline ▸ Ne.symm hlast)⟩, And.left⟩

/-- Making the lines of a text empty makes its physical lines empty. -/
theorem emptiedIn_emptyLines (range : LineRange) (s : List Char) :
    EmptiedIn [] range (physicalLines s) (physicalLines (emptyLines range s)) := by
  have hpieces : (emptyLines range s).splitOn '\n' =
      (s.splitOn '\n').mapIdx fun i line => if i ∈ range then [] else line := by
    refine List.splitOn_intercalate '\n' (fun line hline => ?_) (by simp)
    obtain ⟨i, hi, rfl⟩ := List.mem_mapIdx.mp hline
    split
    · exact List.not_mem_nil
    · exact newline_not_mem_of_mem_splitOn (List.getElem_mem hi)
  constructor
  · intro i hi
    refine Option.ext fun line => ?_
    rw [getElem?_physicalLines, getElem?_physicalLines, hpieces, List.getElem?_mapIdx,
      List.length_mapIdx]
    simp [hi]
  · intro i hi line hline
    have hline := (getElem?_physicalLines.mp hline).1
    rw [hpieces, List.getElem?_mapIdx] at hline
    obtain ⟨_, -, rfl⟩ := Option.map_eq_some_iff.mp hline
    exact if_pos hi

/-! ### Blocks that can be taken out -/

theorem LineRange.eq_of_mem_iff {r s : LineRange} (hstart : r.start = s.start)
    (hr : r.start ≤ r.stop) (hs : s.start ≤ s.stop) (h : ∀ i, i ∈ r ↔ i ∈ s) : r = s := by
  have hrstop := h r.stop
  have hsstop := h s.stop
  obtain ⟨start, stop⟩ := r
  obtain ⟨start', stop'⟩ := s
  simp only [mem_def] at *
  have hstop : stop = stop' := by omega
  rw [hstart, hstop]

namespace Outline

/-- The lines of a block: its header, its body, and the line that closes it. A block that closes on
its header has no closing line. -/
def extent (o : Outline) (block : Block) : LineRange where
  start := block.header
  stop := if (o.line? block.header).any closesItself then block.body.stop else block.body.stop + 1

/-- A block on its own: it is closed, its header stands in no body, and no header stands in its
body. -/
structure Detached (o : Outline) (block : Block) : Prop where
  mem : block ∈ o.blocks
  closed : o.Closes block
  apart : ∀ other ∈ o.blocks, block.header ∉ other.body
  plain : ∀ i ∈ block.body, ∀ line ∈ o.line? i, Header.parse? line = none

theorem parse?_closingLine : Header.parse? closingLine = none := by decide

namespace Detached

variable {lines : List String} {b c : Block}

/-- The only header among the lines of the block is its own. -/
theorem eq_header_of_parse? (h : (ofLines lines).Detached b) {i : Nat} {line : String}
    {header : Header} (hi : i ∈ (ofLines lines).extent b) (hline : lines[i]? = some line)
    (hparse : Header.parse? line = some header) : i = b.header := by
  by_contra hne
  obtain ⟨own, hown, -⟩ := mem_locateBlocks_iff.mp h.mem
  have hbody := body_stop h.mem hown
  have hstart := (body_bounds h.mem).1
  have hself : (((ofLines lines).line? b.header).any closesItself) = closesItself own := by
    rw [line?, ofLines, hown, Option.any_some]
  obtain ⟨hfrom, hto⟩ := hi
  dsimp only [extent] at hfrom hto
  rw [hself] at hto
  cases hcloses : closesItself own with
  | true =>
      rw [hcloses, if_pos rfl] at hbody hto
      omega
  | false =>
      rw [hcloses, if_neg Bool.false_ne_true] at hto
      have hnone : Header.parse? line = none := by
        rcases Nat.lt_or_ge i b.body.stop with hlt | hge
        · exact h.plain i ⟨by omega, hlt⟩ line hline
        · rcases h.closed with hclosing | ⟨other, hother, hopen⟩
          · obtain rfl : i = b.body.stop := by omega
            cases hline.symm.trans hclosing
            exact parse?_closingLine
          · cases hown.symm.trans hother
            exact absurd (hcloses.symm.trans hopen) Bool.false_ne_true
      exact Option.some_ne_none _ (hparse.symm.trans hnone)

theorem header_mem_extent (h : (ofLines lines).Detached b) :
    b.header ∈ (ofLines lines).extent b := by
  obtain ⟨hstart, hle, -⟩ := body_bounds h.mem
  refine ⟨Nat.le_refl _, ?_⟩
  dsimp only [extent]
  split <;> omega

theorem header_not_mem_extent (h : (ofLines lines).Detached b) (hc : c ∈ locateBlocks lines)
    (hne : c ≠ b) : c.header ∉ (ofLines lines).extent b := by
  intro hmem
  obtain ⟨line, hline, hat⟩ := mem_locateBlocks_iff.mp hc
  have hparse := (blockAt?_eq_some_iff.mp hat).1
  exact hne (eq_of_header_eq hc h.mem (h.eq_header_of_parse? hmem hline hparse))

/-- Another block ends above the block, or starts below it. -/
theorem stop_le_or (h : (ofLines lines).Detached b) (hc : c ∈ locateBlocks lines) (hne : c ≠ b) :
    c.body.stop ≤ b.header ∨ ((ofLines lines).extent b).stop ≤ c.header := by
  have hheader := h.header_not_mem_extent hc hne
  have hapart := h.apart c hc
  obtain ⟨hstart, -, -⟩ := body_bounds hc
  rw [LineRange.mem_def] at hheader hapart
  dsimp only [extent] at hheader ⊢
  omega

/-- A block above is closed by a line above. -/
theorem closed_above (h : (ofLines lines).Detached b) (hc : c ∈ locateBlocks lines)
    (hle : c.body.stop ≤ b.header) {line : String} (hline : lines[c.header]? = some line)
    (hself : closesItself line = false) :
    lines[c.body.stop]? = some closingLine ∧ c.body.stop < b.header := by
  obtain ⟨own, hown, hat⟩ := mem_locateBlocks_iff.mp h.mem
  have hlength := (List.getElem?_eq_some_iff.mp hown).1
  have hstop := body_stop hc hline
  rw [hself, if_neg Bool.false_ne_true] at hstop
  have hclosing : lines[c.body.stop]? = some closingLine := by
    rw [hstop] at hle ⊢
    refine (closingIndex_eq_length_or ?_).resolve_left (by omega)
    exact (List.getElem?_eq_some_iff.mp hline).1
  refine ⟨hclosing, Nat.lt_of_le_of_ne hle fun heq => ?_⟩
  rw [heq] at hclosing
  cases hown.symm.trans hclosing
  exact Option.some_ne_none _ ((blockAt?_eq_some_iff.mp hat).1.symm.trans parse?_closingLine)

theorem not_mem_extent_of_mem_body (h : (ofLines lines).Detached b) (hc : c ∈ locateBlocks lines)
    (hne : c ≠ b) {i : Nat} (hi : i ∈ c.body) : i ∉ (ofLines lines).extent b := by
  obtain ⟨hstart, -, -⟩ := body_bounds hc
  have hplace := h.stop_le_or hc hne
  rw [LineRange.mem_def] at hi ⊢
  have hown : ((ofLines lines).extent b).start = b.header := rfl
  omega

/-! ### Without the block -/

variable {after : List String}

/-- Whether a line is reached from a header with no closing line up to it is a matter of the lines
between them. -/
theorem unclosed_congr {header i : Nat} (hi : header < i)
    (hsame : ∀ j, header < j → j ≤ i → after[j]? = lines[j]?) :
    (i < after.length ∧ ∀ j, header < j → j ≤ i → after[j]? ≠ some closingLine) ↔
      (i < lines.length ∧ ∀ j, header < j → j ≤ i → lines[j]? ≠ some closingLine) := by
  have hlength : i < after.length ↔ i < lines.length := by
    rw [← Nat.not_le, ← Nat.not_le, ← List.getElem?_eq_none_iff, ← List.getElem?_eq_none_iff,
      hsame i hi (Nat.le_refl i)]
  refine and_congr hlength (forall_congr' fun j => ?_)
  refine forall_congr' fun hj => forall_congr' fun hji => ?_
  rw [hsame j hj hji]

variable (h : (ofLines lines).Detached b)
  (hempty : EmptiedIn "" ((ofLines lines).extent b) lines after)

include h hempty

/-- A block that is still there has the lines that it had. -/
theorem mem_body_iff_of_emptied (hc : c ∈ locateBlocks lines) (hne : c ≠ b) {d : Block}
    (hd : d ∈ locateBlocks after) (hheader : d.header = c.header) {i : Nat} :
    i ∈ d.body ↔ i ∈ c.body := by
  obtain ⟨line, hline, -⟩ := mem_locateBlocks_iff.mp hc
  have hafter : after[d.header]? = some line := by
    rw [hheader, hempty.outside _ (h.header_not_mem_extent hc hne), hline]
  rw [mem_body_iff hc hline, mem_body_iff hd hafter, hheader]
  refine and_congr_right fun hself => and_congr_right fun hi => ?_
  rcases h.stop_le_or hc hne with habove | hbelow
  · -- The block is closed above the header, by a line that is still there.
    obtain ⟨hclosing, hlt⟩ := h.closed_above hc habove hline hself
    have hsame : ∀ j < b.header, after[j]? = lines[j]? := fun j hj =>
      hempty.outside j fun hmem => Nat.not_lt.mpr hmem.1 hj
    rcases Nat.lt_or_ge i c.body.stop with hbefore | hpast
    · exact unclosed_congr hi fun j _ hji => hsame j (by omega)
    · have hstop : c.header < c.body.stop := by
        obtain ⟨hstart, hle, -⟩ := body_bounds hc
        omega
      exact iff_of_false (fun hopen => hopen.2 _ hstop hpast ((hsame _ hlt).trans hclosing))
        fun hopen => hopen.2 _ hstop hpast hclosing
  · refine unclosed_congr hi fun j hj _ => hempty.outside j fun hmem => ?_
    exact Nat.not_lt.mpr hbelow (Nat.lt_trans hj hmem.2)

theorem eq_of_emptied (hc : c ∈ locateBlocks lines) (hne : c ≠ b) {d : Block}
    (hd : d ∈ locateBlocks after) (hheader : d.header = c.header) (hkind : d.kind = c.kind)
    (hname : d.name = c.name) : d = c := by
  have hmem := fun i => h.mem_body_iff_of_emptied hempty hc hne hd hheader (i := i)
  obtain ⟨hcstart, hcle, -⟩ := body_bounds hc
  obtain ⟨hdstart, hdle, -⟩ := body_bounds hd
  have hbody : d.body = c.body :=
    LineRange.eq_of_mem_iff (by rw [hdstart, hcstart, hheader]) hdle hcle hmem
  obtain ⟨kind, name, header, body⟩ := d
  simp only at hheader hkind hname hbody
  rw [hheader, hkind, hname, hbody]

/-- The outline loses the block and nothing else. -/
theorem mem_locateBlocks_iff_of_emptied :
    c ∈ locateBlocks after ↔ c ∈ locateBlocks lines ∧ c ≠ b := by
  constructor
  · intro hc
    obtain ⟨line, hline, hat⟩ := mem_locateBlocks_iff.mp hc
    obtain ⟨hparse, hopens, -⟩ := blockAt?_eq_some_iff.mp hat
    have houtside : c.header ∉ (ofLines lines).extent b := by
      intro hmem
      rw [hempty.inside _ hmem line hline] at hopens
      exact absurd hopens (by decide)
    rw [hempty.outside _ houtside] at hline
    obtain ⟨d, hd, hheader, hkind, hname⟩ := exists_block_of_header hline hparse hopens
    have hne : d ≠ b := by
      rintro rfl
      exact houtside (hheader ▸ h.header_mem_extent)
    obtain rfl := h.eq_of_emptied hempty hd hne hc hheader.symm hkind.symm hname.symm
    exact ⟨hd, hne⟩
  · rintro ⟨hc, hne⟩
    obtain ⟨line, hline, hat⟩ := mem_locateBlocks_iff.mp hc
    obtain ⟨hparse, hopens, -⟩ := blockAt?_eq_some_iff.mp hat
    rw [← hempty.outside _ (h.header_not_mem_extent hc hne)] at hline
    obtain ⟨d, hd, hheader, hkind, hname⟩ := exists_block_of_header hline hparse hopens
    obtain rfl := h.eq_of_emptied hempty hc hne hd hheader hkind hname
    exact hd

/-- The other blocks have the lines that they had. -/
theorem bodyLines_of_emptied (hc : c ∈ locateBlocks lines) (hne : c ≠ b) :
    (ofLines after).bodyLines c.body = (ofLines lines).bodyLines c.body := by
  refine eq_of_mem_iff (pairwise_bodyLines _ _) (pairwise_bodyLines _ _) fun i line => ?_
  rw [mem_bodyLines, mem_bodyLines]
  refine and_congr_right fun hi => ?_
  rw [line?, line?, ofLines, ofLines,
    hempty.outside i (h.not_mem_extent_of_mem_body hc hne hi)]

/-- Of a kind and a name, the first block is the one that it was, if it was not the block that is
gone. -/
theorem isFirstBlock_iff_of_emptied {first : Block} (hfirst : first ∈ locateBlocks lines)
    (hbefore : first.header < b.header) (hkind : first.kind = b.kind)
    (hname : first.name = b.name) :
    (ofLines after).IsFirstBlock c ↔ (ofLines lines).IsFirstBlock c := by
  have hblocks := fun d => h.mem_locateBlocks_iff_of_emptied hempty (c := d)
  have hne : first ≠ b := by
    rintro rfl
    exact Nat.lt_irrefl _ hbefore
  rw [isFirstBlock_iff, isFirstBlock_iff, hblocks]
  constructor
  · rintro ⟨⟨hc, -⟩, hleast⟩
    refine ⟨hc, fun other hother hotherKind hotherName => ?_⟩
    by_cases hb : other = b
    · -- The first block comes before the one that is gone.
      subst hb
      have hle := hleast first ((hblocks first).mpr ⟨hfirst, hne⟩) (hkind.trans hotherKind)
        (hname.trans hotherName)
      exact Nat.le_of_lt (Nat.lt_of_le_of_lt hle hbefore)
    · exact hleast other ((hblocks other).mpr ⟨hother, hb⟩) hotherKind hotherName
  · rintro ⟨hc, hleast⟩
    refine ⟨⟨hc, ?_⟩, fun other hother => hleast other ((hblocks other).mp hother).1⟩
    rintro rfl
    exact Nat.not_lt.mpr (hleast first hfirst hkind hname) hbefore

/-- So every search for a block finds what it found. -/
theorem findBlock?_of_emptied {first : Block} (hfirst : first ∈ locateBlocks lines)
    (hbefore : first.header < b.header) (hkind : first.kind = b.kind)
    (hname : first.name = b.name) (kind : BlockKind) (name : String) :
    (ofLines after).findBlock? kind name = (ofLines lines).findBlock? kind name := by
  refine Option.ext fun c => ?_
  rw [findBlock?_eq_some_iff, findBlock?_eq_some_iff,
    h.isFirstBlock_iff_of_emptied hempty hfirst hbefore hkind hname]

end Detached

end Outline

end DataSchema.Source
