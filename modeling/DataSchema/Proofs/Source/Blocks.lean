import DataSchema.Proofs.Numbered
import DataSchema.Proofs.Source.Outline
import DataSchema.Proofs.Text.Blank

/-!
# DataSchema.Proofs.Source.Blocks

**The table of blocks.** A block stands where its header stands, and its body is found by a search
for a closing line. What the search finds is said here without the search: a line belongs to the
body exactly if it comes after the header and neither it nor a line between is a closing line
(`mem_body_iff`). The bodies of two blocks are therefore cut off by the same closing line or have
nothing in common (`apart_or_nested`), although each block is found on its own.
-/

namespace DataSchema.Source

/-! ### Closing lines -/

/-- A line comes before the closing line that a search finds exactly if the search goes past it. -/
theorem lt_closingIndex_iff {lines : List String} {start i : Nat} (h : start ≤ i) :
    i < closingIndex lines start ↔
      i < lines.length ∧ ∀ j, start ≤ j → j ≤ i → lines[j]? ≠ some closingLine := by
  have hlength : (lines.drop start).length = lines.length - start := List.length_drop
  rw [closingIndex]
  constructor
  · intro hlt
    have hle : (lines.drop start).findIdx (· = closingLine) ≤ (lines.drop start).length :=
      List.findIdx_le_length
    refine ⟨by omega, fun j hstart hj hclosing => ?_⟩
    have hbefore : j - start < (lines.drop start).findIdx (· = closingLine) := by omega
    have hopen := List.not_of_lt_findIdx hbefore
    obtain ⟨hjlt, hline⟩ := List.getElem?_eq_some_iff.mp hclosing
    have hplace : start + (j - start) = j := by omega
    simp [hplace, hline] at hopen
  · intro hopen
    obtain ⟨hlt, hopen⟩ := hopen
    have hfound : i - start < (lines.drop start).findIdx (· = closingLine) := by
      refine List.lt_findIdx_of_not (by omega) fun j hj hclosing => ?_
      rw [List.getElem_drop, decide_eq_true_eq] at hclosing
      exact hopen (start + j) (by omega) (by omega) (List.getElem?_eq_some_iff.mpr ⟨_, hclosing⟩)
    omega

/-- A search that does not find a closing line ends where the lines end. -/
theorem closingIndex_eq_length_or {lines : List String} {start : Nat} (h : start ≤ lines.length) :
    closingIndex lines start = lines.length ∨
      lines[closingIndex lines start]? = some closingLine := by
  have hle := closingIndex_le_length h
  have hstart : start ≤ closingIndex lines start := Nat.le_add_right ..
  by_cases hclosing : lines[closingIndex lines start]? = some closingLine
  · exact Or.inr hclosing
  · refine Or.inl (Nat.le_antisymm hle (Nat.le_of_not_lt fun hlt => ?_))
    -- Otherwise the search would go past its own end.
    have hpast : closingIndex lines start < closingIndex lines start := by
      refine (lt_closingIndex_iff hstart).mpr ⟨hlt, fun j hj hjle => ?_⟩
      rcases Nat.lt_or_eq_of_le hjle with hbefore | rfl
      · exact ((lt_closingIndex_iff hj).mp hbefore).2 j hj (Nat.le_refl j)
      · exact hclosing
    exact Nat.lt_irrefl _ hpast

/-- A closing brace stands somewhere after the first opening brace. -/
def ClosesOnHeader (line : String) : Prop :=
  ∃ before after, line.toList = before ++ '\x7b' :: after ∧ '\x7b' ∉ before ∧ '\x7d' ∈ after

theorem closesItself_iff {line : String} : closesItself line = true ↔ ClosesOnHeader line := by
  rw [closesItself, List.contains_iff_mem]
  constructor
  · intro h
    cases hrest : line.toList.dropWhile (· ≠ '\x7b') with
    | nil =>
        rw [hrest] at h
        exact absurd h List.not_mem_nil
    | cons c after =>
        have hc : c = '\x7b' := by
          have hhead : decide (c ≠ '\x7b') = false :=
            Text.head?_dropWhile c (by rw [hrest]; rfl)
          simpa using hhead
        subst hc
        refine ⟨line.toList.takeWhile (· ≠ '\x7b'), after, ?_, ?_, ?_⟩
        · rw [← hrest, List.takeWhile_append_dropWhile]
        · intro hmem
          simpa using List.mem_takeWhile_imp hmem
        · rw [hrest] at h
          simpa using h
  · intro h
    obtain ⟨before, after, hline, hbefore, hafter⟩ := h
    have hopen : ∀ c ∈ before, decide (c ≠ '\x7b') = true := by
      intro c hc
      refine decide_eq_true ?_
      rintro rfl
      exact hbefore hc
    rw [hline, List.dropWhile_append_of_pos hopen, List.dropWhile_cons_of_neg (by simp)]
    exact List.mem_cons_of_mem _ hafter

theorem opensBlock_iff {line : String} : opensBlock line = true ↔ '\x7b' ∈ line.toList := by
  rw [opensBlock, List.contains_iff_mem]

/-! ### Bodies -/

/-- A line is in the body of a block if the block does not end on its header, and the line comes
after the header with no closing line up to it. -/
theorem mem_body_iff {lines : List String} {block : Block} {line : String}
    (hblock : block ∈ locateBlocks lines) (hline : lines[block.header]? = some line) {i : Nat} :
    i ∈ block.body ↔ closesItself line = false ∧ block.header < i ∧ i < lines.length ∧
      ∀ j, block.header < j → j ≤ i → lines[j]? ≠ some closingLine := by
  obtain ⟨line', hline', hat⟩ := mem_locateBlocks_iff.mp hblock
  cases hline.symm.trans hline'
  rw [LineRange.mem_def, (blockAt?_eq_some_iff.mp hat).2.2.2]
  dsimp only
  cases hself : closesItself line with
  | true =>
      rw [if_pos rfl]
      constructor
      · intro h
        omega
      · intro h
        exact absurd h.1 (by simp)
  | false =>
      rw [if_neg (by simp)]
      constructor
      · intro h
        exact ⟨rfl, h.1, (lt_closingIndex_iff h.1).mp h.2⟩
      · intro h
        exact ⟨h.2.1, (lt_closingIndex_iff h.2.1).mpr h.2.2⟩

theorem body_stop {lines : List String} {block : Block} {line : String}
    (hblock : block ∈ locateBlocks lines) (hline : lines[block.header]? = some line) :
    block.body.stop =
      if closesItself line then block.body.start else closingIndex lines (block.header + 1) := by
  obtain ⟨line', hline', hat⟩ := mem_locateBlocks_iff.mp hblock
  cases hline.symm.trans hline'
  rw [(blockAt?_eq_some_iff.mp hat).2.2.2]

/-- The blocks stand in the order of their headers. -/
theorem pairwise_locateBlocks (lines : List String) :
    (locateBlocks lines).Pairwise fun b c => b.header < c.header := by
  refine (pairwise_zipIdx lines).filterMap _ fun x y hxy b hb c hc => ?_
  have hbheader := (blockAt?_eq_some_iff.mp hb).2.2.1
  have hcheader := (blockAt?_eq_some_iff.mp hc).2.2.1
  omega

/-- The first block of its kind and name is the one with the first header. -/
theorem Outline.isFirstBlock_iff {lines : List String} {block : Block} :
    (ofLines lines).IsFirstBlock block ↔ block ∈ locateBlocks lines ∧
      ∀ other ∈ locateBlocks lines, other.kind = block.kind → other.name = block.name →
        block.header ≤ other.header := by
  have hordered := pairwise_locateBlocks lines
  constructor
  · intro hfirst
    refine ⟨hfirst.mem, fun other hother hkind hname => ?_⟩
    obtain ⟨before, after, hblocks, hbefore⟩ := hfirst
    have hblocks : locateBlocks lines = before ++ block :: after := hblocks
    rw [hblocks] at hother hordered
    rcases List.mem_append.mp hother with hother | hother
    · exact absurd ⟨hkind, hname⟩ (hbefore other hother)
    · rcases List.mem_cons.mp hother with rfl | hother
      · exact Nat.le_refl _
      · have hafter := (List.pairwise_cons.mp (List.pairwise_append.mp hordered).2.1).1
        exact Nat.le_of_lt (hafter other hother)
  · intro h
    obtain ⟨hblock, hleast⟩ := h
    obtain ⟨before, after, hblocks⟩ := List.append_of_mem hblock
    refine ⟨before, after, hblocks, fun b hb hsame => ?_⟩
    have hmem : b ∈ locateBlocks lines := by
      rw [hblocks]
      exact List.mem_append_left _ hb
    rw [hblocks] at hordered
    have hlt : b.header < block.header :=
      (List.pairwise_append.mp hordered).2.2 b hb block (List.mem_cons_self ..)
    exact Nat.not_lt.mpr (hleast b hmem hsame.1 hsame.2) hlt

/-! ### Nesting -/

theorem isEmpty_body_of_closesItself {lines : List String} {block : Block} {line : String}
    (hblock : block ∈ locateBlocks lines) (hline : lines[block.header]? = some line)
    (hself : closesItself line = true) : block.body.isEmpty = true := by
  have hstop := body_stop hblock hline
  rw [if_pos hself] at hstop
  simp [LineRange.isEmpty, LineRange.size, hstop]

/-- After the header of an inner block, the lines of the outer body are those of the inner one. -/
theorem mem_body_iff_of_nested {lines : List String} {outer inner : Block} {line : String}
    (houter : outer ∈ locateBlocks lines) (hinner : inner ∈ locateBlocks lines)
    (hnested : inner.header ∈ outer.body) (hline : lines[inner.header]? = some line)
    (hself : closesItself line = false) {i : Nat} (hi : inner.header < i) :
    i ∈ outer.body ↔ i ∈ inner.body := by
  obtain ⟨line', hline', -⟩ := mem_locateBlocks_iff.mp houter
  obtain ⟨hself', hheader, -, hbefore⟩ := (mem_body_iff houter hline').mp hnested
  rw [mem_body_iff houter hline', mem_body_iff hinner hline]
  constructor
  · intro h
    obtain ⟨-, -, hlt, hopen⟩ := h
    exact ⟨hself, hi, hlt, fun j hj hji => hopen j (by omega) hji⟩
  · intro h
    obtain ⟨-, -, hlt, hopen⟩ := h
    refine ⟨hself', by omega, hlt, fun j hj hji => ?_⟩
    rcases Nat.lt_or_ge inner.header j with hafter | hle
    · exact hopen j hafter hji
    · exact hbefore j hj hle

/-- Of two blocks the first ends before the second, or it holds the header of the second and both
are closed by the same line. -/
theorem apart_or_nested {lines : List String} {b c : Block} (hb : b ∈ locateBlocks lines)
    (hc : c ∈ locateBlocks lines) (h : b.header < c.header) :
    b.body.stop ≤ c.header ∨
      c.header ∈ b.body ∧ (c.body.isEmpty = true ∨ c.body.stop = b.body.stop) := by
  obtain ⟨hbstart, -, -⟩ := body_bounds hb
  obtain ⟨hcstart, hcle, -⟩ := body_bounds hc
  by_cases hnested : c.header ∈ b.body
  · refine Or.inr ⟨hnested, ?_⟩
    obtain ⟨line, hline, -⟩ := mem_locateBlocks_iff.mp hc
    cases hself : closesItself line with
    | true => exact Or.inl (isEmpty_body_of_closesItself hc hline hself)
    | false =>
        -- Neither body can go on where the other one stops.
        have hsame : ∀ i, c.header < i → (i ∈ b.body ↔ i ∈ c.body) := fun i hi =>
          mem_body_iff_of_nested hb hc hnested hline hself hi
        have hinner : c.header < b.body.stop := hnested.2
        have hbstop := hsame b.body.stop hinner
        have hcstop := hsame c.body.stop (by omega)
        rw [LineRange.mem_def, LineRange.mem_def] at hbstop hcstop
        exact Or.inr (by omega)
  · rw [LineRange.mem_def] at hnested
    exact Or.inl (by omega)

/-- No block has its header in the body of a block. -/
def Outline.Flat (o : Outline) : Prop := ∀ b ∈ o.blocks, ∀ c ∈ o.blocks, c.header ∉ b.body

instance (o : Outline) : Decidable o.Flat :=
  inferInstanceAs (Decidable (∀ b ∈ o.blocks, ∀ c ∈ o.blocks, c.header ∉ b.body))

/-- Where no block stands in another, no two bodies have a line in common. -/
theorem disjoint_of_flat {lines : List String} (flat : (Outline.ofLines lines).Flat) {b c : Block}
    (hb : b ∈ locateBlocks lines) (hc : c ∈ locateBlocks lines) (h : b.header < c.header) :
    ∀ i ∈ b.body, i ∉ c.body := by
  intro i hib hic
  have hstop : b.body.stop ≤ c.header := (apart_or_nested hb hc h).resolve_right
    fun hnested => flat b hb c hc hnested.1
  have hstart := (body_bounds hc).1
  have hafter : c.body.start ≤ i := hic.1
  have hbefore : i < b.body.stop := hib.2
  omega

/-- A header line opens one block. -/
theorem eq_of_header_eq {lines : List String} {b c : Block} (hb : b ∈ locateBlocks lines)
    (hc : c ∈ locateBlocks lines) (h : b.header = c.header) : b = c := by
  obtain ⟨line, hline, hbat⟩ := mem_locateBlocks_iff.mp hb
  obtain ⟨line', hline', hcat⟩ := mem_locateBlocks_iff.mp hc
  rw [← h] at hline' hcat
  cases hline.symm.trans hline'
  exact Option.some.inj (hbat.symm.trans hcat)

/-- A line of two bodies belongs to one block, where no block stands in another. -/
theorem eq_of_mem_bodies {lines : List String} (flat : (Outline.ofLines lines).Flat) {b c : Block}
    (hb : b ∈ locateBlocks lines) (hc : c ∈ locateBlocks lines) {i : Nat} (hib : i ∈ b.body)
    (hic : i ∈ c.body) : b = c := by
  rcases Nat.lt_trichotomy b.header c.header with hlt | heq | hgt
  · exact absurd hic (disjoint_of_flat flat hb hc hlt i hib)
  · exact eq_of_header_eq hb hc heq
  · exact absurd hib (disjoint_of_flat flat hc hb hgt i hic)

/-! ### The table -/

namespace Outline

/-- The line with a number is a header and holds an opening brace. -/
def HeaderAt (o : Outline) (i : Nat) (header : Header) : Prop :=
  ∃ line, o.line? i = some line ∧ Header.parse? line = some header ∧ '\x7b' ∈ line.toList

/-- Where the body of a block ends: nowhere below a header that closes itself, else at the next
closing line, or at the end if no closing line comes after the header. -/
inductive Ends (o : Outline) (block : Block) : Prop
  | onHeader (line : String) (header : o.line? block.header = some line)
      (closes : ClosesOnHeader line) (empty : block.body.isEmpty = true)
  | atClosingLine (line : String) (header : o.line? block.header = some line)
      (opens : ¬ ClosesOnHeader line) (stop : o.line? block.body.stop = some closingLine)
  | atEnd (line : String) (header : o.line? block.header = some line)
      (opens : ¬ ClosesOnHeader line) (stop : block.body.stop = o.lines.length)
      (unclosed : ∀ i, block.header < i → o.line? i ≠ some closingLine)

/-- The blocks of an outline are those that its lines open, in the order of the lines, and the body
of each is what comes after its header up to where it ends. -/
structure HasExactBlocks (o : Outline) : Prop where
  ordered : o.blocks.Pairwise fun b c => b.header < c.header
  headers : ∀ i header, (∃ block ∈ o.blocks,
    block.header = i ∧ block.kind = header.kind ∧ block.name = header.name) ↔ o.HeaderAt i header
  bodies : ∀ block ∈ o.blocks, block.body.start = block.header + 1 ∧
    block.body.start ≤ block.body.stop ∧ block.body.stop ≤ o.lines.length
  interior : ∀ block ∈ o.blocks, ∀ i ∈ block.body, o.line? i ≠ some closingLine
  ends : ∀ block ∈ o.blocks, o.Ends block

theorem exists_block_iff_headerAt {lines : List String} {i : Nat} {header : Header} :
    (∃ block ∈ locateBlocks lines,
      block.header = i ∧ block.kind = header.kind ∧ block.name = header.name) ↔
        (ofLines lines).HeaderAt i header := by
  constructor
  · intro h
    obtain ⟨block, hblock, rfl, hkind, hname⟩ := h
    obtain ⟨line, hline, hat⟩ := mem_locateBlocks_iff.mp hblock
    obtain ⟨hparse, hopens, -⟩ := blockAt?_eq_some_iff.mp hat
    rw [hkind, hname] at hparse
    exact ⟨line, hline, hparse, opensBlock_iff.mp hopens⟩
  · intro h
    obtain ⟨line, hline, hparse, hopens⟩ := h
    exact exists_block_of_header hline hparse (opensBlock_iff.mpr hopens)

theorem ends_of_mem {lines : List String} {block : Block} (hblock : block ∈ locateBlocks lines) :
    (ofLines lines).Ends block := by
  obtain ⟨line, hline, -⟩ := mem_locateBlocks_iff.mp hblock
  have hheader : block.header + 1 ≤ lines.length := (List.getElem?_eq_some_iff.mp hline).1
  have hstop := body_stop hblock hline
  cases hself : closesItself line with
  | true =>
      exact .onHeader line hline (closesItself_iff.mp hself)
        (isEmpty_body_of_closesItself hblock hline hself)
  | false =>
      have hopens : ¬ ClosesOnHeader line := by
        rw [← closesItself_iff, hself]
        exact Bool.false_ne_true
      rw [hself, if_neg Bool.false_ne_true] at hstop
      rcases closingIndex_eq_length_or hheader with hend | hclosing
      · refine .atEnd line hline hopens (hstop.trans hend) fun i hi hclosing => ?_
        -- The search has gone past every line after the header.
        have hlt : i < closingIndex lines (block.header + 1) := by
          rw [hend]
          exact (List.getElem?_eq_some_iff.mp hclosing).1
        exact ((lt_closingIndex_iff hi).mp hlt).2 i hi (Nat.le_refl i) hclosing
      · refine .atClosingLine line hline hopens ?_
        rw [hstop]
        exact hclosing

/-- **The table of blocks is exact.** Each header line with an opening brace is in it once, in the
order of the text, and each body ends at the first place where it can. -/
theorem hasExactBlocks_ofText (source : String) : (ofText source).HasExactBlocks where
  ordered := pairwise_locateBlocks _
  headers := fun _ _ => exists_block_iff_headerAt
  bodies := fun _ hblock => body_bounds hblock
  interior := by
    intro block hblock i hi
    obtain ⟨line, hline, -⟩ := mem_locateBlocks_iff.mp hblock
    obtain ⟨-, hheader, -, hopen⟩ := (mem_body_iff hblock hline).mp hi
    exact hopen i hheader (Nat.le_refl i)
  ends := fun _ hblock => ends_of_mem hblock

end Outline

end DataSchema.Source
