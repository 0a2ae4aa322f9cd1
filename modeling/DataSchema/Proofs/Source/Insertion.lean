import DataSchema.Proofs.Source.Lines

/-!
# DataSchema.Proofs.Source.Insertion

**One more empty line.** An empty line among the lines of an outline moves the lines below it and
does nothing else. It is no header, so every block is where it was, up to the number of its header;
and it is no closing line, so every body has the lines that it had, up to their numbers, wherever
the new line stands (`exists_renumbersTo`). What is read off a body is therefore the same
(`bodyLines_insert`).
-/

namespace DataSchema.Source

/-! ### Numbers -/

/-- The number of line `i` after a line has been inserted in front of line `k`. -/
def renumber (k i : Nat) : Nat := if i < k then i else i + 1

theorem renumber_lt_iff {k i j : Nat} : renumber k i < renumber k j ↔ i < j := by
  unfold renumber
  split <;> split <;> omega

theorem renumber_le_iff {k i j : Nat} : renumber k i ≤ renumber k j ↔ i ≤ j := by
  rw [← Nat.not_lt, renumber_lt_iff, Nat.not_lt]

/-- All numbers but that of the inserted line are those of old lines. -/
theorem exists_renumber_eq {k j : Nat} (h : j ≠ k) : ∃ i, renumber k i = j := by
  rcases Nat.lt_or_gt_of_ne h with hlt | hgt
  · exact ⟨j, if_pos hlt⟩
  · refine ⟨j - 1, ?_⟩
    unfold renumber
    split <;> omega

section Lines

variable {α : Type} (before after : List α) (line : α)

theorem getElem?_insert_renumber (i : Nat) :
    (before ++ line :: after)[renumber before.length i]? = (before ++ after)[i]? := by
  unfold renumber
  split
  · next hlt => rw [List.getElem?_append_left hlt, List.getElem?_append_left hlt]
  · next hge =>
      rw [List.getElem?_append_right (by omega), List.getElem?_append_right (by omega),
        Nat.sub_add_comm (by omega), List.getElem?_cons_succ]

theorem getElem?_insert_self : (before ++ line :: after)[before.length]? = some line := by
  rw [List.getElem?_append_right (Nat.le_refl _), Nat.sub_self, List.getElem?_cons_zero]

/-- A place is among the old lines exactly if its new number is among the new ones. -/
theorem renumber_lt_length_iff {i : Nat} :
    renumber before.length i < (before ++ line :: after).length ↔ i < (before ++ after).length := by
  rw [List.length_append, List.length_append, List.length_cons]
  unfold renumber
  split <;> omega

end Lines

/-! ### Blocks -/

/-- The second block is the first one after a line has been inserted in front of line `k`. -/
structure Block.RenumbersTo (k : Nat) (b c : Block) : Prop where
  kind : c.kind = b.kind
  name : c.name = b.name
  header : c.header = renumber k b.header
  body : ∀ i, renumber k i ∈ c.body ↔ i ∈ b.body

variable {before after : List String}

/-- No closing line is inserted. -/
theorem unclosed_insert_iff {h i : Nat} :
    (∀ j, renumber before.length h < j → j ≤ renumber before.length i →
        (before ++ "" :: after)[j]? ≠ some closingLine) ↔
      ∀ j, h < j → j ≤ i → (before ++ after)[j]? ≠ some closingLine := by
  constructor
  · intro hopen j hj hji
    rw [← getElem?_insert_renumber before after ""]
    exact hopen _ (renumber_lt_iff.mpr hj) (renumber_le_iff.mpr hji)
  · intro hopen j hj hji
    by_cases hnew : j = before.length
    · rw [hnew, getElem?_insert_self]
      decide
    · obtain ⟨j, rfl⟩ := exists_renumber_eq hnew
      rw [getElem?_insert_renumber]
      exact hopen j (renumber_lt_iff.mp hj) (renumber_le_iff.mp hji)

/-- Every block is still there. -/
theorem exists_renumbersTo {b : Block} (hb : b ∈ locateBlocks (before ++ after)) :
    ∃ c ∈ locateBlocks (before ++ "" :: after), b.RenumbersTo before.length c := by
  obtain ⟨line, hline, hat⟩ := mem_locateBlocks_iff.mp hb
  obtain ⟨hparse, hopens, -⟩ := blockAt?_eq_some_iff.mp hat
  have hmoved := (getElem?_insert_renumber before after "" b.header).trans hline
  obtain ⟨c, hc, hheader, hkind, hname⟩ := exists_block_of_header hmoved hparse hopens
  refine ⟨c, hc, hkind, hname, hheader, fun i => ?_⟩
  rw [mem_body_iff hb hline, mem_body_iff hc (hheader ▸ hmoved), hheader, renumber_lt_iff,
    renumber_lt_length_iff, unclosed_insert_iff]

/-- No block is new. -/
theorem exists_header_of_insert {c : Block} (hc : c ∈ locateBlocks (before ++ "" :: after)) :
    ∃ b ∈ locateBlocks (before ++ after),
      b.kind = c.kind ∧ b.name = c.name ∧ c.header = renumber before.length b.header := by
  obtain ⟨line, hline, hat⟩ := mem_locateBlocks_iff.mp hc
  obtain ⟨hparse, hopens, -⟩ := blockAt?_eq_some_iff.mp hat
  have hold : c.header ≠ before.length := by
    intro hnew
    rw [hnew, getElem?_insert_self] at hline
    cases hline
    have hempty : opensBlock "" = false := by decide
    exact Bool.noConfusion (hopens.symm.trans hempty)
  obtain ⟨i, hi⟩ := exists_renumber_eq hold
  rw [← hi, getElem?_insert_renumber] at hline
  obtain ⟨b, hb, rfl, hkind, hname⟩ := exists_block_of_header hline hparse hopens
  exact ⟨b, hb, hkind, hname, hi.symm⟩

namespace Outline

theorem opens_insert_iff {kind : BlockKind} {name : String} :
    (ofLines (before ++ "" :: after)).Opens kind name ↔
      (ofLines (before ++ after)).Opens kind name := by
  rw [← exists_block_iff_opens, ← exists_block_iff_opens]
  constructor
  · intro h
    obtain ⟨c, hc, rfl, rfl⟩ := h
    obtain ⟨b, hb, hkind, hname, -⟩ := exists_header_of_insert hc
    exact ⟨b, hb, hkind, hname⟩
  · intro h
    obtain ⟨b, hb, rfl, rfl⟩ := h
    obtain ⟨c, hc, hbc⟩ := exists_renumbersTo hb
    exact ⟨c, hc, hbc.kind, hbc.name⟩

/-- A search for a block finds the same block. -/
theorem findBlock?_insert (before after : List String) (kind : BlockKind) (name : String) :
    Option.Rel (Block.RenumbersTo before.length) ((ofLines (before ++ after)).findBlock? kind name)
      ((ofLines (before ++ "" :: after)).findBlock? kind name) := by
  cases hfind : (ofLines (before ++ after)).findBlock? kind name with
  | none =>
      have hnone := opens_insert_iff.not.mpr (findBlock?_eq_none_iff.mp hfind)
      rw [findBlock?_eq_none_iff.mpr hnone]
      exact .none
  | some b =>
      obtain ⟨hfirst, rfl, rfl⟩ := findBlock?_eq_some_iff.mp hfind
      obtain ⟨hb, hleast⟩ := isFirstBlock_iff.mp hfirst
      obtain ⟨c, hc, hbc⟩ := exists_renumbersTo hb
      have hcfirst : (ofLines (before ++ "" :: after)).IsFirstBlock c := by
        refine isFirstBlock_iff.mpr ⟨hc, fun other hother hkind hname => ?_⟩
        obtain ⟨old, hold, holdkind, holdname, holdheader⟩ := exists_header_of_insert hother
        rw [hbc.header, holdheader, renumber_le_iff]
        exact hleast old hold (holdkind.trans (hkind.trans hbc.kind))
          (holdname.trans (hname.trans hbc.name))
      rw [findBlock?_eq_some_iff.mpr ⟨hcfirst, hbc.kind, hbc.name⟩]
      exact .some hbc

/-- The body has the lines that it had. -/
theorem bodyLines_insert {b c : Block} (h : b.RenumbersTo before.length c) :
    (ofLines (before ++ "" :: after)).bodyLines c.body =
      ((ofLines (before ++ after)).bodyLines b.body).map fun entry =>
        (renumber before.length entry.1, entry.2) := by
  have hordered : (((ofLines (before ++ after)).bodyLines b.body).map fun entry =>
      (renumber before.length entry.1, entry.2)).Pairwise fun x y => x.1 < y.1 :=
    List.pairwise_map.mpr ((pairwise_bodyLines _ _).imp renumber_lt_iff.mpr)
  refine eq_of_mem_iff (pairwise_bodyLines _ _) hordered fun j line => ?_
  rw [mem_bodyLines, List.mem_map]
  constructor
  · intro hmem
    obtain ⟨hrange, hline, hne⟩ := hmem
    have hold : j ≠ before.length := by
      rintro rfl
      exact hne (Option.some.inj (hline.symm.trans (getElem?_insert_self before after "")))
    obtain ⟨i, rfl⟩ := exists_renumber_eq hold
    have hline := (getElem?_insert_renumber before after "" i).symm.trans hline
    exact ⟨(i, line), mem_bodyLines.mpr ⟨(h.body i).mp hrange, hline, hne⟩, rfl⟩
  · intro hmem
    obtain ⟨⟨i, line'⟩, hentry, heq⟩ := hmem
    cases heq
    obtain ⟨hrange, hline, hne⟩ := mem_bodyLines.mp hentry
    exact ⟨(h.body i).mpr hrange, (getElem?_insert_renumber before after "" i).trans hline, hne⟩

end Outline

end DataSchema.Source
