import Mathlib.Data.List.Infix
import Mathlib.Data.List.Nodup
import DataSchema.Proofs.Source.Blocks
import DataSchema.Proofs.Text.Words

/-!
# DataSchema.Proofs.Source.Lines

**The lines of a text and the lines of its outline** have the same numbers: an outline has one line
for each physical line, the normal form of it. So what is read off the lines of a range can be said
of the physical lines of the range, as long as nothing is read off a line that is empty
(`filterMap_bodyLines_ofText`).

The lines of a range are in the order of their numbers, which makes them a matter of membership:
two such lists are the same if they have the same members.
-/

namespace DataSchema.Source

/-! ### Normal forms -/

theorem hasCommentMark_iff {line : List Char} :
    hasCommentMark line = true ↔ ['/', '/'] <:+: line := by
  fun_induction hasCommentMark line with
  | case1 rest =>
      have hmark : ['/', '/'] <+: '/' :: '/' :: rest := List.prefix_append _ _
      simp [hmark.isInfix]
  | case2 c rest hne ih =>
      have hprefix : ¬ ['/', '/'] <+: c :: rest := by
        rintro ⟨more, hmore⟩
        cases hmore
        exact hne more rfl rfl
      rw [ih, List.infix_cons_iff, or_iff_right hprefix]
  | case3 => simp

theorem normalize_of_comment {line : List Char} (h : ['/', '/'] <:+: line) :
    normalize line = [] := by
  rw [normalize, if_pos (hasCommentMark_iff.mpr h)]

theorem normalize_of_not_comment {line : List Char} (h : ¬ ['/', '/'] <:+: line) :
    normalize line = Text.collapse line := by
  rw [normalize, if_neg (hasCommentMark_iff.not.mpr h)]

/-- The lines without a normal form of their own are comments and blank lines. -/
theorem normalize_eq_nil_iff {line : List Char} :
    normalize line = [] ↔ ['/', '/'] <:+: line ∨ ∀ c ∈ line, Text.isBlank c = true := by
  by_cases hcomment : ['/', '/'] <:+: line
  · rw [normalize_of_comment hcomment]
    simp [hcomment]
  · rw [normalize_of_not_comment hcomment, Text.collapse_eq_nil_iff, or_iff_right hcomment]

/-! ### Numbered lines -/

variable {α β : Type}

/-- The lines with a number in the range, each with its number. -/
def numberedIn (lines : List α) (range : LineRange) : List (Nat × α) :=
  (lines.zipIdx.filter fun entry => entry.2 ∈ range).map Prod.swap

theorem mem_numberedIn {lines : List α} {range : LineRange} {i : Nat} {line : α} :
    (i, line) ∈ numberedIn lines range ↔ i ∈ range ∧ lines[i]? = some line := by
  rw [numberedIn, List.mem_map]
  constructor
  · intro h
    obtain ⟨⟨line', j⟩, hmem, heq⟩ := h
    cases heq
    obtain ⟨hentry, hrange⟩ := List.mem_filter.mp hmem
    exact ⟨of_decide_eq_true hrange, List.mk_mem_zipIdx_iff_getElem?.mp hentry⟩
  · intro h
    obtain ⟨hrange, hline⟩ := h
    have hentry := List.mk_mem_zipIdx_iff_getElem?.mpr hline
    exact ⟨(line, i), List.mem_filter.mpr ⟨hentry, decide_eq_true hrange⟩, rfl⟩

theorem numberedIn_map (f : α → β) (lines : List α) (range : LineRange) :
    numberedIn (lines.map f) range =
      (numberedIn lines range).map fun entry => (entry.1, f entry.2) := by
  rw [numberedIn, numberedIn, List.zipIdx_map, List.filter_map, List.map_map, List.map_map]
  rfl

theorem pairwise_numberedIn (lines : List α) (range : LineRange) :
    (numberedIn lines range).Pairwise fun x y => x.1 < y.1 :=
  List.pairwise_map.mpr ((pairwise_zipIdx lines).filter _)

/-! ### Lines of a range -/

namespace Outline

theorem pairwise_bodyLines (o : Outline) (range : LineRange) :
    (o.bodyLines range).Pairwise fun x y => x.1 < y.1 := by
  have hcut : ((o.lines.zipIdx.take range.stop).drop range.start).Pairwise fun x y => x.2 < y.2 :=
    (pairwise_zipIdx o.lines).sublist ((List.drop_sublist ..).trans (List.take_sublist ..))
  refine hcut.filterMap _ fun x y hxy b hb c hc => ?_
  dsimp only at hb hc
  split at hb
  · exact absurd hb (by simp)
  · split at hc
    · exact absurd hc (by simp)
    · cases hb
      cases hc
      exact hxy

theorem bodyLines_eq_filter (o : Outline) (range : LineRange) :
    o.bodyLines range = (numberedIn o.lines range).filter fun entry => entry.2 ≠ "" := by
  refine eq_of_mem_iff (o.pairwise_bodyLines range) ((pairwise_numberedIn _ _).filter _) ?_
  intro i line
  rw [mem_bodyLines, List.mem_filter, mem_numberedIn, decide_eq_true_iff, and_assoc]
  rfl

/-- What is read off the lines of a range is read off the physical lines of the range. -/
theorem filterMap_bodyLines_ofText (f : Nat → String → Option β) (hempty : ∀ i, f i "" = none)
    (source : String) (range : LineRange) :
    ((ofText source).bodyLines range).filterMap (fun entry => f entry.1 entry.2) =
      (numberedIn (physicalLines source.toList) range).filterMap fun entry =>
        f entry.1 (String.ofList (normalize entry.2)) := by
  have hlines : (ofText source).lines =
      (physicalLines source.toList).map fun line => String.ofList (normalize line) := rfl
  rw [bodyLines_eq_filter, hlines, numberedIn_map, List.filter_map, List.filterMap_map,
    List.filterMap_filter]
  refine List.filterMap_congr fun entry _ => ?_
  dsimp only [Function.comp_apply]
  split
  · rfl
  · next hline =>
      have hline : String.ofList (normalize entry.2) = "" := by simpa using hline
      rw [hline, hempty]

end Outline

end DataSchema.Source
