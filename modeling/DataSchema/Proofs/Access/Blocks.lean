import DataSchema.Proofs.Access.Basic
import DataSchema.Source.Outline

/-!
# DataSchema.Proofs.Access.Blocks

**Blocks located by counting.** A header's opening brace is found as a byte, and the closing brace is
looked for in the text from that byte on. The closing line is looked for in the lines after the
header, which exist, even if there are none: a header is one of the lines, so the line after it is at
most the end of them (`locateBlocks_eq`).
-/

namespace DataSchema.Checked

open DataSchema.Field (byteSize)
open Source (Block Header closingLine closesItself closingIndex opensBlock)

/-- The byte where a character starts for the first time. -/
def byteOf? (c : Char) : List Char → Option Nat
  | [] => none
  | d :: rest => if d = c then some 0 else (byteOf? c rest).map (d.utf8Size + ·)

/-- The number of the line that ends a block which the line before `start` opens. -/
def closingIndexFrom (lines : List String) (start : Nat) : Checked Nat := do
  let later ← suffix lines start
  match later.findIdx? (· = closingLine) with
  | some offset => pure (start + offset)
  | none => pure lines.length

/-- The number of the line that ends the block of a header whose opening brace is at a byte. -/
def stopOf (lines : List String) (line : String) (brace start : Nat) : Checked Nat := do
  let braced ← textFrom line.toList brace
  if braced.contains '\x7d' then pure start else closingIndexFrom lines start

/-- The block that the line numbered `index` opens. -/
def blockAt? (lines : List String) (line : String) (index : Nat) : Checked (Option Block) :=
  match Header.parse? line, byteOf? '\x7b' line.toList with
  | some header, some brace => do
    let stop ← stopOf lines line brace (index + 1)
    pure (some ⟨header.kind, header.name, index, ⟨index + 1, stop⟩⟩)
  | _, _ => pure none

/-- The blocks among the lines. -/
def locateBlocks (lines : List String) : Checked (List Block) :=
  lines.zipIdx.filterMapM fun (line, index) => blockAt? lines line index

/-! ### Braces -/

theorem byteOf?_eq (c : Char) (s : List Char) :
    byteOf? c s = if s.contains c then some (byteSize (s.takeWhile (· ≠ c))) else none := by
  induction s with
  | nil => rfl
  | cons d rest ih =>
      by_cases hd : d = c
      · simp [byteOf?, hd]
      · have hc : ¬ c = d := fun h => hd h.symm
        rw [byteOf?, if_neg hd, ih]
        simp [hd, hc]

theorem byteOf?_of_opensBlock {line : String} (h : opensBlock line = true) :
    byteOf? '\x7b' line.toList = some (byteSize (line.toList.takeWhile (· ≠ '\x7b'))) := by
  rw [byteOf?_eq]
  exact if_pos h

theorem byteOf?_of_not_opensBlock {line : String} (h : ¬ opensBlock line = true) :
    byteOf? '\x7b' line.toList = none := by
  rw [byteOf?_eq]
  exact if_neg h

/-! ### Closing lines -/

theorem closingIndexFrom_eq {lines : List String} {start : Nat} (h : start ≤ lines.length) :
    closingIndexFrom lines start = pure (closingIndex lines start) := by
  rw [closingIndexFrom, suffix_eq h, pure_bind, closingIndex]
  cases hfound : (lines.drop start).findIdx? (· = closingLine) with
  | some offset => rw [(List.findIdx?_eq_some_iff_findIdx_eq.mp hfound).2]
  | none =>
      rw [List.findIdx_eq_length_of_false (by simpa using hfound), List.length_drop,
        Nat.add_sub_cancel' h]

theorem stopOf_eq {lines : List String} {line : String} {start : Nat} (h : start ≤ lines.length) :
    stopOf lines line (byteSize (line.toList.takeWhile (· ≠ '\x7b'))) start =
      pure (if closesItself line then start else closingIndex lines start) := by
  have hbraced := textFrom_eq (line.toList.takeWhile (· ≠ '\x7b'))
    (line.toList.dropWhile (· ≠ '\x7b'))
  rw [List.takeWhile_append_dropWhile] at hbraced
  rw [stopOf, hbraced, pure_bind, closingIndexFrom_eq h]
  by_cases hcloses : closesItself line = true
  · rw [if_pos hcloses]
    exact if_pos hcloses
  · rw [if_neg hcloses]
    exact if_neg hcloses

/-! ### Blocks -/

theorem blockAt?_eq {lines : List String} {line : String} {index : Nat}
    (h : index < lines.length) :
    blockAt? lines line index = pure (Source.blockAt? lines line index) := by
  unfold blockAt? Source.blockAt?
  cases hheader : Header.parse? line with
  | none => rfl
  | some header =>
      rw [Option.bind_eq_bind, Option.bind_some]
      by_cases hopens : opensBlock line = true
      · have hguard : (guard (opensBlock line = true) : Option Unit) = some () := if_pos hopens
        rw [byteOf?_of_opensBlock hopens, hguard]
        dsimp only
        rw [stopOf_eq h, pure_bind]
        rfl
      · have hguard : (guard (opensBlock line = true) : Option Unit) = none := if_neg hopens
        rw [byteOf?_of_not_opensBlock hopens, hguard]
        rfl

/-- Every cut made in looking for blocks is in range. -/
theorem locateBlocks_eq (lines : List String) :
    locateBlocks lines = pure (Source.locateBlocks lines) := by
  refine filterMapM_eq fun entry hentry => blockAt?_eq ?_
  have hlt := (List.mem_zipIdx hentry).2.1
  rwa [Nat.zero_add] at hlt

end DataSchema.Checked
