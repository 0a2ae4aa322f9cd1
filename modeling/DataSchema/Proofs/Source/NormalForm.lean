import DataSchema.Proofs.Source.Concatenation
import DataSchema.Proofs.Source.Lines
import DataSchema.Proofs.Text.Spacing
import DataSchema.Schema

/-!
# DataSchema.Proofs.Source.NormalForm

**Reading a text puts its lines into a normal form and keeps it.** A line is normal if it has no
comment mark and its only blanks are single spaces between words (`IsNormal`). Normalizing a line
makes it normal, and it changes exactly the lines that are not (`normalize_eq_self_iff`).

A normal line holds no line break. So the lines of an outline, written one below the other, are read
as these same lines, and the outline of the written text is the outline
(`Outline.ofText_text`): all that a schema is made of has survived.
-/

namespace DataSchema.Source

open Text (Spaced collapse words)

/-! ### Lines -/

/-- No comment mark, no blank at either end, and no blank but single spaces. -/
structure IsNormal (line : List Char) : Prop extends Spaced line where
  unmarked : ¬ ['/', '/'] <:+: line

theorem isNormal_nil : IsNormal [] := ⟨Text.spaced_nil, by simp⟩

/-- A normalized line is normal. Collapsing brings no two slashes together. -/
theorem isNormal_normalize (line : List Char) : IsNormal (normalize line) := by
  by_cases hmark : ['/', '/'] <:+: line
  · rw [normalize_of_comment hmark]
    exact isNormal_nil
  · rw [normalize_of_not_comment hmark]
    have hslash : '/' ≠ ' ' := by decide
    exact ⟨Text.spaced_collapse line, fun h => hmark (Text.infix_of_infix_collapse hslash hslash h)⟩

theorem IsNormal.normalize_eq {line : List Char} (h : IsNormal line) : normalize line = line := by
  rw [normalize_of_not_comment h.unmarked, h.collapse_eq]

theorem normalize_eq_self_iff {line : List Char} : normalize line = line ↔ IsNormal line := by
  constructor
  · intro h
    rw [← h]
    exact isNormal_normalize line
  · exact IsNormal.normalize_eq

theorem IsNormal.newline_not_mem {line : List Char} (h : IsNormal line) : '\n' ∉ line := by
  intro hmem
  exact absurd (h.spaces '\n' hmem (by decide)) (by decide)

theorem words_normalize {line : List Char} (h : ¬ ['/', '/'] <:+: line) :
    words (normalize line) = words line := by
  rw [normalize_of_not_comment h, Text.words_collapse]

/-! ### Lines below each other -/

/-- Lines that end with a line break are read as they were written. -/
theorem physicalLines_flatMap {lines : List (List Char)} (h : ∀ line ∈ lines, '\n' ∉ line) :
    physicalLines (lines.flatMap (· ++ ['\n'])) = lines := by
  induction lines with
  | nil => rfl
  | cons line rest ih =>
      have ih := ih fun other hother => h other (List.mem_cons_of_mem _ hother)
      rw [List.flatMap_cons, List.append_assoc, List.singleton_append,
        physicalLines_append_newline, ih, List.splitOn_eq_singleton (h line (List.mem_cons_self ..)),
        List.singleton_append]

namespace Outline

/-- The lines of an outline, each followed by a line break. -/
def text (o : Outline) : String :=
  String.ofList ((o.lines.map String.toList).flatMap (· ++ ['\n']))

theorem isNormal_of_mem_lines {source line : String} (h : line ∈ (ofText source).lines) :
    IsNormal line.toList := by
  obtain ⟨physical, -, rfl⟩ := List.mem_map.mp h
  rw [String.toList_ofList]
  exact isNormal_normalize physical

/-- An outline is read back from its lines. -/
theorem ofText_text (source : String) : ofText (ofText source).text = ofText source := by
  have hread : physicalLines (ofText source).text.toList =
      (ofText source).lines.map String.toList := by
    rw [text, String.toList_ofList]
    refine physicalLines_flatMap fun line hline => ?_
    obtain ⟨written, hwritten, rfl⟩ := List.mem_map.mp hline
    exact (isNormal_of_mem_lines hwritten).newline_not_mem
  have hkeep : ∀ line ∈ (ofText source).lines, String.ofList (normalize line.toList) = line := by
    intro line hline
    rw [(isNormal_of_mem_lines hline).normalize_eq, String.ofList_toList]
  have hlines : normalizedLines (ofText source).text = (ofText source).lines := by
    rw [normalizedLines, hread, List.map_map]
    exact (List.map_congr_left hkeep).trans (List.map_id _)
  exact congrArg ofLines hlines

/-- **Reading keeps the normal form.** The lines of an outline, written one below the other, have the
same outline and compile to the same schema, whatever the markers. All of them are normal. What
normalization does to a line is the least that makes it so: the words stay if there is no comment
mark, and the line itself stays if and only if it was normal. -/
theorem normalForm_ofText (source : String) (markers : Markers) (line : String) :
    ofText (ofText source).text = ofText source ∧
      Schema.compile (ofText source).text markers = Schema.compile source markers ∧
      (∀ l ∈ (ofText source).lines, IsNormal l.toList) ∧
      (¬ ['/', '/'] <:+: line.toList → words (normalizeLine line).toList = words line.toList) ∧
      (normalizeLine line = line ↔ IsNormal line.toList) := by
  have htext := ofText_text source
  refine ⟨htext, congrArg (Schema.ofOutline · markers) htext, fun _ => isNormal_of_mem_lines,
    fun hmark => ?_, ?_⟩
  · rw [normalizeLine, String.toList_ofList, words_normalize hmark]
  · rw [normalizeLine, ← normalize_eq_self_iff, ← String.toList_inj, String.toList_ofList]

/-- A carriage return, a tab, an ideographic space and slashes that stand apart. -/
theorem normalForm_ofText_slashes :
    let source := "model A\t\x7b\r\n id  Int // key\n\n at\u3000/ /\t\n\x7d"
    let line := " at\u3000/ /\t"
    (ofText source).text = "model A \x7b\n\n\nat / /\n\x7d\n" ∧
      ofText (ofText source).text = ofText source ∧
      ¬ ['/', '/'] <:+: line.toList ∧
      words (normalizeLine line).toList = ["at".toList, ['/'], ['/']] ∧
      ¬ IsNormal line.toList := by
  intro source line
  have hmark : ¬ ['/', '/'] <:+: line.toList := by decide +kernel
  obtain ⟨htext, -, -, hwords, hnormal⟩ := normalForm_ofText source {} line
  have hline : normalizeLine line ≠ line := by decide +kernel
  exact ⟨by decide +kernel, htext, hmark, (hwords hmark).trans (by decide +kernel),
    fun h => hline (hnormal.mpr h)⟩

end Outline

end DataSchema.Source
