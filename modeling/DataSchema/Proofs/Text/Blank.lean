import Mathlib.Data.List.DropRight
import Mathlib.Data.List.TakeWhile
import DataSchema.Text.Blank

/-!
# DataSchema.Proofs.Text.Blank

**Runs of characters.** A reader takes the longest run of a class of characters. It takes exactly a
given run when the run is in the class and what follows it is not (`takeWhile_append_of_stop`). A
trimmed text is what is left between two such runs, so it has no blank at either end.
-/

namespace DataSchema.Text

/-! ### Longest runs -/

variable {p : Char → Bool}

theorem takeWhile_append_of_stop {run s : List Char} (hrun : ∀ c ∈ run, p c = true)
    (stop : ∀ c ∈ s.head?, p c = false) : (run ++ s).takeWhile p = run := by
  have hs : s.takeWhile p = [] := by
    cases s with
    | nil => rfl
    | cons c rest => simp [stop c rfl]
  rw [List.takeWhile_append_of_pos hrun, hs, List.append_nil]

theorem dropWhile_append_of_stop {run s : List Char} (hrun : ∀ c ∈ run, p c = true)
    (stop : ∀ c ∈ s.head?, p c = false) : (run ++ s).dropWhile p = s := by
  have hs : s.dropWhile p = s := by
    cases s with
    | nil => rfl
    | cons c rest => simp [stop c rfl]
  rw [List.dropWhile_append_of_pos hrun, hs]

theorem head?_dropWhile {s : List Char} : ∀ c ∈ (s.dropWhile p).head?, p c = false := by
  intro c hc
  have h := List.head?_dropWhile_not p s
  rw [Option.mem_def.mp hc] at h
  simpa using h

/-! ### Runs at the end -/

theorem dropRightWhile_eq_rdropWhile (p : Char → Bool) (s : List Char) :
    dropRightWhile p s = s.rdropWhile p := rfl

/-- What is taken away at the end is in the class. -/
theorem exists_dropRightWhile_eq (p : Char → Bool) (s : List Char) :
    ∃ run, (∀ c ∈ run, p c = true) ∧ s = dropRightWhile p s ++ run :=
  ⟨s.rtakeWhile p, fun _ => List.mem_rtakeWhile_imp, by
    rw [dropRightWhile_eq_rdropWhile, List.rdropWhile_append_rtakeWhile]⟩

/-- What is left ends with no character of the class. -/
theorem getLast?_dropRightWhile {s : List Char} :
    ∀ c ∈ (dropRightWhile p s).getLast?, p c = false := by
  intro c hc
  rw [dropRightWhile, List.getLast?_reverse] at hc
  exact head?_dropWhile c hc

theorem dropRightWhile_append_of_stop {s run : List Char} (stop : ∀ c ∈ s.getLast?, p c = false)
    (hrun : ∀ c ∈ run, p c = true) : dropRightWhile p (s ++ run) = s := by
  rw [dropRightWhile, List.reverse_append, dropWhile_append_of_stop, List.reverse_reverse]
  · exact fun c hc => hrun c (List.mem_reverse.mp hc)
  · rw [List.head?_reverse]
    exact stop

/-! ### Trimming -/

theorem hasBlank_eq_false_iff {s : List Char} :
    hasBlank s = false ↔ ∀ c ∈ s, isBlank c = false := by
  simp [hasBlank]

theorem mem_head?_of_starts {s t : List Char} (h : s <+: t) : ∀ c ∈ s.head?, c ∈ t.head? := by
  obtain ⟨rest, rfl⟩ := h
  intro c hc
  rw [List.head?_append, Option.mem_def.mp hc]
  rfl

/-- A trimmed text does not start with a blank. -/
theorem head?_trim (s : List Char) : ∀ c ∈ (trim s).head?, isBlank c = false := by
  intro c hc
  rw [trim, dropRightWhile_eq_rdropWhile] at hc
  exact head?_dropWhile c (mem_head?_of_starts (List.rdropWhile_prefix _ _) c hc)

/-- No blank stands at either end. -/
structure Trimmed (s : List Char) : Prop where
  head : ∀ c ∈ s.head?, isBlank c = false
  last : ∀ c ∈ s.getLast?, isBlank c = false

theorem trimmed_trim (s : List Char) : Trimmed (trim s) where
  head := head?_trim s
  last := getLast?_dropRightWhile

/-- Trimming takes away the blanks around a text and nothing else. -/
theorem trim_between {lead s trail : List Char} (hlead : ∀ c ∈ lead, isBlank c = true)
    (hs : Trimmed s) (htrail : ∀ c ∈ trail, isBlank c = true) : trim (lead ++ s ++ trail) = s := by
  by_cases hnil : s = []
  · subst hnil
    have hblank : (lead ++ [] ++ trail).dropWhile isBlank = [] := by
      rw [List.dropWhile_eq_nil_iff]
      intro c hc
      rw [List.append_nil, List.mem_append] at hc
      exact hc.elim (hlead c) (htrail c)
    rw [trim, hblank]
    rfl
  · have hfront : (lead ++ s ++ trail).dropWhile isBlank = s ++ trail := by
      rw [List.append_assoc, dropWhile_append_of_stop hlead]
      rw [List.head?_append_of_ne_nil _ hnil]
      exact hs.head
    rw [trim, hfront, dropRightWhile_append_of_stop hs.last htrail]

theorem Trimmed.trim_eq {s : List Char} (h : Trimmed s) : trim s = s := by
  simpa using @trim_between [] s [] (by simp) h (by simp)

theorem trimmed_iff {s : List Char} :
    Trimmed s ↔ s.head?.all (!isBlank ·) = true ∧ s.getLast?.all (!isBlank ·) = true := by
  simp only [Option.all_eq_true, Bool.not_eq_true']
  exact ⟨fun h => ⟨h.head, h.last⟩, fun h => ⟨h.1, h.2⟩⟩

instance (s : List Char) : Decidable (Trimmed s) := decidable_of_iff' _ trimmed_iff

theorem Trimmed.trim_cons {c : Char} {s : List Char} (hc : isBlank c = true) (h : Trimmed s) :
    trim (c :: s) = s := by
  simpa using @trim_between [c] s [] (by simpa using hc) h (by simp)

@[simp] theorem trim_trim (s : List Char) : trim (trim s) = trim s := (trimmed_trim s).trim_eq

/-- What trimming takes away are blanks. -/
theorem exists_trim_eq (s : List Char) :
    ∃ lead trail, (∀ c ∈ lead, isBlank c = true) ∧ (∀ c ∈ trail, isBlank c = true) ∧
      s = lead ++ trim s ++ trail := by
  refine ⟨s.takeWhile isBlank, (s.dropWhile isBlank).rtakeWhile isBlank,
    fun c hc => List.mem_takeWhile_imp hc, fun c hc => List.mem_rtakeWhile_imp hc, ?_⟩
  rw [trim, dropRightWhile_eq_rdropWhile, List.append_assoc, List.rdropWhile_append_rtakeWhile,
    List.takeWhile_append_dropWhile]

/-- A text is trimmed if its first and its last piece are. -/
theorem Trimmed.append {first middle last : List Char} (hfirst : Trimmed first)
    (hfirstNe : first ≠ []) (hlast : Trimmed last) (hlastNe : last ≠ []) :
    Trimmed (first ++ middle ++ last) where
  head := by
    rw [List.append_assoc, List.head?_append_of_ne_nil _ hfirstNe]
    exact hfirst.head
  last := by
    rw [List.getLast?_append_of_ne_nil _ hlastNe]
    exact hlast.last

end DataSchema.Text
