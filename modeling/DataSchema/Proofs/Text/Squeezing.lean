import DataSchema.Proofs.Text.Spacing

/-!
# DataSchema.Proofs.Text.Squeezing

**Where the pieces of a collapsed text come from.** Apart from the blanks at its ends, a text is
collapsed run by run: a character that is no blank stays, and a run of blanks becomes a space
(`Squeezed`). So a text is cut wherever its collapsed form is cut (`Squeezed.exists_append`). A piece
without blanks comes from itself, and two texts have the same words if one is the other squeezed.

The relation does not ask for the longest runs. It holds of more pairs than collapsing makes, and in
return it holds of the pieces of every pair for which it holds.
-/

namespace DataSchema.Text

/-! ### Spaced pieces -/

/-- Without the blanks at its ends, a piece of a spaced text is spaced. -/
theorem Spaced.of_piece {s t : List Char} (hs : Spaced s) (hpiece : t <:+: s) (ht : Trimmed t) :
    Spaced t where
  trimmed := ht
  spaces := fun c hc => hs.spaces c (hpiece.subset hc)
  single := fun hpair => hs.single (hpair.trans hpiece)

theorem infix_trim (s : List Char) : trim s <:+: s := by
  obtain ⟨lead, trail, -, -, hs⟩ := exists_trim_eq s
  exact ⟨lead, trail, hs.symm⟩

/-- Blanks after a text add no words. -/
theorem words_append_blank {blanks : List Char} (h : ∀ c ∈ blanks, isBlank c = true)
    (s : List Char) : words (s ++ blanks) = words s := by
  cases blanks with
  | nil => rw [List.append_nil]
  | cons c rest =>
      have hrest := words_append_of_blank (fun d hd => h d (List.mem_cons_of_mem _ hd)) []
      rw [List.append_nil, words_nil] at hrest
      rw [words_append_cons (h c (List.mem_cons_self ..)), hrest, List.append_nil]

@[simp] theorem collapse_trim (s : List Char) : collapse (trim s) = collapse s := by
  obtain ⟨lead, trail, hlead, htrail, hs⟩ := exists_trim_eq s
  have hwords : words s = words (trim s) := by
    conv_lhs => rw [hs, words_append_blank htrail, words_append_of_blank hlead]
  rw [collapse, collapse, hwords]

/-! ### Squeezed texts -/

/-- The second text is the first with a space for each of some runs of blanks, and all blanks are in
these runs. -/
inductive Squeezed : List Char → List Char → Prop
  | nil : Squeezed [] []
  | char {c : Char} {s t : List Char} (hc : isBlank c = false) (h : Squeezed s t) :
      Squeezed (c :: s) (c :: t)
  | run {blanks s t : List Char} (hne : blanks ≠ []) (hblanks : ∀ c ∈ blanks, isBlank c = true)
      (h : Squeezed s t) : Squeezed (blanks ++ s) (' ' :: t)

namespace Squeezed

theorem word_append {word s t : List Char} (hword : ∀ c ∈ word, isBlank c = false)
    (h : Squeezed s t) : Squeezed (word ++ s) (word ++ t) := by
  induction word with
  | nil => exact h
  | cons c rest ih =>
      exact .char (hword c (List.mem_cons_self ..))
        (ih fun d hd => hword d (List.mem_cons_of_mem _ hd))

/-- Where the squeezed text is cut, the text is cut. -/
theorem exists_append {s u v : List Char} (h : Squeezed s (u ++ v)) :
    ∃ a b, s = a ++ b ∧ Squeezed a u ∧ Squeezed b v := by
  induction u generalizing s with
  | nil => exact ⟨[], s, rfl, .nil, h⟩
  | cons c rest ih =>
      rw [List.cons_append] at h
      cases h with
      | char hc h =>
          obtain ⟨a, b, rfl, ha, hb⟩ := ih h
          exact ⟨c :: a, b, rfl, .char hc ha, hb⟩
      | run hne hblanks h =>
          obtain ⟨a, b, rfl, ha, hb⟩ := ih h
          exact ⟨_, b, (List.append_assoc ..).symm, .run hne hblanks ha, hb⟩

/-- The case of `exists_append` for a piece of one character that is no blank. -/
theorem exists_cons {c : Char} {s t : List Char} (hc : isBlank c = false)
    (h : Squeezed s (c :: t)) : ∃ rest, s = c :: rest ∧ Squeezed rest t := by
  cases h with
  | char _ h => exact ⟨_, rfl, h⟩
  | run _ _ _ => exact absurd hc (by decide)

theorem eq_nil {s : List Char} (h : Squeezed s []) : s = [] := by
  cases h
  rfl

/-- A piece without blanks is as it was. -/
theorem exists_word_append {word s t : List Char} (hword : ∀ c ∈ word, isBlank c = false)
    (h : Squeezed s (word ++ t)) : ∃ rest, s = word ++ rest ∧ Squeezed rest t := by
  induction word generalizing s with
  | nil => exact ⟨s, rfl, h⟩
  | cons c more ih =>
      rw [List.cons_append] at h
      obtain ⟨s, rfl, hmore⟩ := h.exists_cons (hword c (List.mem_cons_self ..))
      obtain ⟨rest, rfl, hrest⟩ := ih (fun d hd => hword d (List.mem_cons_of_mem _ hd)) hmore
      exact ⟨rest, rfl, hrest⟩

/-- Blanks come from blanks. -/
theorem all_blank {s t : List Char} (h : Squeezed s t) (ht : ∀ c ∈ t, isBlank c = true) :
    ∀ c ∈ s, isBlank c = true := by
  induction h with
  | nil => simp
  | @char c _ _ hc _ _ =>
      rw [ht c (List.mem_cons_self ..)] at hc
      exact Bool.noConfusion hc
  | run _ hblanks _ ih =>
      intro c hc
      rcases List.mem_append.mp hc with hc | hc
      · exact hblanks c hc
      · exact ih (fun d hd => ht d (List.mem_cons_of_mem _ hd)) c hc

/-- Squeezing changes no words, whatever stands in front. -/
theorem words_append {s t : List Char} (h : Squeezed s t) (front : List Char) :
    words (front ++ s) = words (front ++ t) := by
  induction h generalizing front with
  | nil => rfl
  | @char c s t _ _ ih =>
      rw [List.append_cons front c s, List.append_cons front c t]
      exact ih (front ++ [c])
  | run hne hblanks _ ih =>
      obtain ⟨b, blanks, rfl⟩ := List.exists_cons_of_ne_nil hne
      obtain ⟨hb, hblanks⟩ := List.forall_mem_cons.mp hblanks
      rw [List.cons_append, words_append_cons hb, words_append_cons isBlank_space,
        words_append_of_blank hblanks]
      exact congrArg (words front ++ ·) (ih [])

theorem collapse_eq {s t : List Char} (h : Squeezed s t) : collapse s = collapse t := by
  have hwords := h.words_append []
  rw [List.nil_append, List.nil_append] at hwords
  rw [collapse, collapse, hwords]

end Squeezed

/-- **Collapsing a text squeezes it**, apart from the blanks at its ends. -/
theorem exists_squeezed_collapse (s : List Char) :
    ∃ core trail, s.dropWhile isBlank = core ++ trail ∧ (∀ c ∈ trail, isBlank c = true) ∧
      Squeezed core (collapse s) := by
  have hs := firstWord_append_afterFirstWord s
  by_cases hnil : firstWord s = []
  · have hblank := firstWord_eq_nil_iff.mp hnil
    refine ⟨[], [], List.dropWhile_eq_nil_iff.mpr hblank, by simp, ?_⟩
    rw [collapse_eq_nil_iff.mpr hblank]
    exact .nil
  · have hword : ∀ c ∈ firstWord s, isBlank c = false := fun _ => not_isBlank_of_mem_firstWord
    by_cases hlast : words (afterFirstWord s) = []
    · -- Only blanks follow the last word.
      have hcollapse : collapse (afterFirstWord s) = [] := by
        rw [collapse, hlast]
        rfl
      refine ⟨firstWord s, afterFirstWord s, hs.symm, collapse_eq_nil_iff.mp hcollapse, ?_⟩
      rw [collapse, words_eq, if_neg hnil, hlast, List.intercalate_singleton]
      simpa using Squeezed.nil.word_append hword
    · obtain ⟨core, trail, hcore, htrail, hsqueezed⟩ :=
        exists_squeezed_collapse (afterFirstWord s)
      -- What follows a word starts with a blank, so the run between two words is not empty.
      have hrun : (afterFirstWord s).takeWhile isBlank ≠ [] := by
        cases hafter : afterFirstWord s with
        | nil => exact absurd (by rw [hafter, words_nil]) hlast
        | cons c rest =>
            have hc : isBlank c = true := head?_afterFirstWord c (by rw [hafter]; rfl)
            simp [hc]
      have hrest := Squeezed.run hrun (fun c hc => List.mem_takeWhile_imp hc) hsqueezed
      refine ⟨firstWord s ++ ((afterFirstWord s).takeWhile isBlank ++ core), trail, ?_, htrail, ?_⟩
      · rw [← hs, List.append_assoc, List.append_assoc, ← hcore, List.takeWhile_append_dropWhile]
      · rw [collapse, words_eq, if_neg hnil, List.intercalate_cons_of_ne_nil hlast, ← collapse,
          List.append_assoc, List.singleton_append]
        exact hrest.word_append hword
termination_by s.length
decreasing_by exact length_afterFirstWord_lt hnil

end DataSchema.Text
