import DataSchema.Proofs.Text.Blank

/-!
# DataSchema.Proofs.Text.Words

**The words of a text.** A text is blanks, a word, and the words of what follows (`words_eq`). All
else is read off this equation: what a word is made of, that collapsing the blanks keeps the words,
and that it keeps what stands at the front of the text (`takeWhile_collapse`). So a line and its
collapsed form start with the same word, and with the same name.
-/

namespace DataSchema.Text

/-! ### The first word -/

/-- The longest run of characters that are not blank, after the blanks at the front. -/
def firstWord (s : List Char) : List Char := (s.dropWhile isBlank).takeWhile (!isBlank ·)

/-- What follows the first word. -/
def afterFirstWord (s : List Char) : List Char := (s.dropWhile isBlank).dropWhile (!isBlank ·)

theorem firstWord_append_afterFirstWord (s : List Char) :
    firstWord s ++ afterFirstWord s = s.dropWhile isBlank :=
  List.takeWhile_append_dropWhile

theorem not_isBlank_of_mem_firstWord {s : List Char} {c : Char} (h : c ∈ firstWord s) :
    isBlank c = false := by
  simpa using List.mem_takeWhile_imp h

/-- The first word ends at a blank or at the end of the text. -/
theorem head?_afterFirstWord {s : List Char} :
    ∀ c ∈ (afterFirstWord s).head?, isBlank c = true := by
  intro c hc
  simpa using head?_dropWhile c hc

/-- A text without a first word is blank. -/
theorem firstWord_eq_nil_iff {s : List Char} :
    firstWord s = [] ↔ ∀ c ∈ s, isBlank c = true := by
  rw [← List.dropWhile_eq_nil_iff]
  constructor
  · intro h
    cases hfront : s.dropWhile isBlank with
    | nil => rfl
    | cons c rest =>
        have hc : isBlank c = false := head?_dropWhile c (by rw [hfront]; rfl)
        rw [firstWord, hfront, List.takeWhile_cons_of_pos (by simp [hc])] at h
        exact absurd h (List.cons_ne_nil _ _)
  · intro h
    rw [firstWord, h, List.takeWhile_nil]

/-! ### Words -/

@[simp] theorem words_nil : words [] = [] := by
  rw [words, List.splitOnP_nil]
  rfl

theorem words_append_cons {c : Char} (hc : isBlank c = true) (s t : List Char) :
    words (s ++ c :: t) = words s ++ words t := by
  rw [words, List.splitOnP_append_cons s t hc, List.filter_append]
  rfl

theorem words_cons {c : Char} (hc : isBlank c = true) (s : List Char) :
    words (c :: s) = words s := by
  rw [← List.nil_append (c :: s), words_append_cons hc, words_nil, List.nil_append]

theorem words_dropWhile (s : List Char) : words (s.dropWhile isBlank) = words s := by
  induction s with
  | nil => rfl
  | cons c rest ih =>
      by_cases hc : isBlank c = true
      · rw [List.dropWhile_cons_of_pos hc, ih, words_cons hc]
      · rw [List.dropWhile_cons_of_neg hc]

/-- Blanks in front of a text add no words. -/
theorem words_append_of_blank {blanks : List Char} (h : ∀ c ∈ blanks, isBlank c = true)
    (s : List Char) : words (blanks ++ s) = words s := by
  induction blanks with
  | nil => rfl
  | cons c rest ih =>
      rw [List.cons_append, words_cons (h c (List.mem_cons_self ..)),
        ih fun d hd => h d (List.mem_cons_of_mem _ hd)]

/-- A word is read up to the blank that ends it. -/
theorem words_append_of_stop {word s : List Char} (hne : word ≠ [])
    (hword : ∀ c ∈ word, isBlank c = false) (stop : ∀ c ∈ s.head?, isBlank c = true) :
    words (word ++ s) = word :: words s := by
  have hsingle : words word = [word] := by
    rw [words, List.splitOnP_eq_singleton hword]
    simp [hne]
  cases s with
  | nil => rw [List.append_nil, hsingle, words_nil]
  | cons c rest =>
      have hc : isBlank c = true := stop c rfl
      rw [words_append_cons hc, hsingle, words_cons hc, List.singleton_append]

/-- **The words of a text** are its first word and the words of what follows. -/
theorem words_eq (s : List Char) :
    words s = if firstWord s = [] then [] else firstWord s :: words (afterFirstWord s) := by
  by_cases hnil : firstWord s = []
  · have hblank := List.dropWhile_eq_nil_iff.mpr (firstWord_eq_nil_iff.mp hnil)
    rw [if_pos hnil, ← words_dropWhile, hblank, words_nil]
  · rw [if_neg hnil, ← words_append_of_stop hnil (fun _ => not_isBlank_of_mem_firstWord)
      head?_afterFirstWord, firstWord_append_afterFirstWord, words_dropWhile]

theorem head?_words (s : List Char) :
    (words s).head? = if firstWord s = [] then none else some (firstWord s) := by
  rw [words_eq]
  split <;> rfl

theorem length_afterFirstWord_lt {s : List Char} (h : firstWord s ≠ []) :
    (afterFirstWord s).length < s.length := by
  have hpieces := congrArg List.length (firstWord_append_afterFirstWord s)
  have hle : (s.dropWhile isBlank).length ≤ s.length := (List.dropWhile_sublist _).length_le
  have hpos : 0 < (firstWord s).length := List.length_pos_iff.mpr h
  rw [List.length_append] at hpieces
  omega

/-- A word is not empty and holds no blank. -/
theorem mem_words {s word : List Char} (h : word ∈ words s) :
    word ≠ [] ∧ ∀ c ∈ word, isBlank c = false := by
  rw [words_eq] at h
  split at h
  · exact absurd h List.not_mem_nil
  · next hnil =>
      rcases List.mem_cons.mp h with rfl | hrest
      · exact ⟨hnil, fun _ => not_isBlank_of_mem_firstWord⟩
      · exact mem_words hrest
termination_by s.length
decreasing_by exact length_afterFirstWord_lt ‹_›

/-! ### Collapsing -/

/-- Words with single spaces between them have these words. -/
theorem words_intercalate {ws : List (List Char)}
    (h : ∀ word ∈ ws, word ≠ [] ∧ ∀ c ∈ word, isBlank c = false) :
    words ([' '].intercalate ws) = ws := by
  have hspace : isBlank ' ' = true := by decide
  induction ws with
  | nil => exact words_nil
  | cons word rest ih =>
      obtain ⟨hne, hword⟩ := h word (List.mem_cons_self ..)
      have ih := ih fun other hother => h other (List.mem_cons_of_mem _ hother)
      cases rest with
      | nil =>
          have hsingle := words_append_of_stop (s := []) hne hword (by simp)
          rw [List.append_nil, words_nil] at hsingle
          rwa [List.intercalate_singleton]
      | cons other more =>
          rw [List.intercalate_cons_cons, List.append_assoc, List.singleton_append,
            words_append_of_stop hne hword (by simpa using hspace), words_cons hspace, ih]

/-- Collapsing changes no word. -/
@[simp] theorem words_collapse (s : List Char) : words (collapse s) = words s :=
  words_intercalate fun _ => mem_words

theorem collapse_eq_nil_iff {s : List Char} : collapse s = [] ↔ ∀ c ∈ s, isBlank c = true := by
  rw [← firstWord_eq_nil_iff]
  constructor
  · intro h
    have hwords := words_collapse s
    rw [h, words_nil, words_eq] at hwords
    by_contra hne
    rw [if_neg hne] at hwords
    exact List.cons_ne_nil _ _ hwords.symm
  · intro h
    rw [collapse, words_eq, if_pos h]
    rfl

/-- A collapsed text is its first word, and then nothing or a space. -/
theorem exists_collapse_eq (s : List Char) :
    ∃ rest, collapse s = firstWord s ++ rest ∧ ∀ c ∈ rest.head?, isBlank c = true := by
  by_cases hnil : firstWord s = []
  · refine ⟨[], ?_, by simp⟩
    rw [hnil, collapse_eq_nil_iff.mpr (firstWord_eq_nil_iff.mp hnil)]
    rfl
  · rw [collapse, words_eq, if_neg hnil]
    cases words (afterFirstWord s) with
    | nil => exact ⟨[], by simp, by simp⟩
    | cons word rest =>
        refine ⟨' ' :: [' '].intercalate (word :: rest), ?_, ?_⟩
        · rw [List.intercalate_cons_cons, List.append_assoc, List.singleton_append]
        · intro c hc
          cases hc
          decide

theorem takeWhile_append_of_head? {p : Char → Bool} {s t : List Char}
    (stop : ∀ c ∈ t.head?, p c = false) : (s ++ t).takeWhile p = s.takeWhile p := by
  have ht : t.takeWhile p = [] := by
    cases t with
    | nil => rfl
    | cons c rest => rw [List.takeWhile_cons_of_neg (by simp [stop c rfl])]
  rw [List.takeWhile_append, ht, List.append_nil]
  split
  · next h => exact ((List.takeWhile_prefix p).eq_of_length h).symm
  · rfl

/-- A run at the front of a text, after its blanks, stands at the front of the collapsed text. -/
theorem takeWhile_collapse {p : Char → Bool} (hp : ∀ c, isBlank c = true → p c = false)
    (s : List Char) : (collapse s).takeWhile p = (s.dropWhile isBlank).takeWhile p := by
  obtain ⟨rest, hcollapse, hrest⟩ := exists_collapse_eq s
  rw [hcollapse, takeWhile_append_of_head? fun c hc => hp c (hrest c hc),
    ← firstWord_append_afterFirstWord,
    takeWhile_append_of_head? fun c hc => hp c (head?_afterFirstWord c hc)]

@[simp] theorem collapse_collapse (s : List Char) : collapse (collapse s) = collapse s := by
  rw [collapse, words_collapse, collapse]

/-- A run at the front of a text, after its blanks, stands at the front of the trimmed text. -/
theorem takeWhile_trim {p : Char → Bool} (hp : ∀ c, isBlank c = true → p c = false)
    (s : List Char) : (trim s).takeWhile p = (s.dropWhile isBlank).takeWhile p := by
  have hpieces : trim s ++ (s.dropWhile isBlank).rtakeWhile isBlank = s.dropWhile isBlank := by
    rw [trim, dropRightWhile_eq_rdropWhile, List.rdropWhile_append_rtakeWhile]
  have htrail : ∀ c ∈ ((s.dropWhile isBlank).rtakeWhile isBlank).head?, p c = false :=
    fun c hc => hp c (List.mem_rtakeWhile_imp (List.mem_of_mem_head? hc))
  rw [← takeWhile_append_of_head? htrail, hpieces]

end DataSchema.Text
