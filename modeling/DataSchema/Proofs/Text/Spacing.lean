import Mathlib.Data.List.Chain
import DataSchema.Proofs.Text.Words

/-!
# DataSchema.Proofs.Text.Spacing

**Texts that are collapsed already.** A text is `Spaced` if its only blanks are single spaces
between words. Collapsing makes every text spaced (`spaced_collapse`) and changes no text that is
spaced (`Spaced.collapse_eq`). So it has nothing to do a second time, and the texts that it leaves
as they are are exactly the spaced ones.

Collapsing removes characters, so it could bring two characters together that stood apart. It does
not: between two words it always leaves a space, so what stands next to each other in the collapsed
text, and is no space, stood next to each other before (`infix_of_infix_collapse`).
-/

namespace DataSchema.Text

/-! ### Neighbours -/

/-- A pair of neighbours is what the steps through a text avoid. -/
theorem not_infix_pair_iff {a b : Char} {s : List Char} :
    ¬ [a, b] <:+: s ↔ s.IsChain fun x y => ¬ (x = a ∧ y = b) := by
  rw [List.isChain_iff_forall_rel_of_append_cons_cons]
  constructor
  · rintro h _ _ before after rfl ⟨rfl, rfl⟩
    exact h ⟨before, after, by simp⟩
  · rintro h ⟨before, after, rfl⟩
    exact h (List.append_assoc ..) ⟨rfl, rfl⟩

/-- Words with spaces between them have what the words have and a space between two such texts
keeps. -/
theorem intercalate_induction {motive : List Char → Prop} {word : List Char}
    {ws : List (List Char)} (hws : ∀ w ∈ word :: ws, motive w)
    (step : ∀ s t, motive s → motive t → motive (s ++ ' ' :: t)) :
    motive ([' '].intercalate (word :: ws)) := by
  induction ws generalizing word with
  | nil =>
      rw [List.intercalate_singleton]
      exact hws word (List.mem_cons_self ..)
  | cons other rest ih =>
      rw [List.intercalate_cons_cons, List.append_assoc, List.singleton_append]
      exact step _ _ (hws word (List.mem_cons_self ..))
        (ih fun w hw => hws w (List.mem_cons_of_mem _ hw))

/-- A word is a piece of its text. -/
theorem infix_of_mem_words {s word : List Char} (h : word ∈ words s) : word <:+: s := by
  have hfront : s.dropWhile isBlank <:+ s := List.dropWhile_suffix _
  rw [words_eq] at h
  split at h
  · exact absurd h List.not_mem_nil
  · next hnil =>
      rcases List.mem_cons.mp h with rfl | hrest
      · exact (List.takeWhile_prefix _).isInfix.trans hfront.isInfix
      · have hafter : afterFirstWord s <:+ s := (List.dropWhile_suffix _).trans hfront
        exact (infix_of_mem_words hrest).trans hafter.isInfix
termination_by s.length
decreasing_by exact length_afterFirstWord_lt ‹_›

/-- Neighbours in a collapsed text that are no spaces are neighbours in the text. -/
theorem infix_of_infix_collapse {a b : Char} (ha : a ≠ ' ') (hb : b ≠ ' ') {s : List Char}
    (h : [a, b] <:+: collapse s) : [a, b] <:+: s := by
  by_contra hnot
  refine not_infix_pair_iff.mpr ?_ h
  rw [collapse]
  cases hws : words s with
  | nil => exact .nil
  | cons word rest =>
      refine intercalate_induction (fun w hw => ?_) fun s t hs ht => ?_
      · exact not_infix_pair_iff.mp fun hpair =>
          hnot (hpair.trans (infix_of_mem_words (hws ▸ hw)))
      · -- The space is in neither of the two places.
        refine hs.append (ht.cons fun y _ hy => ha hy.1.symm) fun x _ y hy hxy => ?_
        cases hy
        exact hb hxy.2.symm

/-! ### Spaced texts -/

/-- The only blanks are single spaces between words. -/
structure Spaced (s : List Char) : Prop where
  trimmed : Trimmed s
  spaces : ∀ c ∈ s, isBlank c = true → c = ' '
  single : ¬ [' ', ' '] <:+: s

theorem isBlank_space : isBlank ' ' = true := by decide

theorem spaced_nil : Spaced [] := ⟨by decide, by simp, by simp⟩

theorem spaced_of_no_blank {word : List Char} (h : ∀ c ∈ word, isBlank c = false) :
    Spaced word where
  trimmed :=
    { head := fun c hc => h c (List.mem_of_mem_head? hc)
      last := fun c hc => h c (List.mem_of_getLast? hc) }
  spaces := fun c hc hblank => absurd (h c hc) (by simp [hblank])
  single := fun hpair => absurd (h ' ' (hpair.subset (List.mem_cons_self ..)))
    (by simp [isBlank_space])

/-- Two spaced texts with a space between them. -/
theorem Spaced.append {s t : List Char} (hs : Spaced s) (hsne : s ≠ []) (ht : Spaced t)
    (htne : t ≠ []) : Spaced (s ++ ' ' :: t) where
  trimmed := by
    have hpieces : Trimmed (s ++ [' '] ++ t) := hs.trimmed.append hsne ht.trimmed htne
    rwa [List.append_assoc] at hpieces
  spaces := by
    intro c hc hblank
    rcases List.mem_append.mp hc with hc | hc
    · exact hs.spaces c hc hblank
    · rcases List.mem_cons.mp hc with rfl | hc
      · rfl
      · exact ht.spaces c hc hblank
  single := by
    have hchain := not_infix_pair_iff.mp ht.single
    refine not_infix_pair_iff.mpr ((not_infix_pair_iff.mp hs.single).append
      (hchain.cons fun y hy hspaces => ?_) fun x hx y _ hspaces => ?_)
    · have hblank := ht.trimmed.head y hy
      rw [hspaces.2, isBlank_space] at hblank
      exact Bool.noConfusion hblank
    · have hblank := hs.trimmed.last x hx
      rw [hspaces.1, isBlank_space] at hblank
      exact Bool.noConfusion hblank

theorem spaced_collapse (s : List Char) : Spaced (collapse s) := by
  rw [collapse]
  cases hws : words s with
  | nil => exact spaced_nil
  | cons word rest =>
      have hspaced : [' '].intercalate (word :: rest) ≠ [] ∧
          Spaced ([' '].intercalate (word :: rest)) := by
        refine intercalate_induction (motive := fun s => s ≠ [] ∧ Spaced s) (fun w hw => ?_) ?_
        · obtain ⟨hne, hword⟩ := mem_words (hws ▸ hw)
          exact ⟨hne, spaced_of_no_blank hword⟩
        · intro s t hs ht
          exact ⟨by simp, hs.2.append hs.1 ht.2 ht.1⟩
      exact hspaced.2

/-- A spaced text is a word, or a word, a space and a spaced text. -/
theorem Spaced.exists_word {s : List Char} (h : Spaced s) (hne : s ≠ []) :
    ∃ word rest, s = word ++ rest ∧ word ≠ [] ∧ (∀ c ∈ word, isBlank c = false) ∧
      (rest = [] ∨ ∃ t, rest = ' ' :: t ∧ t ≠ [] ∧ Spaced t) := by
  let word := s.takeWhile (!isBlank ·)
  let rest := s.dropWhile (!isBlank ·)
  have hs : s = word ++ rest := List.takeWhile_append_dropWhile.symm
  have hword : ∀ c ∈ word, isBlank c = false := by
    intro c hc
    simpa using List.mem_takeWhile_imp hc
  have hstop : ∀ c ∈ rest.head?, isBlank c = true := by
    intro c hc
    simpa using head?_dropWhile c hc
  refine ⟨word, rest, hs, ?_, hword, ?_⟩
  · cases s with
    | nil => exact absurd rfl hne
    | cons c t =>
        have hc : isBlank c = false := h.trimmed.head c rfl
        simp [word, hc]
  · cases hrest : rest with
    | nil => exact Or.inl rfl
    | cons c t =>
        have hsuffix : c :: t <:+ s := ⟨word, hrest ▸ hs.symm⟩
        have hlast : s.getLast? = (c :: t).getLast? := by
          rw [hs, hrest, List.getLast?_append_of_ne_nil _ (List.cons_ne_nil _ _)]
        have hc : isBlank c = true := hstop c (by rw [hrest]; rfl)
        obtain rfl := h.spaces c (hsuffix.subset (List.mem_cons_self ..)) hc
        have htne : t ≠ [] := by
          rintro rfl
          exact absurd (h.trimmed.last ' ' hlast) (by simp [isBlank_space])
        have ht : t <:+ s := (List.suffix_cons ..).trans hsuffix
        refine Or.inr ⟨t, rfl, htne, ⟨⟨fun d hd => ?_, fun d hd => ?_⟩, fun d hd => ?_, ?_⟩⟩
        · -- A blank here would be the second of two spaces.
          by_contra hblank
          obtain rfl := h.spaces d (ht.subset (List.mem_of_mem_head? hd)) (by simpa using hblank)
          obtain ⟨more, rfl⟩ := List.head?_eq_some_iff.mp hd
          exact h.single ((List.prefix_append [' ', ' '] more).isInfix.trans hsuffix.isInfix)
        · refine h.trimmed.last d (hlast.trans ?_)
          rw [← List.singleton_append, List.getLast?_append_of_ne_nil _ htne]
          exact hd
        · exact h.spaces d (ht.subset hd)
        · exact fun hpair => h.single (hpair.trans ht.isInfix)

/-- Collapsing changes no spaced text. -/
theorem Spaced.collapse_eq {s : List Char} (h : Spaced s) : collapse s = s := by
  by_cases hne : s = []
  · rw [hne, collapse, words_nil]
    rfl
  · obtain ⟨word, rest, rfl, hwordNe, hword, rfl | ⟨t, rfl, htne, ht⟩⟩ := h.exists_word hne
    · rw [collapse, words_append_of_stop hwordNe hword (by simp), words_nil,
        List.intercalate_singleton, List.append_nil]
    · have hcollapse : collapse t = t := ht.collapse_eq
      have hwords : words t ≠ [] := by
        intro hnil
        rw [collapse, hnil] at hcollapse
        exact htne hcollapse.symm
      have hstop : ∀ c ∈ (' ' :: t).head?, isBlank c = true := by simp [isBlank_space]
      rw [collapse, words_append_of_stop hwordNe hword hstop, words_cons isBlank_space,
        List.intercalate_cons_of_ne_nil hwords, ← collapse, hcollapse, List.append_assoc,
        List.singleton_append]
termination_by s.length

end DataSchema.Text
