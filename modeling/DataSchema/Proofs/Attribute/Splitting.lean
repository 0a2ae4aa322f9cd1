import DataSchema.Attribute.Arguments

/-!
# DataSchema.Proofs.Attribute.Splitting

**Where an argument list is cut.** The cut looks at a text through its cursor. A comma separates if
and only if the cursor is where it started, outside every bracket and every string. So the pieces on
the two sides of a separating comma are the pieces of the two texts there, each read from the start
(`pieces_eq_append_iff`), and a text that the cut goes through without a separating comma is one
piece, whatever comes after it (`Uncut`).
-/

namespace DataSchema.Attribute

open Text (Quoting)

/-! ### The cursor -/

/-- The state of the cut after a text. -/
def Cursor.run (k : Cursor) (s : List Char) : Cursor := s.foldl Cursor.next k

@[simp] theorem Cursor.run_nil (k : Cursor) : k.run [] = k := rfl

@[simp] theorem Cursor.run_cons (k : Cursor) (c : Char) (s : List Char) :
    k.run (c :: s) = (k.next c).run s := rfl

/-- Brackets play no part in where strings are. -/
theorem Cursor.quoting_run (k : Cursor) (s : List Char) :
    (k.run s).quoting = s.foldl Quoting.next k.quoting := by
  induction s generalizing k with
  | nil => rfl
  | cons c s ih => exact ih (k.next c)

/-- Between its quotes a string goes on, but for a quote and a backslash. -/
theorem quoted_next {c : Char} (hquote : c ≠ '"') (hbackslash : c ≠ '\\') :
    Quoting.quoted.next c = .quoted := by
  rw [Quoting.next, if_neg hbackslash, if_neg hquote]

/-- A reader is outside strings after a character if it was so before and meets no quote, or if it
meets the quote that closes its string. -/
theorem next_eq_plain_iff {state : Quoting} {c : Char} :
    state.next c = .plain ↔ (state = .plain ∧ c ≠ '"') ∨ (state = .quoted ∧ c = '"') := by
  cases state <;> grind [Quoting.next]

theorem next_eq_quoted_iff {state : Quoting} {c : Char} :
    state.next c = .quoted ↔ (state = .plain ∧ c = '"') ∨
      (state = .quoted ∧ c ≠ '"' ∧ c ≠ '\\') ∨ state = .escaped := by
  cases state <;> grind [Quoting.next]

theorem next_eq_escaped_iff {state : Quoting} {c : Char} :
    state.next c = .escaped ↔ state = .quoted ∧ c = '\\' := by
  cases state <;> grind [Quoting.next]

/-- Is a string open at a place of the text, as the cut sees it? -/
def inString (s : List Char) (place : Nat) : Bool :=
  (Cursor.start.run (s.take place)).quoting ≠ .plain

theorem Cursor.separates_iff {k : Cursor} {c : Char} :
    k.separates c = true ↔ k = .start ∧ c = ',' := by
  rw [separates, Bool.and_eq_true, beq_iff_eq, beq_iff_eq]

theorem Cursor.next_start_comma : Cursor.start.next ',' = .start := by decide

/-! ### Pieces -/

theorem pieces_cons_of_separates {k : Cursor} {c : Char} (h : k.separates c = true)
    (s : List Char) : pieces k (c :: s) = [] :: pieces .start s := by
  obtain ⟨rfl, rfl⟩ := Cursor.separates_iff.mp h
  rw [pieces, if_pos h, Cursor.next_start_comma]

theorem pieces_cons_of_not_separates {k : Cursor} {c : Char} (h : ¬ k.separates c = true)
    (s : List Char) : pieces k (c :: s) = (pieces (k.next c) s).modifyHead (c :: ·) := by
  rw [pieces, if_neg h]

theorem exists_cons_of_pieces (k : Cursor) (s : List Char) :
    ∃ piece rest, pieces k s = piece :: rest := by
  induction s generalizing k with
  | nil => exact ⟨[], [], rfl⟩
  | cons c s ih =>
      by_cases hc : k.separates c = true
      · exact ⟨[], _, pieces_cons_of_separates hc s⟩
      · obtain ⟨piece, rest, h⟩ := ih (k.next c)
        exact ⟨c :: piece, rest, by rw [pieces_cons_of_not_separates hc, h, List.modifyHead_cons]⟩

theorem pieces_ne_nil (k : Cursor) (s : List Char) : pieces k s ≠ [] := by
  obtain ⟨piece, rest, h⟩ := exists_cons_of_pieces k s
  simp [h]

/-- A comma outside every bracket and every string separates. -/
theorem pieces_append_comma {k : Cursor} {s : List Char} (h : k.run s = .start) (t : List Char) :
    pieces k (s ++ ',' :: t) = pieces k s ++ pieces .start t := by
  induction s generalizing k with
  | nil =>
      rw [Cursor.run_nil] at h
      subst h
      rw [List.nil_append, pieces_cons_of_separates rfl]
      rfl
  | cons c s ih =>
      rw [Cursor.run_cons] at h
      rw [List.cons_append]
      by_cases hc : k.separates c = true
      · obtain ⟨rfl, rfl⟩ := Cursor.separates_iff.mp hc
        rw [Cursor.next_start_comma] at h
        rw [pieces_cons_of_separates hc, pieces_cons_of_separates hc, ih h, List.cons_append]
      · obtain ⟨piece, rest, hs⟩ := exists_cons_of_pieces (k.next c) s
        rw [pieces_cons_of_not_separates hc, pieces_cons_of_not_separates hc, ih h, hs,
          List.cons_append, List.modifyHead_cons, List.modifyHead_cons, List.cons_append]

/-- Between two pieces there is a comma outside every bracket and every string. -/
theorem exists_of_pieces_eq_append {k : Cursor} {text : List Char} {front back : List (List Char)}
    (h : pieces k text = front ++ back) (hfront : front ≠ []) (hback : back ≠ []) :
    ∃ s t, text = s ++ ',' :: t ∧ k.run s = .start ∧ pieces k s = front ∧
      pieces .start t = back := by
  induction text generalizing k front with
  | nil =>
      obtain ⟨a, front, rfl⟩ := List.exists_cons_of_ne_nil hfront
      obtain ⟨b, back, rfl⟩ := List.exists_cons_of_ne_nil hback
      simp [pieces] at h
  | cons c rest ih =>
      obtain ⟨first, front, rfl⟩ := List.exists_cons_of_ne_nil hfront
      by_cases hc : k.separates c = true
      · obtain ⟨rfl, rfl⟩ := Cursor.separates_iff.mp hc
        rw [pieces_cons_of_separates hc, List.cons_append, List.cons.injEq] at h
        obtain ⟨rfl, h⟩ := h
        by_cases hnil : front = []
        · -- The cut is at this comma.
          subst hnil
          exact ⟨[], rest, rfl, rfl, rfl, h⟩
        · obtain ⟨s, t, rfl, hrun, hs, ht⟩ := ih h hnil
          refine ⟨',' :: s, t, rfl, ?_, ?_, ht⟩
          · rw [Cursor.run_cons, Cursor.next_start_comma, hrun]
          · rw [pieces_cons_of_separates hc, hs]
      · obtain ⟨piece, others, hrest⟩ := exists_cons_of_pieces (k.next c) rest
        rw [pieces_cons_of_not_separates hc, hrest, List.modifyHead_cons, List.cons_append,
          List.cons.injEq] at h
        obtain ⟨rfl, rfl⟩ := h
        rw [← List.cons_append] at hrest
        obtain ⟨s, t, rfl, hrun, hs, ht⟩ := ih hrest (List.cons_ne_nil _ _)
        refine ⟨c :: s, t, rfl, by rw [Cursor.run_cons, hrun], ?_, ht⟩
        rw [pieces_cons_of_not_separates hc, hs, List.modifyHead_cons]

/-- The pieces fall into two parts where a comma separates. -/
theorem pieces_eq_append_iff {s : List Char} {front back : List (List Char)} :
    front ≠ [] ∧ back ≠ [] ∧ pieces .start s = front ++ back ↔
      ∃ before after, s = before ++ ',' :: after ∧ Cursor.start.run before = .start ∧
        pieces .start before = front ∧ pieces .start after = back := by
  constructor
  · intro ⟨hfront, hback, hpieces⟩
    exact exists_of_pieces_eq_append hpieces hfront hback
  · rintro ⟨before, after, rfl, hrun, rfl, rfl⟩
    exact ⟨pieces_ne_nil _ _, pieces_ne_nil _ _, pieces_append_comma hrun after⟩

/-- If a text ends outside a string, so does each of its pieces. -/
theorem quoting_run_of_pieces {k : Cursor} {text piece : List Char} {rest : List (List Char)}
    (hpieces : pieces k text = piece :: rest) (htext : (k.run text).quoting = .plain) :
    (k.run piece).quoting = .plain ∧
      ∀ other ∈ rest, (Cursor.start.run other).quoting = .plain := by
  induction text generalizing k piece rest with
  | nil =>
      rw [pieces, List.cons.injEq] at hpieces
      obtain ⟨rfl, rfl⟩ := hpieces
      exact ⟨htext, by simp⟩
  | cons c s ih =>
      by_cases hc : k.separates c = true
      · obtain ⟨rfl, rfl⟩ := Cursor.separates_iff.mp hc
        obtain ⟨next, others, hs⟩ := exists_cons_of_pieces .start s
        rw [pieces_cons_of_separates hc, List.cons.injEq] at hpieces
        obtain ⟨rfl, rfl⟩ := hpieces
        rw [Cursor.run_cons, Cursor.next_start_comma] at htext
        obtain ⟨hnext, hothers⟩ := ih hs htext
        refine ⟨rfl, fun other hother => ?_⟩
        rw [hs] at hother
        rcases List.mem_cons.mp hother with rfl | hother
        · exact hnext
        · exact hothers other hother
      · obtain ⟨next, others, hs⟩ := exists_cons_of_pieces (k.next c) s
        rw [pieces_cons_of_not_separates hc, hs, List.modifyHead_cons, List.cons.injEq] at hpieces
        obtain ⟨rfl, rfl⟩ := hpieces
        rw [Cursor.run_cons] at htext
        obtain ⟨hnext, hothers⟩ := ih hs htext
        exact ⟨hnext, hothers⟩

/-! ### Texts without a cut -/

/-- The cut goes through the text from one state to another without cutting. -/
def Uncut (k : Cursor) (s : List Char) (after : Cursor) : Prop :=
  ∀ t, pieces k (s ++ t) = (pieces after t).modifyHead (s ++ ·)

theorem Uncut.nil (k : Cursor) : Uncut k [] k := by
  intro t
  obtain ⟨piece, rest, h⟩ := exists_cons_of_pieces k t
  rw [List.nil_append, h, List.modifyHead_cons, List.nil_append]

theorem Uncut.append {k between after : Cursor} {s t : List Char} (hs : Uncut k s between)
    (ht : Uncut between t after) : Uncut k (s ++ t) after := by
  intro u
  rw [List.append_assoc, hs, ht, List.modifyHead_modifyHead]
  congr 1
  funext piece
  exact (List.append_assoc s t piece).symm

theorem Uncut.cons {k after : Cursor} {c : Char} {s : List Char} (hc : ¬ k.separates c = true)
    (hs : Uncut (k.next c) s after) : Uncut k (c :: s) after := by
  intro t
  rw [List.cons_append, pieces_cons_of_not_separates hc, hs, List.modifyHead_modifyHead]
  rfl

theorem pieces_eq_singleton {s : List Char} (h : Uncut .start s .start) :
    pieces .start s = [s] := by
  have hs := h []
  rwa [List.append_nil, pieces, List.modifyHead_cons, List.append_nil] at hs

theorem pieces_append_comma_of_uncut {s : List Char} (h : Uncut .start s .start) (t : List Char) :
    pieces .start (s ++ ',' :: t) = s :: pieces .start t := by
  rw [h, pieces_cons_of_separates rfl, List.modifyHead_cons, List.append_nil]

end DataSchema.Attribute
