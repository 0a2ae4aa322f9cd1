import DataSchema.Proofs.Field.Grammar

/-!
# DataSchema.Proofs.Field.GroupBody

**What stands between the parentheses of a group.** Bodies can be written one after the other, and
the blanks at their ends can be taken away: a blank is neither a parenthesis nor a quote, so it is
always a character that stands for itself (`groupBody_trim`).

How the grammar reads a body is a tree (`BodySyntax`), with one node for each group, string and
character. The tree says where the strings are: a string runs from its opening quote to its closing
quote, and a place between two characters is inside a string if it is strictly between these ends.
-/

namespace DataSchema.Field

open Grammar
open Text (isBlank)

theorem exists_body_of_group {group : List Char} (h : Group group) :
    ∃ inner, GroupBody inner ∧ group = '(' :: (inner ++ [')']) := by
  obtain ⟨hinner⟩ := h
  exact ⟨_, hinner, rfl⟩

/-! ### Bodies next to each other -/

theorem groupBody_append {a b : List Char} (ha : GroupBody a) (hb : GroupBody b) :
    GroupBody (a ++ b) := by
  induction ha with
  | nil => exact hb
  | group hinner _ _ ih =>
      rw [List.cons_append, List.append_assoc]
      exact .group hinner ih
  | string hbody _ ih =>
      rw [List.cons_append, List.append_assoc]
      exact .string hbody ih
  | char hopening hclosing hquote _ ih => exact .char hopening hclosing hquote ih

/-! ### Blanks at the ends -/

theorem groupBody_of_blank_append {lead s : List Char} (hlead : ∀ c ∈ lead, isBlank c = true)
    (h : GroupBody (lead ++ s)) : GroupBody s := by
  induction lead with
  | nil => exact h
  | cons c rest ih =>
      have hc : isBlank c = true := hlead c (List.mem_cons_self ..)
      rw [List.cons_append] at h
      refine ih (fun d hd => hlead d (List.mem_cons_of_mem _ hd)) ?_
      generalize rest ++ s = tail at h
      cases h with
      | group _ _ => exact absurd hc (by decide)
      | string _ _ => exact absurd hc (by decide)
      | char _ _ _ hrest => exact hrest

/-- A character that is no blank stands before the blanks at the end. -/
theorem exists_of_append_blank (front : List Char) {rest s trail : List Char} {c : Char}
    (hc : isBlank c = false)
    (htrail : ∀ d ∈ trail, isBlank d = true) (h : front ++ c :: rest = s ++ trail) :
    ∃ t, s = front ++ c :: t ∧ rest = t ++ trail := by
  have hnot : c ∉ trail := by
    intro hmem
    rw [htrail c hmem] at hc
    exact Bool.noConfusion hc
  rcases List.append_eq_append_iff.mp h with ⟨t, rfl, ht⟩ | ⟨t, -, ht⟩
  · cases t with
    | nil =>
        rw [List.nil_append] at ht
        exact absurd (ht ▸ List.mem_cons_self ..) hnot
    | cons d t =>
        obtain ⟨rfl, rfl⟩ := List.cons.inj ht
        exact ⟨t, rfl, rfl⟩
  · exact absurd (ht ▸ List.mem_append_right _ (List.mem_cons_self ..)) hnot

theorem groupBody_of_append_blank {s trail : List Char} (htrail : ∀ c ∈ trail, isBlank c = true)
    (h : GroupBody (s ++ trail)) : GroupBody s := by
  generalize htext : s ++ trail = text at h
  induction h generalizing s with
  | nil =>
      rw [(List.append_eq_nil_iff.mp htext).1]
      exact .nil
  | @group inner rest hinner _ _ ih =>
      obtain ⟨t, rfl, hrest⟩ :=
        exists_of_append_blank ('(' :: inner) (by decide) htrail htext.symm
      exact .group hinner (ih hrest.symm)
  | @string body rest hbody _ ih =>
      obtain ⟨t, rfl, hrest⟩ :=
        exists_of_append_blank ('"' :: body) (by decide) htrail htext.symm
      exact .string hbody (ih hrest.symm)
  | char hopening hclosing hquote _ ih =>
      cases s with
      | nil => exact .nil
      | cons d t =>
          obtain ⟨rfl, hrest⟩ := List.cons.inj htext
          exact .char hopening hclosing hquote (ih hrest)

theorem groupBody_trim {inner : List Char} (h : GroupBody inner) : GroupBody (Text.trim inner) := by
  obtain ⟨lead, trail, hlead, htrail, hinner⟩ := Text.exists_trim_eq inner
  rw [hinner] at h
  rw [List.append_assoc] at h
  exact groupBody_of_append_blank htrail (groupBody_of_blank_append hlead h)

/-! ### Reading a body -/

/-- A body as the grammar reads it. -/
inductive BodySyntax
  /-- Nothing. -/
  | nil
  /-- A group with what is between its parentheses, and what follows it. -/
  | group (inner rest : BodySyntax)
  /-- A string with what is between its quotes, and what follows it. -/
  | string (body : List Char) (rest : BodySyntax)
  /-- A character that stands for itself, and what follows it. -/
  | char (c : Char) (rest : BodySyntax)

/-- Where a string stands: the place before its opening quote and the place after its closing
quote. -/
structure StringSpan where
  start : Nat
  stop : Nat

namespace BodySyntax

/-- The text that was read. -/
def text : BodySyntax → List Char
  | nil => []
  | group inner rest => '(' :: (inner.text ++ ')' :: rest.text)
  | string body rest => '"' :: (body ++ '"' :: rest.text)
  | char c rest => c :: rest.text

/-- The reading obeys the grammar. -/
def WellFormed : BodySyntax → Prop
  | nil => True
  | group inner rest => inner.WellFormed ∧ rest.WellFormed
  | string body rest => StringBody body ∧ rest.WellFormed
  | char c rest => c ≠ '(' ∧ c ≠ ')' ∧ c ≠ '"' ∧ rest.WellFormed

/-- The strings of a body that starts at a place, those in inner groups included. -/
def strings (start : Nat) : BodySyntax → List StringSpan
  | nil => []
  | group inner rest =>
    inner.strings (start + 1) ++ rest.strings (start + 1 + inner.text.length + 1)
  | string body rest =>
    ⟨start, start + 1 + body.length + 1⟩ :: rest.strings (start + 1 + body.length + 1)
  | char _ rest => rest.strings (start + 1)

/-- The place is inside a string of a body that starts at a place. -/
def Inside (start : Nat) (b : BodySyntax) (place : Nat) : Prop :=
  ∃ span ∈ b.strings start, span.start < place ∧ place < span.stop

/-- The bodies of the grammar are what can be read. -/
theorem groupBody_iff_exists {s : List Char} :
    GroupBody s ↔ ∃ b : BodySyntax, b.WellFormed ∧ b.text = s := by
  constructor
  · intro h
    induction h with
    | nil => exact ⟨nil, trivial, rfl⟩
    | group _ _ ihinner ihrest =>
        obtain ⟨inner, hinner, rfl⟩ := ihinner
        obtain ⟨rest, hrest, rfl⟩ := ihrest
        exact ⟨group inner rest, ⟨hinner, hrest⟩, rfl⟩
    | string hbody _ ih =>
        obtain ⟨rest, hrest, rfl⟩ := ih
        exact ⟨string _ rest, ⟨hbody, hrest⟩, rfl⟩
    | char hopening hclosing hquote _ ih =>
        obtain ⟨rest, hrest, rfl⟩ := ih
        exact ⟨char _ rest, ⟨hopening, hclosing, hquote, hrest⟩, rfl⟩
  · rintro ⟨b, hb, rfl⟩
    induction b with
    | nil => exact .nil
    | group inner rest ihinner ihrest => exact .group (ihinner hb.1) (ihrest hb.2)
    | string body rest ih => exact .string hb.1 (ih hb.2)
    | char c rest ih => exact .char hb.1 hb.2.1 hb.2.2.1 (ih hb.2.2.2)

/-- The strings of a body are within its text. -/
theorem bounds_of_mem_strings {b : BodySyntax} {start : Nat} {span : StringSpan}
    (h : span ∈ b.strings start) : start ≤ span.start ∧ span.stop ≤ start + b.text.length := by
  induction b generalizing start with
  | nil => exact absurd h List.not_mem_nil
  | group inner rest ihinner ihrest =>
      simp only [text, List.length_cons, List.length_append]
      rcases List.mem_append.mp h with h | h
      · have hbounds := ihinner h
        omega
      · have hbounds := ihrest h
        omega
  | string body rest ih =>
      simp only [text, List.length_cons, List.length_append]
      rcases List.mem_cons.mp h with rfl | h
      · dsimp only
        omega
      · have hbounds := ih h
        omega
  | char c rest ih =>
      simp only [text, List.length_cons]
      have hbounds := ih h
      omega

end BodySyntax

end DataSchema.Field
