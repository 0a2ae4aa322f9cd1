import DataSchema.Proofs.Attribute.Splitting
import DataSchema.Proofs.Field.GroupBody

/-!
# DataSchema.Proofs.Attribute.ArgumentList

**An argument list is cut into the arguments that were written.** The list has a comma and a space
between each two arguments. If brackets are nested properly in each argument, strings are closed,
and commas stand in brackets and strings only, then the cut finds exactly these arguments
(`splitArguments_join`): it goes through such an argument without cutting, whatever is in its
brackets and its strings.
-/

namespace DataSchema.Attribute

open DataSchema.Field
open DataSchema.Field.Grammar
open Text (Quoting Trimmed isBlank)

/-! ### Arguments -/

/-- The three kinds of brackets. -/
inductive Bracket
  | round
  | square
  | curly

namespace Bracket

def opening : Bracket → Char
  | round => '('
  | square => '['
  | curly => '\x7b'

def closing : Bracket → Char
  | round => ')'
  | square => ']'
  | curly => '\x7d'

end Bracket

/-- Brackets are nested properly and strings are closed. Outside of these there are commas only if
they are allowed. -/
inductive Nested : Bool → List Char → Prop
  | nil {commas : Bool} : Nested commas []
  | bracket {commas : Bool} (kind : Bracket) {inner rest : List Char} (hinner : Nested true inner)
      (hrest : Nested commas rest) :
      Nested commas (kind.opening :: (inner ++ kind.closing :: rest))
  | string {commas : Bool} {body rest : List Char} (hbody : StringBody body)
      (hrest : Nested commas rest) : Nested commas ('"' :: (body ++ '"' :: rest))
  | char {commas : Bool} {c : Char} {rest : List Char} (quote : c ≠ '"')
      (opening : Cursor.isOpening c = false) (closing : Cursor.isClosing c = false)
      (comma : c = ',' → commas = true) (hrest : Nested commas rest) : Nested commas (c :: rest)

/-- One argument as it is written. -/
structure IsArgument (a : List Char) : Prop where
  ne_nil : a ≠ []
  trimmed : Trimmed a
  nested : Nested false a

/-- A string as it is written. -/
def quoted (s : List Char) : List Char := '"' :: (s ++ ['"'])

/-- The arguments with a comma and a space between each two. -/
def join (args : List (List Char)) : List Char := [',', ' '].intercalate args

/-! ### Brackets and strings -/

theorem Bracket.opening_ne_comma (kind : Bracket) : kind.opening ≠ ',' := by
  cases kind <;> decide

theorem Bracket.closing_ne_comma (kind : Bracket) : kind.closing ≠ ',' := by
  cases kind <;> decide

theorem Nested.groupBody {commas : Bool} {a : List Char} (h : Nested commas a) : GroupBody a := by
  induction h with
  | nil => exact .nil
  | bracket kind _ _ ihinner ihrest =>
      cases kind with
      | round => exact .group ihinner ihrest
      | square =>
          refine .char (by decide) (by decide) (by decide) (groupBody_append ihinner ?_)
          exact .char (by decide) (by decide) (by decide) ihrest
      | curly =>
          refine .char (by decide) (by decide) (by decide) (groupBody_append ihinner ?_)
          exact .char (by decide) (by decide) (by decide) ihrest
  | string hbody _ ih => exact .string hbody ih
  | char hquote hopening hclosing _ _ ih =>
      refine .char ?_ ?_ hquote ih
      · rintro rfl
        exact absurd hopening (by decide)
      · rintro rfl
        exact absurd hclosing (by decide)

theorem Nested.append {commas : Bool} {a b : List Char} (ha : Nested commas a)
    (hb : Nested commas b) : Nested commas (a ++ b) := by
  induction ha with
  | nil => exact hb
  | bracket kind hinner _ _ ih =>
      rw [List.cons_append, List.append_assoc]
      exact .bracket kind hinner (ih hb)
  | string hbody _ ih =>
      rw [List.cons_append, List.append_assoc]
      exact .string hbody (ih hb)
  | char hquote hopening hclosing hcomma _ ih => exact .char hquote hopening hclosing hcomma (ih hb)

/-- A text without brackets and quotes. -/
theorem nested_of_chars {commas : Bool} {s : List Char}
    (h : (s.all fun c => !(c == '"' || Cursor.isOpening c || Cursor.isClosing c) &&
      (c != ',' || commas)) = true) : Nested commas s := by
  induction s with
  | nil => exact .nil
  | cons c rest ih =>
      rw [List.all_cons, Bool.and_eq_true] at h
      obtain ⟨hc, hrest⟩ := h
      simp only [Bool.and_eq_true, Bool.not_eq_true', Bool.or_eq_false_iff, beq_eq_false_iff_ne,
        Bool.or_eq_true, bne_iff_ne, and_assoc] at hc
      obtain ⟨hquote, hopening, hclosing, hcomma⟩ := hc
      exact .char hquote hopening hclosing (fun hc => hcomma.resolve_left (absurd hc)) (ih hrest)

/-- A text without quotes and backslashes. -/
theorem stringBody_of_chars {s : List Char} (h : (s.all fun c => c != '"' && c != '\\') = true) :
    StringBody s := by
  induction s with
  | nil => exact .nil
  | cons c rest ih =>
      simp only [List.all_cons, Bool.and_eq_true, bne_iff_ne] at h
      obtain ⟨⟨hquote, hbackslash⟩, hrest⟩ := h
      exact .char hquote hbackslash (ih (by simpa using hrest))

theorem nested_quoted {commas : Bool} {s : List Char} (h : StringBody s) :
    Nested commas (quoted s) :=
  .string h .nil

theorem trimmed_quoted (s : List Char) : Trimmed (quoted s) where
  head := by simp [quoted, isBlank]
  last := by
    rw [quoted, ← List.cons_append, List.getLast?_concat]
    simp [isBlank]

/-! ### Cutting -/

namespace Cursor

variable {depth : Nat} {quoting : Quoting} {c : Char}

theorem not_separates_of_ne_comma {k : Cursor} (h : c ≠ ',') : ¬ k.separates c = true :=
  fun hc => h (separates_iff.mp hc).2

theorem not_separates_of_ne_plain (h : quoting ≠ .plain) :
    ¬ (Cursor.mk depth quoting).separates c = true :=
  fun hc => h (congrArg Cursor.quoting (separates_iff.mp hc).1)

theorem not_separates_of_pos (h : c = ',' → 0 < depth) :
    ¬ (Cursor.mk depth quoting).separates c = true := by
  intro hc
  obtain ⟨hstart, hcomma⟩ := separates_iff.mp hc
  have hzero : depth = 0 := congrArg Cursor.depth hstart
  exact Nat.ne_of_gt (h hcomma) hzero

theorem next_of_ne_plain (h : quoting ≠ .plain) :
    (Cursor.mk depth quoting).next c = ⟨depth, quoting.next c⟩ := by
  rw [next, if_pos h]

theorem next_of_no_bracket (hopening : isOpening c = false) (hclosing : isClosing c = false) :
    (Cursor.mk depth quoting).next c = ⟨depth, quoting.next c⟩ := by
  simp [next, hopening, hclosing]

theorem next_opening (kind : Bracket) :
    (Cursor.mk depth .plain).next kind.opening = ⟨depth + 1, .plain⟩ := by
  cases kind <;> rfl

theorem next_closing (kind : Bracket) :
    (Cursor.mk (depth + 1) .plain).next kind.closing = ⟨depth, .plain⟩ := by
  cases kind <;> rfl

end Cursor

/-- Nothing is cut in a string. -/
theorem uncut_stringBody {body : List Char} (h : StringBody body) (depth : Nat) :
    Uncut ⟨depth, .quoted⟩ body ⟨depth, .quoted⟩ := by
  induction h with
  | nil => exact .nil _
  | escape c _ ih =>
      refine .cons (Cursor.not_separates_of_ne_comma (by decide)) ?_
      rw [Cursor.next_of_ne_plain (by decide)]
      refine .cons (Cursor.not_separates_of_ne_plain (by decide)) ?_
      rw [Cursor.next_of_ne_plain (by decide)]
      exact ih
  | char hquote hbackslash _ ih =>
      refine .cons (Cursor.not_separates_of_ne_plain (by decide)) ?_
      rw [Cursor.next_of_ne_plain (by decide), quoted_next hquote hbackslash]
      exact ih

/-- Nothing is cut where brackets are nested and commas are in brackets and strings only. -/
theorem Nested.uncut {commas : Bool} {a : List Char} (h : Nested commas a) {depth : Nat}
    (hdepth : commas = true → 0 < depth) : Uncut ⟨depth, .plain⟩ a ⟨depth, .plain⟩ := by
  induction h generalizing depth with
  | nil => exact .nil _
  | bracket kind _ _ ihinner ihrest =>
      refine .cons (Cursor.not_separates_of_ne_comma kind.opening_ne_comma) ?_
      rw [Cursor.next_opening]
      refine (ihinner fun _ => Nat.succ_pos depth).append ?_
      refine .cons (Cursor.not_separates_of_ne_comma kind.closing_ne_comma) ?_
      rw [Cursor.next_closing]
      exact ihrest hdepth
  | string hbody _ ih =>
      refine .cons (Cursor.not_separates_of_ne_comma (by decide)) ?_
      rw [Cursor.next_of_no_bracket (by decide) (by decide)]
      refine (uncut_stringBody hbody depth).append ?_
      refine .cons (Cursor.not_separates_of_ne_comma (by decide)) ?_
      rw [Cursor.next_of_no_bracket (by decide) (by decide)]
      exact ih hdepth
  | @char _ c _ hquote hopening hclosing hcomma _ ih =>
      have hnext : Quoting.plain.next c = .plain := if_neg hquote
      refine .cons (Cursor.not_separates_of_pos fun hc => hdepth (hcomma hc)) ?_
      rw [Cursor.next_of_no_bracket hopening hclosing, hnext]
      exact ih hdepth

theorem IsArgument.uncut {a : List Char} (h : IsArgument a) : Uncut .start a .start :=
  h.nested.uncut (by simp)

/-! ### Joining -/

theorem join_singleton (a : List Char) : join [a] = a := List.intercalate_singleton ..

theorem join_cons_cons (a b : List Char) (rest : List (List Char)) :
    join (a :: b :: rest) = a ++ ',' :: ' ' :: join (b :: rest) := by
  rw [join, List.intercalate_cons_cons, List.append_assoc]
  rfl

/-- What holds of arguments, and of an argument in front of a list, holds of lists. -/
theorem join_induction {motive : List Char → Prop} (single : ∀ a, IsArgument a → motive a)
    (cons : ∀ a s, IsArgument a → motive s → motive (a ++ ',' :: ' ' :: s))
    {args : List (List Char)} (hne : args ≠ []) (h : ∀ a ∈ args, IsArgument a) :
    motive (join args) := by
  induction args with
  | nil => exact absurd rfl hne
  | cons a rest ih =>
      have ha := h a (List.mem_cons_self ..)
      cases rest with
      | nil =>
          rw [join_singleton]
          exact single a ha
      | cons b rest =>
          rw [join_cons_cons]
          exact cons a _ ha (ih (List.cons_ne_nil _ _) fun c hc => h c (List.mem_cons_of_mem _ hc))

section Join

variable {args : List (List Char)} (hne : args ≠ []) (h : ∀ a ∈ args, IsArgument a)

include hne h

/-- An argument list can stand in a group. -/
theorem groupBody_join : GroupBody (join args) := by
  refine join_induction (fun a ha => ha.nested.groupBody) (fun a s ha hs => ?_) hne h
  have hspace : GroupBody (' ' :: s) := .char (by decide) (by decide) (by decide) hs
  exact groupBody_append ha.nested.groupBody (.char (by decide) (by decide) (by decide) hspace)

theorem trimmed_join : Trimmed (join args) := by
  have hboth : join args ≠ [] ∧ Trimmed (join args) := by
    refine join_induction (motive := fun s => s ≠ [] ∧ Trimmed s)
      (fun a ha => ⟨ha.ne_nil, ha.trimmed⟩) (fun a s ha hs => ?_) hne h
    have hends : Trimmed (a ++ [',', ' '] ++ s) := ha.trimmed.append ha.ne_nil hs.2 hs.1
    exact ⟨by simp, by simpa using hends⟩
  exact hboth.2

end Join

/-- Each piece after the first one starts with the space that was written. -/
theorem pieces_join {a : List Char} {rest : List (List Char)}
    (h : ∀ b ∈ a :: rest, IsArgument b) :
    pieces .start (join (a :: rest)) = a :: rest.map (' ' :: ·) := by
  induction rest generalizing a with
  | nil =>
      have ha := h a (List.mem_cons_self ..)
      rw [join_singleton, pieces_eq_singleton ha.uncut]
      rfl
  | cons b rest ih =>
      have ha := h a (List.mem_cons_self ..)
      have ih := ih fun c hc => h c (List.mem_cons_of_mem _ hc)
      have hspace : Cursor.start.next ' ' = .start := by decide
      rw [join_cons_cons, pieces_append_comma_of_uncut ha.uncut,
        pieces_cons_of_not_separates (by decide), hspace, ih]
      rfl

/-- The cut finds the arguments that were written. -/
theorem splitArguments_join {args : List (List Char)} (hne : args ≠ [])
    (h : ∀ a ∈ args, IsArgument a) : splitArguments (join args) = args := by
  obtain ⟨a, rest, rfl⟩ := List.exists_cons_of_ne_nil hne
  have ha := h a (List.mem_cons_self ..)
  have htrim : (rest.map (' ' :: ·)).map Text.trim = rest := by
    rw [List.map_map]
    refine (List.map_congr_left fun b hb => ?_).trans (List.map_id rest)
    exact (h b (List.mem_cons_of_mem _ hb)).trimmed.trim_cons (by decide)
  rw [splitArguments, pieces_join h, List.map_cons, ha.trimmed.trim_eq, htrim,
    List.filter_eq_self]
  intro b hb
  simpa using (h b hb).ne_nil

end DataSchema.Attribute
