import DataSchema.Proofs.Attribute.Splitting
import DataSchema.Proofs.Field.Decomposition
import DataSchema.Proofs.Field.GroupBody

/-!
# DataSchema.Proofs.Attribute.Strings

**The cut and the grammar see the same strings.** The grammar reads the strings of an argument list
with everything else that is in its group; the cut follows the characters with a flag. On a body of
the grammar the flag is up at a place if and only if the place is inside a string that the grammar
read there (`inString_text_iff`). The induction is on the tree of the body: a string is entered and
left at its quotes, and every other character is met outside strings, where only a quote counts.

The cut does not see the whole body, but what is left of it when the blanks at its ends are gone.
Blanks are never quotes, so this moves all places by the same number.
-/

namespace DataSchema.Attribute

open DataSchema.Field
open DataSchema.Field.Grammar (StringBody GroupBody)
open Text (Quoting isBlank)

/-! ### The flag along a text -/

theorem inString_iff {s : List Char} {place : Nat} :
    inString s place = true ↔ (s.take place).foldl Quoting.next .plain ≠ .plain := by
  rw [inString, decide_eq_true_eq, Cursor.quoting_run]
  rfl

theorem inString_length_iff {s : List Char} :
    inString s s.length = false ↔ s.foldl Quoting.next .plain = .plain := by
  rw [← Bool.not_eq_true, inString_iff, List.take_length, not_not]

theorem inString_zero (s : List Char) : inString s 0 = false := rfl

theorem inString_append_of_le {s : List Char} {place : Nat} (h : place ≤ s.length)
    (t : List Char) : inString (s ++ t) place = inString s place := by
  rw [inString, inString, List.take_append_of_le_length h]

/-- After a text that ends outside strings the flag starts anew. -/
theorem inString_append_add {s : List Char} (hs : inString s s.length = false) (t : List Char)
    (place : Nat) : inString (s ++ t) (s.length + place) = inString t place := by
  rw [inString_length_iff] at hs
  rw [Bool.eq_iff_iff, inString_iff, inString_iff, List.take_length_add_append, List.foldl_append,
    hs]

theorem inString_length_append {s t : List Char} (hs : inString s s.length = false)
    (ht : inString t t.length = false) : inString (s ++ t) (s ++ t).length = false := by
  rw [List.length_append, inString_append_add hs, ht]

/-- Outside strings only a quote counts. -/
theorem inString_singleton {c : Char} (hc : c ≠ '"') : inString [c] [c].length = false := by
  rw [inString_length_iff, List.foldl_cons, List.foldl_nil, Quoting.next, if_neg hc]

theorem inString_cons_succ {c : Char} (hc : c ≠ '"') (s : List Char) (place : Nat) :
    inString (c :: s) (place + 1) = inString s place := by
  have h := inString_append_add (inString_singleton hc) s place
  rwa [List.singleton_append, List.length_singleton, Nat.add_comm] at h

theorem not_quote_of_isBlank {c : Char} (h : isBlank c = true) : c ≠ '"' := by
  rintro rfl
  exact absurd h (by decide)

/-- Without quotes a text neither opens a string nor ends one. -/
theorem foldl_next_eq_plain_iff {s : List Char} {state : Quoting} (hs : '"' ∉ s) :
    s.foldl Quoting.next state = .plain ↔ state = .plain := by
  induction s generalizing state with
  | nil => rfl
  | cons c s ih =>
    rw [List.mem_cons, not_or] at hs
    obtain ⟨hc, hs⟩ := hs
    rw [List.foldl_cons, ih hs, next_eq_plain_iff]
    constructor
    · intro h
      rcases h with ⟨hstate, -⟩ | ⟨-, rfl⟩
      · exact hstate
      · exact absurd rfl hc
    · intro hstate
      exact .inl ⟨hstate, Ne.symm hc⟩

theorem quote_not_mem_of_isBlank {blanks : List Char} (h : ∀ c ∈ blanks, isBlank c = true) :
    '"' ∉ blanks :=
  fun hmem => not_quote_of_isBlank (h _ hmem) rfl

theorem inString_length_blanks {blanks : List Char} (h : ∀ c ∈ blanks, isBlank c = true) :
    inString blanks blanks.length = false :=
  inString_length_iff.mpr ((foldl_next_eq_plain_iff (quote_not_mem_of_isBlank h)).mpr rfl)

/-! ### Along a string -/

/-- The characters between the quotes of a string leave the reader in the string. -/
theorem foldl_stringBody {body : List Char} (h : StringBody body) :
    body.foldl Quoting.next .quoted = .quoted := by
  induction h with
  | nil => rfl
  | escape c _ ih => exact ih
  | char hquote hbackslash _ ih => rwa [List.foldl_cons, quoted_next hquote hbackslash]

/-- Between the quotes of a string the reader is never outside it. -/
theorem foldl_take_stringBody {body : List Char} (h : StringBody body) (place : Nat) :
    (body.take place).foldl Quoting.next .quoted ≠ .plain := by
  induction h generalizing place with
  | nil => simp
  | escape c _ ih =>
      match place with
      | 0 => simp
      | 1 => simp [Quoting.next]
      | place + 2 => exact ih place
  | char hquote hbackslash _ ih =>
      cases place with
      | zero => simp
      | succ place =>
          rw [List.take_succ_cons, List.foldl_cons, quoted_next hquote hbackslash]
          exact ih place

section StringBody

variable {body : List Char} (h : StringBody body)

include h

theorem inString_length_string : inString ('"' :: (body ++ ['"'])) ('"' :: (body ++ ['"'])).length =
    false := by
  rw [inString_length_iff, List.foldl_cons, List.foldl_append]
  change [_].foldl Quoting.next (body.foldl Quoting.next .quoted) = _
  rw [foldl_stringBody h]
  rfl

theorem inString_string {place : Nat} (hplace : place ≤ body.length) (t : List Char) :
    inString ('"' :: (body ++ t)) (place + 1) = true := by
  rw [inString_iff, List.take_succ_cons, List.take_append_of_le_length hplace]
  exact foldl_take_stringBody h place

end StringBody

/-! ### Along a body -/

/-- A body ends outside strings. -/
theorem inString_length_text {b : BodySyntax} (hb : b.WellFormed) :
    inString b.text b.text.length = false := by
  induction b with
  | nil => rfl
  | group inner rest ihinner ihrest =>
      have hopen : inString ('(' :: inner.text) ('(' :: inner.text).length = false :=
        inString_length_append (inString_singleton (by decide)) (ihinner hb.1)
      have hclose : inString (')' :: rest.text) (')' :: rest.text).length = false :=
        inString_length_append (inString_singleton (by decide)) (ihrest hb.2)
      exact inString_length_append hopen hclose
  | string body rest ih =>
      have h := inString_length_append (inString_length_string hb.1) (ih hb.2)
      simpa [BodySyntax.text] using h
  | char c rest ih =>
      exact inString_length_append (inString_singleton hb.2.2.1) (ih hb.2.2.2)

theorem not_inside_of_le {b : BodySyntax} {start place : Nat} (h : place ≤ start) :
    ¬ b.Inside start place := by
  intro ⟨span, hspan, hstart, _⟩
  have hbounds := BodySyntax.bounds_of_mem_strings hspan
  omega

theorem not_inside_of_ge {b : BodySyntax} {start place : Nat} (h : start + b.text.length ≤ place) :
    ¬ b.Inside start place := by
  intro ⟨span, hspan, _, hstop⟩
  have hbounds := BodySyntax.bounds_of_mem_strings hspan
  omega

theorem inside_group {inner rest : BodySyntax} {start place : Nat} :
    (BodySyntax.group inner rest).Inside start place ↔
      inner.Inside (start + 1) place ∨ rest.Inside (start + 1 + inner.text.length + 1) place := by
  simp only [BodySyntax.Inside, BodySyntax.strings, List.mem_append, or_and_right, exists_or]

theorem inside_string {body : List Char} {rest : BodySyntax} {start place : Nat} :
    (BodySyntax.string body rest).Inside start place ↔
      (start < place ∧ place < start + 1 + body.length + 1) ∨
        rest.Inside (start + 1 + body.length + 1) place := by
  simp only [BodySyntax.Inside, BodySyntax.strings, List.mem_cons, exists_eq_or_imp]

theorem inString_zero_iff {b : BodySyntax} {start : Nat} :
    inString b.text 0 = true ↔ b.Inside start (start + 0) :=
  iff_of_false (by simp [inString_zero]) (not_inside_of_le (Nat.le_refl _))

/-- The flag is up exactly inside the strings that the grammar reads. -/
theorem inString_text_iff {b : BodySyntax} (hb : b.WellFormed) {start place : Nat}
    (h : place ≤ b.text.length) :
    inString b.text place = true ↔ b.Inside start (start + place) := by
  induction b generalizing start place with
  | nil =>
      obtain rfl : place = 0 := Nat.le_zero.mp h
      exact inString_zero_iff
  | group inner rest ihinner ihrest =>
      simp only [BodySyntax.text, List.length_cons, List.length_append] at h
      cases place with
      | zero => exact inString_zero_iff
      | succ place =>
          rw [inside_group, BodySyntax.text, inString_cons_succ (by decide)]
          by_cases hinner : place ≤ inner.text.length
          · have hplace : start + (place + 1) = start + 1 + place := by omega
            rw [inString_append_of_le hinner, hplace, or_iff_left (not_inside_of_le (by omega))]
            exact ihinner hb.1 hinner
          · obtain ⟨after, rfl⟩ := Nat.exists_eq_add_of_lt (not_le.mp hinner)
            have hplace : start + (inner.text.length + after + 1 + 1) =
                start + 1 + inner.text.length + 1 + after := by omega
            rw [hplace, or_iff_right (not_inside_of_ge (by omega)), Nat.add_assoc,
              inString_append_add (inString_length_text hb.1), inString_cons_succ (by decide)]
            exact ihrest hb.2 (by omega)
  | string body rest ih =>
      simp only [BodySyntax.text, List.length_cons, List.length_append] at h
      cases place with
      | zero => exact inString_zero_iff
      | succ place =>
          rw [inside_string, BodySyntax.text]
          by_cases hbody : place ≤ body.length
          · exact iff_of_true (inString_string hb.1 hbody _) (Or.inl (by omega))
          · obtain ⟨after, rfl⟩ := Nat.exists_eq_add_of_lt (not_le.mp hbody)
            have hplace : start + (body.length + after + 1 + 1) =
                start + 1 + body.length + 1 + after := by omega
            have hskip := inString_append_add (inString_length_string hb.1) rest.text after
            rw [hplace, or_iff_right (by omega), ← ih hb.2 (by omega), ← hskip]
            simp [Nat.add_right_comm]
  | char c rest ih =>
      cases place with
      | zero => exact inString_zero_iff
      | succ place =>
          have hplace : start + (place + 1) = start + 1 + place := by omega
          rw [BodySyntax.text, inString_cons_succ hb.2.2.1, hplace]
          exact ih hb.2.2.2 (Nat.le_of_succ_le_succ h)

/-! ### Arguments -/

/-- An argument list that starts at a place of a body is cut as the strings of the body say. -/
structure StringsAgree (b : BodySyntax) (start : Nat) (args : List Char) : Prop where
  /-- The cut is in a string exactly where the grammar reads one. -/
  inside : ∀ place ≤ args.length, inString args place = true ↔ b.Inside 0 (start + place)
  /-- No string is open at the end. -/
  ends : inString args args.length = false
  /-- The cuts are at the commas that are in no string and in no bracket. -/
  cuts : ∀ front back, front ≠ [] ∧ back ≠ [] ∧ pieces .start args = front ++ back ↔
    ∃ s t, args = s ++ ',' :: t ∧ ¬ b.Inside 0 (start + s.length) ∧
      (Cursor.start.run s).depth = 0 ∧ pieces .start s = front ∧ pieces .start t = back
  /-- No piece ends in a string. -/
  whole : ∀ piece ∈ pieces .start args, inString piece piece.length = false

theorem quoting_run_iff {s : List Char} :
    (Cursor.start.run s).quoting = .plain ↔ inString s s.length = false := by
  rw [inString_length_iff, Cursor.quoting_run]
  rfl

/-- Outside every bracket and every string the cut is where it started. -/
theorem run_eq_start_iff {s : List Char} :
    Cursor.start.run s = .start ↔ inString s s.length = false ∧ (Cursor.start.run s).depth = 0 := by
  rw [← quoting_run_iff]
  generalize Cursor.start.run s = k
  obtain ⟨depth, quoting⟩ := k
  simp [Cursor.start, and_comm]

/-- A text that ends outside strings has no piece that ends in one. -/
theorem inString_length_of_mem_pieces {s piece : List Char} (hs : inString s s.length = false)
    (hpiece : piece ∈ pieces .start s) : inString piece piece.length = false := by
  obtain ⟨first, rest, hpieces⟩ := exists_cons_of_pieces .start s
  obtain ⟨hfirst, hrest⟩ := quoting_run_of_pieces hpieces (quoting_run_iff.mpr hs)
  rw [hpieces] at hpiece
  rcases List.mem_cons.mp hpiece with rfl | hpiece
  · exact quoting_run_iff.mp hfirst
  · exact quoting_run_iff.mp (hrest piece hpiece)

section Body

variable {b : BodySyntax} {lead args trail : List Char} (hb : b.WellFormed)
  (htext : b.text = lead ++ args ++ trail) (hlead : ∀ c ∈ lead, isBlank c = true)
  (htrail : ∀ c ∈ trail, isBlank c = true)

include hb htext hlead

/-- Blanks in front move the places of a body, and blanks after it do not count. -/
theorem inString_args_iff {place : Nat} (h : place ≤ args.length) :
    inString args place = true ↔ b.Inside 0 (lead.length + place) := by
  have hwithin : lead.length + place ≤ b.text.length := by
    rw [htext, List.length_append, List.length_append]
    omega
  have hflag : inString b.text (lead.length + place) = true ↔ b.Inside 0 (0 + _) :=
    inString_text_iff hb hwithin
  rw [Nat.zero_add, htext, List.append_assoc, inString_append_add (inString_length_blanks hlead),
    inString_append_of_le h] at hflag
  exact hflag

include htrail

theorem inString_length_args : inString args args.length = false := by
  have hbody : GroupBody (lead ++ args ++ trail) :=
    BodySyntax.groupBody_iff_exists.mpr ⟨b, hb, htext⟩
  rw [List.append_assoc] at hbody
  have hargs := groupBody_of_append_blank htrail (groupBody_of_blank_append hlead hbody)
  obtain ⟨inner, hinner, rfl⟩ := BodySyntax.groupBody_iff_exists.mp hargs
  exact inString_length_text hinner

theorem stringsAgree_of_text : StringsAgree b lead.length args where
  inside := fun _ => inString_args_iff hb htext hlead
  ends := inString_length_args hb htext hlead htrail
  cuts := by
    have hcomma : ∀ s t, args = s ++ ',' :: t →
        (inString s s.length = false ↔ ¬ b.Inside 0 (lead.length + s.length)) := by
      intro s t hargs
      have hwithin : s.length ≤ args.length := by simp [hargs]
      rw [← inString_args_iff hb htext hlead hwithin, hargs,
        inString_append_of_le (Nat.le_refl _), Bool.not_eq_true]
    intro front back
    rw [pieces_eq_append_iff]
    constructor
    · intro ⟨s, t, hargs, hrun, hs, ht⟩
      obtain ⟨hplain, hdepth⟩ := run_eq_start_iff.mp hrun
      exact ⟨s, t, hargs, (hcomma s t hargs).mp hplain, hdepth, hs, ht⟩
    · intro ⟨s, t, hargs, houtside, hdepth, hs, ht⟩
      exact ⟨s, t, hargs, run_eq_start_iff.mpr ⟨(hcomma s t hargs).mpr houtside, hdepth⟩, hs, ht⟩
  whole := fun _ => inString_length_of_mem_pieces (inString_length_args hb htext hlead htrail)

end Body

/-- **The cut and the grammar agree on strings.** In every attribute of a line that declares a
field, the arguments stand between blanks in a group of the grammar, and what the cut takes for
strings are exactly the strings that the grammar reads in this group. -/
theorem stringsAgree_of_parse? {line : String} {d : Declaration}
    (h : Declaration.parse? line = some d) :
    ∃ f : FieldSyntax, f.Decomposes (Text.trim line.toList) ∧ f.toDeclaration = d ∧
      ∀ piece ∈ f.attributes, ∀ args ∈ piece.1.toAttribute.args, ∃ lead trail : List Char,
        (∀ c ∈ lead, isBlank c = true) ∧ (∀ c ∈ trail, isBlank c = true) ∧
        piece.1.args = some ('(' :: (lead ++ args.toList ++ trail ++ [')'])) ∧
        (∃ b : BodySyntax, b.WellFormed ∧ b.text = lead ++ args.toList ++ trail) ∧
        ∀ b : BodySyntax, b.WellFormed → b.text = lead ++ args.toList ++ trail →
          StringsAgree b lead.length args.toList := by
  obtain ⟨f, hf, hd⟩ := exists_decomposes_of_parse? h
  refine ⟨f, hf, hd, fun piece hpiece args hargs => ?_⟩
  obtain ⟨group, hgroup, rfl⟩ := Option.map_eq_some_iff.mp hargs
  obtain ⟨inner, hbody, rfl⟩ :=
    exists_body_of_group ((hf.attributes piece hpiece).args group hgroup)
  obtain ⟨lead, trail, hlead, htrail, hinner⟩ := Text.exists_trim_eq inner
  rw [String.toList_ofList, List.tail_cons, List.dropLast_concat]
  refine ⟨lead, trail, hlead, htrail, ?_, ?_, fun b hb htext => ?_⟩
  · rw [hgroup, ← hinner]
  · rw [← hinner]
    exact BodySyntax.groupBody_iff_exists.mp hbody
  · exact stringsAgree_of_text hb htext hlead htrail

/-- Commas, brackets and an escaped quote in strings, a backslash outside them, and blanks around
the arguments. -/
theorem stringsAgree_of_parse?_quotes :
    let line := "key T[] @relation( \"a, \\\" (\", fields: [x, f(\"),]\")], \\ , n ) @b(\",\")"
    let written := ["\"a, \\\" (\", fields: [x, f(\"),]\")], \\ , n", "\",\""]
    Declaration.parse? line = some ⟨"key", "T[]", [⟨"relation", written[0]?⟩, ⟨"b", written[1]?⟩]⟩ ∧
    written.map (fun a => (splitArguments a.toList).map String.ofList) =
      [["\"a, \\\" (\"", "fields: [x, f(\"),]\")]", "\\", "n"], ["\",\""]] ∧
    ∃ f : FieldSyntax, f.Decomposes (Text.trim line.toList) ∧ f.attributes.length = 2 ∧
      ∀ piece ∈ f.attributes, ∀ args ∈ piece.1.toAttribute.args, ∃ lead trail : List Char,
        piece.1.args = some ('(' :: (lead ++ args.toList ++ trail ++ [')'])) ∧
        ∃ b : BodySyntax, b.text = lead ++ args.toList ++ trail ∧
          StringsAgree b lead.length args.toList := by
  intro line written
  have hline : Declaration.parse? line =
      some ⟨"key", "T[]", [⟨"relation", written[0]?⟩, ⟨"b", written[1]?⟩]⟩ := by decide +kernel
  obtain ⟨f, hf, hd, hstrings⟩ := stringsAgree_of_parse? hline
  refine ⟨hline, by decide +kernel, f, hf, ?_, fun piece hpiece args hargs => ?_⟩
  · simpa [FieldSyntax.toDeclaration] using congrArg (·.attributes.length) hd
  · obtain ⟨lead, trail, -, -, hgroup, ⟨b, hb, htext⟩, hagree⟩ := hstrings piece hpiece args hargs
    exact ⟨lead, trail, hgroup, b, htext, hagree b hb htext⟩

end DataSchema.Attribute
