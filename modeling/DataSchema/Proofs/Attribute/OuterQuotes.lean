import DataSchema.Proofs.Attribute.RelationName
import DataSchema.Proofs.Attribute.Strings

/-!
# DataSchema.Proofs.Attribute.OuterQuotes

**What stands between the first quote of a name and its last.** A name is read off a value by taking
away one quote at each end, without a look at what is between them. No string is open at the end of
the arguments, nor at the end of a piece that the cut makes of them, nor at the end of the value. So
the first quote opens a string and the last one closes a string, and there are two cases
(`inString_quoted_iff`): they are the ends of the same string, or the first string ends before the
last one begins, and the name has the quotes of both and all that is between them
(`stringBody_iff_of_parse?`).
-/

namespace DataSchema.Attribute

open DataSchema.Field
open DataSchema.Field.Grammar (StringBody)
open Text (Quoting isBlank)

/-! ### The first string and the last one -/

theorem stringBody_append {a b : List Char} (ha : StringBody a) (hb : StringBody b) :
    StringBody (a ++ b) := by
  induction ha with
  | nil => exact hb
  | escape c _ ih => exact .escape c ih
  | char hquote hbackslash _ ih => exact .char hquote hbackslash ih

/-- A reader that leaves a string has met its closing quote. After a backslash it goes on with the
character that the backslash takes. -/
theorem exists_first_string (s : List Char) :
    (s.foldl Quoting.next .quoted = .plain → ∃ first rest, StringBody first ∧
      rest.foldl Quoting.next .plain = .plain ∧ s = first ++ '"' :: rest) ∧
    (s.foldl Quoting.next .escaped = .plain → ∃ c first rest, StringBody first ∧
      rest.foldl Quoting.next .plain = .plain ∧ s = c :: (first ++ '"' :: rest)) := by
  induction s with
  | nil => simp
  | cons c s ih =>
    obtain ⟨hquoted, hescaped⟩ := ih
    simp only [List.foldl_cons]
    constructor
    · intro h
      by_cases hquote : c = '"'
      · subst hquote
        exact ⟨[], s, .nil, h, rfl⟩
      by_cases hbackslash : c = '\\'
      · subst hbackslash
        obtain ⟨d, first, rest, hfirst, hrest, rfl⟩ := hescaped h
        exact ⟨'\\' :: d :: first, rest, .escape d hfirst, hrest, rfl⟩
      · rw [quoted_next hquote hbackslash] at h
        obtain ⟨first, rest, hfirst, hrest, rfl⟩ := hquoted h
        exact ⟨c :: first, rest, .char hquote hbackslash hfirst, hrest, rfl⟩
    · intro h
      obtain ⟨first, rest, hfirst, hrest, rfl⟩ := hquoted h
      exact ⟨c, first, rest, hfirst, hrest, rfl⟩

/-- A reader that is in a string has met its opening quote. -/
theorem exists_last_string (s : List Char) :
    (s.foldl Quoting.next .plain = .quoted → ∃ front last,
      front.foldl Quoting.next .plain = .plain ∧ StringBody last ∧ s = front ++ '"' :: last) ∧
    (s.foldl Quoting.next .plain = .escaped → ∃ front last,
      front.foldl Quoting.next .plain = .plain ∧ StringBody last ∧
        s = front ++ '"' :: (last ++ ['\\'])) := by
  induction s using List.reverseRecOn with
  | nil => simp
  | append_singleton s c ih =>
    obtain ⟨hquoted, hescaped⟩ := ih
    simp only [List.foldl_append, List.foldl_cons, List.foldl_nil]
    constructor
    · intro h
      rcases next_eq_quoted_iff.mp h with ⟨hplain, rfl⟩ | ⟨hstate, hquote, hbackslash⟩ | hstate
      · exact ⟨s, [], hplain, .nil, rfl⟩
      · obtain ⟨front, last, hfront, hlast, rfl⟩ := hquoted hstate
        have hbody := stringBody_append hlast (.char hquote hbackslash .nil)
        exact ⟨front, last ++ [c], hfront, hbody, by simp⟩
      · obtain ⟨front, last, hfront, hlast, rfl⟩ := hescaped hstate
        have hbody := stringBody_append hlast (.escape c .nil)
        exact ⟨front, last ++ ['\\', c], hfront, hbody, by simp⟩
    · intro h
      obtain ⟨hstate, rfl⟩ := next_eq_escaped_iff.mp h
      obtain ⟨front, last, hfront, hlast, rfl⟩ := hquoted hstate
      exact ⟨front, last, hfront, hlast, by simp⟩

/-! ### Between the outer quotes -/

/-- What stands between the first quote of one string and the last quote of another. -/
def SpansStrings (s : List Char) : Prop :=
  ∃ first middle last, StringBody first ∧ inString middle middle.length = false ∧
    StringBody last ∧ s = first ++ '"' :: (middle ++ '"' :: last)

/-- Between the quotes of one string no string ends. -/
theorem SpansStrings.not_stringBody {s : List Char} (h : SpansStrings s) : ¬ StringBody s := by
  obtain ⟨first, middle, last, hfirst, -, -, rfl⟩ := h
  intro hs
  have hclosed := foldl_take_stringBody hs (first.length + 1)
  rw [List.take_length_add_append, List.foldl_append, foldl_stringBody hfirst] at hclosed
  exact hclosed rfl

/-- A text between two quotes ends outside strings if and only if the quotes are the ends of one
string, or the first of one and the last of another. -/
theorem inString_quoted_iff {s : List Char} :
    inString (quoted s) (quoted s).length = false ↔ StringBody s ∨ SpansStrings s := by
  have hopen : (quoted s).foldl Quoting.next .plain =
      (s.foldl Quoting.next .quoted).next '"' := by
    rw [quoted, List.foldl_cons, List.foldl_append]
    rfl
  rw [inString_length_iff, hopen]
  constructor
  · intro h
    obtain ⟨hinside, -⟩ := (next_eq_plain_iff.mp h).resolve_left fun h => h.2 rfl
    obtain ⟨front, last, hfront, hlast, htext⟩ := (exists_last_string ('"' :: s)).1 hinside
    cases front with
    | nil =>
      obtain rfl := (List.cons.inj htext).2
      exact .inl hlast
    | cons c front =>
      obtain ⟨rfl, hs⟩ := List.cons.inj htext
      obtain ⟨first, middle, hfirst, hmiddle, rfl⟩ := (exists_first_string front).1 hfront
      refine .inr ⟨first, middle, last, hfirst, inString_length_iff.mpr hmiddle, hlast, ?_⟩
      rw [hs]
      exact List.append_assoc ..
  · intro h
    rcases h with hs | ⟨first, middle, last, hfirst, hmiddle, hlast, rfl⟩
    · rw [foldl_stringBody hs]
      rfl
    · rw [inString_length_iff] at hmiddle
      have hclose : Quoting.next .quoted '"' = .plain := rfl
      have hreopen : Quoting.next .plain '"' = .quoted := rfl
      rw [List.foldl_append, List.foldl_cons, List.foldl_append, List.foldl_cons,
        foldl_stringBody hfirst, hclose, hmiddle, hreopen, foldl_stringBody hlast, hclose]

/-! ### Where no string is open -/

/-- Text without quotes around a text does not count. -/
theorem inString_length_between {front s back : List Char} (hfront : '"' ∉ front)
    (hback : '"' ∉ back) :
    inString (front ++ s ++ back) (front ++ s ++ back).length = false ↔
      inString s s.length = false := by
  have hplain : front.foldl Quoting.next .plain = .plain := (foldl_next_eq_plain_iff hfront).mpr rfl
  rw [inString_length_iff, inString_length_iff, List.foldl_append, List.foldl_append, hplain,
    foldl_next_eq_plain_iff hback]

theorem inString_length_trim {s : List Char} :
    inString (Text.trim s) (Text.trim s).length = false ↔ inString s s.length = false := by
  obtain ⟨lead, trail, hlead, htrail, hs⟩ := Text.exists_trim_eq s
  conv_rhs => rw [hs]
  exact (inString_length_between (quote_not_mem_of_isBlank hlead)
    (quote_not_mem_of_isBlank htrail)).symm

/-! ### Names -/

theorem unquote?_eq_some_iff {text s : List Char} :
    unquote? text = some s ↔ Text.trim text = quoted s := by
  refine ⟨fun h => ?_, unquote?_of_trim⟩
  unfold unquote? at h
  split at h
  · next rest htrim =>
    rw [htrim]
    split at h
    · next hlast =>
      obtain rfl := Option.some.inj h
      obtain ⟨front, rfl⟩ := List.getLast?_eq_some_iff.mp hlast
      rw [List.dropLast_concat, quoted]
    · cases h
  · cases h

/-- A value that gives a name is a text between quotes, and it is an argument or stands in one after
the key `name`. -/
theorem namedValue?_eq_some {argument s : List Char} (h : namedValue? argument = some s) :
    ∃ key value, argument = key ++ ':' :: value ∧ Text.trim key = "name".toList ∧
      Text.trim value = quoted s := by
  unfold namedValue? at h
  split at h
  · next value hvalue =>
    split at h
    · next hkey =>
      refine ⟨argument.takeWhile (· ≠ ':'), value, ?_, hkey, unquote?_eq_some_iff.mp h⟩
      rw [← hvalue, List.takeWhile_append_dropWhile]
    · cases h
  · cases h

theorem inString_length_of_namedValue? {argument s : List Char}
    (hends : inString argument argument.length = false) (h : namedValue? argument = some s) :
    inString (quoted s) (quoted s).length = false := by
  obtain ⟨key, value, rfl, hkey, hvalue⟩ := namedValue?_eq_some h
  have hkeyQuote : '"' ∉ key := by
    obtain ⟨lead, trail, hlead, htrail, htext⟩ := Text.exists_trim_eq key
    rw [htext, hkey]
    simp [quote_not_mem_of_isBlank hlead, quote_not_mem_of_isBlank htrail]
  have hfront : '"' ∉ key ++ [':'] := by simp [hkeyQuote]
  have htext : key ++ ':' :: value = key ++ [':'] ++ value ++ [] := by simp
  rw [htext, inString_length_between hfront List.not_mem_nil] at hends
  rw [← hvalue, inString_length_trim]
  exact hends

theorem inString_length_of_unquote? {argument s : List Char}
    (hends : inString argument argument.length = false) (h : unquote? argument = some s) :
    inString (quoted s) (quoted s).length = false := by
  rw [← unquote?_eq_some_iff.mp h, inString_length_trim]
  exact hends

/-- Where no string is open at the end of the arguments, none is open at the end of the name. -/
theorem inString_length_of_nameArgument? {args s : List Char}
    (hends : inString args args.length = false) (h : nameArgument? args = some s) :
    inString (quoted s) (quoted s).length = false := by
  have harguments : ∀ argument ∈ splitArguments args,
      inString argument argument.length = false := by
    intro argument hmem
    obtain ⟨hmem, -⟩ := List.mem_filter.mp hmem
    obtain ⟨piece, hpiece, rfl⟩ := List.mem_map.mp hmem
    exact inString_length_trim.mpr (inString_length_of_mem_pieces hends hpiece)
  unfold nameArgument? at h
  dsimp only at h
  split at h
  · next name hname =>
    obtain rfl := Option.some.inj h
    obtain ⟨argument, hhead, hquoted⟩ := Option.bind_eq_some_iff.mp hname
    have hmem := List.mem_of_mem_head? hhead
    exact inString_length_of_unquote? (harguments argument hmem) hquoted
  · obtain ⟨argument, hmem, hnamed⟩ := List.exists_of_findSome?_eq_some h
    exact inString_length_of_namedValue? (harguments argument hmem) hnamed

/-! ### Lines -/

/-- The arguments of an attribute end outside strings. -/
theorem inString_length_of_parse? {line : String} {d : Declaration}
    (h : Declaration.parse? line = some d) {a : Attribute} (ha : a ∈ d.attributes) {args : String}
    (hargs : a.args = some args) : inString args.toList args.toList.length = false := by
  obtain ⟨f, hf, rfl⟩ := exists_decomposes_of_parse? h
  obtain ⟨piece, hpiece, rfl⟩ := List.mem_map.mp ha
  obtain ⟨group, hgroup, rfl⟩ := Option.map_eq_some_iff.mp hargs
  obtain ⟨inner, hinner, rfl⟩ :=
    exists_body_of_group ((hf.attributes piece hpiece).args group hgroup)
  obtain ⟨b, hb, htext⟩ := BodySyntax.groupBody_iff_exists.mp hinner
  rw [String.toList_ofList, List.tail_cons, List.dropLast_concat, inString_length_trim, ← htext]
  exact inString_length_text hb

/-- **One string or several.** The name in an attribute is what stands between the quotes of one
string, unless the value that it is read off begins with a string and ends with another. -/
theorem stringBody_iff_of_parse? {line : String} {d : Declaration}
    (h : Declaration.parse? line = some d) {a : Attribute} (ha : a ∈ d.attributes) {name : String}
    (hname : a.nameArg? = some name) :
    StringBody name.toList ↔ ¬ SpansStrings name.toList := by
  obtain ⟨args, hargs, hname⟩ := Option.bind_eq_some_iff.mp hname
  obtain ⟨s, hs, hname⟩ := Option.bind_eq_some_iff.mp hname
  obtain rfl := Option.some.inj hname
  rw [String.toList_ofList]
  have hends := inString_length_of_nameArgument? (inString_length_of_parse? h ha hargs) hs
  refine ⟨fun hbody hspans => hspans.not_stringBody hbody, fun hspans => ?_⟩
  exact (inString_quoted_iff.mp hends).resolve_right hspans

/-- The name of the relation is one string, with a quote in it that is escaped. The name of the map
has the two quotes between its ends that are not. -/
theorem stringBody_iff_of_parse?_escaped :
    let line := "owner User @relation(name: \"a\\\"b\") @map(\"x\" + \"y\")"
    let relation : Attribute := ⟨"relation", some "name: \"a\\\"b\""⟩
    let map : Attribute := ⟨"map", some "\"x\" + \"y\""⟩
    Declaration.parse? line = some ⟨"owner", "User", [relation, map]⟩ ∧
      relation.nameArg? = some "a\\\"b" ∧ ¬ SpansStrings "a\\\"b".toList ∧
      map.nameArg? = some "x\" + \"y" ∧ ¬ StringBody "x\" + \"y".toList := by
  intro line relation map
  have hline : Declaration.parse? line = some ⟨"owner", "User", [relation, map]⟩ := by
    decide +kernel
  have hrelation : relation.nameArg? = some "a\\\"b" := by decide +kernel
  have hmap : map.nameArg? = some "x\" + \"y" := by decide +kernel
  have hbody : StringBody "a\\\"b".toList :=
    .char (by decide) (by decide) (.escape '"' (stringBody_of_chars (by decide)))
  have hspans : SpansStrings "x\" + \"y".toList :=
    ⟨['x'], [' ', '+', ' '], ['y'], stringBody_of_chars (by decide), by decide,
      stringBody_of_chars (by decide), by decide⟩
  refine ⟨hline, hrelation, ?_, hmap, ?_⟩
  · exact (stringBody_iff_of_parse? hline (by simp) hrelation).mp hbody
  · rw [stringBody_iff_of_parse? hline (by simp) hmap]
    exact not_not_intro hspans

/-- A name that is not one string: the value is two strings with a blank between them. -/
theorem exists_nameArg?_not_stringBody :
    ∃ d, Declaration.parse? "owner User @relation(\"x\" \"y\")" = some d ∧
      ∃ a ∈ d.attributes, ∃ name, a.nameArg? = some name ∧ ¬ StringBody name.toList := by
  let a : Attribute := ⟨"relation", some "\"x\" \"y\""⟩
  have hname : a.nameArg? = some "x\" \"y" := by decide +kernel
  have hspans : SpansStrings "x\" \"y".toList :=
    ⟨['x'], [' '], ['y'], stringBody_of_chars (by decide), by decide,
      stringBody_of_chars (by decide), by decide⟩
  refine ⟨⟨"owner", "User", [a]⟩, by decide +kernel, a, by simp, _, hname, ?_⟩
  exact hspans.not_stringBody

end DataSchema.Attribute
