import DataSchema.Field.Lexical
import DataSchema.Proofs.Text.Blank

/-!
# DataSchema.Proofs.Field.Grammar

**The grammar of the tokens, and that the readers recognize it.** The predicates of
`Field.Grammar` say what a name, a string, a group, a type token and a path are, without saying how
they are found. For each of them two facts tie it to its reader:

* what the reader reads is in the grammar (`name_of_identifier`, `group_of_group`, …), and
* a text of the grammar is read in full, whatever follows it, unless what follows could go on with
  the token (`identifier_of_name`, `group_append_of_group`, …).

A group needs no such condition: its closing parenthesis says where it ends. So no reader ever has to
give back what it took, and a text has at most one reading.
-/

namespace DataSchema.Field

open Text (Quoting takeWhile_append_of_stop dropWhile_append_of_stop head?_dropWhile)

/-! ### The grammar -/

namespace Grammar

/-- A letter or an underscore, then letters, digits and underscores. -/
inductive Name : List Char → Prop
  | mk {c : Char} {rest : List Char} (start : isNameStart c = true)
      (chars : ∀ d ∈ rest, isNameChar d = true) : Name (c :: rest)

/-- What stands between the quotes of a string: pairs of a backslash and any character, and single
characters other than the quote and the backslash. -/
inductive StringBody : List Char → Prop
  | nil : StringBody []
  | escape (c : Char) {rest : List Char} (hrest : StringBody rest) : StringBody ('\\' :: c :: rest)
  | char {c : Char} {rest : List Char} (quote : c ≠ '"') (backslash : c ≠ '\\')
      (hrest : StringBody rest) : StringBody (c :: rest)

/-- What stands between the parentheses of a group: groups, strings, and single characters other
than parentheses and quotes. -/
inductive GroupBody : List Char → Prop
  | nil : GroupBody []
  | group {inner rest : List Char} (hinner : GroupBody inner) (hrest : GroupBody rest) :
      GroupBody ('(' :: (inner ++ ')' :: rest))
  | string {body rest : List Char} (hbody : StringBody body) (hrest : GroupBody rest) :
      GroupBody ('"' :: (body ++ '"' :: rest))
  | char {c : Char} {rest : List Char} (opening : c ≠ '(') (closing : c ≠ ')') (quote : c ≠ '"')
      (hrest : GroupBody rest) : GroupBody (c :: rest)

/-- A balanced group in parentheses. -/
inductive Group : List Char → Prop
  | mk {inner : List Char} (hinner : GroupBody inner) : Group ('(' :: (inner ++ [')']))

/-- One element of a type token. -/
inductive TypeUnit : List Char → Prop
  | group {text : List Char} (hgroup : Group text) : TypeUnit text
  | char {c : Char} (gap : isGap c = false) (at_ : c ≠ '@') (opening : c ≠ '(') : TypeUnit [c]

/-- One or more elements. -/
inductive TypeWord : List Char → Prop
  | single {unit : List Char} (hunit : TypeUnit unit) : TypeWord unit
  | cons {unit rest : List Char} (hunit : TypeUnit unit) (hrest : TypeWord rest) :
      TypeWord (unit ++ rest)

/-- One or more names with a dot between each two. -/
inductive Path : List Char → Prop
  | single {name : List Char} (hname : Name name) : Path name
  | dot {name rest : List Char} (hname : Name name) (hrest : Path rest) : Path (name ++ '.' :: rest)

end Grammar

open Grammar

/-! ### Names -/

theorem isNameChar_of_isNameStart {c : Char} (h : isNameStart c = true) : isNameChar c = true := by
  simp only [isNameStart, isNameChar, Char.isAlphanum, Bool.or_eq_true] at h ⊢
  rcases h with h | h
  · exact Or.inl (Or.inl h)
  · exact Or.inr h

theorem exists_cons_of_name {name : List Char} (h : Name name) :
    ∃ c rest, name = c :: rest ∧ isGap c = false := by
  obtain ⟨hstart, -⟩ := h
  refine ⟨_, _, rfl, ?_⟩
  by_contra hgap
  simp only [isGap, Bool.not_eq_false, Bool.or_eq_true, beq_iff_eq] at hgap
  rcases hgap with rfl | rfl
  · exact absurd hstart (by decide)
  · exact absurd hstart (by decide)

theorem name_of_identifier {s name rest : List Char} (h : identifier s = some (name, rest)) :
    Name name ∧ ∀ c ∈ rest.head?, isNameChar c = false := by
  cases s with
  | nil => simp [identifier] at h
  | cons c r =>
      simp only [identifier, Option.ite_none_right_eq_some, Option.some.injEq, Prod.mk.injEq] at h
      obtain ⟨hstart, rfl, rfl⟩ := h
      exact ⟨.mk hstart fun d hd => List.mem_takeWhile_imp hd, head?_dropWhile⟩

theorem identifier_of_name {name s : List Char} (h : Name name)
    (stop : ∀ c ∈ s.head?, isNameChar c = false) : identifier (name ++ s) = some (name, s) := by
  obtain ⟨hstart, hchars⟩ := h
  rw [List.cons_append, identifier, if_pos hstart, takeWhile_append_of_stop hchars stop,
    dropWhile_append_of_stop hchars stop]

/-! ### Paths

A path is read one character at a time, so the two facts are about its tail: from within a name, and
from the first character of a name. -/

theorem pathTail_cons_of_taken {c : Char} {rest : List Char}
    (h : (isNameChar c || (c == '.' && rest.head?.any isNameStart)) = true) :
    pathTail (c :: rest) = (c :: (pathTail rest).1, (pathTail rest).2) := by
  rw [pathTail, if_pos h]

theorem pathTail_of_stop {s : List Char}
    (stop : ∀ c ∈ s.head?, isNameChar c = false ∧ c ≠ '.') : pathTail s = ([], s) := by
  cases s with
  | nil => rfl
  | cons c rest =>
      obtain ⟨hname, hdot⟩ := stop c rfl
      simp [pathTail, hname, hdot]

theorem pathTail_nameChars {chars s : List Char} (h : ∀ c ∈ chars, isNameChar c = true) :
    pathTail (chars ++ s) = (chars ++ (pathTail s).1, (pathTail s).2) := by
  induction chars with
  | nil => rfl
  | cons c rest ih =>
      have hc : isNameChar c = true := h c (List.mem_cons_self ..)
      have ih := ih fun d hd => h d (List.mem_cons_of_mem _ hd)
      rw [List.cons_append, pathTail_cons_of_taken (by rw [hc, Bool.true_or]), ih]
      rfl

/-- After a name the tail goes on with the path; and it is a path if a name starts it. -/
theorem path_of_pathTail (s : List Char) :
    (∀ name, Name name → Path (name ++ (pathTail s).1)) ∧
      (s.head?.any isNameStart = true → Path (pathTail s).1) := by
  induction s with
  | nil =>
      refine ⟨fun name hname => ?_, fun h => by simp at h⟩
      rw [pathTail, List.append_nil]
      exact .single hname
  | cons c rest ih =>
      obtain ⟨ihname, ihstart⟩ := ih
      constructor
      · intro name hname
        by_cases hc : isNameChar c = true
        · rw [pathTail_cons_of_taken (by rw [hc, Bool.true_or])]
          have hlonger : Name (name ++ [c]) := by
            obtain ⟨hstart, hchars⟩ := hname
            refine .mk hstart fun d hd => ?_
            rcases List.mem_append.mp hd with hd | hd
            · exact hchars d hd
            · rw [List.mem_singleton.mp hd]
              exact hc
          simpa using ihname _ hlonger
        · by_cases hdot : c = '.' ∧ rest.head?.any isNameStart = true
          · obtain ⟨rfl, hnext⟩ := hdot
            rw [pathTail_cons_of_taken (by simp [hnext])]
            exact .dot hname (ihstart hnext)
          · have hstop : (isNameChar c || (c == '.' && rest.head?.any isNameStart)) = false := by
              simpa [hc] using hdot
            rw [pathTail, if_neg (by simp [hstop]), List.append_nil]
            exact .single hname
      · intro hstart
        have hstart : isNameStart c = true := by simpa using hstart
        rw [pathTail_cons_of_taken (by rw [isNameChar_of_isNameStart hstart, Bool.true_or])]
        exact ihname [c] (.mk hstart (by simp))

theorem path_of_attributePath {s path rest : List Char}
    (h : attributePath s = some (path, rest)) : Path path := by
  cases s with
  | nil => simp [attributePath] at h
  | cons c r =>
      simp only [attributePath, Option.ite_none_right_eq_some, Option.some.injEq,
        Prod.mk.injEq] at h
      obtain ⟨hstart, rfl, -⟩ := h
      exact (path_of_pathTail r).1 [c] (.mk hstart (by simp))

theorem exists_cons_of_path {path : List Char} (h : Path path) :
    ∃ c rest, path = c :: rest ∧ isNameStart c = true := by
  cases h with
  | single hname =>
      obtain ⟨hstart, -⟩ := hname
      exact ⟨_, _, rfl, hstart⟩
  | dot hname _ =>
      obtain ⟨hstart, -⟩ := hname
      exact ⟨_, _, rfl, hstart⟩

theorem attributePath_of_path {path s : List Char} (h : Path path)
    (stop : ∀ c ∈ s.head?, isNameChar c = false ∧ c ≠ '.') :
    attributePath (path ++ s) = some (path, s) := by
  induction h with
  | single hname =>
      obtain ⟨hstart, hchars⟩ := hname
      rw [List.cons_append, attributePath, if_pos hstart, pathTail_nameChars hchars,
        pathTail_of_stop stop, List.append_nil]
  | @dot name rest hname hrest ih =>
      obtain ⟨hstart, hchars⟩ := hname
      obtain ⟨d, after, rfl, hd⟩ := exists_cons_of_path hrest
      have hafter : pathTail (after ++ s) = (after, s) := by
        simpa [attributePath, hd, Prod.ext_iff] using ih
      have htail : pathTail (d :: (after ++ s)) = (d :: after, s) := by
        rw [pathTail_cons_of_taken (by rw [isNameChar_of_isNameStart hd, Bool.true_or]), hafter]
      have hdot : pathTail ('.' :: d :: (after ++ s)) = ('.' :: d :: after, s) := by
        rw [pathTail_cons_of_taken (by simp [hd]), htail]
      simp only [List.cons_append, List.append_assoc]
      rw [attributePath, if_pos hstart, pathTail_nameChars hchars, hdot]

/-! ### Groups -/

/-- What closes `depth + 1` open parentheses: `depth + 1` bodies with a closing parenthesis after
each. -/
inductive Closing : Nat → List Char → Prop
  | last {inner : List Char} (hinner : GroupBody inner) : Closing 0 (inner ++ [')'])
  | outer {depth : Nat} {inner rest : List Char} (hinner : GroupBody inner)
      (hrest : Closing depth rest) : Closing (depth + 1) (inner ++ ')' :: rest)

/-- What closes `depth + 1` open parentheses from inside or outside a string. -/
def ClosingFrom (depth : Nat) : Quoting → List Char → Prop
  | .plain, text => Closing depth text
  | .quoted, text => ∃ body rest, StringBody body ∧ Closing depth rest ∧ text = body ++ '"' :: rest
  | .escaped, text => ∃ c body rest, StringBody body ∧ Closing depth rest ∧
      text = c :: (body ++ '"' :: rest)

/-- Whatever goes before a group's body and leaves a body goes before what closes it. -/
theorem Closing.prepend {depth : Nat} {text front : List Char} (h : Closing depth text)
    (hfront : ∀ body, GroupBody body → GroupBody (front ++ body)) :
    Closing depth (front ++ text) := by
  cases h with
  | last hinner =>
      rw [← List.append_assoc]
      exact .last (hfront _ hinner)
  | outer hinner hrest =>
      rw [← List.append_assoc]
      exact .outer (hfront _ hinner) hrest

theorem closingFrom_of_closeGroup {depth : Nat} {quoting : Quoting} {s text rest : List Char}
    (h : closeGroup Quoting.next depth quoting s = some (text, rest)) :
    ClosingFrom depth quoting text := by
  fun_induction closeGroup Quoting.next depth quoting s generalizing text rest with
  | case1 => simp at h
  | case2 =>
      simp only [Option.some.injEq, Prod.mk.injEq] at h
      obtain ⟨rfl, -⟩ := h
      exact .last .nil
  | case3 r outer ih =>
      obtain ⟨⟨t, a⟩, ht, he⟩ := Option.map_eq_some_iff.mp h
      cases he
      exact .outer .nil (ih ht)
  | case4 depth c r hclosing ih =>
      obtain ⟨⟨t, a⟩, ht, he⟩ := Option.map_eq_some_iff.mp h
      cases he
      have ih := ih ht
      by_cases hopening : c = '('
      · subst hopening
        have hdeeper : Closing (depth + 1) t := by simpa [Quoting.next, ClosingFrom] using ih
        cases hdeeper with
        | @outer _ inner rest hinner hrest =>
            have hprepend : Closing depth ('(' :: (inner ++ [')']) ++ rest) :=
              hrest.prepend fun body hbody => by simpa using GroupBody.group hinner hbody
            simpa [ClosingFrom] using hprepend
      · by_cases hquote : c = '"'
        · subst hquote
          obtain ⟨body, tail, hbody, htail, rfl⟩ : ClosingFrom depth .quoted t := by
            simpa [Quoting.next] using ih
          have hprepend : Closing depth ('"' :: (body ++ ['"']) ++ tail) :=
            htail.prepend fun inner hinner => by simpa using GroupBody.string hbody hinner
          simpa [ClosingFrom] using hprepend
        · have hsame : Closing depth t := by
            simpa [Quoting.next, ClosingFrom, hopening, hquote] using ih
          have hprepend : Closing depth ([c] ++ t) :=
            hsame.prepend fun body hbody => .char hopening hclosing hquote hbody
          exact hprepend
  | case5 depth quoting c r hplain ih =>
      obtain ⟨⟨t, a⟩, ht, he⟩ := Option.map_eq_some_iff.mp h
      cases he
      have ih := ih ht
      cases quoting with
      | plain => exact absurd rfl hplain
      | escaped =>
          obtain ⟨body, tail, hbody, htail, rfl⟩ := ih
          exact ⟨c, body, tail, hbody, htail, rfl⟩
      | quoted =>
          by_cases hbackslash : c = '\\'
          · subst hbackslash
            obtain ⟨d, body, tail, hbody, htail, rfl⟩ : ClosingFrom depth .escaped t := by
              simpa [Quoting.next] using ih
            exact ⟨_, tail, .escape d hbody, htail, rfl⟩
          · by_cases hquote : c = '"'
            · subst hquote
              have hplain : Closing depth t := by simpa [Quoting.next, ClosingFrom] using ih
              exact ⟨[], t, .nil, hplain, rfl⟩
            · obtain ⟨body, tail, hbody, htail, rfl⟩ : ClosingFrom depth .quoted t := by
                simpa [Quoting.next, hbackslash, hquote] using ih
              exact ⟨_, tail, .char hquote hbackslash hbody, htail, rfl⟩

theorem group_of_group {s text rest : List Char} (h : group s = some (text, rest)) : Group text := by
  unfold group at h
  split at h
  · obtain ⟨⟨t, a⟩, ht, he⟩ := Option.map_eq_some_iff.mp h
    cases he
    have hclosing : Closing 0 t := closingFrom_of_closeGroup ht
    obtain ⟨hinner⟩ := hclosing
    exact .mk hinner
  · simp at h

/-- The answer of a group reader with more text in front of what it read. -/
def prependRead (front : List Char) (read : Option (List Char × List Char)) :
    Option (List Char × List Char) :=
  read.map fun (text, after) => (front ++ text, after)

theorem closeGroup_stringBody {body : List Char} (h : StringBody body) (depth : Nat)
    (s : List Char) : closeGroup Quoting.next depth .quoted (body ++ s) =
      prependRead body (closeGroup Quoting.next depth .quoted s) := by
  induction h with
  | nil => simp [prependRead]
  | escape c hrest ih =>
      simp [closeGroup, Quoting.next, ih, prependRead, Function.comp_def]
  | char hquote hbackslash hrest ih =>
      simp [closeGroup, Quoting.next, ih, prependRead, hquote, hbackslash, Function.comp_def]

theorem closeGroup_groupBody {body : List Char} (h : GroupBody body) (depth : Nat)
    (s : List Char) : closeGroup Quoting.next depth .plain (body ++ s) =
      prependRead body (closeGroup Quoting.next depth .plain s) := by
  induction h generalizing depth s with
  | nil => simp [prependRead]
  | group hinner hrest ihinner ihrest =>
      simp [closeGroup, Quoting.next, ihinner, ihrest, prependRead, Function.comp_def]
  | string hbody hrest ih =>
      simp [closeGroup, Quoting.next, closeGroup_stringBody hbody, ih, prependRead,
        Function.comp_def]
  | char hopening hclosing hquote hrest ih =>
      simp [closeGroup, Quoting.next, hopening, hclosing, hquote, ih, prependRead,
        Function.comp_def]

theorem group_append_of_group {text : List Char} (h : Group text) (s : List Char) :
    group (text ++ s) = some (text, s) := by
  obtain ⟨hinner⟩ := h
  simp only [List.cons_append, List.append_assoc]
  rw [group, closeGroup_groupBody hinner]
  simp [closeGroup, prependRead]

/-! ### Type tokens -/

theorem typeUnits_cons_of_isTypeChar {c : Char} {rest : List Char} (h : isTypeChar c = true) :
    typeUnits (c :: rest) = (c :: (typeUnits rest).1, (typeUnits rest).2) := by
  rw [typeUnits, if_pos h]

theorem isTypeChar_iff {c : Char} : isTypeChar c = true ↔ isGap c = false ∧ c ≠ '@' ∧ c ≠ '(' := by
  simp [isTypeChar, and_assoc]

theorem typeUnits_append_of_group {text : List Char} (h : Group text) (s : List Char) :
    typeUnits (text ++ s) = (text ++ (typeUnits s).1, (typeUnits s).2) := by
  have hread := group_append_of_group h s
  obtain ⟨hinner⟩ := h
  rw [List.cons_append] at hread ⊢
  rw [typeUnits, if_neg (by decide)]
  split
  · next text' after he =>
      rw [hread] at he
      cases he
      rfl
  · next he =>
      rw [hread] at he
      exact absurd he (by simp)

theorem typeUnits_append_of_typeUnit {unit : List Char} (h : TypeUnit unit) (s : List Char) :
    typeUnits (unit ++ s) = (unit ++ (typeUnits s).1, (typeUnits s).2) := by
  cases h with
  | group hgroup => exact typeUnits_append_of_group hgroup s
  | char hgap hat hopening =>
      exact typeUnits_cons_of_isTypeChar (isTypeChar_iff.mpr ⟨hgap, hat, hopening⟩)

/-- What ends a type token, a path and an argument list in a line: nothing, a gap, or the next
attribute. -/
def Ends (s : List Char) : Prop := ∀ c ∈ s.head?, isGap c = true ∨ c = '@'

theorem group_eq_none_of_ends {s : List Char} (stop : Ends s) : group s = none := by
  unfold group
  split
  · rcases stop '(' rfl with h | h
    · exact absurd h (by decide)
    · exact absurd h (by decide)
  · rfl

theorem typeUnits_of_ends {s : List Char} (stop : Ends s) : typeUnits s = ([], s) := by
  have hgroup := group_eq_none_of_ends stop
  cases s with
  | nil => rw [typeUnits]
  | cons c rest =>
      have hc : isTypeChar c = false := by
        rcases stop c rfl with hgap | rfl
        · simp [isTypeChar, hgap]
        · decide
      rw [typeUnits, if_neg (by simp [hc])]
      split
      · next he =>
          rw [hgroup] at he
          exact absurd he (by simp)
      · rfl

theorem exists_cons_of_typeUnit {unit : List Char} (h : TypeUnit unit) :
    ∃ c rest, unit = c :: rest ∧ isGap c = false := by
  cases h with
  | group hgroup =>
      obtain ⟨_⟩ := hgroup
      exact ⟨_, _, rfl, by decide⟩
  | char hgap _ _ => exact ⟨_, _, rfl, hgap⟩

theorem exists_cons_of_typeWord {type : List Char} (h : TypeWord type) :
    ∃ c rest, type = c :: rest ∧ isGap c = false := by
  cases h with
  | single hunit => exact exists_cons_of_typeUnit hunit
  | cons hunit _ =>
      obtain ⟨c, rest, rfl, hgap⟩ := exists_cons_of_typeUnit hunit
      exact ⟨c, _, rfl, hgap⟩

theorem typeUnits_of_typeWord {type s : List Char} (h : TypeWord type) (stop : Ends s) :
    typeUnits (type ++ s) = (type, s) := by
  induction h with
  | single hunit =>
      rw [typeUnits_append_of_typeUnit hunit, typeUnits_of_ends stop, List.append_nil]
  | cons hunit hrest ih =>
      rw [List.append_assoc, typeUnits_append_of_typeUnit hunit, ih]

theorem typeToken_of_typeWord {type s : List Char} (h : TypeWord type) (stop : Ends s) :
    typeToken (type ++ s) = some (type, s) := by
  obtain ⟨c, rest, rfl, -⟩ := exists_cons_of_typeWord h
  rw [typeToken, typeUnits_of_typeWord h stop]

/-- One more unit in front of none or more. -/
theorem typeWord_cons {unit units : List Char} (hunit : TypeUnit unit)
    (hunits : units = [] ∨ TypeWord units) : TypeWord (unit ++ units) := by
  rcases hunits with rfl | hunits
  · rw [List.append_nil]
    exact .single hunit
  · exact .cons hunit hunits

theorem typeWord_of_typeUnits (s : List Char) :
    (typeUnits s).1 = [] ∨ TypeWord (typeUnits s).1 := by
  fun_induction typeUnits s with
  | case1 => exact Or.inl rfl
  | case2 c rest hc units after he ih =>
      obtain ⟨hgap, hat, hopening⟩ := isTypeChar_iff.mp hc
      rw [he] at ih
      exact Or.inr (typeWord_cons (.char hgap hat hopening) ih)
  | case3 c rest hc text afterGroup hg units after he ih =>
      rw [he] at ih
      exact Or.inr (typeWord_cons (.group (group_of_group hg)) ih)
  | case4 => exact Or.inl rfl

theorem typeWord_of_typeToken {s type rest : List Char} (h : typeToken s = some (type, rest)) :
    TypeWord type ∧ type ++ rest = s := by
  have happend := typeUnits_append s
  have hunits := typeWord_of_typeUnits s
  unfold typeToken at h
  split at h
  · simp at h
  · next hne he =>
      cases h
      rw [he] at happend hunits
      exact ⟨hunits.resolve_left hne, happend⟩

end DataSchema.Field
