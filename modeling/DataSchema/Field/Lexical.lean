import DataSchema.Text.Quoting

/-!
# DataSchema.Field.Lexical

**The tokens of a field line**: names, groups in parentheses, type tokens, attribute paths.

Every reader here takes the characters that are left and answers with the token it read and the
characters after it, or with nothing. Two facts hold of each and are stated beside it: token and
rest together are the input, and the rest is shorter. The second is what lets the readers of
repeated things recurse.

A type token takes everything up to the next gap or `@`. Groups are the exception: a group in
parentheses is read as a whole, with its gaps, its inner groups and its strings, so that
`Unsupported("a point")` is one token.
-/

namespace DataSchema.Field

open Text (Quoting)

/-! ### Characters -/

/-- The blanks that separate tokens in a line: space and tab. -/
def isGap (c : Char) : Bool := c == ' ' || c == '\t'

/-- A character that can start a name: an ASCII letter or an underscore. -/
def isNameStart (c : Char) : Bool := c.isAlpha || c == '_'

/-- A character that can go on with a name: an ASCII letter, an ASCII digit or an underscore. -/
def isNameChar (c : Char) : Bool := c.isAlphanum || c == '_'

/-- A character that stands for itself in a type token. -/
def isTypeChar (c : Char) : Bool := !(isGap c || c == '@' || c == '(')

/-! ### Names -/

/-- The longest name at the front. -/
def identifier : List Char → Option (List Char × List Char)
  | c :: rest =>
    if isNameStart c then some (c :: rest.takeWhile isNameChar, rest.dropWhile isNameChar) else none
  | [] => none

theorem identifier_append {s name rest : List Char} (h : identifier s = some (name, rest)) :
    name ++ rest = s := by
  cases s with
  | nil => simp [identifier] at h
  | cons c r =>
    simp only [identifier, Option.ite_none_right_eq_some, Option.some.injEq, Prod.mk.injEq] at h
    obtain ⟨-, rfl, rfl⟩ := h
    simp

/-- The rest of a dotted path whose first character is read: name characters, and each dot that the
start of a name follows. -/
def pathTail : List Char → List Char × List Char
  | [] => ([], [])
  | c :: rest =>
    if isNameChar c || (c == '.' && rest.head?.any isNameStart) then
      let (tail, after) := pathTail rest
      (c :: tail, after)
    else ([], c :: rest)

theorem pathTail_append (s : List Char) : (pathTail s).1 ++ (pathTail s).2 = s := by
  induction s with
  | nil => rfl
  | cons c rest ih =>
    rw [pathTail]
    split
    · simp [ih]
    · rfl

/-- The longest path at the front: names with single dots between them. -/
def attributePath : List Char → Option (List Char × List Char)
  | c :: rest =>
    if isNameStart c then some (c :: (pathTail rest).1, (pathTail rest).2) else none
  | [] => none

theorem attributePath_append {s path rest : List Char} (h : attributePath s = some (path, rest)) :
    path ++ rest = s := by
  cases s with
  | nil => simp [attributePath] at h
  | cons c r =>
    simp only [attributePath, Option.ite_none_right_eq_some, Option.some.injEq, Prod.mk.injEq] at h
    obtain ⟨-, rfl, rfl⟩ := h
    simp [pathTail_append]

/-! ### Groups

A group is read with a counter of open parentheses and a `Quoting` state. The transition of the
state is a parameter, because the two ways to read a group differ only in what they let stand
between a backslash and the character it takes. -/

/-- The text up to and with the parenthesis that closes `depth + 1` open ones. -/
def closeGroup (step : Quoting → Char → Quoting) :
    Nat → Quoting → List Char → Option (List Char × List Char)
  | _, _, [] => none
  | depth, .plain, c :: rest =>
    if c = ')' then
      match depth with
      | 0 => some ([c], rest)
      | outer + 1 => (closeGroup step outer .plain rest).map (fun (s, after) => (c :: s, after))
    else
      (closeGroup step (if c = '(' then depth + 1 else depth) (step .plain c) rest).map
        (fun (s, after) => (c :: s, after))
  | depth, quoting, c :: rest =>
    (closeGroup step depth (step quoting c) rest).map (fun (s, after) => (c :: s, after))

theorem closeGroup_append {step : Quoting → Char → Quoting} {depth : Nat} {quoting : Quoting}
    {s text rest : List Char} (h : closeGroup step depth quoting s = some (text, rest)) :
    text ++ rest = s ∧ rest.length < s.length := by
  fun_induction closeGroup step depth quoting s generalizing text rest with
  | case1 => simp at h
  | case2 =>
    simp only [Option.some.injEq, Prod.mk.injEq] at h
    obtain ⟨rfl, rfl⟩ := h
    simp
  | case3 r outer ih =>
    obtain ⟨⟨t, a⟩, ht, he⟩ := Option.map_eq_some_iff.1 h
    cases he
    obtain ⟨rfl, hl⟩ := ih ht
    exact ⟨rfl, Nat.lt_succ_of_lt hl⟩
  | case4 depth c r _ ih =>
    obtain ⟨⟨t, a⟩, ht, he⟩ := Option.map_eq_some_iff.1 h
    cases he
    obtain ⟨rfl, hl⟩ := ih ht
    exact ⟨rfl, Nat.lt_succ_of_lt hl⟩
  | case5 depth quoting c r _ ih =>
    obtain ⟨⟨t, a⟩, ht, he⟩ := Option.map_eq_some_iff.1 h
    cases he
    obtain ⟨rfl, hl⟩ := ih ht
    exact ⟨rfl, Nat.lt_succ_of_lt hl⟩

/-- The group at the front, with its parentheses. -/
def group : List Char → Option (List Char × List Char)
  | '(' :: rest =>
    (closeGroup Quoting.next 0 .plain rest).map (fun (s, after) => ('(' :: s, after))
  | _ => none

theorem group_append {s text rest : List Char} (h : group s = some (text, rest)) :
    text ++ rest = s ∧ rest.length < s.length := by
  unfold group at h
  split at h
  · obtain ⟨⟨t, a⟩, ht, he⟩ := Option.map_eq_some_iff.1 h
    cases he
    obtain ⟨rfl, hl⟩ := closeGroup_append ht
    exact ⟨rfl, Nat.lt_succ_of_lt hl⟩
  · simp at h

/-! ### Type tokens -/

/-- The longest run of type characters and groups at the front, possibly empty. It ends before a
parenthesis that no group starts at. -/
def typeUnits (s : List Char) : List Char × List Char :=
  match s with
  | [] => ([], [])
  | c :: rest =>
    if isTypeChar c then
      let (units, after) := typeUnits rest
      (c :: units, after)
    else
      match _hg : group (c :: rest) with
      | some (text, afterGroup) =>
        let (units, after) := typeUnits afterGroup
        (text ++ units, after)
      | none => ([], c :: rest)
termination_by s.length
decreasing_by
  · exact Nat.lt_succ_self _
  · exact (group_append _hg).2

theorem typeUnits_append (s : List Char) : (typeUnits s).1 ++ (typeUnits s).2 = s := by
  fun_induction typeUnits s with
  | case1 => rfl
  | case2 c rest _ units after _ ih => simp_all
  | case3 c rest _ text afterGroup hg units after _ ih =>
    rw [← (group_append hg).1]
    simp_all
  | case4 => rfl

/-- The type token at the front. -/
def typeToken (s : List Char) : Option (List Char × List Char) :=
  match typeUnits s with
  | ([], _) => none
  | (token, rest) => some (token, rest)

end DataSchema.Field
