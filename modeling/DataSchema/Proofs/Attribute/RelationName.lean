import DataSchema.Proofs.Attribute.ArgumentList
import DataSchema.Proofs.Field.Writing

/-!
# DataSchema.Proofs.Attribute.RelationName

**The name of a relation is found wherever it stands.** The arguments of `@relation` say the name
in one of two ways: the first argument is a string, or some argument is `name: "…"`. Since the cut
finds the arguments as they were written, nothing in them can hide the name or be taken for one, and
the field on the line has the name as its label (`relationLabel_of_names`).
-/

namespace DataSchema.Attribute

open DataSchema.Field
open DataSchema.Field.Grammar
open Text (Trimmed)

/-! ### Names -/

/-- The argument that names a relation. -/
def namedArgument (s : List Char) : List Char := "name: ".toList ++ quoted s

/-- The argument has the key `name`. -/
def HasNameKey (a : List Char) : Prop :=
  ∃ key value, a = key ++ ':' :: value ∧ ':' ∉ key ∧ Text.trim key = "name".toList

/-- The arguments name a relation. -/
inductive Names (s : List Char) : List (List Char) → Prop
  /-- The first argument is a string. -/
  | first (rest : List (List Char)) : Names s (quoted s :: rest)
  /-- The first argument does not start with a string, and an argument `name: "…"` is the first one
  with this key. -/
  | named (before : List (List Char)) {after : List (List Char)}
      (start : ∀ a ∈ (before ++ namedArgument s :: after).head?, a.head? ≠ some '"')
      (key : ∀ a ∈ before, ¬ HasNameKey a) : Names s (before ++ namedArgument s :: after)

theorem Names.ne_nil {s : List Char} {args : List (List Char)} (h : Names s args) : args ≠ [] := by
  cases h <;> simp

/-! ### Finding the name -/

/-- The text between the quotes of a string. -/
theorem unquote?_of_trim {text s : List Char} (h : Text.trim text = quoted s) :
    unquote? text = some s := by
  rw [unquote?, h]
  simp [quoted]

theorem unquote?_eq_none {text : List Char} (h : (Text.trim text).head? ≠ some '"') :
    unquote? text = none := by
  unfold unquote?
  split
  · next rest htrim =>
      rw [htrim] at h
      exact absurd rfl h
  · rfl

theorem takeWhile_key {key value : List Char} (h : ':' ∉ key) :
    (key ++ ':' :: value).takeWhile (· ≠ ':') = key := by
  refine Text.takeWhile_append_of_stop (fun c hc => ?_) (by simp)
  simpa using ne_of_mem_of_not_mem hc h

/-- The key is what stands before the first colon. -/
theorem hasNameKey_iff {a : List Char} :
    HasNameKey a ↔ ':' ∈ a ∧ Text.trim (a.takeWhile (· ≠ ':')) = "name".toList := by
  constructor
  · rintro ⟨key, value, rfl, hcolon, hname⟩
    rw [takeWhile_key hcolon]
    exact ⟨by simp, hname⟩
  · intro ⟨hcolon, hname⟩
    obtain ⟨key, value, rfl, hkey⟩ := List.eq_append_cons_of_mem hcolon
    rw [takeWhile_key hkey] at hname
    exact ⟨key, value, rfl, hkey, hname⟩

instance (a : List Char) : Decidable (HasNameKey a) := decidable_of_iff' _ hasNameKey_iff

/-- An argument without the key `name` gives no name. -/
theorem namedValue?_eq_none {a : List Char} (h : ¬ HasNameKey a) : namedValue? a = none := by
  unfold namedValue?
  split
  · next value hvalue =>
      have hcolon : ':' ∈ a := by
        have hrest : ':' ∈ a.dropWhile (· ≠ ':') := hvalue ▸ List.mem_cons_self ..
        exact (List.dropWhile_sublist _).mem hrest
      exact if_neg fun hkey => h (hasNameKey_iff.mpr ⟨hcolon, hkey⟩)
  · rfl

theorem namedValue?_namedArgument (s : List Char) : namedValue? (namedArgument s) = some s := by
  have htext : namedArgument s = "name".toList ++ ':' :: ' ' :: quoted s := rfl
  have hvalue : (namedArgument s).dropWhile (· ≠ ':') = ':' :: ' ' :: quoted s := by
    rw [htext]
    exact Text.dropWhile_append_of_stop (by simp) (by simp)
  have hkey : Text.trim ((namedArgument s).takeWhile (· ≠ ':')) = "name".toList := by
    rw [htext, takeWhile_key (by decide)]
    decide
  rw [namedValue?, hvalue]
  exact (if_pos hkey).trans (unquote?_of_trim ((trimmed_quoted s).trim_cons (by decide)))

/-- The name is found among the arguments. -/
theorem nameArgument?_join {args : List (List Char)} {s : List Char}
    (hargs : ∀ a ∈ args, IsArgument a) (hnames : Names s args) :
    nameArgument? (join args) = some s := by
  rw [nameArgument?, splitArguments_join hnames.ne_nil hargs]
  cases hnames with
  | first rest =>
      have hfirst : unquote? (quoted s) = some s := unquote?_of_trim (trimmed_quoted s).trim_eq
      simp [hfirst]
  | @named before after hstart hkey =>
      have hfirst : (before ++ namedArgument s :: after).head?.bind unquote? = none := by
        refine Option.bind_eq_none_iff.mpr fun a ha => unquote?_eq_none ?_
        rw [(hargs a (List.mem_of_mem_head? ha)).trimmed.trim_eq]
        exact hstart a ha
      have hbefore : before.findSome? namedValue? = none :=
        List.findSome?_eq_none_iff.mpr fun a ha => namedValue?_eq_none (hkey a ha)
      rw [hfirst, List.findSome?_append, hbefore, List.findSome?_cons, namedValue?_namedArgument]
      rfl

/-! ### Relations -/

/-- A field line with a relation and nothing else. -/
def relationLine (name type : List Char) (args : List (List Char)) : String :=
  String.ofList name ++ " " ++ String.ofList type ++ " @relation(" ++ String.ofList (join args) ++
    ")"

/-- The relation as an attribute of the grammar. -/
def relationSyntax (args : List (List Char)) : AttributeSyntax where
  path := "relation".toList
  args := some ('(' :: (join args ++ [')']))

section Relation

variable {args : List (List Char)} (hne : args ≠ []) (hargs : ∀ a ∈ args, IsArgument a)

include hne hargs

theorem relationSyntax_wellFormed : (relationSyntax args).WellFormed [] where
  path := by
    have hname : Name "relation".toList := name_of_chars (by decide) (by decide)
    exact .single hname
  args := by
    intro group hgroup
    obtain rfl := Option.some.inj hgroup
    exact .mk (groupBody_join hne hargs)
  gap := by simp

theorem toAttribute_relationSyntax :
    (relationSyntax args).toAttribute = ⟨"relation", some (String.ofList (join args))⟩ := by
  have hread : (relationSyntax args).toAttribute = ⟨String.ofList "relation".toList,
      some (String.ofList (Text.trim ('(' :: (join args ++ [')'])).tail.dropLast))⟩ := rfl
  rw [hread, List.tail_cons, List.dropLast_concat, (trimmed_join hne hargs).trim_eq,
    String.ofList_toList]

end Relation

theorem relationLine_eq (name type : List Char) (args : List (List Char)) :
    relationLine name type args = String.ofList
      (name ++ ' ' :: (type ++ [relationSyntax args].flatMap fun a => ' ' :: a.text)) := by
  have htext : (relationSyntax args).text =
      '@' :: ("relation".toList ++ '(' :: (join args ++ [')'])) := rfl
  refine String.toList_injective ?_
  rw [String.toList_ofList, List.flatMap_singleton, htext]
  simp [relationLine]

/-- **The name of a relation is found wherever it stands**: as a string that comes first, or after
any other arguments as `name: "…"`. What is in the brackets and strings of the arguments, quotes,
commas and colons included, does not matter. -/
theorem relationLabel_of_names {name type s : List Char} {args : List (List Char)}
    (hname : Name name) (htype : TypeWord type) (hargs : ∀ a ∈ args, IsArgument a)
    (hnames : Names s args) :
    ∃ a : Attribute,
      Declaration.parse? (relationLine name type args) =
        some ⟨String.ofList name, String.ofList type, [a]⟩ ∧
      a.path = "relation" ∧ a.nameArg? = some (String.ofList s) ∧
      ∀ n scope, (Declaration.toProperty ⟨String.ofList name, String.ofList type, [a]⟩ n
        scope).relationLabel = some (String.ofList s) := by
  have hwellFormed : ∀ a ∈ [relationSyntax args], a.WellFormed [] := by
    intro a ha
    rw [List.mem_singleton.mp ha]
    exact relationSyntax_wellFormed hnames.ne_nil hargs
  have hread := Declaration.parse?_written hname htype hwellFormed fun h => absurd h (by simp)
  rw [← relationLine_eq, List.map_singleton,
    toAttribute_relationSyntax hnames.ne_nil hargs] at hread
  have hnameArg : nameArg? ⟨"relation", some (String.ofList (join args))⟩ =
      some (String.ofList s) := by
    simp [nameArg?, nameArgument?_join hargs hnames]
  refine ⟨_, hread, rfl, hnameArg, fun n scope => ?_⟩
  have hlabel : relationLabel? [⟨"relation", some (String.ofList (join args))⟩] =
      some (String.ofList s) := by
    rw [relationLabel?, List.findSome?_singleton, if_pos rfl, hnameArg]
  exact hlabel

theorem isArgument_namedArgument {s : List Char} (h : StringBody s) :
    IsArgument (namedArgument s) where
  ne_nil := List.cons_ne_nil _ _
  trimmed := by
    have hkey : Trimmed "name:".toList := by decide
    have htext : Trimmed ("name:".toList ++ [' '] ++ quoted s) :=
      hkey.append (by decide) (trimmed_quoted s) (List.cons_ne_nil _ _)
    exact htext
  nested := (nested_of_chars (by decide)).append (nested_quoted h)

/-- An argument `map: f(…)` with brackets and commas in a string and in braces. -/
def callArgument : List Char :=
  "map: f".toList ++ '(' :: (quoted "),[".toList ++ '\x7b' :: ("b, c".toList ++ ['\x7d']) ++ [')'])

theorem isArgument_callArgument : IsArgument callArgument where
  ne_nil := by decide
  trimmed := by decide
  nested := by
    have hstring : StringBody "),[".toList := stringBody_of_chars (by decide)
    have hbraces : Nested true ('\x7b' :: ("b, c".toList ++ ['\x7d'])) :=
      .bracket .curly (nested_of_chars (by decide)) .nil
    exact (nested_of_chars (by decide)).append
      (.bracket .round ((nested_quoted hstring).append hbraces) .nil)

/-- A call comes first, the name has an escaped quote and a comma, and a second name does not
count. -/
theorem relationLabel_of_names_second :
    let line :=
      "author User? @relation(map: f(\"),[\"\x7bb, c\x7d), name: \"\\\", Q\", name: \"no\")"
    ∃ a : Attribute, Declaration.parse? line = some ⟨"author", "User?", [a]⟩ ∧
      a.nameArg? = some "\\\", Q" ∧ ∀ n scope,
        (Declaration.toProperty ⟨"author", "User?", [a]⟩ n scope).relationLabel =
          some "\\\", Q" := by
  intro line
  let s : List Char := ['\\', '"', ',', ' ', 'Q']
  have hs : StringBody s := .escape '"' (stringBody_of_chars (by decide))
  have hno : StringBody "no".toList := stringBody_of_chars (by decide)
  let args : List (List Char) := [callArgument, namedArgument s, namedArgument "no".toList]
  have hargs : ∀ a ∈ args, IsArgument a := by
    simp only [args, List.forall_mem_cons]
    exact ⟨isArgument_callArgument, isArgument_namedArgument hs, isArgument_namedArgument hno,
      by simp⟩
  have hnames : Names s args := .named [callArgument] (by decide) (by decide)
  have hname : Name "author".toList := name_of_chars (by decide) (by decide)
  have htype : TypeWord "User?".toList := typeWord_of_chars (by decide) (List.all_eq_true.mp (by decide))
  have hline : relationLine "author".toList "User?".toList args = line := by decide +kernel
  obtain ⟨a, hread, -, hnameArg, hlabel⟩ := relationLabel_of_names hname htype hargs hnames
  rw [hline] at hread
  exact ⟨a, hread, hnameArg, hlabel⟩

end DataSchema.Attribute
