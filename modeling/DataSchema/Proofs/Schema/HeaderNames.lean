import DataSchema.Proofs.Schema.Alignment
import DataSchema.Proofs.Source.Lines

/-!
# DataSchema.Proofs.Schema.HeaderNames

**The names that header lines give.** A name is the second word of its header line, less the braces
at the word's end (`Header.parse?_eq_some_iff`). So it is not empty, holds no blank and does not end
with a brace.

An opening brace may follow the name without a blank between them, and so may the closing brace of an
empty block, since both are taken away. With any other text right after the brace there is more than
braces at the end of the word, nothing is taken away, and the brace and the text become a part of the
name (`GluesText`): the header `model User{id Int` declares `User{id`. The names of a schema have no
brace if and only if none of its header lines is written like that.
-/

namespace DataSchema

open Source (BlockKind Header Outline isBrace normalize physicalLines)
open Text (isBlank words dropRightWhile)

namespace Source

/-! ### Names in header lines -/

/-- A name without blanks and braces. -/
structure IsPlainName (name : List Char) : Prop where
  ne_nil : name ≠ []
  no_blank : ∀ c ∈ name, isBlank c = false
  no_brace : ∀ c ∈ name, isBrace c = false

theorem isPlainName_iff {name : List Char} :
    IsPlainName name ↔ name ≠ [] ∧ Text.hasBlank name = false ∧ name.any isBrace = false := by
  have hbrace : name.any isBrace = false ↔ ∀ c ∈ name, isBrace c = false := by simp
  rw [Text.hasBlank_eq_false_iff, hbrace]
  exact ⟨fun h => ⟨h.ne_nil, h.no_blank, h.no_brace⟩, fun h => ⟨h.1, h.2.1, h.2.2⟩⟩

instance (name : List Char) : Decidable (IsPlainName name) := decidable_of_iff' _ isPlainName_iff

/-- In the second word of the line a character that is no brace stands after a brace. -/
def GluesText (line : List Char) : Prop :=
  ∃ first second rest, words line = first :: second :: rest ∧
    ∃ brace other, [brace, other].Sublist second ∧ isBrace brace = true ∧ isBrace other = false

namespace BlockKind

theorem ofKeyword?_eq_some_iff {word : String} {kind : BlockKind} :
    ofKeyword? word = some kind ↔ word = kind.keyword := by
  refine ⟨fun h => ?_, fun h => h ▸ ofKeyword?_keyword kind⟩
  unfold ofKeyword? at h
  split at h
  · next hmodel => exact Option.some.inj h ▸ hmodel
  · split at h
    · next henum => exact Option.some.inj h ▸ henum
    · exact absurd h (by simp)

theorem keyword_word (kind : BlockKind) :
    kind.keyword.toList ≠ [] ∧ ∀ c ∈ kind.keyword.toList, isBlank c = false := by
  rw [← Text.hasBlank_eq_false_iff]
  cases kind <;> decide

end BlockKind

namespace Header

/-- **The name of a header** is the second word without the braces at its end. -/
theorem parse?_eq_some_iff {line : String} {header : Header} :
    parse? line = some header ↔ ∃ braces rest,
      words line.toList = header.kind.keyword.toList :: (header.name.toList ++ braces) :: rest ∧
        (∀ c ∈ braces, isBrace c = true) ∧ header.name.toList ≠ [] ∧
        ∀ c ∈ header.name.toList.getLast?, isBrace c = false := by
  constructor
  · intro h
    unfold parse? at h
    split at h
    · next keyword second rest hwords =>
      obtain ⟨kind, hkind, h⟩ := Option.bind_eq_some_iff.mp h
      dsimp only at h
      split at h
      · exact absurd h (by simp)
      · next hne =>
        obtain rfl := Option.some.inj h
        obtain ⟨braces, hbraces, hsecond⟩ := Text.exists_dropRightWhile_eq isBrace second
        rw [BlockKind.ofKeyword?_eq_some_iff, ← String.toList_inj, String.toList_ofList] at hkind
        refine ⟨braces, rest, ?_, hbraces, ?_, ?_⟩
        · rw [String.toList_ofList, ← hsecond, ← hkind, hwords]
        · rwa [String.toList_ofList]
        · rw [String.toList_ofList]
          exact Text.getLast?_dropRightWhile
    · exact absurd h (by simp)
  · rintro ⟨braces, rest, hwords, hbraces, hne, hlast⟩
    have hname := Text.dropRightWhile_append_of_stop hlast hbraces
    have hnameNe : header.name ≠ "" := by simpa using hne
    simp [parse?, hwords, hname, hnameNe]

/-- Only the words of a line matter. -/
theorem parse?_congr {line other : String} (h : words line.toList = words other.toList) :
    parse? line = parse? other := by
  rw [parse?, parse?, h]

theorem parse?_normalize_iff {line : List Char} {header : Header} :
    parse? (String.ofList (normalize line)) = some header ↔
      ¬ ['/', '/'] <:+: line ∧ parse? (String.ofList line) = some header := by
  by_cases hmark : ['/', '/'] <:+: line
  · rw [normalize_of_comment hmark]
    have hempty : parse? (String.ofList []) = none := by decide
    simp [hempty, hmark]
  · have hwords : words (String.ofList (normalize line)).toList =
        words (String.ofList line).toList := by
      rw [String.toList_ofList, String.toList_ofList, normalize_of_not_comment hmark,
        Text.words_collapse]
    rw [parse?_congr hwords, and_iff_right hmark]

theorem no_blank_name {line : String} {header : Header} (h : parse? line = some header) :
    ∀ c ∈ header.name.toList, isBlank c = false := by
  obtain ⟨braces, rest, hwords, -⟩ := parse?_eq_some_iff.mp h
  have hmem : header.name.toList ++ braces ∈ words line.toList := by
    rw [hwords]
    exact List.mem_cons_of_mem _ (List.mem_cons_self ..)
  exact fun c hc => (Text.mem_words hmem).2 c (List.mem_append_left _ hc)

/-- A name has a brace in it if and only if its line glues text to a brace. -/
theorem exists_brace_name_iff {line : String} {header : Header} (h : parse? line = some header) :
    (∃ c ∈ header.name.toList, isBrace c = true) ↔ GluesText line.toList := by
  obtain ⟨braces, rest, hwords, hbraces, hne, hlast⟩ := parse?_eq_some_iff.mp h
  constructor
  · intro ⟨brace, hmem, hbrace⟩
    obtain ⟨front, last, hname⟩ := (List.eq_nil_or_concat' header.name.toList).resolve_left hne
    rw [hname] at hmem hwords hlast
    have hother : isBrace last = false := hlast last (by simp)
    -- The name does not end with this brace, so what it ends with comes after it.
    have hfront : brace ∈ front := by
      refine (List.mem_append.mp hmem).resolve_right fun hmem => ?_
      rw [List.mem_singleton.mp hmem, hother] at hbrace
      exact Bool.noConfusion hbrace
    have hpair : [brace, last].Sublist (front ++ [last]) :=
      (List.singleton_sublist.mpr hfront).append (List.Sublist.refl [last])
    exact ⟨_, _, rest, hwords, brace, last,
      hpair.trans (List.sublist_append_left ..), hbrace, hother⟩
  · intro ⟨first, second, rest', hglued, brace, other, hsub, hbrace, hother⟩
    obtain ⟨rfl, rfl, rfl⟩ : header.kind.keyword.toList = first ∧
        header.name.toList ++ braces = second ∧ rest = rest' := by
      simpa using hwords.symm.trans hglued
    obtain ⟨inName, inBraces, hpair, hsubName, hsubBraces⟩ := List.sublist_append_iff.mp hsub
    refine ⟨brace, ?_, hbrace⟩
    cases inName with
    | cons first more =>
        obtain ⟨rfl, -⟩ := List.cons.inj hpair
        exact hsubName.subset (List.mem_cons_self ..)
    | nil =>
        -- Both would be among the braces at the end.
        rw [List.nil_append] at hpair
        have hmem : other ∈ braces := hsubBraces.subset (hpair ▸ by simp)
        rw [hbraces other hmem] at hother
        exact Bool.noConfusion hother

/-- The name of a header that is written as a keyword, blanks and a name: the name, and what stands
right after it less the braces at the end. -/
theorem parse?_written (kind : BlockKind) {blanks name rest : List Char} (hne : blanks ≠ [])
    (hblanks : ∀ c ∈ blanks, isBlank c = true) (hname : IsPlainName name) :
    parse? (String.ofList (kind.keyword.toList ++ (blanks ++ (name ++ rest)))) = some
      ⟨kind, String.ofList (name ++ dropRightWhile isBrace (rest.takeWhile (!isBlank ·)))⟩ := by
  obtain ⟨braces, hbraces, hglued⟩ :=
    Text.exists_dropRightWhile_eq isBrace (rest.takeWhile (!isBlank ·))
  refine parse?_eq_some_iff.mpr ⟨braces, words (rest.dropWhile (!isBlank ·)), ?_, hbraces, ?_, ?_⟩
  · -- The blanks end the keyword, and the second word goes on to the next blank.
    have hkeyword := Text.words_append_of_stop (s := blanks ++ (name ++ rest))
      kind.keyword_word.1 kind.keyword_word.2 (by
        rw [List.head?_append_of_ne_nil _ hne]
        exact fun c hc => hblanks c (List.mem_of_mem_head? hc))
    have hword : ∀ c ∈ name ++ rest.takeWhile (!isBlank ·), isBlank c = false := by
      intro c hc
      rcases List.mem_append.mp hc with hc | hc
      · exact hname.no_blank c hc
      · simpa using List.mem_takeWhile_imp hc
    have hsecond := Text.words_append_of_stop (s := rest.dropWhile (!isBlank ·))
      (by simp [hname.ne_nil]) hword (fun c hc => by simpa using Text.head?_dropWhile c hc)
    rw [List.append_assoc, List.takeWhile_append_dropWhile] at hsecond
    rw [String.toList_ofList, String.toList_ofList, hkeyword, Text.words_append_of_blank hblanks,
      hsecond, List.append_assoc, ← hglued]
  · simp [hname.ne_nil]
  · rw [String.toList_ofList]
    intro c hc
    by_cases hnil : dropRightWhile isBrace (rest.takeWhile (!isBlank ·)) = []
    · rw [hnil, List.append_nil] at hc
      exact hname.no_brace c (List.mem_of_getLast? hc)
    · rw [List.getLast?_append_of_ne_nil _ hnil] at hc
      exact Text.getLast?_dropRightWhile c hc

/-- Such a header declares exactly the name if and only if braces stand right after it, up to the
next blank, and nothing else. -/
theorem parse?_written_eq_iff (kind : BlockKind) {blanks name rest : List Char} (hne : blanks ≠ [])
    (hblanks : ∀ c ∈ blanks, isBlank c = true) (hname : IsPlainName name) :
    parse? (String.ofList (kind.keyword.toList ++ (blanks ++ (name ++ rest)))) =
        some ⟨kind, String.ofList name⟩ ↔
      ∀ c ∈ rest.takeWhile (!isBlank ·), isBrace c = true := by
  rw [parse?_written kind hne hblanks hname, Option.some_inj, Header.mk.injEq, String.ofList_inj,
    Text.dropRightWhile_eq_rdropWhile, ← List.rdropWhile_eq_nil_iff]
  simp

end Header

end Source

open Source (GluesText IsPlainName)

namespace Schema

/-! ### Names in schemas -/

/-- The names of the models, or those of the enumerations. -/
def names (s : Schema) : BlockKind → List String
  | .model => s.models.keys
  | .enum => s.enums.keys

theorem mem_names_compile_iff {source : String} {markers : Markers} {kind : BlockKind}
    {name : String} : name ∈ (compile source markers).names kind ↔
      ∃ line ∈ physicalLines source.toList, ¬ ['/', '/'] <:+: line ∧
        Header.parse? (String.ofList line) = some ⟨kind, name⟩ := by
  have hkeys : (compile source markers).names kind = distinct
      (Declarations.named kind ((Outline.ofText source).lines.filterMap Header.parse?)) := by
    cases kind with
    | model => exact keys_models_ofOutline _ markers
    | enum => exact keys_enums_ofOutline _ markers
  have hlines : (Outline.ofText source).lines =
      (physicalLines source.toList).map fun line => String.ofList (normalize line) := rfl
  rw [hkeys, (Outline.declares_distinct _ kind).mem_iff, hlines]
  simp only [List.mem_map, exists_exists_and_eq_and, Header.parse?_normalize_iff]

/-- **The names of a schema** are those of its header lines. None is empty, has a blank or ends with
a brace, and a brace is in one exactly if a header line of the name glues text to a brace. A header
of a keyword, blanks and a name declares the name exactly if nothing but braces stands between the
name and the next blank. -/
theorem names_compile (source : String) (markers : Markers) (kind : BlockKind) :
    (∀ name, name ∈ (compile source markers).names kind ↔
      ∃ line ∈ physicalLines source.toList, ¬ ['/', '/'] <:+: line ∧
        Header.parse? (String.ofList line) = some ⟨kind, name⟩) ∧
    (∀ name ∈ (compile source markers).names kind,
      name ≠ "" ∧ (∀ c ∈ name.toList, isBlank c = false) ∧
        (∀ c ∈ name.toList.getLast?, isBrace c = false) ∧
        ((∃ c ∈ name.toList, isBrace c = true) ↔
          ∃ line ∈ physicalLines source.toList, ¬ ['/', '/'] <:+: line ∧
            Header.parse? (String.ofList line) = some ⟨kind, name⟩ ∧ GluesText line)) ∧
    ∀ blanks name rest, blanks ≠ [] → (∀ c ∈ blanks, isBlank c = true) → IsPlainName name →
      (Header.parse? (String.ofList (kind.keyword.toList ++ (blanks ++ (name ++ rest)))) =
          some ⟨kind, String.ofList name⟩ ↔
        ∀ c ∈ rest.takeWhile (!isBlank ·), isBrace c = true) := by
  refine ⟨fun name => mem_names_compile_iff, fun name hname => ?_,
    fun blanks name rest => Header.parse?_written_eq_iff kind⟩
  obtain ⟨line, hline, hmark, hparse⟩ := mem_names_compile_iff.mp hname
  obtain ⟨braces, rest, -, -, hne, hlast⟩ := Header.parse?_eq_some_iff.mp hparse
  refine ⟨by simpa using hne, Header.no_blank_name hparse, hlast, fun hbrace => ?_, ?_⟩
  · have hglues := (Header.exists_brace_name_iff hparse).mp hbrace
    rw [String.toList_ofList] at hglues
    exact ⟨line, hline, hmark, hparse, hglues⟩
  · rintro ⟨glued, -, -, hglued, hglues⟩
    refine (Header.exists_brace_name_iff hglued).mpr ?_
    rwa [String.toList_ofList]

/-- Braces after a name that are taken away, with the header line and the name in the schema. -/
theorem names_compile_user :
    let source := "model User\x7b\n id Int\n\x7d\n"
    let line := BlockKind.model.keyword.toList ++ ([' '] ++ ("User".toList ++ ['\x7b']))
    line ∈ physicalLines source.toList ∧
      Header.parse? (String.ofList line) = some ⟨.model, "User"⟩ ∧
      "User" ∈ (compile source).names .model ∧
      ∀ c ∈ "User".toList, isBlank c = false := by
  intro source line
  have hplain : IsPlainName "User".toList := by decide
  have hline : line ∈ physicalLines source.toList := by decide +kernel
  have hmark : ¬ ['/', '/'] <:+: line := by decide
  have hparse := ((names_compile source {} .model).2.2 [' '] "User".toList ['\x7b']
    (by decide) (List.all_eq_true.mp (by decide)) hplain).mpr (List.all_eq_true.mp (by decide))
  rw [String.ofList_toList] at hparse
  have hmem := ((names_compile source {} .model).1 "User").mpr ⟨line, hline, hmark, hparse⟩
  exact ⟨hline, hparse, hmem, ((names_compile source {} .model).2.1 "User" hmem).2.1⟩

/-- A field on the line of its header, right after the brace, is taken into the name. -/
theorem exists_brace_in_names :
    let rest := "\x7bid Int".toList
    rest.head? = some '\x7b' ∧ IsPlainName "User".toList ∧
      Header.parse? (String.ofList
        (BlockKind.model.keyword.toList ++ ([' '] ++ ("User".toList ++ rest)))) =
          some ⟨.model, "User\x7bid"⟩ ∧
      (compile "model User\x7bid Int\n").names .model = ["User\x7bid"] :=
  ⟨by decide, by decide, by decide +kernel, by decide +kernel⟩

end Schema

end DataSchema
