import Mathlib.Data.List.Infix
import DataSchema.Proofs.Field.Writing
import DataSchema.Proofs.Schema.References
import DataSchema.Proofs.Source.Lines

/-!
# DataSchema.Proofs.Schema.Lines

**Every property and every value stands on a line of its own.** A line of a model's block is written
as a field or it is not, which the line alone decides: it holds no comment mark, and its words are a
declaration (`IsFieldLine`). The properties of the model are what the field lines of its block
declare, one for each line and in the order of the lines; so nothing that is written is lost, and
nothing is there that is not written. The values of an enumeration are found in the same way, as the
first words of its lines.
-/

namespace DataSchema

open DataSchema.Field (Declaration)
open DataSchema.Field.Grammar (Name)
open Source (Block LineRange Outline numberedIn physicalLines normalize)
open Text (firstWord)

/-! ### Fields and values on a line -/

namespace Source

/-- The line is written as a field: it holds no comment mark, and its words are a declaration. -/
def IsFieldLine (line : List Char) : Prop :=
  ¬ ['/', '/'] <:+: line ∧ (Declaration.parse? (String.ofList (Text.collapse line))).isSome = true

instance (line : List Char) : Decidable (IsFieldLine line) :=
  inferInstanceAs (Decidable (¬ ['/', '/'] <:+: line ∧
    (Declaration.parse? (String.ofList (Text.collapse line))).isSome = true))

/-- The lines of a range that are written as fields, each with its number. -/
def fieldLines (source : String) (range : LineRange) : List (Nat × List Char) :=
  (numberedIn (physicalLines source.toList) range).filter fun entry => IsFieldLine entry.2

/-- The value on a line: its first word, if the line holds no comment mark and the word does not
start with `@`. -/
def valueOn? (line : List Char) : Option String :=
  if ['/', '/'] <:+: line ∨ firstWord line = [] ∨ (firstWord line).head? = some '@' then none
  else some (String.ofList (firstWord line))

/-- The values on the lines of a range, each with the number of its line. -/
def valueLines (source : String) (range : LineRange) : List (Nat × String) :=
  (numberedIn (physicalLines source.toList) range).filterMap fun entry =>
    (valueOn? entry.2).map fun value => (entry.1, value)

/-- The name stands at the front of the line, after its blanks, and could not be longer there. -/
def StartsWithName (line name : List Char) : Prop :=
  ∃ lead rest, line = lead ++ name ++ rest ∧ (∀ c ∈ lead, Text.isBlank c = true) ∧ Name name ∧
    ∀ c ∈ rest.head?, Field.isNameChar c = false

/-- The first word of a line of an outline, unless it starts with `@`. -/
def wordOn? (line : String) : Option String :=
  (Text.words line.toList).head?.bind fun word =>
    if word.head? = some '@' then none else some (String.ofList word)

theorem Outline.firstWords_eq (o : Outline) (range : LineRange) :
    o.firstWords range = (o.bodyLines range).filterMap fun entry => wordOn? entry.2 := by
  refine List.filterMap_congr fun entry _ => ?_
  rw [wordOn?]
  dsimp only
  cases (Text.words entry.2.toList).head? <;> rfl

theorem wordOn?_normalize (line : List Char) :
    wordOn? (String.ofList (normalize line)) = valueOn? line := by
  rw [wordOn?, valueOn?, String.toList_ofList]
  by_cases hcomment : ['/', '/'] <:+: line
  · rw [normalize_of_comment hcomment, if_pos (Or.inl hcomment)]
    rfl
  · rw [normalize_of_not_comment hcomment, Text.words_collapse, Text.head?_words]
    by_cases hblank : firstWord line = []
    · simp [hblank]
    · by_cases hat : (firstWord line).head? = some '@'
      · simp [hblank, hat]
      · simp [hcomment, hblank, hat]

end Source

open Source (IsFieldLine StartsWithName fieldLines valueLines valueOn? wordOn?
  wordOn?_normalize)

theorem Field.Declaration.parse?_empty : Declaration.parse? "" = none := by decide

/-- What is read off the normal form of a line. -/
theorem Field.Declaration.parse?_normalize_iff {line : List Char} {d : Declaration} :
    Declaration.parse? (String.ofList (normalize line)) = some d ↔
      ¬ ['/', '/'] <:+: line ∧
        Declaration.parse? (String.ofList (Text.collapse line)) = some d := by
  by_cases hcomment : ['/', '/'] <:+: line
  · rw [Source.normalize_of_comment hcomment]
    refine iff_of_false ?_ fun h => h.1 hcomment
    exact fun h => absurd (parse?_empty.symm.trans h) (by simp)
  · rw [Source.normalize_of_not_comment hcomment]
    exact (and_iff_right hcomment).symm

theorem Source.isFieldLine_iff {line : List Char} :
    IsFieldLine line ↔ (Declaration.parse? (String.ofList (normalize line))).isSome = true := by
  rw [IsFieldLine, Option.isSome_iff_exists, Option.isSome_iff_exists]
  simp only [Declaration.parse?_normalize_iff]
  exact exists_and_left.symm

/-- The name of a field is what the field's text starts with. -/
theorem Field.FieldSyntax.Decomposes.takeWhile_isNameChar {f : FieldSyntax} {text : List Char}
    (h : f.Decomposes text) : text.takeWhile isNameChar = f.name := by
  have hprefix : f.name <+: text := by
    rw [← h.eq, FieldSyntax.text, h.lead]
    simp only [List.nil_append, List.append_assoc]
    exact List.prefix_append ..
  obtain ⟨rest, rfl⟩ := hprefix
  exact Text.takeWhile_append_of_stop (isNameChar_of_mem_name h.name)
    (stop_of_longest h.name h.longest)

/-- A declared name is the name at the front of the line that declares it. -/
theorem Field.Declaration.startsWithName_of_parse? {line : List Char} {d : Declaration}
    (h : Declaration.parse? (String.ofList (Text.collapse line)) = some d) :
    StartsWithName line d.name.toList := by
  obtain ⟨f, hf, rfl⟩ := exists_decomposes_of_parse? h
  rw [String.toList_ofList] at hf
  have hblank : ∀ c, Text.isBlank c = true → isNameChar c = false := by
    intro c hc
    by_contra hname
    rw [isBlank_of_isNameChar (by simpa using hname)] at hc
    exact Bool.noConfusion hc
  -- Neither collapsing the blanks nor trimming changes the run of name characters at the front.
  have hname : (line.dropWhile Text.isBlank).takeWhile isNameChar = f.name := by
    calc (line.dropWhile Text.isBlank).takeWhile isNameChar
      _ = (Text.collapse line).takeWhile isNameChar := (Text.takeWhile_collapse hblank _).symm
      _ = (Text.collapse (Text.collapse line)).takeWhile isNameChar := by
          rw [Text.collapse_collapse]
      _ = ((Text.collapse line).dropWhile Text.isBlank).takeWhile isNameChar :=
          Text.takeWhile_collapse hblank _
      _ = (Text.trim (Text.collapse line)).takeWhile isNameChar :=
          (Text.takeWhile_trim hblank _).symm
      _ = f.name := hf.takeWhile_isNameChar
  have hdeclared : (FieldSyntax.toDeclaration f).name.toList = f.name := String.toList_ofList
  refine ⟨line.takeWhile Text.isBlank, (line.dropWhile Text.isBlank).dropWhile isNameChar, ?_,
    fun _ => List.mem_takeWhile_imp, ?_, Text.head?_dropWhile⟩
  · rw [hdeclared, ← hname, List.append_assoc, List.takeWhile_append_dropWhile,
      List.takeWhile_append_dropWhile]
  · rw [hdeclared]
    exact hf.name

/-! ### Properties -/

/-- The property is declared by the line with the number, under the name at the line's front. -/
structure Property.StandsOn (p : Property) (scope : Scope) (i : Nat) (line : List Char) : Prop where
  number : p.line = i
  key : StartsWithName line p.key.toList
  declared : ∃ d, Declaration.parse? (String.ofList (Text.collapse line)) = some d ∧
    p = d.toProperty i scope

theorem Field.Declaration.standsOn_toProperty {line : List Char} {d : Declaration}
    (h : Declaration.parse? (String.ofList (normalize line)) = some d) (i : Nat) (scope : Scope) :
    (d.toProperty i scope).StandsOn scope i line where
  number := rfl
  key := startsWithName_of_parse? (parse?_normalize_iff.mp h).2
  declared := ⟨d, (parse?_normalize_iff.mp h).2, rfl⟩

/-- What a partial function makes of a list stands beside the members it is defined on. -/
theorem forall₂_filterMap_filter {α β : Type} {f : α → Option β} {p : α → Prop} [DecidablePred p]
    {R : β → α → Prop} (hdefined : ∀ a, p a ↔ (f a).isSome = true)
    (h : ∀ a b, f a = some b → R b a) (s : List α) :
    List.Forall₂ R (s.filterMap f) (s.filter p) := by
  induction s with
  | nil => exact .nil
  | cons a rest ih =>
      cases hf : f a with
      | none =>
          have hp : ¬ p a := by simp [hdefined, hf]
          rwa [List.filterMap_cons_none hf, List.filter_cons_of_neg (by simpa using hp)]
      | some b =>
          have hp : p a := by simp [hdefined, hf]
          rw [List.filterMap_cons_some hf, List.filter_cons_of_pos (by simpa using hp)]
          exact .cons (h a b hf) ih

section Range

variable (source : String) (range : LineRange)

theorem propertiesIn_ofText (scope : Scope) :
    propertiesIn (.ofText source) range scope =
      (numberedIn (physicalLines source.toList) range).filterMap fun entry =>
        (Declaration.parse? (String.ofList (normalize entry.2))).map
          (·.toProperty entry.1 scope) := by
  refine Outline.filterMap_bodyLines_ofText
    (fun i line => (Declaration.parse? line).map (·.toProperty i scope)) ?_ source range
  intro i
  rw [Declaration.parse?_empty, Option.map_none]

/-- The properties of a range stand on its field lines, one on each. -/
theorem standsOn_propertiesIn (scope : Scope) :
    List.Forall₂ (fun p entry => p.StandsOn scope entry.1 entry.2)
      (propertiesIn (.ofText source) range scope) (fieldLines source range) := by
  rw [propertiesIn_ofText]
  refine forall₂_filterMap_filter (fun entry => ?_) (fun entry p hp => ?_) _
  · rw [Source.isFieldLine_iff, Option.isSome_map]
  · obtain ⟨d, hparse, rfl⟩ := Option.map_eq_some_iff.mp hp
    exact d.standsOn_toProperty hparse entry.1 scope

theorem pairwise_line_propertiesIn (o : Outline) (scope : Scope) :
    ((propertiesIn o range scope).map (·.line)).Pairwise (· < ·) := by
  rw [List.pairwise_map]
  refine (o.pairwise_bodyLines range).filterMap _ fun x y hxy p hp q hq => ?_
  obtain ⟨d, -, rfl⟩ := Option.map_eq_some_iff.mp hp
  obtain ⟨d', -, rfl⟩ := Option.map_eq_some_iff.mp hq
  exact hxy

theorem line_mem_of_mem_propertiesIn {o : Outline} {scope : Scope} {p : Property}
    (h : p ∈ propertiesIn o range scope) : p.line ∈ range := by
  obtain ⟨_, _, hrange, -⟩ := mem_propertiesIn.mp h
  exact hrange

/-! ### Values -/

/-- The values of a range stand on its lines. -/
theorem firstWords_ofText :
    (Outline.ofText source).firstWords range = (valueLines source range).map Prod.snd := by
  rw [Outline.firstWords_eq, Outline.filterMap_bodyLines_ofText (fun _ => wordOn?) (fun _ => rfl),
    valueLines, List.map_filterMap]
  refine List.filterMap_congr fun entry _ => ?_
  rw [wordOn?_normalize, Option.map_map]
  exact Option.map_id'.symm

end Range

/-! ### Compiled schemas -/

/-- The model has one property for each field line of the range, in the order of the lines. -/
structure Model.WrittenIn (m : Model) (source : String) (scope : Scope) (range : LineRange) :
    Prop where
  body : m.body = range
  fields : List.Forall₂ (fun p entry => p.StandsOn scope entry.1 entry.2) m.properties
    (fieldLines source range)
  increasing : (m.properties.map (·.line)).Pairwise (· < ·)
  inBody : ∀ p ∈ m.properties, p.line ∈ range

/-- The enumeration has the values on the lines of the range. -/
structure Enumeration.WrittenIn (e : Enumeration) (source : String) (range : LineRange) :
    Prop where
  body : e.body = range
  values : e.values = (valueLines source range).map Prod.snd

/-- What the schema declares is written in the first block of each name, and nowhere else. -/
structure Schema.WrittenIn (s : Schema) (source : String) (scope : Scope) : Prop where
  models : ∀ m ∈ s.models.values, ∀ block, (Outline.ofText source).IsFirstBlock block →
    block.kind = .model → block.name = m.name → m.WrittenIn source scope block.body
  unopenedModels : ∀ m ∈ s.models.values, ¬ (Outline.ofText source).Opens .model m.name →
    m.properties = []
  enums : ∀ e ∈ s.enums.values, ∀ block, (Outline.ofText source).IsFirstBlock block →
    block.kind = .enum → block.name = e.name → e.WrittenIn source block.body
  unopenedEnums : ∀ e ∈ s.enums.values, ¬ (Outline.ofText source).Opens .enum e.name →
    e.values = []

theorem Model.ofName_of_isFirstBlock {o : Outline} {block : Block} (scope : Scope) {name : String}
    (hfirst : o.IsFirstBlock block) (hkind : block.kind = .model) (hname : block.name = name) :
    Model.ofName o scope name = Model.ofBlock o scope block := by
  rw [ofName, Outline.findBlock?_eq_some_iff.mpr ⟨hfirst, hkind, hname⟩]

theorem Enumeration.ofName_of_isFirstBlock {o : Outline} {block : Block} {name : String}
    (hfirst : o.IsFirstBlock block) (hkind : block.kind = .enum) (hname : block.name = name) :
    Enumeration.ofName o name = Enumeration.ofBlock o block := by
  rw [ofName, Outline.findBlock?_eq_some_iff.mpr ⟨hfirst, hkind, hname⟩]

theorem Model.ofName_of_not_opens {lines : List String} (scope : Scope) {name : String}
    (h : ¬ (Outline.ofLines lines).Opens .model name) :
    Model.ofName (.ofLines lines) scope name = ⟨name, [], ⟨0, 0⟩⟩ := by
  rw [ofName, Outline.findBlock?_eq_none_iff.mpr h]

theorem Enumeration.ofName_of_not_opens {lines : List String} {name : String}
    (h : ¬ (Outline.ofLines lines).Opens .enum name) :
    Enumeration.ofName (.ofLines lines) name = ⟨name, [], ⟨0, 0⟩⟩ := by
  rw [ofName, Outline.findBlock?_eq_none_iff.mpr h]

theorem Model.writtenIn_ofBlock (source : String) (scope : Scope) (block : Block) :
    (Model.ofBlock (.ofText source) scope block).WrittenIn source scope block.body where
  body := rfl
  fields := standsOn_propertiesIn source block.body scope
  increasing := pairwise_line_propertiesIn block.body _ scope
  inBody := fun _ => line_mem_of_mem_propertiesIn block.body

theorem Enumeration.writtenIn_ofBlock (source : String) (block : Block) :
    (Enumeration.ofBlock (.ofText source) block).WrittenIn source block.body where
  body := rfl
  values := firstWords_ofText source block.body

namespace Schema

/-- **Nothing is lost and nothing is made up.** A compiled schema has for each model one property
for each line of its block that is written as a field, and for each enumeration the values on the
lines of its block, in the order of the lines. Declarations without a block are empty. -/
theorem writtenIn_compile (source : String) (markers : Markers) :
    (compile source markers).WrittenIn source
      ((Declarations.ofOutline (.ofText source)).scope markers) where
  models := by
    intro m hm block hfirst hkind hname
    obtain ⟨name, -, rfl⟩ := exists_ofName_of_mem hm
    rw [Model.name_ofName] at hname
    rw [Model.ofName_of_isFirstBlock _ hfirst hkind hname]
    exact Model.writtenIn_ofBlock source _ block
  unopenedModels := by
    intro m hm hopens
    obtain ⟨name, -, rfl⟩ := exists_ofName_of_mem hm
    rw [Model.name_ofName] at hopens
    exact congrArg Model.properties (Model.ofName_of_not_opens _ hopens)
  enums := by
    intro e he block hfirst hkind hname
    obtain ⟨name, -, rfl⟩ := exists_enumeration_ofName_of_mem he
    rw [Enumeration.name_ofName] at hname
    rw [Enumeration.ofName_of_isFirstBlock hfirst hkind hname]
    exact Enumeration.writtenIn_ofBlock source block
  unopenedEnums := by
    intro e he hopens
    obtain ⟨name, -, rfl⟩ := exists_enumeration_ofName_of_mem he
    rw [Enumeration.name_ofName] at hopens
    exact congrArg Enumeration.values (Enumeration.ofName_of_not_opens hopens)

/-- A property of a compiled schema is what the declaration on its physical line means. -/
theorem exists_physicalLine_of_mem {source : String} {markers : Markers} {m : Model} {p : Property}
    (hm : m ∈ (compile source markers).models.values) (hp : p ∈ m.properties) :
    ∃ line d, (physicalLines source.toList)[p.line]? = some line ∧
      Declaration.parse? (String.ofList (Text.collapse line)) = some d ∧
      p = d.toProperty p.line ((Declarations.ofOutline (.ofText source)).scope markers) := by
  obtain ⟨normal, d, hline, hparse, hproperty⟩ := exists_declaration_of_mem hm hp
  rw [Outline.line?, Outline.ofText, Outline.ofLines, Source.normalizedLines,
    List.getElem?_map] at hline
  obtain ⟨line, hphysical, rfl⟩ := Option.map_eq_some_iff.mp hline
  exact ⟨line, d, hphysical, (Field.Declaration.parse?_normalize_iff.mp hparse).2, hproperty⟩

-- A comment after a field, a line that is no field, line breaks of two kinds, and no last one.
example :
    let source := "model A \x7b\r\n id Int // no\n\t b\t B[]\r\n @@map\n c C?\n\x7d\n" ++
      "enum E \x7b\n X y\n @z\n W"
    let s := compile source
    s.models.values.map (fun m => m.properties.map fun p => (p.line, p.key)) =
        [[(2, "b"), (4, "c")]] ∧
      s.enums.values.map (·.values) = [["X", "W"]] ∧
      valueLines source ⟨7, 10⟩ = [(7, "X"), (9, "W")] := by
  decide +kernel

end Schema

end DataSchema
