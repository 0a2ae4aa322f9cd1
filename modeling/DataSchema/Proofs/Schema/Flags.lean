import DataSchema.Proofs.Schema.Markers

/-!
# DataSchema.Proofs.Schema.Flags

**A flag says that an attribute is there, and nothing more.** Which attributes a field has decides
its flags, and in which order they are written does not (`Flags.sameMarks_of_perm`). The label of a
relation is different: there the first attribute that gives a name decides (`relationLabel?_eq_iff`).

Money is a flag that shows only in the type of a decimal. A field of type money has an attribute that
is marked as money, a field of type decimal has none, and a field of any other type is the same under
all money markers.
-/

namespace DataSchema

open DataSchema.Field (Declaration classifyBare classifyBare_eq_iff)
open Source (Outline)

/-! ### What attributes say -/

/-- One of the attributes, written with its `@`, is one of the markers. -/
def Attribute.Marked (attributes : List Attribute) (markers : List String) : Prop :=
  ∃ a ∈ attributes, "@" ++ a.path ∈ markers

/-- The label is the name that the first `@relation` with a name gives; there is none if no
`@relation` gives a name. -/
def Attribute.Labelled (attributes : List Attribute) : Option String → Prop
  | some label => ∃ before a after, attributes = before ++ a :: after ∧
      (a.path = "relation" ∧ a.nameArg? = some label) ∧
        ∀ b ∈ before, b.path = "relation" → b.nameArg? = none
  | none => ∀ a ∈ attributes, a.path = "relation" → a.nameArg? = none

open Attribute (Marked Labelled)

theorem Attribute.matchesAny_iff {a : Attribute} {markers : List String} :
    a.matchesAny markers = true ↔ "@" ++ a.path ∈ markers := by
  simp only [matchesAny, List.any_eq_true, matchesMarker, beq_iff_eq]
  constructor
  · rintro ⟨marker, hmem, rfl⟩
    exact hmem
  · intro hmem
    exact ⟨_, hmem, rfl⟩

theorem any_matchesAny_iff {attributes : List Attribute} {markers : List String} :
    attributes.any (·.matchesAny markers) = true ↔ Marked attributes markers := by
  rw [List.any_eq_true]
  exact exists_congr fun a => and_congr_right fun _ => Attribute.matchesAny_iff

theorem Attribute.marked_of_perm {attributes attributes' : List Attribute}
    (h : attributes.Perm attributes') {markers : List String} :
    Marked attributes markers ↔ Marked attributes' markers :=
  exists_congr fun _ => and_congr_left fun _ => h.mem_iff

/-- The label of a field is the one that its attributes give. -/
theorem relationLabel?_eq_iff {attributes : List Attribute} {label : Option String} :
    relationLabel? attributes = label ↔ Labelled attributes label := by
  have hnone : ∀ a : Attribute, (if a.path = "relation" then a.nameArg? else none) = none ↔
      (a.path = "relation" → a.nameArg? = none) := by
    intro a
    by_cases hpath : a.path = "relation" <;> simp [hpath]
  have hsome : ∀ (a : Attribute) (name : String),
      (if a.path = "relation" then a.nameArg? else none) = some name ↔
        a.path = "relation" ∧ a.nameArg? = some name := by
    intro a name
    by_cases hpath : a.path = "relation" <;> simp [hpath]
  unfold relationLabel?
  cases label with
  | none =>
      rw [List.findSome?_eq_none_iff]
      exact forall₂_congr fun a _ => hnone a
  | some name =>
      rw [List.findSome?_eq_some_iff]
      simp only [hnone, hsome, Labelled]

/-! ### Flags -/

/-- The four flags are the same; the labels may differ. -/
structure Flags.SameMarks (f g : Flags) : Prop where
  isId : f.isId = g.isId
  isUnique : f.isUnique = g.isUnique
  isAutoGenerated : f.isAutoGenerated = g.isAutoGenerated
  isMoney : f.isMoney = g.isMoney

/-- The order of the attributes plays no part in the flags. -/
theorem Flags.sameMarks_of_perm {attributes attributes' : List Attribute}
    (h : attributes.Perm attributes') (markers : Markers) :
    (ofAttributes attributes markers).SameMarks (ofAttributes attributes' markers) := by
  have hany : ∀ list : List String, attributes.any (·.matchesAny list) =
      attributes'.any (·.matchesAny list) := by
    intro list
    rw [Bool.eq_iff_iff, any_matchesAny_iff, any_matchesAny_iff]
    exact Attribute.marked_of_perm h
  exact ⟨hany _, hany _, hany _, hany _⟩

/-- The flags of a property are what its attributes say under the markers, and so is the difference
between an amount of money and any other decimal. -/
structure Property.FollowsMarkers (markers : Markers) (p : Property) : Prop where
  isId : p.isId = true ↔ Marked p.attributes markers.id
  isUnique : p.isUnique = true ↔ Marked p.attributes markers.unique
  isAutoGenerated : p.isAutoGenerated = true ↔ Marked p.attributes markers.auto
  money : p.type = .scalar .money → Marked p.attributes markers.money
  decimal : p.type = .scalar .decimal → ¬ Marked p.attributes markers.money
  label : Labelled p.attributes p.relationLabel

namespace Field.Declaration

variable (d : Declaration) (line : Nat) (scope : Scope)

theorem followsMarkers_toProperty :
    (d.toProperty line scope).FollowsMarkers scope.markers where
  isId := any_matchesAny_iff
  isUnique := any_matchesAny_iff
  isAutoGenerated := any_matchesAny_iff
  money := by
    intro htype
    obtain ⟨-, hmoney⟩ := classifyBare_eq_iff.mp htype
    exact any_matchesAny_iff.mp hmoney
  decimal := by
    intro htype hmarked
    obtain ⟨-, hmoney⟩ := classifyBare_eq_iff.mp htype
    have hflag : (Flags.ofAttributes d.attributes scope.markers).isMoney = true :=
      any_matchesAny_iff.mpr hmarked
    rw [hflag] at hmoney
    exact Bool.noConfusion hmoney
  label := relationLabel?_eq_iff.mp rfl

/-- The markers of money decide the type of a decimal, and nothing else about a field. -/
theorem toProperty_withMoney (money : List String) :
    let q := d.toProperty line { scope with markers := { scope.markers with money } }
    (d.toProperty line scope).type.EqUpToMoney q.type ∧
      { d.toProperty line scope with type := q.type } = q :=
  ⟨classifyBare_eqUpToMoney _ _ _ rfl rfl, rfl⟩

/-- The order of a field's attributes decides its label, and nothing else that is read off them. -/
theorem toProperty_reordered {attributes : List Attribute} (h : attributes.Perm d.attributes) :
    let q := { d with attributes }.toProperty line scope
    q = { d.toProperty line scope with attributes, relationLabel := q.relationLabel } := by
  obtain ⟨hid, hunique, hauto, hmoney⟩ := Flags.sameMarks_of_perm h scope.markers
  simp only [toProperty, hid, hunique, hauto, hmoney]

end Field.Declaration

/-! ### Compiled fields -/

namespace Schema

/-- With other markers of money a model has the same fields, but for the types of decimals. -/
theorem exists_withMoney_of_mem {source : String} {markers : Markers} {m : Model} {p : Property}
    (hm : m ∈ (compile source markers).models.values) (hp : p ∈ m.properties)
    (money : List String) :
    ∃ n ∈ (compile source { markers with money }).models.values, n.name = m.name ∧
      ∃ type, p.type.EqUpToMoney type ∧ { p with type } ∈ n.properties := by
  let o := Outline.ofText source
  let scope := (Declarations.ofOutline o).scope markers
  let scope' : Scope := { scope with markers := { markers with money } }
  obtain ⟨name, hname, rfl⟩ := exists_ofName_of_mem hm
  refine ⟨Model.ofName o scope' name,
    (OrderedMap.mem_values_ofList_names (nodup_distinct _)).mpr ⟨name, hname, rfl⟩, by simp, ?_⟩
  unfold Model.ofName at hp ⊢
  cases hblock : o.findBlock? .model name with
  | none =>
      rw [hblock] at hp
      exact absurd hp List.not_mem_nil
  | some block =>
      rw [hblock] at hp
      obtain ⟨line, d, hrange, hline, hne, hparse, hd⟩ := mem_propertiesIn.mp hp
      obtain ⟨htype, hfield⟩ := d.toProperty_withMoney p.line scope money
      rw [← hd] at htype hfield
      refine ⟨_, htype, ?_⟩
      rw [hfield]
      exact mem_propertiesIn.mpr ⟨line, d, hrange, hline, hne, hparse, rfl⟩

/-- **Flags are what the attributes and the markers say.** A property has a flag if and only if one
of its attributes is a marker of the flag, money differs from other decimals in this alone, and other
markers of money change no type but these. The label is the first that is given. With the attributes
of the field in another order all four flags are the same, and so is the property but for its label. -/
theorem followsMarkers_compile {source : String} {markers : Markers} {m : Model} {p : Property}
    (hm : m ∈ (compile source markers).models.values) (hp : p ∈ m.properties) :
    p.FollowsMarkers markers ∧
      (∀ money, ∃ n ∈ (compile source { markers with money }).models.values, n.name = m.name ∧
        ∃ type, p.type.EqUpToMoney type ∧ { p with type } ∈ n.properties) ∧
      ∃ line d, (Outline.ofText source).line? p.line = some line ∧
        Declaration.parse? line = some d ∧ d.attributes = p.attributes ∧
          ∀ attributes, attributes.Perm d.attributes →
            (Flags.ofAttributes attributes markers).SameMarks
                (Flags.ofAttributes d.attributes markers) ∧
              let scope := (Declarations.ofOutline (Outline.ofText source)).scope markers
              let q := { d with attributes }.toProperty p.line scope
              q = { p with attributes, relationLabel := q.relationLabel } := by
  obtain ⟨line, d, hline, hparse, hd⟩ := exists_declaration_of_mem hm hp
  have hfollows := d.followsMarkers_toProperty p.line
    ((Declarations.ofOutline (Outline.ofText source)).scope markers)
  have hattributes : d.attributes = p.attributes := (congrArg Property.attributes hd).symm
  rw [← hd] at hfollows
  refine ⟨hfollows, exists_withMoney_of_mem hm hp, line, d, hline, hparse, hattributes,
    fun attributes hperm => ⟨Flags.sameMarks_of_perm hperm markers, ?_⟩⟩
  have hreordered := d.toProperty_reordered p.line
    ((Declarations.ofOutline (Outline.ofText source)).scope markers) hperm
  rwa [← hd] at hreordered

/-- A price with a marker twice and a label, and a decimal that is no price. -/
def itemSchema : String :=
  "model Item \x7b\n price Decimal? @id @relation(\"a\") @db.Money @id @relation(\"b\")\n" ++
    " rate Decimal @default(1)\n\x7d\n"

theorem followsMarkers_compile_item :
    ∃ m ∈ (compile itemSchema).models.values, ∃ p ∈ m.properties,
      p.type = .scalar .money ∧ Marked p.attributes ["@db.Money"] ∧
        ¬ Marked p.attributes ["@unique"] ∧ p.relationLabel = some "a" ∧
          ∃ line d, (Outline.ofText itemSchema).line? p.line = some line ∧
            Declaration.parse? line = some d ∧
              let scope := (Declarations.ofOutline (Outline.ofText itemSchema)).scope {}
              let q := { d with attributes := d.attributes.reverse }.toProperty p.line scope
              q.type = .scalar .money ∧ q.isId = true ∧ q.isUnique = false := by
  have hfields : ∃ m ∈ (compile itemSchema).models.values, ∃ p ∈ m.properties,
      p.type = .scalar .money ∧ p.isId = true ∧ p.isUnique = false ∧
        p.relationLabel = some "a" := by
    decide +kernel
  obtain ⟨m, hm, p, hp, htype, hid, hunique, hlabel⟩ := hfields
  obtain ⟨hfollows, -, line, d, hline, hparse, -, hreordered⟩ := followsMarkers_compile hm hp
  obtain ⟨-, hq⟩ := hreordered d.attributes.reverse (List.reverse_perm _)
  refine ⟨m, hm, p, hp, htype, hfollows.money htype, ?_, hlabel, line, d, hline, hparse, ?_⟩
  · intro hmarked
    exact absurd (hfollows.isUnique.mpr hmarked) (by rw [hunique]; decide)
  · intro scope q
    exact ⟨(congrArg Property.type hq).trans htype, (congrArg Property.isId hq).trans hid,
      (congrArg Property.isUnique hq).trans hunique⟩

end Schema

end DataSchema
