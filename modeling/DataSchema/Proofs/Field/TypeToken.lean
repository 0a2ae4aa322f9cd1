import DataSchema.Field.TypeToken

/-!
# DataSchema.Proofs.Field.TypeToken

**What a type token means.** Taking the suffixes off a token gives the one reading in which the token
is a word followed by at most one `[]` and at most one `?` (`TypeToken.split_eq_iff`). What the word
means is a table with one line for each form of a type (`FieldType.MeantBy`), and looking the word up
in order finds the type that the table has for it (`classifyBare_eq_iff`). The table excludes the
names that are hidden: an enumeration named like a keyword, a model named like either.
-/

namespace DataSchema

/-! ### Keywords -/

namespace ScalarType

/-- The word is the keyword of a scalar. -/
def IsKeyword (word : String) : Prop := ∃ t, t ≠ money ∧ t.name = word

theorem name_injective : Function.Injective name := by
  intro t u h
  cases t <;> cases u <;> first | rfl | exact absurd h (by decide)

theorem ofKeyword?_eq_some_iff {word : String} {t : ScalarType} :
    ofKeyword? word = some t ↔ t ≠ money ∧ t.name = word := by
  constructor
  · intro h
    have hmem := List.mem_of_find?_eq_some h
    have hname := List.find?_some h
    exact ⟨by simpa using (List.mem_filter.mp hmem).2, by simpa using hname⟩
  · rintro ⟨ht, rfl⟩
    exact ofKeyword?_name ht

theorem ofKeyword?_eq_none_iff {word : String} : ofKeyword? word = none ↔ ¬ IsKeyword word := by
  rw [Option.eq_none_iff_forall_ne_some]
  simp only [ne_eq, ofKeyword?_eq_some_iff, IsKeyword, not_exists]

end ScalarType

open ScalarType (IsKeyword ofKeyword? ofKeyword?_eq_some_iff ofKeyword?_eq_none_iff)

/-! ### Suffixes -/

namespace Field

theorem stripSuffix_eq_iff {ending s rest : List Char} {found : Bool} :
    stripSuffix ending s = (rest, found) ↔
      s = rest ++ (if found then ending else []) ∧ (found = false → ¬ ending <:+ s) := by
  unfold stripSuffix
  by_cases hs : ending <:+ s
  · obtain ⟨front, rfl⟩ := hs
    have htake : (front ++ ending).take ((front ++ ending).length - ending.length) = front := by
      simp
    rw [if_pos (List.isSuffixOf_iff_suffix.mpr (List.suffix_append ..)), htake, Prod.mk.injEq]
    constructor
    · rintro ⟨rfl, rfl⟩
      simp
    · rintro ⟨htext, hfound⟩
      cases found with
      | false => exact absurd (List.suffix_append ..) (hfound rfl)
      | true => exact ⟨List.append_cancel_right htext, rfl⟩
  · rw [if_neg fun h => hs (List.isSuffixOf_iff_suffix.mp h), Prod.mk.injEq]
    constructor
    · rintro ⟨rfl, rfl⟩
      simp [hs]
    · rintro ⟨htext, -⟩
      cases found with
      | false => exact ⟨by simpa using htext, rfl⟩
      | true => exact absurd ⟨rest, htext.symm⟩ hs

/-- The text is the token's word with its suffixes: a `[]` for a list, and after it a `?` for what
may be absent. A flag that is not set says that the suffix is not there. -/
structure TypeToken.Reads (raw : String) (t : TypeToken) : Prop where
  text : raw.toList = t.bare.toList ++ (if t.isArray then "[]".toList else []) ++
    (if t.nullable then "?".toList else [])
  nullable : t.nullable = false → ¬ "?".toList <:+ raw.toList
  isArray : t.isArray = false → ¬ "[]".toList <:+ t.bare.toList

/-- The only reading of a text is what is left of it when its suffixes are taken off. -/
theorem TypeToken.split_eq_iff {raw : String} {t : TypeToken} : split raw = t ↔ t.Reads raw := by
  constructor
  · intro hsplit
    obtain ⟨rest, nullable, hrest⟩ : ∃ rest nullable,
        stripSuffix ['?'] raw.toList = (rest, nullable) := ⟨_, _, rfl⟩
    obtain ⟨bare, isArray, hbare⟩ : ∃ bare isArray,
        stripSuffix ['[', ']'] rest = (bare, isArray) := ⟨_, _, rfl⟩
    obtain rfl : ⟨String.ofList bare, nullable, isArray⟩ = t := by
      rw [← hsplit, split, hrest]
      dsimp only
      rw [hbare]
    obtain ⟨htext, hnullable⟩ := stripSuffix_eq_iff.mp hrest
    obtain ⟨rfl, hisArray⟩ := stripSuffix_eq_iff.mp hbare
    refine ⟨by simpa using htext, hnullable, fun hnone => ?_⟩
    have hnone : isArray = false := hnone
    simpa [hnone] using hisArray hnone
  · rintro ⟨htext, hnullable, hisArray⟩
    have hrest : stripSuffix ['?'] raw.toList =
        (t.bare.toList ++ (if t.isArray then "[]".toList else []), t.nullable) :=
      stripSuffix_eq_iff.mpr ⟨htext, hnullable⟩
    have hbare : stripSuffix ['[', ']'] (t.bare.toList ++ (if t.isArray then "[]".toList else [])) =
        (t.bare.toList, t.isArray) := by
      refine stripSuffix_eq_iff.mpr ⟨rfl, fun hnone => ?_⟩
      simpa [hnone] using hisArray hnone
    rw [split, hrest]
    dsimp only
    rw [hbare]
    simp

end Field

/-! ### Words -/

/-- What a word means among names of enumerations and models; `isMoney` says that a decimal is an
amount of money. -/
def FieldType.MeantBy (enums models : List String) (isMoney : Bool) (word : String) :
    FieldType → Prop
  | .relation model => model = word ∧ word ∈ models ∧ word ∉ enums ∧ ¬ IsKeyword word
  | .enum name => name = word ∧ word ∈ enums ∧ ¬ IsKeyword word
  | .scalar .unsupported => word = ScalarType.unsupported.name ∨
    (¬ IsKeyword word ∧ word ∉ enums ∧ word ∉ models)
  | .scalar .money => word = ScalarType.decimal.name ∧ isMoney = true
  | .scalar .decimal => word = ScalarType.decimal.name ∧ isMoney = false
  | .scalar t => word = t.name

namespace Field

variable {isMoney : Bool} {scope : Scope}

theorem classifyBare_name {u : ScalarType} (hu : u ≠ .money) :
    classifyBare u.name isMoney scope =
      .scalar (if isMoney ∧ u = .decimal then .money else u) := by
  have hdecimal : u.name = ScalarType.decimal.name ↔ u = .decimal :=
    ⟨fun h => ScalarType.name_injective h, fun h => by rw [h]⟩
  simp only [classifyBare, hdecimal, ofKeyword?_eq_some_iff.mpr ⟨hu, rfl⟩]
  split <;> rfl

theorem classifyBare_of_not_isKeyword {word : String} (hword : ¬ IsKeyword word) :
    classifyBare word isMoney scope =
      if word ∈ scope.enums then .enum word
      else if word ∈ scope.models then .relation word
      else .scalar .unsupported := by
  have hdecimal : ¬ (isMoney ∧ word = ScalarType.decimal.name) :=
    fun h => hword ⟨.decimal, by decide, h.2.symm⟩
  rw [classifyBare, if_neg hdecimal, ofKeyword?_eq_none_iff.mpr hword]

/-- A word has the same type in scopes that agree on it. -/
theorem classifyBare_congr {word : String} {scope' : Scope}
    (henums : word ∈ scope.enums ↔ word ∈ scope'.enums)
    (hmodels : word ∈ scope.models ↔ word ∈ scope'.models) :
    classifyBare word isMoney scope = classifyBare word isMoney scope' := by
  simp only [classifyBare, henums, hmodels]

/-- A word is given the type that it means. -/
theorem classifyBare_eq_iff {word : String} {t : FieldType} :
    classifyBare word isMoney scope = t ↔ t.MeantBy scope.enums scope.models isMoney word := by
  -- A keyword never reaches the names, and a word that is none always does.
  by_cases hword : IsKeyword word
  · obtain ⟨u, hu, rfl⟩ := hword
    have hname : ∀ v : ScalarType, u.name = v.name ↔ u = v :=
      fun v => ⟨fun h => ScalarType.name_injective h, fun h => by rw [h]⟩
    have hkeyword : IsKeyword u.name := ⟨u, hu, rfl⟩
    rw [classifyBare_name hu]
    cases t with
    | relation model => simp [FieldType.MeantBy, hkeyword]
    | enum name => simp [FieldType.MeantBy, hkeyword]
    | scalar t =>
        by_cases hmoney : isMoney ∧ u = .decimal
        · obtain ⟨rfl, rfl⟩ := hmoney
          cases t <;> simp [FieldType.MeantBy, hname, hkeyword]
        · rw [if_neg hmoney, FieldType.scalar.injEq]
          cases t with
          | money =>
              have hnot : ¬ (u = .decimal ∧ isMoney = true) := fun h => hmoney h.symm
              simp [FieldType.MeantBy, hname, hu, hnot]
          | decimal =>
              have hnot : u = .decimal → isMoney = false := by
                intro h
                simpa [h] using hmoney
              simpa [FieldType.MeantBy, hname] using hnot
          | _ => simp [FieldType.MeantBy, hname, hkeyword]
  · rw [classifyBare_of_not_isKeyword hword]
    have hne : ∀ v ≠ ScalarType.money, word ≠ v.name := fun v hv h => hword ⟨v, hv, h.symm⟩
    by_cases henum : word ∈ scope.enums
    · rw [if_pos henum]
      cases t with
      | relation model => simp [FieldType.MeantBy, henum]
      | enum name => simp [FieldType.MeantBy, henum, hword, eq_comm]
      | scalar t => cases t <;> simp [FieldType.MeantBy, hne, henum]
    rw [if_neg henum]
    by_cases hmodel : word ∈ scope.models
    · rw [if_pos hmodel]
      cases t with
      | relation model => simp [FieldType.MeantBy, henum, hmodel, hword, eq_comm]
      | enum name => simp [FieldType.MeantBy, henum]
      | scalar t => cases t <;> simp [FieldType.MeantBy, hne, hmodel]
    · rw [if_neg hmodel]
      cases t with
      | relation model => simp [FieldType.MeantBy, hmodel]
      | enum name => simp [FieldType.MeantBy, henum]
      | scalar t => cases t <;> simp [FieldType.MeantBy, hne, henum, hmodel, hword]

end Field

end DataSchema
