import DataSchema.FieldType
import DataSchema.Declarations

/-!
# DataSchema.Field.TypeToken

**Type tokens and what they mean.** A type token is a name with at most one `?` and, before it, at
most one `[]`. The name is looked up first among the scalars, then among the enumerations, then
among the models; a name that is found nowhere is an unsupported scalar. Classification therefore
never fails, and a model that is named like a scalar is hidden by it.
-/

namespace DataSchema.Field

/-- A type token without its suffixes, and which of them it had. -/
structure TypeToken where
  /-- The name. -/
  bare : String
  /-- There was a `?`. -/
  nullable : Bool
  /-- There was a `[]`. -/
  isArray : Bool
deriving DecidableEq, Repr, Inhabited

/-- A text without a suffix, and whether the suffix was there. -/
def stripSuffix (ending s : List Char) : List Char × Bool :=
  if ending.isSuffixOf s then (s.take (s.length - ending.length), true) else (s, false)

/-- Take the suffix `?` and then the suffix `[]` off a type token. -/
def TypeToken.split (raw : String) : TypeToken :=
  -- The order matters: `A[]?` loses both suffixes, `A?[]` only its brackets.
  let (rest, nullable) := stripSuffix ['?'] raw.toList
  let (bare, isArray) := stripSuffix ['[', ']'] rest
  ⟨String.ofList bare, nullable, isArray⟩

/-- The type that a name means, where `isMoney` says that a decimal is an amount of money. -/
def classifyBare (bare : String) (isMoney : Bool) (scope : Scope) : FieldType :=
  if isMoney ∧ bare = ScalarType.decimal.name then .scalar .money
  else
    match ScalarType.ofKeyword? bare with
    | some scalar => .scalar scalar
    | none =>
      if bare ∈ scope.enums then .enum bare
      else if bare ∈ scope.models then .relation bare
      else .scalar .unsupported

end DataSchema.Field
