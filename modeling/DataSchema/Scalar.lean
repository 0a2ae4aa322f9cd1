/-!
# DataSchema.Scalar

**Scalar types and their two readings.** A scalar of a schema has a keyword by which a field asks
for it, a *wire type* under which an interface shows it, and a *language type* in which generated
code holds it. The two readings forget different things: on the wire a decimal, an amount of money
and a big integer are one thing, in memory they are three.

`money` is the only scalar without a keyword. It is a decimal that a marker has been put on.
-/

namespace DataSchema

/-- How a scalar shows in an interface. -/
inductive WireType
  /-- Text, and everything that has no better form. -/
  | string
  /-- True or false. -/
  | boolean
  /-- A 32-bit integer. -/
  | int
  /-- Any other number. -/
  | float
  /-- A point in time. -/
  | date
deriving DecidableEq, Repr, Inhabited

namespace WireType

/-- Every wire type. -/
def all : List WireType := [string, boolean, int, float, date]

theorem mem_all (t : WireType) : t ∈ all := by cases t <;> decide

/-- The name in an interface. -/
def name : WireType → String
  | string => "String"
  | boolean => "Boolean"
  | int => "Int"
  | float => "Float"
  | date => "Date"

end WireType

/-- How generated code holds a scalar. -/
inductive LanguageType
  /-- Text. -/
  | string
  /-- True or false. -/
  | boolean
  /-- A 32-bit integer. -/
  | int
  /-- A 64-bit integer. -/
  | int64
  /-- A floating point number. -/
  | float
  /-- A decimal of any precision. -/
  | decimal
  /-- A decimal that is an amount of money. -/
  | currency
  /-- A point in time. -/
  | dateTime
  /-- A value without a fixed type. -/
  | any
  /-- Binary data, held as text. -/
  | bytes
deriving DecidableEq, Repr, Inhabited

namespace LanguageType

/-- Every language type. -/
def all : List LanguageType :=
  [string, boolean, int, int64, float, decimal, currency, dateTime, any, bytes]

theorem mem_all (t : LanguageType) : t ∈ all := by cases t <;> decide

/-- The name under which a language type is stored. -/
def name : LanguageType → String
  | string => "String"
  | boolean => "Boolean"
  | int => "Int"
  | int64 => "Int64"
  | float => "Float"
  | decimal => "Decimal"
  | currency => "Currency"
  | dateTime => "DateTime"
  | any => "Any"
  | bytes => "Bytes"

/-- The description for readers. -/
def description : LanguageType → String
  | string => "string"
  | boolean => "boolean"
  | int => "number/int"
  | int64 => "number/int64"
  | float => "number/float"
  | decimal => "decimal"
  | currency => "decimal (currency)"
  | dateTime => "datetime"
  | any => "opaque map/any"
  | bytes => "string/bytes"

end LanguageType

/-- The scalars that a field can have. -/
inductive ScalarType
  /-- Text. -/
  | string
  /-- True or false. -/
  | boolean
  /-- A 32-bit integer. -/
  | int
  /-- A 64-bit integer. -/
  | bigInt
  /-- A floating point number. -/
  | float
  /-- A decimal of any precision. -/
  | decimal
  /-- A decimal with a money marker. -/
  | money
  /-- A point in time. -/
  | dateTime
  /-- A document. -/
  | json
  /-- Binary data. -/
  | bytes
  /-- Anything that is not understood. -/
  | unsupported
deriving DecidableEq, Repr, Inhabited

namespace ScalarType

/-- Every scalar. -/
def all : List ScalarType :=
  [string, boolean, int, bigInt, float, decimal, money, dateTime, json, bytes, unsupported]

theorem mem_all (t : ScalarType) : t ∈ all := by cases t <;> decide

/-- The name of a scalar. -/
def name : ScalarType → String
  | string => "String"
  | boolean => "Boolean"
  | int => "Int"
  | bigInt => "BigInt"
  | float => "Float"
  | decimal => "Decimal"
  | money => "Money"
  | dateTime => "DateTime"
  | json => "Json"
  | bytes => "Bytes"
  | unsupported => "Unsupported"

/-- The scalar that a type word asks for. No word asks for money. -/
def ofKeyword? (word : String) : Option ScalarType :=
  (all.filter (· ≠ money)).find? (fun t => t.name = word)

theorem ofKeyword?_name {t : ScalarType} (h : t ≠ money) : ofKeyword? t.name = some t := by
  cases t with
  | money => exact absurd rfl h
  | _ => decide

/-- The form of the scalar in an interface. -/
def wireType : ScalarType → WireType
  | string | json | bytes | unsupported => .string
  | boolean => .boolean
  | int => .int
  | bigInt | float | decimal | money => .float
  | dateTime => .date

/-- The form of the scalar in generated code. -/
def languageType : ScalarType → LanguageType
  | string | unsupported => .string
  | boolean => .boolean
  | int => .int
  | bigInt => .int64
  | float => .float
  | decimal => .decimal
  | money => .currency
  | dateTime => .dateTime
  | json => .any
  | bytes => .bytes

/-- Is it one of the two decimal scalars? -/
def isDecimal (t : ScalarType) : Bool := t == decimal || t == money

end ScalarType

end DataSchema
