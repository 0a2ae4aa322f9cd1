/-!
# DataSchema.Json.Value

**JSON values**, as far as stored schemas need them. Objects keep the order of their members and may
repeat a name; what a repetition means is for the reader of the value to say.

The only numbers that are stored are naturals. A text may hold others, and may also hold strings
that are no Unicode text (half of a surrogate pair, written as an escape). Such a value is well
formed, so it may stand where nobody looks, but nothing can be read from it: it is `foreign`.
-/

namespace DataSchema

/-- A JSON value. -/
inductive Json
  /-- The value `null`. -/
  | null
  /-- A truth value. -/
  | bool (value : Bool)
  /-- A number without sign, fraction and exponent. -/
  | nat (value : Nat)
  /-- A text. -/
  | string (value : String)
  /-- A list of values. -/
  | array (items : List Json)
  /-- Named values, in order. -/
  | object (members : List (String × Json))
  /-- A well-formed value that nothing can be read from. -/
  | foreign
deriving Inhabited, Repr

end DataSchema
