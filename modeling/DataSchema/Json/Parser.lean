import DataSchema.Json.Lexer

/-!
# DataSchema.Json.Parser

**From tokens to a value.** The parser is a machine that takes one token at a time. Its state says
what may come next, and carries a stack with one frame for each array and each object that is still
open. It is therefore a fold over the tokens: no recursion, no look-ahead, no fuel.
-/

namespace DataSchema.Json

/-- The members read so far, last first. A member whose name is no Unicode text has none. -/
abbrev Members := List (Option String × Json)

/-- The object of some members, given last first. If one of them has no name, nothing can be read
from the object. -/
def ofMembers (members : Members) : Json :=
  match members.reverse.mapM (fun (name, v) => name.map (·, v)) with
  | some members => object members
  | none => foreign

/-- An array or an object that is still open, and what has been read of it, last first. -/
inductive Frame
  /-- An array. -/
  | array (items : List Json)
  /-- An object, and the name whose value comes next. -/
  | object (members : Members) (name : Option String)

/-- What may come next. -/
inductive State
  /-- A value. -/
  | value (stack : List Frame)
  /-- The first item of an array, or its end. -/
  | firstItem (stack : List Frame)
  /-- The first member of an object, or its end. -/
  | firstMember (stack : List Frame)
  /-- Another member of an object. -/
  | member (members : Members) (stack : List Frame)
  /-- The colon after a name. -/
  | colon (members : Members) (name : Option String) (stack : List Frame)
  /-- Nothing, or what follows a finished value in its frame. -/
  | finished (v : Json) (stack : List Frame)

namespace State

/-- The state after a token where a value must stand. -/
def startValue (stack : List Frame) : Token → Option State
  | .openArray => some (firstItem stack)
  | .openObject => some (firstMember stack)
  | .string (some s) => some (finished (.string s) stack)
  | .string none => some (finished foreign stack)
  | .scalar v => some (finished v stack)
  | _ => none

/-- The state after a token where a name must stand. -/
def startMember (members : Members) (stack : List Frame) : Token → Option State
  | .string name => some (colon members name stack)
  | _ => none

/-- The state after one token. -/
def step : State → Token → Option State
  | value stack, t => startValue stack t
  | firstItem stack, .closeArray => some (finished (.array []) stack)
  | firstItem stack, t => startValue (.array [] :: stack) t
  | firstMember stack, .closeObject => some (finished (.object []) stack)
  | firstMember stack, t => startMember [] stack t
  | member members stack, t => startMember members stack t
  | colon members name stack, .colon => some (value (.object members name :: stack))
  | finished v (.array items :: stack), .comma => some (value (.array (v :: items) :: stack))
  | finished v (.array items :: stack), .closeArray =>
    some (finished (.array (v :: items).reverse) stack)
  | finished v (.object members name :: stack), .comma => some (member ((name, v) :: members) stack)
  | finished v (.object members name :: stack), .closeObject =>
    some (finished (ofMembers ((name, v) :: members)) stack)
  | _, _ => none

/-- The value that has been read, if nothing is open. -/
def result? : State → Option Json
  | finished v [] => some v
  | _ => none

end State

/-- Read a whole text as one value. -/
def parse? (s : String) : Option Json := do
  let tokens ← tokens? s.toList
  let final ← tokens.foldlM State.step (State.value [])
  final.result?

end DataSchema.Json
