import DataSchema.Toml.Lexer
import DataSchema.Toml.Number
import DataSchema.Toml.Value

/-!
# DataSchema.Toml.Parser

**From tokens to the table of a settings file.** The tokens are cut into statements at the line
breaks outside of brackets. A statement opens a table or gives a key a value, and the statements are
carried out one after the other on the table read so far.

A value is read by a machine that takes one token at a time, with a stack of the arrays and tables
that are open. Line breaks are passed over in arrays; in a table in braces they are not allowed, and
neither is a comma after the last entry. Brackets and braces nest only so deep, and a key has only
so many parts.
-/

namespace DataSchema.Toml

/-- Brackets, braces and the parts of a key stay below this number. -/
def depthLimit : Nat := 80

/-! ### Keys -/

/-- A piece of a key. -/
inductive KeyPiece
  /-- One name. -/
  | name (k : String)
  /-- The sign between two names. -/
  | dot
deriving DecidableEq, Repr, Inhabited

/-- The pieces of a key in a token, if it can belong to a key. -/
def Token.keyPieces? : Token → Option (List KeyPiece)
  | .text k => some [.name k]
  | .word w =>
    if w.toList.all (fun c => isBareChar c || c == '.') then
      some (List.intercalate [.dot] ((w.toList.splitOn '.').map fun name =>
        if name = [] then [] else [.name (String.ofList name)]))
    else none
  | _ => none

/-- The names in pieces that are names with dots between them. -/
def names? : List KeyPiece → Option (List String)
  | [.name k] => some [k]
  | .name k :: .dot :: rest => (names? rest).map (k :: ·)
  | _ => none

/-- The path that the pieces of a key make. -/
def keyPath? (pieces : List KeyPiece) : Option (List String) :=
  (names? pieces).filter (·.length < depthLimit)

/-! ### Values -/

/-- Is the word a value? -/
def isPlain (w : String) : Bool :=
  w == "true" || w == "false" || isInteger w.toList || isFraction w.toList || isMoment w.toList

/-- An array or a table that is open around the value that is read. -/
inductive Frame
  /-- An array, with the items before the value, last first. -/
  | array (items : List Value)
  /-- A table, with the entries before the value and the value's key. -/
  | table (entries : Entries) (path : List String)

/-- What may come next. -/
inductive State
  /-- A value. -/
  | value (stack : List Frame)
  /-- An item of an array, or its end. -/
  | item (items : List Value) (stack : List Frame)
  /-- What follows an item of an array. -/
  | afterItem (items : List Value) (stack : List Frame)
  /-- The first entry of a table, or its end. -/
  | firstEntry (stack : List Frame)
  /-- More of a key, or its end. -/
  | key (entries : Entries) (pieces : List KeyPiece) (stack : List Frame)
  /-- What follows an entry of a table. -/
  | afterEntry (entries : Entries) (stack : List Frame)
  /-- The value is complete. -/
  | done (v : Value)

namespace State

/-- The state after a complete value inside the frames of a stack. -/
def close (v : Value) : List Frame → Option State
  | [] => some (done v)
  | .array items :: stack => some (afterItem (v :: items) stack)
  | .table entries path :: stack => do
    let entries ← Entries.assign true path v entries
    some (afterEntry entries stack)

/-- The state after a token where a value must stand. -/
def startValue (stack : List Frame) : Token → Option State
  | .text s => close (.string s) stack
  | .block s => close (.string s) stack
  | .word w => if isPlain w then close (.plain w) stack else none
  | .openBracket => if stack.length + 1 < depthLimit then some (item [] stack) else none
  | .openBrace => if stack.length + 1 < depthLimit then some (firstEntry stack) else none
  | _ => none

/-- The state after a token in a key or right after it. -/
def continueKey (entries : Entries) (pieces : List KeyPiece) (stack : List Frame) :
    Token → Option State
  | .equals => (keyPath? pieces).map fun path => value (.table entries path :: stack)
  | t => t.keyPieces?.map fun more => key entries (pieces ++ more) stack

/-- The state after one token. -/
def step : State → Token → Option State
  | value stack, t => startValue stack t
  | item items stack, .lineBreak => some (item items stack)
  | item items stack, .closeBracket => close (.array items.reverse) stack
  | item items stack, t => startValue (.array items :: stack) t
  | afterItem items stack, .lineBreak => some (afterItem items stack)
  | afterItem items stack, .comma => some (item items stack)
  | afterItem items stack, .closeBracket => close (.array items.reverse) stack
  | firstEntry stack, .closeBrace => close (.table .inline []) stack
  | firstEntry stack, t => continueKey [] [] stack t
  | key entries pieces stack, t => continueKey entries pieces stack t
  | afterEntry entries stack, .comma => some (key entries [] stack)
  | afterEntry entries stack, .closeBrace => close (.table .inline entries) stack
  | _, _ => none

/-- The value that has been read, if it is complete. -/
def result? : State → Option Value
  | done v => some v
  | _ => none

end State

/-- Read all tokens as one value. -/
def value? (tokens : List Token) : Option Value := do
  let final ← tokens.foldlM State.step (State.value [])
  final.result?

/-! ### Statements -/

/-- A statement of a settings file. -/
inductive Statement
  /-- Open the table with this path. -/
  | header (path : List String)
  /-- Give a key a value in the table that is open. -/
  | assign (path : List String) (v : Value)

/-- The key at the front, and what follows it. -/
def readKey (tokens : List Token) : Option (List String × List Token) := do
  let (front, rest) := tokens.span (·.keyPieces?.isSome)
  let path ← keyPath? (front.filterMap Token.keyPieces?).flatten
  some (path, rest)

/-- Read the tokens of one statement. -/
def statement? : List Token → Option Statement
  | .openBracket :: rest =>
    match readKey rest with
    | some (path, [.closeBracket]) => some (.header path)
    | _ => none
  | tokens =>
    match readKey tokens with
    | some (path, .equals :: rest) => (value? rest).map (.assign path)
    | _ => none

/-- Cut tokens at the line breaks outside of brackets. -/
def statementTokens (depth : Nat) : List Token → List (List Token)
  | [] => [[]]
  | t :: rest =>
    if t = .lineBreak ∧ depth = 0 then [] :: statementTokens depth rest
    else
      let depth :=
        if t = .openBracket then depth + 1
        else if t = .closeBracket then depth - 1
        else depth
      (statementTokens depth rest).modifyHead (t :: ·)

/-! ### Files -/

/-- The table of a file that is being read. -/
structure Progress where
  /-- The entries of the whole file. -/
  root : Entries
  /-- The path of the table that is open. -/
  current : List String

/-- Carry out one statement. -/
def Progress.perform (p : Progress) : Statement → Option Progress
  | .header path => do
    let root ← Entries.openTable path p.root
    some ⟨root, path⟩
  | .assign path v => do
    let root ← Entries.assignUnder p.current path v p.root
    some { p with root }

/-- Read a settings file. -/
def parse? (text : String) : Option Value := do
  let tokens ← tokens? text
  let statements ← ((statementTokens 0 tokens).filter (· ≠ [])).mapM statement?
  let final ← statements.foldlM Progress.perform ⟨[], []⟩
  some (.table .header final.root)

end DataSchema.Toml
