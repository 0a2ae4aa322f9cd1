/-!
# DataSchema.Toml.Value

**The values of a settings file.** No setting is a number, a truth value or a moment, so these are
not told apart: each is kept as the word that was written. Nor is a setting an array of tables under
headers of their own, and a file with one is refused as a whole.

A table remembers how it came about, because that decides what may still be added to it.
-/

namespace DataSchema.Toml

/-- How a table came about. -/
inductive Origin
  /-- By a header of its own. -/
  | header
  /-- By the header of a table inside it. -/
  | implied
  /-- By a dotted key. -/
  | dotted
  /-- Written in braces. -/
  | inline
deriving DecidableEq, Repr, Inhabited

/-- A value of a settings file. -/
inductive Value
  /-- A text. -/
  | string (value : String)
  /-- A number, a truth value or a moment, as it is written. -/
  | plain (word : String)
  /-- A list of values. -/
  | array (items : List Value)
  /-- Named values. -/
  | table (origin : Origin) (entries : List (String × Value))
deriving Inhabited

/-- The entries of a table. -/
abbrev Entries := List (String × Value)

/-- The value at a key. -/
def Entries.get? (entries : Entries) (key : String) : Option Value :=
  (entries.find? (fun e => e.1 = key)).map Prod.snd

/-- Replace the value at a key. -/
def Entries.replace (entries : Entries) (key : String) (value : Value) : Entries :=
  entries.map fun e => if e.1 = key then (key, value) else e

/-! ### Adding to a table

A key can be given a value once. On the way to it, a dotted key goes only through tables that dotted
keys or longer headers have brought about, and it ends only in one of the former. -/

/-- Give a dotted key a value. `direct` says whether a value may be put straight into this table. -/
def Entries.assign (direct : Bool) : List String → Value → Entries → Option Entries
  | [], _, _ => none
  | [key], value, entries =>
    if direct ∧ (entries.get? key).isNone then some (entries ++ [(key, value)]) else none
  | key :: path, value, entries =>
    match entries.get? key with
    | none => do
      let inner ← Entries.assign true path value []
      some (entries ++ [(key, .table .dotted inner)])
    | some (.table .dotted inner) => do
      let inner ← Entries.assign true path value inner
      some (entries.replace key (.table .dotted inner))
    | some (.table .implied inner) => do
      let inner ← Entries.assign false path value inner
      some (entries.replace key (.table .implied inner))
    | some _ => none

/-- Open the table of a header. It may not exist yet, save as a table that the header of another one
inside it has implied. -/
def Entries.openTable : List String → Entries → Option Entries
  | [], _ => none
  | [key], entries =>
    match entries.get? key with
    | none => some (entries ++ [(key, .table .header [])])
    | some (.table .implied inner) => some (entries.replace key (.table .header inner))
    | some _ => none
  | key :: path, entries =>
    match entries.get? key with
    | none => do
      let inner ← Entries.openTable path []
      some (entries ++ [(key, .table .implied inner)])
    | some (.table .inline _) => none
    | some (.table origin inner) => do
      let inner ← Entries.openTable path inner
      some (entries.replace key (.table origin inner))
    | some _ => none

/-- Give a dotted key a value in the table that a header has opened. -/
def Entries.assignUnder : (header : List String) → List String → Value → Entries → Option Entries
  | [], path, value, entries => Entries.assign true path value entries
  | key :: header, path, value, entries =>
    match entries.get? key with
    | some (.table origin inner) => do
      let inner ← Entries.assignUnder header path value inner
      some (entries.replace key (.table origin inner))
    | _ => none

end DataSchema.Toml
