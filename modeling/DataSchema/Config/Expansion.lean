/-!
# DataSchema.Config.Expansion

**References to environment variables in a settings text**, written `$` and then the name in braces.
The references are found in the text as it was written, from left to right and without overlap; a
name is anything that is not empty and holds no closing brace.

Each reference to a variable that is set is then replaced, in the order in which the references were
found and wherever the same reference stands in the text *as it is by then*. So a value that itself
holds a reference can be expanded further, but only by a reference that was found after its own.
References to variables that are not set stay as they are.
-/

namespace DataSchema.Config

/-- The value of each variable that is set. -/
abbrev Environment := String → Option String

/-- The environment of some variables with their values. A variable stands in it as its name, an
equals sign and its value, and asking for a name finds what follows the name and an equals sign. So
a name with an equals sign in it reaches into the value of a variable. -/
def Environment.ofList (known : List (String × String)) : Environment := fun name =>
  known.findSome? fun (own, value) =>
    ((name ++ "=").toList.isPrefixOf? (own ++ "=" ++ value).toList).map String.ofList

/-- The names that a text refers to, in order, with repetitions. -/
def references (s : List Char) : List (List Char) :=
  match s with
  | '$' :: '\x7b' :: rest =>
    let name := rest.takeWhile (· ≠ '\x7d')
    let after := rest.dropWhile (· ≠ '\x7d')
    if name = [] ∨ after = [] then references rest else name :: references after.tail
  | _ :: rest => references rest
  | [] => []
termination_by s.length
decreasing_by
  · simp only [List.length_cons]
    omega
  · have := (List.dropWhile_sublist (l := rest) (· ≠ '\x7d')).length_le
    simp only [List.length_tail, List.length_cons]
    omega
  · exact Nat.lt_succ_self _

/-- A reference to a name, as it is written. -/
def reference (name : List Char) : List Char := '$' :: '\x7b' :: (name ++ ['\x7d'])

/-- Replace a pattern from left to right, after `skip` characters that belong to the occurrence
replaced last. -/
def replaceFrom (pattern value : List Char) (skip : Nat) : List Char → List Char
  | [] => []
  | c :: rest =>
    match skip with
    | skip + 1 => replaceFrom pattern value skip rest
    | 0 =>
      if pattern.isPrefixOf (c :: rest) then
        value ++ replaceFrom pattern value (pattern.length - 1) rest
      else c :: replaceFrom pattern value 0 rest

/-- Replace every occurrence of a pattern. -/
def replaceAll (pattern value s : List Char) : List Char := replaceFrom pattern value 0 s

/-- Replace every occurrence of one reference, if its variable is set. -/
def expandName (env : Environment) (s name : List Char) : List Char :=
  match env (String.ofList name) with
  | some value => replaceAll (reference name) value.toList s
  | none => s

/-- Expand the references in a text. -/
def expand (env : Environment) (text : String) : String :=
  String.ofList ((references text.toList).foldl (expandName env) text.toList)

end DataSchema.Config
