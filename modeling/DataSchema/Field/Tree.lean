import DataSchema.Field.Syntax

/-!
# DataSchema.Field.Tree

**The rules of the field grammar, one by one.** `Rule.read?` reads one rule at the front of a text
and answers with the tree of what it read: which rule matched which piece, and where, counted in
bytes. It is a view of the readers of `Field.Lexical` and `Field.Syntax` for tools that show how a
line is taken apart.

Three rules leave no node: strings, groups and gaps are punctuation of the rules that use them. Read
on their own, strings and groups are also a little looser: gaps may stand between a backslash and
the character that it takes.
-/

namespace DataSchema.Field

open Text (Quoting)

/-- The rules of the grammar. -/
inductive Rule
  /-- A name. -/
  | name
  /-- A string in double quotes. -/
  | string
  /-- A group in parentheses. -/
  | group
  /-- A type token. -/
  | type
  /-- The path of an attribute. -/
  | path
  /-- The arguments of an attribute, with their parentheses. -/
  | args
  /-- An attribute. -/
  | attr
  /-- A whole line. -/
  | line
  /-- One gap character. -/
  | gap
  /-- The end of the text. -/
  | finish
deriving DecidableEq, Repr, Inhabited

namespace Rule

/-- Every rule. -/
def all : List Rule := [name, string, group, type, path, args, attr, line, gap, finish]

/-- The name under which a rule is known. -/
def label : Rule → String
  | name => "identifier"
  | string => "string_literal"
  | group => "paren_group"
  | type => "type_token"
  | path => "attribute_path"
  | args => "attribute_args"
  | attr => "attribute"
  | line => "field_line"
  | gap => "WHITESPACE"
  | finish => "EOI"

end Rule

/-- A piece of text that a rule matched, with the pieces inside it. -/
inductive Node
  /-- The rule, the text, the bytes where it starts and stops, and the inner nodes. -/
  | mk (rule : Rule) (text : List Char) (start stop : Nat) (inner : List Node)
deriving Inhabited

/-- The length of a text in bytes. -/
def byteSize (s : List Char) : Nat := s.foldr (fun c size => c.utf8Size + size) 0

/-- The node of a text that starts at a byte. -/
def Node.at (start : Nat) (rule : Rule) (text : List Char) (inner : List Node) : Node :=
  .mk rule text start (start + byteSize text) inner

/-- The node of an attribute. -/
def AttributeSyntax.node (a : AttributeSyntax) (start : Nat) : Node :=
  let path := Node.at (start + 1) .path a.path []
  let args := a.args.toList.map fun text => Node.at (start + 1 + byteSize a.path) .args text []
  Node.at start .attr a.text (path :: args)

/-- The nodes of attributes with gaps between them. -/
def attributeNodes (start : Nat) : List (AttributeSyntax × List Char) → List Node
  | [] => []
  | (a, gap) :: rest => a.node start :: attributeNodes (start + byteSize (a.text ++ gap)) rest

/-- The node of a line: its name, its type, its attributes and the end of the text. -/
def FieldSyntax.node (f : FieldSyntax) : Node :=
  let name := byteSize f.lead
  let type := name + byteSize (f.name ++ f.nameGap)
  let attributes := type + byteSize (f.type ++ f.typeGap)
  Node.at 0 .line f.text
    (Node.at name .name f.name [] :: Node.at type .type f.type [] ::
      (attributeNodes attributes f.attributes ++ [Node.at (byteSize f.text) .finish [] []]))

/-! ### Rules read on their own -/

/-- As `Quoting.next`, but a gap after a backslash is skipped. -/
def Quoting.nextSkippingGaps : Quoting → Char → Quoting
  | .escaped, c => if isGap c then .escaped else .quoted
  | quoting, c => quoting.next c

/-- Is there an end to the string that is open? -/
def stringCloses : Quoting → List Char → Bool
  | _, [] => false
  | quoting, c :: rest =>
    match Quoting.nextSkippingGaps quoting c with
    | .plain => true
    | next => stringCloses next rest

/-- A single node for what a token reader read. -/
def Node.ofToken (rule : Rule) : Option (List Char × List Char) → Option (List Node)
  | some (text, _) => some [Node.at 0 rule text []]
  | none => none

/-- Read one rule at the front of a text. -/
def Rule.read? (rule : Rule) (s : List Char) : Option (List Node) :=
  match rule with
  | name => Node.ofToken name (identifier s)
  | type => Node.ofToken type (typeToken s)
  | path => Node.ofToken path (attributePath s)
  | args => Node.ofToken args (Field.group s)
  | attr => (readAttribute s).map (fun (a, _) => [a.node 0])
  | line => (FieldSyntax.parse? s).map (fun f => [f.node])
  | string =>
    match s with
    | '"' :: rest => if stringCloses .quoted rest then some [] else none
    | _ => none
  | group =>
    match s with
    | '(' :: rest =>
      (closeGroup Quoting.nextSkippingGaps 0 .plain rest).map (fun _ => [])
    | _ => none
  | gap =>
    match s with
    | c :: _ => if isGap c then some [] else none
    | [] => none
  | finish => if s = [] then some [Node.at 0 finish [] []] else none

end DataSchema.Field
