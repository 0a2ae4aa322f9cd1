import DataSchema.Files.Reading
import DataSchema.Stored.Schema
import DataSchema.Text.Quoted

/-!
# DataSchema.Report

**A schema for people to read**, and the program that prints it. The report has a title with the
counts, one line for each enumeration, and a section for each model with its properties and its
relations. Instead of the report the program can print the stored form of the schema.
-/

namespace DataSchema

/-- A text with spaces after it, up to a width in characters. -/
def padRight (width : Nat) (s : String) : String :=
  s ++ String.ofList (List.replicate (width - s.length) ' ')

/-- The line of an enumeration. -/
def Enumeration.report (e : Enumeration) : String :=
  "enum " ++ e.name ++ " " ++ Text.quotedList e.values ++ "\n"

/-- The line of a property. -/
def Property.report (p : Property) : String :=
  "  " ++ padRight 40 p.text ++ " -> " ++ p.wireName ++ "\n"

/-- The line of a relation entry. -/
def RelationEntry.report (c : Cardinality) (e : RelationEntry) : String :=
  "  [" ++ c.text ++ "] " ++ e.key ++ " -> " ++ e.value ++
    (match e.deepKey with
    | some fields => " (deep key: " ++ ", ".intercalate fields ++ ")"
    | none => "") ++ "\n"

/-- The lines of a record. -/
def RelationRecord.report (r : RelationRecord) : String :=
  String.join (r.toList.map fun (c, e) => e.report c)

/-- The section of a model. -/
def Schema.reportModel (s : Schema) (m : Model) : String :=
  "\nmodel " ++ m.name ++ "\n" ++ String.join (m.properties.map Property.report) ++
    ((s.relations.get? m.name).map RelationRecord.report).getD ""

/-- The whole report. -/
def Schema.report (s : Schema) : String :=
  "=== " ++ s.summary ++ " ===\n\n" ++ String.join (s.enums.values.map Enumeration.report) ++
    String.join (s.models.values.map s.reportModel)

/-! ### The program -/

/-- How the program prints a schema. A variable of the environment selects it. -/
inductive OutputStyle
  /-- As a report. -/
  | report
  /-- In its stored form, on several lines. -/
  | json
deriving DecidableEq, Repr, Inhabited

/-- The name of the variable. -/
def OutputStyle.variableName : String := "NESTGEN_OUTPUT"

/-- The style that an environment asks for. -/
def OutputStyle.ofEnvironment (env : Config.Environment) : OutputStyle :=
  if env variableName = some "json" then .json else .report

/-- What the program prints for a schema. -/
def Schema.print (s : Schema) : OutputStyle → String
  | .report => s.report
  | .json => s.toIndentedJson ++ "\n"

/-- The output of the program: the schema at a path, read with the configuration in the directory if
there is one. Without a path it is the schema that the configuration names. -/
def printSchema {m : Type → Type} [Monad m] (fs : FileSystem m) (env : Config.Environment)
    (path : Option String) : ExceptT SchemaError m String := do
  let config ←
    if ← (fs.contains Config.fileName : m _) then Config.ofFile fs env Config.fileName
    else pure {}
  let schema ← Schema.compileFile fs (path.getD config.schemaPath) config.markers
  return schema.print (.ofEnvironment env)

end DataSchema
