import DataSchema.Config.Basic
import DataSchema.Files.Tree
import DataSchema.Schema

/-!
# DataSchema.Files.Reading

**Schemas and configurations in files.** Where files come from is a parameter: a `FileSystem` says
in some monad which paths exist and what is in them. A `FileTree` is one in the identity monad, so
whatever is built on this module can be evaluated and reasoned about without a disk.
-/

namespace DataSchema

/-- A source of files. -/
structure FileSystem (m : Type → Type) where
  /-- Does the path lead to a file or a directory? -/
  contains : String → m Bool
  /-- The bytes of a file. -/
  read : String → m (Except ReadFailure ByteArray)

/-- The files of a tree. -/
def FileTree.fileSystem (t : FileTree) : FileSystem Id := ⟨t.exists?, t.read⟩

variable {m : Type → Type} [Monad m]

/-- The text of a file. Bytes that are not UTF-8 are no text. -/
def FileSystem.readText (fs : FileSystem m) (path : String) : ExceptT SchemaError m String := do
  match ← (fs.read path : m _) with
  | .error failure => throw (.io path failure)
  | .ok bytes =>
    match String.fromUTF8? bytes with
    | some text => return text
    | none => throw (.io path .invalidData)

/-- Compile the schema in a file. -/
def Schema.compileFile (fs : FileSystem m) (path : String) (markers : Markers := {}) :
    ExceptT SchemaError m Schema :=
  return Schema.compile (← fs.readText path) markers

/-- Read the configuration in a file. -/
def Config.ofFile (fs : FileSystem m) (env : Config.Environment) (path : String) :
    ExceptT SchemaError m Config := do
  Config.parse env (← fs.readText path)

/-- Compile the schema that a configuration names. -/
def Schema.compileConfigured (fs : FileSystem m) (config : Config) :
    ExceptT SchemaError m Schema :=
  Schema.compileFile fs config.schemaPath config.markers

end DataSchema
