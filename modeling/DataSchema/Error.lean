/-!
# DataSchema.Error

**What can go wrong.** Reading a schema text never fails: a line that is not understood is passed
over, and a type that is not understood is an unsupported one. Failures come from outside the text:
a file that cannot be read, a configuration that does not decode or names an impossible marker, and
a question about a model that does not exist.
-/

namespace DataSchema

/-- Why a file could not be read. -/
inductive ReadFailure
  /-- There is no such file. -/
  | notFound
  /-- The contents are not UTF-8. -/
  | invalidData
  /-- The path leads to a directory. -/
  | isDirectory
  /-- The path goes through a file as if it were a directory. -/
  | notDirectory
  /-- The path holds the character NUL, which no name has. -/
  | nulInPath
  /-- The path, or a name in it, is longer than any can be. -/
  | nameTooLong
deriving DecidableEq, Repr, Inhabited

/-- The failures of the library. -/
inductive SchemaError
  /-- A file could not be read. -/
  | io (path : String) (failure : ReadFailure)
  /-- The schema has no model of this name. -/
  | unknownModel (name : String)
  /-- A configured marker is not well formed. -/
  | malformedMarker (marker : String)
  /-- The configuration does not decode. -/
  | malformedConfig
deriving DecidableEq, Repr, Inhabited

namespace SchemaError

/-- The message for the user. -/
def message : SchemaError → String
  | io path _ => "failed to read file: " ++ path
  | unknownModel name => "model `" ++ name ++ "` is not declared in the schema"
  | malformedMarker marker =>
    "configuration error: invalid attribute marker `" ++ marker ++
      "`: expected `@name` or `@ns.name`"
  | malformedConfig => "failed to parse TOML"

/-- The code by which a failure can be looked up. -/
def code : SchemaError → String
  | io .. => "nestgen::schema::io_error"
  | unknownModel _ => "nestgen::schema::unknown_model"
  | malformedMarker _ => "nestgen::schema::config_error"
  | malformedConfig => "nestgen::schema::toml_error"

/-- Advice for the user. -/
def help? : SchemaError → Option String
  | unknownModel _ => some "check the spelling; model names are case sensitive"
  | _ => none

/-- Did reading a file fail? -/
def isIo : SchemaError → Bool
  | io .. => true
  | _ => false

end SchemaError

end DataSchema
