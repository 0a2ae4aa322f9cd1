import DataSchema.Report

/-!
# DataSchema.Main

**The command line.** The program takes the path of a schema, reads the configuration in the current
directory if there is one, and prints the schema. Without a path it prints the schema that the
configuration names. The variable `NESTGEN_OUTPUT` selects the stored form. All decisions are made
by `printSchema`; here are only the reading of files and variables and the writing of the result.
-/

namespace DataSchema

/-- Why the file at a path could not be read, by the error of the operating system. -/
def readFailure (path : String) : IO.Error → ReadFailure
  | .inappropriateType .. => .isDirectory
  | .invalidArgument .. => if '\x00' ∈ path.toList then .nulInPath else .nameTooLong
  | _ => .notFound

/-- The files of the operating system. -/
def diskFiles : FileSystem IO where
  contains path := do
    try
      discard (IO.FS.Handle.mk path .read)
      return true
    catch _ => return false
  read path := do
    try
      return .ok (← IO.FS.readBinFile path)
    catch e => return .error (readFailure path e)

/-- The variables that the program or a settings text refers to, with their values. -/
def environmentFor (text : String) : IO Config.Environment := do
  let names := OutputStyle.variableName :: (Config.references text.toList).map String.ofList
  let set ← names.filterMapM fun name => do
    return (← IO.getEnv name).map (name, ·)
  return .ofList set

/-- Print the schema at a path, or say why not. -/
def runProgram (path : Option String) : IO UInt32 := do
  let settings := match ← (diskFiles.readText Config.fileName).run with
    | .ok text => text
    | .error _ => ""
  let env ← environmentFor settings
  match ← (printSchema diskFiles env path).run with
  | .ok output =>
    IO.print output
    return 0
  | .error e =>
    IO.eprintln ("Error: " ++ e.message)
    return 1

end DataSchema

/-- The program: one optional argument, the path of a schema. -/
def main (args : List String) : IO UInt32 :=
  DataSchema.runProgram args.head?
