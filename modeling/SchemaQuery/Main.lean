import SchemaQuery.CommandLine.Response

/-!
# The program

Reads the files and the input that a command line asks for, runs the command on them, and prints its
line. A command line that cannot be read ends with the exit code 2, a configuration that cannot be
used with 1.
-/

namespace SchemaQuery.Program

/-- Why a file cannot be read. -/
def fileError : IO.Error → FileError
  | .permissionDenied .. => .denied
  | .inappropriateType _ code _ => if code = 20 then .notDirectory else .isDirectory
  | _ => .notFound

/-- The result of reading something on disk. -/
def attempt {α : Type} (action : IO α) : IO (Except FileError α) := do
  match ← action.toBaseIO with
  | .ok value => return .ok value
  | .error error => return .error (fileError error)

/-- The text that bytes encode. -/
def decode (bytes : ByteArray) : Except FileError String :=
  match String.fromUTF8? bytes with
  | some text => .ok text
  | none => .error .notText

/-- The text of the file at a location. -/
def readText (location : String) : IO (Except FileError String) := do
  if location.toList.contains '\x00' then return .error .nullInName
  else return (← attempt (IO.FS.readBinFile location)).bind decode

/-- The files in the directory at a location. -/
def readDirectory (location : String) : IO Listing := do
  if location.toList.contains '\x00' then return .error .nullInName
  match ← attempt (do (← IO.FS.realPath location).readDir) with
  | .error error => return .error error
  | .ok entries =>
    return .ok (← entries.toList.mapM fun entry => do
      return (entry.fileName, ← readText entry.path.toString))

/-- What a command can learn of the files at its locations. -/
def filesOf (config data : String) : IO FileSystem := do
  let configText ← readText config
  let dataText ← readText data
  let listing ← match Config.ofFile config configText with
    | .ok config => readDirectory config.schemaDir
    | .error _ => pure (.error .notFound)
  return {
    readText := fun location => if location = data then dataText else configText
    readDirectory := fun _ => listing }

/-- The files of a command. -/
def filesFor : CommandLine.Command → IO FileSystem
  | .find config _ data _ _ _ _ => filesOf config data
  | .compile config _ | .paths config _ => filesOf config config
  | .operators _ => return (FileTree.directory []).toFileSystem

/-- The input of a command that reads a query. -/
def inputFor : CommandLine.Command → IO (Option String)
  | .compile .. | .find .. => do
    let bytes ← (← IO.getStdin).readBinToEnd
    return String.fromUTF8? bytes
  | .operators _ | .paths .. => return some ""

/-- Runs a command and prints its line. -/
def run (command : CommandLine.Command) : IO UInt32 := do
  match CommandLine.run (← filesFor command) (← inputFor command) command with
  | .ok answer =>
    IO.println (CommandLine.line answer)
    return 0
  | .error error =>
    IO.eprintln (ConfigError.code ++ ": " ++ error.message)
    return 1

end SchemaQuery.Program

/-- The program. -/
def main (arguments : List String) : IO UInt32 := do
  match SchemaQuery.CommandLine.parse arguments with
  | .ok invocation => SchemaQuery.Program.run invocation.command
  | .error .displayHelp => return 0
  | .error .displayVersion => return 0
  | .error error =>
    IO.eprintln error.kind
    return 2
