import Delimited.Cli.Arguments
import Delimited.Config.Builder
import Delimited.Config.Loader
import Delimited.Output.Write
import Delimited.Source.LineSource

/-!
# Running the program

The program prints the records of a file, or of the standard input, in the format that is configured.
Settings are loaded first, then the input is opened; if either fails nothing is printed. A failure in
the middle of the input ends the records: those read before it are printed in full, and then the
failure is reported.
-/

namespace Delimited.Cli

/-- The help text. -/
def helpText : String :=
  "Print the records of comma separated text\n" ++
  "\n" ++
  "Usage: simcsv [OPTIONS] [path]\n" ++
  "\n" ++
  "Arguments:\n" ++
  "  [path]  Path to the input file, or '-' for stdin [default: -]\n" ++
  "\n" ++
  "Options:\n" ++
  "  -c, --config <config>        TOML configuration file layered over the defaults and " ++
  "./simcsv.toml\n" ++
  "      --comment <comment>      Comment character\n" ++
  "  -d, --delimiter <delimiter>  Field delimiter\n" ++
  "      --trim                   Strip whitespace around unquoted fields\n" ++
  "      --keep-empty             Report empty lines as records without fields\n" ++
  "  -f, --format <format>        Output format [possible values: json, jsonl, yaml, tag]\n" ++
  "  -h, --help                   Print help\n" ++
  "  -V, --version                Print version\n"

/-- The version. -/
def versionText : String := "simcsv 0.1.0\n"

/-- The path that stands for the standard input. -/
def standardInput : String := "-"

/-- What the program meets when it runs. -/
structure Surroundings where
  /-- What the file system answers about paths. -/
  files : Files
  /-- What reading the standard input meets. -/
  input : List StreamEvent
  /-- The working directory, by its parts, or the failure that asking for it met. -/
  directory : Except StreamError (List String) := .ok []

/-- How a run ends. -/
structure Outcome where
  /-- The exit code. -/
  code : Nat
  /-- What was printed. -/
  output : ByteArray
  /-- The error that is reported. -/
  error : Option Error := none

/-- The text that reports an error. -/
def report (error : Error) : String :=
  "Error: " ++ error.message

/-- The size of input buffers. -/
def bufferSize : Nat := 8192

/-- The layers that arguments ask for: the project file of the working directory, a file that is
named, and the single options. -/
def loader (directory : List String) (arguments : Arguments) :
    Except Error (Config.Loader Config.library) := do
  let start := Config.Loader.new.withProjectFile (FilePath.ofDirectory directory)
  let layered :=
    match arguments.config with
    | some path => start.withFile path
    | none => start
  let layered ← set layered "reader.comment_char" (arguments.comment.map text)
  let layered ← set layered "reader.delimiter" (arguments.delimiter.map text)
  let layered ← set layered "reader.trim" (if arguments.trim then some (.bool true) else none)
  let layered ← set layered "reader.skip_empty"
    (if arguments.keepEmpty then some (.bool false) else none)
  set layered "output.format" (arguments.format.map fun format ↦ .string format.name)
where
  /-- A character as a value. -/
  text (char : Char) : Value :=
    .string char.toString
  /-- Set a key if there is a value for it. -/
  set (loader : Config.Loader Config.library) (key : String) (value : Option Value) :
      Except Error (Config.Loader Config.library) :=
    match value with
    | some value => loader.setOverride key value
    | none => .ok loader

/-- The settings that arguments ask for. The working directory has to be known for its project file. -/
def loadSettings (surroundings : Surroundings) (arguments : Arguments) : Except Error Settings :=
  match surroundings.directory with
  | .error error => .error (.io error)
  | .ok directory =>
      (loader directory arguments).bind fun loader ↦ loader.build surroundings.files directory

/-- What reading meets at a path that was looked up, given what reading the standard input meets. A
directory can be opened, but not read. -/
def openFile (input : List StreamEvent) : Lookup → Except Error (List StreamEvent)
  | .none fault => .error (.io (.device fault.message))
  | .directory => .ok [.failure FileFault.isDirectory.message]
  | .file bytes => .ok [.data bytes]
  | .emptyDevice => .ok []
  | .inputDevice => .ok input

/-- Open the input. -/
def openInput (surroundings : Surroundings) (path : String) : Except Error (List StreamEvent) :=
  if path = standardInput then .ok surroundings.input
  else openFile surroundings.input (surroundings.files path)

/-- Print the records of an input, and report the failure that ended it. -/
def printRecords (settings : Settings) (input : List StreamEvent) : Outcome :=
  let source : LineSource := { stream := { capacity := bufferSize, pending := input } }
  match Reader.ofOptions source settings.reader with
  | .error fault => { code := 1, output := .empty, error := some (.invalidOption fault) }
  | .ok reader =>
      let start : RecordReader LineSource := { reader }
      let writing := writeRecords settings.format start {}
      let failure := writing.records.reader.source.error.map Error.io
      let error := writing.error.or failure
      { code := if error.isSome then 1 else 0, output := writing.sink.written, error }

/-- A run that ends with an error before anything is printed. -/
def Outcome.failed (error : Error) : Outcome :=
  { code := 1, output := .empty, error := some error }

/-- Run the program. -/
def run (surroundings : Surroundings) (arguments : List String) : Outcome :=
  match Request.ofArguments arguments with
  | .help => { code := 0, output := helpText.toUTF8 }
  | .version => { code := 0, output := versionText.toUTF8 }
  | .usageError => { code := 2, output := .empty }
  | .records arguments =>
      match loadSettings surroundings arguments with
      | .error error => .failed error
      | .ok settings =>
          match openInput surroundings (arguments.path.getD standardInput) with
          | .error error => .failed error
          | .ok input => printRecords settings input

/-- The paths at which a run looks for configuration files. -/
def configPaths (directory : Except StreamError (List String)) (arguments : List String) :
    List String :=
  match Request.ofArguments arguments, directory with
  | .records arguments, .ok directory =>
      match loader directory arguments with
      | .error _ => []
      | .ok loader =>
          let layers : Config.Builder := loader.builder
          layers.sources.flatMap (Config.Source.paths directory)
  | _, _ => []

/-- The path of the input that a run opens, if it comes to that. -/
def inputPath? (surroundings : Surroundings) (arguments : List String) : Option String :=
  match Request.ofArguments arguments with
  | .records arguments =>
      match loadSettings surroundings arguments with
      | .error _ => none
      | .ok _ => some (arguments.path.getD standardInput)
  | _ => none

end Delimited.Cli
