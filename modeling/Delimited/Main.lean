import Delimited.Cli.Run

/-!
# The command line program

Asks for what a run needs of its surroundings, runs, prints, and ends with the exit code. Which files
are needed is known before the run starts, and it depends on no others: `Cli.run_congr`.

Left out is the log: `Event` says what is noted, but nothing filters the events by a variable of the
environment or prints them. The standard input is read to its end before the run starts, and what the
run prints is written behind it; a standard output that fails stops the program without a report. What
failing outputs mean for records is said by `Sink`.

Nothing is left to libraries. What a program would take from them is written out as far as this one
uses it: the command line (`Cli.Request.ofArguments`), the merging of settings (`Config.library`), and
the languages TOML (`Toml.parse?`), JSON (`Json.parse?` and `Json.records`) and YAML (`Yaml.records`).
The loading of settings can be done with any other `Config.Library`.
-/

namespace Delimited.Cli

/-- Why the file system refuses an answer. -/
def faultOf : IO.Error → FileFault
  | .inappropriateType _ 21 _ => .isDirectory
  | .inappropriateType _ _ _ => .notDirectory
  | .invalidArgument _ 36 _ => .nameTooLong
  | .permissionDenied _ _ _ => .denied
  | _ => .missing

/-- Look a path up in the file system. -/
def lookUp (path : String) : IO Lookup := do
  try
    let bytes ← IO.FS.readBinFile path
    return .file bytes.toList
  catch error =>
    match faultOf error with
    | .isDirectory => return .directory
    | fault => return .none fault

/-- Ask for the working directory. -/
def askDirectory : IO (Except StreamError (List String)) := do
  try
    return .ok (FilePath.components (← IO.currentDir).toString)
  catch error => return .error (.device (faultOf error).message)

/-- Read the standard input to its end. -/
partial def readInput (stream : IO.FS.Stream) (read : Array StreamEvent) :
    IO (Array StreamEvent) := do
  let bytes ← stream.read 65536
  if bytes.isEmpty then return read
  readInput stream (read.push (.data bytes.toList))

/-- The answers of the file system about some paths. -/
def lookUpAll (paths : List String) : IO Files := do
  let answers ← paths.mapM fun path ↦ return (path, ← lookUp path)
  return fun path ↦ (Assoc.get? path answers).getD (.none .missing)

/-- What a run asks for. The standard input is not read before it is known that it is asked for. -/
def askSurroundings (arguments : List String) : IO Surroundings := do
  let directory ← askDirectory
  let paths := configPaths directory arguments
  let surroundings : Surroundings := { files := ← lookUpAll paths, input := [], directory }
  match inputPath? surroundings arguments with
  | none => return surroundings
  | some path =>
      if path = standardInput then
        return { surroundings with input := (← readInput (← IO.getStdin) #[]).toList }
      return { surroundings with files := ← lookUpAll (path :: paths) }

end Delimited.Cli

open Delimited Cli in
/-- Run the program. -/
def main (arguments : List String) : IO UInt32 := do
  let outcome := run (← askSurroundings arguments) arguments
  let output ← IO.getStdout
  output.write outcome.output
  output.flush
  match outcome.error with
  | some error => IO.eprintln (report error)
  | none => pure ()
  return outcome.code.toUInt32
