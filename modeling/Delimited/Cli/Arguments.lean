import Delimited.Output.Format

/-!
# Command line arguments

Options are given by long or short names. The value of an option follows as the next argument, behind
an equals sign, or directly behind a short name; an argument that looks like an option is no value, but
a lone hyphen is. The first argument that is no option is the path; two hyphens end the options.

Arguments are taken from left to right, and the first one that is wrong, or that asks for help or for the
version, decides.
-/

namespace Delimited.Cli

/-- What the arguments ask for. -/
structure Arguments where
  /-- The path of the input. -/
  path : Option String := none
  /-- The path of a configuration file. -/
  config : Option String := none
  comment : Option Char := none
  delimiter : Option Char := none
  trim : Bool := false
  keepEmpty : Bool := false
  format : Option Format := none
  deriving DecidableEq, Repr

/-- The outcome of reading the arguments. -/
inductive Request where
  /-- Print records. -/
  | records (arguments : Arguments)
  /-- Print the help text. -/
  | help
  /-- Print the version. -/
  | version
  /-- The arguments make no sense. -/
  | usageError
  deriving DecidableEq, Repr

/-- The options that have a value. -/
inductive ValueOption where
  | config
  | comment
  | delimiter
  | format
  deriving DecidableEq, Repr

/-- The options that have none. -/
inductive Flag where
  | trim
  | keepEmpty
  | help
  | version
  deriving DecidableEq, Repr

/-- The option with a long name. -/
def longOption? : String → Option (ValueOption ⊕ Flag)
  | "config" => some (.inl .config)
  | "comment" => some (.inl .comment)
  | "delimiter" => some (.inl .delimiter)
  | "format" => some (.inl .format)
  | "trim" => some (.inr .trim)
  | "keep-empty" => some (.inr .keepEmpty)
  | "help" => some (.inr .help)
  | "version" => some (.inr .version)
  | _ => none

/-- The option with a short name. -/
def shortOption? : Char → Option (ValueOption ⊕ Flag)
  | 'c' => some (.inl .config)
  | 'd' => some (.inl .delimiter)
  | 'f' => some (.inl .format)
  | 'h' => some (.inr .help)
  | 'V' => some (.inr .version)
  | _ => none

/-- The single character of a value. -/
def char? (value : String) : Option Char :=
  match value.toList with
  | [char] => some char
  | _ => none

namespace Arguments

/-- Set an option that has not been set. -/
def set? {α : Type} (current : Option α) (value : Option α) : Option (Option α) :=
  match current, value with
  | none, some value => some (some value)
  | _, _ => none

/-- Give an option its value, unless it has one or cannot have this one. -/
def give? (arguments : Arguments) (option : ValueOption) (value : String) : Option Arguments :=
  match option with
  | .config => (set? arguments.config (some value)).map ({ arguments with config := · })
  | .comment => (set? arguments.comment (char? value)).map ({ arguments with comment := · })
  | .delimiter =>
      (set? arguments.delimiter (char? value)).map ({ arguments with delimiter := · })
  | .format =>
      (set? arguments.format (Format.ofName? value)).map ({ arguments with format := · })

/-- Take an argument that is no option. -/
def givePath? (arguments : Arguments) (path : String) : Option Arguments :=
  (set? arguments.path (some path)).map ({ arguments with path := · })

/-- Raise a flag, unless it is raised already, or answer at once. -/
def raise (arguments : Arguments) (flag : Flag) : Request :=
  match flag with
  | .trim => if arguments.trim then .usageError else .records { arguments with trim := true }
  | .keepEmpty =>
      if arguments.keepEmpty then .usageError
      else .records { arguments with keepEmpty := true }
  | .help => .help
  | .version => .version

end Arguments

/-- An argument as it looks. -/
inductive Shape where
  /-- Two hyphens alone. -/
  | ending
  /-- A long name, and what stands behind an equals sign. -/
  | long (name : String) (value : Option String)
  /-- A hyphen and the characters behind it. -/
  | short (letters : List Char)
  /-- Anything else. -/
  | plain (text : String)

/-- How an argument looks. -/
def Shape.ofArgument (argument : String) : Shape :=
  match argument.toList with
  | ['-', '-'] => .ending
  | '-' :: '-' :: rest =>
      let name := rest.takeWhile (· != '=')
      let value :=
        match rest.drop name.length with
        | _ :: value => some (String.ofList value)
        | [] => none
      .long (String.ofList name) value
  | '-' :: first :: rest => .short (first :: rest)
  | _ => .plain argument

/-- The value that stands directly behind a short name, with or without an equals sign. -/
def attached? : List Char → Option String
  | [] => none
  | '=' :: value => some (String.ofList value)
  | value => some (String.ofList value)

/-- What a group of short names leads to. -/
inductive Group where
  /-- The arguments are decided, or go on. -/
  | done (request : Request)
  /-- The value of an option is to follow. -/
  | waiting (option : ValueOption)

/-- Take a group of short names. No flag that lets the group go on has a short name, so the first name
decides. -/
def takeShort (arguments : Arguments) : List Char → Group
  | [] => .done (.records arguments)
  | letter :: rest =>
      match shortOption? letter with
      | none => .done .usageError
      | some (.inr flag) => .done (arguments.raise flag)
      | some (.inl option) =>
          match attached? rest with
          | none => .waiting option
          | some value =>
              match arguments.give? option value with
              | some arguments => .done (.records arguments)
              | none => .done .usageError

/-- Take the arguments behind two hyphens. -/
def takePaths (arguments : Arguments) : List String → Request
  | [] => .records arguments
  | path :: rest =>
      match arguments.givePath? path with
      | some arguments => takePaths arguments rest
      | none => .usageError

/-- Take arguments from left to right; an option may be waiting for its value. -/
def takeAll (arguments : Arguments) : (waiting : Option ValueOption) → List String → Request
  | none, [] => .records arguments
  | some _, [] => .usageError
  | some option, argument :: rest =>
      match Shape.ofArgument argument with
      | .plain value =>
          match arguments.give? option value with
          | some arguments => takeAll arguments none rest
          | none => .usageError
      | _ => .usageError
  | none, argument :: rest =>
      match Shape.ofArgument argument with
      | .ending => takePaths arguments rest
      | .plain path =>
          match arguments.givePath? path with
          | some arguments => takeAll arguments none rest
          | none => .usageError
      | .long name value =>
          match longOption? name, value with
          | none, _ => .usageError
          | some (.inr _), some _ => .usageError
          | some (.inr flag), none =>
              match arguments.raise flag with
              | .records arguments => takeAll arguments none rest
              | request => request
          | some (.inl option), none => takeAll arguments (some option) rest
          | some (.inl option), some value =>
              match arguments.give? option value with
              | some arguments => takeAll arguments none rest
              | none => .usageError
      | .short letters =>
          match takeShort arguments letters with
          | .waiting option => takeAll arguments (some option) rest
          | .done (.records arguments) => takeAll arguments none rest
          | .done request => request

/-- Read the arguments. -/
def Request.ofArguments (arguments : List String) : Request :=
  takeAll {} none arguments

end Delimited.Cli
