import Delimited.Error

/-!
# Log events

What happens while text is read and configurations are loaded, for those who want to watch. An event
has a level and a text that starts with it.
-/

namespace Delimited

/-- How much an event matters. -/
inductive Level where
  | trace
  | debug
  | warn
  deriving DecidableEq, Repr

namespace Level

/-- The order of the levels. -/
def rank : Level → Nat
  | .trace => 0
  | .debug => 1
  | .warn => 2

/-- The word for a level. -/
def name : Level → String
  | .trace => "TRACE"
  | .debug => "DEBUG"
  | .warn => "WARN"

end Level

/-- Something worth noting. -/
inductive Event where
  /-- A comment line was passed over, as the line with this number. -/
  | skippedComment (line : Nat)
  /-- An empty line was passed over, as the line with this number. -/
  | skippedEmpty (line : Nat)
  /-- A logical line was read: its first and last physical line and its number of fields. -/
  | readLine (first last fields : Nat)
  /-- The end of the text was met behind the line with this number. -/
  | endOfStream (line : Nat)
  /-- The comment character was set to one that the options do not admit. -/
  | commentConflict (fault : OptionFault)
  /-- A source met a failure and ended. -/
  | streamFailed (error : StreamError)
  /-- A project configuration was looked for at a path. -/
  | projectFile (path : String) (found : Bool)
  /-- A configuration was put together; the text shows it. -/
  | configLoaded (shown : String)
  deriving DecidableEq, Repr

namespace Event

/-- How much an event matters. -/
def level : Event → Level
  | .skippedComment _ => .trace
  | .skippedEmpty _ => .trace
  | .readLine _ _ _ => .trace
  | .endOfStream _ => .debug
  | .commentConflict _ => .warn
  | .streamFailed _ => .warn
  | .projectFile _ _ => .debug
  | .configLoaded _ => .debug

/-- What an event says. -/
def text : Event → String
  | .skippedComment line => "skipping comment line line=" ++ toString line
  | .skippedEmpty line => "skipping empty line line=" ++ toString line
  | .readLine first last fields =>
      "read logical line line=" ++ toString first ++ " last_line=" ++ toString last ++
        " fields=" ++ toString fields
  | .endOfStream line => "end of stream line=" ++ toString line
  | .commentConflict fault =>
      "comment character conflicts with the reader options err=" ++
        (Error.invalidOption fault).message
  | .streamFailed error =>
      "character stream failed, treating as end of input error=" ++ error.message
  | .projectFile path found =>
      "project configuration path=" ++ path ++ " exists=" ++ (if found then "true" else "false")
  | .configLoaded shown => "configuration loaded config=" ++ shown

/-- The line of a log that notes an event. -/
def message (event : Event) : String :=
  event.level.name ++ " " ++ event.text

/-- The lines of a log that shows the events of a level and above. -/
def log (threshold : Level) (events : List Event) : List String :=
  (events.filter fun event ↦ threshold.rank ≤ event.level.rank).map message

end Event

end Delimited
