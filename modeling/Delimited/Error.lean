import Delimited.Options
import Delimited.Config.Error
import Delimited.Source.Basic

/-!
# Errors

Reading never fails by itself; these are the causes for which everything around it does, and the
text that reports each.
-/

namespace Delimited

/-- Why an operation failed. -/
inductive Error where
  /-- The configuration could not be put together. -/
  | config (error : Config.Error)
  /-- A device refused to read or write. -/
  | io (error : StreamError)
  /-- An option was refused. -/
  | invalidOption (fault : OptionFault)
  /-- A document could not be written out. -/
  | output (reason : String)

namespace Error

/-- The text that reports an error. -/
def message : Error → String
  | .config error => "Configuration error: " ++ error.text
  | .io error => "I/O error: " ++ error.message
  | .invalidOption fault => "Invalid option: " ++ fault.message
  | .output reason => "Output error: " ++ reason

/-- The text of the error below, where there is one. -/
def cause? : Error → Option String
  | .config error => some error.text
  | .io error => some error.message
  | .invalidOption _ => none
  | .output _ => none

end Error

end Delimited
