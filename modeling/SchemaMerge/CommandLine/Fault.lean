import SchemaMerge.Failure
import SchemaMerge.Json.Reader

namespace SchemaMerge.CommandLine

inductive UsageFault where
  | unknownOption (name : String)
  | missingValue (name : String)
  | unwantedValue (name : String)
  | unknownChoice (name value : String)
  | unreadableFile (path : String)
  | unexpectedArgument (argument : String)
  deriving DecidableEq, Repr

def UsageFault.message : UsageFault → String
  | .unknownOption name => s!"no such option: {name}"
  | .missingValue name => s!"option {name} needs a value"
  | .unwantedValue name => s!"option {name} takes no value"
  | .unknownChoice name value => s!"{value} is no value of option {name}"
  | .unreadableFile path => s!"{path} cannot be read"
  | .unexpectedArgument argument => s!"unexpected argument: {argument}"

inductive Fault where
  | usage (fault : UsageFault)
  | noInput
  | blankDocument
  | notJson (fault : ReadFault)
  | malformed (failure : Failure)

namespace Fault

def message : Fault → String
  | .usage fault => fault.message
  | .noInput => "No input provided via stdin."
  | .blankDocument => "document is empty"
  | .notJson fault => s!"document is not valid JSON: {fault.message}"
  | .malformed failure => failure.message

def exitCode : Fault → Nat
  | .malformed _ => 1
  | _ => 2

end Fault

end SchemaMerge.CommandLine
