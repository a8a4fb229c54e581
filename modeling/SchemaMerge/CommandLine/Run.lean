import SchemaMerge.CommandLine.Arguments
import SchemaMerge.CommandLine.Options
import SchemaMerge.Draft.Fit

namespace SchemaMerge.CommandLine

def Mode.named? : String → Option Mode
  | "all-of" => some .allOf
  | "any-of" => some .anyOf
  | "one-of" => some .oneOf
  | "subschemas" => some .subschemas
  | _ => none

inductive Source where
  | unnamed
  | standardInput
  | file (path : String)
  deriving DecidableEq, Repr

structure Surroundings where
  input : Option String
  contents : String → Option String

namespace Arguments

def source (arguments : Arguments) : Source :=
  match arguments.document with
  | .none => .unnamed
  | some "-" => .standardInput
  | some path => .file path

def target (arguments : Arguments) : Option String := arguments.output.filter (· ≠ "-")

def mode (arguments : Arguments) : Except UsageFault Mode :=
  match arguments.merge with
  | .none => .ok .subschemas
  | some name => (Mode.named? name).elim (.error (.unknownChoice "--merge" name)) .ok

end Arguments

def unified : List Char → List Char
  | [] => []
  | '\r' :: '\n' :: rest => '\n' :: unified rest
  | '\r' :: rest => '\n' :: unified rest
  | letter :: rest => letter :: unified rest

/-- Every line break of a text becomes a line feed. -/
def withUnifiedLines (text : String) : String := String.ofList (unified text.toList)

def readSource (surroundings : Surroundings) : Source → Except UsageFault (Option String)
  | .unnamed => .ok none
  | .standardInput => .ok (some (surroundings.input.getD ""))
  | .file path =>
    match surroundings.contents path with
    | some text => .ok (some text)
    | none => .error (.unreadableFile path)

/-- Faults in the options come before faults in what they name, and those before the document's. -/
def run (surroundings : Surroundings) (list : List String) : Except Fault Report := do
  let arguments ← (Arguments.read list).mapError .usage
  if arguments.version then return ⟨[], .version, none⟩
  let mode ← arguments.mode.mapError .usage
  let text ← (readSource surroundings arguments.source).mapError .usage
  if let argument :: _ := arguments.others then throw (.usage (.unexpectedArgument argument))
  let options : Options :=
    { mode, onlySingle := arguments.onlySingle, skipAllOf := arguments.skipAllOf,
      skipAnyOf := arguments.skipAnyOf, skipOneOf := arguments.skipOneOf, check := arguments.check,
      verbose := arguments.verbose, document := text.map withUnifiedLines, output := arguments.target }
  options.run Draft.validators (surroundings.input.map withUnifiedLines)

end SchemaMerge.CommandLine
