import SchemaMerge.CommandLine.Fault
import SchemaMerge.CommandLine.Report
import SchemaMerge.OpenApi.Merge
import SchemaMerge.Text.Blank

/-!
A run with its options: reads one document, merges its schemas, has the result checked if that is asked
for, and writes it. A run that fails writes nothing.
-/

namespace SchemaMerge.CommandLine

open Schema (Validators Rejection)

inductive Mode where
  | allOf
  | anyOf
  | oneOf
  | subschemas
  deriving DecidableEq, Repr

structure Options where
  mode : Mode := .subschemas
  onlySingle : Bool := false
  skipAllOf : Bool := false
  skipAnyOf : Bool := false
  skipOneOf : Bool := false
  check : Bool := false
  verbose : Bool := false
  document : Option String := none
  output : Option String := none
  deriving DecidableEq, Repr

def isExpected (failure : Failure) : Bool :=
  match failure.kind with
  | .empty | .unsupported | .depth | .unavailable => true
  | .malformed | .infinite => false

/-- The document's text. There is no input where a terminal has not been asked for any. -/
def documentText (document input : Option String) : Except Fault String :=
  match document, input with
  | some text, _ => .ok text
  | none, some text => .ok text
  | none, none => .error .noInput

def parseDocument (text : String) : Except Fault Json :=
  if text.toList.all (fun letter => Text.isBlank letter.toNat) then .error .blankDocument
  else (Json.parse text).mapError .notJson

def namedSchemas : Json → Members
  | .object members => OpenApi.namedSchemas members
  | _ => []

variable {δ : Type}

def firstInvalid (validators : Validators δ) : Members → Option (String × Rejection)
  | [] => none
  | (name, schema) :: rest =>
    match validators.check schema with
    | .ok _ => firstInvalid validators rest
    | .error rejection => some (name, rejection)

namespace Options

def step (options : Options) : OpenApi.Step :=
  match options.mode with
  | .allOf => .allOf options.onlySingle
  | .anyOf => .alternatives "anyOf"
  | .oneOf => .alternatives "oneOf"
  | .subschemas =>
    .subschemas (fun _ => options.skipAllOf) (fun _ => options.skipAnyOf) (fun _ => options.skipOneOf)

def shows (options : Options) (notice : OpenApi.Notice) : Bool :=
  options.verbose || notice.level = .warning

def checked (options : Options) (validators : Validators δ) (document : Json) : Ending :=
  match if options.check then firstInvalid validators (namedSchemas document) else none with
  | some (name, rejection) => .invalid name rejection
  | none => .written document

def merge (options : Options) (validators : Validators δ) (document : Json) : Except Fault Report :=
  let (result, notices) := (OpenApi.visit options.step (.one .document) document).outcome
  let shown := notices.filter options.shows
  match result with
  | .ok merged => .ok ⟨shown, options.checked validators merged, options.output⟩
  | .error failure =>
    if isExpected failure then .ok ⟨shown, .failed failure, options.output⟩
    else .error (.malformed failure)

def run (options : Options) (validators : Validators δ) (input : Option String) : Except Fault Report := do
  let text ← documentText options.document input
  let document ← parseDocument text
  options.merge validators document

end Options

end SchemaMerge.CommandLine
