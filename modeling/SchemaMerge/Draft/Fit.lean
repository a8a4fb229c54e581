import SchemaMerge.Draft.Form
import SchemaMerge.Json.Canonical
import SchemaMerge.Pattern.Parser
import SchemaMerge.Schema.Check

/-!
Which drafts accept a schema: every keyword in it, at every depth where the draft expects a schema,
has a value of the form that the draft gives it.
-/

namespace SchemaMerge.Draft

def simpleTypes : List String :=
  ["array", "boolean", "integer", "null", "number", "object", "string"]

def isPattern (text : String) : Bool := (Pattern.ofText text.toList).isOk

def startsAnchor (letter : Char) : Bool := letter.isAlpha || letter = '_'

def continuesAnchor (letter : Char) : Bool := letter.isAlphanum || "-._".toList.contains letter

/-- A name, which a line break may end. -/
def isAnchor : List Char → Bool
  | [] => false
  | letter :: rest =>
    startsAnchor letter && (rest.dropWhile continuesAnchor = [] || rest.dropWhile continuesAnchor = ['\n'])

def isIdentifier (text : List Char) : Bool :=
  [[], ['#'], ['#', '\n']].contains (text.dropWhile (· ≠ '#'))

def isCount (draft : Draft) : Number → Bool
  | .int value => 0 ≤ value
  | .float value =>
    draft.hasIntegralDoubles && value.isIntegral && !(Number.float value).lt (.int 0)

def isLeaf (draft : Draft) : Form → Json → Bool
  | .anything, _ => true
  | .text, .string _ => true
  | .pattern, .string text => isPattern text
  | .anchor, .string text => isAnchor text.toList
  | .identifier, .string text => isIdentifier text.toList
  | .boolean, .bool _ => true
  | .number, .number _ => true
  | .positive, .number value => !value.le (.int 0)
  | .count, .number value => draft.isCount value
  | .typeName, .string name => simpleTypes.contains name
  | .typeNames, .string name => simpleTypes.contains name
  | .schema, .bool _ => draft.hasBooleanSchemas
  | .schemaOrBoolean, .bool _ => true
  | .schemaOrSchemas, .bool _ => draft.hasBooleanSchemas
  | .schemaOrNames, .bool _ => draft.hasBooleanSchemas
  | _, _ => false

def member? : Form → Option Form
  | .anything | .list | .distinct => some .anything
  | .typeNames => some .typeName
  | .names | .schemaOrNames => some .text
  | .schemas | .schemaOrSchemas => some .schema
  | _ => none

def least (draft : Draft) : Form → Nat
  | .typeNames | .distinct | .schemas | .schemaOrSchemas => 1
  | .names | .schemaOrNames => draft.leastNames
  | _ => 0

def isDistinct : Form → Bool
  | .typeNames | .names | .schemaOrNames | .distinct => true
  | _ => false

def entry? (draft : Draft) : Form → Option (String → Form)
  | .anything => some (fun _ => .anything)
  | .schema | .schemaOrBoolean | .schemaOrSchemas | .schemaOrNames => some draft.form
  | .entries entry | .patternEntries entry => some (fun _ => entry)
  | _ => none

def namesFit (draft : Draft) (form : Form) (members : Members) : Bool :=
  match form with
  | .patternEntries _ => members.all (fun member => isPattern member.1)
  | .schema | .schemaOrBoolean | .schemaOrSchemas | .schemaOrNames =>
    draft.companions.all (fun pair => !members.contains pair.1 || members.contains pair.2)
  | _ => true

mutual

def fits (draft : Draft) (form : Form) : Json → Bool
  | .array items =>
    match member? form with
    | none => false
    | some member =>
      draft.least form ≤ items.length &&
        (!isDistinct form || (Json.arrangedItems items).Nodup) && fitsItems draft member items
  | .object members =>
    match draft.entry? form with
    | none => false
    | some entry => draft.namesFit form members && fitsMembers draft entry members
  | value => draft.isLeaf form value

def fitsItems (draft : Draft) (form : Form) : List Json → Bool
  | [] => true
  | item :: items => fits draft form item && fitsItems draft form items

def fitsMembers (draft : Draft) (entry : String → Form) : List (String × Json) → Bool
  | [] => true
  | (name, value) :: members => fits draft (entry name) value && fitsMembers draft entry members

end

def accepts (draft : Draft) (schema : Json) : Bool := draft.fits .schema schema

def declared : Json → Draft
  | .object members =>
    match Members.get? members "$schema" with
    | some (.string name) => (named? name).getD .draft202012
    | _ => .draft202012
  | _ => .draft202012

/-- These three drafts as a library. A schema that names another draft is taken for one of the newest. -/
def validators : Schema.Validators Draft := ⟨declared, .draft7, .draft4, accepts⟩

def check (schema : Json) : Except Schema.Rejection Draft := validators.check schema

end SchemaMerge.Draft
