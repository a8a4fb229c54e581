import SchemaMerge.OpenApi.Grammar
import SchemaMerge.OpenApi.Notice

/-!
Walking through a document. A step is applied to every schema, after the schemas inside it, and all
else stays as it is, in its place. The visits to an object's fields are collected first, and run in
the order of the fields of its kind.
-/

namespace SchemaMerge.OpenApi

/-- What becomes of an object schema, once the step has been applied to the schemas inside it. -/
abbrev Step := Members → Noted Json

def runFields (pending : List (String × Noted Json)) (members : Members) :
    List String → Noted Members
  | [] => return members
  | name :: names =>
    match pending.lookup name with
    | none => runFields pending members names
    | some action => do
      let value ← action
      runFields pending (members.set name value) names

def finish (step : Step) (kind : Kind) (members : Members) : Noted Json :=
  if kind = .schema then step members else return .object members

/-- A value that no object of the place's kind can be read from. -/
def pass (place : Place) (value : Json) : Noted Json := do
  match place with
  | .one .document => throw (.notDocument value)
  | .one .schema =>
    if !value.isBool then Noted.note (.notSchema value)
    return value
  | _ => return value

mutual

def visit (step : Step) (place : Place) : Json → Noted Json
  | .object members =>
    match place.kind? with
    | some kind => do
      let visited ← runFields (visitFields step kind members) members (kind.fields.map (·.1))
      finish step kind visited
    | none => return .object (← visitEntries step place members)
  | .array items =>
    match place.member? with
    | some member => return .array (← visitItems step member items)
    | none => pass place (.array items)
  | value => pass place value

def visitItems (step : Step) (member : Place) : List Json → Noted (List Json)
  | [] => return []
  | item :: items => do
    let first ← visit step member item
    let others ← visitItems step member items
    return first :: others

def visitEntries (step : Step) (place : Place) : List (String × Json) → Noted Members
  | [] => return []
  | (name, value) :: rest => do
    let first ←
      match place.entry? name value with
      | some entry => visit step entry value
      | none => pure value
    let others ← visitEntries step place rest
    return (name, first) :: others

def visitFields (step : Step) (kind : Kind) : List (String × Json) → List (String × Noted Json)
  | [] => []
  | (name, value) :: rest =>
    match kind.field? name with
    | some place => (name, visit step place value) :: visitFields step kind rest
    | none => visitFields step kind rest

end

end SchemaMerge.OpenApi
