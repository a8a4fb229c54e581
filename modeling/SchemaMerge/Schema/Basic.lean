import SchemaMerge.Failure
import SchemaMerge.Json.Canonical

/-!
Schemas: a boolean, or an object of keywords. True and the empty object accept every value, and
false rejects every value.
-/

namespace SchemaMerge.Schema

def isSchema : Json → Bool
  | .bool _ | .object _ => true
  | _ => false

def isAccept : Json → Bool
  | .bool value => value
  | .object members => members.isEmpty
  | _ => false

def isReject : Json → Bool
  | .bool value => !value
  | _ => false

def checkShape (place : String) (value : Json) : Except Failure Unit :=
  if isSchema value then .ok () else .error (.notSchema place value)

def nullableKeywords : List String := ["const", "default", "example"]

/-- The keywords of a schema; elsewhere a null means that the keyword is absent. -/
def presentKeywords : Json → Members
  | .object members =>
    members.filter (fun member => member.2 ≠ .null || nullableKeywords.contains member.1)
  | _ => []

/-- Comparisons of values fail where a number has no canonical form. -/
def finitely {α : Type} (result : Except Double α) : Except Failure α := result.mapError .notFinite

def equal (first second : Json) : Except Failure Bool := finitely (first.equal second)

def unionUnique (first second : List Json) : Except Failure (List Json) :=
  finitely (Json.unionUnique first second)

def asArray (keyword : String) : Json → Except Failure (List Json)
  | .array items => .ok items
  | value => .error (.notArray keyword none value)

end SchemaMerge.Schema
