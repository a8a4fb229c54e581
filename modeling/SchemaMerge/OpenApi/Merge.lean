import SchemaMerge.OpenApi.Traversal
import SchemaMerge.Schema.Meet

namespace SchemaMerge.OpenApi

open Schema (meet defaultDepth)

def meetAll (keyword : String) (schema : Members) (schemas : List Json) : Except Failure Json :=
  schemas.foldlM (meet defaultDepth) (.object (schema.erase keyword))

def mergeAllOf (schema : Members) : Except Failure Json :=
  match schema.get? "allOf" with
  | some (.array (first :: others)) => meetAll "allOf" schema (first :: others)
  | _ => .ok (.object schema)

def mergeSingle (keyword : String) (failure : Failure) (schema : Members) : Except Failure Json :=
  match schema.get? keyword with
  | some (.array [single]) => meetAll keyword schema [single]
  | some (.array (_ :: _)) => .error failure
  | _ => .ok (.object schema)

def mergeAnyOf : Members → Except Failure Json := mergeSingle "anyOf" .unionOfSchemas

def mergeOneOf : Members → Except Failure Json := mergeSingle "oneOf" .symmetricDifference

namespace Step

def keep : Step := fun schema => return .object schema

def annotate (keyword : String) (value : Json) : Step := fun schema =>
  return .object (schema.set keyword value)

/-- An empty `allOf` asks for nothing, and is removed. -/
def allOf (onlySingle : Bool) : Step := fun schema => do
  match schema.get? "allOf" with
  | none => return .object schema
  | some (.array []) =>
    Noted.note .removedEmpty
    return .object (schema.erase "allOf")
  | some (.array schemas) =>
    if onlySingle && schemas.length > 1 then return .object schema
    else Noted.ofResult (meetAll "allOf" schema schemas)
  | some value =>
    Noted.note (.notArray "allOf" value)
    return .object schema

/-- An empty array of alternatives rejects everything, and stays. -/
def alternatives (keyword : String) : Step := fun schema => do
  match schema.get? keyword with
  | none => return .object schema
  | some (.array []) =>
    Noted.note (.emptyArray keyword)
    return .object schema
  | some (.array [single]) => Noted.ofResult (meetAll keyword schema [single])
  | some (.array _) => throw (.severalAlternatives keyword)
  | some value =>
    Noted.note (.notArray keyword value)
    return .object schema

end Step

abbrev Skip := List Json → Bool

structure Combinator where
  keyword : String
  skip : Skip
  merge : Members → Except Failure Json

def combinators (skipAllOf skipAnyOf skipOneOf : Skip) : List Combinator :=
  [⟨"allOf", skipAllOf, mergeAllOf⟩, ⟨"anyOf", skipAnyOf, mergeAnyOf⟩, ⟨"oneOf", skipOneOf, mergeOneOf⟩]

def isTolerable (failure : Failure) : Bool :=
  match failure.kind with
  | .empty | .unsupported | .unavailable => true
  | _ => false

def tryMerge (combinator : Combinator) (schema : Members) : Noted Json := do
  match combinator.merge schema with
  | .ok merged => return merged
  | .error failure =>
    if isTolerable failure then
      Noted.note (.notMerged combinator.keyword (.object schema) failure)
      return .object schema
    else throw failure

def applyCombinator (combinator : Combinator) (schema : Members) : Noted Json := do
  match schema.get? combinator.keyword with
  | some (.array []) =>
    if combinator.keyword ≠ "allOf" then Noted.note (.emptyArray combinator.keyword)
    return .object schema
  | some (.array schemas) =>
    if combinator.skip schemas then return .object schema else tryMerge combinator schema
  | _ => return .object schema

/-- Merges what can be merged, until the schema is no longer an object. -/
def applyCombinators : List Combinator → Json → Noted Json
  | combinator :: rest, .object schema => do
    let merged ← applyCombinator combinator schema
    applyCombinators rest merged
  | _, schema => return schema

def Step.subschemas (skipAllOf skipAnyOf skipOneOf : Skip) : Step := fun schema =>
  applyCombinators (combinators skipAllOf skipAnyOf skipOneOf) (.object schema)

end SchemaMerge.OpenApi
