import SchemaMerge.Schema.Multiple

namespace SchemaMerge.Schema

namespace Keyword

def allOf (first second : Json) : Except Failure Json := do
  let schemas ← asArray "allOf" first
  let others ← asArray "allOf" second
  return .array (← unionUnique schemas others)

def const (first second : Json) : Except Failure Json := throw (.empty "const" first second)

/-- The members of the first list that equal a member of the second. -/
def enum (first second : Json) : Except Failure Json := do
  let values ← asArray "enum" first
  let others ← asArray "enum" second
  if !(values ++ others).all Json.isPrimitive then
    throw (.unsupported "enum" first second (some .compoundMembers))
  let allowed ← finitely (Json.canonicalItems others)
  let forms ← finitely (Json.canonicalItems values)
  let common := ((values.zip forms).filter (fun entry => allowed.contains entry.2)).map (·.1)
  if common.isEmpty then throw (.empty "enum" first second)
  return .array common

def phrase (text : String) : String := if text.toList.contains ' ' then s!"({text})" else text

def description (first second : Json) : Except Failure Json :=
  match first, second with
  | .string text, .string other =>
    return .string s!"Intersection of {phrase text} and {phrase other}"
  | _, _ => throw (.notStrings first second)

def examples (first second : Json) : Except Failure Json := do
  let values ← asArray "examples" first
  let others ← asArray "examples" second
  return .array (← unionUnique values others)

def bound (side : Side) : Json → Except Failure Number
  | .number value => return value
  | value => throw (.notNumber side value)

def upperBound (first second : Json) : Except Failure Json := do
  let limit ← bound .upper first
  let other ← bound .upper second
  return .number (limit.least other)

def lowerBound (first second : Json) : Except Failure Json := do
  let limit ← bound .lower first
  let other ← bound .lower second
  return .number (limit.greatest other)

def anchored (pattern : String) : String :=
  if pattern.toList.head? = some '^' then pattern else ".*" ++ pattern

def pattern (first second : Json) : Except Failure Json :=
  match first, second with
  | .string text, .string other => return .string s!"^(?={anchored text})(?={anchored other})"
  | _, _ => throw (.notPatterns first second)

def required (first second : Json) : Except Failure Json := do
  let names ← asArray "required" first
  let others ← asArray "required" second
  return .array (← unionUnique names others)

def asEntries : Json → Except Failure Members
  | .object entries => return entries
  | value => throw (.notObject "dependentRequired" value)

def asNames (entry : String) : Json → Except Failure (List Json)
  | .array names => return names
  | value => throw (.notArray "dependentRequired" (some entry) value)

def dependentEntries (first : Members) (merged : Members) : Members → Except Failure Members
  | [] => return merged
  | (_, .null) :: entries => dependentEntries first merged entries
  | (name, value) :: entries => do
    let others ← asNames name value
    let names ←
      match first.present? name with
      | none => pure []
      | some names => asNames name names
    let joined ← if names.isEmpty then pure others else unionUnique names others
    dependentEntries first (merged.set name (.array joined)) entries

def dependentRequired (first second : Json) : Except Failure Json := do
  let entries ← asEntries first
  let others ← asEntries second
  return .object (← dependentEntries entries entries others)

def typeNamesOf (whole : Json) : List Json → Except Failure (List String)
  | [] => return []
  | .string name :: rest => return name :: (← typeNamesOf whole rest)
  | _ => throw (.notTypeNames whole)

def typeNames : Json → Except Failure (List String)
  | .array names => typeNamesOf (.array names) names
  | value => typeNamesOf value [value]

/-- The type that a name has in common with a list; an integer is a number. -/
def commonType? (others : List String) (name : String) : Option String :=
  if others.contains name then some name
  else if name = "integer" && others.contains "number" then some "integer"
  else if name = "number" && others.contains "integer" then some "integer"
  else none

def type (first second : Json) : Except Failure Json := do
  let names ← typeNames first
  let others ← typeNames second
  match (names.filterMap (commonType? others)).eraseDups with
  | [] => throw (.empty "type" first second)
  | [name] => return .string name
  | common => return .array (common.map .string)

def either (first second : Json) : Except Failure Json :=
  match first, second with
  | .bool value, .bool other => return .bool (value || other)
  | _, _ => throw (.notBooleans first second)

end Keyword

inductive Rule where
  | keepFirst
  | combine (combined : Json → Json → Except Failure Json)

def rule? (keyword : String) : Option Rule :=
  match keyword with
  | "allOf" => some (.combine Keyword.allOf)
  | "const" => some (.combine Keyword.const)
  | "dependentRequired" => some (.combine Keyword.dependentRequired)
  | "deprecated" => some .keepFirst
  | "description" => some (.combine Keyword.description)
  | "enum" => some (.combine Keyword.enum)
  | "example" => some .keepFirst
  | "examples" => some (.combine Keyword.examples)
  | "exclusiveMaximum" => some (.combine Keyword.upperBound)
  | "exclusiveMinimum" => some (.combine Keyword.lowerBound)
  | "maxItems" => some (.combine Keyword.upperBound)
  | "maxLength" => some (.combine Keyword.upperBound)
  | "maxProperties" => some (.combine Keyword.upperBound)
  | "maximum" => some (.combine Keyword.upperBound)
  | "minItems" => some (.combine Keyword.lowerBound)
  | "minLength" => some (.combine Keyword.lowerBound)
  | "minProperties" => some (.combine Keyword.lowerBound)
  | "minimum" => some (.combine Keyword.lowerBound)
  | "multipleOf" => some (.combine multipleOf)
  | "pattern" => some (.combine Keyword.pattern)
  | "readOnly" => some (.combine Keyword.either)
  | "required" => some (.combine Keyword.required)
  | "title" => some (.combine Keyword.description)
  | "type" => some (.combine Keyword.type)
  | "uniqueItems" => some (.combine Keyword.either)
  | "writeOnly" => some (.combine Keyword.either)
  | _ => none

end SchemaMerge.Schema
