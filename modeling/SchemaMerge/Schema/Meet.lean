import SchemaMerge.Schema.Alternatives
import SchemaMerge.Schema.Bounds
import SchemaMerge.Schema.Keyword

/-!
The meet of two schemas is one schema that accepts what both accept. It is built keyword by keyword,
and refused where a keyword has no rule for two different values.
-/

namespace SchemaMerge.Schema

def combine (recur : Meeting) (keyword : String) (first second : Json) : Except Failure Json :=
  match keyword with
  | "additionalProperties" => recur first second
  | "anyOf" => anyOf recur first second
  | "oneOf" => oneOf recur first second
  | "propertyNames" => recur first second
  | _ =>
    match rule? keyword with
    | some (.combine combined) => combined first second
    | some .keepFirst => .ok first
    | none => .error (.unsupported keyword first second none)

def withEntries (keyword : String) (named schema : Members) : Members :=
  if named.isEmpty then schema.erase keyword else schema.set keyword (.object named)

def meetKeywords (recur : Meeting) (merged : Members) : Members → Except Failure Members
  | [] => return merged
  | (keyword, value) :: rest => do
    if keyword = "properties" || keyword = "patternProperties" then meetKeywords recur merged rest
    else
      match merged.get? keyword with
      | none => meetKeywords recur (merged ++ [(keyword, value)]) rest
      | some present =>
        if ← equal present value then meetKeywords recur merged rest
        else
          let combined ← combine recur keyword present value
          meetKeywords recur (merged.set keyword combined) rest

def isDeprecated (schema : Members) : Bool := schema.get? "deprecated" = some (.bool true)

def withDeprecation (first second merged : Members) : Members :=
  if isDeprecated first && isDeprecated second then merged.set "deprecated" (.bool true)
  else merged.erase "deprecated"

def meetObjects (recur : Meeting) (first second : Members) : Except Failure Members := do
  let schema := numericBounds first
  let other := numericBounds second
  let (properties, patterns) ← meetProperties recur schema other
  let start := withEntries "patternProperties" patterns (withEntries "properties" properties schema)
  let merged ← meetKeywords recur start other
  let merged := withDeprecation schema other merged
  let bounded ← BoundPair.upper.reconcile
    (BoundPair.upper.isBoolean first || BoundPair.upper.isBoolean second) merged
  BoundPair.lower.reconcile
    (BoundPair.lower.isBoolean first || BoundPair.lower.isBoolean second) bounded

def checkShapes (first second : Json) : Except Failure Unit := do
  checkShape "schema1" first
  checkShape "schema2" second

/-- The meet of two schemas that nest fewer schemas than `levels`. -/
def meetWithin : Nat → Meeting
  | 0, first, second => do
    checkShapes first second
    throw .depth
  | levels + 1, first, second => do
    checkShapes first second
    if isReject first || isReject second then return .bool false
    else if isAccept second then return first
    else if isAccept first then return second
    else if ← equal first second then return first
    else
      let merged ← meetObjects (meetWithin levels) (presentKeywords first) (presentKeywords second)
      return .object merged

def defaultDepth : Int := 256

/-- The outermost schemas are at depth zero; a negative limit allows none. -/
def levelsOf (depth : Int) : Nat := (depth + 1).toNat

def meet (depth : Int) : Meeting := meetWithin (levelsOf depth)

end SchemaMerge.Schema
