import SchemaMerge.Proofs.Json.Equality
import SchemaMerge.Schema.Multiple
import SchemaMerge.Schema.Properties

/-!
Which values a schema accepts. A boolean accepts everything or nothing, and an object accepts what
satisfies each of its keywords; an argument of the wrong shape asks for nothing, and a null argument
stands for no keyword. Keywords without a meaning of their own are read by a parameter.
-/

namespace SchemaMerge

namespace Number

/-- The exact value of a finite number. -/
def value? : Number → Option Rat
  | .int value => some value
  | .float (.finite value) => some (mkRat value.units Double.unitsPerOne)
  | .float _ => none

def isIntegral : Number → Bool
  | .int _ => true
  | .float value => value.isIntegral

end Number

namespace Json

def membersOf : Json → Members
  | .object members => members
  | _ => []

def itemsOf : Json → List Json
  | .array items => items
  | _ => []

def number? : Json → Option Number
  | .number value => some value
  | _ => none

def length? : Json → Option Number
  | .string text => some (.int text.length)
  | _ => none

def itemCount? : Json → Option Number
  | .array items => some (.int items.length)
  | _ => none

def memberCount? : Json → Option Number
  | .object members => some (.int members.length)
  | _ => none

mutual

def noRepeats : Json → Bool
  | .array items => noRepeatsItems items
  | .object members => decide (Members.Distinct members) && noRepeatsMembers members
  | _ => true

def noRepeatsItems : List Json → Bool
  | [] => true
  | item :: items => noRepeats item && noRepeatsItems items

def noRepeatsMembers : List (String × Json) → Bool
  | [] => true
  | (_, value) :: members => noRepeats value && noRepeatsMembers members

end

end Json

namespace Schema

open Json (isEqual membersOf itemsOf)

namespace Leaf

def hasType (name : String) (value : Json) : Bool :=
  match name, value with
  | "null", .null | "boolean", .bool _ | "string", .string _ => true
  | "array", .array _ | "object", .object _ | "number", .number _ => true
  | "integer", .number number => number.isIntegral
  | _, _ => false

def isNamedType (name value : Json) : Bool :=
  match name with
  | .string name => hasType name value
  | _ => false

def type (argument value : Json) : Bool :=
  match argument with
  | .string name => hasType name value
  | .array names => names.any (fun name => isNamedType name value)
  | _ => true

def enum (argument value : Json) : Bool :=
  match argument with
  | .array members => members.any (fun member => isEqual member value)
  | _ => true

/-- A limit on a size that only some values have. -/
def limit (size? : Json → Option Number) (admits : Number → Number → Bool)
    (argument value : Json) : Bool :=
  match argument, size? value with
  | .number bound, some size => admits bound size
  | _, _ => true

def atMost (bound size : Number) : Bool := size.le bound

def below (bound size : Number) : Bool := size.lt bound

def atLeast (bound size : Number) : Bool := bound.le size

def above (bound size : Number) : Bool := bound.lt size

def multipleOf (argument value : Json) : Bool :=
  match argument, value with
  | .number divisor, .number number =>
    match divisor.value?, number.value? with
    | some x, some y => isMultiple y x
    | _, _ => false
  | _, _ => true

def allDiffer : List Json → Bool
  | [] => true
  | item :: items => !items.any (isEqual item) && allDiffer items

def uniqueItems (argument value : Json) : Bool :=
  match argument with
  | .bool true => allDiffer (itemsOf value)
  | _ => true

def hasMember (members : Members) (name : Json) : Bool :=
  match name with
  | .string name => members.contains name
  | _ => true

def required (argument value : Json) : Bool :=
  match argument, value with
  | .array names, .object members => names.all (hasMember members)
  | _, _ => true

def dependentRequired (argument value : Json) : Bool :=
  match argument with
  | .object entries =>
    entries.all (fun entry => !(membersOf value).contains entry.1 || required entry.2 value)
  | _ => true

end Leaf

/-- Whether a pattern occurs in a name; a pattern that cannot be read occurs nowhere. -/
def occurs (pattern name : String) : Bool :=
  match applies pattern name with
  | .ok found => found
  | .error _ => false

def isNamed (siblings : Members) (name : String) : Bool :=
  match siblings.get? "properties" with
  | some (.object entries) => (Members.present? entries name).isSome
  | _ => false

def isMatched (siblings : Members) (name : String) : Bool :=
  match siblings.get? "patternProperties" with
  | some (.object entries) => entries.any (fun entry => entry.2 ≠ .null && occurs entry.1 name)
  | _ => false

def covers (siblings : Members) (name : String) : Bool :=
  isNamed siblings name || isMatched siblings name

/-- How a keyword is read: from its argument, from the one schema in its argument (told which names
the keywords beside it cover), from the answers of a list of schemas, or from each named schema on
its own. -/
inductive Applicator where
  | leaf (reads : Json → Json → Bool)
  | schema (reads : (String → Bool) → (Json → Bool) → Json → Bool)
  | schemas (reads : List Bool → Bool)
  | entries (reads : String → (Json → Bool) → Json → Bool)

/-- How the keywords that are not merged by a rule are read. -/
structure Reading where
  /-- Whether the schemas under `items`, `contains`, `not` and `dependentSchemas` are read; if not,
  these keywords are like any other. -/
  deep : Bool
  holds : String → Json → Json → Bool
  respects : ∀ keyword first second value, isEqual first second = true →
    holds keyword first value = holds keyword second value

def Reading.plain (deep : Bool) : Reading := ⟨deep, fun _ _ _ => true, fun _ _ _ _ _ => rfl⟩

def annotations : List String :=
  ["title", "description", "default", "deprecated", "readOnly", "writeOnly", "example", "examples"]

namespace Reading

def inner (reading : Reading) (keyword : String) : Applicator :=
  match keyword with
  | "items" => .schema (fun _ meaning value => (itemsOf value).all meaning)
  | "contains" => .schema (fun _ meaning value =>
      match value with
      | .array items => items.any meaning
      | _ => true)
  | "not" => .schema (fun _ meaning value => !meaning value)
  | "dependentSchemas" => .entries (fun name meaning value =>
      !(membersOf value).contains name || meaning value)
  | "$defs" | "definitions" => .entries (fun _ _ _ => true)
  | _ => .leaf (reading.holds keyword)

def applicator (reading : Reading) (keyword : String) : Applicator :=
  match keyword with
  | "type" => .leaf Leaf.type
  | "enum" => .leaf Leaf.enum
  | "const" => .leaf isEqual
  | "maximum" => .leaf (Leaf.limit Json.number? Leaf.atMost)
  | "exclusiveMaximum" => .leaf (Leaf.limit Json.number? Leaf.below)
  | "minimum" => .leaf (Leaf.limit Json.number? Leaf.atLeast)
  | "exclusiveMinimum" => .leaf (Leaf.limit Json.number? Leaf.above)
  | "maxLength" => .leaf (Leaf.limit Json.length? Leaf.atMost)
  | "minLength" => .leaf (Leaf.limit Json.length? Leaf.atLeast)
  | "maxItems" => .leaf (Leaf.limit Json.itemCount? Leaf.atMost)
  | "minItems" => .leaf (Leaf.limit Json.itemCount? Leaf.atLeast)
  | "maxProperties" => .leaf (Leaf.limit Json.memberCount? Leaf.atMost)
  | "minProperties" => .leaf (Leaf.limit Json.memberCount? Leaf.atLeast)
  | "multipleOf" => .leaf Leaf.multipleOf
  | "uniqueItems" => .leaf Leaf.uniqueItems
  | "required" => .leaf Leaf.required
  | "dependentRequired" => .leaf Leaf.dependentRequired
  | "allOf" => .schemas (fun answers => answers.all id)
  | "anyOf" => .schemas (fun answers => answers.any id)
  | "oneOf" => .schemas (fun answers => answers.count true = 1)
  | "properties" => .entries (fun name meaning value =>
      (membersOf value).all (fun member => member.1 ≠ name || meaning member.2))
  | "patternProperties" => .entries (fun pattern meaning value =>
      (membersOf value).all (fun member => !occurs pattern member.1 || meaning member.2))
  | "additionalProperties" => .schema (fun covered meaning value =>
      (membersOf value).all (fun member => covered member.1 || meaning member.2))
  | "propertyNames" => .schema (fun _ meaning value =>
      (membersOf value).all (fun member => meaning (.string member.1)))
  | _ =>
    if annotations.contains keyword then .leaf (fun _ _ => true)
    else if reading.deep then reading.inner keyword
    else .leaf (reading.holds keyword)

end Reading

/-- A null argument means that the keyword is absent, except where null is an argument. -/
def isAbsent (keyword : String) (argument : Json) : Bool :=
  argument = .null && !nullableKeywords.contains keyword

mutual

def accepts (reading : Reading) : Json → Json → Bool
  | .bool answer => fun _ => answer
  | .object keywords => acceptsKeywords reading keywords keywords
  | _ => fun _ => false

def acceptsKeywords (reading : Reading) (siblings : Members) :
    List (String × Json) → Json → Bool
  | [] => fun _ => true
  | (keyword, argument) :: rest => fun value =>
    (isAbsent keyword argument ||
      match reading.applicator keyword, argument with
      | .leaf reads, argument => reads argument value
      | .schema reads, schema => reads (covers siblings) (accepts reading schema) value
      | .schemas reads, .array schemas => reads (answers reading schemas value)
      | .entries reads, .object entries => acceptsEntries reading reads entries value
      | _, _ => true) &&
      acceptsKeywords reading siblings rest value

def answers (reading : Reading) : List Json → Json → List Bool
  | [] => fun _ => []
  | schema :: schemas => fun value => accepts reading schema value :: answers reading schemas value

def acceptsEntries (reading : Reading) (reads : String → (Json → Bool) → Json → Bool) :
    List (String × Json) → Json → Bool
  | [] => fun _ => true
  | (name, schema) :: rest => fun value =>
    (schema = .null || reads name (accepts reading schema) value) &&
      acceptsEntries reading reads rest value

end

end Schema

end SchemaMerge
