import SchemaMerge.Proofs.Validity.Basic

namespace SchemaMerge

/-- An integer, or a double that is one and is written as one by its shortest decimal. -/
def Number.isWhole (number : Number) : Bool :=
  match number.value?, number.decimalValue? with
  | some exact, some written => exact = written && exact.den = 1
  | _, _ => false

namespace Schema

inductive Shape where
  | leaf
  | schema
  | schemas
  | entries
  deriving DecidableEq, Repr

def Applicator.shape : Applicator → Shape
  | .leaf _ => .leaf
  | .schema _ => .schema
  | .schemas _ => .schemas
  | .entries _ => .entries

def shape (deep : Bool) (keyword : String) : Shape :=
  match keyword with
  | "allOf" | "anyOf" | "oneOf" => .schemas
  | "properties" | "patternProperties" => .entries
  | "additionalProperties" | "propertyNames" => .schema
  | "items" | "contains" | "not" => if deep then .schema else .leaf
  | "dependentSchemas" | "$defs" | "definitions" => if deep then .entries else .leaf
  | _ => .leaf

mutual

/-- A schema whose keywords, at every depth, hold schemas of their shape and obey a law. -/
def everywhere (deep : Bool) (law : String → Json → Bool) : Json → Bool
  | .bool _ => true
  | .object keywords => everyKeyword deep law keywords
  | _ => false

def everyKeyword (deep : Bool) (law : String → Json → Bool) : List (String × Json) → Bool
  | [] => true
  | (keyword, argument) :: rest =>
    (isAbsent keyword argument ||
      (law keyword argument &&
        match shape deep keyword, argument with
        | .leaf, _ => true
        | .schema, schema => everywhere deep law schema
        | .schemas, .array schemas => everySchema deep law schemas
        | .entries, .object entries => everyEntry deep law entries
        | _, _ => false)) &&
      everyKeyword deep law rest

def everySchema (deep : Bool) (law : String → Json → Bool) : List Json → Bool
  | [] => true
  | schema :: schemas => everywhere deep law schema && everySchema deep law schemas

def everyEntry (deep : Bool) (law : String → Json → Bool) : List (String × Json) → Bool
  | [] => true
  | (_, schema) :: rest => (schema = .null || everywhere deep law schema) && everyEntry deep law rest

end

/-- Keywords that hold schemas and are not read. -/
def unread : List String :=
  ["prefixItems", "additionalItems", "unevaluatedItems", "unevaluatedProperties", "if", "then", "else"]

def permits (deep : Bool) (banned : List String) (keyword : String) : Bool :=
  !banned.contains keyword && !(deep && unread.contains keyword)

/-- Whether an argument has a form in which its keyword is merged without loss. -/
def suits (keyword : String) (argument : Json) : Bool :=
  match keyword, argument with
  | "multipleOf", .number number => number.isWhole
  | "multipleOf", _ => false
  | "exclusiveMaximum", .bool _ => false
  | "exclusiveMinimum", .bool _ => false
  | "pattern", _ => false
  | _, _ => true

def isLawful (deep : Bool) (banned : List String) (keyword : String) (argument : Json) : Bool :=
  permits deep banned keyword && suits keyword argument

/-- A schema that uses none of the banned keywords at any depth, whose `multipleOf` are integers,
whose exclusive bounds are numbers of their own, and that has no `pattern`. -/
structure WellFormed (deep : Bool) (banned : List String) (schema : Json) : Prop where
  noRepeats : schema.noRepeats = true
  lawful : everywhere deep (isLawful deep banned) schema = true

end Schema

end SchemaMerge
