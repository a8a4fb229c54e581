import SchemaMerge.Draft.Basic

/-! What each draft lets the value of a keyword be. A keyword that a draft does not know is free. -/

namespace SchemaMerge.Draft

inductive Form where
  | anything
  | text
  | pattern
  | anchor
  | identifier
  | boolean
  | number
  | positive
  | count
  | typeName
  | typeNames
  | names
  | list
  | distinct
  | schema
  | schemaOrBoolean
  | schemas
  | schemaOrSchemas
  | schemaOrNames
  | entries (entry : Form)
  | patternEntries (entry : Form)
  deriving DecidableEq, Repr

def form4 : String → Form
  | "id" | "$schema" | "title" | "description" | "format" => .text
  | "pattern" => .pattern
  | "multipleOf" => .positive
  | "maximum" | "minimum" => .number
  | "exclusiveMaximum" | "exclusiveMinimum" | "uniqueItems" => .boolean
  | "maxLength" | "minLength" | "maxItems" | "minItems" | "maxProperties" | "minProperties" => .count
  | "additionalItems" | "additionalProperties" => .schemaOrBoolean
  | "items" => .schemaOrSchemas
  | "required" => .names
  | "definitions" | "properties" | "patternProperties" => .entries .schema
  | "dependencies" => .entries .schemaOrNames
  | "enum" => .distinct
  | "type" => .typeNames
  | "allOf" | "anyOf" | "oneOf" => .schemas
  | "not" => .schema
  | _ => .anything

def form7 : String → Form
  | "$id" | "$schema" | "$ref" | "$comment" | "title" | "description" | "format"
  | "contentMediaType" | "contentEncoding" => .text
  | "pattern" => .pattern
  | "multipleOf" => .positive
  | "maximum" | "minimum" | "exclusiveMaximum" | "exclusiveMinimum" => .number
  | "readOnly" | "uniqueItems" => .boolean
  | "maxLength" | "minLength" | "maxItems" | "minItems" | "maxProperties" | "minProperties" => .count
  | "additionalItems" | "additionalProperties" | "contains" | "propertyNames" | "if" | "then" | "else"
  | "not" => .schema
  | "items" => .schemaOrSchemas
  | "required" => .names
  | "definitions" | "properties" => .entries .schema
  | "patternProperties" => .patternEntries .schema
  | "dependencies" => .entries .schemaOrNames
  | "enum" | "examples" => .list
  | "type" => .typeNames
  | "allOf" | "anyOf" | "oneOf" => .schemas
  | _ => .anything

def form202012 : String → Form
  | "$id" => .identifier
  | "$schema" | "$ref" | "$dynamicRef" | "$recursiveRef" | "$comment" | "title" | "description"
  | "format" | "contentMediaType" | "contentEncoding" => .text
  | "$anchor" | "$dynamicAnchor" | "$recursiveAnchor" => .anchor
  | "$vocabulary" => .entries .boolean
  | "pattern" => .pattern
  | "multipleOf" => .positive
  | "maximum" | "minimum" | "exclusiveMaximum" | "exclusiveMinimum" => .number
  | "deprecated" | "readOnly" | "writeOnly" | "uniqueItems" => .boolean
  | "maxLength" | "minLength" | "maxItems" | "minItems" | "maxContains" | "minContains"
  | "maxProperties" | "minProperties" => .count
  | "items" | "contains" | "additionalProperties" | "propertyNames" | "unevaluatedItems"
  | "unevaluatedProperties" | "contentSchema" | "if" | "then" | "else" | "not" => .schema
  | "required" => .names
  | "$defs" | "definitions" | "properties" | "dependentSchemas" => .entries .schema
  | "patternProperties" => .patternEntries .schema
  | "dependentRequired" => .entries .names
  | "dependencies" => .entries .schemaOrNames
  | "enum" | "examples" => .list
  | "type" => .typeNames
  | "allOf" | "anyOf" | "oneOf" | "prefixItems" => .schemas
  | _ => .anything

def form : Draft → String → Form
  | .draft4 => form4
  | .draft7 => form7
  | .draft202012 => form202012

/-- Keywords that a draft allows only beside another one. -/
def companions : Draft → List (String × String)
  | .draft4 => [("exclusiveMaximum", "maximum"), ("exclusiveMinimum", "minimum")]
  | _ => []

def hasBooleanSchemas : Draft → Bool
  | .draft4 => false
  | _ => true

def hasIntegralDoubles : Draft → Bool
  | .draft4 => false
  | _ => true

def leastNames : Draft → Nat
  | .draft4 => 1
  | _ => 0

end SchemaMerge.Draft
