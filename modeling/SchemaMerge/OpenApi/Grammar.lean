import SchemaMerge.Json.Basic

/-!
Where the objects of an OpenAPI document stand, in versions 2.0, 3.0 and 3.1. Each kind of object
lists its fields in the order in which they are visited, which need not be their order in a document.
-/

namespace SchemaMerge.OpenApi

inductive Kind where
  | document
  | components
  | pathItem
  | operation
  | requestBody
  | response
  | parameter
  | header
  | mediaType
  | schema
  deriving DecidableEq, Repr

inductive Place where
  | one (kind : Kind)
  | many (kind : Kind)
  /-- An object with an entry for each name; a name that starts with `x-` is an extension. -/
  | named (entry : Place)
  /-- A schema inside a schema, or also a list of them. -/
  | branch (listed : Bool)
  | branches
  deriving DecidableEq, Repr

def methods : List String := ["get", "put", "post", "delete", "options", "head", "patch", "trace"]

def listedKeywords : List String := ["allOf", "anyOf", "oneOf", "items", "prefixItems"]

def singleKeywords : List String :=
  ["additionalItems", "contains", "additionalProperties", "propertyNames", "unevaluatedItems",
    "unevaluatedProperties", "if", "then", "else", "not"]

def entriesKeywords : List String :=
  ["properties", "patternProperties", "dependentSchemas", "$defs", "definitions"]

def places (names : List String) (place : Place) : List (String × Place) :=
  names.map (fun name => (name, place))

def content : String × Place := ("content", .named (.one .mediaType))

def Kind.fields : Kind → List (String × Place)
  | .document =>
    [("components", .one .components), ("paths", .named (.one .pathItem)),
      ("webhooks", .named (.one .pathItem)), ("definitions", .named (.one .schema)),
      ("parameters", .named (.one .parameter)), ("responses", .named (.one .response))]
  | .components =>
    [("schemas", .named (.one .schema)), ("parameters", .named (.one .parameter)),
      ("responses", .named (.one .response)), ("requestBodies", .named (.one .requestBody)),
      ("headers", .named (.one .header)), ("callbacks", .named (.named (.one .pathItem))),
      ("pathItems", .named (.one .pathItem))]
  | .pathItem => ("parameters", .many .parameter) :: places methods (.one .operation)
  | .operation =>
    [("parameters", .many .parameter), ("requestBody", .one .requestBody),
      ("responses", .named (.one .response)), ("callbacks", .named (.named (.one .pathItem)))]
  | .requestBody | .parameter | .header => [("schema", .one .schema), content]
  | .response => [("schema", .one .schema), content, ("headers", .named (.one .header))]
  | .mediaType => [("schema", .one .schema)]
  | .schema =>
    places listedKeywords (.branch true) ++ places singleKeywords (.branch false) ++
      places entriesKeywords .branches

def Kind.field? (kind : Kind) (name : String) : Option Place := kind.fields.lookup name

def isExtension (name : String) : Bool := ['x', '-'].isPrefixOf name.toList

namespace Place

def kind? : Place → Option Kind
  | .one kind => some kind
  | .branch _ => some .schema
  | _ => none

def member? : Place → Option Place
  | .many kind => some (.one kind)
  | .branch true => some (.one .schema)
  | _ => none

def entry? : Place → String → Json → Option Place
  | .named entry, name, _ => if isExtension name then none else some entry
  | .branches, _, value => if value = .null then none else some (.one .schema)
  | _, _, _ => none

end Place

def objectUnder (members : Members) (name : String) : Option Members :=
  match members.get? name with
  | some (.object entries) => some entries
  | _ => none

/-- The named schemas of a document: those of its components, or else its definitions. -/
def namedSchemas (document : Members) : Members :=
  ((objectUnder document "components").bind (objectUnder · "schemas")).getD
    ((objectUnder document "definitions").getD [])

end SchemaMerge.OpenApi
