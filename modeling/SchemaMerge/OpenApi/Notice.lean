import SchemaMerge.Failure

namespace SchemaMerge.OpenApi

inductive Level where
  | debug
  | warning
  deriving DecidableEq, Repr

def Level.name : Level → String
  | .debug => "DEBUG"
  | .warning => "WARNING"

inductive Notice where
  | notSchema (value : Json)
  | notArray (keyword : String) (value : Json)
  | emptyArray (keyword : String)
  | removedEmpty
  | notMerged (keyword : String) (schema : Json) (failure : Failure)
  deriving DecidableEq

namespace Notice

def level : Notice → Level
  | .removedEmpty | .notMerged _ _ _ => .debug
  | _ => .warning

def channel (notice : Notice) : String :=
  match notice.level with
  | .warning => "openapi_transformers._transform"
  | .debug => "openapi_transformers._merge"

def message : Notice → String
  | .notSchema value => s!"Ignoring non-object Schema {value.display}"
  | .notArray keyword value => s!"Unable to merge non-array {keyword} {value.display}"
  | .emptyArray keyword => s!"Unable to merge empty {keyword} array"
  | .removedEmpty => "Removing empty allOf"
  | .notMerged keyword schema failure =>
    s!"Unable to merge {keyword} schemas for {schema.display}: {failure.message}"

end Notice

/-- A result or a failure, and the notices up to there, oldest first. -/
abbrev Noted := ExceptT Failure (StateM (List Notice))

namespace Noted

def note (notice : Notice) : Noted Unit := modify (· ++ [notice])

def ofResult {α : Type} : Except Failure α → Noted α
  | .ok value => pure value
  | .error failure => throw failure

def outcome {α : Type} (noted : Noted α) : Except Failure α × List Notice :=
  noted.run.run []

end Noted

end SchemaMerge.OpenApi
