import SchemaMerge.Pattern.Matcher
import SchemaMerge.Pattern.Parser
import SchemaMerge.Schema.Basic

/-!
The members of an object are checked by three keywords that overlap: by the entry of `properties`
under the member's name, by each entry of `patternProperties` whose pattern occurs in the name, and
by `additionalProperties` where neither applies. Two schemas are merged name by name: an entry of
one side meets whatever the other side would check the same name by.
-/

namespace SchemaMerge.Schema

abbrev Meeting := Json → Json → Except Failure Json

structure PropertySpace where
  properties : Members
  patterns : Members
  additional : Option Json

def entries (keyword : String) (schema : Members) : Except Failure Members :=
  match schema.present? keyword with
  | none => .ok []
  | some (.object named) => .ok named
  | some value => .error (.notObject keyword value)

def additionalProperties (schema : Members) : Except Failure (Option Json) :=
  match schema.present? "additionalProperties" with
  | none => .ok none
  | some value => (checkShape "additionalProperties" value).map (fun _ => some value)

/-- A pattern is not anchored: it may occur anywhere in the name. -/
def applies (pattern name : String) : Except Failure Bool :=
  match Pattern.ofText pattern.toList with
  | .ok compiled => .ok (compiled.occursIn name.toList)
  | .error fault =>
    .error (if fault.cause.isBeyondGrammar then .unmatchablePattern pattern fault
      else .invalidPattern pattern fault)

def matching (name : String) : Members → Except Failure (List Json)
  | [] => .ok []
  | (pattern, schema) :: rest => do
    let found ← applies pattern name
    let others ← matching name rest
    .ok (if found then schema :: others else others)

namespace PropertySpace

def ofSchema (schema : Members) : Except Failure PropertySpace := do
  let properties ← entries "properties" schema
  let patterns ← entries "patternProperties" schema
  let additional ← additionalProperties schema
  return ⟨properties, patterns, additional⟩

def ofPatterns (space : PropertySpace) : PropertySpace := ⟨space.patterns, [], space.additional⟩

/-- Meets an entry with what a space checks its name by. -/
def meetEntry (recur : Meeting) (space : PropertySpace) (name : String) (entry : Json) :
    Except Failure Json :=
  match space.properties.present? name with
  | some other => recur entry other
  | none => do
    match (← matching name space.patterns), space.additional with
    | [], none => return entry
    | [], some other => recur entry other
    | schemas, _ => schemas.foldlM recur entry

/-- Adds the entries of one side, met with the other side's space, that are not merged yet. -/
def meetEntries (recur : Meeting) (space : PropertySpace) (merged : Members) :
    Members → Except Failure Members
  | [] => return merged
  | (_, .null) :: rest => meetEntries recur space merged rest
  | (name, entry) :: rest =>
    if merged.contains name then meetEntries recur space merged rest
    else do
      let schema ← meetEntry recur space name entry
      meetEntries recur space (merged ++ [(name, schema)]) rest

def meetNamed (recur : Meeting) (first second : PropertySpace) : Except Failure Members := do
  let merged ← meetEntries recur second [] first.properties
  meetEntries recur first merged second.properties

end PropertySpace

def meetProperties (recur : Meeting) (first second : Members) :
    Except Failure (Members × Members) := do
  let space ← PropertySpace.ofSchema first
  let other ← PropertySpace.ofSchema second
  let properties ← space.meetNamed recur other
  let patterns ← space.ofPatterns.meetNamed recur other.ofPatterns
  return (properties, patterns)

end SchemaMerge.Schema
