import SchemaMerge.Schema.Basic

/-!
The bounds of a number come in pairs, an exclusive and an inclusive one. The exclusive bound is
either a number of its own or, in the boolean form, says whether the inclusive number is excluded.
-/

namespace SchemaMerge.Schema

structure BoundPair where
  exclusive : String
  inclusive : String
  tight : Number → Number → Bool

namespace BoundPair

def upper : BoundPair := ⟨"exclusiveMaximum", "maximum", fun exclusive inclusive => exclusive.le inclusive⟩

def lower : BoundPair := ⟨"exclusiveMinimum", "minimum", fun exclusive inclusive => inclusive.le exclusive⟩

def isBoolean (pair : BoundPair) (schema : Members) : Bool :=
  (schema.get? pair.exclusive).any Json.isBool

/-- A pair in boolean form, with the bound moved to the exclusive keyword if it is excluded. -/
def toNumeric (pair : BoundPair) (schema : Members) : Members :=
  match schema.get? pair.exclusive, schema.get? pair.inclusive with
  | some (.bool true), some limit => (schema.erase pair.inclusive).set pair.exclusive limit
  | some (.bool _), _ => schema.erase pair.exclusive
  | _, _ => schema

def number? (pair : BoundPair) : Option Json → Except Failure (Option Number)
  | none => .ok none
  | some (.number value) => .ok (some value)
  | some value => .error (.notBound pair.exclusive pair.inclusive value)

/-- Keeps the tighter bound of the pair, in boolean form where that is asked for. -/
def reconcile (pair : BoundPair) (boolean : Bool) (schema : Members) : Except Failure Members := do
  let exclusive ← pair.number? (schema.present? pair.exclusive)
  let inclusive ← pair.number? (schema.present? pair.inclusive)
  match exclusive with
  | none => return schema.erase pair.exclusive
  | some limit =>
    if !inclusive.all (pair.tight limit) then return schema.erase pair.exclusive
    else if boolean then
      return (schema.set pair.inclusive (.number limit)).set pair.exclusive (.bool true)
    else return schema.erase pair.inclusive

end BoundPair

def numericBounds (schema : Members) : Members :=
  BoundPair.lower.toNumeric (BoundPair.upper.toNumeric schema)

end SchemaMerge.Schema
