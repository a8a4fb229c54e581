import SchemaMerge.Json.Display
import SchemaMerge.Pattern.Fault

namespace SchemaMerge

inductive Side where
  | upper
  | lower
  deriving DecidableEq, Repr

def Side.noun : Side → String
  | .upper => "Upper bound"
  | .lower => "Lower bound"

inductive Obstacle where
  | compoundMembers
  deriving DecidableEq, Repr

def Obstacle.message : Obstacle → String
  | .compoundMembers => "array/object enum values are not supported"

inductive Failure where
  | notSchema (place : String) (value : Json)
  | notArray (keyword : String) (entry : Option String) (value : Json)
  | notObject (keyword : String) (value : Json)
  | notNumber (side : Side) (value : Json)
  | notBound (exclusive inclusive : String) (value : Json)
  | notPositive (value : Json)
  | notStrings (first second : Json)
  | notBooleans (first second : Json)
  | notPatterns (first second : Json)
  | notTypeNames (value : Json)
  | invalidPattern (pattern : String) (fault : Pattern.Fault)
  | unmatchablePattern (pattern : String) (fault : Pattern.Fault)
  | notDocument (value : Json)
  | notFinite (value : Double)
  | infiniteMultiple
  | empty (keyword : String) (first second : Json)
  | unsupported (keyword : String) (first second : Json) (obstacle : Option Obstacle)
  | depth
  | severalAlternatives (keyword : String)
  | unionOfSchemas
  | symmetricDifference
  deriving DecidableEq

namespace Failure

inductive Kind where
  | malformed
  /-- A value of the right form that goes beyond what can be computed with. -/
  | infinite
  | empty
  | unsupported
  | depth
  | unavailable
  deriving DecidableEq, Repr

def kind : Failure → Kind
  | .infiniteMultiple | .unmatchablePattern _ _ => .infinite
  | .empty _ _ _ => .empty
  | .unsupported _ _ _ _ => .unsupported
  | .depth => .depth
  | .severalAlternatives _ | .unionOfSchemas | .symmetricDifference => .unavailable
  | _ => .malformed

def place (keyword : String) : Option String → String
  | none => keyword
  | some entry => s!"{keyword}[{Text.quoted entry}]"

def message : Failure → String
  | .notSchema place value =>
    s!"{place} must be an object or boolean, got {value.display} of type {value.typeName}"
  | .notArray keyword entry value => s!"{place keyword entry} must be an array, got {value.display}"
  | .notObject keyword value => s!"{keyword} must be an object, got {value.display}"
  | .notNumber side value => s!"{side.noun} must be a number, got {value.display}"
  | .notBound exclusive inclusive value =>
    s!"{exclusive} and {inclusive} must be numbers, got {value.display}"
  | .notPositive value => s!"multipleOf must be a positive number, got {value.display}"
  | .notStrings first second => s!"Expected strings, got {first.display} and {second.display}"
  | .notBooleans first second => s!"Expected booleans, got {first.display} and {second.display}"
  | .notPatterns first second =>
    s!"pattern must be a string, got {first.display} and {second.display}"
  | .notTypeNames value => s!"type must be a string or array of strings, got {value.display}"
  | .invalidPattern pattern fault =>
    s!"Invalid patternProperties pattern {Text.quoted pattern}: {fault.message pattern.toList}"
  | .unmatchablePattern pattern fault => fault.message pattern.toList
  | .notDocument value => s!"OpenAPI document must be an object, got {value.typeName}"
  | .notFinite value => s!"{(Json.number (.float value)).display} is not a JSON number"
  | .infiniteMultiple => "Invalid literal for Fraction: 'inf'"
  | .empty keyword first second =>
    s!"Intersection of {keyword} {first.display} and {second.display} is empty"
  | .unsupported keyword first second obstacle =>
    let reason := obstacle.elim "" (fun obstacle => ": " ++ obstacle.message)
    s!"Unable to intersect {keyword} {first.display} and {second.display}{reason}"
  | .depth => "Schemas are nested too deeply to intersect; is the input cyclic?"
  | .severalAlternatives keyword => s!"Merging multiple {keyword} schemas not implemented"
  | .unionOfSchemas => "Union of multiple anyOf schemas not implemented"
  | .symmetricDifference => "Symmetric difference of multiple oneOf schemas not implemented"

end Failure

end SchemaMerge
