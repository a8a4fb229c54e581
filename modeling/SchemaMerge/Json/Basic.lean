import SchemaMerge.Json.Double

/-!
JSON values. Integers and doubles are different values even where they are the same number, and an
object is the list of its members, in order.
-/

namespace SchemaMerge

inductive Number where
  | int (value : Int)
  | float (value : Double)
  deriving DecidableEq, Repr

namespace Number

/-- A number on the extended line: `-1` and `1` are the two infinities, `0` is followed by the units
of a finite number. A NaN has no place. -/
def position? : Number → Option (Int × Int)
  | .int value => some (0, value * Double.unitsPerOne)
  | .float (.finite value) => some (0, value.units)
  | .float (.infinity negative) => some (if negative then -1 else 1, 0)
  | .float .nan => none

/-- Exact comparison. Nothing is less than a NaN, and a NaN is less than nothing. -/
def lt (first second : Number) : Bool :=
  match first.position?, second.position? with
  | some x, some y => x.1 < y.1 ∨ (x.1 = y.1 ∧ x.2 < y.2)
  | _, _ => false

def le (first second : Number) : Bool :=
  match first.position?, second.position? with
  | some x, some y => x.1 < y.1 ∨ (x.1 = y.1 ∧ x.2 ≤ y.2)
  | _, _ => false

def least (first second : Number) : Number := if second.lt first then second else first

def greatest (first second : Number) : Number := if first.lt second then second else first

def isZero : Number → Bool
  | .int value => value = 0
  | .float (.finite value) => value.significand = 0
  | .float _ => false

end Number

inductive Json where
  | null
  | bool (value : Bool)
  | number (value : Number)
  | string (value : String)
  | array (items : List Json)
  | object (members : List (String × Json))

abbrev Members := List (String × Json)

namespace Members

def get? (members : Members) (key : String) : Option Json := List.lookup key members

def present? (members : Members) (key : String) : Option Json :=
  match members.get? key with
  | some .null => none
  | found => found

def contains (members : Members) (key : String) : Bool := (members.get? key).isSome

def set : Members → String → Json → Members
  | [], key, value => [(key, value)]
  | (name, old) :: rest, key, value =>
    if name = key then (key, value) :: rest else (name, old) :: set rest key value

def erase (members : Members) (key : String) : Members := members.filter (fun member => member.1 ≠ key)

/-- A repeated key keeps its first place and takes its last value. -/
def ofPairs (pairs : List (String × Json)) : Members :=
  pairs.foldl (fun members pair => members.set pair.1 pair.2) []

end Members

namespace Json

def typeName : Json → String
  | .null => "NoneType"
  | .bool _ => "bool"
  | .number (.int _) => "int"
  | .number (.float _) => "float"
  | .string _ => "str"
  | .array _ => "list"
  | .object _ => "dict"

def isPrimitive : Json → Bool
  | .array _ | .object _ => false
  | _ => true

def isNumber : Json → Bool
  | .number _ => true
  | _ => false

def isBool : Json → Bool
  | .bool _ => true
  | _ => false

def isSet : Json → Bool
  | .null => false
  | .bool value => value
  | .number value => !value.isZero
  | .string value => value ≠ ""
  | .array items => !items.isEmpty
  | .object members => !members.isEmpty

mutual

/-- Equality of the written values: order of members and kind of number count. -/
def same : Json → Json → Bool
  | .null, .null => true
  | .bool x, .bool y => x = y
  | .number x, .number y => x = y
  | .string x, .string y => x = y
  | .array xs, .array ys => sameItems xs ys
  | .object xs, .object ys => sameMembers xs ys
  | _, _ => false

def sameItems : List Json → List Json → Bool
  | [], [] => true
  | x :: xs, y :: ys => same x y && sameItems xs ys
  | _, _ => false

def sameMembers : List (String × Json) → List (String × Json) → Bool
  | [], [] => true
  | (key, x) :: xs, (name, y) :: ys => key = name && same x y && sameMembers xs ys
  | _, _ => false

end

mutual

theorem eq_of_same : ∀ {x y : Json}, same x y = true → x = y
  | .null, y, equal => by cases y <;> simp_all [same]
  | .bool _, y, equal => by cases y <;> simp_all [same]
  | .number _, y, equal => by cases y <;> simp_all [same]
  | .string _, y, equal => by cases y <;> simp_all [same]
  | .array xs, y, equal => by
    cases y with
    | array ys => exact congrArg Json.array (eq_of_sameItems (by simpa [same] using equal))
    | _ => simp [same] at equal
  | .object xs, y, equal => by
    cases y with
    | object ys => exact congrArg Json.object (eq_of_sameMembers (by simpa [same] using equal))
    | _ => simp [same] at equal

theorem eq_of_sameItems : ∀ {xs ys : List Json}, sameItems xs ys = true → xs = ys
  | [], [], _ => rfl
  | [], _ :: _, equal => by simp [sameItems] at equal
  | _ :: _, [], equal => by simp [sameItems] at equal
  | _ :: _, _ :: _, equal => by
    simp only [sameItems, Bool.and_eq_true] at equal
    rw [eq_of_same equal.1, eq_of_sameItems equal.2]

theorem eq_of_sameMembers : ∀ {xs ys : List (String × Json)}, sameMembers xs ys = true → xs = ys
  | [], [], _ => rfl
  | [], _ :: _, equal => by simp [sameMembers] at equal
  | _ :: _, [], equal => by simp [sameMembers] at equal
  | (_, _) :: _, (_, _) :: _, equal => by
    simp only [sameMembers, Bool.and_eq_true, decide_eq_true_eq] at equal
    rw [equal.1.1, eq_of_same equal.1.2, eq_of_sameMembers equal.2]

end

mutual

theorem same_self : ∀ x : Json, same x x = true
  | .null | .bool _ | .number _ | .string _ => by simp [same]
  | .array xs => by simp [same, sameItems_self xs]
  | .object xs => by simp [same, sameMembers_self xs]

theorem sameItems_self : ∀ xs : List Json, sameItems xs xs = true
  | [] => rfl
  | x :: xs => by simp [sameItems, same_self x, sameItems_self xs]

theorem sameMembers_self : ∀ xs : List (String × Json), sameMembers xs xs = true
  | [] => rfl
  | (_, x) :: xs => by simp [sameMembers, same_self x, sameMembers_self xs]

end

theorem same_iff {x y : Json} : same x y = true ↔ x = y :=
  ⟨eq_of_same, fun equal => equal ▸ same_self x⟩

instance : DecidableEq Json := fun _ _ => decidable_of_iff _ same_iff

end Json

end SchemaMerge
