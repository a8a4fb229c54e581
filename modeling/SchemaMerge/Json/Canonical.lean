import SchemaMerge.Json.Writer

/-!
Canonical values: members sorted by key, and every double that is an integer written as one. Two
values are equal as JSON when their canonical values are the same, so `1` equals `1.0` and differs
from `true`, and the order of members does not count. Infinities and NaN have no canonical value.
-/

namespace SchemaMerge

def insertByKey {α : Type} (entry : String × α) : List (String × α) → List (String × α)
  | [] => [entry]
  | other :: rest => if entry.1 < other.1 then entry :: other :: rest else other :: insertByKey entry rest

def sortByKey {α : Type} (entries : List (String × α)) : List (String × α) := entries.foldr insertByKey []

def Number.arranged : Number → Number
  | .float (.finite value) => if value.isIntegral then .int value.truncate else .float (.finite value)
  | value => value

namespace Json

mutual

def arranged : Json → Json
  | .number value => .number value.arranged
  | .array items => .array (arrangedItems items)
  | .object members => .object (sortByKey (arrangedMembers members))
  | value => value

def arrangedItems : List Json → List Json
  | [] => []
  | item :: items => arranged item :: arrangedItems items

def arrangedMembers : List (String × Json) → List (String × Json)
  | [] => []
  | (key, value) :: members => (key, arranged value) :: arrangedMembers members

end

mutual

/-- The first infinity or NaN of a value, in the order of its text. -/
def nonFinite? : Json → Option Double
  | .number (.float value) => if value.isFinite then none else some value
  | .array items => nonFiniteItem? items
  | .object members => nonFiniteMember? members
  | _ => none

def nonFiniteItem? : List Json → Option Double
  | [] => none
  | item :: items => (nonFinite? item).or (nonFiniteItem? items)

def nonFiniteMember? : List (String × Json) → Option Double
  | [] => none
  | (_, value) :: members => (nonFinite? value).or (nonFiniteMember? members)

end

/-- The canonical value, or the first double of its text that has none. -/
def canonical (value : Json) : Except Double Json :=
  match nonFinite? (arranged value) with
  | some double => .error double
  | none => .ok (arranged value)

def canonicalItems : List Json → Except Double (List Json)
  | [] => .ok []
  | item :: items => do
    let first ← canonical item
    let others ← canonicalItems items
    .ok (first :: others)

def canonicalText (value : Json) : Except Double String := (canonical value).map (text .spaced)

def equal (first second : Json) : Except Double Bool := do
  let x ← canonical first
  let y ← canonical second
  .ok (x = y)

def unseen (seen : List Json) : List Json → Except Double (List Json)
  | [] => .ok []
  | value :: values => do
    let form ← canonical value
    if seen.contains form then unseen seen values
    else do
      let others ← unseen (form :: seen) values
      .ok (value :: others)

def unionUnique (first second : List Json) : Except Double (List Json) := do
  let seen ← canonicalItems first
  let added ← unseen seen second
  .ok (first ++ added)

end Json

end SchemaMerge
