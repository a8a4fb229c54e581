import SchemaMerge.Proofs.Keyword.Number
import SchemaMerge.Proofs.Validity.Congruence

/-!
Keywords that only have meaning beside each other. What they ask of a value is read from several
arguments at once, and the schemas in these arguments are read by a parameter. A modifier of one
schema leaves a subject of another alone if the subject asks the same with it and without it.
-/

namespace SchemaMerge.Schema

open Json (isEqual membersOf itemsOf)

def companions : List String :=
  ["prefixItems", "items", "if", "then", "else", "contains", "minContains", "maxContains",
    "unevaluatedProperties"]

def withoutCompanions : Json → Json := restrict fun keyword => !companions.contains keyword

def argument? (schema : Json) (keyword : String) : Option Json := (membersOf schema).present? keyword

/-- Each schema reads the item in its place, and the items after the last schema are the rest. -/
def readsInPlace (sub : Json → Json → Bool) (rest : Json → Bool) : List Json → List Json → Bool
  | [], items => items.all rest
  | _ :: _, [] => true
  | schema :: schemas, item :: items => sub schema item && readsInPlace sub rest schemas items

def matchCount? (sub : Json → Json → Bool) (schema : Json) : Json → Option Number
  | .array items => some (.int (items.countP (sub schema)))
  | _ => none

def readsBoth (reads : Json → Json → Bool) : Option Json → Option Json → Bool
  | some subject, some modifier => reads subject modifier
  | _, _ => true

/-- A reading of a subject whose modifier has a default. -/
def readsDefault (reads : Json → Json → Bool) (default : Json) (subject modifier : Option Json) : Bool :=
  subject.all fun argument => reads argument (modifier.getD default)

def prefixesOf (argument : Option Json) : List Json := (argument.map itemsOf).getD []

inductive Pair where
  | tail
  | consequence
  | alternative
  | least
  | most
  deriving DecidableEq, Repr

namespace Pair

def subject : Pair → String
  | tail => "items"
  | consequence | alternative => "if"
  | least | most => "contains"

def modifier : Pair → String
  | tail => "prefixItems"
  | consequence => "then"
  | alternative => "else"
  | least => "minContains"
  | most => "maxContains"

def reads (sub : Json → Json → Bool) (pair : Pair) (subject modifier : Option Json) (value : Json) :
    Bool :=
  match pair with
  | tail =>
    readsInPlace sub (fun item => subject.all (sub · item)) (prefixesOf modifier) (itemsOf value)
  | consequence => readsBoth (fun test branch => !sub test value || sub branch value) subject modifier
  | alternative => readsBoth (fun test branch => sub test value || sub branch value) subject modifier
  | least =>
    -- without a bound, one item is asked for
    readsDefault (fun schema bound => Leaf.limit (matchCount? sub schema) Leaf.atLeast bound value)
      (.number (.int 1)) subject modifier
  | most =>
    readsBoth (fun schema bound => Leaf.limit (matchCount? sub schema) Leaf.atMost bound value)
      subject modifier

def asks (sub : Json → Json → Bool) (pair : Pair) (schema value : Json) : Bool :=
  pair.reads sub (argument? schema pair.subject) (argument? schema pair.modifier) value

/-- Whether a subject asks the same with a modifier as without it, given whether the subject stands
beside the modifier too. -/
def spares (pair : Pair) (shared : Bool) (subject modifier : Json) : Bool :=
  match pair with
  | tail => (itemsOf modifier).all (isEqual subject)
  | consequence => shared || isEqual subject modifier
  | alternative => shared
  | least =>
    match modifier with
    | .number bound => (Number.int 0).lt bound && (shared || bound.le (.int 1))
    | _ => false
  | most => shared || !modifier.isNumber

def Spares (pair : Pair) (subject modifier subject' modifier' : Option Json) : Prop :=
  ∀ first ∈ subject, ∀ second ∈ modifier', modifier = none →
    pair.spares subject'.isSome first second = true

end Pair

/-- Whether the keywords beside `unevaluatedProperties` read the member of a name. -/
def isEvaluated (schema : Json) (name : String) : Bool :=
  (argument? schema "additionalProperties").isSome || covers (membersOf schema) name

/-- What `unevaluatedProperties` asks of the members that no other keyword reads. -/
def asksUnevaluated (sub : Json → Json → Bool) (schema value : Json) : Bool :=
  (argument? schema "unevaluatedProperties").all fun argument =>
    (membersOf value).all fun member => isEvaluated schema member.1 || sub argument member.2

def pairs : List Pair := [.tail, .consequence, .alternative, .least, .most]

def acceptsTogether (reading : Reading) (sub : Json → Json → Bool) (schema value : Json) : Bool :=
  accepts reading (withoutCompanions schema) value &&
    (pairs.all (fun pair => pair.asks sub schema value) && asksUnevaluated sub schema value)

/-- The second schema brings nothing to the first that changes what its companions ask: no modifier
for a subject that had none, and no name that was left unevaluated. -/
structure Spared (first second : Json) : Prop where
  subjects : ∀ pair : Pair, pair.Spares (argument? first pair.subject) (argument? first pair.modifier)
    (argument? second pair.subject) (argument? second pair.modifier)
  names : ∀ argument, argument? first "unevaluatedProperties" = some argument →
    ∀ name, isEvaluated second name = true → isEvaluated first name = true

/-- Each group of companions asks what those of both schemas ask, however the schemas in it are read. -/
structure CompanionsMeet (first second met : Json) : Prop where
  asks : ∀ sub, Respectful sub → ∀ pair : Pair, AsksBoth (pair.asks sub) first second met
  unevaluated : ∀ sub, Respectful sub → AsksBoth (asksUnevaluated sub) first second met

end SchemaMerge.Schema
