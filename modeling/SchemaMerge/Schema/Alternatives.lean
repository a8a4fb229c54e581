import SchemaMerge.Schema.Properties

/-!
Combining lists of alternatives. Where one list has a single member, it meets each member of the
other list: a value that fails it fails every alternative, and one that passes it changes nothing.
-/

namespace SchemaMerge.Schema

def isSubset (first second : List Json) : Except Failure Bool :=
  first.allM (fun schema => second.anyM (equal schema))

def isPermutation (first second : List Json) : Except Failure Bool := do
  let forms ← finitely (Json.canonicalItems first)
  let others ← finitely (Json.canonicalItems second)
  return forms.isPerm others

def distribute (recur : Meeting) (keyword : String) :
    List Json → List Json → Except Failure (List Json)
  | [single], alternatives => alternatives.mapM (fun schema => recur schema single)
  | alternatives, [single] => alternatives.mapM (fun schema => recur schema single)
  | first, second => throw (.unsupported keyword (.array first) (.array second) none)

/-- A list whose members all occur in the other stands for both. -/
def anyOf (recur : Meeting) (first second : Json) : Except Failure Json := do
  let schemas ← asArray "anyOf" first
  let others ← asArray "anyOf" second
  if schemas.length ≤ others.length then
    if ← isSubset schemas others then return first
  else
    if ← isSubset others schemas then return second
  return .array (← distribute recur "anyOf" schemas others)

/-- How often a schema occurs counts, and the order does not. -/
def oneOf (recur : Meeting) (first second : Json) : Except Failure Json := do
  let schemas ← asArray "oneOf" first
  let others ← asArray "oneOf" second
  if ← isPermutation schemas others then return first
  return .array (← distribute recur "oneOf" schemas others)

end SchemaMerge.Schema
