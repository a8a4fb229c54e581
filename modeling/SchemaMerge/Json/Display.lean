import SchemaMerge.Json.Writer
import SchemaMerge.Text.Quoted

namespace SchemaMerge.Json

def displayDouble : Double → List Char
  | .finite value => value.text
  | .infinity false => "inf".toList
  | .infinity true => "-inf".toList
  | .nan => "nan".toList

mutual

def displayed : Json → List Char
  | .null => "None".toList
  | .bool true => "True".toList
  | .bool false => "False".toList
  | .number (.int value) => writeInt value
  | .number (.float value) => displayDouble value
  | .string value => Text.quote value.toList
  | .array [] => ['[', ']']
  | .array (item :: items) => '[' :: displayed item ++ displayedItems items ++ [']']
  | .object [] => ['{', '}']
  | .object ((key, value) :: members) =>
    '{' :: Text.quote key.toList ++ ':' :: ' ' :: displayed value ++ displayedMembers members ++ ['}']

def displayedItems : List Json → List Char
  | [] => []
  | item :: items => ',' :: ' ' :: displayed item ++ displayedItems items

def displayedMembers : List (String × Json) → List Char
  | [] => []
  | (key, value) :: members =>
    ',' :: ' ' :: Text.quote key.toList ++ ':' :: ' ' :: displayed value ++ displayedMembers members

end

def display (value : Json) : String := String.ofList (displayed value)

end SchemaMerge.Json
