namespace SchemaMerge

inductive Draft where
  | draft4
  | draft7
  | draft202012
  deriving DecidableEq, Repr

namespace Draft

def uri : Draft → String
  | .draft4 => "http://json-schema.org/draft-04/schema"
  | .draft7 => "http://json-schema.org/draft-07/schema"
  | .draft202012 => "https://json-schema.org/draft/2020-12/schema"

def all : List Draft := [.draft4, .draft7, .draft202012]

def withLowerScheme (letters : List Char) : List Char :=
  (letters.takeWhile (· ≠ ':')).map Char.toLower ++ letters.dropWhile (· ≠ ':')

def withoutBlanks (letters : List Char) : List Char :=
  (letters.dropWhile (fun letter => decide (letter ≤ ' '))).filter
    (fun letter => letter ≠ '\t' && letter ≠ '\n' && letter ≠ '\r')

/-- The endings that leave a URI the same: an empty query and an empty fragment. -/
def emptyEndings : List (List Char) := [[], ['#'], ['?'], ['?', '#']]

def isNamedBy (draft : Draft) (name : String) : Bool :=
  emptyEndings.any (fun ending =>
    withLowerScheme (withoutBlanks name.toList) = draft.uri.toList ++ ending)

def named? (name : String) : Option Draft := all.find? (fun draft => draft.isNamedBy name)

end Draft

end SchemaMerge
