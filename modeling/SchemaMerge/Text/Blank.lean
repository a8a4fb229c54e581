import SchemaMerge.Text.Ranges

namespace SchemaMerge.Text

def blankRanges : List (Nat × Nat) :=
  [(9, 13), (28, 32), (133, 133), (160, 160), (5760, 5760), (8192, 8202), (8232, 8233),
   (8239, 8239), (8287, 8287), (12288, 12288)]

def isBlank (code : Nat) : Bool := inRanges blankRanges code

end SchemaMerge.Text
