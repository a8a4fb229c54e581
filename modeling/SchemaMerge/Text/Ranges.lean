/-!
Sets of code points as closed ranges. The tables beside this module follow version 14 of the
character database.
-/

namespace SchemaMerge.Text

def inRanges (ranges : List (Nat × Nat)) (code : Nat) : Bool :=
  ranges.any (fun range => range.1 ≤ code && code ≤ range.2)

end SchemaMerge.Text
