import SchemaMerge.Text.Name.Alias
import SchemaMerge.Text.Name.Composed
import SchemaMerge.Text.Name.From0020
import SchemaMerge.Text.Name.From0CAA
import SchemaMerge.Text.Name.From1D00
import SchemaMerge.Text.Name.From2460
import SchemaMerge.Text.Name.From2B97
import SchemaMerge.Text.Name.FromAB11
import SchemaMerge.Text.Name.From10CC0
import SchemaMerge.Text.Name.From16AF0
import SchemaMerge.Text.Name.From1D7CE
import SchemaMerge.Text.Name.From1F6F0

namespace SchemaMerge.Text

def nameTables : List (List NameRun) :=
  [namesFrom0020, nameAliases, namesFrom0CAA, namesFrom1D00, namesFrom2460, namesFrom2B97,
   namesFromAB11, namesFrom10CC0, namesFrom16AF0, namesFrom1D7CE, namesFrom1F6F0]

/-- The code point of the character with a given name. The names of syllables and of unified
ideographs are written in large letters, all others in either case. -/
def codeNamed? (name : List Char) : Option Nat :=
  match "HANGUL SYLLABLE ".toList.isPrefixOf? name,
    "CJK UNIFIED IDEOGRAPH-".toList.isPrefixOf? name with
  | some letters, _ => syllable? letters
  | none, some digits => ideograph? digits
  | none, none =>
    let name := name.map Char.toUpper
    match numberedNames.findSome? (·.codeOf? name) with
    | some code => some code
    | none => nameTables.findSome? (fun runs => runs.findSome? (·.codeOf? name))

end SchemaMerge.Text
