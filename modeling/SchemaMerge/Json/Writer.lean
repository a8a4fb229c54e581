import SchemaMerge.Json.Basic
import SchemaMerge.Json.Decimal
import SchemaMerge.Text.Hexadecimal

namespace SchemaMerge

structure Layout where
  comma : List Char
  colon : List Char
  indent : Option Nat

namespace Layout

def compact : Layout := ⟨[','], [':'], none⟩

def spaced : Layout := ⟨[',', ' '], [':', ' '], none⟩

def indented : Layout := ⟨[','], [':', ' '], some 2⟩

def lineBreak (layout : Layout) (depth : Nat) : List Char :=
  match layout.indent with
  | none => []
  | some width => '\n' :: List.replicate (width * depth) ' '

end Layout

namespace Json

def unitEscape (unit : Nat) : List Char := '\\' :: 'u' :: Text.hexDigits 4 unit

def escapeCharacter (letter : Char) : List Char :=
  if letter = '"' then ['\\', '"']
  else if letter = '\\' then ['\\', '\\']
  else if letter = '\n' then ['\\', 'n']
  else if letter = '\r' then ['\\', 'r']
  else if letter = '\t' then ['\\', 't']
  else if letter = '\x0c' then ['\\', 'f']
  else if letter = '\x08' then ['\\', 'b']
  else if ' ' ≤ letter ∧ letter ≤ '~' then [letter]
  else if letter.toNat < 0x10000 then unitEscape letter.toNat
  else
    unitEscape (0xd800 + (letter.toNat - 0x10000) / 0x400) ++
      unitEscape (0xdc00 + (letter.toNat - 0x10000) % 0x400)

def writeString (text : String) : List Char :=
  '"' :: text.toList.flatMap escapeCharacter ++ ['"']

def writeInt (value : Int) : List Char :=
  if value < 0 then '-' :: Nat.toDigits 10 value.natAbs else Nat.toDigits 10 value.natAbs

def writeDouble : Double → List Char
  | .finite value => value.text
  | .infinity false => "Infinity".toList
  | .infinity true => "-Infinity".toList
  | .nan => "NaN".toList

def writeNumber : Number → List Char
  | .int value => writeInt value
  | .float value => writeDouble value

mutual

/-- The text of a value whose first line stands at the given depth. -/
def write (layout : Layout) (depth : Nat) : Json → List Char
  | .null => "null".toList
  | .bool true => "true".toList
  | .bool false => "false".toList
  | .number value => writeNumber value
  | .string value => writeString value
  | .array [] => ['[', ']']
  | .array (item :: items) =>
    '[' :: layout.lineBreak (depth + 1) ++ write layout (depth + 1) item ++
      writeItems layout (depth + 1) items ++ layout.lineBreak depth ++ [']']
  | .object [] => ['{', '}']
  | .object ((key, value) :: members) =>
    '{' :: layout.lineBreak (depth + 1) ++ writeString key ++ layout.colon ++
      write layout (depth + 1) value ++ writeMembers layout (depth + 1) members ++
      layout.lineBreak depth ++ ['}']

def writeItems (layout : Layout) (depth : Nat) : List Json → List Char
  | [] => []
  | item :: items =>
    layout.comma ++ layout.lineBreak depth ++ write layout depth item ++
      writeItems layout depth items

def writeMembers (layout : Layout) (depth : Nat) : List (String × Json) → List Char
  | [] => []
  | (key, value) :: members =>
    layout.comma ++ layout.lineBreak depth ++ writeString key ++ layout.colon ++
      write layout depth value ++ writeMembers layout depth members

end

def text (layout : Layout) (value : Json) : String := String.ofList (value.write layout 0)

end Json

end SchemaMerge
