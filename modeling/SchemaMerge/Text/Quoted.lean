import SchemaMerge.Text.Hexadecimal
import SchemaMerge.Text.Printable

namespace SchemaMerge.Text

def quoteMark (text : List Char) : Char :=
  if text.contains '\'' && !text.contains '"' then '"' else '\''

def quoteCharacter (mark letter : Char) : List Char :=
  if letter = mark ∨ letter = '\\' then ['\\', letter]
  else if letter = '\n' then ['\\', 'n']
  else if letter = '\r' then ['\\', 'r']
  else if letter = '\t' then ['\\', 't']
  else if isPrintable letter.toNat then [letter]
  else if letter.toNat < 0x100 then '\\' :: 'x' :: hexDigits 2 letter.toNat
  else if letter.toNat < 0x10000 then '\\' :: 'u' :: hexDigits 4 letter.toNat
  else '\\' :: 'U' :: hexDigits 8 letter.toNat

def quote (text : List Char) : List Char :=
  let mark := quoteMark text
  mark :: text.flatMap (quoteCharacter mark) ++ [mark]

def quoted (text : String) : String := String.ofList (quote text.toList)

end SchemaMerge.Text
