import SchemaMerge.Json.Basic
import SchemaMerge.Json.Decimal
import SchemaMerge.Text.Hexadecimal

/-!
Reading JSON text. Besides the standard forms, `NaN`, `Infinity` and `-Infinity` are numbers. Each
function returns the value it read and the text that follows it; a fault remembers the text from the
place where reading stopped. A string may escape half of a surrogate pair alone; such a string is not
among the texts that values hold here, and reading stops at it.
-/

namespace SchemaMerge

inductive ReadCause where
  | value
  | propertyName
  | colon
  | comma
  | extraData
  | unterminatedString
  | controlCharacter
  | badEscape
  | badUnitEscape
  | byteOrderMark
  | loneSurrogate
  deriving DecidableEq, Repr

namespace ReadCause

def message : ReadCause → String
  | .value => "Expecting value"
  | .propertyName => "Expecting property name enclosed in double quotes"
  | .colon => "Expecting ':' delimiter"
  | .comma => "Expecting ',' delimiter"
  | .extraData => "Extra data"
  | .unterminatedString => "Unterminated string starting at"
  | .controlCharacter => "Invalid control character at"
  | .badEscape => "Invalid \\escape"
  | .badUnitEscape => "Invalid \\uXXXX escape"
  | .byteOrderMark => "Unexpected UTF-8 BOM (decode using utf-8-sig)"
  | .loneSurrogate => "Lone surrogate in string starting at"

end ReadCause

structure ReadFault where
  cause : ReadCause
  position : Nat
  line : Nat
  column : Nat
  deriving DecidableEq, Repr

namespace ReadFault

def message (fault : ReadFault) : String :=
  s!"{fault.cause.message}: line {fault.line} column {fault.column} (char {fault.position})"

def after (cause : ReadCause) (consumed : List Char) : ReadFault where
  cause := cause
  position := consumed.length
  line := consumed.count '\n' + 1
  column := (consumed.reverse.takeWhile (· ≠ '\n')).length + 1

end ReadFault

namespace Reader

structure Stop where
  cause : ReadCause
  rest : List Char

def isBlank (letter : Char) : Bool :=
  letter = ' ' || letter = '\t' || letter = '\n' || letter = '\r'

def skipBlanks (text : List Char) : List Char := text.dropWhile isBlank

def isDigit (letter : Char) : Bool := '0' ≤ letter && letter ≤ '9'

def isHighUnit (unit : Nat) : Bool := 0xd800 ≤ unit && unit ≤ 0xdbff

def isLowUnit (unit : Nat) : Bool := 0xdc00 ≤ unit && unit ≤ 0xdfff

def isSurrogate (code : Nat) : Bool := isHighUnit code || isLowUnit code

def unitEscape (text : List Char) : Except Stop (Nat × List Char) :=
  match text with
  -- four digits are not enough at the very end of a text
  | a :: b :: c :: d :: e :: rest =>
    match Text.hexNumber? [a, b, c, d] with
    | some unit => .ok (unit, e :: rest)
    | none => .error ⟨.badUnitEscape, 'u' :: text⟩
  | _ => .error ⟨.badUnitEscape, 'u' :: text⟩

def hasRoom : List Char → Bool
  | _ :: _ :: _ :: _ :: _ :: _ => true
  | _ => false

/-- The code of a unit escape, joined with the second half of its pair if that follows. -/
def unicodeEscape (text : List Char) : Except Stop (Nat × List Char) := do
  let (unit, rest) ← unitEscape text
  match rest with
  | '\\' :: 'u' :: more =>
    if isHighUnit unit && hasRoom more then
      let (second, others) ← unitEscape more
      if isLowUnit second then .ok (0x10000 + (unit - 0xd800) * 0x400 + (second - 0xdc00), others)
      else .ok (unit, rest)
    else .ok (unit, rest)
  | _ => .ok (unit, rest)

def escape (start : List Char) : List Char → Except Stop (Nat × List Char)
  | [] => .error ⟨.unterminatedString, start⟩
  | 'u' :: rest => unicodeEscape rest
  | '"' :: rest => .ok ('"'.toNat, rest)
  | '\\' :: rest => .ok ('\\'.toNat, rest)
  | '/' :: rest => .ok ('/'.toNat, rest)
  | 'b' :: rest => .ok ('\x08'.toNat, rest)
  | 'f' :: rest => .ok ('\x0c'.toNat, rest)
  | 'n' :: rest => .ok ('\n'.toNat, rest)
  | 'r' :: rest => .ok ('\r'.toNat, rest)
  | 't' :: rest => .ok ('\t'.toNat, rest)
  | letter :: rest => .error ⟨.badEscape, '\\' :: letter :: rest⟩

/-- The codes of the characters up to the closing quote. `start` is the text from the opening quote
on. -/
def characters (start : List Char) : Nat → List Char → Except Stop (List Nat × List Char)
  | 0, _ => .error ⟨.unterminatedString, start⟩
  | _ + 1, [] => .error ⟨.unterminatedString, start⟩
  | _ + 1, '"' :: rest => .ok ([], rest)
  | fuel + 1, '\\' :: rest => do
    let (code, rest) ← escape start rest
    let (codes, rest) ← characters start fuel rest
    .ok (code :: codes, rest)
  | fuel + 1, letter :: rest =>
    if letter < ' ' then .error ⟨.controlCharacter, letter :: rest⟩
    else do
      let (codes, rest) ← characters start fuel rest
      .ok (letter.toNat :: codes, rest)

def string (fuel : Nat) (rest : List Char) : Except Stop (String × List Char) := do
  let (codes, after) ← characters ('"' :: rest) fuel rest
  if codes.any isSurrogate then .error ⟨.loneSurrogate, '"' :: rest⟩
  else .ok (String.ofList (codes.map Char.ofNat), after)

def splitDigits (text : List Char) : List Char × List Char :=
  (text.takeWhile isDigit, text.dropWhile isDigit)

def naturalOf (digits : List Char) : Nat := Nat.ofDigitChars 10 digits 0

def fraction? : List Char → Option (List Char × List Char)
  | '.' :: text =>
    match splitDigits text with
    | ([], _) => none
    | split => some split
  | _ => none

def exponent? : List Char → Option (Int × List Char)
  | 'e' :: text | 'E' :: text =>
    let (negative, digits) :=
      match text with
      | '-' :: rest => (true, rest)
      | '+' :: rest => (false, rest)
      | _ => (false, text)
    match splitDigits digits with
    | ([], _) => none
    | (digits, rest) => some (if negative then -(naturalOf digits : Int) else naturalOf digits, rest)
  | _ => none

/-- What follows the integer part decides whether the number is an integer or a double. -/
def numberAfter (negative : Bool) (whole rest : List Char) : Number × List Char :=
  match fraction? rest, exponent? ((fraction? rest).elim rest (·.2)) with
  | none, none =>
    (.int (if negative then -(naturalOf whole : Int) else naturalOf whole), rest)
  | fraction, exponent =>
    let places := fraction.elim [] (·.1)
    let power := exponent.elim 0 (·.1)
    let decimal : Decimal := ⟨naturalOf (whole ++ places), power - places.length⟩
    (.float (decimal.toDouble negative), exponent.elim (fraction.elim rest (·.2)) (·.2))

def unsigned? (negative : Bool) : List Char → Option (Number × List Char)
  | '0' :: rest => some (numberAfter negative ['0'] rest)
  | text =>
    match splitDigits text with
    | ([], _) => none
    | (digits, rest) => some (numberAfter negative digits rest)

def number? : List Char → Option (Number × List Char)
  | '-' :: 'I' :: 'n' :: 'f' :: 'i' :: 'n' :: 'i' :: 't' :: 'y' :: rest =>
    some (.float (.infinity true), rest)
  | 'I' :: 'n' :: 'f' :: 'i' :: 'n' :: 'i' :: 't' :: 'y' :: rest =>
    some (.float (.infinity false), rest)
  | 'N' :: 'a' :: 'N' :: rest => some (.float .nan, rest)
  | '-' :: rest => unsigned? true rest
  | text => unsigned? false text

mutual

def value : Nat → List Char → Except Stop (Json × List Char)
  | 0, text => .error ⟨.value, text⟩
  | fuel + 1, text =>
    match text with
    | '"' :: rest => do
      let (string, rest) ← string fuel rest
      .ok (.string string, rest)
    | '{' :: rest =>
      match skipBlanks rest with
      | '}' :: rest => .ok (.object [], rest)
      | rest => do
        let (pairs, rest) ← members fuel rest
        .ok (.object (Members.ofPairs pairs), rest)
    | '[' :: rest =>
      match skipBlanks rest with
      | ']' :: rest => .ok (.array [], rest)
      | rest => do
        let (values, rest) ← items fuel rest
        .ok (.array values, rest)
    | 'n' :: 'u' :: 'l' :: 'l' :: rest => .ok (.null, rest)
    | 't' :: 'r' :: 'u' :: 'e' :: rest => .ok (.bool true, rest)
    | 'f' :: 'a' :: 'l' :: 's' :: 'e' :: rest => .ok (.bool false, rest)
    | _ =>
      match number? text with
      | some (number, rest) => .ok (.number number, rest)
      | none => .error ⟨.value, text⟩

def items : Nat → List Char → Except Stop (List Json × List Char)
  | 0, text => .error ⟨.value, text⟩
  | fuel + 1, text => do
    let (first, rest) ← value fuel text
    match skipBlanks rest with
    | ']' :: rest => .ok ([first], rest)
    | ',' :: rest => do
      let (others, rest) ← items fuel (skipBlanks rest)
      .ok (first :: others, rest)
    | rest => .error ⟨.comma, rest⟩

def members : Nat → List Char → Except Stop (List (String × Json) × List Char)
  | 0, text => .error ⟨.propertyName, text⟩
  | fuel + 1, text =>
    match text with
    | '"' :: rest => do
      let (key, rest) ← string fuel rest
      match skipBlanks rest with
      | ':' :: rest => do
        let (first, rest) ← value fuel (skipBlanks rest)
        match skipBlanks rest with
        | '}' :: rest => .ok ([(key, first)], rest)
        | ',' :: rest => do
          let (others, rest) ← members fuel (skipBlanks rest)
          .ok ((key, first) :: others, rest)
        | rest => .error ⟨.comma, rest⟩
      | rest => .error ⟨.colon, rest⟩
    | _ => .error ⟨.propertyName, text⟩

end

/-- A whole text: one value between blanks. A call of `items` or `members` leads to a call of `value`
for the same text, so two calls for each character are enough. -/
def document (text : List Char) : Except Stop Json :=
  if text.head? = some '\ufeff' then .error ⟨.byteOrderMark, text⟩
  else do
    let (value, rest) ← value (2 * text.length + 2) (skipBlanks text)
    match skipBlanks rest with
    | [] => .ok value
    | rest => .error ⟨.extraData, rest⟩

end Reader

namespace Json

def parse (text : String) : Except ReadFault Json :=
  match Reader.document text.toList with
  | .ok value => .ok value
  | .error stop =>
    .error (.after stop.cause (text.toList.take (text.toList.length - stop.rest.length)))

end Json

end SchemaMerge
