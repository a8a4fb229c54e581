import SchemaMerge.Pattern.Basic
import SchemaMerge.Pattern.Fault

/-!
A place in the text of a pattern. The next token, one character or a backslash with the character
behind it, is always read ahead, so a lone backslash at the end is found when the token before it is
taken.
-/

namespace SchemaMerge.Pattern

inductive Token where
  | plain (letter : Char)
  | escaped (letter : Char)
  deriving DecidableEq, Repr

namespace Token

def characters : Token → List Char
  | .plain letter => [letter]
  | .escaped letter => ['\\', letter]

def length : Token → Nat
  | .plain _ => 1
  | .escaped _ => 2

end Token

structure Cursor where
  next : Option Token
  rest : List Char
  position : Nat

namespace Cursor

def ahead (position : Nat) : List Char → Except Fault Cursor
  | [] => .ok ⟨none, [], position⟩
  | ['\\'] => .error ⟨.finalBackslash, some position⟩
  | '\\' :: letter :: rest => .ok ⟨some (.escaped letter), rest, position⟩
  | letter :: rest => .ok ⟨some (.plain letter), rest, position⟩

def start (text : List Char) : Except Fault Cursor := ahead 0 text

/-- The cursor behind the next token; the end of the text stays where it is. -/
def advance (cursor : Cursor) : Except Fault Cursor :=
  match cursor.next with
  | none => .ok cursor
  | some token => ahead (cursor.position + token.length) cursor.rest

end Cursor

structure Progress where
  cursor : Cursor
  flags : List Flag
  groups : List (Option Width)
  names : List (String × Nat)
  /-- Inside a look-behind, the number of the first group that opened in it. -/
  behind : Option Nat
  asked : List (Nat × Nat)

abbrev Parse := StateT Progress (Except Fault)

namespace Parse

def peek : Parse (Option Token) := do return (← get).cursor.next

def position : Parse Nat := do return (← get).cursor.position

def advance : Parse Unit := do
  let progress ← get
  let cursor ← progress.cursor.advance
  set { progress with cursor := cursor }

def take : Parse (Option Token) := do
  let token ← peek
  advance
  return token

def accept (letter : Char) : Parse Bool := do
  if (← peek) = some (.plain letter) then
    advance
    return true
  else return false

def fail {α : Type} (cause : Cause) (back : Nat) : Parse α := do
  throw ⟨cause, some ((← position) - back)⟩

def failAt {α : Type} (cause : Cause) (place : Nat) : Parse α := throw ⟨cause, some place⟩

def takeWhile (test : Char → Bool) : Nat → Parse (List Char)
  | 0 => return []
  | limit + 1 => do
    match ← peek with
    | some (.plain letter) =>
      if test letter then
        advance
        return letter :: (← takeWhile test limit)
      else return []
    | _ => return []

def remaining : Parse Nat := do return (← get).cursor.rest.length + 2

def takeUntil (terminator : Char) (noun : String) : Nat → List Char → Parse (List Char)
  | 0, read => return read
  | fuel + 1, read => do
    match ← take with
    | none =>
      if read.isEmpty then fail (.missingName noun) 0
      else fail (.unterminatedName (String.singleton terminator)) read.length
    | some token =>
      if token = .plain terminator then
        if read.isEmpty then fail (.missingName noun) 1 else return read
      else takeUntil terminator noun fuel (read ++ token.characters)

def name (terminator : Char) (noun : String) : Parse (List Char) := do
  takeUntil terminator noun (← remaining) []

def groupCount : Parse Nat := do return (← get).groups.length + 1

def closedGroup? (index : Nat) : Parse (Option Width) := do
  if index = 0 then return none else return ((← get).groups[index - 1]?).join

/-- Within a look-behind, only groups closed before it may be referred to. -/
def checkBehind (index : Nat) : Parse Unit := do
  match (← get).behind with
  | none => return
  | some first =>
    if (← closedGroup? index).isNone then fail .openGroup 0
    if first ≤ index then fail .groupBehind 0

def openGroup (name : Option (List Char)) : Parse Nat := do
  let index ← groupCount
  modify fun progress => { progress with groups := progress.groups ++ [none] }
  match name with
  | none => return index
  | some letters =>
    let key := String.ofList letters
    match (← get).names.lookup key with
    | some earlier => fail (.repeatedName key index earlier) (letters.length + 1)
    | none =>
      modify fun progress => { progress with names := progress.names ++ [(key, index)] }
      return index

def closeGroup (index : Nat) (width : Width) : Parse Unit :=
  modify fun progress => { progress with groups := progress.groups.set (index - 1) (some width) }

end Parse

end SchemaMerge.Pattern
