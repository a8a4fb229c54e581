import SchemaMerge.Pattern.Cursor
import SchemaMerge.Pattern.Branches
import SchemaMerge.Text.Identifier
import SchemaMerge.Text.Blank
import SchemaMerge.Text.Name.Lookup

namespace SchemaMerge.Pattern

namespace Parse

def isAsciiLetter (letter : Char) : Bool :=
  ('a' ≤ letter && letter ≤ 'z') || ('A' ≤ letter && letter ≤ 'Z')

def isAsciiDigit (letter : Char) : Bool := '0' ≤ letter && letter ≤ '9'

def isOctalDigit (letter : Char) : Bool := '0' ≤ letter && letter ≤ '7'

def isLayoutBlank (letter : Char) : Bool := [' ', '\t', '\n', '\r', '\x0b', '\x0c'].contains letter

def decimal (digits : List Char) : Nat := Nat.ofDigitChars 10 digits 0

def octal (digits : List Char) : Nat :=
  digits.foldl (fun value digit => 8 * value + (digit.toNat - 48)) 0

inductive Escape where
  | code (value : Nat)
  | category (kind : Category) (negated : Bool)
  | anchor (kind : Anchor)
  | reference (index : Nat) (width : Width)

def controlEscape? : Char → Option Nat
  | 'a' => some 7
  | 'b' => some 8
  | 'f' => some 12
  | 'n' => some 10
  | 'r' => some 13
  | 't' => some 9
  | 'v' => some 11
  | '\\' => some 92
  | _ => none

def categoryEscape? : Char → Option Escape
  | 'd' => some (.category .digit false)
  | 'D' => some (.category .digit true)
  | 's' => some (.category .blank false)
  | 'S' => some (.category .blank true)
  | 'w' => some (.category .word false)
  | 'W' => some (.category .word true)
  | _ => none

def anchorEscape? : Char → Option Escape
  | 'A' => some (.anchor .textStart)
  | 'b' => some (.anchor (.boundary false))
  | 'B' => some (.anchor (.boundary true))
  | 'Z' => some (.anchor .textEnd)
  | _ => none

def failEscape {α : Type} (cause : String → Cause) (escape : List Char) : Parse α :=
  fail (cause (String.ofList escape)) escape.length

def hexEscape (letter : Char) (count : Nat) : Parse Escape := do
  let digits ← takeWhile Text.isHexDigit count
  let escape := '\\' :: letter :: digits
  if digits.length ≠ count then failEscape .incompleteEscape escape
  let code := (Text.hexNumber? digits).getD 0
  if 0x10ffff < code then failEscape .badEscape escape
  return .code code

def nameEscape : Parse Escape := do
  if !(← accept '{') then fail .missingBrace 0
  let letters ← name '}' "character name"
  match Text.codeNamed? letters with
  | some code => return .code code
  | none => fail (.unknownCharacter (String.ofList letters)) (letters.length + 4)

def commonEscape? (letter : Char) : Option (Parse Escape) :=
  match letter with
  | 'x' => some (hexEscape 'x' 2)
  | 'u' => some (hexEscape 'u' 4)
  | 'U' => some (hexEscape 'U' 8)
  | 'N' => some nameEscape
  | _ => none

def literalEscape (letter : Char) : Parse Escape := do
  if isAsciiLetter letter || isAsciiDigit letter then failEscape .badEscape ['\\', letter]
  return .code letter.toNat

def setEscape (letter : Char) : Parse Escape := do
  match controlEscape? letter, categoryEscape? letter, commonEscape? letter with
  | some code, _, _ => return .code code
  | none, some escape, _ => return escape
  | none, none, some escape => escape
  | none, none, none =>
    if isOctalDigit letter then
      let digits := letter :: (← takeWhile isOctalDigit 2)
      if 0o377 < octal digits then failEscape .largeOctal ('\\' :: digits)
      return .code (octal digits)
    else literalEscape letter

def reference (digits : List Char) : Parse Escape := do
  let index := decimal digits
  if index < (← groupCount) then
    match ← closedGroup? index with
    | none => fail .openGroup (digits.length + 1)
    | some width =>
      checkBehind index
      return .reference index width
  else fail (.invalidReference index) digits.length

/-- A digit other than zero begins a reference, unless three octal digits make it a character. -/
def digitEscape (letter : Char) : Parse Escape := do
  match ← takeWhile isAsciiDigit 1 with
  | [] => reference [letter]
  | second :: _ =>
    if isOctalDigit letter && isOctalDigit second then
      match ← takeWhile isOctalDigit 1 with
      | [] => reference [letter, second]
      | third :: _ =>
        let digits := [letter, second, third]
        if 0o377 < octal digits then failEscape .largeOctal ('\\' :: digits)
        return .code (octal digits)
    else reference [letter, second]

def escape (letter : Char) : Parse Escape := do
  match anchorEscape? letter, categoryEscape? letter, controlEscape? letter, commonEscape? letter with
  | some escape, _, _, _ => return escape
  | none, some escape, _, _ => return escape
  | none, none, some code, _ => return .code code
  | none, none, none, some escape => escape
  | none, none, none, none =>
    if letter = '0' then return .code (octal (← takeWhile isOctalDigit 2))
    else if isAsciiDigit letter then digitEscape letter
    else literalEscape letter

def Escape.node : Escape → Node
  | .code value => .ofCode value
  | .category kind negated => .one (.set false [.category kind negated])
  | .anchor kind => .anchor kind
  | .reference index width => .backreference index width

def Escape.setItem : Escape → SetItem
  | .category kind negated => .category kind negated
  | .code value => .code value
  | _ => .code 0

def setMember : Token → Parse Escape
  | .plain letter => return .code letter.toNat
  | .escaped letter => setEscape letter

def setRange (first last : Token) (low high : Escape) : Parse SetItem := do
  let bad : Parse SetItem :=
    fail (.badRange (String.ofList first.characters) (String.ofList last.characters))
      (first.length + 1 + last.length)
  match low, high with
  | .code low, .code high => if high < low then bad else return .range low high
  | _, _ => bad

/-- The members of a set up to its closing bracket; a bracket that comes first is a member. -/
def setItems (start : Nat) : Nat → List SetItem → Parse (List SetItem)
  | 0, items => return items
  | fuel + 1, items => do
    match ← take with
    | none => failAt .unterminatedSet start
    | some token =>
      -- a bracket that comes first is a member
      if token = .plain ']' && !items.isEmpty then return items
      let low ← setMember token
      if ← accept '-' then
        match ← take with
        | none => failAt .unterminatedSet start
        | some last =>
          if last = .plain ']' then return items ++ [low.setItem, .code '-'.toNat]
          let high ← setMember last
          setItems start fuel (items ++ [← setRange token last low high])
      else setItems start fuel (items ++ [low.setItem])

def characterSet : Parse Node := do
  let start := (← position) - 1
  let negated ← accept '^'
  return .one (.ofItems negated (← setItems start (← remaining) []))

structure Counts where
  least : Nat
  most : Option Nat

def countLimit : Nat := 4294967295

/-- The counts behind an opening brace, or nothing if the brace is an ordinary character. -/
def counts? : Parse (Option Counts) := do
  let here ← get
  if (← peek) = some (.plain '}') then return none
  let low ← takeWhile isAsciiDigit (← remaining)
  let high ← if ← accept ',' then takeWhile isAsciiDigit (← remaining) else pure low
  if !(← accept '}') then
    set here
    return none
  let least := decimal low
  let most := if high.isEmpty then none else some (decimal high)
  if countLimit ≤ least || countLimit ≤ most.getD 0 then throw ⟨.hugeCount, none⟩
  match most with
  | some count => if count < least then failAt .reversedCounts here.cursor.position
  | none => pure ()
  return some ⟨least, most⟩

def greedSign : Parse Greed := do
  if ← accept '?' then return .lazy
  else if ← accept '+' then return .possessive
  else return .greedy

/-- Repeats the last item. Anchors and repetitions cannot be repeated themselves. -/
def repeated (place : Nat) (counts : Counts) (items : List Node) : Parse (List Node) := do
  match items with
  | [] | .anchor _ :: _ => failAt .nothingToRepeat place
  | .iterate _ _ _ _ :: _ => failAt .multipleRepeat place
  | item :: before =>
    let greed ← greedSign
    return .iterate greed counts.least counts.most item :: before

def repetition (sign : Char) (items : List Node) : Parse (List Node) := do
  let place := (← position) - 1
  if sign = '{' then
    match ← counts? with
    | none => return .ofCharacter '{' :: items
    | some counts => repeated place counts items
  else
    repeated place
      (if sign = '?' then ⟨0, some 1⟩ else if sign = '*' then ⟨0, none⟩ else ⟨1, none⟩) items

def lineComment : Nat → Parse Unit
  | 0 => return
  | fuel + 1 => do
    match ← take with
    | none | some (.plain '\n') => return
    | _ => lineComment fuel

def comment (start : Nat) : Nat → Parse Unit
  | 0 => return
  | fuel + 1 => do
    match ← take with
    | none => failAt .unterminatedComment start
    | some (.plain ')') => return
    | _ => comment start fuel

def flagOf? : Token → Option Flag
  | .plain letter => Flag.ofLetter? letter
  | .escaped _ => none

def isLetterToken : Token → Bool
  | .plain letter => Text.isLetter letter.toNat
  | .escaped _ => false

/-- The flags turned on, from the given first one, and the token behind them: a closing
parenthesis, a hyphen or a colon. -/
def flagsOn : Nat → List Flag → Flag → Parse (List Flag × Token)
  | 0, flags, _ => return (flags, .plain ')')
  | fuel + 1, flags, flag => do
    if flag = .locale then fail .localeFlag 0
    let flags := flags ++ [flag]
    if flag.choosesAlphabet && flags.any (fun other => other.choosesAlphabet && other ≠ flag) then
      fail .incompatibleFlags 0
    match ← take with
    | none => fail .unfinishedFlags 0
    | some token =>
      if token = .plain ')' || token = .plain '-' || token = .plain ':' then return (flags, token)
      match flagOf? token with
      | some next => flagsOn fuel flags next
      | none => fail (if isLetterToken token then .unknownFlag else .unfinishedFlags) token.length

def flagsOff : Nat → List Flag → Flag → Parse (List Flag)
  | 0, flags, _ => return flags
  | fuel + 1, flags, flag => do
    if flag.choosesAlphabet then fail .alphabetOff 0
    let flags := flags ++ [flag]
    match ← take with
    | none => fail .missingColon 0
    | some token =>
      if token = .plain ':' then return flags
      match flagOf? token with
      | some next => flagsOff fuel flags next
      | none => fail (if isLetterToken token then .unknownFlag else .missingColon) token.length

def firstFlagOff : Parse (List Flag) := do
  match ← take with
  | none => fail .missingFlag 0
  | some token =>
    match flagOf? token with
    | some flag => flagsOff (← remaining) [] flag
    | none => fail (if isLetterToken token then .unknownFlag else .missingFlag) token.length

/-- Flags in parentheses whose first sign has been taken. Without a colon they hold for the whole
pattern, and there is no change to a group. -/
def flagChange (sign : Token) : Parse (Option FlagChange) := do
  let (on, stop) ←
    match flagOf? sign with
    | some flag => flagsOn (← remaining) [] flag
    | none => pure ([], sign)
  if stop = .plain ')' then
    modify fun progress => { progress with flags := progress.flags ++ on }
    return none
  if on.contains .template then fail .globalOn 1
  let off ← if stop = .plain '-' then firstFlagOff else pure []
  if off.contains .template then fail .globalOff 1
  if on.any off.contains then fail .onAndOff 1
  return some ⟨on, off⟩

def groupName (terminator : Char) : Parse (List Char) := do
  let letters ← name terminator "group name"
  if !Text.isIdentifier letters then fail (.badGroupName (String.ofList letters)) (letters.length + 1)
  return letters

def namedReference : Parse Node := do
  let letters ← groupName ')'
  let key := String.ofList letters
  match (← get).names.lookup key with
  | none => fail (.unknownGroup key) (letters.length + 1)
  | some index =>
    match ← closedGroup? index with
    | none => fail .openGroup (letters.length + 1)
    | some width =>
      checkBehind index
      return .backreference index width

def numberDigits : List Char → Option (List Nat)
  | [] => none
  | [letter] => (Text.digitValue? letter.toNat).map ([·])
  | letter :: '_' :: rest => do
    let digit ← Text.digitValue? letter.toNat
    return digit :: (← numberDigits rest)
  | letter :: rest => do
    let digit ← Text.digitValue? letter.toNat
    return digit :: (← numberDigits rest)

def trimBlanks (letters : List Char) : List Char :=
  let blank : Char → Bool := fun letter => Text.isBlank letter.toNat
  ((letters.dropWhile blank).reverse.dropWhile blank).reverse

/-- A group number: digits of any script between blanks, with a sign that keeps it from being
negative. -/
def groupNumber? (letters : List Char) : Option Nat :=
  let value (digits : List Char) : Option Nat :=
    (numberDigits digits).map (·.foldl (fun value digit => 10 * value + digit) 0)
  match trimBlanks letters with
  | '+' :: digits => value digits
  | '-' :: digits => (value digits).filter (· = 0)
  | digits => value digits

def groupLimit : Nat := 1073741823

/-- The group that a condition asks for. A number may be that of a group still to come. -/
def conditionGroup : Parse Nat := do
  let letters ← name ')' "group name"
  let key := String.ofList letters
  if Text.isIdentifier letters then
    match (← get).names.lookup key with
    | some index => return index
    | none => fail (.unknownGroup key) (letters.length + 1)
  else
    match groupNumber? letters with
    | none => fail (.badGroupName key) (letters.length + 1)
    | some index =>
      if index = 0 then fail .groupZero (letters.length + 1)
      if groupLimit ≤ index then fail (.invalidReference index) (letters.length + 1)
      let place := (← position) - letters.length - 1
      modify fun progress =>
        if (progress.asked.lookup index).isSome then progress
        else { progress with asked := progress.asked ++ [(index, place)] }
      return index

def closeParenthesis (start : Nat) : Parse Unit := do
  if !(← accept ')') then failAt .unterminatedGroup start

def isVerbose : Parse Bool := do return (← get).flags.contains .verbose

inductive Opening where
  | item (node : Node)
  | comment
  | flags

mutual

def branches (fuel : Nat) (verbose nested first : Bool) : Parse (List (List Node)) :=
  match fuel with
  | 0 => return []
  | fuel + 1 => do
    let branch ← sequence fuel verbose first []
    if ← accept '|' then
      let verbose ← if nested then pure verbose else isVerbose
      return branch :: (← branches fuel verbose nested false)
    else return [branch]

def sequence (fuel : Nat) (verbose first : Bool) (items : List Node) : Parse (List Node) :=
  match fuel with
  | 0 => return []
  | fuel + 1 => do
    match ← peek with
    | none | some (.plain '|') | some (.plain ')') => return items.reverse.flatMap Node.spliced
    | some (.escaped letter) =>
      advance
      sequence fuel verbose first ((← escape letter).node :: items)
    | some (.plain letter) =>
      advance
      if verbose && isLayoutBlank letter then sequence fuel verbose first items
      else if verbose && letter = '#' then
        lineComment (← remaining)
        sequence fuel verbose first items
      else if letter = '[' then sequence fuel verbose first ((← characterSet) :: items)
      else if letter = '*' || letter = '+' || letter = '?' || letter = '{' then
        sequence fuel verbose first (← repetition letter items)
      else if letter = '.' then sequence fuel verbose first (.one .any :: items)
      else if letter = '^' then sequence fuel verbose first (.anchor .lineStart :: items)
      else if letter = '$' then sequence fuel verbose first (.anchor .lineEnd :: items)
      else if letter = '(' then
        let start := (← position) - 1
        match ← parenthesis fuel verbose start with
        | .item node => sequence fuel verbose first (node :: items)
        | .comment => sequence fuel verbose first items
        | .flags =>
          if !first || !items.isEmpty then failAt .lateFlags start
          sequence fuel (← isVerbose) first items
      else sequence fuel verbose first (.ofCharacter letter :: items)

def parenthesis (fuel : Nat) (verbose : Bool) (start : Nat) : Parse Opening :=
  match fuel with
  | 0 => return .comment
  | fuel + 1 => do
    if !(← accept '?') then return .item (← captured fuel verbose start none)
    match ← take with
    | none => fail .unexpectedEnd 0
    | some (.plain 'P') =>
      if ← accept '<' then
        let letters ← groupName '>'
        return .item (← captured fuel verbose start (some letters))
      else if ← accept '=' then return .item (← namedReference)
      else
        match ← take with
        | none => fail .unexpectedEnd 0
        | some token =>
          fail (.unknownExtension (String.ofList ('P' :: token.characters))) (token.length + 2)
    | some (.plain ':') => return .item (.scoped ⟨[], []⟩ (← enclosed fuel verbose start))
    | some (.plain '>') => return .item (.atomic (← enclosed fuel verbose start))
    | some (.plain '#') =>
      comment start (← remaining)
      return .comment
    | some (.plain '=') => return .item (.look false false (← enclosed fuel verbose start))
    | some (.plain '!') => return .item (.look false true (← enclosed fuel verbose start))
    | some (.plain '<') =>
      match ← take with
      | none => fail .unexpectedEnd 0
      | some (.plain '=') => return .item (.look true false (← behind fuel verbose start))
      | some (.plain '!') => return .item (.look true true (← behind fuel verbose start))
      | some token =>
        fail (.unknownExtension (String.ofList ('<' :: token.characters))) (token.length + 2)
    | some (.plain '(') => return .item (← condition fuel verbose start)
    | some token =>
      if (flagOf? token).isSome || token = .plain '-' then
        match ← flagChange token with
        | none => return .flags
        | some change =>
          let inside := (verbose || change.on.contains .verbose) && !change.off.contains .verbose
          return .item (.scoped change (← enclosed fuel inside start))
      else fail (.unknownExtension (String.ofList token.characters)) (token.length + 1)

def enclosed (fuel : Nat) (verbose : Bool) (start : Nat) : Parse Node :=
  match fuel with
  | 0 => return .empty
  | fuel + 1 => do
    let node := Node.ofBranches (← branches fuel verbose true false)
    closeParenthesis start
    return node

def captured (fuel : Nat) (verbose : Bool) (start : Nat) (name : Option (List Char)) : Parse Node :=
  match fuel with
  | 0 => return .empty
  | fuel + 1 => do
    let index ← openGroup name
    let node ← enclosed fuel verbose start
    closeGroup index node.width
    return .group index node

def behind (fuel : Nat) (verbose : Bool) (start : Nat) : Parse Node :=
  match fuel with
  | 0 => return .empty
  | fuel + 1 => do
    let outer := (← get).behind
    let first ← groupCount
    modify fun progress => { progress with behind := some (outer.getD first) }
    let node := Node.ofBranches (← branches fuel verbose true false)
    modify fun progress => { progress with behind := outer }
    closeParenthesis start
    return node

def condition (fuel : Nat) (verbose : Bool) (start : Nat) : Parse Node :=
  match fuel with
  | 0 => return .empty
  | fuel + 1 => do
    let index ← conditionGroup
    checkBehind index
    let present := Node.ofList (← sequence fuel verbose false [])
    let absent ←
      if ← accept '|' then
        let absent := Node.ofList (← sequence fuel verbose false [])
        if (← peek) = some (.plain '|') then fail .tooManyBranches 0
        pure absent
      else pure .empty
    closeParenthesis start
    return .conditional index present absent

end

end Parse

/-- The first part that cannot be matched: a look-behind whose width is not fixed, or any repetition
in a template. -/
def check (template : Bool) : Node → Except Fault Unit
  | .empty | .one _ | .anchor _ | .backreference _ _ => .ok ()
  | .seq first second | .alt first second | .conditional _ first second => do
    check template first
    check template second
  | .iterate greed _ _ body => do
    if template then
      let kind := match greed with
        | .greedy => "MAX_REPEAT"
        | .lazy => "MIN_REPEAT"
        | .possessive => "POSSESSIVE_REPEAT"
      throw ⟨.templateRepeat kind, none⟩
    check template body
  | .group _ body | .scoped _ body | .atomic body => check template body
  | .look behind _ body => do
    if behind then
      if body.width.least ≠ body.width.most then throw ⟨.variableBehind, none⟩
    check template body

def ofText (text : List Char) : Except Fault Pattern := do
  let cursor ← Cursor.start text
  let fuel := 6 * text.length + 10
  let (branches, progress) ←
    (Parse.branches fuel false false true).run ⟨cursor, [], [], [], none, []⟩
  let node := Node.ofBranches branches
  let flags := progress.flags
  if flags.contains .ascii && flags.contains .unicode then throw ⟨.mixedAlphabets, none⟩
  if progress.cursor.next.isSome then throw ⟨.unbalanced, some progress.cursor.position⟩
  match progress.asked.find? (fun asked => progress.groups.length < asked.1) with
  | some (index, place) => throw ⟨.invalidReference index, some place⟩
  | none => pure ()
  check (flags.contains .template) node
  return ⟨flags, node⟩

end SchemaMerge.Pattern
