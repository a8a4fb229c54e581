import SchemaMerge.Pattern.Basic
import SchemaMerge.Text.Letter
import SchemaMerge.Text.Blank
import SchemaMerge.Text.Case

/-!
Matching by trying choices in order. `Node.run` matches a node at a spot and hands each spot where
the match may end to the rest of the pattern, until the rest succeeds.
-/

namespace SchemaMerge.Pattern

structure Mode where
  ignoreCase : Bool
  multiline : Bool
  dotAll : Bool
  ascii : Bool

namespace Mode

def plain : Mode := ⟨false, false, false, false⟩

def set (mode : Mode) (value : Bool) : Flag → Mode
  | .ignoreCase => { mode with ignoreCase := value }
  | .multiline => { mode with multiline := value }
  | .dotAll => { mode with dotAll := value }
  | .ascii => { mode with ascii := value }
  | .unicode => { mode with ascii := !value }
  | .verbose | .locale | .template => mode

def change (mode : Mode) (change : FlagChange) : Mode :=
  change.off.foldl (fun mode flag => mode.set false flag)
    (change.on.foldl (fun mode flag => mode.set true flag) mode)

end Mode

namespace Category

def contains (ascii : Bool) (code : Nat) : Category → Bool
  | .digit => if ascii then 48 ≤ code && code ≤ 57 else Text.isDigit code
  | .blank => if ascii then code = 32 || (9 ≤ code && code ≤ 13) else Text.isBlank code
  | .word => Text.isWordCharacter code && (!ascii || code < 128)

end Category

namespace SetItem

def contains (ascii : Bool) (code : Nat) : SetItem → Bool
  | .code value => code = value
  | .range first last => first ≤ code && code ≤ last
  | .category kind negated => kind.contains ascii code != negated

def lastOfPlane : Nat := 0xffff

/-- Without regard to case, a character belongs if one of its variants in the first plane does.
Beyond it, a code point must be the lower case of the character, and a range must hold its lower
case or the upper case of that. Categories look at the lower case. -/
def containsAnyCase (ascii : Bool) (code : Nat) (item : SetItem) : Bool :=
  let lower := if ascii then Text.asciiLowerCase code else Text.lowerCase code
  let variants := if ascii then Text.asciiCaseVariants code else Text.caseVariants code
  let near := (variants.filter (· ≤ lastOfPlane)).any (item.contains ascii)
  match item with
  | .category _ _ => item.contains ascii lower
  | .code value => near || (lastOfPlane < value && value = lower)
  | .range _ last =>
    near || (lastOfPlane < last &&
      (item.contains ascii lower || item.contains ascii (Text.upperCase lower)))

end SetItem

namespace Test

def isCode (mode : Mode) (letter : Char) (value : Nat) : Bool :=
  if mode.ignoreCase then
    (if mode.ascii then Text.asciiCaseVariants letter.toNat
      else Text.caseVariants letter.toNat).contains value
  else letter.toNat = value

def accepts (mode : Mode) (letter : Char) : Test → Bool
  | .any => mode.dotAll || letter ≠ '\n'
  | .code negated value => isCode mode letter value != negated
  | .set negated items =>
    (if mode.ignoreCase then items.any (·.containsAnyCase mode.ascii letter.toNat)
      else items.any (·.contains mode.ascii letter.toNat)) != negated

end Test

structure Capture where
  text : List Char
  after : Nat

/-- A place in the text: what stands before it, last character first, what stands after it, and
what each group matched last. -/
structure Spot where
  before : List Char
  after : List Char
  captures : List (Nat × Capture)

namespace Spot

def isWord (mode : Mode) (letter : Option Char) : Bool :=
  letter.any (fun letter => Category.word.contains mode.ascii letter.toNat)

def holds (mode : Mode) (spot : Spot) : Anchor → Bool
  | .textStart => spot.before.isEmpty
  | .lineStart => spot.before.isEmpty || (mode.multiline && spot.before.head? = some '\n')
  | .textEnd => spot.after.isEmpty
  | .lineEnd =>
    spot.after.isEmpty || spot.after = ['\n'] || (mode.multiline && spot.after.head? = some '\n')
  | .boundary negated =>
    if spot.before.isEmpty && spot.after.isEmpty then false
    else (isWord mode spot.before.head? != isWord mode spot.after.head?) != negated

def step? (spot : Spot) : Option (Char × Spot) :=
  match spot.after with
  | [] => none
  | letter :: after => some (letter, { spot with before := letter :: spot.before, after := after })

def back? : Nat → Spot → Option Spot
  | 0, spot => some spot
  | count + 1, spot =>
    match spot.before with
    | [] => none
    | letter :: before => back? count { spot with before := before, after := letter :: spot.after }

/-- What a group matched counts no longer once the group begins again behind it. -/
def enter (spot : Spot) (index : Nat) : Spot :=
  { spot with
    -- what a group matched counts no longer once it begins again behind that
    captures := spot.captures.filter (fun capture =>
      capture.1 ≠ index || capture.2.after ≤ spot.after.length) }

def capture (start : Spot) (index : Nat) (stop : Spot) : Spot :=
  { stop with
    captures :=
      (index, ⟨start.after.take (start.after.length - stop.after.length), stop.after.length⟩) ::
        stop.captures.filter (fun capture => capture.1 ≠ index) }

def sameLetter (mode : Mode) (first second : Char) : Bool :=
  if mode.ignoreCase then
    if mode.ascii then Text.asciiLowerCase first.toNat = Text.asciiLowerCase second.toNat
    else Text.lowerCase first.toNat = Text.lowerCase second.toNat
  else first = second

def skip? (mode : Mode) : List Char → Spot → Option Spot
  | [], spot => some spot
  | letter :: letters, spot =>
    match spot.step? with
    | none => none
    | some (found, next) => if sameLetter mode letter found then skip? mode letters next else none

end Spot

abbrev Rest := Spot → Option Spot

abbrev Part := Spot → Rest → Option Spot

namespace Part

def once (part : Part) (spot : Spot) : Option Spot := part spot some

def exactly (part : Part) : Nat → Part
  | 0, spot, rest => rest spot
  | count + 1, spot, rest => part spot (fun next => exactly part count next rest)

def mayRepeat (most : Option Nat) (last : Option Nat) (spot : Spot) : Bool :=
  -- a round that did not move on is the last
  most ≠ some 0 && last ≠ some spot.after.length

def greedy (part : Part) : Nat → Option Nat → Option Nat → Part
  | 0, _, _, spot, rest => rest spot
  | fuel + 1, most, last, spot, rest =>
    if mayRepeat most last spot then
      match part spot (fun next =>
          greedy part fuel (most.map (· - 1)) (some spot.after.length) next rest) with
      | some stop => some stop
      | none => rest spot
    else rest spot

def reluctant (part : Part) : Nat → Option Nat → Option Nat → Part
  | 0, _, _, spot, rest => rest spot
  | fuel + 1, most, last, spot, rest =>
    match rest spot with
    | some stop => some stop
    | none =>
      if mayRepeat most last spot then
        part spot (fun next =>
          reluctant part fuel (most.map (· - 1)) (some spot.after.length) next rest)
      else none

def possessive (part : Part) : Nat → Option Nat → Option Nat → Spot → Spot
  | 0, _, _, spot => spot
  | fuel + 1, most, last, spot =>
    if mayRepeat most last spot then
      match part.once spot with
      | some next => possessive part fuel (most.map (· - 1)) (some spot.after.length) next
      | none => spot
    else spot

def possessiveExactly (part : Part) : Nat → Spot → Option Spot
  | 0, spot => some spot
  | count + 1, spot => (part.once spot).bind (possessiveExactly part count)

/-- After the rounds that are due, further rounds: each but the last moves on, so there are at most
as many as characters left, and one. -/
def iterate (part : Part) (greed : Greed) (least : Nat) (most : Option Nat) : Part :=
  fun spot rest =>
    let further := most.map (· - least)
    match greed with
    | .greedy =>
      exactly part least spot (fun next => greedy part (next.after.length + 2) further none next rest)
    | .lazy =>
      exactly part least spot (fun next => reluctant part (next.after.length + 2) further none next rest)
    | .possessive =>
      (possessiveExactly part least spot).bind (fun next =>
        rest (possessive part (next.after.length + 2) further none next))

/-- A look around: the rest goes on from the same place, with what a look that succeeded captured. -/
def look (part : Part) (behind : Option Nat) (negated : Bool) : Part :=
  fun spot rest =>
    let found := ((behind.elim (some spot) (fun count => Spot.back? count spot))).bind part.once
    match found, negated with
    | some stop, false => rest { spot with captures := stop.captures }
    | none, true => rest spot
    | _, _ => none

end Part

namespace Node

def run : Mode → Node → Part
  | _, .empty, spot, rest => rest spot
  | mode, .one test, spot, rest =>
    match spot.step? with
    | some (letter, next) => if test.accepts mode letter then rest next else none
    | none => none
  | mode, .anchor kind, spot, rest => if spot.holds mode kind then rest spot else none
  | mode, .seq first second, spot, rest =>
    run mode first spot (fun next => run mode second next rest)
  | mode, .alt first second, spot, rest =>
    match run mode first spot rest with
    | some stop => some stop
    | none => run mode second spot rest
  | mode, .iterate greed least most body, spot, rest =>
    Part.iterate (run mode body) greed least most spot rest
  | mode, .group index body, spot, rest =>
    run mode body (spot.enter index) (fun stop => rest (spot.capture index stop))
  | mode, .scoped change body, spot, rest => run (mode.change change) body spot rest
  | mode, .atomic body, spot, rest => (Part.once (run mode body) spot).bind rest
  | mode, .look behind negated body, spot, rest =>
    Part.look (run mode body) (if behind then some body.width.least else none) negated spot rest
  | mode, .backreference index _, spot, rest =>
    match spot.captures.lookup index with
    | some capture => (Spot.skip? mode capture.text spot).bind rest
    | none => none
  | mode, .conditional index present absent, spot, rest =>
    if (spot.captures.lookup index).isSome then run mode present spot rest
    else run mode absent spot rest

end Node

def foundFrom (mode : Mode) (node : Node) : List Char → List Char → Bool
  | before, [] => (node.run mode ⟨before, [], []⟩ some).isSome
  | before, letter :: after =>
    (node.run mode ⟨before, letter :: after, []⟩ some).isSome ||
      foundFrom mode node (letter :: before) after

end SchemaMerge.Pattern

namespace SchemaMerge

def Pattern.occursIn (pattern : Pattern) (text : List Char) : Bool :=
  Pattern.foundFrom (Pattern.Mode.plain.change ⟨pattern.flags, []⟩) pattern.node [] text

end SchemaMerge
