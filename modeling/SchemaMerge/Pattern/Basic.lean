namespace SchemaMerge.Pattern

inductive Category where
  | digit
  | blank
  | word
  deriving DecidableEq, Repr

inductive SetItem where
  | code (value : Nat)
  | range (first last : Nat)
  | category (kind : Category) (negated : Bool)
  deriving DecidableEq, Repr

inductive Test where
  | any
  | code (negated : Bool) (value : Nat)
  | set (negated : Bool) (items : List SetItem)
  deriving DecidableEq, Repr

/-- The test of a set. A set of a single character is a test for that character. -/
def Test.ofItems (negated : Bool) (items : List SetItem) : Test :=
  match items.eraseDups with
  | [.code value] => .code negated value
  | items => .set negated items

inductive Anchor where
  | lineStart
  | lineEnd
  | textStart
  | textEnd
  | boundary (negated : Bool)
  deriving DecidableEq, Repr

/-- Whether a repetition takes as much as it can, as little as it can, or as much as it can without
ever giving back. -/
inductive Greed where
  | greedy
  | lazy
  | possessive
  deriving DecidableEq, Repr

inductive Flag where
  | ignoreCase
  | multiline
  | dotAll
  | verbose
  | ascii
  | unicode
  | locale
  | template
  deriving DecidableEq, Repr

namespace Flag

def ofLetter? : Char → Option Flag
  | 'i' => some .ignoreCase
  | 'm' => some .multiline
  | 's' => some .dotAll
  | 'x' => some .verbose
  | 'a' => some .ascii
  | 'u' => some .unicode
  | 'L' => some .locale
  | 't' => some .template
  | _ => none

def choosesAlphabet : Flag → Bool
  | .ascii | .unicode | .locale => true
  | _ => false

end Flag

structure FlagChange where
  on : List Flag
  off : List Flag
  deriving DecidableEq, Repr

structure Width where
  least : Nat
  most : Nat
  deriving DecidableEq, Repr

namespace Width

def limit : Nat := 4294967295

/-- Widths count up to the limit, and the least one stays below it: what is too wide to count never
has a fixed width. -/
def clamp (width : Width) : Width := ⟨min width.least (limit - 1), min width.most limit⟩

def add (first second : Width) : Width := clamp ⟨first.least + second.least, first.most + second.most⟩

def either (first second : Width) : Width := ⟨min first.least second.least, max first.most second.most⟩

def times (width : Width) (least : Nat) (most : Option Nat) : Width :=
  clamp ⟨width.least * least,
    match most with
    | none => width.most * limit
    | some count => width.most * count⟩

end Width

inductive Node where
  | empty
  | one (test : Test)
  | anchor (kind : Anchor)
  | seq (first second : Node)
  | alt (first second : Node)
  | iterate (greed : Greed) (least : Nat) (most : Option Nat) (body : Node)
  | group (index : Nat) (body : Node)
  | scoped (change : FlagChange) (body : Node)
  | atomic (body : Node)
  | look (behind negated : Bool) (body : Node)
  | backreference (index : Nat) (width : Width)
  | conditional (index : Nat) (present absent : Node)
  deriving DecidableEq, Repr

namespace Node

def ofList : List Node → Node
  | [] => .empty
  | [node] => node
  | node :: nodes => .seq node (ofList nodes)

def items : Node → List Node
  | .empty => []
  | .seq first second => first :: second.items
  | node => [node]

def ofCode (code : Nat) : Node := .one (.code false code)

def ofCharacter (letter : Char) : Node := ofCode letter.toNat

def width : Node → Width
  | .empty | .anchor _ | .look _ _ _ => ⟨0, 0⟩
  | .one _ => ⟨1, 1⟩
  | .seq first second => first.width.add second.width
  | .alt first second => first.width.either second.width
  | .iterate _ least most body => body.width.times least most
  | .group _ body | .scoped _ body | .atomic body => body.width
  | .backreference _ width => width
  | .conditional _ present absent => present.width.either absent.width

end Node

end SchemaMerge.Pattern

namespace SchemaMerge

structure Pattern where
  flags : List Pattern.Flag
  node : Pattern.Node
  deriving DecidableEq

end SchemaMerge
