import SchemaMerge.Text.Quoted

namespace SchemaMerge.Pattern

inductive Cause where
  | finalBackslash
  | badEscape (escape : String)
  | incompleteEscape (escape : String)
  | largeOctal (escape : String)
  | missingBrace
  | missingName (noun : String)
  | unterminatedName (terminator : String)
  | unknownCharacter (name : String)
  | openGroup
  | groupBehind
  | invalidReference (index : Nat)
  | unterminatedSet
  | badRange (first last : String)
  | reversedCounts
  | hugeCount
  | nothingToRepeat
  | multipleRepeat
  | unexpectedEnd
  | unknownGroup (name : String)
  | unknownExtension (text : String)
  | unterminatedComment
  | unterminatedGroup
  | badGroupName (name : String)
  | groupZero
  | tooManyBranches
  | lateFlags
  | repeatedName (name : String) (index earlier : Nat)
  | unbalanced
  | localeFlag
  | incompatibleFlags
  | unfinishedFlags
  | unknownFlag
  | missingFlag
  | missingColon
  | alphabetOff
  | globalOn
  | globalOff
  | onAndOff
  | mixedAlphabets
  | variableBehind
  | templateRepeat (kind : String)
  deriving DecidableEq, Repr

namespace Cause

def message : Cause → String
  | .finalBackslash => "bad escape (end of pattern)"
  | .badEscape escape => s!"bad escape {escape}"
  | .incompleteEscape escape => s!"incomplete escape {escape}"
  | .largeOctal escape => s!"octal escape value {escape} outside of range 0-0o377"
  | .missingBrace => "missing \x7b"
  | .missingName noun => s!"missing {noun}"
  | .unterminatedName terminator => s!"missing {terminator}, unterminated name"
  | .unknownCharacter name => s!"undefined character name {Text.quoted name}"
  | .openGroup => "cannot refer to an open group"
  | .groupBehind => "cannot refer to group defined in the same lookbehind subpattern"
  | .invalidReference index => s!"invalid group reference {index}"
  | .unterminatedSet => "unterminated character set"
  | .badRange first last => s!"bad character range {first}-{last}"
  | .reversedCounts => "min repeat greater than max repeat"
  | .hugeCount => "the repetition number is too large"
  | .nothingToRepeat => "nothing to repeat"
  | .multipleRepeat => "multiple repeat"
  | .unexpectedEnd => "unexpected end of pattern"
  | .unknownGroup name => s!"unknown group name {Text.quoted name}"
  | .unknownExtension text => s!"unknown extension ?{text}"
  | .unterminatedComment => "missing ), unterminated comment"
  | .unterminatedGroup => "missing ), unterminated subpattern"
  | .badGroupName name => s!"bad character in group name {Text.quoted name}"
  | .groupZero => "bad group number"
  | .tooManyBranches => "conditional backref with more than two branches"
  | .lateFlags => "global flags not at the start of the expression"
  | .repeatedName name index earlier =>
    s!"redefinition of group name {Text.quoted name} as group {index}; was group {earlier}"
  | .unbalanced => "unbalanced parenthesis"
  | .localeFlag => "bad inline flags: cannot use 'L' flag with a str pattern"
  | .incompatibleFlags => "bad inline flags: flags 'a', 'u' and 'L' are incompatible"
  | .unfinishedFlags => "missing -, : or )"
  | .unknownFlag => "unknown flag"
  | .missingFlag => "missing flag"
  | .missingColon => "missing :"
  | .alphabetOff => "bad inline flags: cannot turn off flags 'a', 'u' and 'L'"
  | .globalOn => "bad inline flags: cannot turn on global flag"
  | .globalOff => "bad inline flags: cannot turn off global flag"
  | .onAndOff => "bad inline flags: flag turned on and off"
  | .mixedAlphabets => "ASCII and UNICODE flags are incompatible"
  | .variableBehind => "look-behind requires fixed-width pattern"
  | .templateRepeat kind => s!"internal: unsupported template operator {kind}"

/-- Whether a pattern with this fault is written by the rules, and yet no matcher is made for it. -/
def isBeyondGrammar : Cause → Bool
  | .hugeCount | .mixedAlphabets => true
  | _ => false

end Cause

structure Fault where
  cause : Cause
  position : Option Nat
  deriving DecidableEq, Repr

namespace Fault

/-- The message names the position, and in a pattern of several lines the line and column too. -/
def message (pattern : List Char) (fault : Fault) : String :=
  match fault.position with
  | none => fault.cause.message
  | some position =>
    let before := pattern.take position
    let line := before.count '\n' + 1
    let column := (before.reverse.takeWhile (· ≠ '\n')).length + 1
    let place := if pattern.contains '\n' then s!" (line {line}, column {column})" else ""
    s!"{fault.cause.message} at position {position}{place}"

end Fault

end SchemaMerge.Pattern
