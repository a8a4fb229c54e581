import SchemaMerge.Text.Ranges
import SchemaMerge.Text.Hexadecimal

/-!
Names made by rule: those of Hangul syllables from the names of their letters, and those of
ideographs and some other characters from their own code points.
-/

namespace SchemaMerge.Text

def leadingNames : List String :=
  ["G", "GG", "N", "D", "DD", "R", "M", "B", "BB", "S", "SS", "", "J", "JJ", "C", "K", "T", "P", "H"]

def vowelNames : List String :=
  ["A", "AE", "YA", "YAE", "EO", "E", "YEO", "YE", "O", "WA", "WAE", "OE", "YO", "U", "WEO", "WE",
   "WI", "YU", "EU", "YI", "I"]

def trailingNames : List String :=
  ["", "G", "GG", "GS", "N", "NJ", "NH", "D", "L", "LG", "LM", "LB", "LS", "LT", "LP", "LH", "M",
   "B", "BS", "S", "SS", "NG", "J", "C", "K", "T", "P", "H"]

def longestStart? (names : List String) (letters : List Char) : Option (Nat × List Char) :=
  (names.zipIdx.filterMap (fun entry =>
    (entry.1.toList.isPrefixOf? letters).map (fun rest => (entry.2, rest)))).foldl
    (fun best next =>
      match best with
      | none => some next
      | some found => if next.2.length < found.2.length then some next else some found)
    none

def syllable? (letters : List Char) : Option Nat := do
  let (leading, letters) ← longestStart? leadingNames letters
  let (vowel, letters) ← longestStart? vowelNames letters
  let (trailing, letters) ← longestStart? trailingNames letters
  if letters.isEmpty then
    return 0xac00 + (leading * vowelNames.length + vowel) * trailingNames.length + trailing
  else none

def ideographRanges : List (Nat × Nat) :=
  [(0x3400, 0x4dbf), (0x4e00, 0x9fff), (0x20000, 0x2a6df), (0x2a700, 0x2b738), (0x2b740, 0x2b81d),
   (0x2b820, 0x2cea1), (0x2ceb0, 0x2ebe0), (0x30000, 0x3134a)]

def ideograph? (digits : List Char) : Option Nat := do
  let code ← hexNumber? digits
  if inRanges ideographRanges code && (digits.length = 4 || digits.length = 5) &&
      !digits.any Char.isLower then
    return code
  else none

structure NumberedNames where
  start : String
  ranges : List (Nat × Nat)

def numberedNames : List NumberedNames :=
  [⟨"CJK COMPATIBILITY IDEOGRAPH-", [(0xf900, 0xfa6d), (0xfa70, 0xfad9), (0x2f800, 0x2fa1d)]⟩,
   ⟨"KHITAN SMALL SCRIPT CHARACTER-", [(0x18b00, 0x18cd5)]⟩,
   ⟨"NUSHU CHARACTER-", [(0x1b170, 0x1b2fb)]⟩]

/-- The code point that has the given name, which has no more digits than it needs. -/
def NumberedNames.codeOf? (names : NumberedNames) (name : List Char) : Option Nat := do
  let digits ← names.start.toList.isPrefixOf? name
  let code ← hexNumber? digits
  if inRanges names.ranges code && digits.length = (if code < 0x10000 then 4 else 5) then
    return code
  else none

end SchemaMerge.Text
