import Mathlib.Tactic
import SchemaMerge.Json.Reader
import SchemaMerge.Json.Writer

namespace SchemaMerge

namespace Text

theorem hexValue?_hexDigit {value : Nat} (small : value < 16) :
    hexValue? (hexDigit value) = some value := by
  have every : ∀ value : Fin 16, hexValue? (hexDigit value) = some value.val := by decide
  exact every ⟨value, small⟩

theorem foldlM_hexDigits (width value start : Nat) :
    (hexDigits width value).foldlM (fun value digit => (hexValue? digit).map (16 * value + ·)) start =
      some (16 ^ width * start + value % 16 ^ width) := by
  induction width generalizing value with
  | zero => simp [hexDigits, Nat.mod_one]
  | succ width ih =>
      rw [hexDigits, List.foldlM_append, ih]
      have small : value % 16 < 16 := Nat.mod_lt _ (by decide)
      have joined : 16 * (16 ^ width * start + value / 16 % 16 ^ width) + value % 16 =
          16 ^ (width + 1) * start + value % 16 ^ (width + 1) := by
        have split := Nat.mod_mul (x := value) (a := 16) (b := 16 ^ width)
        rw [pow_succ', split]
        ring
      simp [hexValue?_hexDigit small, joined]

theorem hexNumber?_hexDigits {width value : Nat} (fits : value < 16 ^ width) :
    hexNumber? (hexDigits width value) = some value := by
  rw [hexNumber?, foldlM_hexDigits, Nat.mul_zero, Nat.zero_add, Nat.mod_eq_of_lt fits]

end Text

namespace Reader

variable {start rest : List Char}

theorem unitEscape_hexDigits {unit : Nat} (fits : unit < 0x10000) (next : Char) (rest : List Char) :
    unitEscape (Text.hexDigits 4 unit ++ next :: rest) = .ok (unit, next :: rest) := by
  have read : Text.hexNumber? (Text.hexDigits 4 unit) = some unit := Text.hexNumber?_hexDigits fits
  have four : Text.hexDigits 4 unit = [Text.hexDigit (unit / 16 / 16 / 16 % 16),
      Text.hexDigit (unit / 16 / 16 % 16), Text.hexDigit (unit / 16 % 16), Text.hexDigit (unit % 16)] := rfl
  rw [four] at read ⊢
  simp only [List.cons_append, List.nil_append, unitEscape, read]

theorem not_surrogate (letter : Char) : ¬(0xd800 ≤ letter.toNat ∧ letter.toNat ≤ 0xdfff) := by
  have valid := letter.valid
  simp only [UInt32.isValidChar, Nat.isValidChar] at valid
  simp only [Char.toNat]
  omega

theorem isSurrogate_toNat (letter : Char) : isSurrogate letter.toNat = false := by
  have whole := not_surrogate letter
  simp only [isSurrogate, isHighUnit, isLowUnit, Bool.or_eq_false_iff, Bool.and_eq_false_iff,
    decide_eq_false_iff_not]
  omega

theorem unicodeEscape_unit {letter : Char} (plain : letter.toNat < 0x10000) (next : Char)
    (rest : List Char) : unicodeEscape (Text.hexDigits 4 letter.toNat ++ next :: rest) =
      .ok (letter.toNat, next :: rest) := by
  have alone : isHighUnit letter.toNat = false :=
    (Bool.or_eq_false_iff.mp (isSurrogate_toNat letter)).1
  rw [unicodeEscape, unitEscape_hexDigits plain]
  simp only [bind, Except.bind]
  split
  · rw [alone, Bool.false_and, if_neg Bool.false_ne_true]
  · rfl

theorem unicodeEscape_pair {high low : Nat} (isHigh : isHighUnit high = true)
    (isLow : isLowUnit low = true) (next : Char) (rest : List Char) :
    unicodeEscape (Text.hexDigits 4 high ++
        '\\' :: 'u' :: (Text.hexDigits 4 low ++ next :: rest)) =
      .ok (0x10000 + (high - 0xd800) * 0x400 + (low - 0xdc00), next :: rest) := by
  have fits : high < 0x10000 ∧ low < 0x10000 := by
    simp only [isHighUnit, isLowUnit, Bool.and_eq_true, decide_eq_true_eq] at isHigh isLow
    omega
  have room : hasRoom (Text.hexDigits 4 low ++ next :: rest) = true := rfl
  rw [unicodeEscape, unitEscape_hexDigits fits.1]
  simp only [bind, Except.bind, isHigh, room, Bool.and_self, if_true]
  rw [unitEscape_hexDigits fits.2]
  simp only [isLow, if_true]

/-- The two units of a character beyond the first 65536. -/
theorem units_of_beyond {letter : Char} (beyond : 0x10000 ≤ letter.toNat) :
    isHighUnit (0xd800 + (letter.toNat - 0x10000) / 0x400) = true ∧
      isLowUnit (0xdc00 + (letter.toNat - 0x10000) % 0x400) = true ∧
      0x10000 + (0xd800 + (letter.toNat - 0x10000) / 0x400 - 0xd800) * 0x400 +
        (0xdc00 + (letter.toNat - 0x10000) % 0x400 - 0xdc00) = letter.toNat := by
  have most : letter.toNat < 0x110000 := by
    have valid := letter.valid
    simp only [UInt32.isValidChar, Nat.isValidChar] at valid
    simp only [Char.toNat]
    omega
  simp only [isHighUnit, isLowUnit, Bool.and_eq_true, decide_eq_true_eq]
  omega

theorem characters_cons (start : List Char) (fuel : Nat) (letter next : Char) (rest : List Char) :
    characters start (fuel + 1) (Json.escapeCharacter letter ++ next :: rest) = (do
      let (codes, rest) ← characters start fuel (next :: rest)
      .ok (letter.toNat :: codes, rest)) := by
  unfold Json.escapeCharacter
  split
  · next is => subst is; rfl
  · next notQuote =>
    split
    · next is => subst is; rfl
    · next notBackslash =>
      split
      · next is => subst is; rfl
      split
      · next is => subst is; rfl
      split
      · next is => subst is; rfl
      split
      · next is => subst is; rfl
      split
      · next is => subst is; rfl
      split
      · next printable =>
        have visible : ¬letter < ' ' := Char.not_lt.mpr printable.1
        rw [List.singleton_append, characters, if_neg visible]
        · exact notQuote
        · exact notBackslash
      -- an escape of one unit, or of the two halves of a pair
      split
      · next plain =>
        have read := unicodeEscape_unit plain next rest
        rw [Json.unitEscape, List.cons_append, List.cons_append, characters, escape, read]
        rfl
      · next beyond =>
        obtain ⟨isHigh, isLow, value⟩ := units_of_beyond (Nat.not_lt.mp beyond)
        have read := unicodeEscape_pair isHigh isLow next rest
        rw [value] at read
        simp only [Json.unitEscape, List.cons_append, List.append_assoc]
        rw [characters, escape, read]
        rfl

theorem characters_escape (start letters rest : List Char) {fuel : Nat}
    (enough : letters.length < fuel) :
    characters start fuel (letters.flatMap Json.escapeCharacter ++ '"' :: rest) =
      .ok (letters.map Char.toNat, rest) := by
  induction letters generalizing fuel with
  | nil =>
      obtain ⟨fuel, rfl⟩ := Nat.exists_eq_succ_of_ne_zero (Nat.ne_of_gt enough)
      rfl
  | cons letter letters ih =>
      obtain ⟨fuel, rfl⟩ := Nat.exists_eq_succ_of_ne_zero (Nat.ne_of_gt (Nat.zero_lt_of_lt enough))
      have read := ih (Nat.lt_of_succ_lt_succ enough)
      obtain ⟨next, following, is⟩ : ∃ next following,
          letters.flatMap Json.escapeCharacter ++ '"' :: rest = next :: following :=
        List.exists_cons_of_ne_nil (List.append_ne_nil_of_right_ne_nil _ (List.cons_ne_nil _ _))
      rw [is] at read
      rw [List.flatMap_cons, List.append_assoc, is, Nat.succ_eq_add_one, characters_cons, read]
      rfl

end Reader

end SchemaMerge
