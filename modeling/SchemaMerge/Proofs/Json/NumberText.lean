import SchemaMerge.Json.Reader
import SchemaMerge.Json.Writer
import SchemaMerge.Proofs.Json.Shortest

namespace SchemaMerge.Reader

open Double.Finite (layout exponentText)

def continuesNumber (letter : Char) : Bool :=
  isDigit letter || letter = '.' || letter = 'e' || letter = 'E'

/-- What follows a number that ends there. -/
def Ends (rest : List Char) : Prop :=
  ∀ letter, rest.head? = some letter → continuesNumber letter = false

def Stops (rest : List Char) : Prop := ∀ letter, rest.head? = some letter → isDigit letter = false

def AreDigits (digits : List Char) : Prop := ∀ digit ∈ digits, isDigit digit = true

variable {digits places rest : List Char} {negative : Bool}

theorem stops_cons {letter : Char} (other : isDigit letter = false) (rest : List Char) :
    Stops (letter :: rest) := by
  intro first is
  rwa [← Option.some.inj is]

/-- The digits before the point: no leading zero, unless the integer part is zero. -/
structure IsWhole (digits : List Char) : Prop where
  all : AreDigits digits
  lead : digits = ['0'] ∨ ∃ digit others, digits = digit :: others ∧ digit ≠ '0'

theorem AreDigits.append (first : AreDigits digits) (second : AreDigits places) :
    AreDigits (digits ++ places) := List.forall_mem_append.mpr ⟨first, second⟩

theorem areDigits_zeros (count : Nat) : AreDigits (List.replicate count '0') := by
  intro digit present
  rw [List.eq_of_mem_replicate present]
  rfl

theorem areDigits_toDigits (value : Nat) : AreDigits (Nat.toDigits 10 value) := by
  intro digit present
  have decimal : digit.isDigit = true := Nat.isDigit_of_mem_toDigits (by decide) (by decide) present
  simpa [isDigit, Char.isDigit, Char.le_def] using decimal

theorem naturalOf_toDigits (value : Nat) : naturalOf (Nat.toDigits 10 value) = value :=
  Nat.ofDigitChars_ten_toDigits

theorem naturalOf_append : naturalOf (digits ++ places) =
    10 ^ places.length * naturalOf digits + naturalOf places := by
  rw [naturalOf, Nat.ofDigitChars_append, Nat.ofDigitChars_eq_ofDigitChars_zero]
  rfl

theorem naturalOf_zeros (count : Nat) : naturalOf (List.replicate count '0') = 0 :=
  (Nat.ofDigitChars_replicate_zero).trans (Nat.mul_zero _)

theorem naturalOf_zero : naturalOf ['0'] = 0 := naturalOf_zeros 1

theorem exists_toDigits {value : Nat} (nonzero : value ≠ 0) :
    ∃ digit others, Nat.toDigits 10 value = digit :: others ∧ digit ≠ '0' := by
  induction value using Nat.base_induction 10 (by decide) with
  | single value small =>
      refine ⟨value.digitChar, [], Nat.toDigits_of_lt_base small, ?_⟩
      simpa using nonzero
  | digit value last small positive ih =>
      obtain ⟨digit, others, is, other⟩ := ih positive.ne'
      refine ⟨digit, others ++ Nat.toDigits 10 last, ?_, other⟩
      rw [← Nat.toDigits_append_toDigits (by decide) positive small, is, List.cons_append]

theorem splitDigits_append (all : AreDigits digits) (stops : Stops rest) :
    splitDigits (digits ++ rest) = (digits, rest) := by
  rw [splitDigits, List.takeWhile_append_of_pos all, List.dropWhile_append_of_pos all]
  cases rest with
  | nil => simp
  | cons letter others =>
      have other := stops letter rfl
      rw [List.takeWhile_cons_of_neg (by simp [other]), List.dropWhile_cons_of_neg (by simp [other]),
        List.append_nil]

theorem continuesNumber_eq_false {letter : Char} : continuesNumber letter = false ↔
    isDigit letter = false ∧ letter ≠ '.' ∧ letter ≠ 'e' ∧ letter ≠ 'E' := by
  simp [continuesNumber, and_assoc]

theorem Ends.stops (ends : Ends rest) : Stops rest := by
  intro letter first
  exact (continuesNumber_eq_false.mp (ends letter first)).1

theorem fraction?_of_ends (ends : Ends rest) : fraction? rest = none := by
  cases rest with
  | nil => rfl
  | cons letter others =>
      obtain ⟨-, point, -⟩ := continuesNumber_eq_false.mp (ends letter rfl)
      unfold fraction?
      split
      · next same => exact absurd (List.cons.inj same).1 point
      · rfl

theorem exponent?_of_ends (ends : Ends rest) : exponent? rest = none := by
  cases rest with
  | nil => rfl
  | cons letter others =>
      obtain ⟨-, -, small, capital⟩ := continuesNumber_eq_false.mp (ends letter rfl)
      unfold exponent?
      split
      · next same => exact absurd (List.cons.inj same).1 small
      · next same => exact absurd (List.cons.inj same).1 capital
      · rfl

theorem fraction?_point (filled : places ≠ []) (all : AreDigits places) (stops : Stops rest) :
    fraction? ('.' :: places ++ rest) = some (places, rest) := by
  rw [List.cons_append, fraction?, splitDigits_append all stops]
  cases places with
  | nil => exact absurd rfl filled
  | cons digit others => rfl

theorem exists_exponentText (exponent : Int) : ∃ digits, digits ≠ [] ∧ AreDigits digits ∧
    naturalOf digits = exponent.natAbs ∧
    exponentText exponent = (if exponent < 0 then '-' else '+') :: digits := by
  refine ⟨_, ?_, ?_, ?_, rfl⟩
  · split
    · exact List.cons_ne_nil _ _
    · exact Nat.toDigits_ne_nil
  · split
    · exact (areDigits_zeros 1).append (areDigits_toDigits _)
    · exact areDigits_toDigits _
  · split
    · exact naturalOf_toDigits _
    · exact naturalOf_toDigits _

theorem exponent?_text (exponent : Int) (stops : Stops rest) :
    exponent? ('e' :: exponentText exponent ++ rest) = some (exponent, rest) := by
  obtain ⟨digits, filled, all, value, is⟩ := exists_exponentText exponent
  have split := splitDigits_append all stops
  rw [is]
  cases digits with
  | nil => exact absurd rfl filled
  | cons digit others =>
      have written : ((naturalOf (digit :: others) : Nat) : Int) = exponent.natAbs := by rw [value]
      by_cases below : exponent < 0
      · have signed : -((naturalOf (digit :: others) : Nat) : Int) = exponent := by omega
        rw [if_pos below]
        simp only [List.cons_append, exponent?] at split ⊢
        rw [split]
        simp only [if_true, signed]
      · have signed : ((naturalOf (digit :: others) : Nat) : Int) = exponent := by omega
        rw [if_neg below]
        simp only [List.cons_append, exponent?] at split ⊢
        rw [split]
        simp only [Bool.false_eq_true, if_false, signed]

/-- How the part after the integer part is read, case by case. -/
theorem numberAfter_int (ends : Ends rest) : numberAfter negative digits rest =
    (.int (if negative then -(naturalOf digits : Int) else naturalOf digits), rest) := by
  rw [numberAfter, fraction?_of_ends ends]
  simp only [Option.elim_none, exponent?_of_ends ends]

theorem numberAfter_point (filled : places ≠ []) (all : AreDigits places) (ends : Ends rest) :
    numberAfter negative digits ('.' :: places ++ rest) =
      (.float (Decimal.toDouble negative ⟨naturalOf (digits ++ places), -places.length⟩), rest) := by
  rw [numberAfter, fraction?_point filled all ends.stops]
  simp only [Option.elim_some, exponent?_of_ends ends, Option.elim_none, Int.zero_sub]

theorem numberAfter_exponent (exponent : Int) (ends : Ends rest) :
    numberAfter negative digits ('e' :: exponentText exponent ++ rest) =
      (.float (Decimal.toDouble negative ⟨naturalOf digits, exponent⟩), rest) := by
  have plain : fraction? ('e' :: exponentText exponent ++ rest) = none := rfl
  rw [numberAfter, plain]
  simp only [Option.elim_none, exponent?_text exponent ends.stops, Option.elim_some, List.append_nil,
    List.length_nil, Int.natCast_zero, Int.sub_zero]

theorem numberAfter_both (exponent : Int) (filled : places ≠ []) (all : AreDigits places)
    (ends : Ends rest) :
    numberAfter negative digits ('.' :: places ++ ('e' :: exponentText exponent ++ rest)) =
      (.float (Decimal.toDouble negative ⟨naturalOf (digits ++ places), exponent - places.length⟩),
        rest) := by
  have stops : Stops ('e' :: exponentText exponent ++ rest) := by
    intro letter first
    obtain rfl := Option.some.inj first
    rfl
  rw [numberAfter, fraction?_point filled all stops]
  simp only [Option.elim_some, exponent?_text exponent ends.stops]

theorem unsigned?_whole (negative : Bool) (whole : IsWhole digits) (stops : Stops rest) :
    unsigned? negative (digits ++ rest) = some (numberAfter negative digits rest) := by
  have split := splitDigits_append whole.all stops
  rcases whole.lead with rfl | ⟨digit, others, rfl, other⟩
  · rfl
  · rw [List.cons_append] at split ⊢
    unfold unsigned?
    split
    · next same => exact absurd (List.cons.inj same).1 other
    · rw [split]

theorem unsigned?_point (negative : Bool) (whole : IsWhole digits) (filled : places ≠ [])
    (all : AreDigits places) (ends : Ends rest) :
    unsigned? negative (digits ++ ('.' :: places ++ rest)) =
      some (.float (Decimal.toDouble negative ⟨naturalOf (digits ++ places), -places.length⟩), rest) := by
  have stops : Stops ('.' :: places ++ rest) := stops_cons rfl _
  rw [unsigned?_whole _ whole stops, numberAfter_point filled all ends]

theorem number?_unsigned {letter : Char} (digit : isDigit letter = true) (rest : List Char) :
    number? (letter :: rest) = unsigned? false (letter :: rest) ∧
      number? ('-' :: letter :: rest) = unsigned? true (letter :: rest) := by
  have other : letter ≠ '-' ∧ letter ≠ 'I' ∧ letter ≠ 'N' := by
    refine ⟨?_, ?_, ?_⟩ <;>
      · intro same
        rw [same] at digit
        exact absurd digit (by decide)
  obtain ⟨notMinus, notInfinity, notNan⟩ := other
  constructor
  · unfold number?
    split
    · next same => exact absurd (List.cons.inj same).1 notMinus
    · next same => exact absurd (List.cons.inj same).1 notInfinity
    · next same => exact absurd (List.cons.inj same).1 notNan
    · next same => exact absurd (List.cons.inj same).1 notMinus
    · rfl
  · unfold number?
    split
    · next same => exact absurd (List.cons.inj (List.cons.inj same).2).1 notInfinity
    · next same => exact absurd (List.cons.inj same).1 (by decide)
    · next same => exact absurd (List.cons.inj same).1 (by decide)
    · next same => rw [(List.cons.inj same).2]
    · next plain => exact absurd rfl (plain _)

def signText (negative : Bool) : List Char := if negative then ['-'] else []

theorem number?_sign (negative : Bool) {text : List Char}
    (digit : ∃ letter others, text = letter :: others ∧ isDigit letter = true) :
    number? (signText negative ++ text) = unsigned? negative text := by
  obtain ⟨letter, others, rfl, digit⟩ := digit
  obtain ⟨plain, signed⟩ := number?_unsigned digit others
  cases negative with
  | false => exact plain
  | true => exact signed

theorem AreDigits.first (all : AreDigits digits) (filled : digits ≠ []) (rest : List Char) :
    ∃ letter others, digits ++ rest = letter :: others ∧ isDigit letter = true := by
  obtain ⟨letter, others, rfl⟩ := List.exists_cons_of_ne_nil filled
  exact ⟨letter, others ++ rest, rfl, all letter (List.mem_cons_self ..)⟩

theorem isWhole_toDigits (value : Nat) : IsWhole (Nat.toDigits 10 value) := by
  refine ⟨areDigits_toDigits value, ?_⟩
  by_cases zero : value = 0
  · rw [zero]
    exact Or.inl rfl
  · exact Or.inr (exists_toDigits zero)

theorem writeInt_eq (value : Int) :
    Json.writeInt value = signText (decide (value < 0)) ++ Nat.toDigits 10 value.natAbs := by
  by_cases below : value < 0
  · simp [Json.writeInt, signText, below]
  · simp [Json.writeInt, signText, below]

theorem number?_writeInt (value : Int) (ends : Ends rest) :
    number? (Json.writeInt value ++ rest) = some (.int value, rest) := by
  have whole := isWhole_toDigits value.natAbs
  have signed : (if decide (value < 0) = true then -(value.natAbs : Int) else value.natAbs) = value := by
    by_cases below : value < 0
    · rw [if_pos (decide_eq_true below)]
      omega
    · rw [if_neg (by simpa using below)]
      omega
  rw [writeInt_eq, List.append_assoc, number?_sign _ (whole.all.first Nat.toDigits_ne_nil rest),
    unsigned?_whole _ whole ends.stops, numberAfter_int ends, naturalOf_toDigits, signed]

section layout

variable {digit : Char} {others : List Char} {leading : Int}

theorem unsigned?_below (negative : Bool) (all : AreDigits digits) (filled : digits ≠ [])
    (below : leading < 0) (ends : Ends rest) :
    unsigned? negative ('0' :: '.' :: List.replicate (-leading - 1).toNat '0' ++ digits ++ rest) =
      some (.float (Decimal.toDouble negative ⟨naturalOf digits, leading + 1 - digits.length⟩), rest) := by
  have zero : IsWhole ['0'] := ⟨areDigits_zeros 1, Or.inl rfl⟩
  have places := (areDigits_zeros (-leading - 1).toNat).append all
  have value : naturalOf (['0'] ++ (List.replicate (-leading - 1).toNat '0' ++ digits)) =
      naturalOf digits := by
    rw [naturalOf_append, naturalOf_append, naturalOf_zeros, naturalOf_zero, Nat.mul_zero, Nat.zero_add,
      Nat.mul_zero, Nat.zero_add]
  have exponent : -((List.replicate (-leading - 1).toNat '0' ++ digits).length : Int) =
      leading + 1 - digits.length := by
    rw [List.length_append, List.length_replicate]
    omega
  have read := unsigned?_point negative zero
    (List.append_ne_nil_of_right_ne_nil _ filled) places ends
  rw [value, exponent] at read
  simpa using read

theorem unsigned?_integer (negative : Bool) (whole : IsWhole digits) (zeros : Nat) (ends : Ends rest)
    (nonzero : digits ≠ ['0']) :
    unsigned? negative (digits ++ List.replicate zeros '0' ++ ['.', '0'] ++ rest) =
      some (.float (Decimal.toDouble negative ⟨naturalOf digits * 10 ^ zeros * 10, -1⟩), rest) := by
  obtain ⟨digit, others, rfl, other⟩ := whole.lead.resolve_left nonzero
  have padded : IsWhole (digit :: others ++ List.replicate zeros '0') :=
    ⟨whole.all.append (areDigits_zeros zeros), Or.inr ⟨digit, others ++ _, rfl, other⟩⟩
  have read := unsigned?_point negative padded (List.cons_ne_nil '0' [])
    (areDigits_zeros 1) ends
  have value : naturalOf (digit :: others ++ List.replicate zeros '0' ++ ['0']) =
      naturalOf (digit :: others) * 10 ^ zeros * 10 := by
    rw [naturalOf_append, naturalOf_append, naturalOf_zeros, naturalOf_zero, List.length_replicate,
      List.length_singleton]
    ring
  rw [value] at read
  simpa using read

theorem reduces_integer (digits zeros : Nat) :
    Decimal.Reduces ⟨digits * 10 ^ zeros * 10, -1⟩ ⟨digits, zeros⟩ := by
  refine ⟨10, by decide, Nat.mul_one _, ?_⟩
  rw [Decimal.denominator, Decimal.denominator, show (-(zeros : Int)).toNat = 0 by omega]
  rfl

theorem unsigned?_between (negative : Bool) (all : AreDigits (digit :: others)) (other : digit ≠ '0')
    (above : 0 ≤ leading) (long : ¬(digit :: others).length ≤ leading.toNat + 1) (ends : Ends rest) :
    unsigned? negative ((digit :: others).take (leading.toNat + 1) ++
        '.' :: (digit :: others).drop (leading.toNat + 1) ++ rest) =
      some (.float (Decimal.toDouble negative
        ⟨naturalOf (digit :: others), leading - others.length⟩), rest) := by
  have whole : IsWhole ((digit :: others).take (leading.toNat + 1)) :=
    ⟨fun letter present => all letter (List.mem_of_mem_take present),
      Or.inr ⟨digit, _, List.take_succ_cons, other⟩⟩
  have places : AreDigits ((digit :: others).drop (leading.toNat + 1)) :=
    fun letter present => all letter (List.mem_of_mem_drop present)
  have filled : (digit :: others).drop (leading.toNat + 1) ≠ [] := by
    rw [ne_eq, List.drop_eq_nil_iff]
    exact long
  have exponent : -(((digit :: others).length - (leading.toNat + 1) : Nat) : Int) =
      leading - others.length := by
    rw [List.length_cons] at long ⊢
    omega
  have read := unsigned?_point negative whole filled places ends
  rw [List.take_append_drop, List.length_drop, exponent] at read
  simpa using read

theorem unsigned?_scientific (negative : Bool) (all : AreDigits (digit :: others)) (other : digit ≠ '0')
    (outside : ¬(-4 ≤ leading ∧ leading < 16)) (ends : Ends rest) :
    unsigned? negative (layout (digit :: others) leading ++ rest) =
      some (.float (Decimal.toDouble negative
        ⟨naturalOf (digit :: others), leading - others.length⟩), rest) := by
  have single : IsWhole [digit] :=
    ⟨fun letter present => all letter (List.mem_cons.mpr (Or.inl (List.mem_singleton.mp present))),
      Or.inr ⟨digit, [], rfl, other⟩⟩
  unfold layout
  rw [if_neg outside]
  cases others with
  | nil =>
      have stops : Stops ('e' :: exponentText leading ++ rest) := stops_cons rfl _
      have read := unsigned?_whole negative single stops
      rw [numberAfter_exponent leading ends] at read
      simpa using read
  | cons second others =>
      have places : AreDigits (second :: others) :=
        fun letter present => all letter (List.mem_cons_of_mem _ present)
      have stops : Stops ('.' :: (second :: others) ++ ('e' :: exponentText leading ++ rest)) :=
        stops_cons rfl _
      have read := unsigned?_whole negative single stops
      rw [numberAfter_both leading (List.cons_ne_nil _ _) places ends] at read
      simpa using read

theorem unsigned?_layout (negative : Bool) (all : AreDigits (digit :: others)) (other : digit ≠ '0')
    (leading : Int) (ends : Ends rest) : ∃ read : Decimal,
    read.Reduces ⟨naturalOf (digit :: others), leading - others.length⟩ ∧
    unsigned? negative (layout (digit :: others) leading ++ rest) =
      some (.float (read.toDouble negative), rest) := by
  by_cases bounds : -4 ≤ leading ∧ leading < 16
  · unfold layout
    rw [if_pos bounds]
    split
    · next below =>
      have read := unsigned?_below negative all (List.cons_ne_nil _ _) below ends
      have exponent : leading + 1 - ((digit :: others).length : Int) = leading - others.length := by
        rw [List.length_cons]
        omega
      rw [exponent] at read
      exact ⟨_, .refl _, read⟩
    · next above =>
      dsimp only
      split
      · next short =>
        have whole : IsWhole (digit :: others) := ⟨all, Or.inr ⟨digit, others, rfl, other⟩⟩
        have nonzero : digit :: others ≠ ['0'] := fun same => other (List.cons.inj same).1
        refine ⟨_, ?_, unsigned?_integer negative whole _ ends nonzero⟩
        have exponent : leading - others.length =
            (leading.toNat + 1 - (digit :: others).length : Nat) := by
          rw [List.length_cons] at short ⊢
          omega
        rw [exponent]
        exact reduces_integer _ _
      · next long =>
        exact ⟨_, .refl _, unsigned?_between negative all other (Int.not_lt.mp above) long ends⟩
  · exact ⟨_, .refl _, unsigned?_scientific negative all other bounds ends⟩

theorem layout_first (all : AreDigits (digit :: others)) (leading : Int) (rest : List Char) :
    ∃ letter following, layout (digit :: others) leading ++ rest = letter :: following ∧
      isDigit letter = true := by
  have first : isDigit digit = true := all digit (List.mem_cons_self ..)
  unfold layout
  split
  · split
    · exact ⟨'0', _, rfl, rfl⟩
    · dsimp only
      split
      · exact ⟨digit, _, rfl, first⟩
      · exact ⟨digit, _, rfl, first⟩
  · cases others with
    | nil => exact ⟨digit, _, rfl, first⟩
    | cons second others => exact ⟨digit, _, rfl, first⟩

end layout

theorem toDouble_zero {x : Double.Finite} (zero : x.significand = 0) (exponent : Int) :
    Decimal.toDouble x.negative ⟨0, exponent⟩ = .finite x := by
  obtain ⟨negative, significand, shift, below, range, normal⟩ := x
  obtain rfl : significand = 0 := zero
  obtain rfl : shift = 0 := normal.resolve_left (by decide)
  rfl

/-- A shortest decimal reads back, however its quotient is written. -/
theorem toDouble_shortest {x : Double.Finite} (nonzero : x.significand ≠ 0) {read : Decimal}
    (reduces : read.Reduces x.shortest) : read.toDouble x.negative = .finite x := by
  obtain ⟨factor, positive, top, bottom⟩ := reduces
  apply Decimal.toDouble_of_nearest nonzero
  rw [top, bottom, Double.nearest_mul x.negative positive]
  exact Double.Finite.nearest_shortest nonzero

theorem digits_ne_zero {x : Double.Finite} (nonzero : x.significand ≠ 0) : x.shortest.digits ≠ 0 := by
  intro none
  have read := toDouble_shortest nonzero (.refl x.shortest)
  rw [Decimal.toDouble, if_pos none, Double.ofParts, dif_pos (by decide)] at read
  exact nonzero (congrArg Double.Finite.significand (Double.finite.inj read)).symm

theorem text_eq_zero {x : Double.Finite} (zero : x.significand = 0) :
    x.text = signText x.negative ++ ['0', '.', '0'] := by
  rw [Double.Finite.text, if_pos zero]
  rfl

theorem exists_text {x : Double.Finite} (nonzero : x.significand ≠ 0) : ∃ digit others,
    Nat.toDigits 10 x.shortest.digits = digit :: others ∧ digit ≠ '0' ∧
      x.text = signText x.negative ++ layout (digit :: others) (x.shortest.exponent + others.length) := by
  obtain ⟨digit, others, is, other⟩ := exists_toDigits (digits_ne_zero nonzero)
  refine ⟨digit, others, is, other, ?_⟩
  have leading : x.shortest.exponent + ((digit :: others).length : Int) - 1 =
      x.shortest.exponent + others.length := by
    rw [List.length_cons]
    omega
  rw [← leading, ← is, Double.Finite.text, if_neg nonzero]
  rfl

theorem number?_text (x : Double.Finite) (ends : Ends rest) :
    number? (x.text ++ rest) = some (.float (.finite x), rest) := by
  by_cases zero : x.significand = 0
  · have whole : IsWhole ['0'] := ⟨areDigits_zeros 1, Or.inl rfl⟩
    have read := unsigned?_point x.negative whole (List.cons_ne_nil '0' []) (areDigits_zeros 1) ends
    rw [naturalOf_append, naturalOf_zero, Nat.mul_zero, toDouble_zero zero] at read
    have digit : ∃ letter others, ['0', '.', '0'] ++ rest = letter :: others ∧ isDigit letter = true :=
      ⟨'0', _, rfl, rfl⟩
    rw [text_eq_zero zero, List.append_assoc, number?_sign _ digit]
    exact read
  · obtain ⟨digit, others, is, other, written⟩ := exists_text zero
    have all := areDigits_toDigits x.shortest.digits
    have value := naturalOf_toDigits x.shortest.digits
    rw [is] at all value
    obtain ⟨read, reduces, reads⟩ := unsigned?_layout x.negative all other
      (x.shortest.exponent + others.length) ends
    rw [value, Int.add_sub_cancel] at reduces
    rw [written, List.append_assoc, number?_sign _ (layout_first all _ rest), reads,
      toDouble_shortest zero reduces]

theorem number?_writeNumber (number : Number) (ends : Ends rest) :
    number? (Json.writeNumber number ++ rest) = some (number, rest) := by
  cases number with
  | int value => exact number?_writeInt value ends
  | float value =>
      cases value with
      | finite x => exact number?_text x ends
      | infinity negative => cases negative <;> rfl
      | nan => rfl

def startsNumber (letter : Char) : Bool :=
  isDigit letter || letter = '-' || letter = 'I' || letter = 'N'

theorem signText_first (negative : Bool) {text : List Char}
    (digit : ∃ letter others, text = letter :: others ∧ isDigit letter = true) :
    ∃ letter others, signText negative ++ text = letter :: others ∧ startsNumber letter = true := by
  obtain ⟨letter, others, rfl, digit⟩ := digit
  cases negative with
  | false => exact ⟨letter, others, rfl, by simp [startsNumber, digit]⟩
  | true => exact ⟨'-', letter :: others, rfl, rfl⟩

theorem text_first (x : Double.Finite) :
    ∃ letter others, x.text = letter :: others ∧ startsNumber letter = true := by
  by_cases zero : x.significand = 0
  · rw [text_eq_zero zero]
    exact signText_first _ ⟨'0', ['.', '0'], rfl, rfl⟩
  · obtain ⟨digit, others, is, -, written⟩ := exists_text zero
    have all := areDigits_toDigits x.shortest.digits
    rw [is] at all
    have first := layout_first all (x.shortest.exponent + others.length) []
    rw [List.append_nil] at first
    rw [written]
    exact signText_first _ first

theorem writeNumber_first (number : Number) : ∃ letter others,
    Json.writeNumber number = letter :: others ∧ startsNumber letter = true := by
  cases number with
  | int value =>
      have digit := (areDigits_toDigits value.natAbs).first Nat.toDigits_ne_nil []
      rw [List.append_nil] at digit
      rw [Json.writeNumber, writeInt_eq]
      exact signText_first _ digit
  | float value =>
      cases value with
      | finite x => exact text_first x
      | infinity negative => cases negative <;> exact ⟨_, _, rfl, rfl⟩
      | nan => exact ⟨_, _, rfl, rfl⟩

end SchemaMerge.Reader
