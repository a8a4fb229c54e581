import SchemaMerge.Proofs.Json.Parsed

/-!
Texts whose escapes hold no half of a surrogate pair alone. Reading such a text never stops at a string
for what it cannot hold, so every fault that is found in it is one of form.
-/

namespace SchemaMerge

namespace Reader

/-- Whether each half of a pair that a text escapes stands with the other half. `half` says that a first
half stands right before the text. -/
def pairs (half : Bool) : List Char → Bool
  | [] => !half
  | '\\' :: 'u' :: a :: b :: c :: d :: rest =>
    match Text.hexNumber? [a, b, c, d] with
    | some unit => isLowUnit unit == half && pairs (isHighUnit unit) rest
    | none => !half && pairs false rest
  | '\\' :: _ :: rest => !half && pairs false rest
  | _ :: rest => !half && pairs false rest

variable {text rest start : List Char}

theorem pairs_cons {half : Bool} {letter : Char} (other : letter ≠ '\\') (rest : List Char) :
    pairs half (letter :: rest) = (!half && pairs false rest) := by
  rw [pairs]
  · intro _ _ _ _ _ is
    exact absurd is other
  · intro _ _ is
    exact absurd is other

theorem pairs_escape {half : Bool} {letter : Char} (other : letter ≠ 'u') (rest : List Char) :
    pairs half ('\\' :: letter :: rest) = (!half && pairs false rest) := by
  rw [pairs]
  intro _ _ _ _ _ is
  exact absurd is other

theorem pairs_unit {half : Bool} {a b c d : Char} {unit : Nat}
    (read : Text.hexNumber? [a, b, c, d] = some unit) (rest : List Char) :
    pairs half ('\\' :: 'u' :: a :: b :: c :: d :: rest) =
      (isLowUnit unit == half && pairs (isHighUnit unit) rest) := by
  rw [pairs, read]

theorem exists_low_of_pairs (paired : pairs true text = true) :
    ∃ a b c d unit rest, text = '\\' :: 'u' :: a :: b :: c :: d :: rest ∧
      Text.hexNumber? [a, b, c, d] = some unit ∧ isLowUnit unit = true ∧ pairs false rest = true := by
  unfold pairs at paired
  split at paired
  · exact absurd paired (by simp)
  · next a b c d rest =>
    split at paired
    · next unit read =>
      obtain ⟨low, behind⟩ := Bool.and_eq_true_iff.mp paired
      have isLow : isLowUnit unit = true := by simpa using low
      have single : isHighUnit unit = false := by
        simp only [isLowUnit, isHighUnit, Bool.and_eq_true, Bool.and_eq_false_iff, decide_eq_true_eq,
          decide_eq_false_iff_not] at isLow ⊢
        omega
      exact ⟨a, b, c, d, unit, rest, rfl, read, isLow, single ▸ behind⟩
    · exact absurd paired (by simp)
  · exact absurd paired (by simp)
  · exact absurd paired (by simp)

inductive Drops : List Char → List Char → Prop
  | refl (text : List Char) : Drops text text
  | cons {letter : Char} {text rest : List Char} (other : letter ≠ '\\') (drops : Drops text rest) :
      Drops (letter :: text) rest

namespace Drops

theorem trans {behind : List Char} (first : Drops text rest) (second : Drops rest behind) :
    Drops text behind := by
  induction first with
  | refl => exact second
  | cons other _ ih => exact .cons other (ih second)

theorem append {letters : List Char} (other : '\\' ∉ letters) (rest : List Char) :
    Drops (letters ++ rest) rest := by
  induction letters with
  | nil => exact .refl rest
  | cons letter letters ih =>
      simp only [List.mem_cons, not_or] at other
      exact .cons (Ne.symm other.1) (ih other.2)

theorem dropWhile {skips : Char → Bool} (other : skips '\\' = false) (text : List Char) :
    Drops text (text.dropWhile skips) := by
  induction text with
  | nil => exact .refl []
  | cons letter text ih =>
      rw [List.dropWhile_cons]
      split
      · next skipped => exact .cons (by rintro rfl; simp [other] at skipped) ih
      · exact .refl _

theorem paired (drops : Drops text rest) (paired : pairs false text = true) :
    pairs false rest = true := by
  induction drops with
  | refl => exact paired
  | cons other _ ih =>
      rw [pairs_cons other] at paired
      exact ih paired

end Drops

theorem drops_skipBlanks (text : List Char) : Drops text (skipBlanks text) := .dropWhile (by decide) text

theorem drops_splitDigits (text : List Char) : Drops text (splitDigits text).2 := .dropWhile (by decide) text

theorem fraction?_drops {digits : List Char} (read : fraction? text = some (digits, rest)) :
    Drops text rest := by
  unfold fraction? at read
  split at read
  · next text =>
    split at read
    · cases read
    · cases read
      exact .cons (by decide) (drops_splitDigits text)
  · cases read

theorem sign_drops {negative : Bool} {digits : List Char} (split : (match text with
      | '-' :: rest => (true, rest)
      | '+' :: rest => (false, rest)
      | _ => (false, text)) = (negative, digits)) : Drops text digits := by
  split at split
  · cases split
    exact .cons (by decide) (.refl _)
  · cases split
    exact .cons (by decide) (.refl _)
  · cases split
    exact .refl _

theorem exponent?_drops {power : Int} (read : exponent? text = some (power, rest)) :
    Drops text rest := by
  unfold exponent? at read
  split at read
  case h_3 => cases read
  -- the letter is small or large
  all_goals
    split at read
    next digits signed =>
      have drops := drops_splitDigits digits
      split at read
      · cases read
      · next split =>
        cases read
        rw [split] at drops
        exact .cons (by decide) ((sign_drops signed).trans drops)

theorem numberAfter_drops (negative : Bool) (whole rest : List Char) :
    Drops rest (numberAfter negative whole rest).2 := by
  unfold numberAfter
  cases fraction : fraction? rest with
  | none =>
      cases exponent : exponent? rest with
      | none => simpa [exponent] using Drops.refl rest
      | some found => simpa [exponent] using exponent?_drops exponent
  | some split =>
      have drops := fraction?_drops fraction
      cases exponent : exponent? split.2 with
      | none => simpa [exponent] using drops
      | some found => simpa [exponent] using drops.trans (exponent?_drops exponent)

theorem unsigned?_drops {negative : Bool} {number : Number}
    (read : unsigned? negative text = some (number, rest)) : Drops text rest := by
  unfold unsigned? at read
  split at read
  · next text =>
    obtain rfl : (numberAfter negative ['0'] text).2 = rest := congrArg Prod.snd (Option.some.inj read)
    exact .cons (by decide) (numberAfter_drops ..)
  · have drops := drops_splitDigits text
    split at read
    · cases read
    · next digits behind _ split =>
      rw [split] at drops
      obtain rfl : (numberAfter negative digits behind).2 = rest := congrArg Prod.snd (Option.some.inj read)
      exact drops.trans (numberAfter_drops ..)

theorem number?_drops {number : Number} (read : number? text = some (number, rest)) : Drops text rest := by
  unfold number? at read
  split at read
  · cases read
    exact Drops.append (show '\\' ∉ "-Infinity".toList by decide) _
  · cases read
    exact Drops.append (show '\\' ∉ "Infinity".toList by decide) _
  · cases read
    exact Drops.append (show '\\' ∉ "NaN".toList by decide) _
  · exact .cons (by decide) (unsigned?_drops read)
  · exact unsigned?_drops read

/-- A reading that neither ends before an unpaired text nor stops at a lone surrogate. -/
structure LeavesPaired {α : Type} (outcome : Except Stop (α × List Char)) : Prop where
  behind : ∀ {read rest}, outcome = .ok (read, rest) → pairs false rest = true
  cause : ∀ {stop}, outcome = .error stop → stop.cause ≠ .loneSurrogate

namespace LeavesPaired

variable {α β : Type}

theorem ok {read : α} (paired : pairs false rest = true) :
    LeavesPaired (.ok (read, rest) : Except Stop (α × List Char)) := by
  refine ⟨?_, ?_⟩
  · rintro _ _ ⟨⟩
    exact paired
  · rintro _ ⟨⟩

theorem error {cause : ReadCause} (other : cause ≠ .loneSurrogate) (rest : List Char) :
    LeavesPaired (.error ⟨cause, rest⟩ : Except Stop (α × List Char)) := by
  refine ⟨?_, ?_⟩
  · rintro _ _ ⟨⟩
  · rintro _ ⟨⟩
    exact other

theorem bind {action : Except Stop (α × List Char)} {next : α × List Char → Except Stop (β × List Char)}
    (first : LeavesPaired action)
    (later : ∀ {read rest}, pairs false rest = true → LeavesPaired (next (read, rest))) :
    LeavesPaired (action >>= next) := by
  cases action with
  | error stop => exact error (first.cause rfl) stop.rest
  | ok found => exact later (first.behind rfl)

end LeavesPaired

theorem unitEscape_eq_ok {unit : Nat} (read : unitEscape text = .ok (unit, rest)) :
    ∃ a b c d e others, text = a :: b :: c :: d :: e :: others ∧ rest = e :: others ∧
      Text.hexNumber? [a, b, c, d] = some unit := by
  unfold unitEscape at read
  split at read
  · split at read
    · next found =>
      cases read
      exact ⟨_, _, _, _, _, _, rfl, rfl, found⟩
    · cases read
  · cases read

theorem unitEscape_of_short (short : hasRoom text = false) :
    unitEscape text = .error ⟨.badUnitEscape, 'u' :: text⟩ := by
  unfold unitEscape
  split
  · exact absurd short (by simp [hasRoom])
  · rfl

theorem isSurrogate_of_beyond {code : Nat} (beyond : 0x10000 ≤ code) : isSurrogate code = false := by
  simp only [isSurrogate, isHighUnit, isLowUnit, Bool.or_eq_false_iff, Bool.and_eq_false_iff,
    decide_eq_false_iff_not]
  omega

/-- The code that an escape gives is no lone surrogate, unless the text breaks off in the second half of
its pair. -/
theorem unicodeEscape_whole {code : Nat} (paired : pairs false ('\\' :: 'u' :: text) = true)
    (read : unicodeEscape text = .ok (code, rest)) :
    (isSurrogate code = false ∧ pairs false rest = true) ∨
      ∃ more, rest = '\\' :: 'u' :: more ∧ hasRoom more = false := by
  obtain ⟨⟨unit, behind⟩, escaped, read⟩ := bind_eq_ok.mp read
  obtain ⟨a, b, c, d, e, others, rfl, rfl, value⟩ := unitEscape_eq_ok escaped
  rw [pairs_unit value, Bool.and_eq_true, beq_iff_eq] at paired
  obtain ⟨notLow, paired⟩ := paired
  cases high : isHighUnit unit with
  | false =>
      rw [high] at paired
      have alone : isSurrogate unit = false := by simp [isSurrogate, high, notLow]
      simp only [high, Bool.false_and, Bool.false_eq_true, if_false] at read
      split at read
      · cases read
        exact Or.inl ⟨alone, paired⟩
      · cases read
        exact Or.inl ⟨alone, paired⟩
  | true =>
      -- the second half is there, but it is read only if one more character stands behind it
      rw [high] at paired
      obtain ⟨a', b', c', d', low, behind, is, value', isLow, paired⟩ := exists_low_of_pairs paired
      simp only [is, high, Bool.true_and] at read
      split at read
      · next room =>
        obtain ⟨⟨second, after⟩, escaped', read⟩ := bind_eq_ok.mp read
        obtain ⟨_, _, _, _, _, _, same, rfl, found⟩ := unitEscape_eq_ok escaped'
        cases same
        obtain rfl := Option.some.inj (value'.symm.trans found)
        simp only [isLow, if_true] at read
        obtain ⟨rfl, rfl⟩ := Prod.mk.inj (Except.ok.inj read)
        exact Or.inl ⟨isSurrogate_of_beyond (by omega), paired⟩
      · next tight =>
        cases read
        exact Or.inr ⟨_, rfl, by simpa using tight⟩

theorem escape_whole {code : Nat} (paired : pairs false ('\\' :: text) = true)
    (read : escape start text = .ok (code, rest)) :
    (isSurrogate code = false ∧ pairs false rest = true) ∨
      ∃ more, rest = '\\' :: 'u' :: more ∧ hasRoom more = false := by
  have plain {letter : Char} (other : letter ≠ 'u') (code : Nat) (whole : isSurrogate code = false)
      (paired : pairs false ('\\' :: letter :: rest) = true) :
      isSurrogate code = false ∧ pairs false rest = true := by
    rw [pairs_escape other] at paired
    exact ⟨whole, paired⟩
  unfold escape at read
  split at read
  · cases read
  · exact unicodeEscape_whole paired read
  all_goals
    cases read
  all_goals exact Or.inl (plain (by decide) _ (by decide) paired)

theorem characters_ne_ok_of_short {more : List Char} (short : hasRoom more = false) {fuel : Nat}
    {found : List Nat × List Char} : characters start fuel ('\\' :: 'u' :: more) ≠ .ok found := by
  cases fuel with
  | zero => simp [characters]
  | succ fuel => simp [characters, escape, unicodeEscape, unitEscape_of_short short, bind, Except.bind]

theorem characters_whole {fuel : Nat} {codes : List Nat} (paired : pairs false text = true)
    (read : characters start fuel text = .ok (codes, rest)) :
    codes.any isSurrogate = false ∧ pairs false rest = true := by
  fun_induction characters start fuel text generalizing codes rest with
  | case1 => cases read
  | case2 => cases read
  | case3 =>
      cases read
      rw [pairs_cons (by decide)] at paired
      exact ⟨rfl, paired⟩
  | case4 fuel text ih =>
      obtain ⟨⟨code, behind⟩, escaped, read⟩ := bind_eq_ok.mp read
      obtain ⟨⟨others, after⟩, following, read⟩ := bind_eq_ok.mp read
      cases read
      rcases escape_whole paired escaped with ⟨whole, paired⟩ | ⟨more, rfl, short⟩
      · obtain ⟨wholeRest, paired⟩ := ih _ paired following
        rw [List.any_cons, whole, wholeRest]
        exact ⟨rfl, paired⟩
      · exact absurd following (characters_ne_ok_of_short short)
  | case5 => cases read
  | case6 fuel letter text _ notBackslash _ ih =>
      obtain ⟨⟨others, after⟩, following, read⟩ := bind_eq_ok.mp read
      cases read
      rw [pairs_cons notBackslash] at paired
      obtain ⟨wholeRest, paired⟩ := ih paired following
      rw [List.any_cons, isSurrogate_toNat, wholeRest]
      exact ⟨rfl, paired⟩

theorem unitEscape_cause {stop : Stop} (failed : unitEscape text = .error stop) :
    stop.cause ≠ .loneSurrogate := by
  unfold unitEscape at failed
  split at failed
  · split at failed
    · cases failed
    · cases failed
      simp
  · cases failed
    simp

theorem unicodeEscape_cause {stop : Stop} (failed : unicodeEscape text = .error stop) :
    stop.cause ≠ .loneSurrogate := by
  rcases bind_eq_error.mp failed with failed | ⟨⟨unit, behind⟩, -, failed⟩
  · exact unitEscape_cause failed
  · dsimp only at failed
    split at failed
    · split at failed
      · rcases bind_eq_error.mp failed with failed | ⟨⟨second, after⟩, -, failed⟩
        · exact unitEscape_cause failed
        · dsimp only at failed
          split at failed <;> cases failed
      · cases failed
    · cases failed

theorem escape_cause {stop : Stop} (failed : escape start text = .error stop) :
    stop.cause ≠ .loneSurrogate := by
  unfold escape at failed
  split at failed
  case h_1 =>
    cases failed
    simp
  case h_2 => exact unicodeEscape_cause failed
  case h_11 =>
    cases failed
    simp
  all_goals cases failed

theorem characters_cause {fuel : Nat} {stop : Stop} (failed : characters start fuel text = .error stop) :
    stop.cause ≠ .loneSurrogate := by
  fun_induction characters start fuel text with
  | case1 =>
      cases failed
      simp
  | case2 =>
      cases failed
      simp
  | case3 => cases failed
  | case4 fuel text ih =>
      rcases bind_eq_error.mp failed with failed | ⟨⟨code, behind⟩, -, failed⟩
      · exact escape_cause failed
      · rcases bind_eq_error.mp failed with failed | ⟨_, -, failed⟩
        · exact ih _ failed
        · cases failed
  | case5 =>
      cases failed
      simp
  | case6 fuel letter text _ _ _ ih =>
      rcases bind_eq_error.mp failed with failed | ⟨_, -, failed⟩
      · exact ih failed
      · cases failed

theorem leavesPaired_string (fuel : Nat) (paired : pairs false text = true) :
    LeavesPaired (string fuel text) := by
  unfold string
  cases read : characters ('"' :: text) fuel text with
  | error stop => exact .error (characters_cause read) stop.rest
  | ok found =>
      obtain ⟨codes, behind⟩ := found
      obtain ⟨whole, paired⟩ := characters_whole paired read
      change LeavesPaired (if codes.any isSurrogate = true then _ else _)
      rw [whole, if_neg (by simp)]
      exact .ok paired

/-- Nothing that the readers come to in a paired text, at some depth, is a lone surrogate. -/
structure ReadsPaired (fuel : Nat) : Prop where
  value : ∀ {text}, pairs false text = true → LeavesPaired (Reader.value fuel text)
  items : ∀ {text}, pairs false text = true → LeavesPaired (Reader.items fuel text)
  members : ∀ {text}, pairs false text = true → LeavesPaired (Reader.members fuel text)

namespace ReadsPaired

variable {fuel : Nat}

theorem behind_blanks {letter : Char} (other : letter ≠ '\\') (paired : pairs false text = true)
    (is : skipBlanks text = letter :: rest) : pairs false rest = true :=
  (is ▸ drops_skipBlanks text |>.trans (.cons other (.refl rest))).paired paired

theorem value_succ (inner : ReadsPaired fuel) (paired : pairs false text = true) :
    LeavesPaired (Reader.value (fuel + 1) text) := by
  have behind {letters rest : List Char} (other : '\\' ∉ letters) (paired : pairs false (letters ++ rest) = true) :
      pairs false rest = true := (Drops.append other rest).paired paired
  unfold Reader.value
  split
  · next rest =>
    refine (leavesPaired_string fuel ?_).bind fun paired => .ok paired
    exact behind (show '\\' ∉ ['"'] by decide) paired
  · next rest =>
    have paired := behind (show '\\' ∉ ['\x7b'] by decide) paired
    split
    · next is => exact .ok (behind_blanks (by decide) paired is)
    · exact (inner.members ((drops_skipBlanks rest).paired paired)).bind fun paired => .ok paired
  · next rest =>
    have paired := behind (show '\\' ∉ ['['] by decide) paired
    split
    · next is => exact .ok (behind_blanks (by decide) paired is)
    · exact (inner.items ((drops_skipBlanks rest).paired paired)).bind fun paired => .ok paired
  · exact .ok (behind (show '\\' ∉ "null".toList by decide) paired)
  · exact .ok (behind (show '\\' ∉ "true".toList by decide) paired)
  · exact .ok (behind (show '\\' ∉ "false".toList by decide) paired)
  · split
    · next read => exact .ok ((number?_drops read).paired paired)
    · exact .error (by decide) _

theorem items_succ (inner : ReadsPaired fuel) (paired : pairs false text = true) :
    LeavesPaired (Reader.items (fuel + 1) text) := by
  rw [Reader.items]
  refine (inner.value paired).bind fun paired => ?_
  dsimp only
  split
  · next is => exact .ok (behind_blanks (by decide) paired is)
  · next is =>
    have paired := behind_blanks (by decide) paired is
    exact (inner.items ((drops_skipBlanks _).paired paired)).bind fun paired => .ok paired
  · exact .error (by decide) _

theorem members_succ (inner : ReadsPaired fuel) (paired : pairs false text = true) :
    LeavesPaired (Reader.members (fuel + 1) text) := by
  unfold Reader.members
  split
  · next rest =>
    rw [pairs_cons (by decide)] at paired
    refine (leavesPaired_string fuel paired).bind fun paired => ?_
    dsimp only
    split
    · next is =>
      have paired := behind_blanks (by decide) paired is
      refine (inner.value ((drops_skipBlanks _).paired paired)).bind fun paired => ?_
      dsimp only
      split
      · next is => exact .ok (behind_blanks (by decide) paired is)
      · next is =>
        have paired := behind_blanks (by decide) paired is
        exact (inner.members ((drops_skipBlanks _).paired paired)).bind fun paired => .ok paired
      · exact .error (by decide) _
    · exact .error (by decide) _
  · exact .error (by decide) _

end ReadsPaired

theorem readsPaired (fuel : Nat) : ReadsPaired fuel := by
  induction fuel with
  | zero =>
      constructor
      · exact fun _ => .error (by decide) _
      · exact fun _ => .error (by decide) _
      · exact fun _ => .error (by decide) _
  | succ fuel ih => exact ⟨ih.value_succ, ih.items_succ, ih.members_succ⟩

theorem document_cause {stop : Stop} (paired : pairs false text = true)
    (failed : document text = .error stop) : stop.cause ≠ .loneSurrogate := by
  unfold document at failed
  split at failed
  · cases failed
    simp
  · have reads := (readsPaired (2 * text.length + 2)).value ((drops_skipBlanks text).paired paired)
    rcases bind_eq_error.mp failed with failed | ⟨⟨found, rest⟩, -, failed⟩
    · exact reads.cause failed
    · dsimp only at failed
      split at failed
      · cases failed
      · cases failed
        simp

end Reader

namespace Json

/-- Every half of a surrogate pair that a text escapes stands with the other half. -/
def IsPaired (text : String) : Prop := Reader.pairs false text.toList = true

theorem parse_cause {text : String} {fault : ReadFault} (paired : IsPaired text)
    (failed : parse text = .error fault) : fault.cause ≠ .loneSurrogate := by
  unfold parse at failed
  split at failed
  · cases failed
  · next stop stopped =>
    cases failed
    exact Reader.document_cause paired stopped

end Json

end SchemaMerge
