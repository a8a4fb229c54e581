import Mathlib.Data.Real.Basic
import SchemaMerge.Proofs.Json.Agreement
import SchemaMerge.Proofs.Symmetry.Object

/-!
The pairs of bounds of two objects that meet, read as sets of reals. A pair is in one of two forms:
the exclusive bound is a number of its own, or it says whether the inclusive number is excluded. The
meet admits the reals that both sides admit, whichever of the forms they are in.
-/

namespace SchemaMerge

namespace Side

/-- Whether a limit on that side, itself excluded or not, admits a real. -/
def admits : Side → Bool → ℝ → ℝ → Prop
  | .upper, true, limit, x => x < limit
  | .upper, false, limit, x => x ≤ limit
  | .lower, true, limit, x => limit < x
  | .lower, false, limit, x => limit ≤ x

variable {side : Side} {excluded : Bool} {limit bound x : ℝ}

theorem admits_of_excluded (within : side.admits true limit x) : side.admits excluded limit x := by
  cases excluded with
  | true => exact within
  | false => cases side <;> exact le_of_lt within

theorem admits_of_tighter (tighter : side.admits false bound limit)
    (within : side.admits excluded limit x) : side.admits excluded bound x := by
  cases side <;> cases excluded <;> simp only [admits] at * <;> linarith

theorem admits_of_beyond (beyond : ¬side.admits false bound limit) (within : side.admits false bound x) :
    side.admits true limit x := by
  cases side <;> simp only [admits, not_le] at * <;> linarith

end Side

namespace Number

variable {first second : Number} {x y : Rat}

theorem exists_units {number : Number} (value : number.value? = some x) :
    ∃ units : Int, number.position? = some (0, units) ∧ x = units / Double.unitsPerOne := by
  have positive : (0 : Rat) < Double.unitsPerOne := by exact_mod_cast Double.unitsPerOne_pos
  cases number with
  | int integer =>
      obtain rfl := Option.some.inj value
      refine ⟨_, rfl, ?_⟩
      rw [Int.cast_mul, Int.cast_natCast, mul_div_cancel_right₀ _ positive.ne']
  | float double =>
      cases double with
      | finite double =>
          obtain rfl := Option.some.inj value
          exact ⟨_, rfl, Rat.mkRat_eq_div _ _⟩
      | infinity negative => simp [value?] at value
      | nan => simp [value?] at value

theorem le_iff_value? (value : first.value? = some x) (value' : second.value? = some y) :
    first.le second = true ↔ x ≤ y := by
  have positive : (0 : Rat) < Double.unitsPerOne := by exact_mod_cast Double.unitsPerOne_pos
  obtain ⟨units, place, rfl⟩ := exists_units value
  obtain ⟨units', place', rfl⟩ := exists_units value'
  rw [le_iff place place', div_le_div_iff_of_pos_right positive, Int.cast_le]

theorem exists_value? {number : Number} (finite : (Json.number number).isFinite = true) :
    ∃ value, number.value? = some value :=
  Option.ne_none_iff_exists'.mp (Json.value?_of_isFinite finite)

end Number

namespace Schema

open Json (isEqual)

variable {recur : Meeting} {side : Side} {first second schema out : Members} {x : ℝ}

def boundsOf : Side → BoundPair
  | .upper => .upper
  | .lower => .lower

def limit? (argument : Option Json) : Option Rat :=
  argument.bind fun argument => argument.number?.bind Number.value?

def Within (side : Side) (excluded : Bool) (argument : Option Json) (x : ℝ) : Prop :=
  ∀ limit ∈ limit? argument, side.admits excluded limit x

/-- The reals that the two arguments of a pair admit. -/
def Admits (side : Side) (exclusive inclusive : Option Json) (x : ℝ) : Prop :=
  Within side true exclusive x ∧ Within side (exclusive = some (.bool true)) inclusive x

def admitted (side : Side) (schema : Members) : Set ℝ :=
  {x | Admits side (schema.get? (boundsOf side).exclusive) (schema.get? (boundsOf side).inclusive) x}

def IsBound (side : Side) (keyword : String) : Prop :=
  keyword = (boundsOf side).exclusive ∨ keyword = (boundsOf side).inclusive

theorem boundsOf_differ (side : Side) : (boundsOf side).exclusive ≠ (boundsOf side).inclusive := by
  cases side <;> decide

theorem boundsOf_numeric (side : Side) : (boundsOf side).IsNumeric := by
  cases side <;> exact ⟨by decide, by decide⟩

theorem IsBound.mem {keyword : String} (named : IsBound side keyword) : keyword ∈ boundKeywords := by
  rcases named with rfl | rfl
  · exact (boundsOf_numeric side).1
  · exact (boundsOf_numeric side).2

theorem tight_iff {limit bound : Number} {value value' : Rat}
    (is : limit.value? = some value) (is' : bound.value? = some value') :
    (boundsOf side).tight limit bound = true ↔ side.admits false value' value := by
  cases side with
  | upper =>
      rw [Side.admits, Rat.cast_le]
      exact Number.le_iff_value? is is'
  | lower =>
      rw [Side.admits, Rat.cast_le]
      exact Number.le_iff_value? is' is

section within

variable {excluded : Bool} {argument : Option Json}

theorem within_of_none (none : limit? argument = none) : Within side excluded argument x := by
  intro limit found
  rw [none] at found
  exact absurd found (by simp)

theorem within_number {number : Number} {value : Rat} (is : number.value? = some value) :
    Within side excluded (some (.number number)) x ↔ side.admits excluded value x := by
  simp [Within, limit?, Json.number?, is]

theorem within_none : Within side excluded none x := within_of_none rfl

theorem within_bool (flag : Bool) : Within side excluded (some (.bool flag)) x := within_of_none rfl

end within

theorem mem_admitted : x ∈ admitted side schema ↔
    Admits side (schema.get? (boundsOf side).exclusive) (schema.get? (boundsOf side).inclusive) x :=
  Iff.rfl

theorem admitted_toNumeric : admitted side ((boundsOf side).toNumeric schema) = admitted side schema := by
  have differ := boundsOf_differ side
  ext x
  rw [mem_admitted, mem_admitted]
  unfold BoundPair.toNumeric
  split
  · next limit flagged found =>
    rw [Members.get?_set, if_pos rfl, Members.get?_set, if_neg differ.symm, Members.get?_erase, if_pos rfl,
      flagged, found, Admits, Admits]
    simp only [decide_true, within_none, within_bool, and_true, true_and]
  · next flag flagged alone =>
    rw [Members.get?_erase, if_pos rfl, Members.get?_erase, if_neg differ.symm, flagged, Admits, Admits]
    cases flag with
    | false => simp [within_none, within_bool]
    | true =>
        cases found : schema.get? (boundsOf side).inclusive with
        | none => simp [within_none, within_bool]
        | some limit => exact (alone limit found rfl).elim
  · rfl

theorem admitted_congr (exclusive : out.get? (boundsOf side).exclusive = schema.get? (boundsOf side).exclusive)
    (inclusive : out.get? (boundsOf side).inclusive = schema.get? (boundsOf side).inclusive) :
    admitted side out = admitted side schema := by
  rw [admitted, exclusive, inclusive, admitted]

theorem admitted_numericBounds (side : Side) (schema : Members) :
    admitted side (numericBounds schema) = admitted side schema := by
  cases side with
  | upper =>
      have upper : admitted .upper (BoundPair.upper.toNumeric schema) = admitted .upper schema :=
        admitted_toNumeric
      rw [← upper]
      exact admitted_congr (BoundPair.get?_toNumeric .lower _ (by decide) (by decide))
        (BoundPair.get?_toNumeric .lower _ (by decide) (by decide))
  | lower =>
      have lower : admitted .lower (numericBounds schema) =
          admitted .lower (BoundPair.upper.toNumeric schema) := admitted_toNumeric
      rw [lower]
      exact admitted_congr (BoundPair.get?_toNumeric .upper _ (by decide) (by decide))
        (BoundPair.get?_toNumeric .upper _ (by decide) (by decide))

theorem within_present {keyword : String} {excluded : Bool} :
    Within side excluded (schema.present? keyword) x ↔ Within side excluded (schema.get? keyword) x := by
  unfold Members.present?
  split
  · next null =>
    have unset : Within side excluded (some .null) x := within_of_none rfl
    simp only [null, within_none, unset]
  · rfl

theorem get?_present_bound {keyword : String} (distinct : schema.Distinct)
    (bound : keyword ∈ boundKeywords) :
    (presentKeywords (.object schema)).get? keyword = schema.present? keyword := by
  apply get?_present distinct
  rcases mem_boundKeywords.mp bound with rfl | rfl | rfl | rfl <;> decide

/-- Null is no bound, so leaving it out changes no set. -/
theorem admitted_presentKeywords (distinct : schema.Distinct) :
    admitted side (presentKeywords (.object schema)) = admitted side schema := by
  have numeric := boundsOf_numeric side
  ext x
  have flag : schema.present? (boundsOf side).exclusive = some (.bool true) ↔
      schema.get? (boundsOf side).exclusive = some (.bool true) := by
    rw [Members.present?_eq_some_iff]
    simp
  rw [mem_admitted, mem_admitted, get?_present_bound distinct numeric.1,
    get?_present_bound distinct numeric.2, Admits, Admits, within_present, within_present, decide_eq_decide.mpr flag]

section joins

variable {keyword : String} {left right result : Option Json}

theorem limit?_congr {argument argument' : Json} (same : isEqual argument argument' = true) :
    limit? (some argument) = limit? (some argument') := by
  refine Json.number_congr (fun argument => limit? (some argument)) (fun argument => ?_) ?_ same
  · cases argument <;> rfl
  · intro number other forms
    change number.value? = other.value?
    rw [← Number.value?_arranged, forms, Number.value?_arranged]

theorem combine_tight (named : IsBound side keyword)
    {argument argument' met : Json} (made : combine recur keyword argument argument' = .ok met)
    (finite : argument.isFinite = true) (finite' : argument'.isFinite = true) :
    ∃ number other, argument = .number number ∧ argument' = .number other ∧
      ((met = argument ∧ (boundsOf side).tight number other = true) ∨
        (met = argument' ∧ (boundsOf side).tight other number = true)) := by
  cases side with
  | upper =>
      have made : Keyword.upperBound argument argument' = .ok met := by
        rcases named with rfl | rfl <;> exact made
      obtain ⟨number, other, rfl, rfl, rfl⟩ := Keyword.upperBound_eq_ok made
      refine ⟨number, other, rfl, rfl, ?_⟩
      rcases Number.least_cases finite finite' with ⟨is, less⟩ | ⟨is, less⟩
      · exact Or.inl ⟨congrArg Json.number is, less⟩
      · exact Or.inr ⟨congrArg Json.number is, Number.le_of_lt less⟩
  | lower =>
      have made : Keyword.lowerBound argument argument' = .ok met := by
        rcases named with rfl | rfl <;> exact made
      obtain ⟨number, other, rfl, rfl, rfl⟩ := Keyword.lowerBound_eq_ok made
      refine ⟨number, other, rfl, rfl, ?_⟩
      rcases Number.greatest_cases finite finite' with ⟨is, greater⟩ | ⟨is, greater⟩
      · exact Or.inl ⟨congrArg Json.number is, greater⟩
      · exact Or.inr ⟨congrArg Json.number is, Number.le_of_lt greater⟩

theorem within_of_tight {number other : Number} {excluded : Bool}
    (tight : (boundsOf side).tight number other = true) (finite : (Json.number number).isFinite = true)
    (finite' : (Json.number other).isFinite = true)
    (within : Within side excluded (some (.number number)) x) :
    Within side excluded (some (.number other)) x := by
  obtain ⟨value, is⟩ := Number.exists_value? finite
  obtain ⟨value', is'⟩ := Number.exists_value? finite'
  rw [within_number is] at within
  rw [within_number is']
  exact Side.admits_of_tighter ((tight_iff is is').mp tight) within

theorem within_of_not_tight {number other : Number} (loose : (boundsOf side).tight number other = false)
    (finite : (Json.number number).isFinite = true) (finite' : (Json.number other).isFinite = true)
    (within : Within side false (some (.number other)) x) :
    Within side true (some (.number number)) x := by
  obtain ⟨value, is⟩ := Number.exists_value? finite
  obtain ⟨value', is'⟩ := Number.exists_value? finite'
  rw [within_number is'] at within
  rw [within_number is]
  apply Side.admits_of_beyond _ within
  rw [← tight_iff is is', loose]
  simp

theorem within_of_excluded {argument : Option Json} {excluded : Bool}
    (within : Within side true argument x) : Within side excluded argument x :=
  fun limit found => Side.admits_of_excluded (within limit found)

theorem combine_within (named : IsBound side keyword)
    {argument argument' met : Json} (made : combine recur keyword argument argument' = .ok met)
    (finite : argument.isFinite = true) (finite' : argument'.isFinite = true) (excluded : Bool) :
    Within side excluded (some met) x ↔
      Within side excluded (some argument) x ∧ Within side excluded (some argument') x := by
  obtain ⟨number, other, rfl, rfl, ⟨rfl, tight⟩ | ⟨rfl, tight⟩⟩ := combine_tight named made finite finite'
  · exact (and_iff_left_of_imp (within_of_tight tight finite finite')).symm
  · exact (and_iff_right_of_imp (within_of_tight tight finite' finite)).symm

theorem joins_within (named : IsBound side keyword)
    (joins : Joins? recur keyword left right result)
    (finite : ∀ {argument}, left = some argument → argument.isFinite = true)
    (finite' : ∀ {argument}, right = some argument → argument.isFinite = true) (excluded : Bool) :
    Within side excluded result x ↔ Within side excluded left x ∧ Within side excluded right x := by
  cases joins with
  | neither => simp only [within_none, and_self]
  | left argument => simp only [within_none, and_true]
  | right argument => simp only [within_none, true_and]
  | same compared =>
      have same := limit?_congr (Json.isEqual_of_equal (finitely_eq_ok.mp compared))
      simp only [Within, same, and_self]
  | combined _ made => exact combine_within named made (finite rfl) (finite' rfl) excluded

theorem joins_flag (bound : keyword ∈ boundKeywords) (joins : Joins? recur keyword left right result)
    (plain : result ≠ some (.bool true)) : left ≠ some (.bool true) ∧ right ≠ some (.bool true) := by
  cases joins with
  | neither => exact ⟨plain, plain⟩
  | left argument => exact ⟨plain, by simp⟩
  | right argument => exact ⟨by simp, plain⟩
  | same compared =>
      refine ⟨plain, ?_⟩
      rintro ⟨⟩
      have same := Json.isEqual_of_equal (finitely_eq_ok.mp compared)
      exact plain (congrArg some (Json.isEqual_bool (Json.isEqual_symm same)))
  | combined _ made =>
      obtain ⟨pick, -, picks⟩ := exists_pick bound
      obtain ⟨number, other, rfl, rfl, -⟩ := picks made
      exact ⟨by simp, by simp⟩

end joins

/-- What remains of a pair of bounds in a schema that was merged: beside a number of its own an exclusive
bound leaves no inclusive one, and as a flag it excludes an inclusive number. -/
inductive Remains (boolean : Bool) : Option Json → Option Json → Prop
  | inclusive (bound : Option Json) : Remains boolean none bound
  | exclusive (plain : boolean = false) (limit : Number) : Remains boolean (some (.number limit)) none
  | flagged (asked : boolean = true) (limit : Number) :
      Remains boolean (some (.bool true)) (some (.number limit))

section reduced

variable {boolean : Bool}

theorem mem_admitted_inclusive : x ∈ admitted side (schema.erase (boundsOf side).exclusive) ↔
    Within side false (schema.present? (boundsOf side).inclusive) x := by
  rw [mem_admitted, Members.get?_erase, if_pos rfl, Members.get?_erase,
    if_neg (boundsOf_differ side).symm, Admits, decide_eq_false (by simp), within_present]
  simp only [within_none, true_and]

theorem mem_admitted_exclusive (plain : schema.get? (boundsOf side).exclusive ≠ some (.bool true)) :
    x ∈ admitted side (schema.erase (boundsOf side).inclusive) ↔
      Within side true (schema.present? (boundsOf side).exclusive) x := by
  rw [mem_admitted, Members.get?_erase, if_neg (boundsOf_differ side), Members.get?_erase, if_pos rfl, Admits,
    decide_eq_false plain, within_present]
  simp only [within_none, and_true]

theorem mem_admitted_flagged {limit : Json} : x ∈ admitted side
    ((schema.set (boundsOf side).inclusive limit).set (boundsOf side).exclusive (.bool true)) ↔
      Within side true (some limit) x := by
  rw [mem_admitted, Members.get?_set, if_pos rfl, Members.get?_set, if_neg (boundsOf_differ side).symm,
    Members.get?_set, if_pos rfl, Admits]
  simp only [decide_true, within_bool, true_and]

theorem ne_flag_of_reconcile (made : (boundsOf side).reconcile boolean schema = .ok out) :
    schema.get? (boundsOf side).exclusive ≠ some (.bool true) := by
  obtain ⟨exclusive, _, found, -⟩ := BoundPair.reconcile_eq_ok made
  intro flag
  rw [Members.present?, flag] at found
  cases exclusive <;> simp at found

theorem remains_of_reconcile (made : (boundsOf side).reconcile boolean schema = .ok out) :
    Remains boolean (out.get? (boundsOf side).exclusive) (out.get? (boundsOf side).inclusive) := by
  have differ := boundsOf_differ side
  obtain ⟨exclusive, _, found, -, ⟨rfl, -⟩ | ⟨limit, rfl, -, rfl⟩⟩ := BoundPair.reconcile_eq_ok made
  · rw [Members.get?_erase, if_pos rfl]
    exact .inclusive _
  · cases boolean with
    | true =>
        rw [if_pos rfl, Members.get?_set, if_pos rfl, Members.get?_set, if_neg differ.symm, Members.get?_set,
          if_pos rfl]
        exact .flagged rfl limit
    | false =>
        have number := (Members.present?_eq_some_iff.mp found).1
        rw [if_neg (by simp), Members.get?_erase, if_neg differ, number, Members.get?_erase, if_pos rfl]
        exact .exclusive rfl limit

theorem reconcile_admitted (made : (boundsOf side).reconcile boolean schema = .ok out)
    (finite : ∀ {keyword argument}, IsBound side keyword → schema.get? keyword = some argument →
      argument.isFinite = true) : admitted side out = admitted side schema := by
  have plain := ne_flag_of_reconcile made
  obtain ⟨exclusive, inclusive, found, found', reduced⟩ := BoundPair.reconcile_eq_ok made
  have finiteLimit {limit : Number} (is : exclusive = some limit) : (Json.number limit).isFinite = true := by
    rw [is] at found
    exact finite (Or.inl rfl) (Members.present?_eq_some_iff.mp found).1
  have finiteBound {bound : Number} (is : inclusive = some bound) : (Json.number bound).isFinite = true := by
    rw [is] at found'
    exact finite (Or.inr rfl) (Members.present?_eq_some_iff.mp found').1
  ext x
  have reads : x ∈ admitted side schema ↔ Within side true (exclusive.map Json.number) x ∧
      Within side false (inclusive.map Json.number) x := by
    rw [mem_admitted, Admits, decide_eq_false plain, ← within_present, found,
      ← within_present, found']
  rcases reduced with ⟨rfl, weaker⟩ | ⟨limit, rfl, stronger, rfl⟩
  · rw [mem_admitted_inclusive, found', reads]
    refine (and_iff_right_of_imp fun within => ?_).symm
    cases exclusive with
    | none => exact within_none
    | some limit =>
        obtain ⟨bound, rfl, loose⟩ := weaker limit rfl
        exact within_of_not_tight loose (finiteLimit rfl) (finiteBound rfl) within
  · have whole : x ∈ admitted side schema ↔ Within side true (some (.number limit)) x := by
      rw [reads]
      refine and_iff_left_of_imp fun within => ?_
      cases inclusive with
      | none => exact within_none
      | some bound =>
          have tight := stronger bound rfl
          exact within_of_excluded (within_of_tight tight (finiteLimit rfl) (finiteBound rfl) within)
    split
    · rw [mem_admitted_flagged, whole]
    · rw [mem_admitted_exclusive plain, found, whole, Option.map_some]

end reduced

def FiniteBounds (schema : Members) : Prop :=
  ∀ {keyword argument}, keyword ∈ boundKeywords → schema.get? keyword = some argument →
    argument.isFinite = true

theorem finiteBounds_toNumeric {pair : BoundPair} (numeric : pair.IsNumeric) (finite : FiniteBounds schema) :
    FiniteBounds (pair.toNumeric schema) := by
  intro keyword argument bound found
  rcases BoundPair.get?_of_toNumeric found with own | ⟨-, own⟩
  · exact finite bound own
  · exact finite numeric.2 own

theorem finiteBounds_numericBounds (finite : FiniteBounds schema) : FiniteBounds (numericBounds schema) :=
  finiteBounds_toNumeric (boundsOf_numeric .lower) (finiteBounds_toNumeric (boundsOf_numeric .upper) finite)

theorem exists_reconcile (made : meetObjects recur first second = .ok out) (distinct : first.Distinct)
    (distinct' : second.Distinct) (side : Side) :
    ∃ before after, (boundsOf side).reconcile (eitherBoolean (boundsOf side) first second) before =
      .ok after ∧ ∀ keyword, IsBound side keyword →
        Joins? recur keyword ((numericBounds first).get? keyword) ((numericBounds second).get? keyword)
          (before.get? keyword) ∧ out.get? keyword = after.get? keyword := by
  obtain ⟨_, _, _, _, merged, bounded, -, -, -, -, joined, upper, lower⟩ :=
    meetObjects_eq_ok made (distinct_numericBounds distinct) (distinct_numericBounds distinct')
  have joins {keyword : String} (bound : keyword ∈ boundKeywords) := by
    have ordinary := bound_ne_reworked bound
    exact joined.joins ordinary.1 ordinary.2
  cases side with
  | upper =>
      refine ⟨merged, bounded, upper, fun keyword named => ⟨joins named.mem, ?_⟩⟩
      rcases named with rfl | rfl <;> exact BoundPair.get?_reconcile lower (by decide) (by decide)
  | lower =>
      refine ⟨bounded, out, lower, fun keyword named => ⟨?_, rfl⟩⟩
      have kept : bounded.get? keyword = merged.get? keyword := by
        rcases named with rfl | rfl <;> exact BoundPair.get?_reconcile upper (by decide) (by decide)
      rw [kept]
      exact joins named.mem

theorem meetObjects_admitted (made : meetObjects recur first second = .ok out) (distinct : first.Distinct)
    (distinct' : second.Distinct) (finite : FiniteBounds first) (finite' : FiniteBounds second) (side : Side) :
    admitted side out = admitted side first ∩ admitted side second ∧
      Remains (eitherBoolean (boundsOf side) first second) (out.get? (boundsOf side).exclusive)
        (out.get? (boundsOf side).inclusive) := by
  obtain ⟨before, after, reduced, joins⟩ := exists_reconcile made distinct distinct' side
  have finiteFirst : FiniteBounds (numericBounds first) := finiteBounds_numericBounds finite
  have finiteSecond : FiniteBounds (numericBounds second) := finiteBounds_numericBounds finite'
  obtain ⟨exclusive, is⟩ := joins _ (Or.inl rfl)
  obtain ⟨inclusive, is'⟩ := joins _ (Or.inr rfl)
  have plain := ne_flag_of_reconcile reduced
  obtain ⟨plainFirst, plainSecond⟩ := joins_flag (boundsOf_numeric side).1 exclusive plain
  have same := reconcile_admitted reduced fun {keyword argument} named found =>
    joins_bound_finite named.mem (joins _ named).1 (finiteFirst named.mem)
      (finiteSecond named.mem) found
  rw [is, is']
  refine ⟨?_, remains_of_reconcile reduced⟩
  rw [admitted_congr is is', same, ← admitted_numericBounds side first, ← admitted_numericBounds side second]
  ext x
  rw [Set.mem_inter_iff, mem_admitted, mem_admitted, mem_admitted, Admits, Admits, Admits,
    decide_eq_false plain, decide_eq_false plainFirst, decide_eq_false plainSecond,
    joins_within (Or.inl rfl) exclusive (finiteFirst (boundsOf_numeric side).1)
      (finiteSecond (boundsOf_numeric side).1),
    joins_within (Or.inr rfl) inclusive (finiteFirst (boundsOf_numeric side).2)
      (finiteSecond (boundsOf_numeric side).2)]
  exact and_and_and_comm

theorem isBoolean_presentKeywords (distinct : schema.Distinct) :
    (boundsOf side).isBoolean (presentKeywords (.object schema)) = (boundsOf side).isBoolean schema := by
  rw [BoundPair.isBoolean, get?_present_bound distinct (boundsOf_numeric side).1, Members.present?,
    BoundPair.isBoolean]
  split
  · next null =>
    rw [null]
    rfl
  · rfl

/-- The bounds on one side of two schemas and of their meet. -/
structure MeetsBounds (side : Side) (first second out : Members) : Prop where
  reals : admitted side out = admitted side first ∩ admitted side second
  apart : ∀ limit, out.get? (boundsOf side).exclusive = some (.number limit) →
    out.get? (boundsOf side).inclusive = none
  flagged : out.get? (boundsOf side).exclusive = some (.bool true) →
    (∃ limit, out.get? (boundsOf side).inclusive = some (.number limit)) ∧
      ((boundsOf side).isBoolean first = true ∨ (boundsOf side).isBoolean second = true)
  boolean : (boundsOf side).isBoolean first = true ∨ (boundsOf side).isBoolean second = true →
    ∀ limit, out.get? (boundsOf side).exclusive ≠ some (.number limit)
  unflagged : out.get? (boundsOf side).exclusive ≠ some (.bool false)

/-- Two different objects with finite bounds, of either form, meet in the reals that both admit. -/
theorem meet_bounds (depth : Int) {met : Json} (distinct : first.Distinct) (distinct' : second.Distinct)
    (nonempty : first ≠ []) (nonempty' : second ≠ []) (finite : FiniteBounds first)
    (finite' : FiniteBounds second) (differ : isEqual (.object first) (.object second) = false)
    (made : meet depth (.object first) (.object second) = .ok met) :
    ∃ out, met = .object out ∧ ∀ side, MeetsBounds side first second out := by
  obtain ⟨out, rfl, merged⟩ := meetObjects_of_meet made nonempty nonempty' differ
  refine ⟨out, rfl, fun side => ?_⟩
  have present {schema : Members} (distinct : schema.Distinct) (finite : FiniteBounds schema) :
      FiniteBounds (presentKeywords (.object schema)) :=
    fun bound found => finite bound ((get?_presentKeywords distinct).mp found).1
  obtain ⟨same, remains⟩ := meetObjects_admitted merged
    (Members.distinct_sublist distinct List.filter_sublist)
    (Members.distinct_sublist distinct' List.filter_sublist) (present distinct finite)
    (present distinct' finite') side
  rw [admitted_presentKeywords distinct, admitted_presentKeywords distinct'] at same
  rw [eitherBoolean, isBoolean_presentKeywords distinct, isBoolean_presentKeywords distinct'] at remains
  generalize is : Members.get? out (boundsOf side).exclusive = exclusive at remains
  generalize is' : Members.get? out (boundsOf side).inclusive = inclusive at remains
  cases remains with
  | inclusive => exact ⟨same, by simp [is], by simp [is], by simp [is], by simp [is]⟩
  | exclusive plain limit =>
      simp only [Bool.or_eq_false_iff] at plain
      exact ⟨same, by simp [is'], by simp [is], by simp [plain], by simp [is]⟩
  | flagged asked limit =>
      rw [Bool.or_eq_true] at asked
      exact ⟨same, by simp [is], fun _ => ⟨⟨limit, is'⟩, asked⟩, by simp [is], by simp [is]⟩

def flaggedRange : Members :=
  [("exclusiveMaximum", .bool true), ("maximum", .number (.int 10)), ("minimum", .number (.int 1))]

def numberedRange : Members :=
  [("exclusiveMaximum", .number (.int 8)), ("exclusiveMinimum", .number (.int 1)), ("maximum", .null)]

def flaggedAndNumbered : Members :=
  [("exclusiveMaximum", .bool true), ("exclusiveMinimum", .number (.int 1)), ("maximum", .number (.int 8))]

theorem flaggedRange_meets_numberedRange :
    flaggedRange.Distinct ∧ numberedRange.Distinct ∧ FiniteBounds flaggedRange ∧
      FiniteBounds numberedRange ∧ isEqual (.object flaggedRange) (.object numberedRange) = false ∧
      meet defaultDepth (.object flaggedRange) (.object numberedRange) = .ok (.object flaggedAndNumbered) ∧
      ∃ out, Json.object flaggedAndNumbered = .object out ∧
        ∀ side, MeetsBounds side flaggedRange numberedRange out := by
  have distinct : flaggedRange.Distinct := by decide
  have distinct' : numberedRange.Distinct := by decide
  have finite : FiniteBounds flaggedRange := by
    intro keyword argument bound found
    rcases mem_boundKeywords.mp bound with rfl | rfl | rfl | rfl <;> cases found <;> rfl
  have finite' : FiniteBounds numberedRange := by
    intro keyword argument bound found
    rcases mem_boundKeywords.mp bound with rfl | rfl | rfl | rfl <;> cases found <;> rfl
  have differ : isEqual (.object flaggedRange) (.object numberedRange) = false := by decide +kernel
  have made : meet defaultDepth (.object flaggedRange) (.object numberedRange) =
      .ok (.object flaggedAndNumbered) := by decide +kernel
  exact ⟨distinct, distinct', finite, finite', differ, made, meet_bounds defaultDepth distinct distinct'
    (by simp [flaggedRange]) (by simp [numberedRange]) finite finite' differ made⟩

end Schema

end SchemaMerge
