import Mathlib.Data.String.Basic
import SchemaMerge.Proofs.Json.RoundTrip
import SchemaMerge.Proofs.Json.Rounding

namespace SchemaMerge

namespace Members

def Ascends (members : Members) : Prop := members.Pairwise fun member other => member.1 < other.1

theorem insertByKey_ascends {member : String × Json} {members : Members} (ascends : Ascends members)
    (fresh : ∀ other ∈ members, other.1 ≠ member.1) : Ascends (insertByKey member members) := by
  induction members with
  | nil => exact List.pairwise_singleton _ _
  | cons other rest ih =>
      obtain ⟨least, ascends⟩ := List.pairwise_cons.mp ascends
      obtain ⟨differs, fresh⟩ := List.forall_mem_cons.mp fresh
      unfold insertByKey
      split
      · next before =>
        refine List.pairwise_cons.mpr ⟨?_, List.pairwise_cons.mpr ⟨least, ascends⟩⟩
        intro third present
        rcases List.mem_cons.mp present with rfl | later
        · exact before
        · exact lt_trans before (least third later)
      · next notBefore =>
        have after : other.1 < member.1 := lt_of_le_of_ne (not_lt.mp notBefore) differs
        refine List.pairwise_cons.mpr ⟨?_, ih ascends fresh⟩
        intro third present
        rcases List.mem_cons.mp ((insertByKey_perm member rest).mem_iff.mp present) with rfl | later
        · exact after
        · exact least third later

theorem sortByKey_ascends {members : Members} (distinct : members.Distinct) :
    Ascends (sortByKey members) := by
  induction members with
  | nil => exact List.Pairwise.nil
  | cons member rest ih =>
      obtain ⟨fresh, distinct⟩ := (distinct_cons member rest).mp distinct
      refine insertByKey_ascends (ih distinct) ?_
      intro other present
      exact fresh other ((sortByKey_perm rest).mem_iff.mp present)

theorem eq_of_ascends {members others : Members} (ascends : Ascends members) (ascends' : Ascends others)
    (distinct : members.Distinct) (distinct' : others.Distinct)
    (same : ∀ key, members.get? key = others.get? key) : members = others := by
  have asymm : ∀ member other : String × Json, member ∈ members → other ∈ others →
      member.1 < other.1 → other.1 < member.1 → member = other := by
    intro member other _ _ before after
    exact absurd after (lt_asymm before)
  apply List.Perm.eq_of_pairwise asymm ascends ascends'
  rw [List.perm_ext_iff_of_nodup (List.Nodup.of_map _ distinct) (List.Nodup.of_map _ distinct')]
  intro member
  rw [← get?_eq_some_iff distinct, ← get?_eq_some_iff distinct', same]

end Members

namespace Double.Finite

theorem units_natAbs (x : Finite) : x.units.natAbs = x.magnitude := by
  unfold units
  split <;> omega

theorem eq_of_units {x y : Finite} (same : x.units = y.units) (nonzero : x.units ≠ 0) : x = y := by
  have magnitude : x.magnitude = y.magnitude := by rw [← units_natAbs, same, units_natAbs]
  have sign : x.negative = y.negative := by
    unfold units at same nonzero
    cases negative : x.negative <;> cases negative' : y.negative <;> simp_all
  apply Double.finite.inj
  rw [← nearest_magnitude x, ← nearest_magnitude y, magnitude, sign]

theorem isIntegral_of_units {x : Finite} {whole : Int} (is : x.units = whole * unitsPerOne) :
    x.isIntegral = true := by
  have divides : (unitsPerOne : Int) ∣ x.units := ⟨whole, by rw [is, mul_comm]⟩
  rw [isIntegral, decide_eq_true_eq, ← units_natAbs]
  exact Nat.mod_eq_zero_of_dvd (Int.natCast_dvd.mp divides)

end Double.Finite

namespace Number

theorem mkRat_units_inj {units units' : Int}
    (same : mkRat units Double.unitsPerOne = mkRat units' Double.unitsPerOne) : units = units' := by
  have nonzero := Double.unitsPerOne_pos.ne'
  rw [Rat.mkRat_eq_iff nonzero nonzero] at same
  exact Int.eq_of_mul_eq_mul_right (Int.natCast_ne_zero.mpr nonzero) same

/-- The numbers that are written as integers are those worth an integer. -/
theorem arranged_eq_int_iff {number : Number} {whole : Int} :
    number.arranged = .int whole ↔ number.value? = some (whole : Rat) := by
  cases number with
  | int value => simp [arranged, value?]
  | float value =>
      cases value with
      | infinity negative => simp [arranged, value?]
      | nan => simp [arranged, value?]
      | finite x =>
          rw [arranged, value?, Option.some.injEq]
          by_cases integral : x.isIntegral = true
          · have exact := mkRat_of_scaled Double.unitsPerOne_pos
              (Double.Finite.units_eq_of_integral integral)
            rw [if_pos integral, exact, Number.int.injEq, Int.cast_inj]
          · rw [if_neg integral]
            refine iff_of_false (by simp) ?_
            intro worth
            have scaled := mkRat_of_scaled Double.unitsPerOne_pos
              (rfl : whole * (Double.unitsPerOne : Int) = _)
            exact integral (Double.Finite.isIntegral_of_units (mkRat_units_inj (worth.trans scaled.symm)))

theorem eq_of_arranged_float {number : Number} {value : Double} (is : number.arranged = .float value) :
    number = .float value := by
  unfold arranged at is
  split at is
  · split at is
    · cases is
    · exact is
  · exact is

theorem arranged_eq_iff {number other : Number} (finite : number.value? ≠ none) :
    number.arranged = other.arranged ↔ number.value? = other.value? := by
  constructor
  · intro same
    rw [← value?_arranged, same, value?_arranged]
  · intro same
    cases arranged : number.arranged with
    | int whole => exact (arranged_eq_int_iff.mpr (same ▸ arranged_eq_int_iff.mp arranged)).symm
    | float value =>
        cases arranged' : other.arranged with
        | int whole =>
            have worth := same.trans (arranged_eq_int_iff.mp arranged')
            exact absurd (arranged.symm.trans (arranged_eq_int_iff.mpr worth)) (by simp)
        | float value' =>
            obtain rfl := eq_of_arranged_float arranged
            obtain rfl := eq_of_arranged_float arranged'
            cases value with
            | infinity negative => exact absurd rfl finite
            | nan => exact absurd rfl finite
            | finite x =>
                cases value' with
                | infinity negative => cases same
                | nan => cases same
                | finite y =>
                    have units := mkRat_units_inj (Option.some.inj same)
                    have nonzero : x.units ≠ 0 := by
                      intro zero
                      have integral := Double.Finite.isIntegral_of_units (zero.trans (Int.zero_mul _).symm)
                      rw [Number.arranged, if_pos integral] at arranged
                      cases arranged
                    rw [Double.Finite.eq_of_units units nonzero]

end Number

namespace Json

/-- Two values are the same: null, booleans and strings are the same as themselves, numbers if they
are worth the same, arrays member by member in order, and objects if they have the same keys and the
same values under them, in any order. -/
inductive Agree : Json → Json → Prop
  | null : Agree .null .null
  | bool (truth : Bool) : Agree (.bool truth) (.bool truth)
  | string (text : String) : Agree (.string text) (.string text)
  | number {number other : Number} (worth : number.value? = other.value?) :
      Agree (.number number) (.number other)
  | array {items others : List Json} (length : items.length = others.length)
      (each : ∀ (index : Nat) item other, items[index]? = some item → others[index]? = some other →
        Agree item other) :
      Agree (.array items) (.array others)
  | object {members others : Members}
      (keys : ∀ key, members.contains key = others.contains key)
      (each : ∀ key value other, members.get? key = some value → others.get? key = some other →
        Agree value other) :
      Agree (.object members) (.object others)

theorem value?_of_isFinite {number : Number} (finite : (Json.number number).isFinite = true) :
    number.value? ≠ none := by
  cases number with
  | int value => simp [Number.value?]
  | float value => cases value <;> simp_all [Number.value?, isFinite, nonFinite?, Double.isFinite]

theorem arrangedItems_eq_iff {items others : List Json} : arrangedItems items = arrangedItems others ↔
    items.length = others.length ∧ ∀ (index : Nat) item other, items[index]? = some item →
      others[index]? = some other → arranged item = arranged other := by
  rw [arrangedItems_eq_map, arrangedItems_eq_map]
  constructor
  · intro same
    refine ⟨by simpa using congrArg List.length same, ?_⟩
    intro index item other found found'
    have there := congrArg (fun forms => forms[index]?) same
    simpa [found, found'] using there
  · intro agree
    obtain ⟨length, each⟩ := agree
    apply List.ext_getElem (by simpa using length)
    intro index inside inside'
    rw [List.length_map] at inside inside'
    rw [List.getElem_map, List.getElem_map]
    exact each index _ _ (List.getElem?_eq_getElem inside) (List.getElem?_eq_getElem inside')

theorem distinct_arranged {members : Members} (distinct : members.Distinct) :
    Members.Distinct (sortByKey (arrangedMembers members)) := by
  have kept : Members.Distinct (arrangedMembers members) := by
    simpa [Members.Distinct, arrangedMembers_eq_map, Function.comp_def] using distinct
  exact ((sortByKey_perm _).map Prod.fst).nodup_iff.mpr kept

theorem ascends_arranged {members : Members} (distinct : members.Distinct) :
    Members.Ascends (sortByKey (arrangedMembers members)) := by
  apply Members.sortByKey_ascends
  simpa [Members.Distinct, arrangedMembers_eq_map, Function.comp_def] using distinct

theorem arrangedMembers_eq_iff {members others : Members} (distinct : members.Distinct)
    (distinct' : others.Distinct) :
    sortByKey (arrangedMembers members) = sortByKey (arrangedMembers others) ↔
      (∀ key, members.contains key = others.contains key) ∧
        ∀ key value other, members.get? key = some value → others.get? key = some other →
          arranged value = arranged other := by
  have found (key : String) :
      Members.get? (sortByKey (arrangedMembers members)) key = (members.get? key).map arranged ∧
        Members.get? (sortByKey (arrangedMembers others)) key = (others.get? key).map arranged :=
    ⟨get?_arranged distinct key, get?_arranged distinct' key⟩
  constructor
  · intro same
    have each (key : String) : (members.get? key).map arranged = (others.get? key).map arranged := by
      rw [← (found key).1, same, (found key).2]
    constructor
    · intro key
      have there := congrArg Option.isSome (each key)
      simpa [Members.contains] using there
    · intro key value other is is'
      have there := each key
      rw [is, is'] at there
      exact Option.some.inj there
  · intro agree
    obtain ⟨keys, each⟩ := agree
    apply Members.eq_of_ascends (ascends_arranged distinct) (ascends_arranged distinct')
      (distinct_arranged distinct) (distinct_arranged distinct')
    intro key
    rw [(found key).1, (found key).2]
    have there := keys key
    unfold Members.contains at there
    cases is : members.get? key with
    | none =>
        rw [is, Option.isSome_none, eq_comm, Option.isSome_eq_false_iff,
          Option.isNone_iff_eq_none] at there
        rw [there]
    | some value =>
        rw [is, Option.isSome_some, eq_comm, Option.isSome_iff_exists] at there
        obtain ⟨other, is'⟩ := there
        rw [is', Option.map_some, Option.map_some, each key value other is is']

theorem noRepeats_arranged (value : Json) : value.noRepeats = true → value.arranged.noRepeats = true := by
  induction value using induction_on_size with
  | _ value ih =>
      intro clean
      cases value with
      | array items =>
          rw [arranged, noRepeats_array, arrangedItems_eq_map, List.forall_mem_map]
          intro item present
          exact ih item (sizeOf_item present) (noRepeats_array.mp clean item present)
      | object members =>
          obtain ⟨distinct, cleanAll⟩ := noRepeats_object.mp clean
          rw [arranged, noRepeats_object]
          refine ⟨distinct_arranged distinct, ?_⟩
          intro member present
          rw [(sortByKey_perm _).mem_iff, arrangedMembers_eq_map] at present
          obtain ⟨before, inside, rfl⟩ := List.mem_map.mp present
          exact ih before.2 (sizeOf_member inside) (cleanAll before inside)
      | _ => simp [arranged, noRepeats]

theorem agree_bool {truth other : Bool} : Agree (.bool truth) (.bool other) ↔ truth = other := by
  constructor
  · intro agree
    cases agree
    rfl
  · rintro rfl
    exact .bool truth

theorem agree_string {text other : String} : Agree (.string text) (.string other) ↔ text = other := by
  constructor
  · intro agree
    cases agree
    rfl
  · rintro rfl
    exact .string text

theorem agree_number {number other : Number} :
    Agree (.number number) (.number other) ↔ number.value? = other.value? := by
  constructor
  · intro agree
    cases agree with
    | number worth => exact worth
  · exact .number

theorem agree_array {items others : List Json} : Agree (.array items) (.array others) ↔
    items.length = others.length ∧ ∀ (index : Nat) item other, items[index]? = some item →
      others[index]? = some other → Agree item other := by
  constructor
  · intro agree
    cases agree with
    | array length each => exact ⟨length, each⟩
  · intro agree
    exact .array agree.1 agree.2

theorem agree_object {members others : Members} : Agree (.object members) (.object others) ↔
    (∀ key, members.contains key = others.contains key) ∧
      ∀ key value other, members.get? key = some value → others.get? key = some other →
        Agree value other := by
  constructor
  · intro agree
    cases agree with
    | object keys each => exact ⟨keys, each⟩
  · intro agree
    exact .object agree.1 agree.2

theorem arranged_array_iff {items others : List Json}
    (each : ∀ item ∈ items, ∀ other ∈ others, (item.arranged = other.arranged ↔ Agree item other)) :
    (Json.array items).arranged = (Json.array others).arranged ↔
      Agree (.array items) (.array others) := by
  rw [arranged, arranged, Json.array.injEq, arrangedItems_eq_iff, agree_array]
  refine and_congr_right fun _ => forall₅_congr ?_
  intro index item other found found'
  exact each item (List.mem_of_getElem? found) other (List.mem_of_getElem? found')

theorem arranged_object_iff {members others : Members} (distinct : members.Distinct)
    (distinct' : others.Distinct)
    (each : ∀ member ∈ members, ∀ other ∈ others,
      (member.2.arranged = other.2.arranged ↔ Agree member.2 other.2)) :
    (Json.object members).arranged = (Json.object others).arranged ↔
      Agree (.object members) (.object others) := by
  rw [arranged, arranged, Json.object.injEq, arrangedMembers_eq_iff distinct distinct', agree_object]
  refine and_congr_right fun _ => forall₅_congr ?_
  intro key value other found found'
  exact each _ (Members.mem_of_get? found) _ (Members.mem_of_get? found')

theorem arranged_eq_iff_agree (first : Json) : ∀ {second : Json}, first.isFinite = true →
    second.isFinite = true → first.noRepeats = true → second.noRepeats = true →
    (first.arranged = second.arranged ↔ Agree first second) := by
  induction first using induction_on_size with
  | _ first ih =>
      intro second finite finite' clean clean'
      cases first with
      | null =>
          cases second with
          | null => exact iff_of_true rfl .null
          | _ => exact iff_of_false (by simp [arranged]) (by intro agree; cases agree)
      | bool truth =>
          cases second with
          | bool other => simp [arranged, agree_bool]
          | _ => exact iff_of_false (by simp [arranged]) (by intro agree; cases agree)
      | string text =>
          cases second with
          | string other => simp [arranged, agree_string]
          | _ => exact iff_of_false (by simp [arranged]) (by intro agree; cases agree)
      | number number =>
          cases second with
          | number other =>
              rw [arranged, arranged, Json.number.injEq, agree_number,
                Number.arranged_eq_iff (value?_of_isFinite finite)]
          | _ => exact iff_of_false (by simp [arranged]) (by intro agree; cases agree)
      | array items =>
          cases second with
          | array others =>
              rw [isFinite_array] at finite finite'
              apply arranged_array_iff
              intro item inside other inside'
              exact ih item (sizeOf_item inside) (finite item inside) (finite' other inside')
                (noRepeats_array.mp clean item inside) (noRepeats_array.mp clean' other inside')
          | _ => exact iff_of_false (by simp [arranged]) (by intro agree; cases agree)
      | object members =>
          cases second with
          | object others =>
              rw [isFinite_object] at finite finite'
              obtain ⟨distinct, cleanAll⟩ := noRepeats_object.mp clean
              obtain ⟨distinct', cleanAll'⟩ := noRepeats_object.mp clean'
              apply arranged_object_iff distinct distinct'
              intro member inside other inside'
              exact ih member.2 (sizeOf_member inside) (finite _ inside) (finite' _ inside')
                (cleanAll _ inside) (cleanAll' _ inside')
          | _ => exact iff_of_false (by simp [arranged]) (by intro agree; cases agree)

theorem canonicalText_eq_iff {first second : Json} (finite : first.isFinite = true)
    (finite' : second.isFinite = true) (clean : first.noRepeats = true)
    (clean' : second.noRepeats = true) :
    ∃ written written', first.canonicalText = .ok written ∧ second.canonicalText = .ok written' ∧
      (written = written' ↔ first.arranged = second.arranged) := by
  refine ⟨first.arranged.text .spaced, second.arranged.text .spaced, ?_, ?_, ?_⟩
  · rw [canonicalText, canonical_eq_ok.mpr ⟨finite, rfl⟩]
    rfl
  · rw [canonicalText, canonical_eq_ok.mpr ⟨finite', rfl⟩]
    rfl
  · constructor
    · intro same
      have read := parse_text Layout.isPlain_spaced (noRepeats_arranged first clean)
      rw [same, parse_text Layout.isPlain_spaced (noRepeats_arranged second clean')] at read
      exact (Except.ok.inj read).symm
    · intro same
      rw [same]

/-- Finite values without repeated keys are equal exactly if they agree, and just then they have the
same canonical text. -/
theorem equal_iff_agree {first second : Json} (finite : first.isFinite = true)
    (finite' : second.isFinite = true) (clean : first.noRepeats = true)
    (clean' : second.noRepeats = true) :
    (∃ answer, first.equal second = .ok answer ∧ (answer = true ↔ Agree first second)) ∧
      ∃ written written', first.canonicalText = .ok written ∧ second.canonicalText = .ok written' ∧
        (written = written' ↔ Agree first second) := by
  have agree := arranged_eq_iff_agree first finite finite' clean clean'
  constructor
  · refine ⟨_, equal_eq_ok.mpr ⟨finite, finite', rfl⟩, ?_⟩
    rw [decide_eq_true_eq, agree]
  · obtain ⟨written, written', text, text', same⟩ := canonicalText_eq_iff finite finite' clean clean'
    exact ⟨written, written', text, text', same.trans agree⟩

def writtenAsDoubles : Json :=
  .object [("one", .number (.float (Double.nearest false 1 1))),
    ("zeros", .array [.number (.float (Double.ofParts true 0 0)), .null])]

def writtenAsIntegers : Json :=
  .object [("zeros", .array [.number (.int 0), .null]), ("one", .number (.int 1))]

theorem doubles_agree_integers :
    (writtenAsDoubles.isFinite = true ∧ writtenAsIntegers.isFinite = true ∧
      writtenAsDoubles.noRepeats = true ∧ writtenAsIntegers.noRepeats = true) ∧
    writtenAsDoubles.equal writtenAsIntegers = .ok true ∧ Agree writtenAsDoubles writtenAsIntegers := by
  have finite : writtenAsDoubles.isFinite = true := by decide +kernel
  have finite' : writtenAsIntegers.isFinite = true := by decide
  have clean : writtenAsDoubles.noRepeats = true := by decide +kernel
  have clean' : writtenAsIntegers.noRepeats = true := by decide
  have compared : writtenAsDoubles.equal writtenAsIntegers = .ok true := by decide +kernel
  obtain ⟨answer, is, same⟩ := (equal_iff_agree finite finite' clean clean').1
  obtain rfl := Except.ok.inj (compared.symm.trans is)
  exact ⟨⟨finite, finite', clean, clean'⟩, compared, same.mp rfl⟩

end Json

end SchemaMerge
