import SchemaMerge.Proofs.Meet.Exact

/-!
What the merged properties of two schemas admit where patterns of one side stand beside additional
properties of the other. A pattern that only one side has meets the additional properties of the
other side as a whole, although names that it occurs in may have a schema of their own there; this
is all that keeps the merged space from admitting just what both sides admit.
-/

namespace SchemaMerge.Schema

namespace PropertySpace

/-- Each pattern that only the first space has spares a member of an object: it does not occur in the
name, or the additional properties of the second space accept the value. -/
def Spares (reading : Reading) (first second : PropertySpace) (name : String) (value : Json) : Prop :=
  ∀ pattern schema, first.patterns.present? pattern = some schema →
    second.patterns.present? pattern = none → occurs pattern name = true →
      asks reading second.additional value = true

variable {reading : Reading} {banned : List String} {first second : PropertySpace}
  {properties patterns : Members} {additional : Option Json} {name : String} {value : Json}

theorem spares_of_merges
    (mergedPatterns : Merges reading banned first.ofPatterns second.ofPatterns patterns)
    (admitted : (PropertySpace.mk properties patterns additional).Admits reading name value) :
    Spares reading first second name value := by
  intro pattern schema found missing matched
  have uncovered : ¬second.ofPatterns.Covers pattern := by
    rintro (⟨other, found'⟩ | ⟨pattern', other, found', _⟩)
    · exact absurd (found'.symm.trans missing) (by simp)
    · exact absurd found' (by simp [ofPatterns, Members.present?])
  obtain ⟨met, is, accepted⟩ := mergedPatterns.left.additional found uncovered
  exact accepted (admitted.matched is matched)

theorem admits_ofPatterns_of_spares {pattern : String} (admitted : first.Admits reading name value)
    (spared : Spares reading second first name value) (matched : occurs pattern name = true)
    (known : (∃ schema, first.patterns.present? pattern = some schema) ∨
      ∃ schema, second.patterns.present? pattern = some schema) :
    first.ofPatterns.Admits reading pattern value := by
  refine ⟨fun found => admitted.matched found matched,
    fun found => absurd found (by simp [ofPatterns, Members.present?]), fun missed => ?_⟩
  cases own : first.patterns.present? pattern with
  | some schema => exact absurd (Or.inl ⟨schema, own⟩) missed
  | none =>
      rcases known with ⟨schema, found⟩ | ⟨schema, found⟩
      · exact absurd (own.symm.trans found) (by simp)
      · exact spared pattern schema found own matched

theorem admits_of_spares (exactly : IsExact banned)
    (merged : Merges reading banned first second properties)
    (mergedPatterns : Merges reading banned first.ofPatterns second.ofPatterns patterns)
    (full : ∀ value, asks reading first.additional value = true →
      asks reading second.additional value = true → asks reading additional value = true)
    (admitted : first.Admits reading name value) (admitted' : second.Admits reading name value)
    (spared : Spares reading first second name value) (spared' : Spares reading second first name value) :
    (PropertySpace.mk properties patterns additional).Admits reading name value := by
  refine ⟨fun {met} is => ?_, fun {pattern met} is matched => ?_, fun missed => ?_⟩
  · exact merged.full exactly is admitted admitted'
  · have known := mergedPatterns.known is
    exact mergedPatterns.full exactly is (admits_ofPatterns_of_spares admitted spared' matched known)
      (admits_ofPatterns_of_spares admitted' spared matched known.symm)
  · refine full value (admitted.additional fun covered => ?_) (admitted'.additional fun covered => ?_)
    · exact missed (covers_of_merges merged mergedPatterns covered)
    · exact missed (covers_of_merges merged.swap mergedPatterns.swap covered)

def meetAdditional (recur : Meeting) : Option Json → Option Json → Except Failure (Option Json)
  | some schema, some other => (recur schema other).map some
  | some schema, none => .ok (some schema)
  | none, other => .ok other

theorem asks_meetAdditional {recur : Meeting} (sound : Sound reading banned recur)
    (exactly : IsExact banned) (formed : first.IsFormed reading.deep banned)
    (formed' : second.IsFormed reading.deep banned)
    (made : meetAdditional recur first.additional second.additional = .ok additional) (value : Json) :
    asks reading additional value = true ↔
      asks reading first.additional value = true ∧ asks reading second.additional value = true := by
  unfold meetAdditional at made
  split at made
  · next schema other own own' =>
    cases met : recur schema other with
    | error failure => rw [met] at made; cases made
    | ok result =>
        rw [met] at made
        obtain rfl := Except.ok.inj made
        have meet := sound.meets met (formed.additional own) (formed'.additional own')
        rw [own, own']
        exact ⟨meet.narrow, fun both => meet.full exactly both.1 both.2⟩
  · next schema own own' =>
    obtain rfl := Except.ok.inj made
    rw [own, own']
    exact (and_iff_left rfl).symm
  · next own =>
    obtain rfl := Except.ok.inj made
    rw [own]
    exact (and_iff_right rfl).symm

end PropertySpace

open PropertySpace (meetAdditional Spares)

/-- The merged properties and patterns of two schemas, beside their additional properties, admit what
both schemas admit, unless it falls to a pattern of one side that the additional properties of the
other side do not spare. -/
theorem meetProperties_admits_iff (reading : Reading) (depth depth' : Int) {banned : List String}
    (plain : "patternProperties" ∈ banned ∨ "additionalProperties" ∈ banned)
    {first second properties patterns : Members} {space other : PropertySpace} {additional : Option Json}
    (read : PropertySpace.ofSchema first = .ok space) (read' : PropertySpace.ofSchema second = .ok other)
    (formed : space.IsFormed reading.deep banned) (formed' : other.IsFormed reading.deep banned)
    (made : meetProperties (meet depth) first second = .ok (properties, patterns))
    (joined : meetAdditional (meet depth') space.additional other.additional = .ok additional)
    (name : String) (value : Json) :
    (PropertySpace.mk properties patterns additional).Admits reading name value ↔
      (space.Admits reading name value ∧ other.Admits reading name value) ∧
        Spares reading space other name value ∧ Spares reading other space name value := by
  obtain ⟨_, _, is, is', named, matched⟩ := meetProperties_eq_ok made
  obtain rfl := Except.ok.inj (read.symm.trans is)
  obtain rfl := Except.ok.inj (read'.symm.trans is')
  have sound := sound_meetWithin reading (Or.inr plain) (levelsOf depth)
  have merged := PropertySpace.meetNamed_merges sound formed formed' named
  have mergedPatterns := PropertySpace.meetNamed_merges sound formed.ofPatterns formed'.ofPatterns matched
  have rest := PropertySpace.asks_meetAdditional
    (sound_meetWithin reading (Or.inr plain) (levelsOf depth')) plain formed formed' joined
  constructor
  · intro admitted
    have left := PropertySpace.admits_of_merges merged mergedPatterns (fun x both => ((rest x).mp both).1)
      admitted
    have right := PropertySpace.admits_of_merges merged.swap mergedPatterns.swap
      (fun x both => ((rest x).mp both).2) admitted
    exact ⟨⟨left, right⟩, PropertySpace.spares_of_merges mergedPatterns admitted,
      PropertySpace.spares_of_merges mergedPatterns.swap admitted⟩
  · rintro ⟨⟨admitted, admitted'⟩, spared, spared'⟩
    exact PropertySpace.admits_of_spares plain merged mergedPatterns
      (fun x both both' => (rest x).mpr ⟨both, both'⟩) admitted admitted' spared spared'

theorem forall_present?_iff (members : Members) (holds : String → Json → Prop) :
    (∀ {name schema}, members.present? name = some schema → holds name schema) ↔
      ∀ member ∈ members, ∀ schema ∈ members.present? member.1, holds member.1 schema := by
  constructor
  · intro all member _ schema found
    exact all found
  · intro each name schema found
    have inside := Members.mem_of_get? (Members.present?_eq_some_iff.mp found).1
    exact each (name, schema) inside schema found

instance (deep : Bool) (banned : List String) (schema : Json) : Decidable (WellFormed deep banned schema) :=
  decidable_of_iff (schema.noRepeats = true ∧ everywhere deep (isLawful deep banned) schema = true)
    ⟨fun both => ⟨both.1, both.2⟩, fun formed => ⟨formed.noRepeats, formed.lawful⟩⟩

namespace PropertySpace

instance (deep : Bool) (banned : List String) (space : PropertySpace) :
    Decidable (space.IsFormed deep banned) :=
  have each (members : Members) := forall_present?_iff members fun _ schema => WellFormed deep banned schema
  decidable_of_iff
    (space.properties.Distinct ∧ space.patterns.Distinct ∧
      (∀ member ∈ space.properties, ∀ schema ∈ space.properties.present? member.1,
        WellFormed deep banned schema) ∧
      (∀ member ∈ space.patterns, ∀ schema ∈ space.patterns.present? member.1,
        WellFormed deep banned schema) ∧
      ∀ schema ∈ space.additional, WellFormed deep banned schema)
    ⟨fun ⟨distinct, distinctPatterns, named, matched, additional⟩ =>
      ⟨distinct, distinctPatterns, (each _).mpr named,
        (each _).mpr matched, fun found => additional _ found⟩,
    fun formed => ⟨formed.distinct, formed.distinctPatterns,
      (each _).mp formed.named, (each _).mp formed.matched, fun _ found => formed.additional found⟩⟩

instance (space : PropertySpace) (name : String) : Decidable (space.Covers name) :=
  decidable_of_iff
    ((space.properties.present? name).isSome = true ∨
      ∃ member ∈ space.patterns, (space.patterns.present? member.1).isSome = true ∧
        occurs member.1 name = true)
    (or_congr Option.isSome_iff_exists (by
      constructor
      · rintro ⟨member, -, found, matched⟩
        obtain ⟨schema, is⟩ := Option.isSome_iff_exists.mp found
        exact ⟨member.1, schema, is, matched⟩
      · rintro ⟨pattern, schema, is, matched⟩
        have inside := Members.mem_of_get? (Members.present?_eq_some_iff.mp is).1
        exact ⟨(pattern, schema), inside, Option.isSome_iff_exists.mpr ⟨schema, is⟩, matched⟩))

instance (reading : Reading) (space : PropertySpace) (name : String) (value : Json) :
    Decidable (space.Admits reading name value) :=
  have each := forall_present?_iff space.patterns fun pattern schema =>
    occurs pattern name = true → accepts reading schema value = true
  decidable_of_iff
    ((∀ schema ∈ space.properties.present? name, accepts reading schema value = true) ∧
      (∀ member ∈ space.patterns, ∀ schema ∈ space.patterns.present? member.1,
        occurs member.1 name = true → accepts reading schema value = true) ∧
      (¬space.Covers name → asks reading space.additional value = true))
    ⟨fun ⟨named, matched, additional⟩ =>
      ⟨fun found => named _ found, each.mpr matched, additional⟩,
    fun admitted => ⟨fun _ found => admitted.named found, each.mp admitted.matched,
      admitted.additional⟩⟩

end PropertySpace

def patterned : Members := [("patternProperties", .object [("^a", .object [("minimum", .number (.int 1))])])]

def patternedSpace : PropertySpace := ⟨[], [("^a", .object [("minimum", .number (.int 1))])], none⟩

def limited : Members :=
  [("properties", .object [("id", .object [("maximum", .number (.int 9))])]),
    ("additionalProperties", .object [("maximum", .number (.int 5))])]

def limitedSpace : PropertySpace :=
  ⟨[("id", .object [("maximum", .number (.int 9))])], [], some (.object [("maximum", .number (.int 5))])⟩

def patternedAndLimited : PropertySpace :=
  ⟨[("id", .object [("maximum", .number (.int 9))])],
    [("^a", .object [("minimum", .number (.int 1)), ("maximum", .number (.int 5))])],
    some (.object [("maximum", .number (.int 5))])⟩

theorem patterned_meets_limited :
    ((PropertySpace.ofSchema patterned = .ok patternedSpace ∧
        PropertySpace.ofSchema limited = .ok limitedSpace) ∧
      (patternedSpace.IsFormed false ["oneOf", "additionalProperties"] ∧
        limitedSpace.IsFormed false ["oneOf", "additionalProperties"]) ∧
      meetProperties (meet defaultDepth) patterned limited =
        .ok (patternedAndLimited.properties, patternedAndLimited.patterns) ∧
      meetAdditional (meet defaultDepth) patternedSpace.additional limitedSpace.additional =
        .ok patternedAndLimited.additional) ∧
    patternedAndLimited.Admits (.plain false) "ab" (.number (.int 3)) ∧
    (patternedSpace.Admits (.plain false) "ab" (.number (.int 3)) ∧
        limitedSpace.Admits (.plain false) "ab" (.number (.int 3))) ∧
      Spares (.plain false) patternedSpace limitedSpace "ab" (.number (.int 3)) ∧
        Spares (.plain false) limitedSpace patternedSpace "ab" (.number (.int 3)) := by
  have formed : patternedSpace.IsFormed false ["oneOf", "additionalProperties"] := by decide
  have formed' : limitedSpace.IsFormed false ["oneOf", "additionalProperties"] := by decide
  have made : meetProperties (meet defaultDepth) patterned limited =
      .ok (patternedAndLimited.properties, patternedAndLimited.patterns) := by decide +kernel
  have admitted : patternedAndLimited.Admits (.plain false) "ab" (.number (.int 3)) := by decide +kernel
  exact ⟨⟨⟨rfl, rfl⟩, ⟨formed, formed'⟩, made, rfl⟩, admitted,
    (meetProperties_admits_iff (.plain false) defaultDepth defaultDepth (Or.inr (by decide)) rfl rfl formed
      formed' made rfl _ _).mp admitted⟩

def exactName : Members :=
  [("patternProperties", .object [("\\Aa\\Z", .object [("minimum", .number (.int 1))])])]

def exactNameSpace : PropertySpace :=
  ⟨[], [("\\Aa\\Z", .object [("minimum", .number (.int 1))])], none⟩

def onlyName : Members :=
  [("properties", .object [("a", .object [("maximum", .number (.int 5))])]),
    ("additionalProperties", .bool false)]

def onlyNameSpace : PropertySpace :=
  ⟨[("a", .object [("maximum", .number (.int 5))])], [], some (.bool false)⟩

def exactAndOnlyName : PropertySpace :=
  ⟨[("a", .object [("maximum", .number (.int 5)), ("minimum", .number (.int 1))])],
    [("\\Aa\\Z", .bool false)], some (.bool false)⟩

/-- Nothing is left under the pattern, although both sides admit a number under its only name. -/
theorem exactName_excludes_onlyName :
    (PropertySpace.ofSchema exactName = .ok exactNameSpace ∧
      PropertySpace.ofSchema onlyName = .ok onlyNameSpace) ∧
    (exactNameSpace.IsFormed false ["oneOf", "additionalProperties"] ∧
      onlyNameSpace.IsFormed false ["oneOf", "additionalProperties"]) ∧
    meetProperties (meet defaultDepth) exactName onlyName =
      .ok (exactAndOnlyName.properties, exactAndOnlyName.patterns) ∧
    meetAdditional (meet defaultDepth) exactNameSpace.additional onlyNameSpace.additional =
      .ok exactAndOnlyName.additional ∧
    (exactNameSpace.Admits (.plain false) "a" (.number (.int 3)) ∧
      onlyNameSpace.Admits (.plain false) "a" (.number (.int 3))) ∧
    ¬exactAndOnlyName.Admits (.plain false) "a" (.number (.int 3)) := by
  refine ⟨⟨rfl, rfl⟩, ⟨?_, ?_⟩, ?_, rfl, ⟨?_, ?_⟩, ?_⟩ <;> decide +kernel

end SchemaMerge.Schema
