import SchemaMerge.Proofs.Meet.Kept

namespace SchemaMerge.Schema

def setNames (entries : Members) : List String :=
  (entries.filter fun entry => entry.2 ≠ .null).map Prod.fst

/-- Two spaces are merged name by name. Each name of either side has its place, whatever its entry has
become. -/
structure MergesByName (recur : Meeting) (first second : PropertySpace) (merged : Members) : Prop where
  names : merged.map Prod.fst = setNames first.properties ++
    (setNames second.properties).filter fun name => name ∉ setNames first.properties
  both : ∀ {name entry other}, first.properties.present? name = some entry →
    second.properties.present? name = some other →
      ∃ met, recur entry other = .ok met ∧ merged.get? name = some met
  left : ∀ {name entry}, first.properties.present? name = some entry →
    second.properties.present? name = none →
      ∃ met, MeetsRest recur (schemasFor second.patterns name) second.additional entry met ∧
        merged.get? name = some met
  right : ∀ {name entry}, first.properties.present? name = none →
    second.properties.present? name = some entry →
      ∃ met, MeetsRest recur (schemasFor first.patterns name) first.additional entry met ∧
        merged.get? name = some met

def entriesUnder (schema : Members) (keyword : String) : Members :=
  match schema.present? keyword with
  | some (.object named) => named
  | _ => []

def spaceOf (schema : Members) : PropertySpace :=
  ⟨entriesUnder schema "properties", entriesUnder schema "patternProperties",
    schema.present? "additionalProperties"⟩

theorem contains_iff_mem {members : Members} {name : String} :
    members.contains name = true ↔ name ∈ members.map Prod.fst := by
  rw [Members.contains, Option.isSome_iff_ne_none, Ne, Members.get?_eq_none_iff, List.mem_map]
  simp only [not_forall, not_not, exists_prop]

namespace PropertySpace

variable {recur : Meeting} {space first second : PropertySpace}

theorem keys_meetNamed {named : Members} (made : meetNamed recur first second = .ok named)
    (distinct : first.properties.Distinct) (distinct' : second.properties.Distinct) :
    named.map Prod.fst = setNames first.properties ++
      (setNames second.properties).filter fun name => name ∉ setNames first.properties := by
  obtain ⟨merged, left, right⟩ := bind_eq_ok.mp made
  obtain ⟨_, rfl, related⟩ := meetEntries_eq_ok left distinct
  obtain ⟨added, rfl, related'⟩ := meetEntries_eq_ok right distinct'
  have own : merged.map Prod.fst = setNames first.properties := by
    rw [keys_of_enters related]
    simp [setNames, Members.contains]
  have old (name : String) :
      merged.contains name = decide (name ∈ setNames first.properties) := by
    rw [Bool.eq_iff_iff, contains_iff_mem, own, decide_eq_true_iff]
  have new := calc
    added.map Prod.fst =
        (second.properties.filter fun entry => entry.2 ≠ .null && !merged.contains entry.1).map
          Prod.fst := keys_of_enters related'
    _ = ((second.properties.filter fun entry => entry.2 ≠ .null).filter
          fun entry => entry.1 ∉ setNames first.properties).map Prod.fst := by
        rw [List.filter_filter]
        simp [old, Bool.and_comm]
    _ = (setNames second.properties).filter fun name => name ∉ setNames first.properties := by
        simp only [setNames, List.filter_map, Function.comp_def]
  rw [List.map_append, own, new]

theorem mergesByName_of_meetNamed {named : Members} (made : meetNamed recur first second = .ok named)
    (distinct : first.properties.Distinct) (distinct' : second.properties.Distinct) :
    MergesByName recur first second named := by
  have found := (get?_meetNamed made distinct distinct').2
  constructor
  · exact keys_meetNamed made distinct distinct'
  · intro name entry other own own'
    cases found name with
    | first has made is =>
        cases own.symm.trans has
        rcases meetEntry_eq_ok made with ⟨_, has', made⟩ | ⟨missing, -⟩
        · cases own'.symm.trans has'
          exact ⟨_, made, is⟩
        · cases own'.symm.trans missing
    | second missing => cases own.symm.trans missing
    | neither missing => cases own.symm.trans missing
  · intro name entry own missing'
    cases found name with
    | first has made is =>
        cases own.symm.trans has
        rcases meetEntry_eq_ok made with ⟨_, has', -⟩ | ⟨-, rest⟩
        · cases missing'.symm.trans has'
        · exact ⟨_, rest, is⟩
    | second missing => cases own.symm.trans missing
    | neither missing => cases own.symm.trans missing
  · intro name entry missing own
    cases found name with
    | first has => cases missing.symm.trans has
    | second _ has made is =>
        cases own.symm.trans has
        rcases meetEntry_eq_ok made with ⟨_, has', -⟩ | ⟨-, rest⟩
        · cases missing.symm.trans has'
        · exact ⟨_, rest, is⟩
    | neither _ missing' => cases own.symm.trans missing'

theorem eq_spaceOf {schema : Members} (read : ofSchema schema = .ok space) : space = spaceOf schema := by
  have entries_eq {keyword : String} {named : Members} (read : entries keyword schema = .ok named) :
      named = entriesUnder schema keyword := by
    unfold entries at read
    unfold entriesUnder
    split at read
    · next missing => rw [missing, Except.ok.inj read]
    · next found => rw [found, Except.ok.inj read]
    · cases read
  have additional_eq {additional : Option Json} (read : additionalProperties schema = .ok additional) :
      additional = schema.present? "additionalProperties" := by
    unfold additionalProperties at read
    split at read
    · next missing => rw [missing, Except.ok.inj read]
    · next schema found =>
      unfold checkShape at read
      split at read
      · rw [found, ← Except.ok.inj read]
      · cases read
  obtain ⟨properties, read, rest⟩ := bind_eq_ok.mp read
  obtain ⟨patterns, read', rest⟩ := bind_eq_ok.mp rest
  obtain ⟨additional, read'', built⟩ := bind_eq_ok.mp rest
  rw [← pure_eq_ok.mp built, entries_eq read, entries_eq read', additional_eq read'']
  rfl

end PropertySpace

theorem distinct_entriesUnder {schema : Members} (clean : (Json.object schema).noRepeats = true)
    (keyword : String) : (entriesUnder schema keyword).Distinct := by
  unfold entriesUnder
  split
  · next named found =>
    have inside := Members.mem_of_get? (Members.present?_eq_some_iff.mp found).1
    exact (Json.noRepeats_object.mp ((Json.noRepeats_object.mp clean).2 _ inside)).1
  · exact List.nodup_nil

/-- The merged properties of two schemas, and their merged patterns, have the names of both sides in
order, and under each name what its entries have met. -/
theorem meetProperties_mergesByName (depth : Int) {first second properties patterns : Members}
    (clean : (Json.object first).noRepeats = true) (clean' : (Json.object second).noRepeats = true)
    (made : meetProperties (meet depth) first second = .ok (properties, patterns)) :
    MergesByName (meet depth) (spaceOf first) (spaceOf second) properties ∧
      MergesByName (meet depth) (spaceOf first).ofPatterns (spaceOf second).ofPatterns patterns := by
  obtain ⟨space, other, read, read', named, matched⟩ := meetProperties_eq_ok made
  rw [PropertySpace.eq_spaceOf read, PropertySpace.eq_spaceOf read'] at named matched
  constructor
  · apply PropertySpace.mergesByName_of_meetNamed named
    · exact distinct_entriesUnder clean _
    · exact distinct_entriesUnder clean' _
  · apply PropertySpace.mergesByName_of_meetNamed matched
    · exact distinct_entriesUnder clean _
    · exact distinct_entriesUnder clean' _

def closedItem : Members :=
  [("properties", .object [("note", .null), ("amount", .object [("minimum", .number (.int 1))]),
      ("unit", .object [("type", .string "string")])]),
    ("patternProperties", .object [("^x_", .object [("maximum", .number (.int 3))])]),
    ("additionalProperties", .bool false)]

def openItem : Members :=
  [("properties", .object [("unit", .null), ("note", .object [("maximum", .number (.int 5))]),
      ("x_amount", .object [("minimum", .number (.int 0))])]),
    ("patternProperties", .object [("amount", .object [("type", .string "integer")])])]

def itemProperties : Members :=
  [("amount", .object [("minimum", .number (.int 1)), ("type", .string "integer")]),
    ("unit", .object [("type", .string "string")]), ("note", .bool false),
    ("x_amount", .object [("minimum", .number (.int 0)), ("maximum", .number (.int 3))])]

def itemPatterns : Members :=
  [("^x_", .object [("maximum", .number (.int 3))]), ("amount", .bool false)]

theorem closedItem_meets_openItem :
    ((Json.object closedItem).noRepeats = true ∧ (Json.object openItem).noRepeats = true ∧
      meetProperties (meet defaultDepth) closedItem openItem = .ok (itemProperties, itemPatterns)) ∧
    MergesByName (meet defaultDepth) (spaceOf closedItem) (spaceOf openItem) itemProperties ∧
      MergesByName (meet defaultDepth) (spaceOf closedItem).ofPatterns (spaceOf openItem).ofPatterns
        itemPatterns := by
  have clean : (Json.object closedItem).noRepeats = true := by decide
  have clean' : (Json.object openItem).noRepeats = true := by decide
  have made : meetProperties (meet defaultDepth) closedItem openItem =
      .ok (itemProperties, itemPatterns) := by decide +kernel
  exact ⟨⟨clean, clean', made⟩, meetProperties_mergesByName defaultDepth clean clean' made⟩

end SchemaMerge.Schema
