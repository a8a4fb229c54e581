import SchemaMerge.Proofs.Meet.Kept
import SchemaMerge.Proofs.Symmetry.Keyword

namespace SchemaMerge

namespace Number

variable {number other : Number} {x y : Int}

theorem least_position (place : number.position? = some (0, x)) (place' : other.position? = some (0, y)) :
    (number.least other).position? = some (0, min x y) := by
  unfold least
  split
  · next less =>
    rw [lt_iff place' place] at less
    rw [place', min_eq_right less.le]
  · next notLess =>
    rw [lt_iff place' place, not_lt] at notLess
    rw [place, min_eq_left notLess]

theorem greatest_position (place : number.position? = some (0, x))
    (place' : other.position? = some (0, y)) :
    (number.greatest other).position? = some (0, max x y) := by
  unfold greatest
  split
  · next less =>
    rw [lt_iff place place'] at less
    rw [place', max_eq_right less.le]
  · next notLess =>
    rw [lt_iff place place', not_lt] at notLess
    rw [place, max_eq_left notLess]

end Number

namespace Schema

variable {reading : Reading} {deep : Bool} {recur : Meeting} {keyword : String}
  {keywords others first second out out' : Members}

/-- Entries that are both unset, or accept the same values. -/
structure AcceptAlike (reading : Reading) (entry other : Json) : Prop where
  null : entry = .null ↔ other = .null
  same : accepts reading entry = accepts reading other

structure EntriesAlike (reading : Reading) (named named' : Members) : Prop where
  distinct : named.Distinct
  distinct' : named'.Distinct
  entry : ∀ name, Option.Rel (AcceptAlike reading) (named.get? name) (named'.get? name)

namespace PropertySpace

variable {space other : PropertySpace} {named named' : Members}

structure IsLegible (deep : Bool) (space : PropertySpace) : Prop where
  distinct : space.properties.Distinct
  distinctPatterns : space.patterns.Distinct
  named : ∀ {name entry}, space.properties.present? name = some entry → Legible deep entry
  matched : ∀ {pattern entry}, space.patterns.present? pattern = some entry → Legible deep entry

theorem IsLegible.ofPatterns (legible : space.IsLegible deep) : space.ofPatterns.IsLegible deep :=
  ⟨legible.distinctPatterns, by simp [PropertySpace.ofPatterns, Members.Distinct], legible.matched,
    by simp [PropertySpace.ofPatterns, Members.present?]⟩

theorem meetEntry_of_present {name : String} {entry own : Json}
    (found : space.properties.present? name = some own) :
    meetEntry recur space name entry = recur entry own := by
  rw [meetEntry, found]

theorem meetNamed_swap (symmetric : Symmetric reading recur) (legible : space.IsLegible reading.deep)
    (legible' : other.IsLegible reading.deep) (made : meetNamed recur space other = .ok named)
    (made' : meetNamed recur other space = .ok named') :
    EntriesAlike reading named named' := by
  obtain ⟨distinct, found⟩ := get?_meetNamed made legible.distinct legible'.distinct
  obtain ⟨distinct', found'⟩ := get?_meetNamed made' legible'.distinct legible.distinct
  refine ⟨distinct, distinct', fun name => ?_⟩
  -- an entry that only one side has meets the same space in both orders
  have alone {met met' : Json} {entry entry' : Json} {space : PropertySpace}
      (done : meetEntry recur space name entry = .ok met)
      (done' : meetEntry recur space name entry' = .ok met') (same : some entry = some entry') :
      AcceptAlike reading met met' := by
    obtain rfl := Option.some.inj same
    obtain rfl := Except.ok.inj (done.symm.trans done')
    exact ⟨Iff.rfl, rfl⟩
  cases found name with
  | first own done is =>
      cases found' name with
      | first own' done' is' =>
          rw [is, is']
          rw [meetEntry_of_present own'] at done
          rw [meetEntry_of_present own] at done'
          refine .some ⟨?_, symmetric.agree done done' (legible.named own) (legible'.named own')⟩
          simp [symmetric.set done, symmetric.set done']
      | second _ own' done' is' =>
          rw [is, is']
          exact .some (alone done done' (own.symm.trans own'))
      | neither _ missing => cases own.symm.trans missing
  | second missing own done is =>
      cases found' name with
      | first own' done' is' =>
          rw [is, is']
          exact .some (alone done done' (own.symm.trans own'))
      | second missing' => cases own.symm.trans missing'
      | neither missing' => cases own.symm.trans missing'
  | neither missing missing' is =>
      cases found' name with
      | first own => cases missing'.symm.trans own
      | second _ own => cases missing.symm.trans own
      | neither _ _ is' =>
          rw [is, is']
          exact .none

end PropertySpace

theorem entries_legible (formed : AreLegible deep keywords) {named : Members}
    (place : shape deep keyword = .entries) (made : entries keyword keywords = .ok named) :
    named.Distinct ∧ ∀ {name entry}, named.present? name = some entry → Legible deep entry := by
  unfold entries at made
  split at made
  · obtain rfl := Except.ok.inj made
    simp [Members.Distinct, Members.present?]
  · next found =>
    obtain rfl := Except.ok.inj made
    have argument := formed.argument (Members.present?_eq_some_iff.mp found).1
    obtain ⟨_, ⟨⟩, distinct, legible⟩ := argument.entries place
    refine ⟨distinct, fun {name entry} own => ?_⟩
    obtain ⟨own, set⟩ := Members.present?_eq_some_iff.mp own
    exact (legible _ (Members.mem_of_get? own)).resolve_left set
  · exact absurd made (by simp)

theorem space_legible (formed : AreLegible deep keywords) {space : PropertySpace}
    (made : PropertySpace.ofSchema keywords = .ok space) : space.IsLegible deep := by
  obtain ⟨read, read'⟩ := ofSchema_eq_ok made
  obtain ⟨distinct, named⟩ := entries_legible formed rfl read
  obtain ⟨distinct', matched⟩ := entries_legible formed rfl read'
  exact ⟨distinct, distinct', named, matched⟩

theorem legible_bound (bound : keyword ∈ boundKeywords) {argument : Json} :
    LegibleArgument deep keyword argument ↔ argument ≠ .null ∧ argument.noRepeats = true := by
  have ordinary : nullableKeywords.contains keyword = false ∧ isLegible keyword argument = true ∧
      shape deep keyword = .leaf := by
    rcases mem_boundKeywords.mp bound with rfl | rfl | rfl | rfl <;>
      exact ⟨by decide, by simp [isLegible], rfl⟩
  obtain ⟨notNullable, legible, place⟩ := ordinary
  constructor
  · intro formed
    have present := formed.present
    rw [isAbsent, notNullable] at present
    exact ⟨by simpa using present, formed.noRepeats⟩
  · rintro ⟨set, clean⟩
    exact ⟨by simp [isAbsent, set], clean, legible, by rw [place]; rfl⟩

namespace BoundPair

variable {pair : BoundPair}

theorem get?_of_toNumeric {argument : Json}
    (found : (pair.toNumeric keywords).get? keyword = some argument) :
    keywords.get? keyword = some argument ∨
      keyword = pair.exclusive ∧ keywords.get? pair.inclusive = some argument := by
  unfold toNumeric at found
  split at found
  · next limit _ known =>
    rw [Members.get?_set, Members.get?_erase] at found
    split at found
    · next same => exact Or.inr ⟨same, known.trans found⟩
    · split at found
      · exact absurd found (by simp)
      · exact Or.inl found
  · rw [Members.get?_erase] at found
    split at found
    · exact absurd found (by simp)
    · exact Or.inl found
  · exact Or.inl found

theorem toNumeric_legible (numeric : pair.IsNumeric) (formed : AreLegible deep keywords) :
    AreLegible deep (pair.toNumeric keywords) := by
  refine ⟨distinct_toNumeric pair formed.distinct, fun {keyword argument} found => ?_⟩
  rcases get?_of_toNumeric found with known | ⟨rfl, known⟩
  · exact formed.argument known
  · exact (legible_bound numeric.1).mpr ((legible_bound numeric.2).mp (formed.argument known))

end BoundPair

theorem numericBounds_legible (formed : AreLegible deep keywords) :
    AreLegible deep (numericBounds keywords) := by
  have upper : AreLegible deep (BoundPair.upper.toNumeric keywords) :=
    BoundPair.toNumeric_legible ⟨by decide, by decide⟩ formed
  exact BoundPair.toNumeric_legible ⟨by decide, by decide⟩ upper

def place? (keywords : Members) (keyword : String) : Option (Option (Int × Int)) :=
  ((keywords.get? keyword).bind Json.number?).map Number.position?

theorem number?_congr {argument argument' : Json} (same : Json.isEqual argument argument' = true) :
    argument.number?.map Number.position? = argument'.number?.map Number.position? := by
  refine Json.number_congr (fun argument => argument.number?.map Number.position?)
    (fun argument => ?_) ?_ same
  · cases argument <;> rfl
  · intro number other forms
    change some number.position? = some other.position?
    rw [← Number.position?_arranged, forms, Number.position?_arranged]

theorem combine_number? (bound : keyword ∈ boundKeywords) {argument argument' met other : Json}
    (made : combine recur keyword argument argument' = .ok met)
    (made' : combine recur keyword argument' argument = .ok other) (finite : argument.isFinite = true)
    (finite' : argument'.isFinite = true) :
    met.number?.map Number.position? = other.number?.map Number.position? := by
  obtain ⟨pick, cases, picks⟩ := exists_pick bound
  obtain ⟨number, number', rfl, rfl, rfl⟩ := picks made
  obtain ⟨_, _, ⟨⟩, ⟨⟩, rfl⟩ := picks made'
  obtain ⟨x, place⟩ := Number.position?_of_finite finite
  obtain ⟨y, place'⟩ := Number.position?_of_finite finite'
  simp only [Json.number?, Option.map_some, Option.some.injEq]
  rcases cases with rfl | rfl
  · rw [Number.least_position place place', Number.least_position place' place, min_comm]
  · rw [Number.greatest_position place place', Number.greatest_position place' place, max_comm]

theorem joins_place? (bound : keyword ∈ boundKeywords) {left right result result' : Option Json}
    (joins : Joins? recur keyword left right result)
    (joins' : Joins? recur keyword right left result') :
    (result.bind Json.number?).map Number.position? =
      (result'.bind Json.number?).map Number.position? := by
  have related := joins_swap
    (fun argument other => argument.number?.map Number.position? = other.number?.map Number.position?)
    (fun _ => rfl) joins joins' (fun _ _ same => number?_congr same)
    fun _ _ finite finite' made made' => combine_number? bound made made' finite finite'
  cases related with
  | none => rfl
  | some same => exact same

theorem readAlike_bound (bound : keyword ∈ boundKeywords) {number number' : Number}
    (same : number.position? = number'.position?) :
    ReadAlike reading keyword (.number number) (.number number') := by
  have limit {admits : Number → Number → Bool}
      (role : reading.applicator keyword = .leaf (Leaf.limit Json.number? admits))
      (respects : ∀ size, admits number size = admits number' size) :
      ReadAlike reading keyword (.number number) (.number number') := by
    refine readAlike_leaf role (by simp) (by simp) (funext fun value => ?_)
    unfold Leaf.limit
    cases Json.number? value with
    | none => rfl
    | some size => exact respects size
  rcases mem_boundKeywords.mp bound with rfl | rfl | rfl | rfl
  · exact limit rfl fun size => by simp only [Leaf.below, Number.lt, same]
  · exact limit rfl fun size => by simp only [Leaf.atMost, Number.le, same]
  · exact limit rfl fun size => by simp only [Leaf.above, Number.lt, same]
  · exact limit rfl fun size => by simp only [Leaf.atLeast, Number.le, same]

/-- Two objects of keywords that ask the same, keyword by keyword. -/
structure AskAlike (reading : Reading) (keywords others : Members) : Prop where
  distinct : keywords.Distinct
  distinct' : others.Distinct
  covers : covers keywords = covers others
  alike : ∀ key, Option.Rel (ReadAlike reading key) (keywords.get? key) (others.get? key)
  bounds : ∀ key ∈ boundKeywords, place? keywords key = place? others key

theorem covers_frame (frame : ∀ key, key ∉ boundKeywords → out.get? key = keywords.get? key) :
    covers out = covers keywords := by
  funext name
  unfold covers isNamed isMatched
  rw [frame _ (by decide), frame _ (by decide)]

namespace AskAlike

theorem accepts_eq (agree : AskAlike reading keywords others) :
    accepts reading (.object keywords) = accepts reading (.object others) := by
  funext value
  rw [accepts_object, accepts_object]
  apply all_entries_congr agree.distinct agree.distinct'
  intro key
  exact rel_imp (fun _ _ same => congrFun (same _ _ agree.covers) value) (agree.alike key)

theorem rebound (agree : AskAlike reading keywords others) (distinct : out.Distinct)
    (distinct' : out'.Distinct) (frame : ∀ key, key ∉ boundKeywords → out.get? key = keywords.get? key)
    (frame' : ∀ key, key ∉ boundKeywords → out'.get? key = others.get? key)
    (bounds : ∀ key ∈ boundKeywords, Option.Rel (ReadAlike reading key) (out.get? key) (out'.get? key) ∧
      place? out key = place? out' key) : AskAlike reading out out' := by
  refine ⟨distinct, distinct', ?_, fun key => ?_, fun key bound => (bounds key bound).2⟩
  · rw [covers_frame frame, covers_frame frame', agree.covers]
  · by_cases bound : key ∈ boundKeywords
    · exact (bounds key bound).1
    · rw [frame key bound, frame' key bound]
      exact agree.alike key

variable {key : String}

theorem erase (agree : AskAlike reading keywords others) (bound : key ∈ boundKeywords) :
    AskAlike reading (keywords.erase key) (others.erase key) := by
  have frame (keywords : Members) (other : String) (free : other ∉ boundKeywords) :
      (keywords.erase key).get? other = keywords.get? other := by
    rw [Members.get?_erase, if_neg]
    rintro rfl
    exact free bound
  refine agree.rebound (Members.distinct_erase agree.distinct key)
    (Members.distinct_erase agree.distinct' key) (frame keywords) (frame others) fun other bound => ?_
  rw [place?, place?, Members.get?_erase, Members.get?_erase]
  split
  · exact ⟨.none, rfl⟩
  · exact ⟨agree.alike other, agree.bounds other bound⟩

theorem set (agree : AskAlike reading keywords others) (bound : key ∈ boundKeywords)
    {argument argument' : Json} (alike : ReadAlike reading key argument argument')
    (place : argument.number?.map Number.position? = argument'.number?.map Number.position?) :
    AskAlike reading (keywords.set key argument) (others.set key argument') := by
  have frame (keywords : Members) (argument : Json) (other : String) (free : other ∉ boundKeywords) :
      (keywords.set key argument).get? other = keywords.get? other := by
    rw [Members.get?_set, if_neg]
    rintro rfl
    exact free bound
  refine agree.rebound (Members.distinct_set agree.distinct key argument)
    (Members.distinct_set agree.distinct' key argument') (frame keywords argument)
    (frame others argument') fun other bound => ?_
  rw [place?, place?, Members.get?_set, Members.get?_set]
  split
  · next same =>
    subst same
    exact ⟨.some alike, place⟩
  · exact ⟨agree.alike other, agree.bounds other bound⟩

end AskAlike

namespace BoundPair

variable {pair : BoundPair} {boolean : Bool}

theorem place?_of_present {key : String} {bound : Option Number}
    (found : keywords.present? key = bound.map Json.number) :
    place? keywords key = bound.map Number.position? := by
  cases bound with
  | none =>
      unfold place?
      unfold Members.present? at found
      cases is : keywords.get? key with
      | none => rfl
      | some argument =>
          rw [is] at found
          cases argument <;> first | rfl | exact absurd found (by simp)
  | some number =>
      rw [place?, (Members.present?_eq_some_iff.mp found).1]
      rfl

theorem reconcile_swap (numeric : pair.IsNumeric)
    (respects : ∀ {limit limit' bound bound' : Number}, limit.position? = limit'.position? →
      bound.position? = bound'.position? → pair.tight limit bound = pair.tight limit' bound')
    (agree : AskAlike reading keywords others) (made : pair.reconcile boolean keywords = .ok out)
    (made' : pair.reconcile boolean others = .ok out') : AskAlike reading out out' := by
  obtain ⟨exclusive, inclusive, found, known, cases⟩ := reconcile_eq_ok made
  obtain ⟨exclusive', inclusive', found', known', cases'⟩ := reconcile_eq_ok made'
  have limits : exclusive.map Number.position? = exclusive'.map Number.position? := by
    rw [← place?_of_present found, ← place?_of_present found', agree.bounds _ numeric.1]
  have bounds : inclusive.map Number.position? = inclusive'.map Number.position? := by
    rw [← place?_of_present known, ← place?_of_present known', agree.bounds _ numeric.2]
  -- a tight pair and one that is not do not lie in the same places
  have apart {exclusive inclusive exclusive' inclusive' : Option Number} {limit' : Number}
      (limits : exclusive.map Number.position? = exclusive'.map Number.position?)
      (bounds : inclusive.map Number.position? = inclusive'.map Number.position?)
      (weaker : ∀ limit, exclusive = some limit →
        ∃ bound, inclusive = some bound ∧ pair.tight limit bound = false)
      (is : exclusive' = some limit')
      (stronger : ∀ bound, inclusive' = some bound → pair.tight limit' bound = true) : False := by
    rw [is, Option.map_some, Option.map_eq_some_iff] at limits
    obtain ⟨limit, isLimit, same⟩ := limits
    obtain ⟨bound, isBound, loose⟩ := weaker limit isLimit
    rw [isBound, Option.map_some, eq_comm, Option.map_eq_some_iff] at bounds
    obtain ⟨bound', isBound', same'⟩ := bounds
    have tight := stronger bound' isBound'
    rw [respects same.symm same', loose] at tight
    exact absurd tight (by simp)
  rcases cases with ⟨rfl, weaker⟩ | ⟨limit, rfl, stronger, rfl⟩
  · rcases cases' with ⟨rfl, weaker'⟩ | ⟨limit', rfl, stronger', rfl⟩
    · exact agree.erase numeric.1
    · exact (apart limits bounds weaker rfl stronger').elim
  · rcases cases' with ⟨rfl, weaker'⟩ | ⟨limit', rfl, stronger', rfl⟩
    · exact (apart limits.symm bounds.symm weaker' rfl stronger).elim
    · split
      · have same : limit.position? = limit'.position? := by simpa using limits
        exact (agree.set numeric.2 (readAlike_bound numeric.2 same) limits).set numeric.1
          (.refl reading pair.exclusive (.bool true)) rfl
      · exact agree.erase numeric.2

end BoundPair

end Schema

end SchemaMerge
