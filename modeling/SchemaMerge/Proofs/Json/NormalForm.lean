import SchemaMerge.Proofs.Json.Agreement

namespace SchemaMerge

theorem sortByKey_of_ascends {members : Members} (ascends : members.Ascends) :
    sortByKey members = members := by
  induction members with
  | nil => rfl
  | cons member rest ih =>
      obtain ⟨least, ascends⟩ := List.pairwise_cons.mp ascends
      change insertByKey member (sortByKey rest) = member :: rest
      rw [ih ascends]
      cases rest with
      | nil => rfl
      | cons other rest => exact if_pos (least other (List.mem_cons_self ..))

theorem Number.arranged_arranged (number : Number) : number.arranged.arranged = number.arranged := by
  cases is : number.arranged with
  | int whole => rfl
  | float value => rwa [Number.eq_of_arranged_float is] at is

def Text.IsAscii (text : List Char) : Prop := ∀ letter ∈ text, letter.toNat < 128

instance (text : List Char) : Decidable (Text.IsAscii text) :=
  List.decidableBAll (fun letter : Char => letter.toNat < 128) text

namespace Text

theorem isAscii_cons {letter : Char} {text : List Char} :
    IsAscii (letter :: text) ↔ letter.toNat < 128 ∧ IsAscii text := List.forall_mem_cons

theorem isAscii_append {text others : List Char} :
    IsAscii (text ++ others) ↔ IsAscii text ∧ IsAscii others := List.forall_mem_append

theorem isAscii_replicate (count : Nat) {letter : Char} (ascii : letter.toNat < 128) :
    IsAscii (List.replicate count letter) := by
  intro other present
  rwa [List.eq_of_mem_replicate present]

theorem isAscii_hexDigits (width value : Nat) : IsAscii (hexDigits width value) := by
  induction width generalizing value with
  | zero => exact List.forall_mem_nil _
  | succ width ih =>
      have every : ∀ digit : Fin 16, (hexDigit digit).toNat < 128 := by decide
      have last := every ⟨value % 16, Nat.mod_lt _ (by decide)⟩
      exact isAscii_append.mpr ⟨ih _, isAscii_cons.mpr ⟨last, List.forall_mem_nil _⟩⟩

end Text

namespace Reader

open Text (IsAscii isAscii_cons isAscii_append isAscii_replicate)

theorem AreDigits.isAscii {digits : List Char} (all : AreDigits digits) : IsAscii digits := by
  intro digit present
  have bounds := all digit present
  simp only [isDigit, Bool.and_eq_true, decide_eq_true_eq] at bounds
  exact Nat.lt_of_le_of_lt (Char.le_def.mp bounds.2) (by decide)

theorem AreBlank.isAscii {blanks : List Char} (all : AreBlank blanks) : IsAscii blanks := by
  intro letter present
  have blank := all letter present
  simp only [isBlank, Bool.or_eq_true, decide_eq_true_eq] at blank
  rcases blank with ((rfl | rfl) | rfl) | rfl <;> decide

theorem isAscii_signText (negative : Bool) : IsAscii (signText negative) := by
  cases negative <;> decide

theorem isAscii_exponentText (exponent : Int) : IsAscii (Double.Finite.exponentText exponent) := by
  obtain ⟨digits, -, all, -, is⟩ := exists_exponentText exponent
  rw [is, isAscii_cons]
  refine ⟨?_, all.isAscii⟩
  split <;> decide

theorem isAscii_layout {digits : List Char} (all : AreDigits digits) (leading : Int) :
    IsAscii (Double.Finite.layout digits leading) := by
  have zeros (count : Nat) : IsAscii (List.replicate count '0') := isAscii_replicate count (by decide)
  have power : IsAscii ('e' :: Double.Finite.exponentText leading) :=
    isAscii_cons.mpr ⟨by decide, isAscii_exponentText leading⟩
  have point {rest : List Char} (ascii : IsAscii rest) : IsAscii ('.' :: rest) :=
    isAscii_cons.mpr ⟨by decide, ascii⟩
  unfold Double.Finite.layout
  split
  · split
    · exact isAscii_append.mpr ⟨isAscii_cons.mpr ⟨by decide, point (zeros _)⟩, all.isAscii⟩
    · dsimp only
      split
      · exact isAscii_append.mpr ⟨isAscii_append.mpr ⟨all.isAscii, zeros _⟩, by decide⟩
      · have first : IsAscii (digits.take (leading.toNat + 1)) :=
          fun letter present => all.isAscii letter (List.mem_of_mem_take present)
        have second : IsAscii (digits.drop (leading.toNat + 1)) :=
          fun letter present => all.isAscii letter (List.mem_of_mem_drop present)
        exact isAscii_append.mpr ⟨first, point second⟩
  · split
    · exact List.forall_mem_nil _
    · next digit =>
      exact isAscii_cons.mpr ⟨all.isAscii digit (List.mem_cons_self ..), power⟩
    · next digit rest _ =>
      obtain ⟨first, others⟩ := isAscii_cons.mp all.isAscii
      exact isAscii_append.mpr ⟨isAscii_cons.mpr ⟨first, point others⟩, power⟩

theorem isAscii_writeNumber (number : Number) : IsAscii (Json.writeNumber number) := by
  cases number with
  | int value =>
      rw [Json.writeNumber, writeInt_eq, isAscii_append]
      exact ⟨isAscii_signText _, (areDigits_toDigits _).isAscii⟩
  | float value =>
      cases value with
      | infinity negative => cases negative <;> decide
      | nan => decide
      | finite x =>
          change IsAscii x.text
          by_cases zero : x.significand = 0
          · rw [text_eq_zero zero, isAscii_append]
            exact ⟨isAscii_signText _, by decide⟩
          · obtain ⟨digit, others, is, -, written⟩ := exists_text zero
            rw [written, isAscii_append, ← is]
            exact ⟨isAscii_signText _, isAscii_layout (areDigits_toDigits _) _⟩

end Reader

namespace Json

open Text (IsAscii isAscii_cons isAscii_append isAscii_replicate)

theorem isAscii_unitEscape (unit : Nat) : IsAscii (unitEscape unit) :=
  isAscii_cons.mpr ⟨by decide, isAscii_cons.mpr ⟨by decide, Text.isAscii_hexDigits 4 unit⟩⟩

theorem isAscii_escapeCharacter (letter : Char) : IsAscii (escapeCharacter letter) := by
  unfold escapeCharacter
  iterate 7
    split
    · decide
  split
  · next printable =>
    refine isAscii_cons.mpr ⟨?_, List.forall_mem_nil _⟩
    exact Nat.lt_of_le_of_lt (Char.le_def.mp printable.2) (by decide)
  split
  · exact isAscii_unitEscape _
  · exact isAscii_append.mpr ⟨isAscii_unitEscape _, isAscii_unitEscape _⟩

theorem isAscii_writeString (text : String) : IsAscii (writeString text) := by
  have letters : IsAscii (text.toList.flatMap escapeCharacter) := by
    intro letter present
    obtain ⟨source, -, written⟩ := List.mem_flatMap.mp present
    exact isAscii_escapeCharacter source letter written
  exact isAscii_append.mpr ⟨isAscii_cons.mpr ⟨by decide, letters⟩, by decide⟩

section write

variable {layout : Layout}

theorem isAscii_separators (plain : layout.IsPlain) : IsAscii layout.comma ∧ IsAscii layout.colon := by
  obtain ⟨⟨blanks, comma, all⟩, ⟨blanks', colon, all'⟩⟩ := plain
  rw [comma, colon, isAscii_cons, isAscii_cons]
  exact ⟨⟨by decide, all.isAscii⟩, ⟨by decide, all'.isAscii⟩⟩

theorem isAscii_writeItems (plain : layout.IsPlain) {depth : Nat} {items : List Json}
    (each : ∀ item ∈ items, IsAscii (item.write layout depth)) :
    IsAscii (writeItems layout depth items) := by
  induction items with
  | nil => exact List.forall_mem_nil _
  | cons item items ih =>
      obtain ⟨first, others⟩ := List.forall_mem_cons.mp each
      simp only [writeItems, isAscii_append]
      exact ⟨⟨⟨(isAscii_separators plain).1, (Reader.areBlank_lineBreak layout depth).isAscii⟩, first⟩,
        ih others⟩

theorem isAscii_writeMembers (plain : layout.IsPlain) {depth : Nat} {members : Members}
    (each : ∀ member ∈ members, IsAscii (member.2.write layout depth)) :
    IsAscii (writeMembers layout depth members) := by
  induction members with
  | nil => exact List.forall_mem_nil _
  | cons member members ih =>
      obtain ⟨first, others⟩ := List.forall_mem_cons.mp each
      obtain ⟨comma, colon⟩ := isAscii_separators plain
      simp only [writeMembers, isAscii_append]
      exact ⟨⟨⟨⟨⟨comma, (Reader.areBlank_lineBreak layout depth).isAscii⟩, isAscii_writeString _⟩, colon⟩,
        first⟩, ih others⟩

theorem isAscii_write (plain : layout.IsPlain) (value : Json) :
    ∀ depth, IsAscii (value.write layout depth) := by
  have blank (depth : Nat) : IsAscii (layout.lineBreak depth) :=
    (Reader.areBlank_lineBreak layout depth).isAscii
  induction value using induction_on_size with
  | _ value ih =>
      intro depth
      cases value with
      | null =>
          rw [write]
          decide
      | bool truth => cases truth <;> rw [write] <;> decide
      | number number =>
          rw [write]
          exact Reader.isAscii_writeNumber number
      | string text =>
          rw [write]
          exact isAscii_writeString text
      | array items =>
          cases items with
          | nil =>
              rw [write]
              decide
          | cons item items =>
              have each : ∀ inner ∈ item :: items, IsAscii (inner.write layout (depth + 1)) :=
                fun inner inside => ih inner (sizeOf_item inside) (depth + 1)
              obtain ⟨first, others⟩ := List.forall_mem_cons.mp each
              simp only [write, isAscii_append, isAscii_cons]
              exact ⟨⟨⟨⟨⟨by decide, blank _⟩, first⟩, isAscii_writeItems plain others⟩, blank _⟩,
                by decide⟩
      | object members =>
          cases members with
          | nil =>
              rw [write]
              decide
          | cons member members =>
              have each : ∀ inner ∈ member :: members, IsAscii (inner.2.write layout (depth + 1)) :=
                fun inner inside => ih inner.2 (sizeOf_member inside) (depth + 1)
              obtain ⟨first, others⟩ := List.forall_mem_cons.mp each
              simp only [write, isAscii_append, isAscii_cons]
              exact ⟨⟨⟨⟨⟨⟨⟨by decide, blank _⟩, isAscii_writeString _⟩, (isAscii_separators plain).2⟩,
                first⟩, isAscii_writeMembers plain others⟩, blank _⟩, by decide⟩

end write

inductive Holds (double : Double) : Json → Prop
  | here : Holds double (.number (.float double))
  | item {items : List Json} {item : Json} (inside : item ∈ items) (holds : Holds double item) :
      Holds double (.array items)
  | member {members : Members} {member : String × Json} (inside : member ∈ members)
      (holds : Holds double member.2) : Holds double (.object members)

theorem holds_of_arranged {double : Double} (value : Json) :
    Holds double value.arranged → Holds double value := by
  induction value using induction_on_size with
  | _ value ih =>
      intro holds
      cases value with
      | number number =>
          rw [arranged] at holds
          cases is : number.arranged with
          | int whole =>
              rw [is] at holds
              cases holds
          | float value =>
              rw [is] at holds
              rwa [Number.eq_of_arranged_float is]
      | array items =>
          rw [arranged, arrangedItems_eq_map] at holds
          cases holds with
          | item inside holds =>
              obtain ⟨item, present, rfl⟩ := List.mem_map.mp inside
              exact .item present (ih item (sizeOf_item present) holds)
      | object members =>
          rw [arranged] at holds
          cases holds with
          | member inside holds =>
              rw [(sortByKey_perm _).mem_iff, arrangedMembers_eq_map] at inside
              obtain ⟨member, present, rfl⟩ := List.mem_map.mp inside
              exact .member present (ih member.2 (sizeOf_member present) holds)
      | _ => exact holds

theorem exists_of_nonFiniteItem? {items : List Json} {double : Double}
    (found : nonFiniteItem? items = some double) : ∃ item ∈ items, item.nonFinite? = some double := by
  induction items with
  | nil => cases found
  | cons item items ih =>
      rw [nonFiniteItem?, Option.or_eq_some_iff] at found
      rcases found with here | ⟨-, later⟩
      · exact ⟨item, List.mem_cons_self .., here⟩
      · obtain ⟨other, inside, there⟩ := ih later
        exact ⟨other, List.mem_cons_of_mem _ inside, there⟩

theorem exists_of_nonFiniteMember? {members : Members} {double : Double}
    (found : nonFiniteMember? members = some double) :
    ∃ member ∈ members, member.2.nonFinite? = some double := by
  induction members with
  | nil => cases found
  | cons member members ih =>
      rw [nonFiniteMember?, Option.or_eq_some_iff] at found
      rcases found with here | ⟨-, later⟩
      · exact ⟨member, List.mem_cons_self .., here⟩
      · obtain ⟨other, inside, there⟩ := ih later
        exact ⟨other, List.mem_cons_of_mem _ inside, there⟩

theorem holds_of_nonFinite? {double : Double} (value : Json) :
    value.nonFinite? = some double → Holds double value ∧ double.isFinite = false := by
  induction value using induction_on_size with
  | _ value ih =>
      intro found
      cases value with
      | null | bool _ | string _ => cases found
      | number number =>
          cases number with
          | int whole => cases found
          | float value =>
              rw [nonFinite?] at found
              split at found
              · cases found
              · next infinite =>
                obtain rfl := Option.some.inj found
                exact ⟨.here, Bool.eq_false_iff.mpr infinite⟩
      | array items =>
          obtain ⟨item, inside, there⟩ := exists_of_nonFiniteItem? found
          obtain ⟨holds, infinite⟩ := ih item (sizeOf_item inside) there
          exact ⟨.item inside holds, infinite⟩
      | object members =>
          obtain ⟨member, inside, there⟩ := exists_of_nonFiniteMember? found
          obtain ⟨holds, infinite⟩ := ih member.2 (sizeOf_member inside) there
          exact ⟨.member inside holds, infinite⟩

theorem isFinite_of_holds {double : Double} {value : Json} (holds : Holds double value) :
    value.isFinite = true → double.isFinite = true := by
  induction holds with
  | here => simp [isFinite, nonFinite?]
  | item inside _ ih => exact fun finite => ih ((isFinite_array _).mp finite _ inside)
  | member inside _ ih => exact fun finite => ih ((isFinite_object _).mp finite _ inside)

theorem isFinite_iff_holds {value : Json} :
    value.isFinite = true ↔ ∀ double, Holds double value → double.isFinite = true := by
  constructor
  · intro finite double holds
    exact isFinite_of_holds holds finite
  · intro each
    rw [isFinite, Option.isNone_iff_eq_none, Option.eq_none_iff_forall_ne_some]
    intro double found
    obtain ⟨holds, infinite⟩ := holds_of_nonFinite? value found
    exact Bool.false_ne_true (infinite.symm.trans (each double holds))

theorem arranged_arranged (value : Json) :
    value.noRepeats = true → value.arranged.arranged = value.arranged := by
  induction value using induction_on_size with
  | _ value ih =>
      intro clean
      cases value with
      | number number => exact congrArg Json.number (Number.arranged_arranged number)
      | array items =>
          have each := noRepeats_array.mp clean
          simp only [arranged, arrangedItems_eq_map, List.map_map, Json.array.injEq]
          exact List.map_congr_left fun item inside => ih item (sizeOf_item inside) (each item inside)
      | object members =>
          obtain ⟨distinct, each⟩ := noRepeats_object.mp clean
          have still : arrangedMembers (sortByKey (arrangedMembers members)) =
              sortByKey (arrangedMembers members) := by
            rw [arrangedMembers_eq_map (sortByKey _)]
            refine (List.map_congr_left ?_).trans (List.map_id _)
            intro member inside
            rw [(sortByKey_perm _).mem_iff, arrangedMembers_eq_map] at inside
            obtain ⟨before, present, rfl⟩ := List.mem_map.mp inside
            exact congrArg (Prod.mk before.1) (ih before.2 (sizeOf_member present) (each before present))
          rw [arranged, arranged, still, sortByKey_of_ascends (ascends_arranged distinct)]
      | _ => rfl

/-- A finite value has a canonical text in ASCII that is read to an equal value, whose canonical text
is the same; a value that holds an infinity or a NaN is refused, by one of those it holds. -/
theorem canonicalText_normal (value : Json) :
    (value.noRepeats = true → (∀ double, Holds double value → double.isFinite = true) →
      ∃ written read, value.canonicalText = .ok written ∧ Text.IsAscii written.toList ∧
        parse written = .ok read ∧ value.equal read = .ok true ∧ read.canonicalText = .ok written) ∧
    ((∃ double, Holds double value ∧ double.isFinite = false) →
      ∃ other, Holds other value ∧ other.isFinite = false ∧
        Schema.finitely value.canonicalText = .error (.notFinite other)) := by
  constructor
  · intro clean each
    have finite : value.isFinite = true := isFinite_iff_holds.mpr each
    have finite' : value.arranged.isFinite = true := (isFinite_arranged value).trans finite
    have again := arranged_arranged value clean
    refine ⟨value.arranged.text .spaced, value.arranged, ?_, ?_, ?_, ?_, ?_⟩
    · rw [canonicalText, canonical_eq_ok.mpr ⟨finite, rfl⟩]
      rfl
    · rw [text, String.toList_ofList]
      exact isAscii_write Layout.isPlain_spaced _ 0
    · exact parse_text Layout.isPlain_spaced (noRepeats_arranged value clean)
    · exact equal_eq_ok.mpr ⟨finite, finite', (decide_eq_true again.symm).symm⟩
    · rw [canonicalText, canonical_eq_ok.mpr ⟨finite', again⟩]
      rfl
  · rintro ⟨double, holds, infinite⟩
    have unbounded : value.isFinite = false := by
      rw [Bool.eq_false_iff]
      intro finite
      exact Bool.false_ne_true (infinite.symm.trans (isFinite_of_holds holds finite))
    rw [← isFinite_arranged, isFinite, Option.isNone_eq_false_iff, Option.isSome_iff_exists] at unbounded
    obtain ⟨other, found⟩ := unbounded
    obtain ⟨holds', infinite'⟩ := holds_of_nonFinite? value.arranged found
    refine ⟨other, holds_of_arranged value holds', infinite', ?_⟩
    rw [canonicalText, canonical, found]
    rfl

def unsorted : Json :=
  .object [("z", .string "\"\x01\x7f😀"), ("a", .array [.number (.float (Double.nearest false 1 1))])]

def overflowing : Json := .object [("a", .array [.null, .number (.float (.infinity true))])]

theorem canonicalText_unsorted :
    (unsorted.noRepeats = true ∧ (∀ double, Holds double unsorted → double.isFinite = true)) ∧
    (∃ read, unsorted.canonicalText =
        .ok "\x7b\"a\": [1], \"z\": \"\\\"\\u0001\\u007f\\ud83d\\ude00\"\x7d" ∧
      unsorted.equal read = .ok true) ∧
    Holds (.infinity true) overflowing ∧
    ∃ other, Schema.finitely overflowing.canonicalText = .error (.notFinite other) := by
  have clean : unsorted.noRepeats = true := by decide +kernel
  have finite : ∀ double, Holds double unsorted → double.isFinite = true :=
    isFinite_iff_holds.mp (by decide +kernel)
  have holds : Holds (.infinity true) overflowing :=
    .member (List.mem_singleton.mpr rfl) (.item (List.mem_cons_of_mem _ (List.mem_singleton.mpr rfl)) .here)
  obtain ⟨written, read, text, -, -, same, -⟩ := (canonicalText_normal unsorted).1 clean finite
  obtain ⟨other, -, -, refused⟩ := (canonicalText_normal overflowing).2 ⟨_, holds, rfl⟩
  have is : unsorted.canonicalText =
      .ok "\x7b\"a\": [1], \"z\": \"\\\"\\u0001\\u007f\\ud83d\\ude00\"\x7d" := by decide +kernel
  exact ⟨⟨clean, finite⟩, ⟨read, is, same⟩, holds, other, refused⟩

end Json

end SchemaMerge
