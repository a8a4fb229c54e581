import SchemaMerge.Proofs.Json.Equality
import SchemaMerge.Proofs.Json.NumberText
import SchemaMerge.Proofs.Json.StringText
import SchemaMerge.Proofs.Validity.Leaf

namespace SchemaMerge

namespace Members

theorem set_of_absent {members : Members} {key : String} (absent : members.get? key = none)
    (value : Json) : members.set key value = members ++ [(key, value)] := by
  induction members with
  | nil => rfl
  | cons member rest ih =>
      obtain ⟨name, old⟩ := member
      rw [get?_cons] at absent
      split at absent
      · cases absent
      · next other =>
        rw [set, if_neg (Ne.symm other), ih absent, List.cons_append]

theorem ofPairs_of_distinct {pairs : Members} (distinct : pairs.Distinct) : ofPairs pairs = pairs := by
  have fold : ∀ rest before : Members, (before ++ rest).Distinct →
      rest.foldl (fun members pair => members.set pair.1 pair.2) before = before ++ rest := by
    intro rest
    induction rest with
    | nil =>
        intro before _
        exact (List.append_nil before).symm
    | cons pair rest ih =>
        intro before distinct
        have absent : get? before pair.1 = none := by
          rw [get?_eq_none_iff]
          intro member present same
          simp only [Distinct, List.map_append, List.map_cons, List.nodup_append] at distinct
          exact distinct.2.2 _ (List.mem_map_of_mem present) _ (List.mem_cons_self ..) same
        rw [List.foldl_cons, set_of_absent absent, ih, List.append_assoc, List.singleton_append]
        rwa [List.append_assoc, List.singleton_append]
  exact fold pairs [] distinct

end Members

def Reader.AreBlank (blanks : List Char) : Prop := ∀ letter ∈ blanks, isBlank letter = true

instance (blanks : List Char) : Decidable (Reader.AreBlank blanks) :=
  List.decidableBAll (fun letter => Reader.isBlank letter = true) blanks

structure Layout.IsPlain (layout : Layout) : Prop where
  comma : ∃ blanks, layout.comma = ',' :: blanks ∧ Reader.AreBlank blanks
  colon : ∃ blanks, layout.colon = ':' :: blanks ∧ Reader.AreBlank blanks

theorem Layout.isPlain_compact : Layout.compact.IsPlain :=
  ⟨⟨[], rfl, List.forall_mem_nil _⟩, ⟨[], rfl, List.forall_mem_nil _⟩⟩

theorem Layout.isPlain_spaced : Layout.spaced.IsPlain :=
  ⟨⟨[' '], rfl, List.forall_mem_singleton.mpr rfl⟩, ⟨[' '], rfl, List.forall_mem_singleton.mpr rfl⟩⟩

theorem Layout.isPlain_indented : Layout.indented.IsPlain :=
  ⟨⟨[], rfl, List.forall_mem_nil _⟩, ⟨[' '], rfl, List.forall_mem_singleton.mpr rfl⟩⟩

namespace Reader

variable {layout : Layout} {rest : List Char}

theorem skipBlanks_append {blanks : List Char} (all : AreBlank blanks) (rest : List Char) :
    skipBlanks (blanks ++ rest) = skipBlanks rest := by
  rw [skipBlanks, List.dropWhile_append_of_pos all]
  rfl

theorem skipBlanks_cons {letter : Char} (mark : isBlank letter = false) (rest : List Char) :
    skipBlanks (letter :: rest) = letter :: rest := by
  rw [skipBlanks, List.dropWhile_cons_of_neg (by simp [mark])]

theorem areBlank_lineBreak (layout : Layout) (depth : Nat) : AreBlank (layout.lineBreak depth) := by
  intro letter present
  unfold Layout.lineBreak at present
  split at present
  · cases present
  · next width _ =>
    rcases List.mem_cons.mp present with rfl | present
    · rfl
    · rw [List.eq_of_mem_replicate present]
      rfl

theorem skipBlanks_lineBreak {letter : Char} (mark : isBlank letter = false) (depth : Nat)
    (rest : List Char) : skipBlanks (layout.lineBreak depth ++ letter :: rest) = letter :: rest := by
  rw [skipBlanks_append (areBlank_lineBreak layout depth), skipBlanks_cons mark]

theorem ends_cons {letter : Char} (other : continuesNumber letter = false) (rest : List Char) :
    Ends (letter :: rest) := by
  intro first is
  rwa [← Option.some.inj is]

theorem ends_lineBreak {letter : Char} (other : continuesNumber letter = false) (depth : Nat)
    (rest : List Char) : Ends (layout.lineBreak depth ++ letter :: rest) := by
  unfold Layout.lineBreak
  split
  · exact ends_cons other rest
  · exact ends_cons (by decide) _

/-- What a written value begins with: no blank, and no sign that there is no value. -/
def Begins (text : List Char) : Prop :=
  ∃ letter others, text = letter :: others ∧ isBlank letter = false ∧ letter ≠ ']' ∧
    letter ≠ '\ufeff'

theorem ne_of_startsNumber {letter other : Char} (starts : startsNumber letter = true)
    (mark : startsNumber other = false) : letter ≠ other := by
  rintro rfl
  exact absurd (starts.symm.trans mark) (by decide)

theorem begins_number (number : Number) : Begins (Json.writeNumber number) := by
  obtain ⟨letter, others, is, starts⟩ := writeNumber_first number
  refine ⟨letter, others, is, ?_, ne_of_startsNumber starts (by decide),
    ne_of_startsNumber starts (by decide)⟩
  simp [isBlank, ne_of_startsNumber starts (show startsNumber ' ' = false by decide),
    ne_of_startsNumber starts (show startsNumber '\t' = false by decide),
    ne_of_startsNumber starts (show startsNumber '\n' = false by decide),
    ne_of_startsNumber starts (show startsNumber '\r' = false by decide)]

theorem begins_write (layout : Layout) (depth : Nat) (value : Json) :
    Begins (value.write layout depth) := by
  cases value with
  | null => exact ⟨'n', _, by rw [Json.write]; rfl, by decide⟩
  | bool truth =>
      cases truth with
      | true => exact ⟨'t', _, by rw [Json.write]; rfl, by decide⟩
      | false => exact ⟨'f', _, by rw [Json.write]; rfl, by decide⟩
  | number number =>
      rw [Json.write]
      exact begins_number number
  | string text => exact ⟨'"', _, by rw [Json.write]; rfl, by decide⟩
  | array items =>
      cases items with
      | nil => exact ⟨'[', _, by rw [Json.write], by decide⟩
      | cons item items => exact ⟨'[', _, by rw [Json.write]; rfl, by decide⟩
  | object members =>
      cases members with
      | nil => exact ⟨'\x7b', _, by rw [Json.write], by decide⟩
      | cons member members => exact ⟨'\x7b', _, by rw [Json.write]; rfl, by decide⟩

theorem value_number (fuel : Nat) (number : Number) (ends : Ends rest) :
    value (fuel + 1) (Json.writeNumber number ++ rest) = .ok (.number number, rest) := by
  have read := number?_writeNumber number ends
  obtain ⟨letter, others, is, starts⟩ := writeNumber_first number
  rw [is, List.cons_append] at read ⊢
  have other {mark : Char} (plain : startsNumber mark = false) : letter ≠ mark :=
    ne_of_startsNumber starts plain
  unfold value
  split
  · next same => exact absurd (List.cons.inj same).1 (other (by decide))
  · next same => exact absurd (List.cons.inj same).1 (other (by decide))
  · next same => exact absurd (List.cons.inj same).1 (other (by decide))
  · next same => exact absurd (List.cons.inj same).1 (other (by decide))
  · next same => exact absurd (List.cons.inj same).1 (other (by decide))
  · next same => exact absurd (List.cons.inj same).1 (other (by decide))
  · rw [read]

theorem length_escaped (letters : List Char) :
    letters.length ≤ (letters.flatMap Json.escapeCharacter).length := by
  induction letters with
  | nil => exact Nat.le_refl 0
  | cons letter letters ih =>
      have some : 0 < (Json.escapeCharacter letter).length := by
        unfold Json.escapeCharacter
        repeat' split
        all_goals exact Nat.succ_pos _
      rw [List.flatMap_cons, List.length_append, List.length_cons]
      omega

theorem string_write (text : String) (rest : List Char) {fuel : Nat}
    (enough : (text.toList.flatMap Json.escapeCharacter).length < fuel) :
    string fuel (text.toList.flatMap Json.escapeCharacter ++ '"' :: rest) = .ok (text, rest) := by
  have shorter := length_escaped text.toList
  have whole : (text.toList.map Char.toNat).any isSurrogate = false := by
    rw [List.any_map]
    exact List.any_eq_false.mpr fun letter _ => by simp [isSurrogate_toNat]
  have back : (text.toList.map Char.toNat).map Char.ofNat = text.toList := by
    rw [List.map_map, show Char.ofNat ∘ Char.toNat = id from funext Char.ofNat_toNat, List.map_id]
  rw [string, characters_escape _ _ _ (by omega)]
  simp only [bind, Except.bind, whole, back, Bool.false_eq_true, if_false, String.ofList_toList]

/-- A value is read from its text, whatever ends there. Two calls for each character are enough. -/
def Reads (layout : Layout) (written : Json) : Prop :=
  ∀ depth fuel rest, Ends rest → 2 * (written.write layout depth ++ rest).length ≤ fuel →
    value fuel (written.write layout depth ++ rest) = .ok (written, rest)

theorem skipBlanks_value {blanks : List Char} (all : AreBlank blanks) (layout : Layout) (depth : Nat)
    (value : Json) (rest : List Char) :
    skipBlanks (blanks ++ (value.write layout depth ++ rest)) = value.write layout depth ++ rest := by
  obtain ⟨letter, others, is, mark, -⟩ := begins_write layout depth value
  rw [skipBlanks_append all, is, List.cons_append, skipBlanks_cons mark]

theorem items_write (plain : layout.IsPlain) (outer depth : Nat) (rest : List Char)
    (others : List Json) : ∀ (first : Json) (fuel : Nat), (∀ item ∈ first :: others, Reads layout item) →
      2 * (first.write layout depth ++ (Json.writeItems layout depth others ++
        (layout.lineBreak outer ++ ']' :: rest))).length + 1 ≤ fuel →
      items fuel (first.write layout depth ++ (Json.writeItems layout depth others ++
        (layout.lineBreak outer ++ ']' :: rest))) = .ok (first :: others, rest) := by
  induction others with
  | nil =>
      intro first fuel reads enough
      obtain ⟨fuel, rfl⟩ := Nat.exists_eq_succ_of_ne_zero (Nat.ne_of_gt (Nat.zero_lt_of_lt enough))
      rw [Json.writeItems, List.nil_append] at enough ⊢
      have read := reads first (List.mem_cons_self ..) depth fuel _
        (ends_lineBreak (by decide) outer rest) (Nat.le_of_succ_le_succ enough)
      rw [items, read]
      simp only [bind, Except.bind, skipBlanks_lineBreak (show isBlank ']' = false by decide)]
  | cons item others ih =>
      intro first fuel reads enough
      obtain ⟨fuel, rfl⟩ := Nat.exists_eq_succ_of_ne_zero (Nat.ne_of_gt (Nat.zero_lt_of_lt enough))
      obtain ⟨blanks, comma, all⟩ := plain.comma
      have following : Json.writeItems layout depth (item :: others) ++
          (layout.lineBreak outer ++ ']' :: rest) =
          ',' :: ((blanks ++ layout.lineBreak depth) ++ (item.write layout depth ++
            (Json.writeItems layout depth others ++ (layout.lineBreak outer ++ ']' :: rest)))) := by
        rw [Json.writeItems, comma]
        simp only [List.cons_append, List.append_assoc]
      rw [following] at enough ⊢
      have read := reads first (List.mem_cons_self ..) depth fuel _ (ends_cons (by decide) _)
        (Nat.le_of_succ_le_succ enough)
      have blank : AreBlank (blanks ++ layout.lineBreak depth) :=
        List.forall_mem_append.mpr ⟨all, areBlank_lineBreak layout depth⟩
      have later : ∀ inner ∈ item :: others, Reads layout inner :=
        fun inner inside => reads inner (List.mem_cons_of_mem _ inside)
      have tail := ih item fuel later (by
        simp only [List.length_append, List.length_cons] at enough ⊢
        omega)
      rw [items, read]
      simp only [bind, Except.bind, skipBlanks_cons (show isBlank ',' = false by decide),
        skipBlanks_value blank, tail]

theorem writeString_append (text : String) (rest : List Char) :
    Json.writeString text ++ rest =
      '"' :: (text.toList.flatMap Json.escapeCharacter ++ '"' :: rest) := by
  simp only [Json.writeString, List.cons_append, List.append_assoc, List.nil_append]

theorem skipBlanks_string {blanks : List Char} (all : AreBlank blanks) (text : String)
    (rest : List Char) :
    skipBlanks (blanks ++ (Json.writeString text ++ rest)) = Json.writeString text ++ rest := by
  rw [skipBlanks_append all, writeString_append, skipBlanks_cons (by decide)]

theorem members_cons (plain : layout.IsPlain) (depth fuel : Nat) (key : String) (first : Json)
    {rest tail : List Char} {others : Members} (reads : Reads layout first) (ends : Ends rest)
    (enough : 2 * (Json.writeString key ++
      (layout.colon ++ (first.write layout depth ++ rest))).length + 1 ≤ fuel + 1)
    (following : (skipBlanks rest = '\x7d' :: tail ∧ others = []) ∨
      ∃ more, skipBlanks rest = ',' :: more ∧ members fuel (skipBlanks more) = .ok (others, tail)) :
    members (fuel + 1) (Json.writeString key ++ (layout.colon ++ (first.write layout depth ++ rest))) =
      .ok ((key, first) :: others, tail) := by
  obtain ⟨blanks, colon, all⟩ := plain.colon
  rw [writeString_append, colon] at enough ⊢
  simp only [List.length_append, List.length_cons] at enough
  have read := reads depth fuel rest ends (by
    rw [List.length_append]
    omega)
  rw [members, string_write key _ (by omega)]
  simp only [bind, Except.bind, List.cons_append, skipBlanks_cons (show isBlank ':' = false by decide),
    skipBlanks_value all, read]
  rcases following with ⟨closed, rfl⟩ | ⟨more, comma, readOthers⟩
  · simp only [closed]
  · simp only [comma, readOthers]

theorem members_write (plain : layout.IsPlain) (outer depth : Nat) (rest : List Char)
    (others : Members) : ∀ (key : String) (first : Json) (fuel : Nat),
      (∀ member ∈ (key, first) :: others, Reads layout member.2) →
      2 * (Json.writeString key ++ (layout.colon ++ (first.write layout depth ++
        (Json.writeMembers layout depth others ++
          (layout.lineBreak outer ++ '\x7d' :: rest))))).length + 1 ≤ fuel →
      members fuel (Json.writeString key ++ (layout.colon ++ (first.write layout depth ++
        (Json.writeMembers layout depth others ++ (layout.lineBreak outer ++ '\x7d' :: rest))))) =
          .ok ((key, first) :: others, rest) := by
  induction others with
  | nil =>
      intro key first fuel reads enough
      obtain ⟨fuel, rfl⟩ := Nat.exists_eq_succ_of_ne_zero (Nat.ne_of_gt (Nat.zero_lt_of_lt enough))
      rw [Json.writeMembers, List.nil_append] at enough ⊢
      exact members_cons plain depth fuel key first (reads _ (List.mem_cons_self ..))
        (ends_lineBreak (by decide) outer rest) enough
        (Or.inl ⟨skipBlanks_lineBreak (by decide) outer rest, rfl⟩)
  | cons member others ih =>
      intro key first fuel reads enough
      obtain ⟨name, value⟩ := member
      obtain ⟨fuel, rfl⟩ := Nat.exists_eq_succ_of_ne_zero (Nat.ne_of_gt (Nat.zero_lt_of_lt enough))
      obtain ⟨blanks, comma, all⟩ := plain.comma
      have following : Json.writeMembers layout depth ((name, value) :: others) ++
          (layout.lineBreak outer ++ '\x7d' :: rest) =
          ',' :: ((blanks ++ layout.lineBreak depth) ++ (Json.writeString name ++ (layout.colon ++
            (value.write layout depth ++ (Json.writeMembers layout depth others ++
              (layout.lineBreak outer ++ '\x7d' :: rest)))))) := by
        rw [Json.writeMembers, comma]
        simp only [List.cons_append, List.append_assoc]
      rw [following] at enough ⊢
      have blank : AreBlank (blanks ++ layout.lineBreak depth) :=
        List.forall_mem_append.mpr ⟨all, areBlank_lineBreak layout depth⟩
      have later : ∀ inner ∈ (name, value) :: others, Reads layout inner.2 :=
        fun inner inside => reads inner (List.mem_cons_of_mem _ inside)
      have tail := ih name value fuel later (by
        simp only [List.length_append, List.length_cons] at enough ⊢
        omega)
      refine members_cons plain depth fuel key first (reads _ (List.mem_cons_self ..))
        (ends_cons (by decide) _) enough (Or.inr ⟨_, skipBlanks_cons (by decide) _, ?_⟩)
      rw [skipBlanks_string blank, tail]

theorem value_array {text body : List Char} (fuel : Nat) (skipped : skipBlanks text = body)
    (filled : ∃ letter others, body = letter :: others ∧ letter ≠ ']') :
    value (fuel + 1) ('[' :: text) = (do
      let (values, rest) ← items fuel body
      .ok (.array values, rest)) := by
  obtain ⟨letter, others, rfl, filled⟩ := filled
  rw [value, skipped]
  split
  · next same => exact absurd (List.cons.inj same).1 filled
  · rfl

theorem value_object {text body : List Char} (fuel : Nat) (skipped : skipBlanks text = body)
    (filled : ∃ letter others, body = letter :: others ∧ letter ≠ '\x7d') :
    value (fuel + 1) ('\x7b' :: text) = (do
      let (pairs, rest) ← members fuel body
      .ok (.object (Members.ofPairs pairs), rest)) := by
  obtain ⟨letter, others, rfl, filled⟩ := filled
  rw [value, skipped]
  split
  · next same => exact absurd (List.cons.inj same).1 filled
  · rfl

theorem reads_of_succ {written : Json}
    (read : ∀ depth fuel rest, Ends rest →
      2 * (written.write layout depth ++ rest).length ≤ fuel + 1 →
      value (fuel + 1) (written.write layout depth ++ rest) = .ok (written, rest)) :
    Reads layout written := by
  intro depth fuel rest ends enough
  obtain ⟨fuel, rfl⟩ : ∃ before, fuel = before + 1 := by
    obtain ⟨letter, others, is, -⟩ := begins_write layout depth written
    rw [is, List.cons_append, List.length_cons] at enough
    exact ⟨fuel - 1, by omega⟩
  exact read depth fuel rest ends enough

theorem reads_string (text : String) : Reads layout (.string text) := by
  apply reads_of_succ
  intro depth fuel rest ends enough
  rw [Json.write, writeString_append] at enough ⊢
  simp only [List.length_append, List.length_cons] at enough
  rw [value, string_write text rest (by omega)]
  rfl

theorem reads_array (plain : layout.IsPlain) {item : Json} {others : List Json}
    (reads : ∀ inner ∈ item :: others, Reads layout inner) :
    Reads layout (.array (item :: others)) := by
  apply reads_of_succ
  intro depth fuel rest ends enough
  have shape : (Json.array (item :: others)).write layout depth ++ rest =
      '[' :: (layout.lineBreak (depth + 1) ++ (item.write layout (depth + 1) ++
        (Json.writeItems layout (depth + 1) others ++
          (layout.lineBreak depth ++ ']' :: rest)))) := by
    rw [Json.write]
    simp only [List.cons_append, List.append_assoc, List.nil_append]
  rw [shape] at enough ⊢
  rw [value_array fuel (skipBlanks_value (areBlank_lineBreak layout _) layout _ item _),
    items_write plain depth (depth + 1) rest others item fuel reads]
  · rfl
  · simp only [List.length_append, List.length_cons] at enough ⊢
    omega
  · obtain ⟨letter, following, is, -, filled, -⟩ := begins_write layout (depth + 1) item
    exact ⟨letter, _, by rw [is, List.cons_append], filled⟩

theorem reads_object (plain : layout.IsPlain) {key : String} {first : Json} {others : Members}
    (distinct : Members.Distinct ((key, first) :: others))
    (reads : ∀ inner ∈ (key, first) :: others, Reads layout inner.2) :
    Reads layout (.object ((key, first) :: others)) := by
  apply reads_of_succ
  intro depth fuel rest ends enough
  have shape : (Json.object ((key, first) :: others)).write layout depth ++ rest =
      '\x7b' :: (layout.lineBreak (depth + 1) ++ (Json.writeString key ++ (layout.colon ++
        (first.write layout (depth + 1) ++ (Json.writeMembers layout (depth + 1) others ++
          (layout.lineBreak depth ++ '\x7d' :: rest)))))) := by
    rw [Json.write]
    simp only [List.cons_append, List.append_assoc, List.nil_append]
  rw [shape] at enough ⊢
  rw [value_object fuel (skipBlanks_string (areBlank_lineBreak layout _) key _),
    members_write plain depth (depth + 1) rest others key first fuel reads]
  · exact congrArg (fun members => Except.ok (Json.object members, rest))
      (Members.ofPairs_of_distinct distinct)
  · simp only [List.length_append, List.length_cons] at enough ⊢
    omega
  · exact ⟨'"', _, writeString_append key _, by decide⟩

theorem value_write (plain : layout.IsPlain) (written : Json) :
    written.noRepeats = true → Reads layout written := by
  induction written using Json.induction_on_size with
  | _ written ih =>
      intro clean
      cases written with
      | null => exact reads_of_succ fun _ _ _ _ _ => by rw [Json.write]; rfl
      | bool truth =>
          cases truth with
          | true => exact reads_of_succ fun _ _ _ _ _ => by rw [Json.write]; rfl
          | false => exact reads_of_succ fun _ _ _ _ _ => by rw [Json.write]; rfl
      | number number =>
          apply reads_of_succ
          intro depth fuel rest ends _
          rw [Json.write]
          exact value_number fuel number ends
      | string text => exact reads_string text
      | array items =>
          cases items with
          | nil => exact reads_of_succ fun _ _ _ _ _ => by rw [Json.write]; rfl
          | cons item others =>
              apply reads_array plain
              intro inner inside
              exact ih inner (Json.sizeOf_item inside) (Json.noRepeats_array.mp clean inner inside)
      | object members =>
          cases members with
          | nil => exact reads_of_succ fun _ _ _ _ _ => by rw [Json.write]; rfl
          | cons member others =>
              obtain ⟨distinct, cleanAll⟩ := Json.noRepeats_object.mp clean
              apply reads_object plain distinct
              intro inner inside
              exact ih inner.2 (Json.sizeOf_member inside) (cleanAll inner inside)

theorem AreBlank.ends {blanks : List Char} (all : AreBlank blanks) : Ends blanks := by
  intro letter first
  have blank := all letter (List.mem_of_head? first)
  simp only [isBlank, Bool.or_eq_true, decide_eq_true_eq] at blank
  rcases blank with ((rfl | rfl) | rfl) | rfl <;> decide

theorem document_write (plain : layout.IsPlain) {written : Json} (clean : written.noRepeats = true)
    {blanks : List Char} (all : AreBlank blanks) :
    document (written.write layout 0 ++ blanks) = .ok written := by
  obtain ⟨letter, others, is, mark, -, noMark⟩ := begins_write layout 0 written
  have read := value_write plain written clean 0 (2 * (written.write layout 0 ++ blanks).length + 2)
    blanks all.ends (by omega)
  have after : skipBlanks blanks = [] := by
    rw [← List.append_nil blanks, skipBlanks_append all]
    rfl
  rw [is, List.cons_append] at read ⊢
  rw [document, if_neg (by simpa using noMark), skipBlanks_cons mark]
  simp only [bind, Except.bind, read, after]

end Reader

namespace Json

theorem parse_text_append {layout : Layout} (plain : layout.IsPlain) {value : Json}
    (clean : value.noRepeats = true) {blanks : String} (all : Reader.AreBlank blanks.toList) :
    parse (text layout value ++ blanks) = .ok value := by
  rw [parse, String.toList_append, text, String.toList_ofList, Reader.document_write plain clean all]

theorem parse_text {layout : Layout} (plain : layout.IsPlain) {value : Json}
    (clean : value.noRepeats = true) : parse (text layout value) = .ok value := by
  rw [← String.append_empty (s := text layout value)]
  exact parse_text_append plain clean (List.forall_mem_nil _)

end Json

end SchemaMerge
