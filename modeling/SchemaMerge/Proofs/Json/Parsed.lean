import SchemaMerge.Proofs.Json.RoundTrip
import SchemaMerge.Proofs.Outcome
import SchemaMerge.Text.Blank

namespace SchemaMerge

namespace Members

theorem distinct_ofPairs (pairs : Members) : (ofPairs pairs).Distinct := by
  have fold : ∀ rest before : Members, before.Distinct →
      Distinct (rest.foldl (fun members pair => members.set pair.1 pair.2) before) := by
    intro rest
    induction rest with
    | nil => exact fun _ distinct => distinct
    | cons pair rest ih => exact fun before distinct => ih _ (distinct_set distinct pair.1 pair.2)
  exact fold pairs [] List.nodup_nil

theorem forall_mem_ofPairs (holds : Json → Prop) {pairs : Members} (all : ∀ pair ∈ pairs, holds pair.2) :
    ∀ member ∈ ofPairs pairs, holds member.2 := by
  have fold : ∀ rest before : Members, (∀ pair ∈ rest, holds pair.2) →
      (∀ member ∈ before, holds member.2) →
      ∀ member ∈ rest.foldl (fun members pair => members.set pair.1 pair.2) before, holds member.2 := by
    intro rest
    induction rest with
    | nil => exact fun _ _ kept => kept
    | cons pair rest ih =>
        intro before each kept
        obtain ⟨head, tail⟩ := List.forall_mem_cons.mp each
        refine ih _ tail fun member present => ?_
        rcases mem_set present with rfl | old
        · exact head
        · exact kept member old
  exact fold pairs [] all (List.forall_mem_nil _)

end Members

namespace Reader

/-- Nothing that the readers come to, at some depth, repeats a key. -/
structure ReadsClean (fuel : Nat) : Prop where
  value : ∀ {text read rest}, Reader.value fuel text = .ok (read, rest) → read.noRepeats = true
  items : ∀ {text read rest}, Reader.items fuel text = .ok (read, rest) →
    ∀ item ∈ read, item.noRepeats = true
  members : ∀ {text read rest}, Reader.members fuel text = .ok (read, rest) →
    ∀ member ∈ read, member.2.noRepeats = true

namespace ReadsClean

variable {fuel : Nat} {text rest : List Char}

theorem value_succ (inner : ReadsClean fuel) {read : Json}
    (made : Reader.value (fuel + 1) text = .ok (read, rest)) : read.noRepeats = true := by
  unfold Reader.value at made
  split at made
  · obtain ⟨⟨_, _⟩, -, made⟩ := bind_eq_ok.mp made
    cases made
    rfl
  · split at made
    · cases made
      rfl
    · obtain ⟨⟨pairs, _⟩, listed, made⟩ := bind_eq_ok.mp made
      cases made
      exact Json.noRepeats_object.mpr ⟨Members.distinct_ofPairs pairs,
        Members.forall_mem_ofPairs (·.noRepeats = true) (inner.members listed)⟩
  · split at made
    · cases made
      rfl
    · obtain ⟨⟨values, _⟩, listed, made⟩ := bind_eq_ok.mp made
      cases made
      exact Json.noRepeats_array.mpr (inner.items listed)
  · cases made
    rfl
  · cases made
    rfl
  · cases made
    rfl
  · split at made
    · cases made
      rfl
    · cases made

theorem items_succ (inner : ReadsClean fuel) {read : List Json}
    (made : Reader.items (fuel + 1) text = .ok (read, rest)) : ∀ item ∈ read, item.noRepeats = true := by
  rw [Reader.items] at made
  obtain ⟨⟨first, _⟩, head, made⟩ := bind_eq_ok.mp made
  have clean := inner.value head
  dsimp only at made
  split at made
  · cases made
    exact List.forall_mem_singleton.mpr clean
  · obtain ⟨⟨others, _⟩, listed, made⟩ := bind_eq_ok.mp made
    cases made
    exact List.forall_mem_cons.mpr ⟨clean, inner.items listed⟩
  · cases made

theorem members_succ (inner : ReadsClean fuel) {read : Members}
    (made : Reader.members (fuel + 1) text = .ok (read, rest)) :
    ∀ member ∈ read, member.2.noRepeats = true := by
  unfold Reader.members at made
  split at made
  · obtain ⟨⟨key, _⟩, -, made⟩ := bind_eq_ok.mp made
    dsimp only at made
    split at made
    · obtain ⟨⟨first, _⟩, head, made⟩ := bind_eq_ok.mp made
      have clean := inner.value head
      dsimp only at made
      split at made
      · cases made
        exact List.forall_mem_singleton.mpr clean
      · obtain ⟨⟨others, _⟩, listed, made⟩ := bind_eq_ok.mp made
        cases made
        exact List.forall_mem_cons.mpr ⟨clean, inner.members listed⟩
      · cases made
    · cases made
  · cases made

end ReadsClean

theorem readsClean (fuel : Nat) : ReadsClean fuel := by
  induction fuel with
  | zero =>
      constructor
      · intro _ _ _ made
        cases made
      · intro _ _ _ made
        cases made
      · intro _ _ _ made
        cases made
  | succ fuel ih => exact ⟨ih.value_succ, ih.items_succ, ih.members_succ⟩

theorem unsigned?_first {negative : Bool} {text : List Char} {found : Number × List Char}
    (read : unsigned? negative text = some found) :
    ∃ letter others, text = letter :: others ∧ isDigit letter = true := by
  cases text with
  | nil => cases read
  | cons letter others =>
      refine ⟨letter, others, rfl, ?_⟩
      by_contra other
      unfold unsigned? at read
      split at read
      · next same =>
        obtain ⟨rfl, -⟩ := List.cons.inj same
        exact other rfl
      · rw [splitDigits, List.takeWhile_cons_of_neg other] at read
        cases read

theorem number?_first {text : List Char} {found : Number × List Char} (read : number? text = some found) :
    ∃ letter others, text = letter :: others ∧ startsNumber letter = true := by
  have ofDigit {negative : Bool} {text : List Char} (read : unsigned? negative text = some found) :
      ∃ letter others, text = letter :: others ∧ startsNumber letter = true := by
    obtain ⟨letter, others, is, digit⟩ := unsigned?_first read
    exact ⟨letter, others, is, by simp [startsNumber, digit]⟩
  unfold number? at read
  split at read
  · exact ⟨'-', _, rfl, by decide⟩
  · exact ⟨'I', _, rfl, by decide⟩
  · exact ⟨'N', _, rfl, by decide⟩
  · exact ⟨'-', _, rfl, by decide⟩
  · exact ofDigit read

def startsValue (letter : Char) : Bool :=
  startsNumber letter || ['"', '\x7b', '[', 'n', 't', 'f'].contains letter

theorem value_first {fuel : Nat} {text : List Char} {found : Json × List Char}
    (read : value fuel text = .ok found) :
    ∃ letter others, text = letter :: others ∧ startsValue letter = true := by
  cases fuel with
  | zero => cases read
  | succ fuel =>
      unfold value at read
      split at read
      · exact ⟨'"', _, rfl, by decide⟩
      · exact ⟨'\x7b', _, rfl, by decide⟩
      · exact ⟨'[', _, rfl, by decide⟩
      · exact ⟨'n', _, rfl, by decide⟩
      · exact ⟨'t', _, rfl, by decide⟩
      · exact ⟨'f', _, rfl, by decide⟩
      · split at read
        · next number =>
          obtain ⟨letter, others, is, starts⟩ := number?_first number
          exact ⟨letter, others, is, by simp [startsValue, starts]⟩
        · cases read

theorem not_blank_of_startsValue {letter : Char} (starts : startsValue letter = true) :
    Text.isBlank letter.toNat = false := by
  have visible : 33 ≤ letter.toNat ∧ letter.toNat ≤ 126 := by
    simp only [startsValue, startsNumber, isDigit, List.contains_cons, List.contains_nil,
      Bool.or_false, Bool.or_eq_true, Bool.and_eq_true, decide_eq_true_eq, beq_iff_eq] at starts
    rcases starts with (((digit | rfl) | rfl) | rfl) | rfl | rfl | rfl | rfl | rfl | rfl
    · exact ⟨Nat.le_trans (by decide) (Char.le_def.mp digit.1),
        Nat.le_trans (Char.le_def.mp digit.2) (by decide)⟩
    all_goals decide
  simp only [Text.isBlank, Text.inRanges, Text.blankRanges, List.any_eq_false, List.mem_cons,
    List.not_mem_nil, or_false, Bool.and_eq_true, decide_eq_true_eq]
  rintro range (rfl | rfl | rfl | rfl | rfl | rfl | rfl | rfl | rfl | rfl) <;> dsimp only <;> omega

theorem document_eq_ok {text : List Char} {read : Json} (made : document text = .ok read) :
    ∃ rest, value (2 * text.length + 2) (skipBlanks text) = .ok (read, rest) := by
  unfold document at made
  split at made
  · cases made
  · obtain ⟨⟨found, rest⟩, head, made⟩ := bind_eq_ok.mp made
    dsimp only at made
    split at made
    · cases made
      exact ⟨rest, head⟩
    · cases made

end Reader

namespace Json

variable {text : String} {read : Json}

theorem parse_eq_ok (made : parse text = .ok read) : Reader.document text.toList = .ok read := by
  unfold parse at made
  split at made
  · next found => rw [found, Except.ok.inj made]
  · cases made

theorem noRepeats_of_parse (made : parse text = .ok read) : read.noRepeats = true := by
  obtain ⟨rest, found⟩ := Reader.document_eq_ok (parse_eq_ok made)
  exact (Reader.readsClean _).value found

theorem not_blank_of_parse (made : parse text = .ok read) :
    text.toList.all (fun letter => Text.isBlank letter.toNat) = false := by
  obtain ⟨rest, found⟩ := Reader.document_eq_ok (parse_eq_ok made)
  obtain ⟨letter, others, is, starts⟩ := Reader.value_first found
  have inside : letter ∈ text.toList := by
    apply (List.dropWhile_suffix Reader.isBlank).subset
    change letter ∈ Reader.skipBlanks text.toList
    rw [is]
    exact List.mem_cons_self ..
  rw [List.all_eq_false]
  exact ⟨letter, inside, by simp [Reader.not_blank_of_startsValue starts]⟩

end Json

end SchemaMerge
