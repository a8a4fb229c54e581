import SchemaMerge.Schema.Keyword
import SchemaMerge.Proofs.Pattern.Search

/-!
The combination of two patterns compiles, and what it finds. The part of a look ahead that skips a
prefix goes with the first branch of a pattern only, because the pattern stands there without a
group of its own.
-/

namespace SchemaMerge.Schema

open Pattern Parse

variable {text other : String} {choice choice' : List (List Node)} {subject : List Char}

/-- The first branch matches somewhere, or another one at the start. -/
def Sought : List (List Node) → List Char → Prop
  | [], _ => False
  | first :: others, subject => Occurs first subject ∨ ∃ branch ∈ others, Begins branch subject

theorem Sought.occurs (sought : Sought choice subject) : ∃ branch ∈ choice, Occurs branch subject := by
  cases choice with
  | nil => exact sought.elim
  | cons first others =>
      obtain occurs | ⟨branch, inside, begins⟩ := sought
      · exact ⟨first, List.mem_cons_self, occurs⟩
      · exact ⟨branch, List.mem_cons_of_mem first inside, begins.occurs⟩

def AreAnchored (choice : List (List Node)) : Prop :=
  ∀ branch ∈ choice.tail, branch.head? = some (.anchor .lineStart)

theorem begins_of_occurs {branch : List Node} (starts : branch.head? = some (.anchor .lineStart))
    (occurs : Occurs branch subject) : Begins branch subject := by
  obtain ⟨branch, rfl⟩ := List.head?_eq_some_iff.mp starts
  obtain ⟨passed, left, rfl, fits⟩ := occurs
  have start : passed = [] := by
    by_contra passed
    unfold Fits at fits
    rw [Node.run_ofList_cons, Node.run, if_neg (by simpa [Spot.holds, Mode.plain] using passed)] at fits
    cases fits
  rw [start] at fits ⊢
  exact fits

theorem sought_of_occurs (starts : AreAnchored choice) (occurs : ∃ branch ∈ choice, Occurs branch subject) :
    Sought choice subject := by
  obtain ⟨branch, inside, occurs⟩ := occurs
  cases choice with
  | nil => cases inside
  | cons first others =>
      obtain rfl | inside := List.mem_cons.mp inside
      · exact .inl occurs
      · exact .inr ⟨branch, inside, begins_of_occurs (starts branch inside) occurs⟩

def lookedFor (text : String) (choice : List (List Node)) : List (List Node) :=
  if text.toList.head? = some '^' then choice else prefixed [anything] choice

section lookedFor

theorem readsAs_anchored (is : IsChoice text.toList choice) :
    ReadsAs (Keyword.anchored text).toList (lookedFor text choice) := by
  unfold Keyword.anchored lookedFor
  split
  · exact is.readsAs
  · rw [String.toList_append]
    exact is.readsAs_anywhere

theorem lookedFor_ne_nil (is : IsChoice text.toList choice) : lookedFor text choice ≠ [] := by
  unfold lookedFor
  split
  · exact is.ne_nil
  · exact prefixed_ne_nil is.ne_nil

theorem forall_mem_lookedFor {holds : Node → Prop} (starts : holds anything)
    (kept : ∀ branch ∈ choice, ∀ node ∈ branch, holds node) :
    ∀ branch ∈ lookedFor text choice, ∀ node ∈ branch, holds node := by
  unfold lookedFor
  split
  · exact kept
  · exact forall_mem_prefixed (List.forall_mem_singleton.mpr starts) kept

theorem check_lookedFor (is : IsChoice text.toList choice) :
    check false (.ofBranches (lookedFor text choice)) = .ok () :=
  inherited_check.ofBranches_iff.mpr (forall_mem_lookedFor rfl (inherited_check.ofBranches_iff.mp is.checked))

/-- In a line, a look ahead at the start finds what is sought. -/
theorem exists_begins (is : IsChoice text.toList choice) (line : '\n' ∉ subject) :
    (∃ branch ∈ lookedFor text choice, Begins branch subject) ↔ Sought choice subject := by
  unfold lookedFor
  split
  · next starts =>
      obtain ⟨rest, begins⟩ := List.head?_eq_some_iff.mp starts
      rw [begins] at is
      obtain ⟨first, others, rfl⟩ := is.head_of_lineStart
      simp only [List.exists_mem_cons_iff, Sought]
      exact or_congr_left ⟨Begins.occurs, begins_of_occurs rfl⟩
  · cases choice with
    | nil => exact absurd rfl is.ne_nil
    | cons first others =>
        simp only [prefixed, List.exists_mem_cons_iff, Sought]
        exact or_congr_left (begins_anything line)

end lookedFor

theorem pattern_eq (text other : String) : ∃ made, Keyword.pattern (.string text) (.string other) = .ok (.string made) ∧
    made.toList = '^' :: looking (Keyword.anchored text).toList (looking (Keyword.anchored other).toList []) := by
  refine ⟨_, rfl, ?_⟩
  simp [looking, toString, String.toList_append]

/-- Two patterns without groups and flags are combined to a pattern that compiles. In a line, it finds those
texts of which both patterns find the first branch somewhere, or another branch at the start. So it finds
nothing that one of the patterns does not find; and it finds all that both find, if no branch but the first
can match behind the start. -/
theorem pattern_searches (is : IsChoice text.toList choice) (is' : IsChoice other.toList choice') :
    ∃ made joined, Keyword.pattern (.string text) (.string other) = .ok (.string made) ∧
      Pattern.ofText made.toList = .ok joined ∧ ∀ subject, '\n' ∉ subject →
        (joined.occursIn subject = true ↔ Sought choice subject ∧ Sought choice' subject) ∧
        (joined.occursIn subject = true →
          Pattern.occursIn ⟨[], .ofBranches choice⟩ subject = true ∧
            Pattern.occursIn ⟨[], .ofBranches choice'⟩ subject = true) ∧
        (AreAnchored choice → AreAnchored choice' →
          Pattern.occursIn ⟨[], .ofBranches choice⟩ subject = true →
            Pattern.occursIn ⟨[], .ofBranches choice'⟩ subject = true → joined.occursIn subject = true) := by
  obtain ⟨made, makes, writes⟩ := pattern_eq text other
  have compiles := ofText_looking (readsAs_anchored is) (readsAs_anchored is') (check_lookedFor is)
    (check_lookedFor is')
  rw [← writes] at compiles
  refine ⟨made, _, makes, compiles, fun subject line => ?_⟩
  have finds : Pattern.occursIn ⟨[], .ofList (lookForBoth (lookedFor text choice) (lookedFor other choice'))⟩
      subject = true ↔ Sought choice subject ∧ Sought choice' subject := by
    rw [occursIn_lookForBoth (lookedFor_ne_nil is) (lookedFor_ne_nil is')
      (forall_mem_lookedFor rfl is.groupless) (forall_mem_lookedFor rfl is'.groupless),
      exists_begins is line, exists_begins is' line]
  refine ⟨finds, fun found => ?_, fun starts starts' found found' => ?_⟩
  · obtain ⟨sought, sought'⟩ := finds.mp found
    exact ⟨(occursIn_ofBranches is.ne_nil).mpr sought.occurs, (occursIn_ofBranches is'.ne_nil).mpr sought'.occurs⟩
  · exact finds.mpr ⟨sought_of_occurs starts ((occursIn_ofBranches is.ne_nil).mp found),
      sought_of_occurs starts' ((occursIn_ofBranches is'.ne_nil).mp found')⟩

theorem isChoice_circumflex : IsChoice "^a".toList [[.anchor .lineStart, .ofCharacter 'a']] :=
  ⟨by decide +kernel, by decide +kernel⟩

theorem isChoice_dollar : IsChoice "b$".toList [[.ofCharacter 'b', .anchor .lineEnd]] :=
  ⟨by decide +kernel, by decide +kernel⟩

theorem prefix_and_suffix_are_found :
    IsChoice "^a".toList [[.anchor .lineStart, .ofCharacter 'a']] ∧
      IsChoice "b$".toList [[.ofCharacter 'b', .anchor .lineEnd]] ∧
      ∃ made joined, Keyword.pattern (.string "^a") (.string "b$") = .ok (.string made) ∧
        Pattern.ofText made.toList = .ok joined ∧ joined.occursIn "a-b".toList = true := by
  obtain ⟨made, joined, makes, compiles, finds⟩ := pattern_searches isChoice_circumflex isChoice_dollar
  obtain ⟨-, -, found⟩ := finds "a-b".toList (by decide)
  exact ⟨isChoice_circumflex, isChoice_dollar, made, joined, makes, compiles,
    found nofun nofun (by decide +kernel) (by decide +kernel)⟩

/-- A branch behind the first is missed where it does not match at the start. -/
theorem later_branch_is_missed :
    IsChoice "a|b".toList [[.ofCharacter 'a'], [.ofCharacter 'b']] ∧ IsChoice "c".toList [[.ofCharacter 'c']] ∧
      ¬∃ made joined, Keyword.pattern (.string "a|b") (.string "c") = .ok (.string made) ∧
        Pattern.ofText made.toList = .ok joined ∧ ∀ subject, '\n' ∉ subject →
          (joined.occursIn subject = true ↔
            Pattern.occursIn ⟨[], .ofBranches [[.ofCharacter 'a'], [.ofCharacter 'b']]⟩ subject = true ∧
              Pattern.occursIn ⟨[], .ofBranches [[.ofCharacter 'c']]⟩ subject = true) := by
  refine ⟨⟨by decide +kernel, by decide +kernel⟩, ⟨by decide +kernel, by decide +kernel⟩, ?_⟩
  rintro ⟨made, joined, makes, compiles, finds⟩
  have is : "^(?=.*a|b)(?=.*c)" = made := by
    have writes : Keyword.pattern (.string "a|b") (.string "c") = .ok (.string "^(?=.*a|b)(?=.*c)") := rfl
    rw [writes] at makes
    cases makes
    rfl
  have misses : (Pattern.ofText "^(?=.*a|b)(?=.*c)".toList).map (·.occursIn "cb".toList) = .ok false := by
    decide +kernel
  rw [is, compiles] at misses
  have found := (finds "cb".toList (by decide)).mpr ⟨by decide +kernel, by decide +kernel⟩
  exact absurd (found.symm.trans (Except.ok.inj misses)) (by decide)

end SchemaMerge.Schema
