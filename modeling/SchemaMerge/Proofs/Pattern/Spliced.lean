import SchemaMerge.Proofs.Pattern.Choice

/-!
A text that is read as a choice between branches is read as the same choice inside a look ahead, and
behind any characters as one whose first branch begins with those.
-/

namespace SchemaMerge.Pattern

open Parse

/-- Nothing that a plain pattern has not has been met, and a text is ahead. -/
structure Progress.Faces (text : List Char) (progress : Progress) : Prop where
  plain : progress.IsPlain false
  ahead : ∃ place, Cursor.ahead place text = .ok progress.cursor

namespace Progress.Faces

variable {start : Progress} {letter : Char} {text : List Char}

theorem next (faces : start.Faces (letter :: text)) (ordinary : letter ≠ '\\') :
    start.cursor.next = some (.plain letter) := by
  obtain ⟨place, ahead⟩ := faces.ahead
  rw [Cursor.ahead_plain ordinary] at ahead
  exact congrArg Cursor.next (Except.ok.inj ahead).symm

theorem ended (faces : start.Faces []) : start.cursor.next = none := by
  obtain ⟨place, ahead⟩ := faces.ahead
  exact congrArg Cursor.next (Except.ok.inj ahead).symm

theorem exists_ahead (opens : text ≠ ['\\']) (place : Nat) : ∃ cursor, Cursor.ahead place text = .ok cursor := by
  unfold Cursor.ahead
  split
  · exact ⟨_, rfl⟩
  · exact absurd rfl opens
  · exact ⟨_, rfl⟩
  · exact ⟨_, rfl⟩

theorem advance (faces : start.Faces (letter :: text)) (ordinary : letter ≠ '\\') (opens : text ≠ ['\\']) :
    ∃ stop, stop.Faces text ∧
      ∀ {α : Type} (rest : Unit → Parse α), (Parse.advance >>= rest).run start = (rest ()).run stop := by
  obtain ⟨place, ahead⟩ := faces.ahead
  rw [Cursor.ahead_plain ordinary] at ahead
  have here : start.cursor = _ := (Except.ok.inj ahead).symm
  obtain ⟨cursor, ahead⟩ := exists_ahead opens (place + 1)
  have moved : start.cursor.advance = .ok cursor := by
    rw [here]
    exact ahead
  exact ⟨{ start with cursor := cursor }, ⟨{ faces.plain with unended := nofun }, _, ahead⟩,
    fun rest => run_advance_bind moved⟩

theorem accept (faces : start.Faces (letter :: text)) (ordinary : letter ≠ '\\') (opens : text ≠ ['\\']) :
    ∃ stop, stop.Faces text ∧
      ∀ {α : Type} (rest : Bool → Parse α), (Parse.accept letter >>= rest).run start = (rest true).run stop := by
  obtain ⟨stop, reached, runs⟩ := faces.advance ordinary opens
  refine ⟨stop, reached, fun rest => ?_⟩
  rw [accept_bind, run_peek, if_pos (faces.next ordinary)]
  exact runs fun _ => rest true

theorem take (faces : start.Faces (letter :: text)) (ordinary : letter ≠ '\\') (opens : text ≠ ['\\']) :
    ∃ stop, stop.Faces text ∧ ∀ {α : Type} (rest : Option Token → Parse α),
      (Parse.take >>= rest).run start = (rest (some (.plain letter))).run stop := by
  obtain ⟨stop, reached, runs⟩ := faces.advance ordinary opens
  refine ⟨stop, reached, fun rest => ?_⟩
  rw [take_bind, run_peek, faces.next ordinary]
  exact runs fun _ => rest (some (.plain letter))

end Progress.Faces

/-- A text in front of a closing parenthesis is read as a choice between branches. -/
def ReadsAs (text : List Char) (choice : List (List Node)) : Prop :=
  ∀ ⦃more fuel start⦄, start.Faces (text ++ ')' :: more) → 6 * (text.length + more.length + 1) + 3 ≤ fuel →
    ∃ stop, (branches fuel false true false).run start = .ok (choice, stop) ∧ stop.Faces (')' :: more)

theorem Cursor.Mirrors.of_ended {more : List Char} {cursor whole : Cursor} (mirrors : cursor.Mirrors more whole)
    (ended : cursor.next = none) : ∃ place, Cursor.ahead place (')' :: more) = .ok whole := by
  cases mirrors with
  | within token rest place place' => cases ended
  | behind place place' => exact ⟨place', Cursor.ahead_plain (by decide) more⟩

namespace IsChoice

variable {text more : List Char} {choice : List (List Node)}

theorem reads_behind (is : IsChoice text choice) (base : List Node) {fuel others : Nat} {start : Progress}
    (faces : start.Faces (text ++ ')' :: more)) (enough : 6 * (text.length + more.length + 1) + 1 ≤ fuel)
    (further : fuel ≤ others) :
    ∃ stop, (branchesBehind fuel others false false base).run start =
        .ok (prefixed (base.reverse.flatMap Node.spliced) choice, stop) ∧ stop.Faces (')' :: more) := by
  obtain ⟨cursor, stop, runs⟩ := is.runs
  obtain ⟨place, ahead⟩ := faces.ahead
  obtain ⟨cursor', ahead', mirrors⟩ := Cursor.ahead_mirrors runs.starts place
  obtain rfl := Except.ok.inj (ahead'.symm.trans ahead)
  have within := runs.left
  have follows : Follows more false ⟨cursor, [], [], [], none, []⟩
      (branches (6 * text.length + 10) false false true) (branchesBehind fuel others false false base)
      (prefixed (base.reverse.flatMap Node.spliced)) fun made => ∀ branch ∈ made, AreGroupless branch :=
    (reads _).branches (by dsimp only; omega) (by dsimp only; omega) further fun _ => rfl
  obtain ⟨reached, ran, mirrors⟩ := follows.ends runs.ran runs.plain ⟨mirrors, faces.plain⟩
  exact ⟨reached, ran, mirrors.plain, mirrors.cursor.of_ended runs.ended⟩

theorem readsAs (is : IsChoice text choice) : ReadsAs text choice := by
  intro more fuel start faces enough
  obtain ⟨fuel, rfl⟩ : ∃ fewer, fuel = fewer + 1 := ⟨fuel - 1, by omega⟩
  rw [branches_eq, ← prefixed_nil choice]
  exact is.reads_behind [] faces (by omega) (Nat.le_refl _)

end IsChoice

def anything : Node := .iterate .greedy 0 none (.one .any)

def Cursor.AtGreedSign (cursor : Cursor) : Prop :=
  cursor.next = some (.plain '?') ∨ cursor.next = some (.plain '+')

section sequence

variable {start : Progress} {text : List Char} (fuel : Nat) (first : Bool) (items : List Node)

theorem run_sequence_end (ended : start.cursor.next = none) :
    (sequence (fuel + 1) false first items).run start = .ok (items.reverse.flatMap Node.spliced, start) := by
  rw [Parse.sequence, run_peek, ended]
  rfl

theorem run_sequence_any (faces : start.Faces ('.' :: text)) (opens : text ≠ ['\\']) :
    ∃ stop, stop.Faces text ∧ (sequence (fuel + 1) false first items).run start =
      (sequence fuel false first (.one .any :: items)).run stop := by
  obtain ⟨stop, reached, runs⟩ := faces.advance (by decide) opens
  refine ⟨stop, reached, ?_⟩
  rw [Parse.sequence, run_peek, faces.next (by decide)]
  exact runs _

theorem run_sequence_lineStart (faces : start.Faces ('^' :: text)) (opens : text ≠ ['\\']) :
    ∃ stop, stop.Faces text ∧ (sequence (fuel + 1) false first items).run start =
      (sequence fuel false first (.anchor .lineStart :: items)).run stop := by
  obtain ⟨stop, reached, runs⟩ := faces.advance (by decide) opens
  refine ⟨stop, reached, ?_⟩
  rw [Parse.sequence, run_peek, faces.next (by decide)]
  exact runs _

theorem run_greedSign (other : ¬start.cursor.AtGreedSign) : greedSign.run start = .ok (.greedy, start) := by
  obtain ⟨lazy, possessive⟩ := not_or.mp other
  unfold greedSign
  rw [accept_bind, run_peek, if_neg lazy, if_neg Bool.false_ne_true, accept_bind, run_peek, if_neg possessive]
  rfl

theorem run_sequence_repeat (faces : start.Faces ('*' :: text)) (opens : text ≠ ['\\'])
    (other : ∀ stop, Progress.Faces text stop → ¬stop.cursor.AtGreedSign) :
    ∃ stop, stop.Faces text ∧ (sequence (fuel + 1) false first (.one .any :: items)).run start =
      (sequence fuel false first (anything :: items)).run stop := by
  obtain ⟨stop, reached, runs⟩ := faces.advance (by decide) opens
  have repeats : (repetition '*' (.one .any :: items)).run stop = .ok (anything :: items, stop) := by
    unfold repetition
    rw [run_position]
    change (greedSign >>= fun greed => pure (.iterate greed 0 none (.one .any) :: items)).run stop = _
    rw [StateT.run_bind, run_greedSign (other stop reached)]
    rfl
  refine ⟨stop, reached, ?_⟩
  rw [Parse.sequence, run_peek, faces.next (by decide)]
  refine (runs _).trans ?_
  change (repetition '*' (.one .any :: items) >>= sequence fuel false first).run stop = _
  rw [StateT.run_bind, repeats]
  rfl

variable {fuel first} in
theorem fails_sequence (sign : start.cursor.AtGreedSign) : Fails start (sequence (fuel + 1) false first []) := by
  have fails {start : Progress} {letter : Char} (is : letter = '?' ∨ letter = '+') :
      Fails start (repetition letter []) := by
    intro made stop ran
    unfold repetition at ran
    rw [run_position] at ran
    obtain rfl | rfl := is <;> exact fails_failAt _ _ ran
  intro made stop ran
  rw [Parse.sequence, run_peek] at ran
  cases moved : start.cursor.advance with
  | error fault => obtain next | next := sign <;> rw [next] at ran <;> exact (fails_advance moved).bind ran
  | ok cursor =>
      obtain next | next := sign <;> rw [next] at ran
      · exact (fails (.inl rfl)).bind ((run_advance_bind moved).symm.trans ran)
      · exact (fails (.inr rfl)).bind ((run_advance_bind moved).symm.trans ran)

end sequence

/-- A pattern does not begin with a sign that repeats what stands in front of it. -/
theorem IsChoice.opens {text more : List Char} {choice : List (List Node)} (is : IsChoice text choice)
    (start : Progress) (faces : start.Faces (text ++ ')' :: more)) : ¬start.cursor.AtGreedSign := by
  obtain ⟨cursor, stop, runs⟩ := is.runs
  obtain ⟨place, ahead⟩ := faces.ahead
  obtain ⟨cursor', ahead', mirrors⟩ := Cursor.ahead_mirrors runs.starts place
  obtain rfl := Except.ok.inj (ahead'.symm.trans ahead)
  intro sign
  have sign : cursor.AtGreedSign := by
    unfold Cursor.AtGreedSign at sign ⊢
    cases next : cursor.next with
    | some token => rwa [mirrors.next next] at sign
    | none =>
        rw [mirrors.ended next] at sign
        simp at sign
  have ran := runs.ran
  rw [branches] at ran
  exact (fails_sequence sign).bind ran

theorem append_ne_backslash (text more : List Char) : text ++ ')' :: more ≠ ['\\'] := by
  cases text <;> simp

theorem IsChoice.readsAs_anywhere {text : List Char} {choice : List (List Node)} (is : IsChoice text choice) :
    ReadsAs ('.' :: '*' :: text) (prefixed [anything] choice) := by
  intro more fuel start faces enough
  simp only [List.length_cons] at enough
  obtain ⟨fuel, rfl⟩ : ∃ fewer, fuel = fewer + 3 := ⟨fuel - 3, by omega⟩
  obtain ⟨middle, faces, any⟩ := run_sequence_any (fuel + 1) false [] faces (by simp)
  obtain ⟨stop, faces, repeated⟩ := run_sequence_repeat fuel false [] faces
    (append_ne_backslash text more) is.opens
  have runs : (branches (fuel + 3) false true false).run start =
      (branchesBehind fuel (fuel + 2) false false [anything]).run stop := by
    rw [branches_eq]
    unfold branchesBehind
    rw [StateT.run_bind, StateT.run_bind, any, repeated]
  rw [runs]
  exact is.reads_behind [anything] faces (by omega) (by omega)

def looking (text more : List Char) : List Char := '(' :: '?' :: '=' :: (text ++ ')' :: more)

def Node.lookFor (choice : List (List Node)) : Node := .look false false (.ofBranches choice)

section looking

variable {text more : List Char} {choice : List (List Node)} {start : Progress} (fuel : Nat)

theorem run_enclosed (reads : ReadsAs text choice) (faces : start.Faces (text ++ ')' :: more))
    (opens : more ≠ ['\\']) (enough : 6 * (text.length + more.length + 1) + 3 ≤ fuel) (place : Nat) :
    ∃ stop, stop.Faces more ∧
      (enclosed (fuel + 1) false place).run start = .ok (Node.ofBranches choice, stop) := by
  obtain ⟨middle, ran, faces⟩ := reads faces enough
  obtain ⟨stop, faces, closes⟩ := faces.accept (by decide) opens
  refine ⟨stop, faces, ?_⟩
  rw [enclosed, StateT.run_bind, ran]
  have closed : (closeParenthesis place).run middle = .ok ((), stop) := closes _
  change (closeParenthesis place >>= fun _ => pure (Node.ofBranches choice)).run middle = _
  rw [StateT.run_bind, closed]
  rfl

theorem run_sequence_looking (reads : ReadsAs text choice) (faces : start.Faces (looking text more))
    (opens : more ≠ ['\\']) (enough : 6 * (text.length + more.length + 1) + 3 ≤ fuel) (first : Bool)
    (items : List Node) :
    ∃ stop, stop.Faces more ∧ (sequence (fuel + 3) false first items).run start =
      (sequence (fuel + 2) false first (.lookFor choice :: items)).run stop := by
  obtain ⟨opened, faces', runs⟩ := faces.advance (by decide) (by simp)
  obtain ⟨asked, faces'', runs'⟩ := faces'.accept (by decide) (by simp)
  obtain ⟨looked, faces''', runs''⟩ := faces''.take (by decide) (append_ne_backslash text more)
  obtain ⟨stop, faces'''', encloses⟩ := run_enclosed fuel reads faces''' opens enough (opened.cursor.position - 1)
  refine ⟨stop, faces'''', ?_⟩
  have parenthesized : (parenthesis (fuel + 2) false (opened.cursor.position - 1)).run opened =
      .ok (.item (.lookFor choice), stop) := by
    rw [parenthesis]
    refine (runs' _).trans ((runs'' _).trans ?_)
    change (enclosed (fuel + 1) false (opened.cursor.position - 1) >>= fun node =>
      pure (Opening.item (.look false false node))).run looked = _
    rw [StateT.run_bind, encloses]
    rfl
  rw [Parse.sequence, run_peek, faces.next (by decide)]
  refine (runs _).trans (run_position.trans ?_)
  rw [StateT.run_bind, parenthesized]
  rfl

end looking

theorem check_both (first second : Node) :
    (check false first >>= fun _ => check false second) = .ok () ↔
      check false first = .ok () ∧ check false second = .ok () := by
  rw [bind_eq_ok]
  exact ⟨fun ⟨(), checked, checked'⟩ => ⟨checked, checked'⟩, fun ⟨checked, checked'⟩ => ⟨(), checked, checked'⟩⟩

theorem inherited_check : Node.Inherited (check false · = .ok ()) where
  empty := rfl
  one := fun _ => rfl
  anchor := fun _ => rfl
  backreference := fun _ _ => rfl
  seq := fun first second => check_both first second
  alt := fun first second => check_both first second

theorem run_branches_end {fuel : Nat} {first : Bool} {branch : List Node} {start stop : Progress}
    (ran : (sequence fuel false first []).run start = .ok (branch, stop)) (ended : stop.cursor.next = none) :
    (branches (fuel + 1) false false first).run start = .ok ([branch], stop) := by
  rw [branches]
  refine run_bind_eq_ok.mpr ⟨branch, stop, ran, ?_⟩
  rw [accept_bind, run_peek, ended]
  rfl

theorem isFinal_of_plain {made : List (List Node)} {progress : Progress} (plain : progress.IsPlain false)
    (ended : progress.cursor.next = none) (checked : check false (.ofBranches made) = .ok ()) :
    IsFinal made progress where
  alphabet := by rw [plain.flags]; rfl
  ended := ended
  answered := List.find?_eq_none.mpr fun asked inside => by simp [plain.asked asked inside]
  checked := by rwa [plain.flags]

section both

variable {first second : List Char} {choice other : List (List Node)} {start : Progress} {fuel : Nat}

def lookForBoth (choice other : List (List Node)) : List Node :=
  [.anchor .lineStart, .lookFor choice, .lookFor other]

theorem run_sequence_both (reads : ReadsAs first choice) (reads' : ReadsAs second other)
    (faces : start.Faces ('^' :: looking first (looking second [])))
    (enough : 6 * (first.length + second.length + 6) + 3 ≤ fuel) :
    ∃ stop, stop.Faces [] ∧
      (sequence (fuel + 5) false true []).run start = .ok (lookForBoth choice other, stop) := by
  obtain ⟨opened, faces, ran⟩ := run_sequence_lineStart (fuel + 4) true [] faces (by simp [looking])
  obtain ⟨middle, faces, ran'⟩ := run_sequence_looking (fuel + 1) reads faces (by simp [looking])
    (by simp [looking]; omega) true [.anchor .lineStart]
  obtain ⟨stop, faces, ran''⟩ := run_sequence_looking fuel reads' faces (by simp) (by simp; omega) true
    [.lookFor choice, .anchor .lineStart]
  exact ⟨stop, faces, ran.trans (ran'.trans (ran''.trans (run_sequence_end _ _ _ faces.ended)))⟩

theorem ofText_looking (reads : ReadsAs first choice) (reads' : ReadsAs second other)
    (checked : check false (.ofBranches choice) = .ok ()) (checked' : check false (.ofBranches other) = .ok ()) :
    ofText ('^' :: looking first (looking second [])) = .ok ⟨[], .ofList (lookForBoth choice other)⟩ := by
  have long : ('^' :: looking first (looking second [])).length = first.length + second.length + 9 := by
    simp only [looking, List.length_cons, List.length_append, List.length_nil]
    omega
  obtain ⟨cursor, starts⟩ : ∃ cursor, Cursor.start ('^' :: looking first (looking second [])) = .ok cursor :=
    ⟨_, Cursor.ahead_plain (by decide) _⟩
  have faces : Progress.Faces ('^' :: looking first (looking second [])) ⟨cursor, [], [], [], none, []⟩ :=
    ⟨⟨rfl, rfl, rfl, nofun, nofun⟩, 0, starts⟩
  -- the nine signs around the two texts leave more fuel than the looks need
  have enough : 6 * (first.length + second.length + 6) + 3 ≤ 6 * (first.length + second.length) + 58 := by omega
  obtain ⟨stop, faces, ran⟩ := run_sequence_both reads reads' faces enough
  have whole : whole ('^' :: looking first (looking second [])) = .ok ([lookForBoth choice other], stop) := by
    refine bind_eq_ok.mpr ⟨cursor, starts, ?_⟩
    rw [long, show 6 * (first.length + second.length + 9) + 10 =
      6 * (first.length + second.length) + 58 + 5 + 1 by omega]
    exact run_branches_end ran faces.ended
  refine ofText_eq_ok.mpr ⟨_, stop, whole, isFinal_of_plain faces.plain faces.ended ?_, ?_⟩
  · exact inherited_check.ofBranches_iff.mpr fun branch inside => by
      obtain rfl := List.mem_singleton.mp inside
      simpa [lookForBoth, check] using ⟨checked, checked'⟩
  · rw [faces.plain.flags]
    rfl

end both

end SchemaMerge.Pattern
