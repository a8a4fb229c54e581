import SchemaMerge.Proofs.Pattern.Enclosed

namespace SchemaMerge.Pattern

open Parse

def Parse.whole (text : List Char) : Except Fault (List (List Node) × Progress) := do
  let cursor ← Cursor.start text
  (branches (6 * text.length + 10) false false true).run ⟨cursor, [], [], [], none, []⟩

structure Parse.IsFinal (branches : List (List Node)) (progress : Progress) : Prop where
  alphabet : (progress.flags.contains .ascii && progress.flags.contains .unicode) = false
  ended : progress.cursor.next = none
  answered : progress.asked.find? (fun asked => progress.groups.length < asked.1) = none
  checked : check (progress.flags.contains .template) (Node.ofBranches branches) = .ok ()

def Parse.finish (branches : List (List Node)) (progress : Progress) : Except Fault Pattern := do
  let node := Node.ofBranches branches
  let flags := progress.flags
  if flags.contains .ascii && flags.contains .unicode then throw ⟨.mixedAlphabets, none⟩
  if progress.cursor.next.isSome then throw ⟨.unbalanced, some progress.cursor.position⟩
  match progress.asked.find? (fun asked => progress.groups.length < asked.1) with
  | some (index, place) => throw ⟨.invalidReference index, some place⟩
  | none => pure ()
  check (flags.contains .template) node
  return ⟨flags, node⟩

theorem ofText_eq (text : List Char) :
    ofText text = whole text >>= fun (branches, progress) => finish branches progress := by
  unfold ofText whole
  rw [bind_assoc]
  rfl

theorem finish_eq_ok {branches : List (List Node)} {progress : Progress} {pattern : Pattern} :
    finish branches progress = .ok pattern ↔
      IsFinal branches progress ∧ pattern = ⟨progress.flags, Node.ofBranches branches⟩ := by
  unfold finish
  refine ⟨fun made => ?_, ?_⟩
  · dsimp only at made
    split at made
    · cases made
    · next alphabet =>
      split at made
      · cases made
      · next ended =>
        split at made
        · cases made
        · next answered =>
          obtain ⟨_, checked, made⟩ := bind_eq_ok.mp made
          refine ⟨⟨by simpa using alphabet, by simpa using ended, answered, checked⟩, ?_⟩
          exact (Except.ok.inj made).symm
  · rintro ⟨⟨alphabet, ended, answered, checked⟩, rfl⟩
    simp only [alphabet, ended, answered, checked]
    rfl

theorem ofText_eq_ok {text : List Char} {pattern : Pattern} :
    ofText text = .ok pattern ↔ ∃ branches progress, whole text = .ok (branches, progress) ∧
      IsFinal branches progress ∧ pattern = ⟨progress.flags, Node.ofBranches branches⟩ := by
  rw [ofText_eq, bind_eq_ok]
  refine ⟨?_, ?_⟩
  · rintro ⟨⟨branches, progress⟩, read, made⟩
    exact ⟨branches, progress, read, finish_eq_ok.mp made⟩
  · rintro ⟨branches, progress, read, final⟩
    exact ⟨(branches, progress), read, finish_eq_ok.mpr final⟩

/-- A text that is read as a choice between branches, without a group and without flags for the whole. -/
structure IsChoice (text : List Char) (branches : List (List Node)) : Prop where
  compiles : ofText text = .ok ⟨[], Node.ofBranches branches⟩
  read : (whole text).map (fun (branches, progress) => (branches, progress.groups)) = .ok (branches, [])

namespace IsChoice

variable {text : List Char} {choice : List (List Node)}

/-- A cursor at the start, and where the reader comes to from there. -/
structure Runs (text : List Char) (choice : List (List Node)) (cursor : Cursor) (stop : Progress) : Prop where
  starts : Cursor.start text = .ok cursor
  ran : (branches (6 * text.length + 10) false false true).run ⟨cursor, [], [], [], none, []⟩ = .ok (choice, stop)
  plain : stop.IsPlain false
  ended : stop.cursor.next = none

theorem Runs.left {cursor : Cursor} {stop : Progress} (runs : Runs text choice cursor stop) :
    cursor.left ≤ text.length := Cursor.ahead_left runs.starts

theorem runs (is : IsChoice text choice) : ∃ cursor stop, Runs text choice cursor stop := by
  obtain ⟨branches, progress, read, final, same⟩ := ofText_eq_ok.mp is.compiles
  have only := is.read
  rw [read] at only
  obtain ⟨rfl, groups⟩ : branches = choice ∧ progress.groups = [] := Prod.mk.inj (Except.ok.inj only)
  obtain ⟨cursor, starts, ran⟩ := bind_eq_ok.mp read
  have within : cursor.left ≤ text.length := Cursor.ahead_left starts
  have grown := (reads _).growsBranches (by dsimp only; omega) ran
  -- names are given to groups only, so without groups there are none
  have named := grown.named (Nat.le_refl _)
  rw [groups] at named
  refine ⟨cursor, progress, starts, ran, ?_, final.ended⟩
  refine ⟨(congrArg Pattern.flags same).symm, groups, List.eq_nil_of_length_eq_zero (Nat.le_zero.mp named), ?_, nofun⟩
  intro asked inside
  have answered := List.find?_eq_none.mp final.answered asked inside
  simpa [groups] using answered

theorem checked (is : IsChoice text choice) : check false (Node.ofBranches choice) = .ok () := by
  obtain ⟨branches, progress, read, final, same⟩ := ofText_eq_ok.mp is.compiles
  have flags : progress.flags = [] := (congrArg Pattern.flags same).symm
  have node : Node.ofBranches choice = Node.ofBranches branches := congrArg Pattern.node same
  rw [node]
  have checked := final.checked
  rwa [flags] at checked

theorem groupless (is : IsChoice text choice) : ∀ branch ∈ choice, AreGroupless branch := by
  obtain ⟨cursor, stop, runs⟩ := is.runs
  have within := runs.left
  have follows : Follows [] false ⟨cursor, [], [], [], none, []⟩
      (branches (6 * text.length + 10) false false true)
      (branches (6 * (cursor.left + 0 + 1) + 2) false true true) (fun made => made)
      fun made => ∀ branch ∈ made, AreGroupless branch :=
    (reads _).branches_enclosed (by dsimp only; omega) (Nat.le_refl _) fun _ => rfl
  exact follows.good runs.ran runs.plain

theorem run_branches {fuel : Nat} {verbose early : Bool} {start stop : Progress}
    (enough : 6 * start.cursor.left + 1 ≤ fuel)
    (ran : (branches (fuel + 1) verbose false early).run start = .ok (choice, stop)) :
    ∃ branch others middle, choice = branch :: others ∧
      (sequence fuel verbose early []).run start = .ok (branch, middle) ∧ middle.Grows stop := by
  rw [branches] at ran
  obtain ⟨branch, middle, first, ran⟩ := run_bind_eq_ok.mp ran
  have within := ((reads fuel).grows_sequence enough (fun _ => List.forall_mem_nil _) first).left
  rw [accept_bind, run_peek] at ran
  split at ran
  · next present =>
      cases moved : middle.cursor.advance with
      | error fault => exact ((fails_advance moved).bind ran).elim
      | ok cursor =>
          rw [run_advance_bind moved] at ran
          have grown := grows_advanced present moved
          have less := Cursor.advance_left present moved
          obtain ⟨verbose, turned, read, ran⟩ := run_bind_eq_ok.mp ran
          have grown' := grows_isVerbose read
          have within' := grown'.left
          obtain ⟨others, stop', read', ran⟩ := run_bind_eq_ok.mp ran
          cases ran
          refine ⟨branch, others, middle, rfl, first, grown.trans (grown'.trans ?_)⟩
          exact (reads fuel).growsBranches (by dsimp only at within' less; omega) read'
  · cases ran
    exact ⟨branch, [], stop, rfl, first, .refl stop⟩

theorem ne_nil (is : IsChoice text choice) : choice ≠ [] := by
  obtain ⟨cursor, stop, runs⟩ := is.runs
  have within := runs.left
  obtain ⟨branch, others, middle, rfl, -⟩ := run_branches (by dsimp only; omega) runs.ran
  exact List.cons_ne_nil _ _

theorem head_of_lineStart (is : IsChoice ('^' :: text) choice) :
    ∃ branch others, choice = (.anchor .lineStart :: branch) :: others := by
  obtain ⟨cursor, stop, runs⟩ := is.runs
  have starts := runs.starts
  rw [Cursor.start, Cursor.ahead_plain (by decide)] at starts
  have within := runs.left
  obtain ⟨branch, others, middle, rfl, ran, grown⟩ := run_branches (by dsimp only; omega) runs.ran
  have plain := grown.isPlain runs.plain
  cases starts
  rw [Parse.sequence, run_peek] at ran
  cases moved : Cursor.advance ⟨some (.plain '^'), text, 0⟩ with
  | error fault => exact ((fails_advance moved).bind ran).elim
  | ok cursor =>
      have ran := (run_advance_bind moved).symm.trans ran
      have less : cursor.left ≤ text.length := Cursor.ahead_left moved
      have follows : Follows [] false ⟨cursor, [], [], [], none, []⟩
          (sequence (6 * ('^' :: text).length + 8) false true [.anchor .lineStart])
          (sequence (6 * (cursor.left + 0 + 1) + 1) false true ([.anchor .lineStart] ++ []))
          ([].reverse.flatMap Node.spliced ++ ·) (IsBranch [.anchor .lineStart]) :=
        (reads _).sequence (by simp only [List.length_cons]; omega) (Nat.le_refl _)
          fun _ => List.forall_mem_singleton.mpr rfl
      obtain ⟨-, first⟩ := follows.good ran plain
      obtain ⟨rest, rfl⟩ := List.head?_eq_some_iff.mp (first .lineStart rfl)
      exact ⟨rest, others, rfl⟩

end IsChoice

end SchemaMerge.Pattern
