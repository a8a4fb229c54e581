import SchemaMerge.Proofs.Pattern.Branches

namespace SchemaMerge.Pattern

namespace Node

def isGroupless : Node → Bool
  | .empty | .one _ | .anchor _ | .backreference _ _ => true
  | .seq first second | .alt first second | .conditional _ first second =>
    first.isGroupless && second.isGroupless
  | .iterate _ _ _ body | .scoped _ body | .atomic body | .look _ _ body => body.isGroupless
  | .group _ _ => false

theorem inherited_isGroupless : Inherited (isGroupless · = true) where
  empty := rfl
  one := fun _ => rfl
  anchor := fun _ => rfl
  backreference := fun _ _ => rfl
  seq := fun first second => by rw [isGroupless, Bool.and_eq_true]
  alt := fun first second => by rw [isGroupless, Bool.and_eq_true]

end Node

/-- A match of a part has a match of the rest at a spot with the same captures. -/
def Part.Quiet (part : Part) : Prop :=
  ∀ ⦃spot rest stop⦄, part spot rest = some stop → ∃ next, next.captures = spot.captures ∧ rest next = some stop

namespace Part

variable {part part' : Part}

theorem Quiet.seq (quiet : Quiet part) (quiet' : Quiet part') :
    Quiet fun spot rest => part spot fun next => part' next rest := by
  intro spot rest stop made
  obtain ⟨middle, same, made⟩ := quiet made
  obtain ⟨next, same', made⟩ := quiet' made
  exact ⟨next, same'.trans same, made⟩

theorem Quiet.once (quiet : Quiet part) {spot stop : Spot} (made : part.once spot = some stop) :
    stop.captures = spot.captures := by
  obtain ⟨next, same, is⟩ := quiet made
  cases is
  exact same

theorem Quiet.exactly (quiet : Quiet part) (count : Nat) : Quiet (part.exactly count) := by
  induction count with
  | zero => exact fun spot rest stop made => ⟨spot, rfl, made⟩
  | succ count ih => exact quiet.seq ih

theorem Quiet.greedy (quiet : Quiet part) (fuel : Nat) (most last : Option Nat) :
    Quiet (part.greedy fuel most last) := by
  induction fuel generalizing most last with
  | zero => exact fun spot rest stop made => ⟨spot, rfl, made⟩
  | succ fuel ih =>
      intro spot rest stop made
      rw [Part.greedy] at made
      split at made
      · split at made
        · next found =>
            cases made
            exact quiet.seq (ih _ _) found
        · exact ⟨spot, rfl, made⟩
      · exact ⟨spot, rfl, made⟩

theorem Quiet.reluctant (quiet : Quiet part) (fuel : Nat) (most last : Option Nat) :
    Quiet (part.reluctant fuel most last) := by
  induction fuel generalizing most last with
  | zero => exact fun spot rest stop made => ⟨spot, rfl, made⟩
  | succ fuel ih =>
      intro spot rest stop made
      rw [Part.reluctant] at made
      split at made
      · next found =>
          cases made
          exact ⟨spot, rfl, found⟩
      · split at made
        · exact quiet.seq (ih _ _) made
        · cases made

theorem Quiet.possessive (quiet : Quiet part) (fuel : Nat) (most last : Option Nat) (spot : Spot) :
    (part.possessive fuel most last spot).captures = spot.captures := by
  induction fuel generalizing most last spot with
  | zero => rfl
  | succ fuel ih =>
      rw [Part.possessive]
      split
      · split
        · next found => exact (ih _ _ _).trans (quiet.once found)
        · rfl
      · rfl

theorem Quiet.possessiveExactly (quiet : Quiet part) (count : Nat) {spot stop : Spot}
    (made : part.possessiveExactly count spot = some stop) : stop.captures = spot.captures := by
  induction count generalizing spot with
  | zero =>
      cases made
      rfl
  | succ count ih =>
      obtain ⟨middle, found, made⟩ := Option.bind_eq_some_iff.mp made
      exact (ih made).trans (quiet.once found)

theorem Quiet.iterate (quiet : Quiet part) (greed : Greed) (least : Nat) (most : Option Nat) :
    Quiet (part.iterate greed least most) := by
  intro spot rest stop made
  cases greed with
  | greedy =>
      -- how many rounds may follow depends on where those that are due have ended
      obtain ⟨middle, same, made⟩ := quiet.exactly least made
      obtain ⟨next, same', made⟩ := quiet.greedy _ _ _ made
      exact ⟨next, same'.trans same, made⟩
  | lazy =>
      obtain ⟨middle, same, made⟩ := quiet.exactly least made
      obtain ⟨next, same', made⟩ := quiet.reluctant _ _ _ made
      exact ⟨next, same'.trans same, made⟩
  | possessive =>
      obtain ⟨middle, found, made⟩ := Option.bind_eq_some_iff.mp made
      exact ⟨_, (quiet.possessive _ _ _ middle).trans (quiet.possessiveExactly least found), made⟩

theorem captures_back {count : Nat} {spot earlier : Spot} (found : Spot.back? count spot = some earlier) :
    earlier.captures = spot.captures := by
  fun_induction Spot.back? count spot with
  | case1 spot =>
      cases found
      rfl
  | case2 => cases found
  | case3 spot count letter before is ih => exact ih found

theorem Quiet.look (quiet : Quiet part) (behind : Option Nat) (negated : Bool) :
    Quiet (part.look behind negated) := by
  intro spot rest stop made
  unfold Part.look at made
  dsimp only at made
  split at made
  · next inner found =>
      obtain ⟨earlier, back, found⟩ := Option.bind_eq_some_iff.mp found
      have same : earlier.captures = spot.captures := by
        cases behind with
        | none =>
            cases back
            rfl
        | some count => exact captures_back back
      exact ⟨{ spot with captures := inner.captures }, (quiet.once found).trans same, made⟩
  · exact ⟨spot, rfl, made⟩
  · cases made

end Part

theorem captures_step {spot next : Spot} {letter : Char} (found : spot.step? = some (letter, next)) :
    next.captures = spot.captures := by
  unfold Spot.step? at found
  split at found
  · cases found
  · cases found
    rfl

theorem captures_skip {mode : Mode} {letters : List Char} {spot next : Spot}
    (found : Spot.skip? mode letters spot = some next) : next.captures = spot.captures := by
  induction letters generalizing spot with
  | nil =>
      cases found
      rfl
  | cons letter letters ih =>
      rw [Spot.skip?] at found
      split at found
      · cases found
      · next step =>
          split at found
          · exact (ih found).trans (captures_step step)
          · cases found

theorem quiet_run (mode : Mode) {node : Node} (groupless : node.isGroupless = true) :
    Part.Quiet (node.run mode) := by
  induction node generalizing mode with
  | empty => exact fun spot rest stop made => ⟨spot, rfl, made⟩
  | one test =>
      intro spot rest stop made
      rw [Node.run] at made
      split at made
      · next step =>
          split at made
          · exact ⟨_, captures_step step, made⟩
          · cases made
      · cases made
  | anchor kind =>
      intro spot rest stop made
      rw [Node.run] at made
      split at made
      · exact ⟨spot, rfl, made⟩
      · cases made
  | seq first second ih ih' =>
      obtain ⟨clean, clean'⟩ := Bool.and_eq_true_iff.mp groupless
      exact (ih mode clean).seq (ih' mode clean')
  | alt first second ih ih' =>
      obtain ⟨clean, clean'⟩ := Bool.and_eq_true_iff.mp groupless
      intro spot rest stop made
      rw [Node.run] at made
      split at made
      · next found =>
          cases made
          exact ih mode clean found
      · exact ih' mode clean' made
  | iterate greed least most body ih => exact (ih mode groupless).iterate greed least most
  | group index body ih => cases groupless
  | «scoped» change body ih => exact ih (mode.change change) groupless
  | atomic body ih =>
      intro spot rest stop made
      obtain ⟨next, found, made⟩ := Option.bind_eq_some_iff.mp made
      exact ⟨next, (ih mode groupless).once found, made⟩
  | look behind negated body ih => exact (ih mode groupless).look _ _
  | backreference index width =>
      intro spot rest stop made
      rw [Node.run] at made
      split at made
      · obtain ⟨next, found, made⟩ := Option.bind_eq_some_iff.mp made
        exact ⟨next, captures_skip found, made⟩
      · cases made
  | conditional index present absent ih ih' =>
      obtain ⟨clean, clean'⟩ := Bool.and_eq_true_iff.mp groupless
      intro spot rest stop made
      rw [Node.run] at made
      split at made
      · exact ih mode clean made
      · exact ih' mode clean' made

end SchemaMerge.Pattern
