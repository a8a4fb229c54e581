import SchemaMerge.Pattern.Cursor
import SchemaMerge.Proofs.Outcome

/-!
A run of the reader on a text, and the same run where a closing parenthesis and more text stand behind.
What the reader does with a pattern that has no groups, no flags and no questions for groups is the
same in both. This module has the relation between two computations and how it passes through their
steps; the reader's own functions follow in the next.
-/

namespace SchemaMerge.Pattern

open Parse

variable {more : List Char}

namespace Cursor

def left (cursor : Cursor) : Nat :=
  match cursor.next with
  | none => 0
  | some _ => cursor.rest.length + 1

/-- Two cursors at one place of a text; behind the text of the second stands a closing parenthesis. -/
inductive Mirrors (more : List Char) : Cursor → Cursor → Prop
  | within (token : Token) (rest : List Char) (place place' : Nat) :
      Mirrors more ⟨some token, rest, place⟩ ⟨some token, rest ++ ')' :: more, place'⟩
  | behind (place place' : Nat) : Mirrors more ⟨none, [], place⟩ ⟨some (.plain ')'), more, place'⟩

variable {cursor cursor' : Cursor} {text : List Char} {place : Nat}

theorem ahead_plain {letter : Char} (plain : letter ≠ '\\') (rest : List Char) :
    ahead place (letter :: rest) = .ok ⟨some (.plain letter), rest, place⟩ := by
  unfold ahead
  split <;> simp_all

theorem ahead_mirrors (made : ahead place text = .ok cursor) (place' : Nat) :
    ∃ cursor', ahead place' (text ++ ')' :: more) = .ok cursor' ∧ cursor.Mirrors more cursor' := by
  unfold ahead at made
  split at made
  · cases made
    exact ⟨_, ahead_plain (by decide) more, .behind place place'⟩
  · cases made
  · next letter rest =>
      cases made
      exact ⟨_, rfl, .within (.escaped letter) rest place place'⟩
  · next letter rest single escaped =>
      cases made
      have plain : letter ≠ '\\' := by
        rintro rfl
        cases rest with
        | nil => exact single rfl rfl
        | cons letter rest => exact escaped letter rest rfl rfl
      exact ⟨_, ahead_plain plain _, .within (.plain letter) rest place place'⟩

theorem ahead_left (made : ahead place text = .ok cursor) : cursor.left ≤ text.length := by
  unfold ahead at made
  split at made
  · cases made
    exact Nat.le_refl _
  · cases made
  · cases made
    simp [left]
  · cases made
    simp [left]

theorem advance_left {token : Token} (next : cursor.next = some token) (made : cursor.advance = .ok cursor') :
    cursor'.left < cursor.left := by
  unfold advance at made
  rw [next] at made
  have bound := ahead_left made
  have left : cursor.left = cursor.rest.length + 1 := by rw [left, next]
  omega

theorem Mirrors.advance {token : Token} {whole : Cursor} (mirrors : cursor.Mirrors more whole)
    (next : cursor.next = some token) (made : cursor.advance = .ok cursor') :
    ∃ whole', whole.advance = .ok whole' ∧ cursor'.Mirrors more whole' := by
  cases mirrors with
  | within token rest place place' => exact ahead_mirrors made _
  | behind place place' => cases next

theorem Mirrors.next {token : Token} {whole : Cursor} (mirrors : cursor.Mirrors more whole)
    (next : cursor.next = some token) : whole.next = some token := by
  cases mirrors with
  | within token rest place place' => exact next
  | behind place place' => cases next

theorem Mirrors.ended {whole : Cursor} (mirrors : cursor.Mirrors more whole) (next : cursor.next = none) :
    whole.next = some (.plain ')') := by
  cases mirrors with
  | within token rest place place' => cases next
  | behind place place' => rfl

theorem Mirrors.left {whole : Cursor} (mirrors : cursor.Mirrors more whole) :
    whole.left = cursor.left + more.length + 1 := by
  cases mirrors with
  | within token rest place place' =>
      simp only [Cursor.left, List.length_append, List.length_cons]
      omega
  | behind place place' => simp [Cursor.left]

theorem left_eq_zero : cursor.left = 0 ↔ cursor.next = none := by
  unfold left
  cases cursor.next <;> simp

theorem left_le_rest : cursor.left ≤ cursor.rest.length + 1 := by
  unfold left
  cases cursor.next <;> simp

end Cursor

namespace Progress

/-- No group, no flag for the whole pattern and no question for a group has been met; inside a group,
the end has not been met either. -/
structure IsPlain (inner : Bool) (progress : Progress) : Prop where
  flags : progress.flags = []
  groups : progress.groups = []
  names : progress.names = []
  asked : ∀ asked ∈ progress.asked, asked.1 = 0
  unended : inner = true → progress.cursor.next ≠ none

structure Grows (start stop : Progress) : Prop where
  left : stop.cursor.left ≤ start.cursor.left
  plain : stop.IsPlain false → start.IsPlain false
  named : start.names.length ≤ start.groups.length → stop.names.length ≤ stop.groups.length

structure Mirrors (more : List Char) (part whole : Progress) : Prop where
  cursor : part.cursor.Mirrors more whole.cursor
  plain : whole.IsPlain false

variable {inner : Bool} {start middle stop : Progress}

theorem IsPlain.of_imp {early : Bool} (plain : stop.IsPlain inner) (weaker : early = true → inner = true) :
    stop.IsPlain early :=
  { plain with unended := plain.unended ∘ weaker }

theorem IsPlain.weaken (plain : stop.IsPlain inner) : stop.IsPlain false := plain.of_imp nofun

theorem Grows.refl (progress : Progress) : Grows progress progress := ⟨Nat.le_refl _, id, id⟩

theorem Grows.trans (first : Grows start middle) (second : Grows middle stop) : Grows start stop :=
  ⟨Nat.le_trans second.left first.left, first.plain ∘ second.plain, second.named ∘ first.named⟩

theorem Grows.isPlain (grows : Grows start stop) (plain : stop.IsPlain inner) : start.IsPlain inner := by
  refine { grows.plain plain.weaken with unended := fun inside ended => plain.unended inside ?_ }
  have left := grows.left
  rw [Cursor.left_eq_zero.mpr ended] at left
  exact Cursor.left_eq_zero.mp (Nat.le_zero.mp left)

end Progress

namespace Parse

variable {α β γ δ : Type} {inner : Bool} {start : Progress} {part : Parse α} {whole : Parse β}
  {next : α → Parse γ} {next' : β → Parse δ} {as : α → β} {good : α → Prop} {as' : γ → δ}
  {good' : γ → Prop}

theorem run_bind_eq_ok {made : γ} {stop : Progress} :
    (part >>= next).run start = .ok (made, stop) ↔
      ∃ value middle, part.run start = .ok (value, middle) ∧ (next value).run middle = .ok (made, stop) := by
  rw [StateT.run_bind, bind_eq_ok]
  exact ⟨fun ⟨(value, middle), ran⟩ => ⟨value, middle, ran⟩, fun ⟨value, middle, ran⟩ => ⟨_, ran⟩⟩

def Grows (start : Progress) (part : Parse α) : Prop :=
  ∀ ⦃made stop⦄, part.run start = .ok (made, stop) → start.Grows stop

/-- A computation that only ever ends where a group, a flag or a question for a group has been met. -/
structure Spoils (inner : Bool) (start : Progress) (part : Parse α) : Prop where
  grows : Grows start part
  spoils : ∀ ⦃made stop⦄, part.run start = .ok (made, stop) → ¬stop.IsPlain inner

/-- What a computation on a text makes, another one makes where more text stands behind. -/
structure Follows (more : List Char) (inner : Bool) (start : Progress) (part : Parse α)
    (whole : Parse β) (as : α → β) (good : α → Prop) : Prop where
  grows : Grows start part
  good : ∀ ⦃made stop⦄, part.run start = .ok (made, stop) → stop.IsPlain inner → good made
  ends : ∀ ⦃made stop ahead⦄, part.run start = .ok (made, stop) → stop.IsPlain inner →
    start.Mirrors more ahead → ∃ reached, whole.run ahead = .ok (as made, reached) ∧ stop.Mirrors more reached

abbrev Repeats (more : List Char) (inner : Bool) (start : Progress) (part whole : Parse α) : Prop :=
  Follows more inner start part whole (fun made => made) (fun _ => True)

theorem Grows.bind (first : Grows start part)
    (rest : ∀ made stop, start.Grows stop → Grows stop (next made)) : Grows start (part >>= next) := by
  intro made stop ran
  obtain ⟨value, middle, ran, ran'⟩ := run_bind_eq_ok.mp ran
  exact (first ran).trans (rest value middle (first ran) ran')

theorem Grows.pure (made : α) : Grows start (pure made) := by
  intro made stop ran
  cases ran
  exact .refl start

theorem Grows.spoils (grows : Grows start part) (met : ¬start.IsPlain inner) : Spoils inner start part :=
  ⟨grows, fun _ _ ran plain => met ((grows ran).isPlain plain)⟩

theorem Spoils.bind (first : Spoils inner start part)
    (rest : ∀ made stop, start.Grows stop → Grows stop (next made)) : Spoils inner start (part >>= next) := by
  refine ⟨Grows.bind first.grows rest, fun made stop ran plain => ?_⟩
  obtain ⟨value, middle, ran, ran'⟩ := run_bind_eq_ok.mp ran
  exact first.spoils ran ((rest value middle (first.grows ran) ran').isPlain plain)

theorem Grows.then_spoils (first : Grows start part)
    (rest : ∀ made stop, start.Grows stop → Spoils inner stop (next made)) :
    Spoils inner start (part >>= next) := by
  refine ⟨Grows.bind first fun made stop grown => (rest made stop grown).grows, fun made stop ran plain => ?_⟩
  obtain ⟨value, middle, ran, ran'⟩ := run_bind_eq_ok.mp ran
  exact (rest value middle (first ran)).spoils ran' plain

theorem Spoils.follows (spoils : Spoils inner start part) : Follows more inner start part whole as good :=
  ⟨spoils.grows, fun _ _ ran plain => (spoils.spoils ran plain).elim,
    fun _ _ _ ran plain => (spoils.spoils ran plain).elim⟩

def Fails (start : Progress) (part : Parse α) : Prop := ∀ ⦃made stop⦄, part.run start ≠ .ok (made, stop)

theorem fails_throw (fault : Fault) : Fails start (throw fault : Parse α) := nofun

theorem fails_failAt (cause : Cause) (place : Nat) : Fails start (failAt cause place : Parse α) := nofun

theorem fails_fail (cause : Cause) (back : Nat) : Fails start (fail cause back : Parse α) := nofun

theorem Fails.bind (fails : Fails start part) : Fails start (part >>= next) := by
  intro made stop ran
  obtain ⟨value, middle, ran, -⟩ := run_bind_eq_ok.mp ran
  exact fails ran

theorem Fails.grows (fails : Fails start part) : Grows start part := fun _ _ ran => (fails ran).elim

theorem Fails.spoils (fails : Fails start part) : Spoils inner start part :=
  ⟨fails.grows, fun _ _ ran => (fails ran).elim⟩

theorem run_get {next : Progress → Parse γ} : (get >>= next).run start = (next start).run start := rfl

theorem run_peek {next : Option Token → Parse γ} :
    (peek >>= next).run start = (next start.cursor.next).run start := rfl

theorem run_position {next : Nat → Parse γ} :
    (position >>= next).run start = (next start.cursor.position).run start := rfl

theorem run_remaining {next : Nat → Parse γ} :
    (remaining >>= next).run start = (next (start.cursor.rest.length + 2)).run start := rfl

theorem run_advance : advance.run start =
    start.cursor.advance >>= fun cursor => .ok ((), { start with cursor := cursor }) := by
  cases made : start.cursor.advance <;>
    simp only [advance, bind_pure_comp, StateT.run_bind, StateT.run_get, pure_bind, StateT.run_monadLift,
      made] <;> rfl

theorem run_advance_bind {next : Unit → Parse γ} {cursor : Cursor} (made : start.cursor.advance = .ok cursor) :
    (advance >>= next).run start = (next ()).run { start with cursor := cursor } := by
  rw [StateT.run_bind, run_advance, made]
  rfl

theorem fails_advance {fault : Fault} (made : start.cursor.advance = .error fault) :
    Fails start advance := by
  intro none stop ran
  rw [run_advance, made] at ran
  cases ran

theorem accept_bind {letter : Char} {next : Bool → Parse γ} :
    accept letter >>= next = peek >>= fun token =>
      if token = some (.plain letter) then advance >>= fun _ => next true else next false := by
  unfold accept
  rw [bind_assoc]
  refine bind_congr fun token => ?_
  split <;> simp only [bind_assoc, pure_bind]

theorem take_bind {next : Option Token → Parse γ} :
    take >>= next = peek >>= fun token => advance >>= fun _ => next token := by
  simp only [take, bind_assoc, pure_bind]

theorem grows_advanced {token : Token} {cursor : Cursor} (present : start.cursor.next = some token)
    (made : start.cursor.advance = .ok cursor) : start.Grows { start with cursor := cursor } :=
  ⟨Nat.le_of_lt (Cursor.advance_left present made), fun plain => { plain with unended := nofun }, id⟩

theorem Grows.accept {letter : Char} {next : Bool → Parse γ}
    (accepted : ∀ stop, start.Grows stop → stop.cursor.left < start.cursor.left → Grows stop (next true))
    (missing : Grows start (next false)) : Grows start (Parse.accept letter >>= next) := by
  intro made stop ran
  rw [accept_bind, run_peek] at ran
  split at ran
  · next present =>
      cases moved : start.cursor.advance with
      | error fault => exact ((fails_advance moved).bind ran).elim
      | ok cursor =>
          rw [run_advance_bind moved] at ran
          have grown := grows_advanced present moved
          exact grown.trans (accepted _ grown (Cursor.advance_left present moved) ran)
  · exact missing ran

namespace Follows

theorem pure {made : α} {made' : β} (is : made' = as made) (fits : start.IsPlain inner → good made) :
    Follows more inner start (Pure.pure made) (Pure.pure made') as good := by
  rw [is]
  refine ⟨Grows.pure made, fun made stop ran plain => ?_, fun made stop ahead ran plain mirrors => ?_⟩
  · cases ran
    exact fits plain
  · cases ran
    exact ⟨_, rfl, mirrors⟩

theorem same (made : α) : Repeats more inner start (Pure.pure made) (Pure.pure made) :=
  pure rfl fun _ => trivial

theorem bind_of {early : Bool} (weaker : early = true → inner = true)
    (first : Follows more early start part whole as good)
    (rest : ∀ made stop, start.Grows stop → (stop.IsPlain early → good made) →
      Follows more inner stop (next made) (next' (as made)) as' good') :
    Follows more inner start (part >>= next) (whole >>= next') as' good' := by
  have following {value middle} (ran : part.run start = .ok (value, middle)) :=
    rest value middle (first.grows ran) (first.good ran)
  refine ⟨fun made stop ran => ?_, fun made stop ran plain => ?_, fun made stop ahead ran plain mirrors => ?_⟩
  all_goals obtain ⟨value, middle, ran, ran'⟩ := run_bind_eq_ok.mp ran
  · exact (first.grows ran).trans ((following ran).grows ran')
  · exact (following ran).good ran' plain
  · have between := ((following ran).grows ran').isPlain plain
    obtain ⟨between, reads, mirrors⟩ := first.ends ran (between.of_imp weaker) mirrors
    obtain ⟨reached, reads', mirrors⟩ := (following ran).ends ran' plain mirrors
    exact ⟨reached, run_bind_eq_ok.mpr ⟨_, between, reads, reads'⟩, mirrors⟩

theorem bind (first : Follows more inner start part whole as good)
    (rest : ∀ made stop, start.Grows stop → (stop.IsPlain inner → good made) →
      Follows more inner stop (next made) (next' (as made)) as' good') :
    Follows more inner start (part >>= next) (whole >>= next') as' good' :=
  bind_of id first rest

/-- The first part follows even where it meets the end. -/
theorem bind_strict (first : Follows more false start part whole as good)
    (rest : ∀ made stop, start.Grows stop → (stop.IsPlain false → good made) →
      Follows more inner stop (next made) (next' (as made)) as' good') :
    Follows more inner start (part >>= next) (whole >>= next') as' good' :=
  bind_of (fun is => (Bool.false_ne_true is).elim) first rest

/-- What comes behind the first part needs more text. -/
theorem bind_unended (first : Follows more inner start part whole as good)
    (ended : ∀ made stop, stop.cursor.next = none → Fails stop (next made))
    (rest : ∀ made stop, start.Grows stop → (stop.IsPlain false → good made) →
      Follows more false stop (next made) (next' (as made)) as' good') :
    Follows more false start (part >>= next) (whole >>= next') as' good' := by
  have unended {value middle made stop} (ran : (next value).run middle = .ok (made, stop)) :
      middle.cursor.next ≠ none := fun ends => ended value middle ends ran
  have following {value middle made stop} (ran : part.run start = .ok (value, middle))
      (ran' : (next value).run middle = .ok (made, stop)) :=
    rest value middle (first.grows ran) fun plain =>
      first.good ran { plain with unended := fun _ => unended ran' }
  refine ⟨fun made stop ran => ?_, fun made stop ran plain => ?_, fun made stop ahead ran plain mirrors => ?_⟩
  all_goals obtain ⟨value, middle, ran, ran'⟩ := run_bind_eq_ok.mp ran
  · exact (first.grows ran).trans ((following ran ran').grows ran')
  · exact (following ran ran').good ran' plain
  · have between := ((following ran ran').grows ran').isPlain plain
    obtain ⟨between, reads, mirrors⟩ :=
      first.ends ran { between with unended := fun _ => unended ran' } mirrors
    obtain ⟨reached, reads', mirrors⟩ := (following ran ran').ends ran' plain mirrors
    exact ⟨reached, run_bind_eq_ok.mpr ⟨_, between, reads, reads'⟩, mirrors⟩

theorem imp {good' : α → Prop} (follows : Follows more inner start part whole as good)
    (implies : start.IsPlain inner → ∀ made, good made → good' made) :
    Follows more inner start part whole as good' :=
  ⟨follows.grows, fun _ _ ran plain => implies ((follows.grows ran).isPlain plain) _ (follows.good ran plain),
    follows.ends⟩

/-- One step of both computations. What the second goes on with may depend on where it stands. -/
theorem step {start' : Progress} {part' : Parse α} (grown : start.Grows start')
    (runs : part.run start = part'.run start') (grows : Grows start' part')
    (fits : ∀ made stop, part'.run start' = .ok (made, stop) → stop.IsPlain inner → good made)
    (steps : ∀ ahead, start.Mirrors more ahead → ∃ whole' ahead', whole.run ahead = whole'.run ahead' ∧
      start'.Mirrors more ahead' ∧ Follows more inner start' part' whole' as good) :
    Follows more inner start part whole as good := by
  refine ⟨fun made stop ran => ?_, fun made stop ran plain => ?_, fun made stop ahead ran plain mirrors => ?_⟩
  all_goals rw [runs] at ran
  · exact grown.trans (grows ran)
  · exact fits made stop ran plain
  · obtain ⟨whole', ahead', runs', mirrors', follows⟩ := steps ahead mirrors
    rw [runs']
    exact follows.ends ran plain mirrors'

theorem stepped {start' : Progress} {part' : Parse α} {whole' : Parse β} (grown : start.Grows start')
    (runs : part.run start = part'.run start') (follows : Follows more inner start' part' whole' as good)
    (steps : ∀ ahead, start.Mirrors more ahead → ∃ ahead', whole.run ahead = whole'.run ahead' ∧
      start'.Mirrors more ahead') : Follows more inner start part whole as good := by
  refine step grown runs follows.grows follows.good fun ahead mirrors => ?_
  obtain ⟨ahead', runs', mirrors'⟩ := steps ahead mirrors
  exact ⟨whole', ahead', runs', mirrors', follows⟩

/-- Both computations ask the same. -/
theorem ite {asked : Prop} [Decidable asked] {other : Parse α} {other' : Parse β}
    (yes : asked → Follows more inner start part whole as good)
    (no : ¬asked → Follows more inner start other other' as good) :
    Follows more inner start (if asked then part else other) (if asked then whole else other') as good := by
  split
  · next is => exact yes is
  · next isNot => exact no isNot

theorem refuse {asked : Prop} [Decidable asked] {other : Parse α} {other' : Parse β} (fails : Fails start part)
    (rest : ¬asked → Follows more inner start other other' as good) :
    Follows more inner start (if asked then part else other) (if asked then whole else other') as good :=
  ite (fun _ => fails.spoils.follows) rest

theorem peek {next : Option Token → Parse γ} {next' : Option Token → Parse δ}
    (present : ∀ token, start.cursor.next = some token →
      Follows more inner start (next (some token)) (next' (some token)) as' good')
    (ended : start.cursor.next = none →
      Follows more inner start (next none) (next' (some (.plain ')'))) as' good') :
    Follows more inner start (Parse.peek >>= next) (Parse.peek >>= next') as' good' := by
  cases is : start.cursor.next with
  | some token =>
      refine stepped (.refl start) (by rw [run_peek, is]) (present token is) fun ahead mirrors =>
        ⟨ahead, ?_, mirrors⟩
      rw [run_peek, mirrors.cursor.next is]
  | none =>
      refine stepped (.refl start) (by rw [run_peek, is]) (ended is) fun ahead mirrors =>
        ⟨ahead, ?_, mirrors⟩
      rw [run_peek, mirrors.cursor.ended is]

theorem position {next : Nat → Parse γ} {next' : Nat → Parse δ}
    (rest : ∀ place place', Follows more inner start (next place) (next' place') as' good') :
    Follows more inner start (Parse.position >>= next) (Parse.position >>= next') as' good' :=
  step (.refl start) run_position (rest _ 0).grows (rest _ 0).good fun ahead mirrors =>
    ⟨_, ahead, run_position, mirrors, rest _ _⟩

theorem remaining {next : Nat → Parse γ} {next' : Nat → Parse δ}
    (rest : ∀ fuel fuel', start.cursor.left < fuel → start.cursor.left + more.length + 1 < fuel' →
      Follows more inner start (next fuel) (next' fuel') as' good') :
    Follows more inner start (Parse.remaining >>= next) (Parse.remaining >>= next') as' good' := by
  have enough : start.cursor.left < start.cursor.rest.length + 2 :=
    Nat.lt_succ_of_le Cursor.left_le_rest
  have alone := rest _ _ enough (Nat.lt_succ_self _)
  refine step (.refl start) run_remaining alone.grows alone.good fun ahead mirrors =>
    ⟨_, ahead, run_remaining, mirrors, rest _ _ enough ?_⟩
  rw [← mirrors.cursor.left]
  exact Nat.lt_succ_of_le Cursor.left_le_rest

theorem advance {token : Token} {next : Unit → Parse γ} {next' : Unit → Parse δ}
    (present : start.cursor.next = some token)
    (rest : ∀ stop, start.Grows stop → stop.cursor.left < start.cursor.left →
      Follows more inner stop (next ()) (next' ()) as' good') :
    Follows more inner start (Parse.advance >>= next) (Parse.advance >>= next') as' good' := by
  cases made : start.cursor.advance with
  | error fault => exact (fails_advance made).bind.spoils.follows
  | ok cursor =>
      have less := Cursor.advance_left present made
      have grown := grows_advanced present made
      refine stepped grown (run_advance_bind made) (rest _ grown less) fun ahead mirrors => ?_
      obtain ⟨cursor', made', mirrors'⟩ := mirrors.cursor.advance present made
      exact ⟨_, run_advance_bind made', mirrors', { mirrors.plain with unended := nofun }⟩

theorem take {next : Option Token → Parse γ} {next' : Option Token → Parse δ}
    (taken : ∀ token stop, start.Grows stop → stop.cursor.left < start.cursor.left →
      Follows more inner stop (next (some token)) (next' (some token)) as' good')
    (ended : start.cursor.next = none → Spoils inner start (next none)) :
    Follows more inner start (Parse.take >>= next) (Parse.take >>= next') as' good' := by
  rw [take_bind, take_bind]
  refine peek (fun token present => advance present (taken token)) fun ends => Spoils.follows ?_
  have stays : start.cursor.advance = .ok start.cursor := by rw [Cursor.advance, ends]
  have runs : (Parse.advance >>= fun _ => next none).run start = (next none).run start :=
    run_advance_bind stays
  have spoils := ended ends
  exact ⟨fun made stop ran => spoils.grows (runs ▸ ran), fun made stop ran => spoils.spoils (runs ▸ ran)⟩

theorem accept {letter : Char} (other : letter ≠ ')') {next : Bool → Parse γ} {next' : Bool → Parse δ}
    (accepted : ∀ stop, start.Grows stop → stop.cursor.left < start.cursor.left →
      Follows more inner stop (next true) (next' true) as' good')
    (missing : Follows more inner start (next false) (next' false) as' good') :
    Follows more inner start (Parse.accept letter >>= next) (Parse.accept letter >>= next') as' good' := by
  rw [accept_bind, accept_bind]
  refine peek (fun token present => ?_) fun ends => ?_
  · split
    · exact advance present accepted
    · exact missing
  · rw [if_neg (by simp), if_neg (by simpa using Ne.symm other)]
    exact missing

end Follows

end Parse

end SchemaMerge.Pattern
