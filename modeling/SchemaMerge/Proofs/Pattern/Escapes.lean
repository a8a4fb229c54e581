import SchemaMerge.Proofs.Pattern.Follows
import SchemaMerge.Proofs.Pattern.Groupless

namespace SchemaMerge.Pattern.Parse

variable {more : List Char} {inner : Bool} {start : Progress}

/-- Limits that allow as many steps in both computations, or all that there are. -/
def Suffice (more : List Char) (start : Progress) (limit limit' : Nat) : Prop :=
  limit = limit' ∨ start.cursor.left < limit ∧ start.cursor.left + more.length + 1 < limit'

theorem repeats_takeWhile {test : Char → Bool} (closed : test ')' = false) {limit limit' : Nat}
    (suffice : Suffice more start limit limit') :
    Repeats more inner start (takeWhile test limit) (takeWhile test limit') := by
  induction limit generalizing start limit' with
  | zero =>
      obtain rfl : limit' = 0 := by
        rcases suffice with rfl | less
        · rfl
        · omega
      exact .same _
  | succ limit ih =>
      obtain ⟨limit', rfl⟩ : ∃ fewer, limit' = fewer + 1 := by
        rcases suffice with rfl | less
        · exact ⟨limit, rfl⟩
        · exact ⟨limit' - 1, by omega⟩
      rw [takeWhile, takeWhile]
      refine .peek (fun token present => ?_) fun ended => ?_
      · split
        · split
          · refine .advance present fun stop grown less => ?_
            refine .bind (ih (suffice.imp Nat.succ.inj ?_)) fun letters stop grown fits => .same _
            intro enough
            omega
          · exact .same _
        · exact .same _
      · dsimp only
        rw [closed]
        exact .same _

theorem fails_failEscape {α : Type} (cause : String → Cause) (escape : List Char) :
    Fails start (failEscape cause escape : Parse α) := fails_fail _ _

theorem repeats_hexEscape (letter : Char) (count : Nat) :
    Repeats more inner start (hexEscape letter count) (hexEscape letter count) := by
  unfold hexEscape
  refine .bind (repeats_takeWhile (by decide) (.inl rfl)) fun digits stop grown fits => ?_
  exact .refuse (fails_failEscape _ _).bind fun _ => .refuse (fails_failEscape _ _).bind fun _ => .same _

theorem repeats_takeUntil (terminator : Char) (noun : String) {fuel fuel' : Nat} {read : List Char}
    (enough : start.cursor.left < fuel) (enough' : start.cursor.left + more.length + 1 < fuel') :
    Repeats more inner start (takeUntil terminator noun fuel read) (takeUntil terminator noun fuel' read) := by
  induction fuel generalizing start fuel' read with
  | zero => omega
  | succ fuel ih =>
      obtain ⟨fuel', rfl⟩ : ∃ fewer, fuel' = fewer + 1 := ⟨fuel' - 1, by omega⟩
      rw [takeUntil, takeUntil]
      refine .take (fun token stop grown less => ?_) fun ended => ?_
      · refine .ite (fun _ => ?_) fun _ => ih (by omega) (by omega)
        exact .refuse (fails_fail _ _) fun _ => .same _
      · dsimp only
        split <;> exact (fails_fail _ _).spoils

theorem repeats_name (terminator : Char) (noun : String) :
    Repeats more inner start (name terminator noun) (name terminator noun) :=
  .remaining fun _ _ => repeats_takeUntil terminator noun

theorem repeats_nameEscape : Repeats more inner start nameEscape nameEscape := by
  unfold nameEscape
  refine .accept (by decide) (fun stop grown less => ?_) (fails_fail _ _).bind.spoils.follows
  refine .bind (repeats_name _ _) fun letters stop grown fits => ?_
  split
  · exact .same _
  · exact (fails_fail _ _).spoils.follows

theorem repeats_commonEscape {letter : Char} {common : Parse Escape} (known : commonEscape? letter = some common) :
    Repeats more inner start common common := by
  unfold commonEscape? at known
  split at known <;> cases known
  · exact repeats_hexEscape 'x' 2
  · exact repeats_hexEscape 'u' 4
  · exact repeats_hexEscape 'U' 8
  · exact repeats_nameEscape

theorem repeats_literalEscape (letter : Char) :
    Repeats more inner start (literalEscape letter) (literalEscape letter) := by
  unfold literalEscape
  exact .refuse (fails_failEscape _ _).bind fun _ => .same _

theorem repeats_setEscape (letter : Char) : Repeats more inner start (setEscape letter) (setEscape letter) := by
  unfold setEscape
  split
  · exact .same _
  · exact .same _
  · next known => exact repeats_commonEscape known
  · refine .ite (fun _ => ?_) fun _ => repeats_literalEscape letter
    refine .bind (repeats_takeWhile (by decide) (.inl rfl)) fun digits stop grown fits => ?_
    exact .refuse (fails_failEscape _ _).bind fun _ => .same _

section groups

variable {γ : Type}

theorem run_closedGroup {next : Option Width → Parse γ} (index : Nat) :
    (closedGroup? index >>= next).run start =
      (next (if index = 0 then none else (start.groups[index - 1]?).join)).run start := by
  unfold closedGroup?
  split <;> rfl

theorem grows_closedGroup {next : Option Width → Parse γ} (index : Nat)
    (rest : ∀ width, Grows start (next width)) : Grows start (closedGroup? index >>= next) := by
  intro made stop ran
  rw [run_closedGroup] at ran
  exact rest _ ran

theorem grows_get {next : Progress → Parse γ} (rest : Grows start (next start)) : Grows start (get >>= next) :=
  fun _ _ ran => rest ran

theorem grows_checkBehind (index : Nat) : Grows start (checkBehind index) := by
  unfold checkBehind
  refine grows_get ?_
  split
  · exact Grows.pure ()
  · refine grows_closedGroup index fun width => ?_
    dsimp only
    split
    · exact (fails_fail _ _).bind.grows
    · split
      · exact (fails_fail _ _).grows
      · exact Grows.pure ()

theorem spoils_closedGroup {next : Option Width → Parse γ} (index : Nat) (missing : Fails start (next none))
    (rest : ∀ width, Grows start (next (some width))) : Spoils inner start (closedGroup? index >>= next) := by
  by_cases plain : start.IsPlain false
  · refine Fails.spoils fun made stop ran => ?_
    rw [run_closedGroup, plain.groups] at ran
    exact missing (by simpa using ran)
  · refine Grows.spoils (grows_closedGroup index fun width => ?_) fun plain' => plain plain'.weaken
    cases width with
    | none => exact missing.grows
    | some width => exact rest width

theorem spoils_groupCount {next : Nat → Parse γ} (rest : Spoils inner start (next (start.groups.length + 1))) :
    Spoils inner start (groupCount >>= next) :=
  ⟨fun _ _ ran => rest.grows ran, fun _ _ ran => rest.spoils ran⟩

theorem spoils_reference (digits : List Char) : Spoils inner start (reference digits) := by
  unfold reference
  refine spoils_groupCount ?_
  split
  · refine spoils_closedGroup _ (fails_fail _ _) fun width => ?_
    exact Grows.bind (grows_checkBehind _) fun _ _ _ => Grows.pure _
  · exact (fails_fail _ _).spoils

end groups

theorem repeats_digitEscape (letter : Char) :
    Repeats more inner start (digitEscape letter) (digitEscape letter) := by
  unfold digitEscape
  refine .bind (repeats_takeWhile (by decide) (.inl rfl)) fun digits stop grown fits => ?_
  split
  · exact (spoils_reference _).follows
  · refine .ite (fun _ => ?_) fun _ => (spoils_reference _).follows
    refine .bind (repeats_takeWhile (by decide) (.inl rfl)) fun digits stop grown fits => ?_
    split
    · exact (spoils_reference _).follows
    · exact .refuse (fails_failEscape _ _).bind fun _ => .same _

theorem repeats_escape (letter : Char) : Repeats more inner start (escape letter) (escape letter) := by
  unfold escape
  split
  · exact .same _
  · exact .same _
  · exact .same _
  · next known => exact repeats_commonEscape known
  · refine .ite (fun _ => ?_) fun _ => .ite (fun _ => repeats_digitEscape letter) fun _ => repeats_literalEscape letter
    exact .bind (repeats_takeWhile (by decide) (.inl rfl)) fun digits stop grown fits => .same _

theorem Escape.isGroupless_node (escape : Escape) : escape.node.isGroupless = true := by
  cases escape <;> rfl

theorem repeats_setMember (token : Token) : Repeats more inner start (setMember token) (setMember token) := by
  cases token with
  | plain letter => exact .same _
  | escaped letter => exact repeats_setEscape letter

theorem repeats_setRange (first last : Token) (low high : Escape) :
    Repeats more inner start (setRange first last low high) (setRange first last low high) := by
  unfold setRange
  dsimp only
  split
  · exact .refuse (fails_fail _ _) fun _ => .same _
  · exact (fails_fail _ _).spoils.follows

theorem repeats_setItems (place place' : Nat) {fuel fuel' : Nat} {items : List SetItem}
    (enough : start.cursor.left < fuel) (enough' : start.cursor.left + more.length + 1 < fuel') :
    Repeats more inner start (setItems place fuel items) (setItems place' fuel' items) := by
  induction fuel generalizing start fuel' items with
  | zero => omega
  | succ fuel ih =>
      obtain ⟨fuel', rfl⟩ : ∃ fewer, fuel' = fewer + 1 := ⟨fuel' - 1, by omega⟩
      rw [setItems, setItems]
      refine .take (fun token stop grown less => ?_) fun ended => (fails_failAt _ _).spoils
      refine .ite (fun _ => .same _) fun _ => ?_
      refine .bind (repeats_setMember token) fun low stop grown' fits => ?_
      have further := grown'.left
      refine .accept (by decide) (fun stop grown less => ?_) (ih (by omega) (by omega))
      refine .take (fun last stop grown less => ?_) fun ended => (fails_failAt _ _).spoils
      refine .ite (fun _ => .same _) fun _ => ?_
      refine .bind (repeats_setMember last) fun high stop grown' fits => ?_
      refine .bind (repeats_setRange _ _ _ _) fun item stop grown'' fits => ?_
      have further' := grown'.left
      have further'' := grown''.left
      exact ih (by omega) (by omega)

theorem follows_characterSet :
    Follows more inner start characterSet characterSet (fun made => made) (·.isGroupless = true) := by
  unfold characterSet
  refine .position fun place place' => ?_
  have follows {start : Progress} (negated : Bool) : Follows more inner start
      (do return Node.one (.ofItems negated (← setItems (place - 1) (← remaining) [])) : Parse Node)
      (do return Node.one (.ofItems negated (← setItems (place' - 1) (← remaining) [])))
      (fun made => made) (·.isGroupless = true) :=
    .remaining fun fuel fuel' enough enough' =>
      .bind (repeats_setItems _ _ enough enough') fun items stop grown fits => .pure rfl fun _ => rfl
  exact .accept (by decide) (fun stop grown less => follows true) (follows false)

end SchemaMerge.Pattern.Parse
