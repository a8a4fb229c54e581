import SchemaMerge.Proofs.Pattern.Escapes

namespace SchemaMerge.Pattern.Parse

variable {more : List Char} {inner : Bool} {start : Progress}

def countDigits : Parse (List Char × List Char × Bool) := do
  let low ← takeWhile isAsciiDigit (← remaining)
  let high ← if ← accept ',' then takeWhile isAsciiDigit (← remaining) else pure low
  return (low, high, ← accept '}')

def countsOf (place : Nat) (low high : List Char) : Parse (Option Counts) := do
  let least := decimal low
  let most := if high.isEmpty then none else some (decimal high)
  if countLimit ≤ least || countLimit ≤ most.getD 0 then throw ⟨.hugeCount, none⟩
  match most with
  | some count => if count < least then failAt .reversedCounts place
  | none => pure ()
  return some ⟨least, most⟩

/-- The counts up to a closing brace, or the way back to a place if there is none. -/
def closedCounts (here : Progress) : Parse (Option Counts) := do
  let (low, high, closed) ← countDigits
  if closed then countsOf here.cursor.position low high
  else do
    set here
    return none

theorem counts_eq :
    counts? = (do if (← peek) = some (.plain '}') then return none else closedCounts (← get)) := by
  have turned : counts? = (do
      let here ← get
      if (← peek) = some (.plain '}') then return none else closedCounts here) := by
    unfold counts? closedCounts countDigits
    refine bind_congr fun here => bind_congr fun token => ?_
    split
    · rfl
    · simp only [bind_assoc, pure_bind]
      refine bind_congr fun fuel => bind_congr fun low => bind_congr fun comma => ?_
      cases comma <;> simp only [Bool.false_eq_true, if_false, if_true, bind_assoc, pure_bind]
      · refine bind_congr fun closed => ?_
        cases closed <;> rfl
      · refine bind_congr fun fuel => bind_congr fun high => bind_congr fun closed => ?_
        cases closed <;> rfl
  rw [turned]
  funext start
  change StateT.run (if start.cursor.next = _ then _ else _) start =
    StateT.run (if start.cursor.next = _ then _ else _) start
  split <;> rfl

section moves

variable {α β : Type} {part : Parse α}

/-- A computation that only moves on in the text. -/
def Moves (part : Parse α) : Prop :=
  ∀ ⦃start made stop⦄, part.run start = .ok (made, stop) → stop = { start with cursor := stop.cursor }

theorem Moves.bind (moves : Moves part) {next : α → Parse β} (rest : ∀ made, Moves (next made)) :
    Moves (part >>= next) := by
  intro start made stop ran
  obtain ⟨value, middle, ran, ran'⟩ := run_bind_eq_ok.mp ran
  rw [rest value ran', moves ran]

theorem moves_pure (made : α) : Moves (pure made) := by
  intro start made stop ran
  cases ran
  rfl

theorem moves_peek : Moves peek := by
  intro start made stop ran
  cases ran
  rfl

theorem moves_remaining : Moves remaining := by
  intro start made stop ran
  cases ran
  rfl

theorem moves_advance : Moves advance := by
  intro start made stop ran
  rw [run_advance, bind_eq_ok] at ran
  obtain ⟨cursor, -, is⟩ := ran
  cases is
  rfl

theorem moves_accept (letter : Char) : Moves (accept letter) := by
  refine moves_peek.bind fun token => ?_
  split
  · exact moves_advance.bind fun _ => moves_pure true
  · exact moves_pure false

theorem moves_takeWhile (test : Char → Bool) (limit : Nat) : Moves (takeWhile test limit) := by
  induction limit with
  | zero => exact moves_pure []
  | succ limit ih =>
      rw [takeWhile]
      refine moves_peek.bind fun token => ?_
      split
      · split
        · exact moves_advance.bind fun _ => ih.bind fun letters => moves_pure _
        · exact moves_pure []
      · exact moves_pure []

theorem moves_countDigits : Moves countDigits := by
  refine moves_remaining.bind fun fuel => (moves_takeWhile _ _).bind fun low => ?_
  refine (moves_accept ',').bind fun comma => ?_
  have closes (high : List Char) : Moves (do return (low, high, ← accept '}')) :=
    (moves_accept '}').bind fun closed => moves_pure _
  split
  · exact moves_remaining.bind fun fuel => (moves_takeWhile _ _).bind closes
  · exact (moves_pure low).bind closes

end moves

theorem repeats_countDigits : Repeats more inner start countDigits countDigits := by
  have closes {start : Progress} (low high : List Char) : Repeats more inner start
      (do return (low, high, ← accept '}')) (do return (low, high, ← accept '}')) :=
    .accept (by decide) (fun stop grown less => .same _) (.same _)
  refine .remaining fun fuel fuel' enough enough' => ?_
  refine .bind (repeats_takeWhile (by decide) (.inr ⟨enough, enough'⟩)) fun low stop grown fits => ?_
  refine .accept (by decide) (fun stop grown less => ?_) ?_
  · refine .remaining fun fuel fuel' enough enough' => ?_
    exact .bind (repeats_takeWhile (by decide) (.inr ⟨enough, enough'⟩)) fun high stop grown fits => closes low high
  · exact .bind (.same low) fun high stop grown fits => closes low high

theorem repeats_countsOf (place place' : Nat) (low high : List Char) :
    Repeats more inner start (countsOf place low high) (countsOf place' low high) := by
  unfold countsOf
  dsimp only
  generalize (if high.isEmpty then none else some (decimal high)) = most
  refine .refuse (fails_throw _).bind fun _ => ?_
  cases most with
  | none => exact .same _
  | some count => exact .refuse (fails_failAt _ _).bind fun _ => .same _

theorem run_closedCounts {here : Progress} {made : Option Counts} {stop : Progress} :
    (closedCounts here).run start = .ok (made, stop) ↔ ∃ low high closed middle,
      countDigits.run start = .ok ((low, high, closed), middle) ∧
        if closed then (countsOf here.cursor.position low high).run middle = .ok (made, stop)
        else made = none ∧ stop = here := by
  unfold closedCounts
  rw [run_bind_eq_ok]
  refine ⟨?_, ?_⟩
  · rintro ⟨⟨low, high, closed⟩, middle, ran, ran'⟩
    refine ⟨low, high, closed, middle, ran, ?_⟩
    cases closed
    · cases ran'
      exact ⟨rfl, rfl⟩
    · exact ran'
  · rintro ⟨low, high, closed, middle, ran, ran'⟩
    refine ⟨(low, high, closed), middle, ran, ?_⟩
    cases closed
    · obtain ⟨rfl, rfl⟩ := ran'
      rfl
    · exact ran'

theorem grows_closedCounts : Grows start (closedCounts start) := by
  intro made stop ran
  obtain ⟨low, high, closed, middle, first, second⟩ := run_closedCounts.mp ran
  cases closed with
  | false => exact second.2 ▸ .refl start
  | true =>
      have digits : Repeats [] false start countDigits countDigits := repeats_countDigits
      have counts : Repeats [] false middle (countsOf start.cursor.position low high)
          (countsOf start.cursor.position low high) := repeats_countsOf ..
      exact (digits.grows first).trans (counts.grows second)

theorem repeats_closedCounts {ahead : Progress} (mirrors : start.Mirrors more ahead) :
    Repeats more inner start (closedCounts start) (closedCounts ahead) := by
  refine ⟨grows_closedCounts, fun _ _ _ _ => trivial, fun made stop ahead' ran plain mirrors' => ?_⟩
  obtain ⟨low, high, closed, middle, first, second⟩ := run_closedCounts.mp ran
  have digits : Repeats more false start countDigits countDigits := repeats_countDigits
  cases closed with
  | false =>
      obtain ⟨rfl, rfl⟩ := second
      have between : middle.IsPlain false := by
        rw [moves_countDigits first]
        exact { plain with unended := nofun }
      obtain ⟨reached, reads, -⟩ := digits.ends first between mirrors'
      exact ⟨ahead, run_closedCounts.mpr ⟨low, high, false, reached, reads, rfl, rfl⟩, mirrors⟩
  | true =>
      have counts : Repeats more inner middle (countsOf start.cursor.position low high)
          (countsOf ahead.cursor.position low high) := repeats_countsOf ..
      have between := (counts.grows second).isPlain plain
      obtain ⟨reached, reads, mirrors'⟩ := digits.ends first between.weaken mirrors'
      obtain ⟨reached', reads', mirrors'⟩ := counts.ends second plain mirrors'
      exact ⟨reached', run_closedCounts.mpr ⟨low, high, true, reached, reads, reads'⟩, mirrors'⟩

theorem repeats_counts : Repeats more inner start counts? counts? := by
  have counts : Repeats more inner start (get >>= closedCounts) (get >>= closedCounts) :=
    .step (.refl start) run_get grows_closedCounts (fun _ _ _ _ => trivial) fun ahead mirrors =>
      ⟨closedCounts ahead, ahead, run_get, mirrors, repeats_closedCounts mirrors⟩
  rw [counts_eq]
  exact .peek (fun token present => .ite (fun _ => .same _) fun _ => counts) fun ended => counts

def AreGroupless (items : List Node) : Prop := ∀ item ∈ items, item.isGroupless = true

/-- An anchor that comes first among items in reverse order stays the first. -/
def KeepsAnchor (items made : List Node) : Prop :=
  ∀ kind, items.getLast? = some (.anchor kind) → made.getLast? = some (.anchor kind)

theorem KeepsAnchor.refl (items : List Node) : KeepsAnchor items items := fun _ first => first

theorem KeepsAnchor.cons (item : Node) (items : List Node) : KeepsAnchor items (item :: items) := by
  intro kind first
  rw [List.getLast?_cons, first]
  rfl

section repetition

variable {items base : List Node}

theorem repeats_greedSign : Repeats more inner start greedSign greedSign := by
  refine .accept (by decide) (fun stop grown less => .same _) ?_
  exact .accept (by decide) (fun stop grown less => .same _) (.same _)

theorem follows_repeated (place place' : Nat) (counts : Counts)
    (clean : start.IsPlain inner → AreGroupless items) :
    Follows more inner start (repeated place counts items) (repeated place' counts (items ++ base))
      (· ++ base) fun made => AreGroupless made ∧ KeepsAnchor items made := by
  cases items with
  | nil => exact (fails_failAt _ _).spoils.follows
  | cons item before =>
      have marked (other : ∀ kind, item ≠ .anchor kind) : Follows more inner start
          (do return .iterate (← greedSign) counts.least counts.most item :: before)
          (do return .iterate (← greedSign) counts.least counts.most item :: (before ++ base))
          (· ++ base) fun made => AreGroupless made ∧ KeepsAnchor (item :: before) made := by
        refine .bind repeats_greedSign fun greed stop grown fits => .pure rfl fun plain => ⟨?_, ?_⟩
        · exact List.forall_mem_cons.mpr (List.forall_mem_cons.mp (clean (grown.isPlain plain)))
        · intro kind first
          cases before with
          | nil => exact absurd (Option.some.inj first) (other kind)
          | cons => exact first
      cases item with
      | anchor kind => exact (fails_failAt _ _).spoils.follows
      | iterate greed least most body => exact (fails_failAt _ _).spoils.follows
      | _ => exact marked nofun

theorem follows_repetition (sign : Char) (clean : start.IsPlain inner → AreGroupless items) :
    Follows more inner start (repetition sign items) (repetition sign (items ++ base))
      (· ++ base) fun made => AreGroupless made ∧ KeepsAnchor items made := by
  unfold repetition
  refine .position fun place place' => ?_
  refine .ite (fun _ => ?_) fun _ => follows_repeated _ _ _ clean
  refine .bind repeats_counts fun counts stop grown fits => ?_
  cases counts with
  | none =>
      refine .pure rfl fun plain => ⟨?_, .cons _ items⟩
      exact List.forall_mem_cons.mpr ⟨rfl, clean (grown.isPlain plain)⟩
  | some counts => exact follows_repeated _ _ _ fun plain => clean (grown.isPlain plain)

end repetition

theorem repeats_lineComment {fuel fuel' : Nat} (enough : start.cursor.left < fuel)
    (enough' : start.cursor.left + more.length + 1 < fuel') :
    Repeats more true start (lineComment fuel) (lineComment fuel') := by
  induction fuel generalizing start fuel' with
  | zero => omega
  | succ fuel ih =>
      obtain ⟨fuel', rfl⟩ : ∃ fewer, fuel' = fewer + 1 := ⟨fuel' - 1, by omega⟩
      rw [lineComment, lineComment]
      refine .take (fun token stop grown less => ?_) fun ended => ⟨Grows.pure (), ?_⟩
      · split
        · exact .same _
        · exact .same _
        · exact ih (by omega) (by omega)
      · intro made stop ran plain
        cases ran
        exact plain.unended rfl ended

theorem repeats_comment (place place' : Nat) {fuel fuel' : Nat} (enough : start.cursor.left < fuel)
    (enough' : start.cursor.left + more.length + 1 < fuel') :
    Repeats more inner start (comment place fuel) (comment place' fuel') := by
  induction fuel generalizing start fuel' with
  | zero => omega
  | succ fuel ih =>
      obtain ⟨fuel', rfl⟩ : ∃ fewer, fuel' = fewer + 1 := ⟨fuel' - 1, by omega⟩
      rw [comment, comment]
      refine .take (fun token stop grown less => ?_) fun ended => (fails_failAt _ _).spoils
      split
      · exact (fails_failAt _ _).spoils.follows
      · exact .same _
      · exact ih (by omega) (by omega)

theorem follows_flagsOn (flags : List Flag) (flag : Flag) {fuel fuel' : Nat} (enough : start.cursor.left < fuel)
    (enough' : start.cursor.left + more.length + 1 < fuel') :
    Follows more inner start (flagsOn fuel flags flag) (flagsOn fuel' flags flag) (fun made => made)
      (fun made => made.1 ≠ []) := by
  induction fuel generalizing start fuel' flags flag with
  | zero => omega
  | succ fuel ih =>
      obtain ⟨fuel', rfl⟩ : ∃ fewer, fuel' = fewer + 1 := ⟨fuel' - 1, by omega⟩
      rw [flagsOn, flagsOn]
      refine .refuse (fails_fail _ _).bind fun _ => .refuse (fails_fail _ _).bind fun _ => ?_
      refine .take (fun token stop grown less => ?_) fun ended => (fails_fail _ _).spoils
      refine .ite (fun _ => .pure rfl fun _ => by simp) fun _ => ?_
      split
      · exact ih _ _ (by omega) (by omega)
      · exact (fails_fail _ _).spoils.follows

theorem repeats_flagsOff (flags : List Flag) (flag : Flag) {fuel fuel' : Nat} (enough : start.cursor.left < fuel)
    (enough' : start.cursor.left + more.length + 1 < fuel') :
    Repeats more inner start (flagsOff fuel flags flag) (flagsOff fuel' flags flag) := by
  induction fuel generalizing start fuel' flags flag with
  | zero => omega
  | succ fuel ih =>
      obtain ⟨fuel', rfl⟩ : ∃ fewer, fuel' = fewer + 1 := ⟨fuel' - 1, by omega⟩
      rw [flagsOff, flagsOff]
      refine .refuse (fails_fail _ _).bind fun _ => ?_
      refine .take (fun token stop grown less => ?_) fun ended => (fails_fail _ _).spoils
      refine .ite (fun _ => .same _) fun _ => ?_
      split
      · exact ih _ _ (by omega) (by omega)
      · exact (fails_fail _ _).spoils.follows

theorem repeats_firstFlagOff : Repeats more inner start firstFlagOff firstFlagOff := by
  refine .take (fun token stop grown less => ?_) fun ended => (fails_fail _ _).spoils
  dsimp only
  split
  · exact .remaining fun fuel fuel' => repeats_flagsOff _ _
  · exact (fails_fail _ _).spoils.follows

def flagsBehind (on : List Flag) (stop : Token) : Parse (Option FlagChange) := do
  if stop = .plain ')' then
    modify fun progress => { progress with flags := progress.flags ++ on }
    return none
  if on.contains .template then fail .globalOn 1
  let off ← if stop = .plain '-' then firstFlagOff else pure []
  if off.contains .template then fail .globalOff 1
  if on.any off.contains then fail .onAndOff 1
  return some ⟨on, off⟩

theorem spoils_flags {on : List Flag} (met : start.IsPlain inner → on ≠ []) :
    Spoils inner start (do
      modify fun progress => { progress with flags := progress.flags ++ on }
      return none : Parse (Option FlagChange)) := by
  refine ⟨fun made stop ran => ?_, fun made stop ran plain => ?_⟩
  · cases ran
    exact ⟨Nat.le_refl _, fun plain => { plain with flags := (List.append_eq_nil_iff.mp plain.flags).1 }, id⟩
  · cases ran
    obtain ⟨before, none⟩ := List.append_eq_nil_iff.mp plain.flags
    exact met { plain with flags := before } none

theorem follows_flagsBehind {on : List Flag} {stop : Token} (met : start.IsPlain inner → stop = .plain ')' → on ≠ []) :
    Follows more inner start (flagsBehind on stop) (flagsBehind on stop) (fun made => made)
      (fun made => made ≠ none) := by
  have closes {start : Progress} (off : List Flag) : Follows more inner start
      (do
        if off.contains .template then fail .globalOff 1
        if on.any off.contains then fail .onAndOff 1
        return some ⟨on, off⟩ : Parse (Option FlagChange))
      (do
        if off.contains .template then fail .globalOff 1
        if on.any off.contains then fail .onAndOff 1
        return some ⟨on, off⟩)
      (fun made => made) (fun made => made ≠ none) :=
    .refuse (fails_fail _ _).bind fun _ => .refuse (fails_fail _ _).bind fun _ => .pure rfl fun _ => by simp
  unfold flagsBehind
  refine .ite (fun is => (spoils_flags fun plain => met plain is).follows) fun _ => ?_
  refine .refuse (fails_fail _ _).bind fun _ => ?_
  refine .ite (fun _ => ?_) fun _ => ?_
  · exact .bind repeats_firstFlagOff fun off stop grown fits => closes off
  · exact .bind (.same []) fun off stop grown fits => closes off

theorem flagChange_eq (sign : Token) :
    flagChange sign = (do
      let (on, stop) ←
        match flagOf? sign with
        | some flag => flagsOn (← remaining) [] flag
        | none => pure ([], sign)
      flagsBehind on stop) := rfl

theorem follows_flagChange {sign : Token} (flags : (flagOf? sign).isSome = true ∨ sign = .plain '-') :
    Follows more inner start (flagChange sign) (flagChange sign) (fun made => made) (fun made => made ≠ none) := by
  rw [flagChange_eq]
  dsimp only
  split
  · refine .remaining fun fuel fuel' enough enough' => ?_
    refine .bind (follows_flagsOn _ _ enough enough') fun made stop grown fits => ?_
    exact follows_flagsBehind fun plain _ => fits plain
  · next unknown =>
      have hyphen : sign = .plain '-' := flags.resolve_left (by rw [unknown]; exact Bool.false_ne_true)
      rw [pure_bind]
      exact follows_flagsBehind fun _ closing => by simp [hyphen] at closing

theorem repeats_groupName (terminator : Char) :
    Repeats more inner start (groupName terminator) (groupName terminator) := by
  refine .bind (repeats_name _ _) fun letters stop grown fits => ?_
  exact .refuse (fails_fail _ _).bind fun _ => .same _

section groups

theorem openGroup_ends {name : Option (List Char)} {index : Nat} {stop : Progress}
    (ran : (openGroup name).run start = .ok (index, stop)) :
    stop.cursor = start.cursor ∧ stop.groups = start.groups ++ [none] ∧
      stop.names.length ≤ start.names.length + 1 := by
  cases name with
  | none =>
      cases ran
      exact ⟨rfl, rfl, Nat.le_succ _⟩
  | some letters =>
      obtain ⟨count, first, ran, rest⟩ := run_bind_eq_ok.mp ran
      cases ran
      obtain ⟨_, second, ran, rest⟩ := run_bind_eq_ok.mp rest
      cases ran
      dsimp only at rest
      rw [run_get] at rest
      dsimp only at rest
      split at rest
      · exact (fails_fail _ _ rest).elim
      · cases rest
        exact ⟨rfl, rfl, by simp⟩

theorem spoils_openGroup (name : Option (List Char)) : Spoils inner start (openGroup name) := by
  have opens {index : Nat} {stop : Progress} (ran : (openGroup name).run start = .ok (index, stop)) :
      ¬stop.IsPlain false := by
    intro plain
    have groups := plain.groups
    rw [(openGroup_ends ran).2.1] at groups
    exact List.append_ne_nil_of_right_ne_nil _ (List.cons_ne_nil _ _) groups
  refine ⟨fun index stop ran => ⟨?_, fun plain => (opens ran plain).elim, fun named => ?_⟩,
    fun index stop ran plain => opens ran plain.weaken⟩
  · exact Nat.le_of_eq (congrArg Cursor.left (openGroup_ends ran).1)
  · obtain ⟨-, groups, names⟩ := openGroup_ends ran
    rw [groups, List.length_append]
    exact Nat.le_trans names (Nat.succ_le_succ named)

theorem grows_closeGroup (index : Nat) (width : Width) : Grows start (closeGroup index width) := by
  intro made stop ran
  cases ran
  refine ⟨Nat.le_refl _, fun plain => { plain with groups := ?_ }, fun named => ?_⟩
  · simpa using plain.groups
  · rwa [List.length_set]

theorem spoils_get {γ : Type} {next : Progress → Parse γ} (spoils : Spoils inner start (next start)) :
    Spoils inner start (get >>= next) :=
  ⟨fun _ _ ran => spoils.grows ran, fun _ _ ran => spoils.spoils ran⟩

theorem spoils_position {γ : Type} {next : Nat → Parse γ} (rest : ∀ place, Spoils inner start (next place)) :
    Spoils inner start (position >>= next) :=
  ⟨fun _ _ ran => (rest _).grows ran, fun _ _ ran => (rest _).spoils ran⟩

theorem grows_name (terminator : Char) (noun : String) : Grows start (name terminator noun) :=
  have repeats : Repeats [] false start _ _ := repeats_name terminator noun
  repeats.grows

theorem spoils_namedReference : Spoils inner start namedReference := by
  have names : Repeats [] false start _ _ := repeats_groupName ')'
  refine Grows.then_spoils names.grows fun letters stop _ => spoils_get ?_
  split
  · exact (fails_fail _ _).spoils
  · refine spoils_closedGroup _ (fails_fail _ _) fun width => ?_
    exact Grows.bind (grows_checkBehind _) fun _ _ _ => Grows.pure _

def ask (index place : Nat) (progress : Progress) : Progress :=
  if (progress.asked.lookup index).isSome then progress
  else { progress with asked := progress.asked ++ [(index, place)] }

theorem mem_ask (index place : Nat) (progress : Progress) :
    ∃ earlier, (index, earlier) ∈ (ask index place progress).asked := by
  unfold ask
  split
  · next found =>
      obtain ⟨earlier, found⟩ := Option.isSome_iff_exists.mp found
      obtain ⟨before, after, is, -⟩ := List.lookup_eq_some_iff.mp found
      exact ⟨earlier, is ▸ by simp⟩
  · exact ⟨place, by simp⟩

theorem grows_ask (index place : Nat) (progress : Progress) : progress.Grows (ask index place progress) := by
  unfold ask
  split
  · exact .refl progress
  · exact ⟨Nat.le_refl _, fun plain =>
      { plain with asked := fun asked inside => plain.asked asked (List.mem_append_left _ inside) }, id⟩

theorem spoils_ask {index : Nat} (positive : index ≠ 0) (place : Nat) : Spoils inner start (do
    modify (ask index place)
    return index) := by
  refine ⟨fun made stop ran => ?_, fun made stop ran plain => ?_⟩
  · cases ran
    exact grows_ask index place start
  · cases ran
    obtain ⟨earlier, inside⟩ := mem_ask index place start
    exact positive (plain.asked (index, earlier) inside)

theorem spoils_conditionGroup : Spoils inner start conditionGroup := by
  refine Grows.then_spoils (grows_name ')' "group name") fun letters stop _ => ?_
  dsimp only
  split
  · refine spoils_get ?_
    split
    · next index found =>
        refine Grows.spoils (Grows.pure index) fun plain => ?_
        rw [plain.names] at found
        cases found
    · exact (fails_fail _ _).spoils
  · split
    · exact (fails_fail _ _).spoils
    · next index _ =>
        split
        · exact (fails_fail _ _).bind.spoils
        · next positive =>
            split
            · exact (fails_fail _ _).bind.spoils
            · exact spoils_position fun place => spoils_ask positive _

end groups

end SchemaMerge.Pattern.Parse
