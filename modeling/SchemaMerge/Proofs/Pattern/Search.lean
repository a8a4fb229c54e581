import SchemaMerge.Proofs.Pattern.Groupless
import SchemaMerge.Proofs.Pattern.Spliced

namespace SchemaMerge.Pattern

variable {mode : Mode} {before after text : List Char}

theorem foundFrom_iff {node : Node} :
    foundFrom mode node before after = true ↔ ∃ passed left, after = passed ++ left ∧
      (node.run mode ⟨passed.reverse ++ before, left, []⟩ some).isSome = true := by
  induction after generalizing before with
  | nil =>
      refine ⟨fun found => ⟨[], [], rfl, found⟩, ?_⟩
      rintro ⟨passed, left, split, found⟩
      obtain ⟨rfl, rfl⟩ := List.nil_eq_append_iff.mp split
      exact found
  | cons letter after ih =>
      rw [foundFrom, Bool.or_eq_true, ih]
      refine ⟨?_, ?_⟩
      · rintro (found | ⟨passed, left, rfl, found⟩)
        · exact ⟨[], letter :: after, rfl, found⟩
        · refine ⟨letter :: passed, left, rfl, ?_⟩
          rwa [List.reverse_cons, List.append_assoc]
      · rintro ⟨passed, left, split, found⟩
        cases passed with
        | nil =>
            obtain rfl : letter :: after = left := split
            exact .inl found
        | cons first passed =>
            obtain ⟨rfl, rfl⟩ := List.cons.inj split
            refine .inr ⟨passed, left, rfl, ?_⟩
            rwa [List.reverse_cons, List.append_assoc] at found

def Fits (branch : List Node) (before after : List Char) : Prop :=
  ((Node.ofList branch).run .plain ⟨before, after, []⟩ some).isSome = true

def Begins (branch : List Node) (text : List Char) : Prop := Fits branch [] text

def Occurs (branch : List Node) (text : List Char) : Prop :=
  ∃ passed left, text = passed ++ left ∧ Fits branch passed.reverse left

theorem Begins.occurs {branch : List Node} (begins : Begins branch text) : Occurs branch text :=
  ⟨[], text, rfl, begins⟩

theorem occursIn_ofBranches {choice : List (List Node)} (some : choice ≠ []) :
    Pattern.occursIn ⟨[], .ofBranches choice⟩ text = true ↔ ∃ branch ∈ choice, Occurs branch text := by
  change foundFrom .plain (.ofBranches choice) [] text = true ↔ _
  have exact : Mode.plain.ignoreCase = false := rfl
  simp only [foundFrom_iff, Node.isSome_ofBranches exact some, List.any_eq_true, List.append_nil]
  refine ⟨?_, ?_⟩
  · rintro ⟨passed, left, split, branch, inside, fits⟩
    exact ⟨branch, inside, passed, left, split, fits⟩
  · rintro ⟨branch, inside, passed, left, split, fits⟩
    exact ⟨passed, left, split, branch, inside, fits⟩

section anything

variable {rest : Rest}

theorem isSome_run_any {letter : Char} {captures : List (Nat × Capture)} :
    ((Node.one .any).run .plain ⟨before, letter :: after, captures⟩ rest).isSome =
      (letter ≠ '\n' && (rest ⟨letter :: before, after, captures⟩).isSome) := by
  rw [Node.isSome_one]
  rfl

theorem isSome_greedy_succ {part : Part} {fuel : Nat} {last : Option Nat} {spot : Spot}
    (moved : last ≠ some spot.after.length) :
    (part.greedy (fuel + 1) none last spot rest).isSome =
      ((part spot fun next => part.greedy fuel none (some spot.after.length) next rest).isSome ||
        (rest spot).isSome) := by
  rw [Part.greedy, if_pos (by simpa [Part.mayRepeat] using moved)]
  dsimp only [Option.map_none]
  split <;> simp [*]

/-- A repetition of any character reaches each place up to the end of the line. -/
theorem isSome_greedy_any {fuel : Nat} {last : Option Nat} (enough : after.length < fuel)
    (moved : last ≠ some after.length) :
    (Part.greedy ((Node.one .any).run .plain) fuel none last ⟨before, after, []⟩ rest).isSome = true ↔
      ∃ passed left, after = passed ++ left ∧ '\n' ∉ passed ∧
        (rest ⟨passed.reverse ++ before, left, []⟩).isSome = true := by
  induction after generalizing before fuel last with
  | nil =>
      obtain ⟨fuel, rfl⟩ : ∃ fewer, fuel = fewer + 1 := ⟨fuel - 1, by omega⟩
      rw [isSome_greedy_succ moved]
      refine ⟨fun found => ⟨[], [], rfl, List.not_mem_nil, found⟩, ?_⟩
      rintro ⟨passed, left, split, -, found⟩
      obtain ⟨rfl, rfl⟩ := List.nil_eq_append_iff.mp split
      exact found
  | cons letter after ih =>
      obtain ⟨fuel, rfl⟩ : ∃ fewer, fuel = fewer + 1 := ⟨fuel - 1, by omega⟩
      -- a round takes a character, so the next one is not refused for want of progress
      rw [isSome_greedy_succ moved, isSome_run_any, Bool.or_eq_true, Bool.and_eq_true, decide_eq_true_eq,
        ih (Nat.lt_of_succ_lt_succ enough) (by simp)]
      refine ⟨?_, ?_⟩
      · rintro (⟨ordinary, passed, left, rfl, line, found⟩ | found)
        · refine ⟨letter :: passed, left, rfl, List.not_mem_cons_of_ne_of_not_mem (Ne.symm ordinary) line, ?_⟩
          rwa [List.reverse_cons, List.append_assoc]
        · exact ⟨[], letter :: after, rfl, List.not_mem_nil, found⟩
      · rintro ⟨passed, left, split, line, found⟩
        cases passed with
        | nil =>
            obtain rfl : letter :: after = left := split
            exact .inr found
        | cons first passed =>
            obtain ⟨rfl, rfl⟩ := List.cons.inj split
            refine .inl ⟨(List.ne_of_not_mem_cons line).symm, passed, left, rfl, List.not_mem_of_not_mem_cons line, ?_⟩
            rwa [List.reverse_cons, List.append_assoc] at found

theorem begins_anything {branch : List Node} (line : '\n' ∉ text) :
    Begins (anything :: branch) text ↔ Occurs branch text := by
  have reached : Begins (anything :: branch) text ↔ ∃ passed left, text = passed ++ left ∧ '\n' ∉ passed ∧
      Fits branch (passed.reverse ++ []) left := by
    unfold Begins Fits
    rw [Node.run_ofList_cons]
    exact isSome_greedy_any (Nat.lt_add_of_pos_right (Nat.succ_pos 1)) nofun
  simp only [List.append_nil] at reached
  rw [reached]
  refine exists₂_congr fun passed left => and_congr_right fun split => and_iff_right ?_
  rw [split] at line
  exact fun inside => line (List.mem_append_left left inside)

end anything

section looking

variable {choice other : List (List Node)}

theorem isSome_run_ofBranches (some : choice ≠ []) :
    ((Node.ofBranches choice).run .plain ⟨before, after, []⟩ Option.some).isSome = true ↔
      ∃ branch ∈ choice, Fits branch before after := by
  have exact : Mode.plain.ignoreCase = false := rfl
  rw [Node.isSome_ofBranches exact some, List.any_eq_true]
  rfl

/-- A look ahead that captures nothing is a test of the place. -/
theorem isSome_look {part : Part} (quiet : part.Quiet) (spot : Spot) (rest : Rest) :
    (part.look none false spot rest).isSome = ((part.once spot).isSome && (rest spot).isSome) := by
  unfold Part.look
  simp only [Option.elim_none, Option.bind_some]
  cases found : part.once spot with
  | none => rfl
  | some stop =>
      have same : { spot with captures := stop.captures } = spot := by rw [quiet.once found]
      dsimp only
      rw [same, Option.isSome_some, Bool.true_and]

theorem isSome_run_lookFor (some : choice ≠ []) (groupless : ∀ branch ∈ choice, Parse.AreGroupless branch)
    (rest : Rest) :
    ((Node.lookFor choice).run .plain ⟨before, after, []⟩ rest).isSome = true ↔
      (∃ branch ∈ choice, Fits branch before after) ∧ (rest ⟨before, after, []⟩).isSome = true := by
  have quiet := quiet_run .plain (Parse.Reads.groupless_ofBranches groupless)
  rw [← isSome_run_ofBranches some, ← Bool.and_eq_true]
  exact Bool.eq_iff_iff.mp (isSome_look quiet _ rest)

theorem occursIn_lookForBoth (some : choice ≠ []) (some' : other ≠ [])
    (groupless : ∀ branch ∈ choice, Parse.AreGroupless branch)
    (groupless' : ∀ branch ∈ other, Parse.AreGroupless branch) :
    Pattern.occursIn ⟨[], .ofList (lookForBoth choice other)⟩ text = true ↔
      (∃ branch ∈ choice, Begins branch text) ∧ ∃ branch ∈ other, Begins branch text := by
  have both (before after : List Char) :
      ((Node.ofList (lookForBoth choice other)).run .plain ⟨before, after, []⟩ Option.some).isSome = true ↔
        before = [] ∧ (∃ branch ∈ choice, Fits branch before after) ∧ ∃ branch ∈ other, Fits branch before after := by
    rw [lookForBoth, Node.run_ofList_cons, Node.run]
    split
    · next start =>
        have start : before = [] := by simpa [Spot.holds, Mode.plain] using start
        rw [Node.run_ofList_cons, isSome_run_lookFor some groupless, Node.ofList,
          isSome_run_lookFor some' groupless']
        simp [start]
    · next start =>
        have start : before ≠ [] := by simpa [Spot.holds, Mode.plain] using start
        simp [start]
  change foundFrom .plain (.ofList (lookForBoth choice other)) [] text = true ↔ _
  rw [foundFrom_iff]
  simp only [both, List.append_nil]
  refine ⟨?_, fun found => ⟨[], text, rfl, rfl, found⟩⟩
  rintro ⟨passed, left, rfl, start, found⟩
  obtain rfl := List.reverse_eq_nil_iff.mp start
  exact found

end looking

end SchemaMerge.Pattern
