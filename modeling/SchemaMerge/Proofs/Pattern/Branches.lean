import SchemaMerge.Pattern.Matcher
import SchemaMerge.Pattern.Parser
import SchemaMerge.Proofs.Outcome

/-!
A choice between branches matches where one of the branches does, although what they begin with is
factored out.
-/

namespace SchemaMerge.Pattern

namespace Node

/-- A property that a sequence and a choice have just where their parts do, and that a node that
matches characters or places has at once. -/
structure Inherited (holds : Node → Prop) : Prop where
  empty : holds .empty
  one : ∀ test, holds (.one test)
  anchor : ∀ kind, holds (.anchor kind)
  backreference : ∀ index width, holds (.backreference index width)
  seq : ∀ first second, holds (.seq first second) ↔ holds first ∧ holds second
  alt : ∀ first second, holds (.alt first second) ↔ holds first ∧ holds second

variable {holds : Node → Prop}

theorem Inherited.alike (inherited : Inherited holds) {item other : Node} (same : item.alike other = true) :
    holds item ∧ holds other := by
  unfold Node.alike at same
  split at same
  · exact ⟨inherited.one _, inherited.one _⟩
  · exact ⟨inherited.anchor _, inherited.anchor _⟩
  · exact ⟨inherited.backreference .., inherited.backreference ..⟩
  · cases same

theorem Inherited.ofList_iff (inherited : Inherited holds) {nodes : List Node} :
    holds (ofList nodes) ↔ ∀ node ∈ nodes, holds node := by
  fun_induction ofList nodes with
  | case1 => simp [inherited.empty]
  | case2 node => simp
  | case3 node nodes _ ih => simp only [inherited.seq, ih, List.forall_mem_cons]

theorem Inherited.choice_iff (inherited : Inherited holds) {nodes : List Node} :
    holds (choice nodes) ↔ ∀ node ∈ nodes, holds node := by
  fun_induction choice nodes with
  | case1 => simp [inherited.empty]
  | case2 node => simp
  | case3 node nodes _ ih => simp only [inherited.alt, ih, List.forall_mem_cons]

theorem Inherited.of_mem_items (inherited : Inherited holds) {node : Node} (is : holds node) :
    ∀ item ∈ node.items, holds item := by
  fun_induction Node.items node with
  | case1 => simp
  | case2 first second ih =>
      obtain ⟨is, is'⟩ := (inherited.seq ..).mp is
      exact List.forall_mem_cons.mpr ⟨is, ih is'⟩
  | case3 node => simpa using is

theorem exists_of_alike {item : Node} {branch : List Node} (same : branch.head?.any item.alike = true) :
    ∃ other, item.alike other = true ∧ branch = other :: branch.tail := by
  cases branch with
  | nil => cases same
  | cons other branch => exact ⟨other, same, rfl⟩

theorem Inherited.splitStart_iff (inherited : Inherited holds) {first : List Node} {others : List (List Node)} :
    ((∀ node ∈ (splitStart first others).1, holds node) ∧
        ∀ branch ∈ (splitStart first others).2, ∀ node ∈ branch, holds node) ↔
      ∀ branch ∈ first :: others, ∀ node ∈ branch, holds node := by
  fun_induction splitStart first others with
  | case1 others => simp
  | case2 item branch others same start branches is ih =>
      rw [is] at ih
      simp only [List.forall_mem_cons, and_assoc, ih, List.forall_mem_map]
      refine and_congr_right fun _ => and_congr_right fun _ => forall₂_congr fun other inside => ?_
      obtain ⟨head, alike, begins⟩ := exists_of_alike (List.all_eq_true.mp same other inside)
      rw [begins, List.forall_mem_cons, List.tail_cons]
      exact (and_iff_right (inherited.alike alike).2).symm
  | case3 item branch others different => simp

theorem Inherited.of_members? (inherited : Inherited holds) {branch : List Node} {members : List SetItem}
    (found : members? branch = some members) : ∀ node ∈ branch, holds node := by
  unfold members? at found
  split at found
  · simpa using inherited.one _
  · simpa using inherited.one _
  · cases found

theorem members_of_mapM {branches : List (List Node)} {members : List (List SetItem)}
    (found : branches.mapM members? = some members) :
    List.Forall₂ (fun branch items => members? branch = some items) branches members := by
  induction branches generalizing members with
  | nil =>
      cases found
      exact .nil
  | cons branch branches ih =>
      rw [List.mapM_cons, Option.bind_eq_bind, Option.bind_eq_some_iff] at found
      obtain ⟨items, read, found⟩ := found
      rw [Option.bind_eq_bind, Option.bind_eq_some_iff] at found
      obtain ⟨others, reads, is⟩ := found
      cases is
      exact .cons read (ih reads)

theorem Inherited.of_members (inherited : Inherited holds) {branches : List (List Node)}
    {members : List (List SetItem)}
    (read : List.Forall₂ (fun branch items => members? branch = some items) branches members) :
    ∀ branch ∈ branches, ∀ node ∈ branch, holds node := by
  induction read with
  | nil => exact List.forall_mem_nil _
  | cons found _ ih => exact List.forall_mem_cons.mpr ⟨inherited.of_members? found, ih⟩

theorem Inherited.ofBranches_iff (inherited : Inherited holds) {branches : List (List Node)} :
    holds (ofBranches branches) ↔ ∀ branch ∈ branches, ∀ node ∈ branch, holds node := by
  unfold ofBranches
  split
  · simp [inherited.empty]
  · simp [inherited.ofList_iff]
  · next first others _ =>
      rw [← inherited.splitStart_iff]
      dsimp only
      split
      · next members found =>
          simp only [inherited.ofList_iff, List.forall_mem_append, List.forall_mem_singleton]
          refine and_congr_right fun _ => iff_of_true (inherited.one _) ?_
          exact inherited.of_members (members_of_mapM found)
      · simp only [inherited.ofList_iff, inherited.choice_iff, List.forall_mem_append,
          List.forall_mem_singleton, List.forall_mem_map]

section run

variable {mode : Mode}

theorem run_ofList_cons (node : Node) (nodes : List Node) (spot : Spot) (rest : Rest) :
    (ofList (node :: nodes)).run mode spot rest =
      node.run mode spot fun next => (ofList nodes).run mode next rest := by
  cases nodes with
  | nil => rfl
  | cons other nodes => rfl

theorem run_ofList_append (nodes others : List Node) (spot : Spot) (rest : Rest) :
    (ofList (nodes ++ others)).run mode spot rest =
      (ofList nodes).run mode spot fun next => (ofList others).run mode next rest := by
  induction nodes generalizing spot with
  | nil => rfl
  | cons node nodes ih => simp only [List.cons_append, run_ofList_cons, ih]

theorem isSome_alt (first second : Node) (spot : Spot) (rest : Rest) :
    ((alt first second).run mode spot rest).isSome =
      ((first.run mode spot rest).isSome || (second.run mode spot rest).isSome) := by
  rw [run]
  cases first.run mode spot rest <;> rfl

theorem isSome_choice {nodes : List Node} (more : nodes ≠ []) (spot : Spot) (rest : Rest) :
    ((choice nodes).run mode spot rest).isSome = nodes.any fun node => (node.run mode spot rest).isSome := by
  fun_induction choice nodes with
  | case1 => exact absurd rfl more
  | case2 node => simp
  | case3 node nodes several ih => rw [isSome_alt, ih several, List.any_cons]

theorem run_of_alike {item other : Node} (same : item.alike other = true) (spot : Spot) (rest : Rest) :
    item.run mode spot rest = (item.run mode spot some).bind rest ∧
      other.run mode spot rest = (item.run mode spot some).bind rest := by
  unfold alike at same
  split at same
  · next test other =>
      obtain rfl := of_decide_eq_true same
      simp only [run, and_self]
      split
      · split <;> rfl
      · rfl
  · next kind other =>
      obtain rfl := of_decide_eq_true same
      simp only [run, and_self]
      split <;> rfl
  · next index width other width' =>
      obtain rfl := of_decide_eq_true same
      simp only [run, and_self]
      split
      · cases Spot.skip? mode _ spot <;> rfl
      · rfl
  · cases same

/-- Behind what all branches begin with, one of the rests of the branches matches where one of the
branches does. -/
theorem isSome_splitStart {first : List Node} {others : List (List Node)} (several : others ≠ [])
    (spot : Spot) {rest rest' : Rest} (reached : ∀ next, (rest' next).isSome =
      (splitStart first others).2.any fun branch => ((ofList branch).run mode next rest).isSome) :
    ((ofList (splitStart first others).1).run mode spot rest').isSome =
      (first :: others).any fun branch => ((ofList branch).run mode spot rest).isSome := by
  fun_induction splitStart first others generalizing spot with
  | case1 others => exact reached spot
  | case3 item branch others different => exact reached spot
  | case2 item branch others same start branches is ih =>
      rw [is] at ih
      obtain ⟨other, inside⟩ := List.exists_mem_of_ne_nil others several
      obtain ⟨head, alike, -⟩ := exists_of_alike (List.all_eq_true.mp same other inside)
      have begins (branch : List Node) (rest : Rest) : (ofList (item :: branch)).run mode spot rest =
          (item.run mode spot some).bind fun next => (ofList branch).run mode next rest := by
        rw [run_ofList_cons]
        exact (run_of_alike alike spot _).1
      have alikes : (others.any fun other => ((ofList other).run mode spot rest).isSome) =
          others.any fun other =>
            ((item.run mode spot some).bind fun next => (ofList other.tail).run mode next rest).isSome := by
        rw [Bool.eq_iff_iff, List.any_eq_true, List.any_eq_true]
        refine exists_congr fun other => and_congr_right fun inside => ?_
        obtain ⟨head, alike, is⟩ := exists_of_alike (List.all_eq_true.mp same other inside)
        rw [is, run_ofList_cons, (run_of_alike alike spot _).2, List.tail_cons]
      rw [begins, List.any_cons, begins, alikes]
      cases item.run mode spot some with
      | none => simp
      | some next =>
          have any := ih (by simpa using several) next reached
          rw [List.any_cons, List.any_map] at any
          exact any

theorem isSome_one (test : Test) (spot : Spot) (rest : Rest) :
    ((one test).run mode spot rest).isSome =
      spot.step?.any fun step => test.accepts mode step.1 && (rest step.2).isSome := by
  rw [run]
  cases spot.step? with
  | none => rfl
  | some step =>
      obtain ⟨letter, next⟩ := step
      rw [Option.any_some]
      dsimp only
      cases test.accepts mode letter <;> rfl

theorem isSome_set (exact : mode.ignoreCase = false) (items : List SetItem) (spot : Spot) (rest : Rest) :
    ((one (.set false items)).run mode spot rest).isSome = spot.step?.any fun step =>
      items.any (·.contains mode.ascii step.1.toNat) && (rest step.2).isSome := by
  rw [isSome_one]
  simp [Test.accepts, exact]

theorem isSome_members {branch : List Node} {items : List SetItem} (exact : mode.ignoreCase = false)
    (read : members? branch = some items) (spot : Spot) (rest : Rest) :
    ((ofList branch).run mode spot rest).isSome = spot.step?.any fun step =>
      items.any (·.contains mode.ascii step.1.toNat) && (rest step.2).isSome := by
  unfold members? at read
  split at read
  · next value =>
      cases read
      rw [ofList, isSome_one]
      simp [Test.accepts, Test.isCode, SetItem.contains, exact]
  · cases read
    rw [ofList, isSome_set exact]
  · cases read

theorem isSome_flatten {branches : List (List Node)} {members : List (List SetItem)}
    (exact : mode.ignoreCase = false)
    (read : List.Forall₂ (fun branch items => members? branch = some items) branches members)
    (spot : Spot) (rest : Rest) :
    ((one (.set false members.flatten.eraseDups)).run mode spot rest).isSome =
      branches.any fun branch => ((ofList branch).run mode spot rest).isSome := by
  have dropped (test : SetItem → Bool) : members.flatten.eraseDups.any test = members.flatten.any test := by
    rw [Bool.eq_iff_iff, List.any_eq_true, List.any_eq_true]
    simp only [List.mem_eraseDups]
  simp only [isSome_set exact, dropped]
  clear dropped
  induction read with
  | nil => cases spot.step? <;> rfl
  | cons found _ ih =>
      rw [List.any_cons, ← ih, isSome_members exact found]
      cases spot.step? with
      | none => rfl
      | some step => simp only [Option.any_some, List.flatten_cons, List.any_append, Bool.and_or_distrib_right]

theorem splitStart_ne_nil (first : List Node) (others : List (List Node)) : (splitStart first others).2 ≠ [] := by
  fun_induction splitStart first others with
  | case1 others => exact List.cons_ne_nil _ _
  | case2 item branch others same start branches is ih => rwa [is] at ih
  | case3 item branch others different => exact List.cons_ne_nil _ _

theorem isSome_ofBranches {branches : List (List Node)} (exact : mode.ignoreCase = false)
    (some : branches ≠ []) (spot : Spot) (rest : Rest) :
    ((ofBranches branches).run mode spot rest).isSome =
      branches.any fun branch => ((ofList branch).run mode spot rest).isSome := by
  unfold ofBranches
  split
  · exact absurd rfl some
  · simp
  · next first others several =>
      have several : others ≠ [] := by
        rintro rfl
        exact several rfl
      dsimp only
      split
      · next members found =>
          rw [run_ofList_append]
          exact isSome_splitStart several spot
            fun next => isSome_flatten exact (members_of_mapM found) next rest
      · rw [run_ofList_append]
        refine isSome_splitStart several spot fun next => ?_
        rw [ofList, isSome_choice (by simpa using splitStart_ne_nil first others), List.any_map]
        rfl

end run

end Node

end SchemaMerge.Pattern
