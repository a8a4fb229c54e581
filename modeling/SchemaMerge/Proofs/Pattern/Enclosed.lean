import SchemaMerge.Proofs.Pattern.Items

/-!
A plain pattern is read the same in front of a closing parenthesis. The functions of the reader call
each other with ever less fuel; each needs six units for a character that is left, and a few more
for the calls before the next character.
-/

namespace SchemaMerge.Pattern.Parse

variable {more : List Char} {inner : Bool} {start : Progress}

def prefixed (items : List Node) : List (List Node) → List (List Node)
  | [] => []
  | branch :: branches => (items ++ branch) :: branches

/-- Alternatives of which the first goes on with items in reverse order, each part with its own fuel. -/
def branchesBehind (fuel others : Nat) (verbose first : Bool) (items : List Node) :
    Parse (List (List Node)) := do
  let branch ← sequence fuel verbose first items
  if ← accept '|' then return branch :: (← branches others verbose true false)
  else return [branch]

theorem prefixed_nil (branches : List (List Node)) : prefixed [] branches = branches := by
  cases branches <;> rfl

theorem prefixed_ne_nil {items : List Node} {branches : List (List Node)} (some : branches ≠ []) :
    prefixed items branches ≠ [] := by
  cases branches with
  | nil => exact absurd rfl some
  | cons first others => exact List.cons_ne_nil _ _

theorem forall_mem_prefixed {holds : Node → Prop} {items : List Node} {branches : List (List Node)}
    (starts : ∀ node ∈ items, holds node) (kept : ∀ branch ∈ branches, ∀ node ∈ branch, holds node) :
    ∀ branch ∈ prefixed items branches, ∀ node ∈ branch, holds node := by
  cases branches with
  | nil => exact kept
  | cons first others =>
      obtain ⟨kept, keeps⟩ := List.forall_mem_cons.mp kept
      exact List.forall_mem_cons.mpr ⟨List.forall_mem_append.mpr ⟨starts, kept⟩, keeps⟩

theorem branches_eq (fuel : Nat) (verbose first : Bool) :
    branches (fuel + 1) verbose true first = branchesBehind fuel fuel verbose first [] := by
  rw [branches]
  rfl

def Opening.IsPlain : Opening → Prop
  | .item node => node.isGroupless = true
  | .comment => True
  | .flags => False

/-- A branch read behind items in reverse order has no groups, and begins with the anchor that they begin
with. -/
def IsBranch (items branch : List Node) : Prop :=
  AreGroupless branch ∧ ∀ kind, items.getLast? = some (.anchor kind) → branch.head? = some (.anchor kind)

/-- The functions of the reader, with so much fuel, do in front of a closing parenthesis what they do
in front of the end. -/
structure Reads (fuel : Nat) : Prop where
  sequence : ∀ {more start verbose first first' items base fuel'},
    6 * start.cursor.left + 1 ≤ fuel → 6 * (start.cursor.left + more.length + 1) + 1 ≤ fuel' →
    (start.IsPlain verbose → AreGroupless items) →
    Follows more verbose start (Parse.sequence fuel verbose first items)
      (Parse.sequence fuel' verbose first' (items ++ base)) (base.reverse.flatMap Node.spliced ++ ·) (IsBranch items)
  branches : ∀ {more start verbose nested first first' base fuel' others},
    6 * start.cursor.left + 2 ≤ fuel → 6 * (start.cursor.left + more.length + 1) + 1 ≤ fuel' →
    fuel' ≤ others → (nested = false → verbose = false) →
    Follows more verbose start (Parse.branches fuel verbose nested first)
      (branchesBehind fuel' others verbose first' base) (prefixed (base.reverse.flatMap Node.spliced))
      fun made => ∀ branch ∈ made, AreGroupless branch
  growsBranches : ∀ {start verbose nested first}, 6 * start.cursor.left + 2 ≤ fuel →
    Grows start (Parse.branches fuel verbose nested first)
  enclosed : ∀ {more start verbose place place' fuel'},
    6 * start.cursor.left + 3 ≤ fuel → 6 * (start.cursor.left + more.length + 1) + 3 ≤ fuel' →
    Follows more false start (Parse.enclosed fuel verbose place) (Parse.enclosed fuel' verbose place')
      (fun made => made) (·.isGroupless = true)
  behind : ∀ {more start verbose place place' fuel'},
    6 * start.cursor.left + 3 ≤ fuel → 6 * (start.cursor.left + more.length + 1) + 3 ≤ fuel' →
    Follows more false start (Parse.behind fuel verbose place) (Parse.behind fuel' verbose place')
      (fun made => made) (·.isGroupless = true)
  captured : ∀ {start verbose place name}, 6 * start.cursor.left + 4 ≤ fuel →
    Spoils false start (Parse.captured fuel verbose place name)
  condition : ∀ {start verbose place}, 6 * start.cursor.left + 3 ≤ fuel →
    Spoils false start (Parse.condition fuel verbose place)
  parenthesis : ∀ {more start verbose place place' fuel'},
    6 * start.cursor.left + 5 ≤ fuel → 6 * (start.cursor.left + more.length + 1) + 5 ≤ fuel' →
    Follows more false start (Parse.parenthesis fuel verbose place) (Parse.parenthesis fuel' verbose place')
      (fun made => made) Opening.IsPlain

theorem grows_isVerbose : Grows start isVerbose := by
  intro made stop ran
  cases ran
  exact .refl start

namespace Reads

variable {fuel fuel' : Nat}

theorem areGroupless_spliced {items : List Node} (clean : AreGroupless items) :
    AreGroupless (items.reverse.flatMap Node.spliced) := by
  intro node inside
  obtain ⟨item, present, inside⟩ := List.mem_flatMap.mp inside
  have groupless := clean item (List.mem_reverse.mp present)
  unfold Node.spliced at inside
  split at inside
  · next body =>
      have groupless : body.isGroupless = true := groupless
      exact Node.inherited_isGroupless.of_mem_items groupless node inside
  · obtain rfl := List.mem_singleton.mp inside
    exact groupless

theorem grows_sequence (reads : Reads fuel) {verbose first : Bool} {items : List Node}
    (enough : 6 * start.cursor.left + 1 ≤ fuel) (clean : start.IsPlain verbose → AreGroupless items) :
    Grows start (Parse.sequence fuel verbose first items) :=
  have follows : Follows [] verbose start (Parse.sequence fuel verbose first items)
      (Parse.sequence (6 * (start.cursor.left + 1) + 1) verbose first (items ++ [])) _ _ :=
    reads.sequence enough (Nat.le_refl _) clean
  follows.grows

theorem grows_enclosed (reads : Reads fuel) {verbose : Bool} {place : Nat}
    (enough : 6 * start.cursor.left + 3 ≤ fuel) : Grows start (Parse.enclosed fuel verbose place) :=
  have follows : Follows [] false start (Parse.enclosed fuel verbose place)
      (Parse.enclosed (6 * (start.cursor.left + 1) + 3) verbose place) _ _ :=
    reads.enclosed enough (Nat.le_refl _)
  follows.grows

theorem head_spliced {items : List Node} {kind : Anchor} (first : items.getLast? = some (.anchor kind)) :
    (items.reverse.flatMap Node.spliced).head? = some (.anchor kind) := by
  rw [← List.head?_reverse] at first
  cases reversed : items.reverse with
  | nil => simp [reversed] at first
  | cons item others =>
      rw [reversed] at first
      cases first
      rfl

section sequence

variable {verbose first first' : Bool} {items base further : List Node}

abbrev Continues (more : List Char) (start : Progress) (verbose first first' : Bool) (fuel fuel' : Nat)
    (items base further : List Node) : Prop :=
  Follows more verbose start (Parse.sequence fuel verbose first further)
    (Parse.sequence fuel' verbose first' (further ++ base)) (base.reverse.flatMap Node.spliced ++ ·)
    (IsBranch items)

theorem continues (reads : Reads fuel) (enough : 6 * start.cursor.left + 1 ≤ fuel)
    (enough' : 6 * (start.cursor.left + more.length + 1) + 1 ≤ fuel')
    (fits : start.IsPlain verbose → AreGroupless further ∧ KeepsAnchor items further) :
    Continues more start verbose first first' fuel fuel' items base further :=
  (reads.sequence enough enough' fun plain => (fits plain).1).imp fun plain _ is =>
    ⟨is.1, fun kind => is.2 kind ∘ (fits plain).2 kind⟩

theorem continues_same (reads : Reads fuel) (enough : 6 * start.cursor.left + 1 ≤ fuel)
    (enough' : 6 * (start.cursor.left + more.length + 1) + 1 ≤ fuel')
    (clean : start.IsPlain verbose → AreGroupless items) :
    Continues more start verbose first first' fuel fuel' items base items :=
  reads.sequence enough enough' clean

theorem continues_cons (reads : Reads fuel) {node : Node} (enough : 6 * start.cursor.left + 1 ≤ fuel)
    (enough' : 6 * (start.cursor.left + more.length + 1) + 1 ≤ fuel')
    (clean : start.IsPlain verbose → AreGroupless items)
    (groupless : start.IsPlain verbose → node.isGroupless = true) :
    Continues more start verbose first first' fuel fuel' items base (node :: items) :=
  reads.continues enough enough' fun plain =>
    ⟨List.forall_mem_cons.mpr ⟨groupless plain, clean plain⟩, .cons node items⟩

def opened (fuel : Nat) (verbose first : Bool) (items : List Node) : Parse (List Node) := do
  let start := (← position) - 1
  match ← Parse.parenthesis fuel verbose start with
  | .item node => Parse.sequence fuel verbose first (node :: items)
  | .comment => Parse.sequence fuel verbose first items
  | .flags =>
    if !first || !items.isEmpty then failAt .lateFlags start
    Parse.sequence fuel (← isVerbose) first items

theorem follows_opened (reads : Reads fuel) (enough : 6 * start.cursor.left + 5 ≤ fuel)
    (enough' : 6 * (start.cursor.left + more.length + 1) + 5 ≤ fuel')
    (clean : start.IsPlain verbose → AreGroupless items) :
    Follows more verbose start (opened fuel verbose first items) (opened fuel' verbose first' (items ++ base))
      (base.reverse.flatMap Node.spliced ++ ·) (IsBranch items) := by
  refine .position fun place place' => ?_
  refine .bind_strict (reads.parenthesis enough enough') fun opening stop grown fits => ?_
  have left := grown.left
  have clean' (plain : stop.IsPlain verbose) : AreGroupless items := clean (grown.isPlain plain)
  cases opening with
  | item node => exact reads.continues_cons (by omega) (by omega) clean' fun plain => fits plain.weaken
  | comment => exact reads.continues_same (by omega) (by omega) clean'
  | flags =>
      refine (Grows.spoils ?_ fun plain => fits plain.weaken).follows
      dsimp only
      split
      · exact (fails_failAt _ _).bind.grows
      · refine Grows.bind grows_isVerbose fun verbose stop' grown' => ?_
        have left' := grown'.left
        exact reads.grows_sequence (by omega) fun plain => (fits (grown'.isPlain plain.weaken)).elim

def lettered (fuel : Nat) (verbose first : Bool) (letter : Char) (items : List Node) : Parse (List Node) := do
  if verbose && isLayoutBlank letter then Parse.sequence fuel verbose first items
  else if verbose && letter = '#' then
    lineComment (← remaining)
    Parse.sequence fuel verbose first items
  else if letter = '[' then Parse.sequence fuel verbose first ((← characterSet) :: items)
  else if letter = '*' || letter = '+' || letter = '?' || letter = '{' then
    Parse.sequence fuel verbose first (← repetition letter items)
  else if letter = '.' then Parse.sequence fuel verbose first (.one .any :: items)
  else if letter = '^' then Parse.sequence fuel verbose first (.anchor .lineStart :: items)
  else if letter = '$' then Parse.sequence fuel verbose first (.anchor .lineEnd :: items)
  else if letter = '(' then opened fuel verbose first items
  else Parse.sequence fuel verbose first (.ofCharacter letter :: items)

theorem follows_lettered (reads : Reads fuel) (letter : Char) (enough : 6 * start.cursor.left + 5 ≤ fuel)
    (enough' : 6 * (start.cursor.left + more.length + 1) + 5 ≤ fuel')
    (clean : start.IsPlain verbose → AreGroupless items) :
    Follows more verbose start (lettered fuel verbose first letter items)
      (lettered fuel' verbose first' letter (items ++ base)) (base.reverse.flatMap Node.spliced ++ ·)
      (IsBranch items) := by
  have single {node : Node} (groupless : node.isGroupless = true) :
      Continues more start verbose first first' fuel fuel' items base (node :: items) :=
    reads.continues_cons (by omega) (by omega) clean fun _ => groupless
  refine .ite (fun _ => reads.continues_same (by omega) (by omega) clean) fun _ => ?_
  refine .ite (fun comments => ?_) fun _ => ?_
  · obtain ⟨rfl, -⟩ := Bool.and_eq_true_iff.mp comments
    refine .remaining fun fuel fuel' enough enough' => ?_
    refine .bind (repeats_lineComment enough enough') fun _ stop grown _ => ?_
    have left := grown.left
    exact reads.continues_same (by omega) (by omega) fun plain => clean (grown.isPlain plain)
  refine .ite (fun _ => ?_) fun _ => ?_
  · refine .bind follows_characterSet fun set stop grown fits => ?_
    have left := grown.left
    exact reads.continues_cons (by omega) (by omega) (fun plain => clean (grown.isPlain plain)) fits
  refine .ite (fun _ => ?_) fun _ => ?_
  · refine .bind (follows_repetition letter clean) fun repeated stop grown fits => ?_
    have left := grown.left
    exact reads.continues (by omega) (by omega) fits
  refine .ite (fun _ => single rfl) fun _ => ?_
  refine .ite (fun _ => single rfl) fun _ => ?_
  refine .ite (fun _ => single rfl) fun _ => ?_
  exact .ite (fun _ => reads.follows_opened enough enough' clean) fun _ => single rfl

theorem sequence_succ (reads : Reads fuel) (enough : 6 * start.cursor.left + 1 ≤ fuel + 1)
    (enough' : 6 * (start.cursor.left + more.length + 1) + 1 ≤ fuel' + 1)
    (clean : start.IsPlain verbose → AreGroupless items) :
    Continues more start verbose first first' (fuel + 1) (fuel' + 1) items base items := by
  have ends : Follows more verbose start (pure (items.reverse.flatMap Node.spliced))
      (pure ((items ++ base).reverse.flatMap Node.spliced)) (base.reverse.flatMap Node.spliced ++ ·)
      (IsBranch items) :=
    .pure (by simp) fun plain => ⟨areGroupless_spliced (clean plain), fun _ => head_spliced⟩
  rw [Continues, Parse.sequence, Parse.sequence]
  refine .peek (fun token present => ?_) fun ended => ends
  split
  · next is => cases is
  · exact ends
  · exact ends
  · next letter _ =>
      refine .advance present fun stop grown less => ?_
      refine .bind (repeats_escape letter) fun escape stop grown' _ => ?_
      have left := grown'.left
      exact reads.continues_cons (by omega) (by omega)
        (fun plain => clean (grown.isPlain (grown'.isPlain plain))) fun _ => escape.isGroupless_node
  · next letter _ _ _ =>
      -- behind a character there are six units to spare, which is why the parenthesis may take five
      refine .advance present fun stop grown less => ?_
      exact reads.follows_lettered letter (by omega) (by omega) fun plain => clean (grown.isPlain plain)

end sequence

theorem branches_enclosed (reads : Reads fuel) {verbose nested first first' : Bool}
    (enough : 6 * start.cursor.left + 2 ≤ fuel)
    (enough' : 6 * (start.cursor.left + more.length + 1) + 2 ≤ fuel') (same : nested = false → verbose = false) :
    Follows more verbose start (Parse.branches fuel verbose nested first)
      (Parse.branches fuel' verbose true first') (fun made => made)
      fun made => ∀ branch ∈ made, AreGroupless branch := by
  obtain ⟨fuel', rfl⟩ : ∃ fewer, fuel' = fewer + 1 := ⟨fuel' - 1, by omega⟩
  rw [branches_eq]
  have follows : Follows more verbose start (Parse.branches fuel verbose nested first)
      (branchesBehind fuel' fuel' verbose first' []) (prefixed []) fun made => ∀ branch ∈ made, AreGroupless branch :=
    reads.branches enough (by omega) (Nat.le_refl _) same
  exact funext prefixed_nil ▸ follows

theorem follows_isVerbose {α β : Type} {next : Bool → Parse α} {whole : Parse β} {as : α → β} {good : α → Prop}
    (follows : Follows more inner start (next false) whole as good)
    (grows : ∀ verbose, Grows start (next verbose)) :
    Follows more inner start (isVerbose >>= next) whole as good := by
  by_cases plain : start.IsPlain false
  · refine .stepped (.refl start) (?_ : _ = (next false).run start) follows fun ahead mirrors => ⟨ahead, rfl, mirrors⟩
    change (next (start.flags.contains .verbose)).run start = _
    rw [plain.flags]
    rfl
  · refine (Grows.spoils (fun made stop ran => ?_) fun plain' => plain plain'.weaken).follows
    exact grows (start.flags.contains .verbose) ran

theorem branches_succ (reads : Reads fuel) {verbose nested first first' : Bool} {base : List Node}
    {others : Nat} (enough : 6 * start.cursor.left + 2 ≤ fuel + 1)
    (enough' : 6 * (start.cursor.left + more.length + 1) + 1 ≤ fuel') (further : fuel' ≤ others)
    (same : nested = false → verbose = false) :
    Follows more verbose start (Parse.branches (fuel + 1) verbose nested first)
      (branchesBehind fuel' others verbose first' base) (prefixed (base.reverse.flatMap Node.spliced))
      fun made => ∀ branch ∈ made, AreGroupless branch := by
  rw [Parse.branches]
  unfold branchesBehind
  refine .bind (reads.sequence (by omega) (by omega) fun _ => List.forall_mem_nil _) fun branch stop grown fits => ?_
  have within := grown.left
  refine .accept (by decide) (fun stop' grown' less => ?_) ?_
  · have continues : Follows more verbose stop'
        (do return branch :: (← Parse.branches fuel verbose nested false))
        (do return (base.reverse.flatMap Node.spliced ++ branch) :: (← Parse.branches others verbose true false))
        (prefixed (base.reverse.flatMap Node.spliced)) fun made => ∀ branch ∈ made, AreGroupless branch := by
      refine .bind (reads.branches_enclosed (by omega) (by omega) same) fun branches stop grown'' fits' => ?_
      refine .pure rfl fun plain => List.forall_mem_cons.mpr ⟨?_, fits' plain⟩
      exact (fits (grown'.isPlain (grown''.isPlain plain))).1
    cases nested with
    | true => exact continues
    | false =>
        obtain rfl := same rfl
        refine follows_isVerbose continues fun verbose => ?_
        exact Grows.bind (reads.growsBranches (by omega)) fun _ _ _ => Grows.pure _
  · exact .pure rfl fun plain => List.forall_mem_singleton.mpr (fits plain).1

theorem growsBranches_succ (reads : Reads fuel) {verbose nested first : Bool}
    (enough : 6 * start.cursor.left + 2 ≤ fuel + 1) :
    Grows start (Parse.branches (fuel + 1) verbose nested first) := by
  rw [Parse.branches]
  refine Grows.bind (reads.grows_sequence (by omega) fun _ => List.forall_mem_nil _) fun branch stop grown => ?_
  have further := grown.left
  refine Grows.accept (fun stop' grown' less => ?_) (Grows.pure _)
  have others {stop : Progress} (verbose : Bool) (grown : stop'.Grows stop) :
      Grows stop (do return branch :: (← Parse.branches fuel verbose nested false)) := by
    have further' := grown.left
    exact Grows.bind (reads.growsBranches (by omega)) fun _ _ _ => Grows.pure _
  cases nested with
  | true => exact others verbose (.refl stop')
  | false => exact Grows.bind grows_isVerbose fun verbose stop grown => others verbose grown

theorem fails_closeParenthesis {place : Nat} (ended : start.cursor.next = none) :
    Fails start (closeParenthesis place) := by
  intro made stop ran
  unfold closeParenthesis at ran
  rw [accept_bind, run_peek, if_neg (by simp [ended])] at ran
  exact fails_failAt _ _ ran

theorem repeats_closeParenthesis (place place' : Nat) :
    Repeats more inner start (closeParenthesis place) (closeParenthesis place') := by
  unfold closeParenthesis
  rw [accept_bind, accept_bind]
  refine .peek (fun token present => ?_) fun ended => ?_
  · split
    · exact .advance present fun stop grown less => .same _
    · exact (fails_failAt _ _).spoils.follows
  · rw [if_neg (by simp)]
    exact (fails_failAt _ _).spoils.follows

theorem grows_closeParenthesis (place : Nat) : Grows start (closeParenthesis place) :=
  have repeats : Repeats [] false start _ _ := repeats_closeParenthesis place place
  repeats.grows

theorem grows_peek : Grows start peek := by
  intro made stop ran
  cases ran
  exact .refl start

theorem groupless_ofBranches {branches : List (List Node)} (clean : ∀ branch ∈ branches, AreGroupless branch) :
    (Node.ofBranches branches).isGroupless = true :=
  Node.inherited_isGroupless.ofBranches_iff.mpr clean

theorem enclosed_succ (reads : Reads fuel) {verbose : Bool} {place place' : Nat}
    (enough : 6 * start.cursor.left + 3 ≤ fuel + 1)
    (enough' : 6 * (start.cursor.left + more.length + 1) + 3 ≤ fuel' + 1) :
    Follows more false start (Parse.enclosed (fuel + 1) verbose place) (Parse.enclosed (fuel' + 1) verbose place')
      (fun made => made) (·.isGroupless = true) := by
  rw [Parse.enclosed, Parse.enclosed]
  refine .bind_unended (reads.branches_enclosed (by omega) (by omega) fun is => (Bool.false_ne_true is.symm).elim)
    (fun branches stop ended => (fails_closeParenthesis ended).bind) fun branches stop grown fits => ?_
  refine .bind (repeats_closeParenthesis place place') fun _ stop' grown' _ => ?_
  exact .pure rfl fun plain => groupless_ofBranches (fits (grown'.isPlain plain))

section behind

variable {α β : Type} {as : α → β} {good : α → Prop}

theorem follows_get {next : Progress → Parse α} {next' : Progress → Parse β}
    (rest : ∀ here here', Follows more inner start (next here) (next' here') as good) :
    Follows more inner start (get >>= next) (get >>= next') as good :=
  .step (.refl start) run_get (rest start start).grows (rest start start).good fun ahead mirrors =>
    ⟨next' ahead, ahead, run_get, mirrors, rest start ahead⟩

theorem follows_groupCount {next : Nat → Parse α} {next' : Nat → Parse β}
    (rest : ∀ count count', Follows more inner start (next count) (next' count') as good) :
    Follows more inner start (groupCount >>= next) (groupCount >>= next') as good :=
  follows_get fun here here' => rest (here.groups.length + 1) (here'.groups.length + 1)

/-- Where a look-behind began matters to references only. -/
theorem follows_setBehind (behind behind' : Option Nat) {next : Unit → Parse α} {next' : Unit → Parse β}
    (rest : ∀ stop, start.Grows stop → Follows more inner stop (next ()) (next' ()) as good) :
    Follows more inner start
      ((modify fun progress => { progress with behind := behind }) >>= next)
      ((modify fun progress => { progress with behind := behind' }) >>= next') as good := by
  have grown : start.Grows { start with behind := behind } :=
    ⟨Nat.le_refl _, fun plain => { plain with }, id⟩
  refine .stepped grown (?_ : _ = (next ()).run _) (rest _ grown) fun ahead mirrors =>
    ⟨{ ahead with behind := behind' }, rfl, mirrors.cursor, { mirrors.plain with }⟩
  rfl

end behind

theorem behind_succ (reads : Reads fuel) {verbose : Bool} {place place' : Nat}
    (enough : 6 * start.cursor.left + 3 ≤ fuel + 1)
    (enough' : 6 * (start.cursor.left + more.length + 1) + 3 ≤ fuel' + 1) :
    Follows more false start (Parse.behind (fuel + 1) verbose place) (Parse.behind (fuel' + 1) verbose place')
      (fun made => made) (·.isGroupless = true) := by
  rw [Parse.behind, Parse.behind]
  refine follows_get fun here here' => follows_groupCount fun count count' => ?_
  refine follows_setBehind _ _ fun stop grown => ?_
  have further := grown.left
  refine .bind_unended (reads.branches_enclosed (by omega) (by omega) fun is => (Bool.false_ne_true is.symm).elim)
    (fun branches stop ended => ?_) fun branches stop grown fits => ?_
  · intro made stop' ran
    have closing : Fails { stop with behind := here.behind } (do
        closeParenthesis place
        return Node.ofBranches branches) := Fails.bind (fails_closeParenthesis ended)
    exact closing ran
  refine follows_setBehind _ _ fun stop grown' => ?_
  refine .bind (repeats_closeParenthesis place place') fun _ stop' grown'' _ => ?_
  exact .pure rfl fun plain => groupless_ofBranches (fits (grown'.isPlain (grown''.isPlain plain)))

theorem captured_succ (reads : Reads fuel) {verbose : Bool} {place : Nat} {name : Option (List Char)}
    (enough : 6 * start.cursor.left + 4 ≤ fuel + 1) :
    Spoils false start (Parse.captured (fuel + 1) verbose place name) := by
  rw [Parse.captured]
  refine (spoils_openGroup name).bind fun index stop grown => ?_
  have further := grown.left
  refine Grows.bind ?_ fun node stop grown' => ?_
  · exact reads.grows_enclosed (by omega)
  · exact Grows.bind (grows_closeGroup _ _) fun _ _ _ => Grows.pure _

theorem condition_succ (reads : Reads fuel) {verbose : Bool} {place : Nat}
    (enough : 6 * start.cursor.left + 3 ≤ fuel + 1) :
    Spoils false start (Parse.condition (fuel + 1) verbose place) := by
  rw [Parse.condition]
  refine spoils_conditionGroup.bind fun index stop grown => ?_
  have further := grown.left
  refine Grows.bind (grows_checkBehind index) fun _ stop grown => ?_
  have further := grown.left
  refine Grows.bind (reads.grows_sequence (by omega) fun _ => List.forall_mem_nil _) fun present stop grown => ?_
  have further := grown.left
  have closes (absent : Node) {stop : Progress} : Grows stop (do
      closeParenthesis place
      return Node.conditional index (Node.ofList present) absent) :=
    Grows.bind (grows_closeParenthesis place) fun _ _ _ => Grows.pure _
  refine Grows.accept (fun stop grown less => ?_) (closes .empty)
  refine Grows.bind (reads.grows_sequence (by omega) fun _ => List.forall_mem_nil _) fun absent stop grown => ?_
  refine Grows.bind grows_peek fun token stop grown => ?_
  dsimp only
  split
  · exact (fails_fail _ _).bind.grows
  · exact closes _

theorem parenthesis_succ (reads : Reads fuel) {verbose : Bool} {place place' : Nat}
    (enough : 6 * start.cursor.left + 5 ≤ fuel + 1)
    (enough' : 6 * (start.cursor.left + more.length + 1) + 5 ≤ fuel' + 1) :
    Follows more false start (Parse.parenthesis (fuel + 1) verbose place)
      (Parse.parenthesis (fuel' + 1) verbose place') (fun made => made) Opening.IsPlain := by
  have enclosed {stop : Progress} (less : stop.cursor.left < start.cursor.left) (inside : Bool) :
      Follows more false stop (Parse.enclosed fuel inside place) (Parse.enclosed fuel' inside place')
        (fun made => made) (·.isGroupless = true) :=
    reads.enclosed (by omega) (by omega)
  have behind {stop : Progress} (less : stop.cursor.left < start.cursor.left) :
      Follows more false stop (Parse.behind fuel verbose place) (Parse.behind fuel' verbose place')
        (fun made => made) (·.isGroupless = true) :=
    reads.behind (by omega) (by omega)
  have captured {stop : Progress} (within : stop.cursor.left ≤ start.cursor.left) (name : Option (List Char)) :
      Spoils false stop (do return Opening.item (← Parse.captured fuel verbose place name)) :=
    (reads.captured (by omega)).bind fun _ _ _ => Grows.pure _
  rw [Parse.parenthesis, Parse.parenthesis]
  refine .accept (by decide) (fun stop grown less => ?_) (captured (Nat.le_refl _) none).follows
  refine .take (fun token stop grown' less' => ?_) fun ended => (fails_fail _ _).spoils
  split
  · next is => cases is
  · refine .accept (by decide) (fun stop grown less'' => ?_) ?_
    · refine .bind (repeats_groupName '>') fun letters stop grown _ => ?_
      have further := grown.left
      exact (captured (by omega) (some letters)).follows
    · refine .accept (by decide) (fun stop grown less'' => ?_) ?_
      · exact (spoils_namedReference.bind fun _ _ _ => Grows.pure _).follows
      · refine .take (fun token stop grown less'' => ?_) fun ended => (fails_fail _ _).spoils
        exact (fails_fail _ _).spoils.follows
  · exact .bind (enclosed (by omega) verbose) fun node stop grown fits => .pure rfl fits
  · exact .bind (enclosed (by omega) verbose) fun node stop grown fits => .pure rfl fits
  · refine .remaining fun fuel fuel' enough enough' => ?_
    exact .bind (repeats_comment _ _ enough enough') fun _ stop grown _ => .pure rfl fun _ => trivial
  · exact .bind (enclosed (by omega) verbose) fun node stop grown fits => .pure rfl fits
  · exact .bind (enclosed (by omega) verbose) fun node stop grown fits => .pure rfl fits
  · refine .take (fun token stop grown less'' => ?_) fun ended => (fails_fail _ _).spoils
    split
    · next is => cases is
    · exact .bind (behind (by omega)) fun node stop grown fits => .pure rfl fits
    · exact .bind (behind (by omega)) fun node stop grown fits => .pure rfl fits
    · exact (fails_fail _ _).spoils.follows
  · exact ((reads.condition (by omega)).bind fun _ _ _ => Grows.pure _).follows
  · split
    · next flags =>
        refine .bind (follows_flagChange (by simpa using flags)) fun change stop grown fits => ?_
        have further := grown.left
        cases change with
        | none => exact .pure rfl fun plain => (fits plain rfl).elim
        | some change => exact .bind (enclosed (by omega) _) fun node stop grown fits => .pure rfl fits
    · exact (fails_fail _ _).spoils.follows

end Reads

theorem reads (fuel : Nat) : Reads fuel := by
  induction fuel with
  | zero => constructor <;> intros <;> omega
  | succ fuel ih =>
      constructor
      case sequence =>
        intro more start verbose first first' items base fuel' enough enough' clean
        obtain ⟨fuel', rfl⟩ : ∃ fewer, fuel' = fewer + 1 := ⟨fuel' - 1, by omega⟩
        exact ih.sequence_succ enough enough' clean
      case branches => exact fun enough enough' further same => ih.branches_succ enough enough' further same
      case growsBranches => exact fun enough => ih.growsBranches_succ enough
      case enclosed =>
        intro more start verbose place place' fuel' enough enough'
        obtain ⟨fuel', rfl⟩ : ∃ fewer, fuel' = fewer + 1 := ⟨fuel' - 1, by omega⟩
        exact ih.enclosed_succ enough enough'
      case behind =>
        intro more start verbose place place' fuel' enough enough'
        obtain ⟨fuel', rfl⟩ : ∃ fewer, fuel' = fewer + 1 := ⟨fuel' - 1, by omega⟩
        exact ih.behind_succ enough enough'
      case captured => exact fun enough => ih.captured_succ enough
      case condition => exact fun enough => ih.condition_succ enough
      case parenthesis =>
        intro more start verbose place place' fuel' enough enough'
        obtain ⟨fuel', rfl⟩ : ∃ fewer, fuel' = fewer + 1 := ⟨fuel' - 1, by omega⟩
        exact ih.parenthesis_succ enough enough'

end SchemaMerge.Pattern.Parse
