import ImageBuilder.CacheCommit

set_option autoImplicit false

/- The sources a build accepts: git_download, download and rkbin_download over
runs that fail or are killed. -/
namespace ImageBuilder.GitCache

variable {Hash : Type}

/-- Everything extra_git looks for is among the files. -/
def brings (family : Family) (files : List PlainText.Text) : Bool :=
  (extra_git family).all fun bins => (missing bins files).isNone

/-- The full checkout, with the product of extra_git where the family has one. -/
def Full (family : Family) (tree : Tree Hash) : Prop :=
  tree.commit?.isSome = true ∧ brings family tree.extra = true

/-- Whatever got past git_download builds a full tree. -/
def Accepted (family : Family) (state : State Hash) : Prop :=
  ∀ GIT_HASH ok KERNEL, state.run = some (.past GIT_HASH ok KERNEL) →
    Full family KERNEL ∧ KERNEL.Makefile = true

/-- Neither the clone nor the removal ends with a part of a tree in the directory,
and once a tree is cloned, its extra_git step succeeds before the run ends. -/
def Whole (family : Family) (state : State Hash) (event : Event Hash) : Prop :=
  match state.run, event with
  | some (.clone _), .fail rest => rest = none
  | some (.clone _), .kill left | some (.remove _), .kill left =>
    left = .unchanged ∨ left = .tree none
  | some (.testMakefile _), .kill _ => extra_git family = none ∨ state.tree = none
  | some (.extraGit _), .fetch files => brings family files = true
  | some (.extraGit _), .kill (.extra files) => brings family files = true
  | some (.extraGit _), .kill _ => False
  | _, _ => True

def AllFull (family : Family) (state : State Hash) : Prop :=
  ∀ tree, state.tree = some tree → Full family tree

/-- What each command finds. -/
def Complete (family : Family) (state : State Hash) : Prop :=
  match state.run with
  | none | some .readHash | some (.testCache _) | some (.dropRecord _) =>
    state.record = none ∨ AllFull family state
  | some (.dropTree _) => state.record = none
  | some (.sourceRecord _) =>
    (state.record = none → state.tree = none) ∧ AllFull family state
  | some (.writeShallow _) | some (.writeCommit _) | some (.clone _) => state.tree = none
  | some (.compare _ _) | some (.rewrite _) | some (.remove _) | some (.testTree _ _)
  | some (.restore _ _) | some (.prepare _) => AllFull family state
  | some (.testMakefile _) | some (.extraGit _) =>
    ∀ tree, state.tree = some tree → tree.commit?.isSome = true
  | some (.past _ _ KERNEL) => AllFull family state ∧ Full family KERNEL

theorem allFull_of_gone {family : Family} {state : State Hash} (gone : state.tree = none) :
    AllFull family state := by
  intro tree found
  cases gone.symm.trans found

theorem brings_of_none {family : Family} (undefined : extra_git family = none)
    (files : List PlainText.Text) : brings family files = true := by
  simp [brings, undefined]

/-- A family without extra_git has no more to ask of a checkout. -/
theorem allFull_of_checkout {family : Family} {state : State Hash}
    (undefined : extra_git family = none)
    (checkout : ∀ tree, state.tree = some tree → tree.commit?.isSome = true) :
    AllFull family state := by
  intro tree found
  exact ⟨checkout tree found, brings_of_none undefined _⟩

theorem Tree.extra_withExtra (files : List PlainText.Text) (tree : Tree Hash) :
    (tree.withExtra files).extra = files := by
  cases tree <;> rfl

theorem allFull_withExtra {family : Family} {files : List PlainText.Text} {state : State Hash}
    (brought : brings family files = true)
    (checkout : ∀ tree, state.tree = some tree → tree.commit?.isSome = true)
    (run : Option (Run Hash)) :
    AllFull family { state with tree := state.tree.map (Tree.withExtra files), run := run } := by
  intro tree found
  obtain ⟨stored, here, rfl⟩ := Option.map_eq_some_iff.mp found
  refine ⟨?_, ?_⟩
  · rw [Tree.commit?_withExtra]
    exact checkout stored here
  · rw [Tree.extra_withExtra]
    exact brought

theorem Full.Makefile {family : Family} {tree : Tree Hash} (full : Full family tree) :
    tree.Makefile = true := by
  cases tree with
  | checkout => rfl
  | debris => cases full.1

theorem fresh_complete (family : Family) (remote : Hash) : Complete family (fresh remote) :=
  .inl rfl

theorem complete_of_option {family : Family} {state next : State Hash} {run : Run Hash}
    (here : state.run = some run) (complete : Complete family state)
    (stepped : git_option state run = some next) : Complete family next := by
  obtain ⟨remote, record, tree, _⟩ := state
  subst here
  cases run with
  | readHash =>
    cases stepped
    exact complete
  | testCache GIT_HASH =>
    simp only [git_option] at stepped
    split at stepped
    · rename_i both
      cases stepped
      have present : record.isSome = true ∧ tree.isSome = true := by simpa using both
      have recorded : record ≠ none := Option.isSome_iff_ne_none.mp present.1
      exact ⟨fun absent => absurd absent recorded, complete.resolve_left recorded⟩
    · cases stepped
      exact complete
  | dropRecord GIT_HASH =>
    cases stepped
    exact rfl
  | dropTree GIT_HASH =>
    cases stepped
    exact ⟨fun _ => rfl, allFull_of_gone rfl⟩
  | sourceRecord GIT_HASH =>
    cases record with
    | none =>
      cases stepped
      exact complete.1 rfl
    | some record =>
      simp only [git_option] at stepped
      split at stepped
      all_goals
        cases stepped
        exact complete.2
  | writeShallow GIT_HASH =>
    cases stepped
    exact complete
  | writeCommit GIT_HASH =>
    cases stepped
    exact allFull_of_gone complete
  | _ => cases stepped

theorem complete_of_download {family : Family} {state next : State Hash} {run : Run Hash}
    (here : state.run = some run) (complete : Complete family state)
    (stepped : git_download family state run = some next) : Complete family next := by
  obtain ⟨remote, record, tree, _⟩ := state
  subst here
  cases run with
  | testTree GIT_HASH ok =>
    simp only [git_download] at stepped
    split at stepped
    · cases stepped
      exact complete
    · rename_i absent
      cases stepped
      show tree = none
      simpa using absent
  | restore GIT_HASH ok =>
    obtain ⟨stored, found, rfl⟩ := Option.map_eq_some_iff.mp stepped
    exact ⟨complete, complete stored found⟩
  | clone GIT_HASH =>
    cases stepped
    intro stored found
    cases found
    rfl
  | testMakefile GIT_HASH =>
    simp only [git_download] at stepped
    split at stepped
    · split at stepped
      · cases stepped
        exact complete
      · rename_i undefined
        cases stepped
        exact allFull_of_checkout (by simpa using undefined) complete
    · rename_i without
      cases stepped
      -- a checkout has its Makefile, so there is no tree at all
      right
      intro stored found
      have checkout := complete stored found
      obtain rfl : tree = some stored := found
      cases stored with
      | checkout => exact absurd rfl without
      | debris => cases checkout
  | prepare GIT_HASH =>
    obtain ⟨stored, found, rfl⟩ := Option.map_eq_some_iff.mp stepped
    exact ⟨complete, complete stored found⟩
  | past GIT_HASH ok KERNEL =>
    cases stepped
    exact .inr complete.1
  | _ => cases stepped

theorem complete_of_fetched {family : Family} {files : List PlainText.Text}
    {state next : State Hash} {run : Run Hash} (here : state.run = some run)
    (complete : Complete family state) (whole : Whole family state (.fetch files))
    (stepped : fetched family files state run = some next) : Complete family next := by
  obtain ⟨remote, record, tree, _⟩ := state
  subst here
  cases run with
  | extraGit GIT_HASH =>
    obtain ⟨bins, _, rfl⟩ := Option.map_eq_some_iff.mp stepped
    dsimp only
    split
    · exact allFull_withExtra whole complete _
    · exact .inr (allFull_withExtra whole complete none)
  | _ => cases stepped

theorem complete_of_failed {family : Family} {rest : Option Debris} {state next : State Hash}
    {run : Run Hash} (here : state.run = some run) (whole : Whole family state (.fail rest))
    (stepped : failed rest state run = some next) : Complete family next := by
  obtain ⟨remote, record, tree, _⟩ := state
  subst here
  cases run with
  | clone GIT_HASH =>
    obtain rfl : rest = none := whole
    cases stepped
    intro stored found
    cases found
  | _ => cases stepped

/-- Where nothing is being built up, the next run may find the cache as it is. -/
theorem kept_of_complete {family : Family} {state : State Hash} (complete : Complete family state)
    (whole : Whole family state (.kill .unchanged)) :
    state.record = none ∨ AllFull family state := by
  obtain ⟨remote, record, tree, run⟩ := state
  cases run with
  | none => exact complete
  | some run =>
    cases run with
    | readHash | testCache _ | dropRecord _ => exact complete
    | dropTree _ => exact .inl complete
    | sourceRecord _ => exact .inr complete.2
    | writeShallow _ | writeCommit _ | clone _ => exact .inr (allFull_of_gone complete)
    | compare _ _ | rewrite _ | remove _ | testTree _ _ | restore _ _ | prepare _ =>
      exact .inr complete
    | testMakefile _ =>
      rcases whole with undefined | gone
      · exact .inr (allFull_of_checkout undefined complete)
      · exact .inr (allFull_of_gone gone)
    | extraGit _ => exact absurd whole id
    | past _ _ _ => exact .inr complete.1

theorem complete_of_killed {family : Family} {left : Left} {state next : State Hash}
    {run : Run Hash} (here : state.run = some run) (complete : Complete family state)
    (whole : Whole family state (.kill left)) (stepped : killed left state run = some next) :
    Complete family next := by
  rcases killed_cases stepped with ⟨rfl, rfl⟩ | ⟨GIT_HASH, rfl, rfl⟩ |
    ⟨rest, GIT_HASH, rfl, rfl | rfl, rfl⟩ | ⟨rest, GIT_HASH, rfl, rfl, rfl⟩ |
    ⟨files, GIT_HASH, rfl, rfl, rfl⟩
  · have kept := kept_of_complete complete whole
    exact kept
  · have gone : state.tree = none := by simpa [Complete, here] using complete
    exact .inr (allFull_of_gone gone)
  · have dropped : state.record = none := by simpa [Complete, here] using complete
    exact .inl dropped
  · have rest_none : rest = none := by simpa [Whole, here] using whole
    subst rest_none
    exact .inr (allFull_of_gone (by simp [State.halt]))
  · have rest_none : rest = none := by simpa [Whole, here] using whole
    subst rest_none
    exact .inr (allFull_of_gone rfl)
  · have brought : brings family files = true := by simpa [Whole, here] using whole
    have checkout : ∀ tree, state.tree = some tree → tree.commit?.isSome = true := by
      simpa [Complete, here] using complete
    exact .inr (allFull_withExtra brought checkout none)

variable [DecidableEq Hash]

theorem complete_of_verify {family : Family} {state next : State Hash} {run : Run Hash}
    (here : state.run = some run) (complete : Complete family state)
    (stepped : git_verify state run = some next) : Complete family next := by
  obtain ⟨remote, record, tree, _⟩ := state
  subst here
  cases run with
  | compare GIT_HASH GIT_COMMIT =>
    simp only [git_verify] at stepped
    split at stepped
    all_goals
      cases stepped
      exact complete
  | rewrite GIT_HASH =>
    cases stepped
    exact complete
  | remove GIT_HASH =>
    cases stepped
    exact allFull_of_gone rfl
  | _ => cases stepped

theorem complete_of_step (family : Family) (state : State Hash) (event : Event Hash)
    (next : State Hash) (complete : Complete family state) (whole : Whole family state event)
    (stepped : step family state event = some next) : Complete family next := by
  rcases step_cases stepped with ⟨commit, rfl, rfl⟩ | ⟨rfl, idle, rfl⟩ | ⟨run, here, moved⟩
  · exact complete
  · have kept : state.record = none ∨ AllFull family state := by
      simpa [Complete, idle] using complete
    exact kept
  · rcases moved with ⟨rfl, option | verify | download⟩ | ⟨files, rfl, fetch⟩ |
      ⟨rest, rfl, fail⟩ | ⟨left, rfl, kill⟩
    · exact complete_of_option here complete option
    · exact complete_of_verify here complete verify
    · exact complete_of_download here complete download
    · exact complete_of_fetched here complete whole fetch
    · exact complete_of_failed here whole fail
    · exact complete_of_killed here complete whole kill

theorem accepted_of_whole {family : Family} {remote : Hash} {events : List (Event Hash)}
    {state : State Hash}
    (whole : Transition.Keeps (step family) (Whole family) (fresh remote) events)
    (arrives : Transition.run (step family) (fresh remote) events = some state) :
    Accepted family state := by
  have complete := Transition.invariant_run (complete_of_step family)
    (fresh_complete family remote) whole arrives
  intro GIT_HASH ok KERNEL past
  simp only [Complete, past] at complete
  exact ⟨complete.2, complete.2.Makefile⟩

end ImageBuilder.GitCache
