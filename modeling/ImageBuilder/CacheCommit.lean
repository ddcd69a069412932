import ImageBuilder.GitDownload

set_option autoImplicit false

/- What a reported `ok` is worth: the record and the directory over all runs. -/
namespace ImageBuilder.GitCache

variable {Hash : Type}

/-- The commit of a full checkout. -/
def Tree.commit? : Tree Hash → Option Hash
  | .checkout commit _ => some commit
  | .debris _ => none

/-- A run that verified the commit builds a full checkout of the commit it read. -/
def Vouched (state : State Hash) : Prop :=
  ∀ GIT_HASH KERNEL, state.run = some (.past GIT_HASH true KERNEL) →
    KERNEL.commit? = some GIT_HASH

/-- The branch stands still from the reading of its commit to the end of the
clone, and no clone or removal ends with a part of a tree in the directory. -/
def Settled (state : State Hash) (event : Event Hash) : Prop :=
  match state.run, event with
  | some (.clone GIT_HASH), .next => state.remote = GIT_HASH
  | some (.clone _), .fail rest => rest = none
  | some (.clone _), .kill left => left = .unchanged ∨ left = .tree none
  | some (.remove _), .kill left => left = .tree none
  | _, _ => True

instance [DecidableEq Hash] (state : State Hash) (event : Event Hash) :
    Decidable (Settled state event) := by
  unfold Settled
  split <;> infer_instance

/-- The record names the commit, and the directory holds that commit or is not
there. -/
def Holds (commit : Hash) (state : State Hash) : Prop :=
  state.record = some (.commit commit) ∧
    ∀ tree, state.tree = some tree → tree.commit? = some commit

def Agrees (state : State Hash) : Prop :=
  state.record = none ∨ state.tree = none ∨ ∃ commit, Holds commit state

/-- Holds, with the directory there. -/
def Stored (commit : Hash) (state : State Hash) : Prop :=
  Holds commit state ∧ state.tree ≠ none

/-- What each command finds. -/
def Sound (state : State Hash) : Prop :=
  match state.run with
  | none | some .readHash | some (.testCache _) | some (.dropRecord _) => Agrees state
  | some (.dropTree _) => state.record = none
  | some (.sourceRecord _) =>
    state.record = none ∧ state.tree = none ∨ ∃ commit, Stored commit state
  | some (.writeShallow _) | some (.writeCommit _) => state.tree = none
  | some (.compare _ GIT_COMMIT) => ∃ commit, GIT_COMMIT = some commit ∧ Stored commit state
  | some (.rewrite GIT_HASH) => ∃ commit, commit ≠ GIT_HASH ∧ Stored commit state
  | some (.remove GIT_HASH) =>
    state.record = some (.commit GIT_HASH) ∧
      ∃ tree, state.tree = some tree ∧ tree.commit? ≠ some GIT_HASH
  | some (.clone GIT_HASH) => state.record = some (.commit GIT_HASH) ∧ state.tree = none
  | some (.testTree GIT_HASH _) | some (.restore GIT_HASH _) | some (.testMakefile GIT_HASH)
  | some (.extraGit GIT_HASH) | some (.prepare GIT_HASH) => Holds GIT_HASH state
  | some (.past GIT_HASH _ KERNEL) => Holds GIT_HASH state ∧ KERNEL.commit? = some GIT_HASH

theorem Holds.agrees {commit : Hash} {state : State Hash} (holds : Holds commit state) :
    Agrees state := .inr (.inr ⟨commit, holds⟩)

@[simp] theorem Tree.commit?_withExtra (files : List PlainText.Text) (tree : Tree Hash) :
    (tree.withExtra files).commit? = tree.commit? := by
  cases tree <;> rfl

/-- What extra_git brings lies beside the checkout. -/
theorem Holds.withExtra {commit : Hash} {state : State Hash} (files : List PlainText.Text)
    (holds : Holds commit state) (run : Option (Run Hash)) :
    Holds commit { state with tree := state.tree.map (Tree.withExtra files), run := run } := by
  refine ⟨holds.1, ?_⟩
  intro tree found
  obtain ⟨stored, here, rfl⟩ := Option.map_eq_some_iff.mp found
  rw [Tree.commit?_withExtra]
  exact holds.2 stored here

theorem fresh_sound (remote : Hash) : Sound (fresh remote) := .inl rfl

theorem sound_of_option {state next : State Hash} {run : Run Hash} (here : state.run = some run)
    (sound : Sound state) (stepped : git_option state run = some next) : Sound next := by
  obtain ⟨remote, record, tree, _⟩ := state
  subst here
  cases run with
  | readHash =>
    cases stepped
    exact sound
  | testCache GIT_HASH =>
    simp only [git_option] at stepped
    split at stepped
    · rename_i both
      cases stepped
      -- both are there, so the record names what the directory holds
      have present : record.isSome = true ∧ tree.isSome = true := by simpa using both
      rcases sound with absent | absent | ⟨commit, holds⟩
      · obtain rfl : record = none := absent
        cases present.1
      · obtain rfl : tree = none := absent
        cases present.2
      · exact .inr ⟨commit, holds, Option.isSome_iff_ne_none.mp present.2⟩
    · cases stepped
      exact sound
  | dropRecord GIT_HASH =>
    cases stepped
    exact rfl
  | dropTree GIT_HASH =>
    cases stepped
    exact .inl ⟨sound, rfl⟩
  | sourceRecord GIT_HASH =>
    rcases sound with ⟨absent, gone⟩ | ⟨commit, ⟨recorded, same⟩, present⟩
    · dsimp only at absent
      subst absent
      cases stepped
      exact gone
    · dsimp only at recorded
      subst recorded
      cases stepped
      exact ⟨commit, rfl, ⟨rfl, same⟩, present⟩
  | writeShallow GIT_HASH =>
    cases stepped
    exact sound
  | writeCommit GIT_HASH =>
    cases stepped
    refine ⟨rfl, ?_⟩
    intro stored found
    cases sound.symm.trans found
  | _ => cases stepped

theorem sound_of_download (family : Family) {state next : State Hash} {run : Run Hash}
    (here : state.run = some run) (sound : Sound state) (settled : Settled state .next)
    (stepped : git_download family state run = some next) : Sound next := by
  obtain ⟨remote, record, tree, _⟩ := state
  subst here
  cases run with
  | testTree GIT_HASH ok =>
    simp only [git_download] at stepped
    split at stepped
    · cases stepped
      exact sound
    · rename_i absent
      cases stepped
      exact ⟨sound.1, by simpa [State.goto] using absent⟩
  | restore GIT_HASH ok =>
    obtain ⟨stored, found, rfl⟩ := Option.map_eq_some_iff.mp stepped
    exact ⟨sound, sound.2 stored found⟩
  | clone GIT_HASH =>
    cases stepped
    refine ⟨sound.1, ?_⟩
    intro stored found
    cases found
    exact congrArg some settled
  | testMakefile GIT_HASH =>
    simp only [git_download] at stepped
    split at stepped
    · split at stepped
      all_goals
        cases stepped
        exact sound
    · cases stepped
      exact Holds.agrees sound
  | prepare GIT_HASH =>
    obtain ⟨stored, found, rfl⟩ := Option.map_eq_some_iff.mp stepped
    exact ⟨sound, sound.2 stored found⟩
  | past GIT_HASH ok KERNEL =>
    cases stepped
    exact Holds.agrees sound.1
  | _ => cases stepped

theorem sound_of_fetched (family : Family) (files : List PlainText.Text)
    {state next : State Hash} {run : Run Hash} (here : state.run = some run)
    (sound : Sound state) (stepped : fetched family files state run = some next) :
    Sound next := by
  obtain ⟨remote, record, tree, _⟩ := state
  subst here
  cases run with
  | extraGit GIT_HASH =>
    obtain ⟨bins, _, rfl⟩ := Option.map_eq_some_iff.mp stepped
    dsimp only
    split
    · exact Holds.withExtra files sound _
    · exact (Holds.withExtra files sound none).agrees
  | _ => cases stepped

theorem sound_of_failed {rest : Option Debris} {state next : State Hash} {run : Run Hash}
    (here : state.run = some run) (sound : Sound state) (settled : Settled state (.fail rest))
    (stepped : failed rest state run = some next) : Sound next := by
  obtain ⟨remote, record, tree, _⟩ := state
  subst here
  cases run with
  | clone GIT_HASH =>
    obtain rfl : rest = none := settled
    cases stepped
    refine ⟨sound.1, ?_⟩
    intro stored found
    cases found
  | _ => cases stepped

/-- Away from the removal, the cache is as the next run may find it. -/
theorem agrees_of_sound {state : State Hash} (sound : Sound state)
    (elsewhere : ∀ GIT_HASH, state.run ≠ some (.remove GIT_HASH)) : Agrees state := by
  obtain ⟨remote, record, tree, run⟩ := state
  cases run with
  | none => exact sound
  | some run =>
    cases run with
    | readHash | testCache _ | dropRecord _ => exact sound
    | dropTree _ => exact .inl sound
    | sourceRecord _ =>
      rcases sound with ⟨absent, _⟩ | ⟨commit, holds⟩
      · exact .inl absent
      · exact holds.1.agrees
    | writeShallow _ | writeCommit _ => exact .inr (.inl sound)
    | compare _ _ =>
      obtain ⟨commit, _, stored⟩ := sound
      exact stored.1.agrees
    | rewrite _ =>
      obtain ⟨commit, _, stored⟩ := sound
      exact stored.1.agrees
    | remove GIT_HASH => exact absurd rfl (elsewhere GIT_HASH)
    | clone _ => exact .inr (.inl sound.2)
    | testTree _ _ | restore _ _ | testMakefile _ | extraGit _ | prepare _ =>
      exact Holds.agrees sound
    | past _ _ _ => exact Holds.agrees sound.1

theorem sound_of_killed {left : Left} {state next : State Hash} {run : Run Hash}
    (here : state.run = some run) (sound : Sound state) (settled : Settled state (.kill left))
    (stepped : killed left state run = some next) : Sound next := by
  rcases killed_cases stepped with ⟨rfl, rfl⟩ | ⟨GIT_HASH, rfl, rfl⟩ |
    ⟨rest, GIT_HASH, rfl, rfl | rfl, rfl⟩ | ⟨rest, GIT_HASH, rfl, rfl, rfl⟩ |
    ⟨files, GIT_HASH, rfl, rfl, rfl⟩
  · apply agrees_of_sound sound
    intro GIT_HASH removing
    simp [Settled, removing] at settled
  · have gone : state.tree = none := by simpa [Sound, here] using sound
    exact .inr (.inl gone)
  · have dropped : state.record = none := by simpa [Sound, here] using sound
    exact .inl dropped
  · have rest_none : rest = none := by simpa [Settled, here] using settled
    subst rest_none
    exact .inr (.inl (by simp [State.halt]))
  · have rest_none : rest = none := by simpa [Settled, here] using settled
    subst rest_none
    exact .inr (.inl rfl)
  · have holds : Holds GIT_HASH state := by simpa [Sound, here] using sound
    exact (holds.withExtra files none).agrees

variable [DecidableEq Hash]

theorem sound_of_verify {state next : State Hash} {run : Run Hash} (here : state.run = some run)
    (sound : Sound state) (stepped : git_verify state run = some next) : Sound next := by
  obtain ⟨remote, record, tree, _⟩ := state
  subst here
  cases run with
  | compare GIT_HASH GIT_COMMIT =>
    obtain ⟨commit, read, stored⟩ := sound
    simp only [git_verify] at stepped
    split at stepped
    · rename_i equal
      cases stepped
      obtain rfl := Option.some.inj (read.symm.trans equal)
      exact stored.1
    · rename_i different
      cases stepped
      refine ⟨commit, ?_, stored⟩
      intro same
      exact different (read.trans (congrArg some same))
  | rewrite GIT_HASH =>
    obtain ⟨commit, different, ⟨recorded, same⟩, present⟩ := sound
    dsimp only at recorded
    subst recorded
    cases stepped
    refine ⟨rfl, ?_⟩
    obtain ⟨old, found⟩ := Option.ne_none_iff_exists'.mp present
    refine ⟨old, found, ?_⟩
    rw [same old found]
    intro equal
    exact different (Option.some.inj equal)
  | remove GIT_HASH =>
    cases stepped
    refine ⟨sound.1, ?_⟩
    intro stored found
    cases found
  | _ => cases stepped

theorem sound_of_step (family : Family) (state : State Hash) (event : Event Hash)
    (next : State Hash) (sound : Sound state) (settled : Settled state event)
    (stepped : step family state event = some next) : Sound next := by
  rcases step_cases stepped with ⟨commit, rfl, rfl⟩ | ⟨rfl, idle, rfl⟩ | ⟨run, here, moved⟩
  · exact sound
  · have agrees : Agrees state := by simpa [Sound, idle] using sound
    exact agrees
  · rcases moved with ⟨rfl, option | verify | download⟩ | ⟨files, rfl, fetch⟩ |
      ⟨rest, rfl, fail⟩ | ⟨left, rfl, kill⟩
    · exact sound_of_option here sound option
    · exact sound_of_verify here sound verify
    · exact sound_of_download family here sound settled download
    · exact sound_of_fetched family files here sound fetch
    · exact sound_of_failed here sound settled fail
    · exact sound_of_killed here sound settled kill

omit [DecidableEq Hash] in
theorem Sound.vouched {state : State Hash} (sound : Sound state) : Vouched state := by
  intro GIT_HASH KERNEL arrived
  simp only [Sound, arrived] at sound
  exact sound.2

/-- Where the branch stands still while it is cloned and no part of a tree stays
behind, the commit that is reported ok is the commit that is built. -/
theorem vouched_of_settled (family : Family) (remote : Hash) (events : List (Event Hash))
    (state : State Hash) (settled : Transition.Keeps (step family) Settled (fresh remote) events)
    (arrives : Transition.run (step family) (fresh remote) events = some state) :
    Vouched state :=
  (Transition.invariant_run (sound_of_step family) (fresh_sound remote) settled arrives).vouched

/-- A first run, from the reading of the commit to the clone. -/
def toClone : List (Event Hash) := .start :: List.replicate 8 .next

/-- A later run that finds the cache, from the reading of the commit to ${KERNEL}. -/
def toRestored : List (Event Hash) := .start :: List.replicate 6 .next

/-- The record names a commit, and something else is in the directory. -/
def Exposed (GIT_HASH : Hash) (state : State Hash) : Prop :=
  state.record = some (.commit GIT_HASH) ∧
    ∃ tree, state.tree = some tree ∧ tree.commit? ≠ some GIT_HASH

/-- With such a cache, the branch back at that commit is all it takes. -/
theorem Exposed.vouches (family : Family) {GIT_HASH : Hash} {state : State Hash}
    (exposed : Exposed GIT_HASH state) (idle : state.run = none) :
    ∃ events reached, Transition.run (step family) state events = some reached ∧
      ¬ Vouched reached := by
  obtain ⟨remote, record, tree, run⟩ := state
  obtain ⟨recorded, other, found, different⟩ := exposed
  dsimp only at recorded found idle
  subst recorded found idle
  let at_run (run : Run Hash) : State Hash :=
    ⟨GIT_HASH, some (.commit GIT_HASH), some other, some run⟩
  have verified : step family (at_run (.compare GIT_HASH (some GIT_HASH))) .next =
      some (at_run (.testTree GIT_HASH true)) := by
    simp [at_run, step, git_option, git_verify, State.goto]
  refine ⟨.move GIT_HASH :: toRestored, at_run (.past GIT_HASH true other), ?_, ?_⟩
  · calc
      Transition.run (step family) _ (.move GIT_HASH :: toRestored)
        = Transition.run (step family) (at_run (.compare GIT_HASH (some GIT_HASH)))
            [.next, .next, .next] := rfl
      _ = Transition.run (step family) (at_run (.testTree GIT_HASH true)) [.next, .next] := by
        rw [Transition.run_cons, verified, Option.bind_some]
      _ = some (at_run (.past GIT_HASH true other)) := rfl
  · intro vouched
    exact different (vouched GIT_HASH other rfl)

/-- No part of the condition can be left out: from what a settled run reaches, a
step that breaks it can be followed by a run that vouches for the wrong tree. -/
theorem exposed_of_unsettled (family : Family) {state next : State Hash} {event : Event Hash}
    (sound : Sound state) (unsettled : ¬ Settled state event)
    (stepped : step family state event = some next) :
    ∃ events reached, Transition.run (step family) next events = some reached ∧
      ¬ Vouched reached := by
  obtain ⟨remote, record, tree, run⟩ := state
  unfold Settled at unsettled
  split at unsettled
  · rename_i _ GIT_HASH here
    dsimp only at here unsettled
    subst here
    cases stepped
    have exposed : Exposed GIT_HASH
        (⟨remote, record, some (.checkout remote []), none⟩ : State Hash) :=
      ⟨sound.1, _, rfl, fun same => unsettled (Option.some.inj same)⟩
    obtain ⟨events, reached, arrives, wrong⟩ := exposed.vouches family rfl
    exact ⟨.kill .unchanged :: events, reached, arrives, wrong⟩
  · rename_i _ GIT_HASH rest here
    dsimp only at here unsettled
    subst here
    cases stepped
    obtain ⟨debris, rfl⟩ := Option.ne_none_iff_exists'.mp unsettled
    have exposed : Exposed GIT_HASH
        (⟨remote, record, some (.debris debris), none⟩ : State Hash) :=
      ⟨sound.1, _, rfl, nofun⟩
    obtain ⟨events, reached, arrives, wrong⟩ := exposed.vouches family rfl
    exact ⟨.kill .unchanged :: events, reached, arrives, wrong⟩
  · rename_i _ GIT_HASH left here
    dsimp only at here unsettled
    subst here
    have stopped : killed left
        (⟨remote, record, tree, some (.clone GIT_HASH)⟩ : State Hash)
        (.clone GIT_HASH) = some next := stepped
    rcases killed_cases stopped with ⟨rfl, rfl⟩ | ⟨_, impossible, _⟩ |
      ⟨_, _, _, impossible | impossible, _⟩ | ⟨rest, _, rfl, _, rfl⟩ |
      ⟨_, _, _, impossible, _⟩
    · exact absurd (.inl rfl) unsettled
    · cases impossible
    · cases impossible
    · cases impossible
    · cases rest with
      | none => exact absurd (.inr rfl) unsettled
      | some debris => exact Exposed.vouches family ⟨sound.1, _, rfl, nofun⟩ rfl
    · cases impossible
  · rename_i _ GIT_HASH left here
    dsimp only at here unsettled
    subst here
    obtain ⟨recorded, old, found, different⟩ := sound
    have stopped : killed left
        (⟨remote, record, tree, some (.remove GIT_HASH)⟩ : State Hash)
        (.remove GIT_HASH) = some next := stepped
    rcases killed_cases stopped with ⟨rfl, rfl⟩ | ⟨_, impossible, _⟩ |
      ⟨rest, _, rfl, _, rfl⟩ | ⟨_, _, _, impossible, _⟩ | ⟨_, _, _, impossible, _⟩
    · exact Exposed.vouches family ⟨recorded, old, found, different⟩ rfl
    · cases impossible
    · cases rest with
      | none => exact absurd rfl unsettled
      | some debris =>
        dsimp only at found
        subst found
        exact Exposed.vouches family ⟨recorded, .debris debris, rfl, nofun⟩ rfl
    · cases impossible
    · cases impossible
  · exact absurd trivial unsettled

theorem vouched_after_two_runs :
    ∃ state : State Nat,
      Transition.run (step .amlogic) (fresh 1)
        (toClone ++ [.next, .next, .next, .next] ++ toRestored) = some state ∧
      state.run = some (.past 1 true (.checkout 1 [])) ∧ Vouched state := by
  have kept : Transition.Keeps (step .amlogic) Settled (fresh 1)
      (toClone ++ [.next, .next, .next, .next] ++ toRestored) := by decide
  have arrives : Transition.run (step .amlogic) (fresh 1)
      (toClone ++ [.next, .next, .next, .next] ++ toRestored) =
      some ⟨1, some (.commit 1), some (.checkout 1 []), some (.past 1 true (.checkout 1 []))⟩ := by
    decide
  exact ⟨_, arrives, rfl, vouched_of_settled .amlogic 1 _ _ kept arrives⟩

/-- The branch moves between the reading of its commit and the clone, and back. -/
theorem other_commit_restored :
    ¬ ∀ (family : Family) (remote : Nat) (events : List (Event Nat)) (state : State Nat),
      Transition.run (step family) (fresh remote) events = some state → Vouched state := by
  intro all
  have arrives : Transition.run (step .amlogic) (fresh 1)
      (toClone ++ [.move 2, .next, .next, .next, .next, .move 1] ++ toRestored) =
      some ⟨1, some (.commit 1), some (.checkout 2 []), some (.past 1 true (.checkout 2 []))⟩ := by
    decide
  have same := all .amlogic 1 _ _ arrives 1 (.checkout 2 []) rfl
  cases same

end ImageBuilder.GitCache
