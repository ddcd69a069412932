import ImageBuilder.CacheComplete

set_option autoImplicit false

/- The two downloads without a record: download, a tag of kernel.org, and
rkbin_download, a pinned commit of the Rockchip binaries. Both trust the directory
they find. -/
namespace ImageBuilder.KernelOrg

open GitCache

/-- The command a run of download is at, once the tag is found on kernel.org. -/
inductive Run (Hash : Type)
  | testTree
  | restore
  | clone
  | testMakefile
  | prepare
  | past (KERNEL : GitCache.Tree Hash)
  deriving DecidableEq

/-- `${KERNEL}-${VERSION}` and the run under way. -/
structure State (Hash : Type) where
  tree : Option (GitCache.Tree Hash)
  run : Option (Run Hash)
  deriving DecidableEq

inductive Event
  | start
  | next
  | fail (rest : Option Debris)
  | kill
  | killClone (rest : Option Debris)
  deriving DecidableEq

variable {Hash : Type}

def State.goto (state : State Hash) (run : Run Hash) : State Hash := { state with run := some run }

def State.halt (state : State Hash) : State Hash := { state with run := none }

/-- The commands of download; `tag` is the commit of the tag. -/
def download (tag : Hash) (state : State Hash) : Run Hash → Option (State Hash)
  | .testTree => some (state.goto (if state.tree.isSome then .restore else .clone))
  | .restore => state.tree.map fun tree => state.goto (.past tree)
  | .clone => some ({ state with tree := some (.checkout tag []) }.goto .testMakefile)
  | .testMakefile =>
    if state.tree.any GitCache.Tree.Makefile then some (state.goto .prepare) else some state.halt
  | .prepare => state.tree.map fun tree => state.goto (.past tree)
  | .past _ => some state.halt

def step (tag : Hash) (state : State Hash) (event : Event) : Option (State Hash) :=
  match event, state.run with
  | .start, none => some (state.goto .testTree)
  | .next, some run => download tag state run
  | .fail rest, some .clone => some ({ state with tree := rest.map .debris }.goto .testMakefile)
  | .kill, some _ => some state.halt
  | .killClone rest, some .clone => some { state with tree := rest.map .debris }.halt
  | _, _ => none

/-- A clone that fails or is killed leaves no directory. -/
def Whole (_ : State Hash) : Event → Prop
  | .fail rest => rest = none
  | .killClone rest => rest = none
  | _ => True

instance (state : State Hash) (event : Event) : Decidable (Whole state event) := by
  cases event <;> unfold Whole <;> infer_instance

/-- What got past download is the checkout of the tag. No extra_git runs on this
path, so that is all of it only for a family without one. -/
def Accepted (family : Family) (tag : Hash) (state : State Hash) : Prop :=
  ∀ KERNEL, state.run = some (.past KERNEL) →
    KERNEL.commit? = some tag ∧ KERNEL.Makefile = true ∧
      (Full family KERNEL ↔ extra_git family = none)

/-- The directory is the checkout or not there, and so is the copy. -/
def Complete (tag : Hash) (state : State Hash) : Prop :=
  (∀ tree, state.tree = some tree → tree = .checkout tag []) ∧
    ∀ KERNEL, state.run = some (.past KERNEL) → KERNEL = .checkout tag []

theorem complete_of_goto {tag : Hash} {state : State Hash} (run : Run Hash)
    (complete : ∀ tree, state.tree = some tree → tree = .checkout tag [])
    (on_the_way : ∀ KERNEL, run = .past KERNEL → KERNEL = .checkout tag []) :
    Complete tag (state.goto run) := by
  refine ⟨complete, ?_⟩
  intro KERNEL past
  exact on_the_way KERNEL (Option.some.inj past)

theorem complete_of_halt {tag : Hash} {state : State Hash}
    (complete : ∀ tree, state.tree = some tree → tree = .checkout tag []) :
    Complete tag state.halt := by
  refine ⟨complete, ?_⟩
  intro KERNEL past
  cases past

theorem complete_of_download {tag : Hash} {state next : State Hash} {run : Run Hash}
    (complete : Complete tag state) (stepped : download tag state run = some next) :
    Complete tag next := by
  cases run with
  | testTree =>
    cases stepped
    apply complete_of_goto _ complete.1
    intro KERNEL past
    split at past <;> cases past
  | restore | prepare =>
    obtain ⟨stored, found, rfl⟩ := Option.map_eq_some_iff.mp stepped
    apply complete_of_goto _ complete.1
    intro KERNEL past
    cases past
    exact complete.1 stored found
  | clone =>
    cases stepped
    apply complete_of_goto
    · intro tree found
      exact (Option.some.inj found).symm
    · intro KERNEL past
      cases past
  | testMakefile =>
    simp only [download] at stepped
    split at stepped
    · cases stepped
      apply complete_of_goto _ complete.1
      intro KERNEL past
      cases past
    · cases stepped
      exact complete_of_halt complete.1
  | past KERNEL =>
    cases stepped
    exact complete_of_halt complete.1

theorem complete_of_step (tag : Hash) (state : State Hash) (event : Event) (next : State Hash)
    (complete : Complete tag state) (whole : Whole state event)
    (stepped : step tag state event = some next) : Complete tag next := by
  unfold step at stepped
  split at stepped
  · cases stepped
    apply complete_of_goto _ complete.1
    intro KERNEL past
    cases past
  · exact complete_of_download complete stepped
  · obtain rfl := whole
    cases stepped
    apply complete_of_goto
    · intro tree found
      cases found
    · intro KERNEL past
      cases past
  · cases stepped
    exact complete_of_halt complete.1
  · obtain rfl := whole
    cases stepped
    apply complete_of_halt
    intro tree found
    cases found
  · cases stepped

/-- broadcom_extra_git always has something to bring. -/
theorem brings_nothing_iff (family : Family) : brings family [] = true ↔ extra_git family = none := by
  cases family <;> decide

theorem accepted_of_whole {family : Family} {tag : Hash} {events : List Event} {state : State Hash}
    (whole : Transition.Keeps (step tag) Whole ⟨none, none⟩ events)
    (arrives : Transition.run (step tag) ⟨none, none⟩ events = some state) :
    Accepted family tag state := by
  have complete : Complete tag state := by
    apply Transition.invariant_run (complete_of_step tag) _ whole arrives
    have start : Complete tag (State.halt ⟨none, none⟩) :=
      complete_of_halt fun _ found => nomatch found
    exact start
  intro KERNEL past
  obtain rfl := complete.2 KERNEL past
  refine ⟨rfl, rfl, ?_⟩
  rw [← brings_nothing_iff]
  exact and_iff_right rfl

end ImageBuilder.KernelOrg

namespace ImageBuilder.Rkbin

open GitCache

/-- The command a run of rkbin_download is at, once the repository answers. -/
inductive Run (Hash : Type)
  | testTree
  | clone
  | testClone
  | checkout
  | past (rkbin : GitCache.Tree Hash)
  deriving DecidableEq

/-- The head of the repository, `rkbin-${RKBIN_COMMIT}`, and the run under way. -/
structure State (Hash : Type) where
  head : Hash
  tree : Option (GitCache.Tree Hash)
  run : Option (Run Hash)
  deriving DecidableEq

inductive Event (Hash : Type)
  | move (commit : Hash)
  | start
  | next
  | failClone (rest : Option Debris)
  | failCheckout (tree : Option Debris)
  | kill
  | killClone (rest : Option Debris)
  | killCheckout (rest : Debris)
  deriving DecidableEq

variable {Hash : Type}

def State.goto (state : State Hash) (run : Run Hash) : State Hash := { state with run := some run }

def State.halt (state : State Hash) : State Hash := { state with run := none }

/-- The commands of rkbin_download. -/
def rkbin_download (RKBIN_COMMIT : Hash) (state : State Hash) : Run Hash → Option (State Hash)
  | .testTree =>
    match state.tree with
    | some tree => some (state.goto (.past tree))
    | none => some (state.goto .clone)
  | .clone => some ({ state with tree := some (.checkout state.head []) }.goto .testClone)
  | .testClone => if state.tree.isSome then some (state.goto .checkout) else some state.halt
  | .checkout =>
    some ({ state with tree := some (.checkout RKBIN_COMMIT []) }.goto
      (.past (.checkout RKBIN_COMMIT [])))
  | .past _ => some state.halt

def step (RKBIN_COMMIT : Hash) (state : State Hash) (event : Event Hash) :
    Option (State Hash) :=
  match event, state.run with
  | .move commit, _ => some { state with head := commit }
  | .start, none => some (state.goto .testTree)
  | .next, some run => rkbin_download RKBIN_COMMIT state run
  | .failClone rest, some .clone =>
    some ({ state with tree := rest.map .debris }.goto .testClone)
  | .failCheckout rest, some .checkout =>
    -- the tree stays where it was, or in between; `done` is printed anyway
    let tree := (rest.map GitCache.Tree.debris).or state.tree
    tree.map fun tree => { state with tree := some tree }.goto (.past tree)
  | .kill, some _ => some state.halt
  | .killClone rest, some .clone => some { state with tree := rest.map .debris }.halt
  | .killCheckout rest, some .checkout => some { state with tree := some (.debris rest) }.halt
  | _, _ => none

/-- There is nothing in the directory but the pinned commit. -/
def Pinned (RKBIN_COMMIT : Hash) (state : State Hash) : Prop :=
  ∀ tree ∈ state.tree, tree.commit? = some RKBIN_COMMIT

/-- A clone that fails or is killed leaves no directory, and the checkout that
follows a clone succeeds before the run ends, unless the clone is at the pinned
commit already. -/
def Whole (RKBIN_COMMIT : Hash) (state : State Hash) : Event Hash → Prop
  | .failClone rest => rest = none
  | .killClone rest => rest = none
  | .kill =>
    state.run = some .testClone ∨ state.run = some .checkout → Pinned RKBIN_COMMIT state
  | .failCheckout rest => rest = none ∧ Pinned RKBIN_COMMIT state
  | .killCheckout _ => False
  | _ => True

instance [DecidableEq Hash] (RKBIN_COMMIT : Hash) (state : State Hash) :
    Decidable (Pinned RKBIN_COMMIT state) := by
  unfold Pinned
  infer_instance

instance [DecidableEq Hash] (RKBIN_COMMIT : Hash) (state : State Hash) (event : Event Hash) :
    Decidable (Whole RKBIN_COMMIT state event) := by
  cases event <;> unfold Whole <;> infer_instance

/-- What got past rkbin_download is the checkout of the pinned commit. -/
def Accepted (RKBIN_COMMIT : Hash) (state : State Hash) : Prop :=
  ∀ rkbin, state.run = some (.past rkbin) → rkbin.commit? = some RKBIN_COMMIT

/-- The directory holds the pinned commit, except between clone and checkout. -/
def Complete (RKBIN_COMMIT : Hash) (state : State Hash) : Prop :=
  (state.run = some .testClone ∨ state.run = some .checkout ∨ Pinned RKBIN_COMMIT state) ∧
    Accepted RKBIN_COMMIT state

theorem complete_of_goto {RKBIN_COMMIT : Hash} {state : State Hash} (run : Run Hash)
    (pinned : Pinned RKBIN_COMMIT state)
    (on_the_way : ∀ rkbin, run = .past rkbin → rkbin.commit? = some RKBIN_COMMIT) :
    Complete RKBIN_COMMIT (state.goto run) := by
  refine ⟨.inr (.inr pinned), ?_⟩
  intro rkbin past
  exact on_the_way rkbin (Option.some.inj past)

theorem complete_of_halt {RKBIN_COMMIT : Hash} {state : State Hash}
    (pinned : Pinned RKBIN_COMMIT state) : Complete RKBIN_COMMIT state.halt := by
  refine ⟨.inr (.inr pinned), ?_⟩
  intro rkbin past
  cases past

theorem pinned_of_gone {RKBIN_COMMIT : Hash} {state : State Hash} (gone : state.tree = none) :
    Pinned RKBIN_COMMIT state := by
  intro tree found
  cases gone.symm.trans found

theorem complete_of_rkbin_download {RKBIN_COMMIT : Hash} {state next : State Hash}
    {run : Run Hash} (here : state.run = some run) (complete : Complete RKBIN_COMMIT state)
    (stepped : rkbin_download RKBIN_COMMIT state run = some next) :
    Complete RKBIN_COMMIT next := by
  obtain ⟨head, tree, _⟩ := state
  subst here
  cases run with
  | testTree =>
    have pinned : Pinned RKBIN_COMMIT ⟨head, tree, some .testTree⟩ := by
      rcases complete.1 with testing | checking | pinned
      · cases testing
      · cases checking
      · exact pinned
    cases tree with
    | some tree =>
      cases stepped
      apply complete_of_goto _ pinned
      intro rkbin past
      cases past
      exact pinned tree rfl
    | none =>
      cases stepped
      apply complete_of_goto _ pinned
      intro rkbin past
      cases past
  | clone =>
    cases stepped
    refine ⟨.inl rfl, ?_⟩
    intro rkbin past
    cases past
  | testClone =>
    cases tree with
    | some tree =>
      cases stepped
      refine ⟨.inr (.inl rfl), ?_⟩
      intro rkbin past
      cases past
    | none =>
      cases stepped
      exact complete_of_halt (pinned_of_gone rfl)
  | checkout =>
    cases stepped
    apply complete_of_goto
    · intro tree found
      cases found
      rfl
    · intro rkbin past
      cases past
      rfl
  | past rkbin =>
    cases stepped
    rcases complete.1 with testing | checking | pinned
    · cases testing
    · cases checking
    · exact complete_of_halt pinned

theorem complete_of_step (RKBIN_COMMIT : Hash) (state : State Hash) (event : Event Hash)
    (next : State Hash) (complete : Complete RKBIN_COMMIT state)
    (whole : Whole RKBIN_COMMIT state event)
    (stepped : step RKBIN_COMMIT state event = some next) : Complete RKBIN_COMMIT next := by
  unfold step at stepped
  split at stepped
  · cases stepped
    exact complete
  · rename_i idle
    cases stepped
    have pinned : Pinned RKBIN_COMMIT state := by simpa [idle] using complete.1
    apply complete_of_goto _ pinned
    intro rkbin past
    cases past
  · exact complete_of_rkbin_download ‹_› complete stepped
  · obtain rfl := whole
    cases stepped
    refine ⟨.inl rfl, ?_⟩
    intro rkbin past
    cases past
  · obtain ⟨rfl, pinned⟩ := whole
    obtain ⟨tree, found, rfl⟩ := Option.map_eq_some_iff.mp stepped
    have same : tree.commit? = some RKBIN_COMMIT := pinned tree (by simpa using found)
    apply complete_of_goto
    · intro other here
      cases here
      exact same
    · intro rkbin past
      cases past
      exact same
  · cases stepped
    apply complete_of_halt
    rcases complete.1 with testing | checking | pinned
    · exact whole (.inl testing)
    · exact whole (.inr checking)
    · exact pinned
  · obtain rfl := whole
    cases stepped
    exact complete_of_halt (pinned_of_gone rfl)
  · exact absurd whole id
  · cases stepped

theorem accepted_of_whole {RKBIN_COMMIT head : Hash} {events : List (Event Hash)}
    {state : State Hash}
    (whole : Transition.Keeps (step RKBIN_COMMIT) (Whole RKBIN_COMMIT) ⟨head, none, none⟩ events)
    (arrives : Transition.run (step RKBIN_COMMIT) ⟨head, none, none⟩ events = some state) :
    Accepted RKBIN_COMMIT state := by
  have complete : Complete RKBIN_COMMIT state := by
    apply Transition.invariant_run (complete_of_step RKBIN_COMMIT) _ whole arrives
    have start : Complete RKBIN_COMMIT (State.halt ⟨head, none, none⟩) :=
      complete_of_halt (pinned_of_gone rfl)
    exact start
  exact complete.2

end ImageBuilder.Rkbin

namespace ImageBuilder

open GitCache

variable {Hash : Type} [DecidableEq Hash]

/-- The three downloads, over runs in which nothing is left half done. -/
theorem accepted_sources_full (family : Family) :
    (∀ (remote : Hash) (events : List (GitCache.Event Hash)) (state : GitCache.State Hash),
      Transition.Keeps (GitCache.step family) (GitCache.Whole family) (fresh remote) events →
      Transition.run (GitCache.step family) (fresh remote) events = some state →
      GitCache.Accepted family state) ∧
    (∀ (tag : Hash) (events : List KernelOrg.Event) (state : KernelOrg.State Hash),
      Transition.Keeps (KernelOrg.step tag) KernelOrg.Whole ⟨none, none⟩ events →
      Transition.run (KernelOrg.step tag) ⟨none, none⟩ events = some state →
      KernelOrg.Accepted family tag state) ∧
    ∀ (RKBIN_COMMIT head : Hash) (events : List (Rkbin.Event Hash)) (state : Rkbin.State Hash),
      Transition.Keeps (Rkbin.step RKBIN_COMMIT) (Rkbin.Whole RKBIN_COMMIT) ⟨head, none, none⟩
        events →
      Transition.run (Rkbin.step RKBIN_COMMIT) ⟨head, none, none⟩ events = some state →
      Rkbin.Accepted RKBIN_COMMIT state := by
  refine ⟨?_, ?_, ?_⟩
  · intro remote events state whole arrives
    exact GitCache.accepted_of_whole whole arrives
  · intro tag events state whole arrives
    exact KernelOrg.accepted_of_whole whole arrives
  · intro RKBIN_COMMIT head events state whole arrives
    exact Rkbin.accepted_of_whole whole arrives

/-- A Raspberry Pi kernel is cloned and its firmware fetched, and restored by the
next run. -/
theorem accepted_raspberrypi :
    ∃ state : GitCache.State Nat,
      Transition.run (GitCache.step .broadcom) (fresh 1)
        (toClone ++ [.next, .next, .fetch RPI_FW, .next, .next] ++ toRestored) = some state ∧
      state.run = some (.past 1 true (.checkout 1 RPI_FW)) ∧
      GitCache.Accepted .broadcom state := by
  have kept : Transition.Keeps (GitCache.step .broadcom) (GitCache.Whole .broadcom) (fresh 1)
      (toClone ++ [.next, .next, .fetch RPI_FW, .next, .next] ++ toRestored) := by
    apply Transition.keeps_of_forall
    intro event member state
    have usual : event = .start ∨ event = .next ∨ event = .fetch RPI_FW := by
      simp only [toClone, toRestored, List.mem_append, List.mem_cons, List.mem_replicate,
        List.not_mem_nil, or_false] at member
      tauto
    unfold GitCache.Whole
    rcases usual with rfl | rfl | rfl
    · split <;> trivial
    · split <;> trivial
    · split <;> try trivial
      rename_i files _ same
      cases same
      decide
  have arrives : Transition.run (GitCache.step .broadcom) (fresh 1)
      (toClone ++ [.next, .next, .fetch RPI_FW, .next, .next] ++ toRestored) =
      some ⟨1, some (.commit 1), some (.checkout 1 RPI_FW),
        some (.past 1 true (.checkout 1 RPI_FW))⟩ := by
    decide +kernel
  exact ⟨_, arrives, rfl, (accepted_sources_full .broadcom).1 1 _ _ kept arrives⟩

/-- The firmware could not be fetched, the build stopped, and the next run restores
the kernel without it. -/
theorem restored_without_firmware :
    ¬ ∀ (remote : Nat) (events : List (GitCache.Event Nat)) (state : GitCache.State Nat),
      Transition.run (GitCache.step .broadcom) (fresh remote) events = some state →
      GitCache.Accepted .broadcom state := by
  intro all
  have arrives : Transition.run (GitCache.step .broadcom) (fresh 1)
      (toClone ++ [.next, .next, .fetch []] ++ toRestored) =
      some ⟨1, some (.commit 1), some (.checkout 1 []), some (.past 1 true (.checkout 1 []))⟩ := by
    decide +kernel
  have full := (all 1 _ _ arrives 1 true _ rfl).1
  have lacking : brings .broadcom ([] : List PlainText.Text) = false := by decide
  exact absurd full.2 (by simp [GitCache.Tree.extra, lacking])

end ImageBuilder
