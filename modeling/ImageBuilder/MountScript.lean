import ImageBuilder.MountTable
import Mathlib.Data.List.Forall2

set_option autoImplicit false

/- Scripts that mount, unmount and delete, whose commands may fail at any time and
which may be broken off at any time, and a check of a script under which it never
deletes what is mounted. -/
namespace MountTable

variable {Name : Type} [DecidableEq Name]

section Scripts

/-- The working directory: what is mounted there, its entries, and whether `rm -r`
has ever gone into a mounted file system. -/
structure State (Name : Type) where
  mounts : Mounts Name
  present : List Name
  wiped : Bool
  deriving DecidableEq

/-- What a command does to one of its operands. -/
inductive Action (Name : Type)
  | make (name : Name)
  | mount (place : Place Name)
  | umount (place : Place Name)
  | detach (name : Name)
  | rmdir (name : Name)
  | remove (name : Name)
  | other
  deriving DecidableEq

/-- A command with its operands; it stops the script if it is checked and fails. -/
structure Line (Name : Type) where
  actions : List (Action Name)
  checked : Bool
  deriving DecidableEq

/-- The state and the success of an action that may fail for reasons of its own; for
`rmdir` one of them is that something lies in the directory. `umount -l`, which waits for
nothing, is taken to succeed wherever something is mounted. A place below an entry of the
working directory is there only once that is mounted. -/
def State.apply (state : State Name) (ok : Bool) : Action Name → State Name × Bool
  | .make name => if ok then ({ state with present := state.present.insert name }, true)
      else (state, false)
  | .mount place =>
      if ok ∧ place.root ∈ state.present ∧
          (place.below = [] ∨ top place.root ∈ state.mounts) then
        ({ state with mounts := place :: state.mounts }, true)
      else (state, false)
  | .umount place =>
      match if ok then umount place state.mounts else none with
      | some left => ({ state with mounts := left }, true)
      | none => (state, false)
  | .detach name =>
      match detach (top name) state.mounts with
      | some left => ({ state with mounts := left }, true)
      | none => (state, false)
  | .rmdir name =>
      if ok ∧ name ∈ state.present ∧ ∀ place ∈ state.mounts, place.root ≠ name then
        ({ state with present := state.present.filter (· ≠ name) }, true)
      else (state, false)
  | .remove name =>
      if ∃ place ∈ state.mounts, place.root = name then ({ state with wiped := true }, false)
      else if ok then ({ state with present := state.present.filter (· ≠ name) }, true)
      else (state, false)
  | .other => (state, ok)

/-- All operands are tried, and all have to succeed. Without further outcomes the
script is broken off here. -/
def State.runLine (state : State Name) :
    List (Action Name) → List Bool → State Name × Option Bool
  | [], _ => (state, some true)
  | _ :: _, [] => (state, none)
  | action :: actions, ok :: oks =>
      let first := state.apply ok action
      let rest := first.1.runLine actions oks
      (rest.1, rest.2.map (first.2 && ·))

/-- The state, and whether the script has come to its end. -/
def State.run (state : State Name) : List (Line Name) → List (List Bool) → State Name × Bool
  | [], _ => (state, true)
  | _ :: _, [] => (state, false)
  | line :: lines, oks :: fate =>
      match state.runLine line.actions oks with
      | (next, none) => (next, false)
      | (next, some done) => if done || !line.checked then next.run lines fate else (next, false)

end Scripts

section Check

/-- What is known of a state: the entries where something may be mounted, and those
that are surely there. -/
structure Known (Name : Type) where
  possible : List Name
  sure : List Name

/-- `roots` are the entries that are ever mounted; while anything is mounted, one
of `guard` is to be there. -/
structure Convention (Name : Type) where
  roots : List Name
  guard : List Name

variable (convention : Convention Name)

/-- Without this entry another one of the guard is there, if one is needed. -/
def Known.spares (known : Known Name) (name : Name) : Bool :=
  name ∉ convention.guard || (known.possible.filter (· ≠ name)).isEmpty ||
    convention.guard.any fun other => other ≠ name && other ∈ known.sure

def Known.admits (known : Known Name) : Action Name → Bool
  | .mount place => place.below ≠ [] || place.root ∉ known.possible &&
      place.root ∈ convention.roots &&
        (place.root ∈ convention.guard || convention.guard.any (· ∈ known.sure))
  | .rmdir name => known.spares convention name
  | .remove name => name ∉ known.possible && known.spares convention name
  | _ => true

/-- What is known behind an action, of which one may know that it has succeeded. -/
def Known.after (known : Known Name) (done : Bool) : Action Name → Known Name
  | .make name => if done then { known with sure := name :: known.sure } else known
  | .mount place => if place.below = [] then
      { known with possible := place.root :: known.possible } else known
  | .umount place => if done ∧ place.below = [] then
      { known with possible := known.possible.filter (· ≠ place.root) } else known
  | .detach name => { known with possible := known.possible.filter (· ≠ name) }
  | .rmdir name | .remove name => { known with sure := known.sure.filter (· ≠ name) }
  | .other => known

/-- Every operand is tried, whatever became of those before it. -/
def Known.admitsAll (known : Known Name) : List (Action Name) → Bool
  | [] => true
  | action :: actions => known.admits convention action &&
      (known.after false action).admitsAll actions

def Known.check (known : Known Name) : List (Line Name) → Option (Known Name)
  | [] => some known
  | line :: lines =>
      if known.admitsAll convention line.actions then
        (line.actions.foldl (Known.after · line.checked) known).check lines
      else none

end Check

section Soundness

variable {convention : Convention Name} {state : State Name} {known : Known Name}

/-- Nothing mounted has been deleted, and the next run can clean up. -/
structure State.Sound (convention : Convention Name) (state : State Name) : Prop where
  intact : state.wiped = false
  rooted : Rooted state.mounts
  inRoots : ∀ place ∈ state.mounts, place.root ∈ convention.roots
  here : ∀ place ∈ state.mounts, place.root ∈ state.present
  guarded : state.mounts ≠ [] → ∃ name ∈ convention.guard, name ∈ state.present

structure Known.Of (known : Known Name) (state : State Name) : Prop where
  possible : ∀ place ∈ state.mounts, place.root ∈ known.possible
  sure : ∀ name ∈ known.sure, name ∈ state.present

omit [DecidableEq Name] in
/-- Fewer mounts, in the sense of `Less`, and the same entries. -/
theorem State.Sound.less (sound : state.Sound convention) {place : Place Name}
    {left : Mounts Name} (less : Less place state.mounts left) :
    { state with mounts := left }.Sound convention where
  intact := sound.intact
  rooted := less.rooted sound.rooted
  inRoots other member := sound.inRoots other (less.subset other member)
  here other member := sound.here other (less.subset other member)
  guarded some := by
    apply sound.guarded
    intro none
    apply some
    exact List.eq_nil_iff_forall_not_mem.mpr fun other member => by
      have before := less.subset other member
      rw [none] at before
      cases before

omit [DecidableEq Name] in
theorem Known.Of.less (of : known.Of state) {place : Place Name} {left : Mounts Name}
    (less : Less place state.mounts left) : known.Of { state with mounts := left } :=
  ⟨fun other member => of.possible other (less.subset other member), of.sure⟩

/-- A mount at an entry of the working directory is gone with all below it. -/
theorem Known.Of.gone (sound : state.Sound convention) (of : known.Of state) {name : Name}
    {left : Mounts Name} (less : Less (top name) state.mounts left) :
    { known with possible := known.possible.filter (· ≠ name) }.Of
      { state with mounts := left } where
  possible other member := by
    refine List.mem_filter.mpr ⟨of.possible other (less.subset other member), ?_⟩
    exact decide_eq_true (less.gone sound.rooted name rfl other member)
  sure := of.sure

/-- An entry without a mount is taken away. -/
theorem State.Sound.erase (sound : state.Sound convention) (of : known.Of state) (name : Name)
    (free : ∀ place ∈ state.mounts, place.root ≠ name)
    (spared : known.spares convention name = true) :
    { state with present := state.present.filter (· ≠ name) }.Sound convention where
  intact := sound.intact
  rooted := sound.rooted
  inRoots := sound.inRoots
  here place member := List.mem_filter.mpr
    ⟨sound.here place member, decide_eq_true (free place member)⟩
  guarded some := by
    have keeps (other : Name) (is : other ≠ name) (there : other ∈ state.present) :
        other ∈ state.present.filter (· ≠ name) := List.mem_filter.mpr ⟨there, decide_eq_true is⟩
    simp only [Known.spares, Bool.or_eq_true, decide_eq_true_eq, List.isEmpty_iff,
      List.any_eq_true, Bool.and_eq_true] at spared
    rcases spared with (outside | none) | ⟨other, inGuard, is, sure⟩
    · obtain ⟨guardian, inGuard, there⟩ := sound.guarded some
      exact ⟨guardian, inGuard, keeps guardian (fun is => outside (is ▸ inGuard)) there⟩
    · obtain ⟨place, member⟩ := List.exists_mem_of_ne_nil _ some
      have left : place.root ∈ known.possible.filter (· ≠ name) :=
        List.mem_filter.mpr ⟨of.possible place member, decide_eq_true (free place member)⟩
      rw [none] at left
      cases left
    · exact ⟨other, inGuard, keeps other is (of.sure other sure)⟩

theorem Known.Of.erase (of : known.Of state) (name : Name) :
    { known with sure := known.sure.filter (· ≠ name) }.Of
      { state with present := state.present.filter (· ≠ name) } where
  possible := of.possible
  sure other member := by
    obtain ⟨sure, is⟩ := List.mem_filter.mp member
    exact List.mem_filter.mpr ⟨of.sure other sure, is⟩

theorem Known.Of.unsure (of : known.Of state) (name : Name) :
    { known with sure := known.sure.filter (· ≠ name) }.Of state :=
  ⟨of.possible, fun other member => of.sure other (List.mem_of_mem_filter member)⟩

/-- An admitted mount that has been made. -/
theorem State.Sound.mounted (sound : state.Sound convention) (of : known.Of state)
    (place : Place Name) (there : place.root ∈ state.present)
    (reached : place.below = [] ∨ top place.root ∈ state.mounts)
    (admitted : known.admits convention (.mount place) = true) :
    { state with mounts := place :: state.mounts }.Sound convention := by
  simp only [Known.admits, Bool.or_eq_true, decide_eq_true_eq, Bool.and_eq_true,
    List.any_eq_true] at admitted
  by_cases atTop : place.below = []
  · obtain ⟨⟨free, inRoots⟩, guard⟩ := admitted.resolve_left fun other => other atTop
    refine ⟨sound.intact, ⟨sound.rooted, ?_⟩, List.forall_mem_cons.mpr ⟨inRoots, sound.inRoots⟩,
      List.forall_mem_cons.mpr ⟨there, sound.here⟩, fun _ => ?_⟩
    swap
    · rcases guard with itself | ⟨guardian, inGuard, sure⟩
      · exact ⟨place.root, itself, there⟩
      · exact ⟨guardian, inGuard, of.sure guardian sure⟩
    rw [if_pos atTop]
    exact fun again => free (of.possible place again)
  · have mounted := reached.resolve_left atTop
    have rootIn : place.root ∈ convention.roots := sound.inRoots (top place.root) mounted
    refine ⟨sound.intact, ⟨sound.rooted, ?_⟩, List.forall_mem_cons.mpr ⟨rootIn, sound.inRoots⟩,
      List.forall_mem_cons.mpr ⟨there, sound.here⟩,
      fun _ => sound.guarded (List.ne_nil_of_mem mounted)⟩
    rw [if_neg atTop]
    exact mounted

theorem Known.Of.mounted (of : known.Of state) (place : Place Name)
    (reached : place.below = [] ∨ top place.root ∈ state.mounts) {done : Bool} :
    (known.after done (.mount place)).Of { state with mounts := place :: state.mounts } := by
  simp only [Known.after]
  split
  · refine ⟨List.forall_mem_cons.mpr ⟨List.mem_cons_self, ?_⟩, of.sure⟩
    intro other member
    exact List.mem_cons_of_mem _ (of.possible other member)
  · rename_i deeper
    have mounted := reached.resolve_left deeper
    exact ⟨List.forall_mem_cons.mpr ⟨of.possible (top place.root) mounted, of.possible⟩, of.sure⟩

theorem Known.Of.unmounted (of : known.Of state) (place : Place Name) {done : Bool} :
    (known.after done (.mount place)).Of state := by
  simp only [Known.after]
  split
  · exact ⟨fun other member => List.mem_cons_of_mem _ (of.possible other member), of.sure⟩
  · exact of

/-- `umount` and `detach` alike. -/
theorem less_of_umount (place : Place Name) (ok : Bool) (left : Mounts Name)
    (done : (if ok then umount place state.mounts else none) = some left) :
    Less place state.mounts left := by
  split at done
  · exact detach_less place left (umount_eq_detach place left done)
  · cases done

/-- What is known behind an action, however it ends. -/
theorem State.apply_known (sound : state.Sound convention) (of : known.Of state) (ok : Bool)
    (action : Action Name) : (known.after false action).Of (state.apply ok action).1 := by
  cases action with
  | make name =>
    simp only [State.apply]
    split
    · exact ⟨of.possible, fun other sure => List.mem_insert_of_mem (of.sure other sure)⟩
    · exact of
  | mount place =>
    simp only [State.apply]
    split
    · rename_i made
      exact of.mounted place made.2.2
    · exact of.unmounted place
  | umount place =>
    simp only [State.apply, Known.after, Bool.false_eq_true, false_and, if_false]
    split
    · rename_i left done
      exact of.less (less_of_umount place ok left done)
    · exact of
  | detach name =>
    simp only [State.apply]
    split
    · rename_i left done
      exact of.gone sound (detach_less (top name) left done)
    · rename_i none
      refine ⟨?_, of.sure⟩
      intro place member
      refine List.mem_filter.mpr ⟨of.possible place member, decide_eq_true fun same => ?_⟩
      have mounted := sound.rooted.top_mem place member
      rw [same] at mounted
      exact detach_none (top name) none mounted
  | rmdir name =>
    simp only [State.apply]
    split
    · exact of.erase name
    · exact of.unsure name
  | remove name =>
    simp only [State.apply]
    split
    · exact ⟨of.possible, (of.unsure name).sure⟩
    · split
      · exact of.erase name
      · exact of.unsure name
  | other => exact of

/-- Of an action that has succeeded more is known. -/
theorem State.apply_done (sound : state.Sound convention) (of : known.Of state) (ok : Bool)
    (action : Action Name) (done : (state.apply ok action).2 = true) :
    (known.after true action).Of (state.apply ok action).1 := by
  cases action with
  | make name =>
    simp only [State.apply] at done ⊢
    split at done
    · rename_i made
      rw [if_pos made]
      refine ⟨of.possible, List.forall_mem_cons.mpr ⟨List.mem_insert_self, ?_⟩⟩
      intro other sure
      exact List.mem_insert_of_mem (of.sure other sure)
    · cases done
  | umount place =>
    simp only [State.apply, Known.after, true_and] at done ⊢
    split at done
    · rename_i left is
      have less := less_of_umount place ok left is
      split
      · rename_i atTop
        rw [← top_of_below place atTop] at less
        exact of.gone sound less
      · exact of.less less
    · cases done
  | mount place => exact state.apply_known sound of ok (.mount place)
  | detach name => exact state.apply_known sound of ok (.detach name)
  | rmdir name => exact state.apply_known sound of ok (.rmdir name)
  | remove name => exact state.apply_known sound of ok (.remove name)
  | other => exact of

/-- An admitted action keeps a sound state sound, however it ends. -/
theorem State.apply_sound (sound : state.Sound convention) (of : known.Of state) (ok : Bool)
    (action : Action Name) (admitted : known.admits convention action = true) :
    (state.apply ok action).1.Sound convention := by
  cases action with
  | make name =>
    simp only [State.apply]
    split
    · refine ⟨sound.intact, sound.rooted, sound.inRoots, ?_, ?_⟩
      · intro place member
        exact List.mem_insert_of_mem (sound.here place member)
      · intro some
        obtain ⟨guardian, inGuard, there⟩ := sound.guarded some
        exact ⟨guardian, inGuard, List.mem_insert_of_mem there⟩
    · exact sound
  | mount place =>
    simp only [State.apply]
    split
    · rename_i done
      exact sound.mounted of place done.2.1 done.2.2 admitted
    · exact sound
  | umount place =>
    simp only [State.apply]
    split
    · rename_i left done
      exact sound.less (less_of_umount place ok left done)
    · exact sound
  | detach name =>
    simp only [State.apply]
    split
    · rename_i left done
      exact sound.less (detach_less (top name) left done)
    · exact sound
  | rmdir name =>
    simp only [State.apply]
    split
    · rename_i free
      exact sound.erase of name free.2.2 admitted
    · exact sound
  | remove name =>
    simp only [Known.admits, Bool.and_eq_true, decide_eq_true_eq] at admitted
    have free (place : Place Name) (member : place ∈ state.mounts) : place.root ≠ name :=
      fun same => admitted.1 (same ▸ of.possible place member)
    simp only [State.apply]
    rw [if_neg fun ⟨place, member, same⟩ => free place member same]
    split
    · exact sound.erase of name free admitted.2
    · exact sound
  | other => exact sound

/-- The operands of one command: what is known if it comes to its end, and what if
all of them succeed. -/
theorem State.runLine_sound (actions : List (Action Name)) (oks : List Bool)
    (certain : Known Name) (sound : state.Sound convention) (of : known.Of state)
    (admitted : known.admitsAll convention actions = true) :
    (state.runLine actions oks).1.Sound convention ∧
      (∀ done, (state.runLine actions oks).2 = some done →
        (actions.foldl (Known.after · false) known).Of (state.runLine actions oks).1) ∧
      ((state.runLine actions oks).2 = some true → certain.Of state →
        (actions.foldl (Known.after · true) certain).Of (state.runLine actions oks).1) := by
  induction actions generalizing state known certain oks with
  | nil => exact ⟨sound, fun _ _ => of, fun _ ofCertain => ofCertain⟩
  | cons action actions ih =>
    cases oks with
    | nil =>
      refine ⟨sound, ?_, ?_⟩
      · intro done broken
        cases broken
      · intro broken
        cases broken
    | cons ok oks =>
      rw [Known.admitsAll, Bool.and_eq_true] at admitted
      obtain ⟨left, ended, all⟩ := ih oks (certain.after true action)
        (state.apply_sound sound of ok action admitted.1)
        (state.apply_known sound of ok action) admitted.2
      refine ⟨left, ?_, ?_⟩
      · intro done is
        obtain ⟨rest, here, -⟩ := Option.map_eq_some_iff.mp is
        exact ended rest here
      · intro is ofCertain
        obtain ⟨rest, here, both⟩ := Option.map_eq_some_iff.mp is
        obtain ⟨first, rfl⟩ := Bool.and_eq_true_iff.mp both
        exact all here (state.apply_done sound ofCertain ok action first)

/-- A script that passes the check leaves a sound state sound, whatever fails and
wherever it is broken off; and at its end what the check says is known. -/
theorem State.run_sound (lines : List (Line Name)) (fate : List (List Bool))
    (atEnd : Known Name) (sound : state.Sound convention) (of : known.Of state)
    (checked : known.check convention lines = some atEnd) :
    (state.run lines fate).1.Sound convention ∧
      ((state.run lines fate).2 = true → atEnd.Of (state.run lines fate).1) := by
  induction lines generalizing state known fate with
  | nil =>
    obtain rfl := Option.some.inj checked
    exact ⟨sound, fun _ => of⟩
  | cons line lines ih =>
    cases fate with
    | nil => exact ⟨sound, fun broken => absurd broken Bool.false_ne_true⟩
    | cons oks fate =>
      rw [Known.check] at checked
      split at checked
      · rename_i admitted
        obtain ⟨next, ended, all⟩ := state.runLine_sound line.actions oks known sound of admitted
        rw [State.run]
        split
        · rename_i reached broken
          rw [broken] at next
          exact ⟨next, fun is => absurd is Bool.false_ne_true⟩
        · rename_i reached done ran
          rw [ran] at next ended all
          split
          · rename_i goes
            refine ih fate next ?_ checked
            cases mode : line.checked with
            | true =>
              rw [mode, Bool.not_true, Bool.or_false] at goes
              exact all (congrArg some goes) of
            | false => exact ended done rfl
          · exact ⟨next, fun is => absurd is Bool.false_ne_true⟩
      · cases checked

theorem Known.check_append (first second : List (Line Name)) :
    known.check convention (first ++ second) =
      (known.check convention first).bind fun between => between.check convention second := by
  induction first generalizing known with
  | nil => rfl
  | cons line first ih =>
    rw [List.cons_append, Known.check, Known.check]
    split
    · exact ih
    · rfl

end Soundness

section Success

/-- Nothing fails for reasons of its own. -/
def succeeding (lines : List (Line Name)) : List (List Bool) :=
  lines.map fun line => line.actions.map fun _ => true

/-- Every operand of every command has an outcome. -/
def Complete (lines : List (Line Name)) (fate : List (List Bool)) : Prop :=
  List.Forall₂ (fun line oks => line.actions.length = oks.length) lines fate

/-- The mounts and the entries that are surely there, behind actions that nothing
hinders. -/
def plan (mounts : Mounts Name) (sure : List Name) :
    List (Action Name) → Option (Mounts Name × List Name)
  | [] => some (mounts, sure)
  | .make name :: actions => plan mounts (sure.insert name) actions
  | .mount place :: actions =>
      if place.root ∈ sure ∧ (place.below = [] ∨ top place.root ∈ mounts) then
        plan (place :: mounts) sure actions
      else none
  | .umount place :: actions => (umount place mounts).bind fun left => plan left sure actions
  | .detach name :: actions => (detach (top name) mounts).bind fun left => plan left sure actions
  | .rmdir name :: actions =>
      if name ∈ sure ∧ ∀ place ∈ mounts, place.root ≠ name then
        plan mounts (sure.filter (· ≠ name)) actions
      else none
  | .remove name :: actions =>
      if ∃ place ∈ mounts, place.root = name then none
      else plan mounts (sure.filter (· ≠ name)) actions
  | .other :: actions => plan mounts sure actions

variable {state : State Name}

/-- An action that is first in a plan succeeds, and the plan goes on behind it. -/
theorem State.apply_plan (action : Action Name) (actions : List (Action Name)) (sure : List Name)
    (there : ∀ name ∈ sure, name ∈ state.present) (planned : Mounts Name × List Name)
    (is : plan state.mounts sure (action :: actions) = some planned) :
    (state.apply true action).2 = true ∧
      ∃ next, (∀ name ∈ next, name ∈ (state.apply true action).1.present) ∧
        plan (state.apply true action).1.mounts next actions = some planned := by
  have fewer (name other : Name) (member : other ∈ sure.filter (· ≠ name)) :
      other ∈ state.present.filter (· ≠ name) := by
    obtain ⟨before, apart⟩ := List.mem_filter.mp member
    exact List.mem_filter.mpr ⟨there other before, apart⟩
  cases action with
  | make name =>
    refine ⟨rfl, sure.insert name, ?_, is⟩
    intro other member
    rcases List.mem_insert_iff.mp member with rfl | before
    · exact List.mem_insert_self
    · exact List.mem_insert_of_mem (there other before)
  | mount place =>
    rw [plan] at is
    split at is
    · rename_i reached
      simp only [State.apply]
      rw [if_pos ⟨trivial, there place.root reached.1, reached.2⟩]
      exact ⟨rfl, sure, there, is⟩
    · cases is
  | umount place =>
    obtain ⟨left, done, rest⟩ := Option.bind_eq_some_iff.mp is
    simp only [State.apply, if_true, done]
    exact ⟨trivial, sure, there, rest⟩
  | detach name =>
    obtain ⟨left, done, rest⟩ := Option.bind_eq_some_iff.mp is
    simp only [State.apply, done]
    exact ⟨trivial, sure, there, rest⟩
  | rmdir name =>
    rw [plan] at is
    split at is
    · rename_i free
      simp only [State.apply]
      rw [if_pos ⟨trivial, there name free.1, free.2⟩]
      exact ⟨rfl, _, fewer name, is⟩
    · cases is
  | remove name =>
    rw [plan] at is
    split at is
    · cases is
    · rename_i free
      simp only [State.apply, if_true]
      rw [if_neg free]
      exact ⟨rfl, _, fewer name, is⟩
  | other => exact ⟨rfl, sure, there, is⟩

/-- A command for which there is a plan succeeds. -/
theorem State.runLine_plan (actions later : List (Action Name)) (sure : List Name)
    (there : ∀ name ∈ sure, name ∈ state.present) (planned : Mounts Name × List Name)
    (is : plan state.mounts sure (actions ++ later) = some planned) :
    (state.runLine actions (actions.map fun _ => true)).2 = some true ∧
      ∃ next, (∀ name ∈ next,
          name ∈ (state.runLine actions (actions.map fun _ => true)).1.present) ∧
        plan (state.runLine actions (actions.map fun _ => true)).1.mounts next later =
          some planned := by
  induction actions generalizing state sure with
  | nil => exact ⟨rfl, sure, there, is⟩
  | cons action actions ih =>
    obtain ⟨succeeds, between, still, rest⟩ :=
      state.apply_plan action (actions ++ later) sure there planned is
    obtain ⟨all, next, present, ends⟩ := ih between still rest
    refine ⟨?_, next, present, ends⟩
    rw [List.map_cons, State.runLine, all, succeeds]
    rfl

/-- A script for which there is a plan comes to its end, with the planned mounts. -/
theorem State.run_plan (lines : List (Line Name)) (sure : List Name)
    (there : ∀ name ∈ sure, name ∈ state.present) (planned : Mounts Name × List Name)
    (is : plan state.mounts sure (lines.flatMap Line.actions) = some planned) :
    (state.run lines (succeeding lines)).2 = true ∧
      (state.run lines (succeeding lines)).1.mounts = planned.1 := by
  induction lines generalizing state sure with
  | nil =>
    obtain rfl := Option.some.inj is
    exact ⟨rfl, rfl⟩
  | cons line lines ih =>
    rw [List.flatMap_cons] at is
    obtain ⟨all, next, present, rest⟩ := state.runLine_plan line.actions _ sure there planned is
    generalize ran : state.runLine line.actions (line.actions.map fun _ => true) = after
      at all present rest
    obtain ⟨reached, done⟩ := after
    obtain rfl : done = some true := all
    have goes : state.run (line :: lines) (succeeding (line :: lines)) =
        reached.run lines (succeeding lines) := by
      rw [succeeding, List.map_cons, State.run, ran]
      rfl
    rw [goes]
    exact ih next present rest

omit [DecidableEq Name] in
theorem complete_map (ok : Bool) (lines : List (Line Name)) :
    Complete lines (lines.map fun line => line.actions.map fun _ => ok) := by
  rw [Complete, List.forall₂_map_right_iff, List.forall₂_same]
  intro line _
  rw [List.length_map]

/-- A command that has an outcome for each operand comes to its end. -/
theorem State.runLine_complete (actions : List (Action Name)) (oks : List Bool)
    (complete : actions.length = oks.length) :
    ∃ done, (state.runLine actions oks).2 = some done := by
  induction actions generalizing state oks with
  | nil => exact ⟨true, rfl⟩
  | cons action actions ih =>
    cases oks with
    | nil => cases complete
    | cons ok oks =>
      obtain ⟨rest, is⟩ := @ih (state.apply ok action).1 oks (Nat.succ.inj complete)
      rw [State.runLine, is]
      exact ⟨_, rfl⟩

/-- Behind a script without checked commands the next one goes on, whatever failed. -/
theorem State.run_append (first second : List (Line Name)) (fate later : List (List Bool))
    (lenient : ∀ line ∈ first, line.checked = false) (complete : Complete first fate) :
    (state.run first fate).2 = true ∧
      state.run (first ++ second) (fate ++ later) = (state.run first fate).1.run second later := by
  induction complete generalizing state with
  | nil => exact ⟨rfl, rfl⟩
  | @cons line oks lines fate ends rest ih =>
    obtain ⟨done, is⟩ := state.runLine_complete line.actions oks ends
    generalize ran : state.runLine line.actions oks = after at is
    obtain ⟨reached, outcome⟩ := after
    obtain rfl : outcome = some done := is
    have goes (done : Bool) : (done || !line.checked) = true := by
      rw [lenient line List.mem_cons_self, Bool.not_false, Bool.or_true]
    have ih := @ih reached fun other member => lenient other (List.mem_cons_of_mem line member)
    simp only [List.cons_append, State.run, ran, goes, if_true]
    exact ih

end Success

end MountTable
