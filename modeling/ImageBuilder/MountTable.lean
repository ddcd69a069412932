import Mathlib.Data.List.Basic
import Mathlib.Data.List.Infix
import Mathlib.Tactic.Common

set_option autoImplicit false

/- Mounts as a shell script makes and takes them away: what can be unmounted, and
where `rm -r` goes into a mounted file system. -/
namespace MountTable

variable {Name : Type} [DecidableEq Name]

/-- An entry of the working directory, and the way from there. -/
structure Place (Name : Type) where
  root : Name
  below : List Name
  deriving DecidableEq

/-- At the other place, or below it. -/
def Place.Within (place other : Place Name) : Prop :=
  place.root = other.root ∧ other.below <+: place.below

instance (place other : Place Name) : Decidable (place.Within other) :=
  inferInstanceAs (Decidable (place.root = other.root ∧ other.below <+: place.below))

def top (name : Name) : Place Name := ⟨name, []⟩

/-- The mounts, newest first. -/
abbrev Mounts (Name : Type) := List (Place Name)

/-- The last mount at a place is taken away, unless one below it has been made
since. -/
def umount (place : Place Name) : Mounts Name → Option (Mounts Name)
  | [] => none
  | newest :: older =>
      if newest = place then some older
      else if newest.Within place then none
      else (umount place older).map (newest :: ·)

/-- `umount -l`: with all that have been made below it since. -/
def detach (place : Place Name) : Mounts Name → Option (Mounts Name)
  | [] => none
  | newest :: older =>
      if newest = place then some older
      else (detach place older).map fun left =>
        if newest.Within place then left else newest :: left

/-- Every mount is at a place of the working directory where there is none yet, or
below one that is mounted already. -/
def Rooted : Mounts Name → Prop
  | [] => True
  | newest :: older => Rooted older ∧
      if newest.below = [] then newest ∉ older else top newest.root ∈ older

def Rooted.decide : (mounts : Mounts Name) → Decidable (Rooted mounts)
  | [] => .isTrue trivial
  | newest :: older =>
    let _older := Rooted.decide older
    inferInstanceAs (Decidable (Rooted older ∧
      if newest.below = [] then newest ∉ older else top newest.root ∈ older))

variable {mounts : Mounts Name}

omit [DecidableEq Name] in
theorem top_of_below (place : Place Name) (atTop : place.below = []) : top place.root = place := by
  cases place
  rw [top, ← atTop]

omit [DecidableEq Name] in
/-- What is mounted below a place of the working directory is mounted in what is
mounted there. -/
theorem Rooted.top_mem (rooted : Rooted mounts) (place : Place Name) (member : place ∈ mounts) :
    top place.root ∈ mounts := by
  induction mounts with
  | nil => cases member
  | cons newest older ih =>
    obtain ⟨earlier, here⟩ := rooted
    rcases List.mem_cons.mp member with rfl | later
    · by_cases atTop : place.below = []
      · rw [top_of_below place atTop]
        exact List.mem_cons_self
      · rw [if_neg atTop] at here
        exact List.mem_cons_of_mem place here
    · exact List.mem_cons_of_mem newest (ih earlier later)

omit [DecidableEq Name] in
theorem Rooted.older {newer older : Mounts Name} (rooted : Rooted (newer ++ older)) :
    Rooted older := by
  induction newer with
  | nil => exact rooted
  | cons newest newer ih => exact ih rooted.1

theorem detach_spec (place : Place Name) (left : Mounts Name)
    (done : detach place mounts = some left) : ∃ newer older,
    mounts = newer ++ place :: older ∧
      left = (newer.filter fun other => ¬ other.Within place) ++ older := by
  induction mounts generalizing left with
  | nil => cases done
  | cons newest older ih =>
    unfold detach at done
    split at done
    · rename_i same
      obtain rfl := Option.some.inj done
      exact ⟨[], older, by rw [same]; rfl, rfl⟩
    · obtain ⟨rest, later, is⟩ := Option.map_eq_some_iff.mp done
      obtain ⟨newer, before, rfl, rfl⟩ := ih rest later
      refine ⟨newest :: newer, before, rfl, ?_⟩
      rw [← is, List.filter_cons]
      by_cases within : newest.Within place
      · simp [within]
      · simp [within]

/-- Nothing is mounted at the place or below it any more that has been made since. -/
theorem Rooted.without {newer older : Mounts Name} {place : Place Name}
    (rooted : Rooted (newer ++ place :: older)) :
    Rooted ((newer.filter fun other => ¬ other.Within place) ++ older) := by
  induction newer with
  | nil => exact rooted.1
  | cons newest newer ih =>
    obtain ⟨earlier, here⟩ := rooted
    rw [List.filter_cons]
    split
    · rename_i kept
      have apart : ¬ newest.Within place := of_decide_eq_true kept
      refine ⟨ih earlier, ?_⟩
      by_cases atTop : newest.below = []
      · rw [if_pos atTop] at here ⊢
        intro again
        rcases List.mem_append.mp again with since | before
        · exact here (List.mem_append_left _ (List.mem_of_mem_filter since))
        · exact here (List.mem_append_right _ (List.mem_cons_of_mem place before))
      · rw [if_neg atTop] at here ⊢
        rcases List.mem_append.mp here with since | before
        · refine List.mem_append_left _ (List.mem_filter.mpr ⟨since, ?_⟩)
          refine decide_eq_true fun within => apart ⟨within.1, ?_⟩
          rw [List.prefix_nil.mp within.2]
          exact List.nil_prefix
        · rcases List.mem_cons.mp before with is | before
          · exact absurd ⟨by rw [← is]; rfl, by rw [← is]; exact List.nil_prefix⟩ apart
          · exact List.mem_append_right _ before
    · exact ih earlier

/-- With what is mounted at an entry of the working directory goes all below it. -/
theorem Rooted.gone {newer older : Mounts Name} {name : Name}
    (rooted : Rooted (newer ++ top name :: older)) (place : Place Name)
    (member : place ∈ (newer.filter fun other => ¬ other.Within (top name)) ++ older) :
    place.root ≠ name := by
  intro same
  rcases List.mem_append.mp member with since | before
  · have apart := of_decide_eq_true (List.mem_filter.mp since).2
    exact apart ⟨same, List.nil_prefix⟩
  · obtain ⟨earlier, here⟩ := rooted.older
    have atTop : (top name).below = [] := rfl
    rw [if_pos atTop] at here
    have again := earlier.top_mem place before
    rw [same] at again
    exact here again

theorem umount_eq_detach (place : Place Name) (left : Mounts Name)
    (done : umount place mounts = some left) : detach place mounts = some left := by
  induction mounts generalizing left with
  | nil => cases done
  | cons newest older ih =>
    unfold umount at done
    unfold detach
    split at done
    · rename_i same
      rw [if_pos same]
      exact done
    · rename_i other
      split at done
      · cases done
      · rename_i apart
        obtain ⟨rest, later, rfl⟩ := Option.map_eq_some_iff.mp done
        rw [if_neg other, ih rest later, Option.map_some, if_neg apart]

/-- What a removal of a mount does, lazy or not. -/
structure Less (place : Place Name) (before after : Mounts Name) : Prop where
  subset : ∀ other ∈ after, other ∈ before
  rooted : Rooted before → Rooted after
  gone : Rooted before → ∀ name, place = top name → ∀ other ∈ after, other.root ≠ name

theorem detach_less (place : Place Name) (left : Mounts Name)
    (done : detach place mounts = some left) : Less place mounts left := by
  obtain ⟨newer, older, rfl, rfl⟩ := detach_spec place left done
  refine ⟨?_, Rooted.without, ?_⟩
  · intro other member
    rcases List.mem_append.mp member with since | before
    · exact List.mem_append_left _ (List.mem_of_mem_filter since)
    · exact List.mem_append_right _ (List.mem_cons_of_mem place before)
  · rintro rooted name rfl other member
    exact rooted.gone other member

/-- There is nothing to detach where nothing is mounted. -/
theorem detach_none (place : Place Name) (absent : detach place mounts = none) :
    place ∉ mounts := by
  induction mounts with
  | nil => simp
  | cons newest older ih =>
    unfold detach at absent
    split at absent
    · cases absent
    · rename_i other
      rw [Option.map_eq_none_iff] at absent
      exact List.not_mem_cons_of_ne_of_not_mem (Ne.symm other) (ih absent)

end MountTable
