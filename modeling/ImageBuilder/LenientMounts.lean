import ImageBuilder.MountTable
import Mathlib.Data.List.Forall2

set_option autoImplicit false

/- Scripts that mount and unmount and go on whatever fails: what can still be
mounted at their end if no unmounting fails. -/
namespace MountTable

variable {Name : Type} [DecidableEq Name]

section Steps

/-- What a command is to do with one of its operands. -/
inductive Attempt (Name : Type)
  | mount (place : Place Name)
  | umount (place : Place Name)
  | other

/-- A command with its operands, of the script itself or of one that it calls and
that stops at what fails. -/
structure Step (Name : Type) where
  attempts : List (Attempt Name)
  called : Bool

/-- An attempt may fail for reasons of its own. Nothing need be mounted where a
place is below an entry: the directory may be a plain one. -/
def Attempt.run (mounts : Mounts Name) (ok : Bool) : Attempt Name → Mounts Name × Bool
  | .mount place => if ok then (place :: mounts, true) else (mounts, false)
  | .umount place =>
      match if ok then MountTable.umount place mounts else none with
      | some left => (left, true)
      | none => (mounts, false)
  | .other => (mounts, ok)

/-- All operands are tried, and all have to succeed. -/
def runAttempts (mounts : Mounts Name) : List (Attempt Name) → List Bool → Mounts Name × Bool
  | attempt :: attempts, ok :: oks =>
      let first := attempt.run mounts ok
      let rest := runAttempts first.1 attempts oks
      (rest.1, first.2 && rest.2)
  | _, _ => (mounts, true)

/-- The mounts, and whether no called script has stopped. Without further outcomes the
script is broken off. -/
def runSteps (stopped : Bool) (mounts : Mounts Name) :
    List (Step Name) → List (List Bool) → Mounts Name × Bool
  | step :: steps, oks :: fate =>
      if stopped && step.called then
        let rest := runSteps true mounts steps fate
        (rest.1, false)
      else
        let first := runAttempts mounts step.attempts oks
        let rest := runSteps (step.called && !first.2) first.1 steps fate
        (rest.1, (first.2 || !step.called) && rest.2)
  | _, _ => (mounts, true)

end Steps

section Settled

/-- All that can be mounted behind the attempts, if every mount may have been made or
not and every unmounting is done where it can be. -/
def settle (possible : Mounts Name) : List (Attempt Name) → Option (Mounts Name)
  | [] => some possible
  | .mount place :: attempts => settle (place :: possible) attempts
  | .umount place :: attempts => (umount place possible).bind fun left => settle left attempts
  | .other :: attempts => settle possible attempts

/-- An unmounting does not fail for reasons of its own. -/
def Attempt.Free : Attempt Name → Bool → Prop
  | .umount _, ok => ok = true
  | _, _ => True

omit [DecidableEq Name] in
instance (attempt : Attempt Name) (ok : Bool) : Decidable (attempt.Free ok) :=
  match attempt with
  | .umount _ => inferInstanceAs (Decidable (ok = true))
  | .mount _ | .other => .isTrue trivial

variable {mounts possible : Mounts Name}

theorem umount_less (place : Place Name) (left : Mounts Name)
    (done : umount place mounts = some left) : left.Sublist mounts := by
  induction mounts generalizing left with
  | nil => cases done
  | cons newest older ih =>
    unfold umount at done
    split at done
    · obtain rfl := Option.some.inj done
      exact List.sublist_cons_self newest older
    · split at done
      · cases done
      · obtain ⟨rest, later, rfl⟩ := Option.map_eq_some_iff.mp done
        exact (ih rest later).cons_cons newest

/-- What is mounted of what can be mounted stays so when both are unmounted, the one
as far as that is possible. -/
theorem umount_sublist (place : Place Name) (left : Mounts Name) (sub : mounts.Sublist possible)
    (done : umount place possible = some left) :
    ((umount place mounts).getD mounts).Sublist left := by
  induction possible generalizing mounts left with
  | nil => cases done
  | cons newest older ih =>
    unfold umount at done
    cases sub with
    | cons _ sub =>
      split at done
      · obtain rfl := Option.some.inj done
        cases is : umount place mounts with
        | none => exact sub
        | some rest => exact (umount_less place rest is).trans sub
      · split at done
        · cases done
        · obtain ⟨rest, later, rfl⟩ := Option.map_eq_some_iff.mp done
          exact (ih rest sub later).cons newest
    | @cons_cons before _ _ sub =>
      rw [umount]
      split at done
      · rename_i same
        obtain rfl := Option.some.inj done
        rw [if_pos same]
        exact sub
      · rename_i other
        split at done
        · cases done
        · rename_i apart
          obtain ⟨rest, later, rfl⟩ := Option.map_eq_some_iff.mp done
          have kept := ih rest sub later
          rw [if_neg other, if_neg apart]
          cases is : umount place before with
          | none =>
            rw [is] at kept
            exact kept.cons_cons newest
          | some fewer =>
            rw [is] at kept
            exact kept.cons_cons newest

theorem settle_append (first second : List (Attempt Name)) :
    settle possible (first ++ second) =
      (settle possible first).bind fun between => settle between second := by
  induction first generalizing possible with
  | nil => rfl
  | cons attempt first ih =>
    cases attempt with
    | mount place => exact ih
    | umount place =>
      rw [List.cons_append, settle, settle, Option.bind_assoc]
      congr 1
      funext left
      exact ih
    | other => exact ih

/-- One attempt, and what can be mounted behind it. -/
theorem Attempt.run_settle (attempt : Attempt Name) (ok : Bool) (left : Mounts Name)
    (sub : mounts.Sublist possible) (free : attempt.Free ok)
    (settled : settle possible [attempt] = some left) : (attempt.run mounts ok).1.Sublist left := by
  cases attempt with
  | mount place =>
    obtain rfl := Option.some.inj settled
    cases ok with
    | true => exact sub.cons_cons place
    | false => exact sub.cons place
  | umount place =>
    obtain rfl : ok = true := free
    obtain ⟨fewer, done, is⟩ := Option.bind_eq_some_iff.mp settled
    obtain rfl := Option.some.inj is
    have kept := umount_sublist place fewer sub done
    simp only [run, if_true]
    cases is : MountTable.umount place mounts with
    | none =>
      rw [is] at kept
      exact kept
    | some rest =>
      rw [is] at kept
      exact kept
  | other =>
    obtain rfl := Option.some.inj settled
    exact sub

theorem runAttempts_settle (attempts : List (Attempt Name)) (oks : List Bool) (left : Mounts Name)
    (sub : mounts.Sublist possible) (free : List.Forall₂ Attempt.Free attempts oks)
    (settled : settle possible attempts = some left) :
    (runAttempts mounts attempts oks).1.Sublist left := by
  induction free generalizing mounts possible with
  | nil =>
    obtain rfl := Option.some.inj settled
    exact sub
  | @cons attempt ok attempts oks first rest ih =>
    rw [← List.singleton_append, settle_append] at settled
    obtain ⟨between, one, others⟩ := Option.bind_eq_some_iff.mp settled
    exact ih (attempt.run_settle ok between sub first one) others

/-- No unmounting fails for reasons of its own, and the script comes to its end. -/
def Free (steps : List (Step Name)) (fate : List (List Bool)) : Prop :=
  List.Forall₂ (fun step oks => List.Forall₂ Attempt.Free step.attempts oks) steps fate

omit [DecidableEq Name] in
instance (steps : List (Step Name)) (fate : List (List Bool)) : Decidable (Free steps fate) :=
  inferInstanceAs (Decidable (List.Forall₂
    (fun step oks => List.Forall₂ Attempt.Free step.attempts oks) steps fate))

/-- At the end of a script at most that is mounted which settles, if no unmounting fails
and no called script has stopped. -/
theorem runSteps_settle (steps : List (Step Name)) (fate : List (List Bool)) (left : Mounts Name)
    (sub : mounts.Sublist possible) (free : Free steps fate)
    (settled : settle possible (steps.flatMap Step.attempts) = some left)
    (ended : (runSteps false mounts steps fate).2 = true) :
    (runSteps false mounts steps fate).1.Sublist left := by
  induction free generalizing mounts possible with
  | nil =>
    obtain rfl := Option.some.inj settled
    exact sub
  | @cons step oks steps fate first rest ih =>
    rw [List.flatMap_cons, settle_append] at settled
    obtain ⟨between, one, others⟩ := Option.bind_eq_some_iff.mp settled
    rw [runSteps, Bool.false_and, if_neg Bool.false_ne_true] at ended ⊢
    obtain ⟨went, later⟩ := Bool.and_eq_true_iff.mp ended
    have goes : (step.called && !(runAttempts mounts step.attempts oks).2) = false := by
      rw [Bool.and_eq_false_iff, Bool.not_eq_false']
      rcases Bool.or_eq_true_iff.mp went with all | outer
      · exact Or.inr all
      · exact Or.inl ((Bool.not_eq_true' _).mp outer)
    rw [goes] at later
    simp only [goes]
    exact ih (runAttempts_settle step.attempts oks between sub first one) others later

end Settled

end MountTable
