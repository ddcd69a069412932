import Mathlib.Logic.Function.Basic
import Mathlib.Data.List.Basic

set_option autoImplicit false

/- Files moved over one another one at a time. -/
namespace FileMoves

variable {Key Value : Type} [DecidableEq Key]

/-- A move takes the contents away from the source; without a source, or onto itself,
it fails and changes nothing. -/
def move (files : Key → Option Value) (source target : Key) : Key → Option Value :=
  match files source with
  | none => files
  | some value =>
      if source = target then files
      else Function.update (Function.update files target (some value)) source none

def moves (files : Key → Option Value) : List (Key × Key) → Key → Option Value
  | [] => files
  | (source, target) :: rest => moves (move files source target) rest

theorem move_missing (files : Key → Option Value) (source target : Key)
    (missing : files source = none) : move files source target = files := by
  rw [move, missing]

theorem move_target (files : Key → Option Value) (source target : Key) (value : Value)
    (there : files source = some value) (apart : source ≠ target) :
    move files source target target = some value := by
  simp only [move, there, apart, ↓reduceIte]
  rw [Function.update_of_ne apart.symm, Function.update_self]

theorem move_source (files : Key → Option Value) (source target : Key) (value : Value)
    (there : files source = some value) (apart : source ≠ target) :
    move files source target source = none := by
  simp only [move, there, apart, ↓reduceIte, Function.update_self]

theorem move_onto (files : Key → Option Value) (key : Key) : move files key key = files := by
  unfold move
  cases files key with
  | none => rfl
  | some value => exact if_pos rfl

theorem move_frame (files : Key → Option Value) (source target key : Key)
    (notSource : key ≠ source) (notTarget : key ≠ target) :
    move files source target key = files key := by
  by_cases onto : source = target
  · rw [onto, move_onto]
  · cases found : files source with
    | none => rw [move_missing files source target found]
    | some value =>
        simp only [move, found, onto, ↓reduceIte]
        rw [Function.update_of_ne notSource, Function.update_of_ne notTarget]

/-- What no move names stays. -/
theorem moves_frame (files : Key → Option Value) (list : List (Key × Key)) (key : Key)
    (outside : ∀ pair ∈ list, key ≠ pair.1 ∧ key ≠ pair.2) : moves files list key = files key := by
  induction list generalizing files with
  | nil => rfl
  | cons pair rest ih =>
      obtain ⟨notSource, notTarget⟩ := outside pair List.mem_cons_self
      have later := ih (move files pair.1 pair.2) fun other member =>
        outside other (List.mem_cons_of_mem pair member)
      show moves (move files pair.1 pair.2) rest key = files key
      rw [later, move_frame files pair.1 pair.2 key notSource notTarget]

/-- Nothing comes from a source that is missing. -/
theorem moves_missing (files : Key → Option Value) (list : List (Key × Key)) (source : Key)
    (missing : files source = none) (same : ∀ pair ∈ list, pair.1 = source) :
    moves files list = files := by
  induction list with
  | nil => rfl
  | cons pair rest ih =>
      have first := same pair List.mem_cons_self
      show moves (move files pair.1 pair.2) rest = files
      rw [move_missing files pair.1 pair.2 (first ▸ missing)]
      exact ih fun other member => same other (List.mem_cons_of_mem pair member)

/-- A source can be moved to one place only. -/
theorem moves_one_target (files : Key → Option Value) (list : List (Key × Key)) (source : Key)
    (same : ∀ pair ∈ list, pair.1 = source) :
    ∃ target, ∀ key, key ≠ source → key ≠ target → moves files list key = files key := by
  induction list with
  | nil => exact ⟨source, fun _ _ _ => rfl⟩
  | cons pair rest ih =>
      have first := same pair List.mem_cons_self
      have others : ∀ other ∈ rest, other.1 = source := fun other member =>
        same other (List.mem_cons_of_mem pair member)
      show ∃ target, ∀ key, key ≠ source → key ≠ target →
        moves (move files pair.1 pair.2) rest key = files key
      rw [first]
      cases found : files source with
      | none =>
          rw [move_missing files source pair.2 found]
          exact ih others
      | some value =>
          by_cases onto : source = pair.2
          · rw [← onto, move_onto]
            exact ih others
          · refine ⟨pair.2, ?_⟩
            intro key notSource notTarget
            have gone := move_source files source pair.2 value found onto
            rw [moves_missing _ rest source gone others]
            exact move_frame files source pair.2 key notSource notTarget

/-- The value is at the source still, or has left it for the target. -/
def Ready (files : Key → Option Value) (wanted : Key × Key → Value) (pair : Key × Key) : Prop :=
  files pair.1 = some (wanted pair) ∨ files pair.1 = none ∧ files pair.2 = some (wanted pair)

/-- Moves that agree with one another: no target is a source, one source has one
target, and one target gets one value. -/
structure Agreeing (list : List (Key × Key)) (wanted : Key × Key → Value) : Prop where
  apart : ∀ pair ∈ list, ∀ other ∈ list, pair.1 ≠ other.2
  sources : ∀ pair ∈ list, ∀ other ∈ list, pair.1 = other.1 → pair.2 = other.2
  targets : ∀ pair ∈ list, ∀ other ∈ list, pair.2 = other.2 → wanted pair = wanted other

omit [DecidableEq Key] in
theorem Agreeing.tail {first : Key × Key} {rest : List (Key × Key)} {wanted : Key × Key → Value}
    (agreeing : Agreeing (first :: rest) wanted) : Agreeing rest wanted where
  apart pair member other there :=
    agreeing.apart pair (List.mem_cons_of_mem _ member) other (List.mem_cons_of_mem _ there)
  sources pair member other there :=
    agreeing.sources pair (List.mem_cons_of_mem _ member) other (List.mem_cons_of_mem _ there)
  targets pair member other there :=
    agreeing.targets pair (List.mem_cons_of_mem _ member) other (List.mem_cons_of_mem _ there)

omit [DecidableEq Key] in
/-- Moves for the members of a list. -/
theorem agreeing_map {α : Type} (list : List α) (pair : α → Key × Key) (wanted : Key × Key → Value)
    (apart : ∀ a ∈ list, ∀ b ∈ list, (pair a).1 ≠ (pair b).2)
    (sources : ∀ a ∈ list, ∀ b ∈ list, (pair a).1 = (pair b).1 → (pair a).2 = (pair b).2)
    (targets : ∀ a ∈ list, ∀ b ∈ list, (pair a).2 = (pair b).2 →
      wanted (pair a) = wanted (pair b)) : Agreeing (list.map pair) wanted := by
  constructor <;> simp only [List.forall_mem_map]
  · exact apart
  · exact sources
  · exact targets

/-- One move brings its own value and leaves the others ready. -/
theorem move_ready (files : Key → Option Value) (first : Key × Key) (rest : List (Key × Key))
    (wanted : Key × Key → Value) (agreeing : Agreeing (first :: rest) wanted)
    (ready : ∀ pair ∈ first :: rest, Ready files wanted pair) :
    move files first.1 first.2 first.2 = some (wanted first) ∧
      ∀ pair ∈ rest, Ready (move files first.1 first.2) wanted pair := by
  have head : first ∈ first :: rest := List.mem_cons_self
  have apart := agreeing.apart first head first head
  rcases ready first head with there | ⟨gone, installed⟩
  · have arrived := move_target files first.1 first.2 _ there apart
    have left := move_source files first.1 first.2 _ there apart
    refine ⟨arrived, ?_⟩
    intro pair member
    have inside := List.mem_cons_of_mem first member
    by_cases sameSource : pair.1 = first.1
    · have sameTarget := agreeing.sources pair inside first head sameSource
      have sameValue := agreeing.targets pair inside first head sameTarget
      right
      rw [sameSource, sameTarget, sameValue]
      exact ⟨left, arrived⟩
    · have source := move_frame files first.1 first.2 pair.1 sameSource
        (agreeing.apart pair inside first head)
      unfold Ready
      rw [source]
      by_cases sameTarget : pair.2 = first.2
      · rw [sameTarget, arrived, ← agreeing.targets pair inside first head sameTarget]
        exact (ready pair inside).imp id fun other => ⟨other.1, rfl⟩
      · rw [move_frame files first.1 first.2 pair.2
          (agreeing.apart first head pair inside).symm sameTarget]
        exact ready pair inside
  · rw [move_missing files first.1 first.2 gone]
    exact ⟨installed, fun pair member => ready pair (List.mem_cons_of_mem first member)⟩

/-- Moves that agree bring to every target what is wanted there. -/
theorem moves_install (files : Key → Option Value) (list : List (Key × Key))
    (wanted : Key × Key → Value) (agreeing : Agreeing list wanted)
    (ready : ∀ pair ∈ list, Ready files wanted pair) (pair : Key × Key) (member : pair ∈ list) :
    moves files list pair.2 = some (wanted pair) := by
  induction list generalizing files pair with
  | nil => cases member
  | cons first rest ih =>
      obtain ⟨arrived, later⟩ := move_ready files first rest wanted agreeing ready
      have run : ∀ other ∈ rest, moves (move files first.1 first.2) rest other.2 =
          some (wanted other) :=
        fun other there => ih (move files first.1 first.2) agreeing.tail later other there
      show moves (move files first.1 first.2) rest pair.2 = some (wanted pair)
      rcases List.mem_cons.mp member with rfl | member
      · by_cases again : ∃ other ∈ rest, other.2 = pair.2
        · obtain ⟨other, there, same⟩ := again
          have value := agreeing.targets other (List.mem_cons_of_mem _ there) pair
            List.mem_cons_self same
          rw [← value, ← run other there, same]
        · rw [moves_frame, arrived]
          intro other there
          refine ⟨?_, fun same => again ⟨other, there, same.symm⟩⟩
          exact (agreeing.apart other (List.mem_cons_of_mem _ there) pair List.mem_cons_self).symm
      · exact run pair member

end FileMoves
