import Mathlib.Data.List.Basic
import Mathlib.Data.List.Infix
import Mathlib.Data.List.Nodup
import Mathlib.Data.List.Range

set_option autoImplicit false

/- Sequences cut into lines, where the last line may lack its end, and lists whose
entries are numbered by the blocks they come from. -/
namespace TextLines

def isNewline (c : Char) : Bool := c == '\n'

section Lines

variable {α β : Type} (ends : α → Bool)

/-- The lines without their ends. Behind the last end there is a line only if there
is something. -/
def lines : List α → List (List α)
  | [] => []
  | c :: rest =>
      if ends c then [] :: lines rest
      else match lines rest with
        | [] => [[c]]
        | line :: more => (c :: line) :: more

theorem lines_end (c : α) (rest : List α) (isEnd : ends c = true) :
    lines ends (c :: rest) = [] :: lines ends rest := by
  rw [lines, if_pos isEnd]

/-- The lines of a marked text are the marked lines. -/
theorem lines_map (f : β → α) (text : List β) :
    lines ends (text.map f) = (lines (fun c => ends (f c)) text).map (List.map f) := by
  induction text with
  | nil => rfl
  | cons c rest ih =>
      rw [List.map_cons, lines, lines, ih]
      split
      · rfl
      · cases lines (fun c => ends (f c)) rest <;> rfl

/-- The lines hold what the text holds, in its order. -/
theorem flatten_lines (text : List α) : (lines ends text).flatten.Sublist text := by
  induction text with
  | nil => exact List.Sublist.refl []
  | cons c rest ih =>
      rw [lines]
      split
      · exact ih.cons c
      · cases found : lines ends rest with
        | nil => exact (List.nil_sublist rest).cons_cons c
        | cons line more =>
            rw [found] at ih
            exact ih.cons_cons c

/-- A text that ends with a whole line, or is empty. -/
def Terminated (text : List α) : Prop := ∀ c, text.getLast? = some c → ends c = true

theorem lines_append (first second : List α) (terminated : Terminated ends first) :
    lines ends (first ++ second) = lines ends first ++ lines ends second := by
  induction first with
  | nil => rfl
  | cons c rest ih =>
      rw [List.cons_append, lines, lines]
      by_cases isEnd : ends c = true
      · rw [if_pos isEnd, if_pos isEnd, List.cons_append, ih]
        intro d last
        apply terminated
        cases rest with
        | nil => cases last
        | cons e more => rwa [List.getLast?_cons_cons]
      · cases rest with
        | nil => exact absurd (terminated c rfl) isEnd
        | cons e more =>
            have later := ih fun d last => terminated d (by rwa [List.getLast?_cons_cons])
            rw [if_neg isEnd, if_neg isEnd, later]
            cases found : lines ends (e :: more) with
            | cons line others => rfl
            | nil =>
                rw [lines] at found
                split at found
                · cases found
                · split at found <;> cases found

theorem terminated_line (line : List α) (c : α) (isEnd : ends c = true) :
    Terminated ends (line ++ [c]) := by
  intro d last
  rw [List.getLast?_concat] at last
  rwa [← Option.some.inj last]

/-- One line and its end. -/
theorem lines_concat (line : List α) (c : α) (isEnd : ends c = true)
    (inside : ∀ d ∈ line, ends d = false) : lines ends (line ++ [c]) = [line] := by
  induction line with
  | nil => exact lines_end ends c [] isEnd
  | cons d line ih =>
      have first := inside d List.mem_cons_self
      rw [List.cons_append, lines, if_neg (by rw [first]; decide),
        ih fun e member => inside e (List.mem_cons_of_mem d member)]

end Lines

section Numbered

/-- A sorted list that has each number below a bound once is the list of them. -/
theorem eq_range (bound : Nat) (numbers : List Nat) (sorted : numbers.Pairwise (· ≤ ·))
    (below : ∀ n ∈ numbers, n < bound) (once : ∀ n < bound, numbers.count n = 1) :
    numbers = List.range bound := by
  have same : numbers.Perm (List.range bound) := by
    rw [List.perm_iff_count]
    intro n
    by_cases inside : n < bound
    · rw [once n inside, List.count_eq_one_of_mem List.nodup_range (List.mem_range.mpr inside)]
    · rw [List.count_eq_zero_of_not_mem fun member => inside (below n member),
        List.count_eq_zero_of_not_mem fun member => inside (List.mem_range.mp member)]
  have ordered : (List.range bound).Pairwise (· ≤ ·) := List.pairwise_le_range
  exact same.eq_of_pairwise (fun a b _ _ => Nat.le_antisymm) sorted ordered

/-- What is in a list once stands at one place. -/
theorem countP_eq_one_iff {α : Type} (p : α → Bool) (list : List α) :
    list.countP p = 1 ↔ ∃! n : Nat, ∃ x, list[n]? = some x ∧ p x = true := by
  induction list with
  | nil => simp [ExistsUnique]
  | cons first rest ih =>
      by_cases here : p first = true
      · rw [List.countP_cons_of_pos here, Nat.add_eq_right, List.countP_eq_zero]
        constructor
        · intro none
          refine ⟨0, ⟨first, rfl, here⟩, ?_⟩
          rintro (_ | n) ⟨x, place, found⟩
          · rfl
          · exact absurd found (none x (List.mem_of_getElem? place))
        · rintro ⟨_, _, unique⟩ x member found
          obtain ⟨n, place⟩ := List.getElem?_of_mem member
          have start := unique 0 ⟨first, rfl, here⟩
          have later := unique (n + 1) ⟨x, place, found⟩
          omega
      · rw [List.countP_cons_of_neg here, ih]
        constructor
        · rintro ⟨n, found, unique⟩
          refine ⟨n + 1, found, ?_⟩
          rintro (_ | m) ⟨x, place, other⟩
          · cases place
            exact absurd other here
          · rw [unique m ⟨x, place, other⟩]
        · rintro ⟨_ | n, found, unique⟩
          · obtain ⟨x, place, other⟩ := found
            cases place
            exact absurd other here
          · refine ⟨n, found, ?_⟩
            intro m other
            have shifted := unique (m + 1) other
            omega

end Numbered

end TextLines
