import ImageBuilder.Shrink
import Mathlib.Data.Nat.Log

set_option autoImplicit false

/- How large the shrunk image is next to the original one. -/
namespace ImageBuilder.Shrink

open PlainText Numerals

/-- `du -sm`: MiB, rounded up. -/
def du_sm (used : Nat) : Nat := (used + (2 ^ 20 - 1)) / 2 ^ 20

/-- An IMGSIZE as the configuration has it. -/
def megabytes (n : Nat) : Text := decimal n ++ ("MB" : Text)

/-- The root partition is the last of an image's partitions. -/
def rootPartition (parted : Parted) (board : Board) (P_VALUE : Scheme) (IMGSIZE : Text) :
    Option Extent :=
  (partition parted board P_VALUE IMGSIZE).bind List.getLast?

/-- No root file system that fits into the image gives a larger image. -/
def NeverEnlarges (parted : Parted) (board : Board) (P_VALUE : Scheme) (IMGSIZE : Text) : Prop :=
  ∀ root used, rootPartition parted board P_VALUE IMGSIZE = some root → used ≤ root.bytes →
    ∀ old new, truncate IMGSIZE = some old →
      truncate (calculate P_VALUE (du_sm used)) = some new → new ≤ old

/-- The number in front of MB. -/
def total_mb (P_VALUE : Scheme) (du_mb : Nat) : Nat :=
  du_mb + padding_mb P_VALUE (first_digit du_mb)

/-- The two kinds of usage that come out largest: a full root partition, and a usage
of nines only, behind which the padding falls back. -/
structure WorstFits (P_VALUE : Scheme) (n capacity : Nat) : Prop where
  full : total_mb P_VALUE capacity ≤ n
  nines : ∀ digits, 10 ^ digits - 1 ≤ capacity → total_mb P_VALUE (10 ^ digits - 1) ≤ n

/-- Within one number of digits the padding grows with the usage. -/
theorem total_mono (P_VALUE : Scheme) (k a b : Nat) (low : 10 ^ k ≤ a) (le : a ≤ b)
    (high : b < 10 ^ (k + 1)) : total_mb P_VALUE a ≤ total_mb P_VALUE b := by
  have table : ∀ P_VALUE : Scheme, ∀ d < 10, ∀ e < 10, 1 ≤ d → d ≤ e →
      padding_mb P_VALUE (some d.digitChar) ≤ padding_mb P_VALUE (some e.digitChar) := by
    intro P_VALUE
    cases P_VALUE <;> decide
  have first := leading_eq_div k a low (by omega)
  have second := leading_eq_div k b (by omega) high
  have positive : 1 ≤ leading a := by
    rw [first]
    exact Nat.div_pos low (Nat.pow_pos (by decide))
  have ordered : leading a ≤ leading b := by
    rw [first, second]
    exact Nat.div_le_div_right le
  have padded := table P_VALUE _ (leading_lt a) _ (leading_lt b) positive ordered
  rw [total_mb, total_mb, padding_of_leading, padding_of_leading]
  omega

/-- The two worst cases bound all usages up to the capacity. -/
theorem worstFits_iff (P_VALUE : Scheme) (n capacity : Nat) :
    WorstFits P_VALUE n capacity ↔ ∀ du_mb ≤ capacity, total_mb P_VALUE du_mb ≤ n := by
  constructor
  · intro worst du_mb fits
    by_cases empty : du_mb = 0
    · rw [empty]
      exact worst.nines 0 (Nat.zero_le _)
    · have low := Nat.pow_log_le_self 10 empty
      have high := Nat.lt_pow_succ_log_self (by decide : 1 < 10) du_mb
      by_cases same : capacity < 10 ^ (Nat.log 10 du_mb + 1)
      · exact Nat.le_trans (total_mono P_VALUE _ _ _ low fits same) worst.full
      · have last : du_mb ≤ 10 ^ (Nat.log 10 du_mb + 1) - 1 := by omega
        have below : 10 ^ (Nat.log 10 du_mb + 1) - 1 < 10 ^ (Nat.log 10 du_mb + 1) := by omega
        have grown := total_mono P_VALUE _ _ _ low last below
        exact Nat.le_trans grown (worst.nines _ (by omega))
  · intro all
    exact ⟨all capacity (Nat.le_refl _), fun digits => all (10 ^ digits - 1)⟩

theorem du_sm_mono (a b : Nat) (le : a ≤ b) : du_sm a ≤ du_sm b := by
  unfold du_sm
  omega

/-- Every number of MiB up to the capacity is the usage of something that fits. -/
theorem usage_of_le (bytes du_mb : Nat) (fits : du_mb ≤ du_sm bytes) :
    ∃ used, used ≤ bytes ∧ du_sm used = du_mb := by
  unfold du_sm at fits ⊢
  by_cases whole : du_mb * 2 ^ 20 ≤ bytes
  · exact ⟨du_mb * 2 ^ 20, whole, by omega⟩
  · exact ⟨bytes, Nat.le_refl _, by omega⟩

/-- Every usage that fits is at most as large as the worst of them. -/
theorem neverEnlarges_worst (parted : Parted) (board : Board) (P_VALUE : Scheme) (n : Nat) :
    NeverEnlarges parted board P_VALUE (megabytes n) ↔
      ∀ root, rootPartition parted board P_VALUE (megabytes n) = some root →
        WorstFits P_VALUE n (du_sm root.bytes) := by
  have grown (du_mb : Nat) : total_mb P_VALUE du_mb ≤ n ↔
      ∀ old new, truncate (megabytes n) = some old →
        truncate (calculate P_VALUE du_mb) = some new → new ≤ old := by
    rw [megabytes, truncate_megabytes, truncate_calculate]
    constructor
    · rintro le _ _ ⟨⟩ ⟨⟩
      exact Nat.mul_le_mul_right _ le
    · intro all
      have scaled : total_mb P_VALUE du_mb * 10 ^ 6 ≤ n * 10 ^ 6 := all _ _ rfl rfl
      exact Nat.le_of_mul_le_mul_right scaled (by decide)
  constructor
  · intro never root found
    rw [worstFits_iff]
    intro du_mb fits
    obtain ⟨used, inside, rfl⟩ := usage_of_le root.bytes du_mb fits
    exact (grown _).mpr (never root used found inside)
  · intro worst root used found inside
    apply (grown _).mp
    exact (worstFits_iff _ _ _).mp (worst root found) _ (du_sm_mono _ _ inside)

/-- What is left of the image for its root partition. -/
theorem rootPartition_bytes (parted : Parted) (board : Board) (P_VALUE : Scheme) (n : Nat)
    (root : Extent) (found : rootPartition parted board P_VALUE (megabytes n) = some root) :
    root.bytes + taken board P_VALUE + parted.tail board.GPT (n * 10 ^ 6) = n * 10 ^ 6 ∧
      (P_VALUE = .p2 → board.OFFSET.bytes < BSIZE board) := by
  have size : truncate (megabytes n) = some (n * 10 ^ 6) := truncate_megabytes n
  have ordered := root.ordered
  unfold rootPartition at found
  generalize n * 10 ^ 6 = bytes at size ⊢
  cases P_VALUE with
  | p1 =>
      rw [partition_p1 parted board _ bytes size, single_partition] at found
      simp only [Option.bind_eq_bind, Option.bind_eq_some_iff] at found
      obtain ⟨extents, ⟨extent, made, listed⟩, last⟩ := found
      cases listed
      have same : extent = root := by simpa using last
      subst same
      obtain ⟨start, stop⟩ := (mkpart_eq_some_iff _ _ _).mp made
      refine ⟨?_, fun other => absurd other (by decide)⟩
      rw [start, stop, Parted.full] at ordered
      rw [Extent.bytes, start, stop, Parted.full, taken]
      omega
  | p2 =>
      rw [partition_p2 parted board _ bytes size, dual_partition] at found
      simp only [Option.bind_eq_bind, Option.bind_eq_some_iff] at found
      obtain ⟨extents, ⟨boot, madeBoot, extent, made, listed⟩, last⟩ := found
      cases listed
      have same : extent = root := by simpa using last
      subst same
      obtain ⟨bootStart, bootStop⟩ := (mkpart_eq_some_iff _ _ _).mp madeBoot
      obtain ⟨start, stop⟩ := (mkpart_eq_some_iff _ _ _).mp made
      have bootOrdered := boot.ordered
      rw [bootStart, bootStop] at bootOrdered
      refine ⟨?_, fun _ => bootOrdered⟩
      rw [start, stop, Parted.full] at ordered
      rw [Extent.bytes, start, stop, Parted.full, taken]
      omega

/-- The padding the first digit 9 stands for, the largest. -/
def lastPadding : Scheme → Nat
  | .p1 => 1300
  | .p2 => 1800

/-- From where on an image of the repository's layouts has room for its own shrinking. -/
structure LargeEnough (parted : Parted) (board : Board) (P_VALUE : Scheme) (n : Nat) : Prop where
  nines : 9999 + lastPadding P_VALUE ≤ n
  full : firstPadding P_VALUE * 2 ^ 20 ≤
    n * 48576 + taken board P_VALUE + parted.tail board.GPT (n * 10 ^ 6)

theorem le_lastPadding (P_VALUE : Scheme) (du_mb : Nat) :
    padding_mb P_VALUE (first_digit du_mb) ≤ lastPadding P_VALUE := by
  have table : ∀ P_VALUE : Scheme, ∀ d < 10,
      padding_mb P_VALUE (some d.digitChar) ≤ lastPadding P_VALUE := by
    intro P_VALUE
    cases P_VALUE <;> decide
  rw [padding_of_leading]
  exact table P_VALUE _ (leading_lt du_mb)

theorem total_9999 (P_VALUE : Scheme) : total_mb P_VALUE 9999 = 9999 + lastPadding P_VALUE := by
  cases P_VALUE <;> rfl

/-- A root partition at the offsets and sizes of lib/boards. -/
theorem worstFits_of_layout (parted : Parted) (board : Board) (P_VALUE : Scheme) (n bytes : Nat)
    (least : takenLeast P_VALUE ≤ taken board P_VALUE)
    (limit : taken board P_VALUE ≤ takenLimit P_VALUE)
    (layout : bytes + taken board P_VALUE + parted.tail board.GPT (n * 10 ^ 6) = n * 10 ^ 6) :
    WorstFits P_VALUE n (du_sm bytes) ↔ LargeEnough parted board P_VALUE n := by
  have short := parted.short board.GPT (n * 10 ^ 6)
  have ceil : bytes ≤ du_sm bytes * 2 ^ 20 ∧ du_sm bytes * 2 ^ 20 < bytes + 2 ^ 20 := by
    unfold du_sm
    omega
  rw [worstFits_iff]
  constructor
  · intro all
    have whole := all _ (Nat.le_refl _)
    have many : ¬ du_sm bytes ≤ 9999 := by
      intro few
      have room := room_of_small P_VALUE (du_sm bytes) _ _ few limit short
      change _ < total_mb P_VALUE (du_sm bytes) * 10 ^ 6 at room
      omega
    have nines := all 9999 (by omega)
    rw [total_9999] at nines
    refine ⟨nines, ?_⟩
    have first := (padding_table P_VALUE _ (leading_lt (du_sm bytes))).1
    rw [total_mb, padding_of_leading] at whole
    omega
  · intro large du_mb fits
    have nines := large.nines
    have full := large.full
    by_cases small : du_mb ≤ 9999
    · have most := le_lastPadding P_VALUE du_mb
      unfold total_mb
      omega
    · by_cases middle : du_mb < 20000
      · rw [total_mb, padding_five_digits P_VALUE du_mb (by omega) middle]
        omega
      · have less := no_room_of_large P_VALUE du_mb _ (by omega) least
        change total_mb P_VALUE du_mb * 10 ^ 6 + 2 ^ 20 < _ at less
        omega

/-- An offset of gigabytes in front leaves enough for any padding. -/
theorem worstFits_of_far (parted : Parted) (board : Board) (n bytes : Nat)
    (far : 4096 * 10 ^ 6 ≤ board.OFFSET.bytes)
    (layout : bytes + taken board .p1 + parted.tail board.GPT (n * 10 ^ 6) = n * 10 ^ 6) :
    WorstFits .p1 n (du_sm bytes) := by
  have ceil : du_sm bytes * 2 ^ 20 < bytes + 2 ^ 20 := by
    unfold du_sm
    omega
  rw [worstFits_iff]
  intro du_mb fits
  have most : padding_mb .p1 (first_digit du_mb) ≤ 1300 := le_lastPadding .p1 du_mb
  have start : taken board .p1 = board.OFFSET.bytes := rfl
  rw [start] at layout
  rw [total_mb]
  omega

theorem worstFits_of_board (parted : Parted) (board : Board) (P_VALUE : Scheme) (n : Nat)
    (used : board.OFFSET ∈ boardOffsets) (root : Extent)
    (found : rootPartition parted board P_VALUE (megabytes n) = some root) :
    WorstFits P_VALUE n (du_sm root.bytes) ↔
      hasUnit board.OFFSET = false ∨ LargeEnough parted board P_VALUE n := by
  obtain ⟨layout, ordered⟩ := rootPartition_bytes parted board P_VALUE n root found
  by_cases unit : hasUnit board.OFFSET = true
  · have early := offset_with_unit board used unit
    have iff : WorstFits P_VALUE n (du_sm root.bytes) ↔ LargeEnough parted board P_VALUE n := by
      cases P_VALUE with
      | p1 => exact worstFits_of_layout parted board .p1 n _ (Nat.zero_le _) early layout
      | p2 =>
          exact worstFits_of_layout parted board .p2 n _ (le_BSIZE board) (BSIZE_le board) layout
    rw [iff, unit]
    simp only [reduceCtorEq, false_or]
  · have far := offset_bare board used unit
    refine iff_of_true ?_ (Or.inl (Bool.eq_false_iff.mpr unit))
    cases P_VALUE with
    | p1 => exact worstFits_of_far parted board n _ far layout
    | p2 =>
        have most : BSIZE board ≤ 512 * 2 ^ 20 := BSIZE_le board
        have boot := ordered rfl
        omega

/-- Shrinking never enlarges the image exactly when the two worst usages fit; with
the offsets of the repository, when there is nothing to shrink, when the offset
takes gigabytes, or from a certain size of the original on. -/
theorem neverEnlarges_iff (parted : Parted) (board : Board) (P_VALUE : Scheme) (n : Nat) :
    (NeverEnlarges parted board P_VALUE (megabytes n) ↔
      ∀ root, rootPartition parted board P_VALUE (megabytes n) = some root →
        WorstFits P_VALUE n (du_sm root.bytes)) ∧
    (board.OFFSET ∈ boardOffsets →
      (NeverEnlarges parted board P_VALUE (megabytes n) ↔
        rootPartition parted board P_VALUE (megabytes n) = none ∨
        hasUnit board.OFFSET = false ∨ LargeEnough parted board P_VALUE n)) := by
  refine ⟨neverEnlarges_worst parted board P_VALUE n, ?_⟩
  intro used
  rw [neverEnlarges_worst]
  cases found : rootPartition parted board P_VALUE (megabytes n) with
  | none => simp
  | some root =>
      have layout := worstFits_of_board parted board P_VALUE n used root found
      simpa using layout

/-- On one partition 16000 MB are enough. -/
theorem sixteen_gigabytes : NeverEnlarges wholeImage lepotato .p1 (megabytes 16000) :=
  ((neverEnlarges_iff wholeImage lepotato .p1 16000).2 (by decide)).mpr
    (Or.inr (Or.inr ⟨by decide, by decide⟩))

/-- 3500 MiB fit into the image of 4096 MB and get one of 4200 MB. -/
theorem four_gigabytes_enlarged : ¬ NeverEnlarges wholeImage lepotato .p1 (megabytes 4096) := by
  intro never
  have found : rootPartition wholeImage lepotato .p1 (megabytes 4096) =
      some ⟨4 * 2 ^ 20, 4096 * 10 ^ 6, by decide⟩ := by
    have size : truncate (megabytes 4096) = some (4096 * 10 ^ 6) := truncate_megabytes 4096
    rw [rootPartition, partition_p1 wholeImage lepotato _ _ size, single_partition]
    have made := mkpart_of_lt (4 * 2 ^ 20) (4096 * 10 ^ 6) (by decide)
    exact congrArg (fun root => (root.bind fun root => some [root]).bind List.getLast?) made
  have enlarged := never _ (3500 * 2 ^ 20) found (by decide) _ _
    (truncate_megabytes 4096) (truncate_calculate .p1 (du_sm (3500 * 2 ^ 20)))
  exact absurd enlarged (by decide)

end ImageBuilder.Shrink
