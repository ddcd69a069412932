import ImageBuilder.Partitioning

set_option autoImplicit false

/- Shrinking a finished image: the size computed from the usage of the root
file system, and the partitions laid out in an image of that size. -/
namespace ImageBuilder.Shrink

open PlainText Numerals

/-- `head -c 1` of the usage. -/
def first_digit (du_mb : Nat) : Option Char := (decimal du_mb).head?

def padding_mb : Scheme → Option Char → Nat
  | .p1, some '1' => 500
  | .p1, some '2' => 600
  | .p1, some '3' => 700
  | .p1, some '4' => 800
  | .p1, some '5' => 900
  | .p1, some '6' => 1000
  | .p1, some '7' => 1100
  | .p1, some '8' => 1200
  | .p1, some '9' => 1300
  | .p1, _ => 600
  | .p2, some '1' => 900
  | .p2, some '2' => 1000
  | .p2, some '3' => 1200
  | .p2, some '4' => 1300
  | .p2, some '5' => 1400
  | .p2, some '6' => 1500
  | .p2, some '7' => 1600
  | .p2, some '8' => 1700
  | .p2, some '9' => 1800
  | .p2, _ => 1000

/-- IMGSIZE for a root file system of `du_mb` MiB. -/
def calculate (P_VALUE : Scheme) (du_mb : Nat) : Text :=
  let total_mb := du_mb + padding_mb P_VALUE (first_digit du_mb)
  decimal total_mb ++ ("MB" : Text)

/-- `truncate -s <n>MB`: n·10^6 bytes. -/
def truncate (size : Text) : Option Nat :=
  if ("MB" : Text).isSuffixOf size then
    some (Nat.ofDigitChars 10 size.dropLast.dropLast 0 * 10 ^ 6)
  else none

/-- How many bytes parted leaves free behind a partition that ends at `100%`:
the alignment to whole MiB and the backup table. -/
structure Parted where
  tail : (GPT : Bool) → (bytes : Nat) → Nat
  short : ∀ GPT bytes, tail GPT bytes ≤ 2 * 2 ^ 20

/-- The bytes of a partition. -/
structure Extent where
  start : Nat
  stop : Nat
  ordered : start < stop

def Extent.bytes (extent : Extent) : Nat := extent.stop - extent.start

/-- parted refuses a partition whose end is not behind its start. -/
def mkpart (start stop : Nat) : Option Extent :=
  if ordered : start < stop then some ⟨start, stop, ordered⟩ else none

/-- Where a partition that ends at `100%` ends. -/
def Parted.full (parted : Parted) (GPT : Bool) (bytes : Nat) : Nat := bytes - parted.tail GPT bytes

/-- The partitions of the image; the root partition is the last. -/
def single_partition (parted : Parted) (GPT : Bool) (PART_OFFSET bytes : Nat) :
    Option (List Extent) := do
  let root ← mkpart PART_OFFSET (parted.full GPT bytes)
  return [root]

def dual_partition (parted : Parted) (GPT : Bool) (PART_OFFSET bootEnd bytes : Nat) :
    Option (List Extent) := do
  let boot ← mkpart PART_OFFSET bootEnd
  let root ← mkpart bootEnd (parted.full GPT bytes)
  return [boot, root]

/-- BSIZE in bytes. There is no EFI on a Raspberry Pi. -/
def BSIZE (board : Board) : Nat :=
  let EFI := if board.FAMILY = .broadcom then false else board.EFI
  if EFI then 256 * 2 ^ 20 else 512 * 2 ^ 20

def partition (parted : Parted) (board : Board) (P_VALUE : Scheme) (IMGSIZE : Text) :
    Option (List Extent) := do
  let bytes ← truncate IMGSIZE
  match P_VALUE with
  | .p1 => single_partition parted board.GPT board.OFFSET.bytes bytes
  | .p2 => dual_partition parted board.GPT board.OFFSET.bytes (BSIZE board) bytes

/-- The root partition of the shrunk image holds what `cp -ax` copies into it. -/
def HasRoom (parted : Parted) (board : Board) (P_VALUE : Scheme) (du_mb : Nat) : Prop :=
  ∃ extents root, partition parted board P_VALUE (calculate P_VALUE du_mb) = some extents ∧
    extents.getLast? = some root ∧ du_mb * 2 ^ 20 ≤ root.bytes

/-- What is taken off the front of the image before the root partition. -/
def taken (board : Board) : Scheme → Nat
  | .p1 => board.OFFSET.bytes
  | .p2 => BSIZE board

/-- The padding the first digit 1 stands for. -/
def firstPadding : Scheme → Nat
  | .p1 => 500
  | .p2 => 900

/-- The offset is spelled with its unit. -/
def hasUnit : Offset → Bool
  | .MiB _ => true
  | .bare _ => false

/-- The size of the image, in bytes. -/
def imageBytes (P_VALUE : Scheme) (du_mb : Nat) : Nat :=
  (du_mb + padding_mb P_VALUE (first_digit du_mb)) * 10 ^ 6

theorem truncate_megabytes (n : Nat) :
    truncate (decimal n ++ ("MB" : Text)) = some (n * 10 ^ 6) := by
  have suffix : ("MB" : Text).isSuffixOf (decimal n ++ ("MB" : Text)) = true :=
    List.isSuffixOf_iff_suffix.mpr (List.suffix_append _ _)
  have stripped : (decimal n ++ ("MB" : Text)).dropLast.dropLast = decimal n := by
    rw [show ("MB" : Text) = ['M'] ++ ['B'] from rfl, ← List.append_assoc, List.dropLast_concat,
      List.dropLast_concat]
  rw [truncate, if_pos suffix, stripped, decimal, Nat.ofDigitChars_ten_toDigits]

theorem truncate_calculate (P_VALUE : Scheme) (du_mb : Nat) :
    truncate (calculate P_VALUE du_mb) = some (imageBytes P_VALUE du_mb) :=
  truncate_megabytes _

theorem mkpart_eq_some_iff (start stop : Nat) (extent : Extent) :
    mkpart start stop = some extent ↔ extent.start = start ∧ extent.stop = stop := by
  unfold mkpart
  split
  · obtain ⟨_, _, _⟩ := extent
    simp only [Option.some.injEq, Extent.mk.injEq, eq_comm]
  · rename_i disordered
    obtain ⟨_, _, ordered⟩ := extent
    simp only [reduceCtorEq, false_iff]
    omega

theorem mkpart_of_lt (start stop : Nat) (ordered : start < stop) :
    mkpart start stop = some ⟨start, stop, ordered⟩ := by
  rw [mkpart_eq_some_iff]
  exact ⟨rfl, rfl⟩

/-- The root partition of an image of `bytes` bytes starts at `start`. -/
def RoomFrom (parted : Parted) (board : Board) (start bytes needed : Nat) : Prop :=
  start < parted.full board.GPT bytes ∧ needed ≤ parted.full board.GPT bytes - start

/-- The layouts for a size that `truncate` takes, with the size kept abstract. -/
theorem partition_p1 (parted : Parted) (board : Board) (IMGSIZE : Text) (bytes : Nat)
    (size : truncate IMGSIZE = some bytes) : partition parted board .p1 IMGSIZE =
      single_partition parted board.GPT board.OFFSET.bytes bytes := by
  rw [partition, size]
  rfl

theorem partition_p2 (parted : Parted) (board : Board) (IMGSIZE : Text) (bytes : Nat)
    (size : truncate IMGSIZE = some bytes) : partition parted board .p2 IMGSIZE =
      dual_partition parted board.GPT board.OFFSET.bytes (BSIZE board) bytes := by
  rw [partition, size]
  rfl

theorem hasRoom_p1 (parted : Parted) (board : Board) (du_mb : Nat) :
    HasRoom parted board .p1 du_mb ↔
      RoomFrom parted board board.OFFSET.bytes (imageBytes .p1 du_mb) (du_mb * 2 ^ 20) := by
  unfold HasRoom RoomFrom
  rw [partition_p1 parted board _ _ (truncate_calculate .p1 du_mb)]
  generalize imageBytes .p1 du_mb = bytes
  generalize du_mb * 2 ^ 20 = needed
  simp only [Option.bind_eq_bind, single_partition, Option.bind_eq_some_iff]
  constructor
  · rintro ⟨extents, root, ⟨extent, made, listed⟩, last, enough⟩
    obtain ⟨start, stop⟩ := (mkpart_eq_some_iff _ _ _).mp made
    cases listed
    have same : extent = root := by simpa using last
    subst same
    have ordered := extent.ordered
    rw [start, stop] at ordered
    rw [Extent.bytes, start, stop] at enough
    exact ⟨ordered, enough⟩
  · rintro ⟨ordered, enough⟩
    exact ⟨_, _, ⟨_, mkpart_of_lt _ _ ordered, rfl⟩, rfl, enough⟩

theorem hasRoom_p2 (parted : Parted) (board : Board) (du_mb : Nat) :
    HasRoom parted board .p2 du_mb ↔ board.OFFSET.bytes < BSIZE board ∧
      RoomFrom parted board (BSIZE board) (imageBytes .p2 du_mb) (du_mb * 2 ^ 20) := by
  unfold HasRoom RoomFrom
  rw [partition_p2 parted board _ _ (truncate_calculate .p2 du_mb)]
  generalize imageBytes .p2 du_mb = bytes
  generalize du_mb * 2 ^ 20 = needed
  simp only [Option.bind_eq_bind, dual_partition, Option.bind_eq_some_iff]
  constructor
  · rintro ⟨extents, root, ⟨boot, madeBoot, extent, made, listed⟩, last, enough⟩
    obtain ⟨bootStart, bootStop⟩ := (mkpart_eq_some_iff _ _ _).mp madeBoot
    obtain ⟨start, stop⟩ := (mkpart_eq_some_iff _ _ _).mp made
    cases listed
    have same : extent = root := by simpa using last
    subst same
    have bootOrdered := boot.ordered
    rw [bootStart, bootStop] at bootOrdered
    have ordered := extent.ordered
    rw [start, stop] at ordered
    rw [Extent.bytes, start, stop] at enough
    exact ⟨bootOrdered, ordered, enough⟩
  · rintro ⟨bootOrdered, ordered, enough⟩
    exact ⟨_, _, ⟨_, mkpart_of_lt _ _ bootOrdered, _, mkpart_of_lt _ _ ordered, rfl⟩, rfl, enough⟩

theorem padding_of_leading (P_VALUE : Scheme) (du_mb : Nat) :
    padding_mb P_VALUE (first_digit du_mb) =
      padding_mb P_VALUE (some (leading du_mb).digitChar) := by
  rw [first_digit, head_decimal]

/-- What each digit stands for, next to the digit 1. -/
theorem padding_table (P_VALUE : Scheme) (digit : Nat) (single : digit < 10) :
    firstPadding P_VALUE ≤ padding_mb P_VALUE (some digit.digitChar) ∧
    padding_mb P_VALUE (some digit.digitChar) ≤ firstPadding P_VALUE + 900 ∧
    (7 ≤ digit → firstPadding P_VALUE + 600 ≤ padding_mb P_VALUE (some digit.digitChar)) ∧
    (digit = 1 → padding_mb P_VALUE (some digit.digitChar) = firstPadding P_VALUE) ∧
    (digit = 2 ∨ digit = 3 →
      padding_mb P_VALUE (some digit.digitChar) ≤ firstPadding P_VALUE + 300) := by
  cases P_VALUE <;> revert digit <;> decide

/-- The most that comes before the root partition, for an offset with a unit. -/
def takenLimit : Scheme → Nat
  | .p1 => 16 * 2 ^ 20
  | .p2 => 512 * 2 ^ 20

/-- The least that comes before it. -/
def takenLeast : Scheme → Nat
  | .p1 => 0
  | .p2 => 256 * 2 ^ 20

/-- Below ten thousand MiB the padding always suffices. -/
theorem room_of_small (P_VALUE : Scheme) (du_mb start tail : Nat) (small : du_mb ≤ 9999)
    (early : start ≤ takenLimit P_VALUE) (short : tail ≤ 2 * 2 ^ 20) :
    start + du_mb * 2 ^ 20 + tail < imageBytes P_VALUE du_mb := by
  obtain ⟨least, -, seven, -, -⟩ := padding_table P_VALUE _ (leading_lt du_mb)
  rw [imageBytes, padding_of_leading]
  by_cases thousands : du_mb < 7000
  · cases P_VALUE <;> simp only [firstPadding, takenLimit] at least early <;> omega
  · have first := leading_eq_div 3 du_mb (by omega) (by omega)
    have more := seven (by omega)
    cases P_VALUE <;> simp only [firstPadding, takenLimit] at more early <;> omega

/-- From ten thousand on the first digit is 1 again and decides nothing more. -/
theorem padding_five_digits (P_VALUE : Scheme) (du_mb : Nat) (low : 10000 ≤ du_mb)
    (high : du_mb < 20000) : padding_mb P_VALUE (first_digit du_mb) = firstPadding P_VALUE := by
  have first := leading_eq_div 4 du_mb (by omega) (by omega)
  obtain ⟨-, -, -, one, -⟩ := padding_table P_VALUE _ (leading_lt du_mb)
  rw [padding_of_leading]
  exact one (by omega)

/-- From twenty thousand on the two units are further apart than any padding, by
more than a MiB. -/
theorem no_room_of_large (P_VALUE : Scheme) (du_mb start : Nat) (large : 20000 ≤ du_mb)
    (late : takenLeast P_VALUE ≤ start) :
    imageBytes P_VALUE du_mb + 2 ^ 20 < start + du_mb * 2 ^ 20 := by
  obtain ⟨-, most, -, -, three⟩ := padding_table P_VALUE _ (leading_lt du_mb)
  rw [imageBytes, padding_of_leading]
  by_cases huge : 40000 ≤ du_mb
  · cases P_VALUE <;> simp only [firstPadding, takenLeast] at most late <;> omega
  · have first := leading_eq_div 4 du_mb (by omega) (by omega)
    have less := three (by omega)
    cases P_VALUE <;> simp only [firstPadding, takenLeast] at less late <;> omega

theorem roomFrom_iff (parted : Parted) (board : Board) (P_VALUE : Scheme) (du_mb start : Nat)
    (late : takenLeast P_VALUE ≤ start) (early : start ≤ takenLimit P_VALUE) :
    RoomFrom parted board start (imageBytes P_VALUE du_mb) (du_mb * 2 ^ 20) ↔
      du_mb ≤ 9999 ∨ du_mb * 48576 + start +
        parted.tail board.GPT ((du_mb + firstPadding P_VALUE) * 10 ^ 6) ≤
          firstPadding P_VALUE * 10 ^ 6 := by
  have short := parted.short board.GPT (imageBytes P_VALUE du_mb)
  unfold RoomFrom Parted.full
  by_cases small : du_mb ≤ 9999
  · have room := room_of_small P_VALUE du_mb start _ small early short
    simp only [small, true_or, iff_true]
    omega
  · by_cases large : 20000 ≤ du_mb
    · have none := no_room_of_large P_VALUE du_mb start large late
      have apart : firstPadding P_VALUE * 10 ^ 6 < du_mb * 48576 := by
        cases P_VALUE <;> simp only [firstPadding] <;> omega
      omega
    · rw [imageBytes, padding_five_digits P_VALUE du_mb (by omega) (by omega)]
      omega

theorem BSIZE_le (board : Board) : BSIZE board ≤ takenLimit .p2 := by
  unfold BSIZE takenLimit
  dsimp only
  split <;> split <;> omega

theorem le_BSIZE (board : Board) : takenLeast .p2 ≤ BSIZE board := by
  unfold BSIZE takenLeast
  dsimp only
  split <;> split <;> omega

theorem offset_with_unit (board : Board) (used : board.OFFSET ∈ boardOffsets)
    (unit : hasUnit board.OFFSET = true) : board.OFFSET.bytes ≤ 16 * 2 ^ 20 := by
  simp only [boardOffsets, List.mem_cons, List.not_mem_nil, or_false] at used
  rcases used with same | same | same | same | same <;> rw [same] at unit ⊢ <;>
    first | decide | cases unit

theorem offset_bare (board : Board) (used : board.OFFSET ∈ boardOffsets)
    (bare : ¬ hasUnit board.OFFSET = true) : 4096 * 10 ^ 6 ≤ board.OFFSET.bytes := by
  simp only [boardOffsets, List.mem_cons, List.not_mem_nil, or_false] at used
  rcases used with same | same | same | same | same <;> rw [same] at bare ⊢ <;>
    first | decide | exact absurd rfl bare

/-- A megabyte offset of gigabytes takes more than any padding. -/
theorem no_room_of_bare (parted : Parted) (board : Board) (du_mb : Nat)
    (far : 4096 * 10 ^ 6 ≤ board.OFFSET.bytes) :
    ¬ RoomFrom parted board board.OFFSET.bytes (imageBytes .p1 du_mb) (du_mb * 2 ^ 20) := by
  obtain ⟨-, most, -, -, -⟩ := padding_table .p1 _ (leading_lt du_mb)
  rintro ⟨ordered, enough⟩
  unfold Parted.full at ordered enough
  have size : imageBytes .p1 du_mb ≤ (du_mb + 1400) * 10 ^ 6 := by
    rw [imageBytes, padding_of_leading]
    exact Nat.mul_le_mul_right _ (Nat.add_le_add_left most du_mb)
  omega

/-- The shrunk image has room for the system up to 9999 MiB of it; beyond that
only while 48576 bytes for each MiB still fit into the padding of the digit 1. -/
theorem hasRoom_iff (parted : Parted) (board : Board) (P_VALUE : Scheme) (du_mb : Nat)
    (used : board.OFFSET ∈ boardOffsets) :
    HasRoom parted board P_VALUE du_mb ↔ hasUnit board.OFFSET = true ∧
      (du_mb ≤ 9999 ∨ du_mb * 48576 + taken board P_VALUE +
        parted.tail board.GPT ((du_mb + firstPadding P_VALUE) * 10 ^ 6) ≤
          firstPadding P_VALUE * 10 ^ 6) := by
  by_cases unit : hasUnit board.OFFSET = true
  · have early := offset_with_unit board used unit
    simp only [unit, true_and]
    cases P_VALUE with
    | p1 => rw [hasRoom_p1]; exact roomFrom_iff parted board .p1 du_mb _ (Nat.zero_le _) early
    | p2 =>
        have ordered : board.OFFSET.bytes < BSIZE board := by
          have least : 256 * 2 ^ 20 ≤ BSIZE board := le_BSIZE board
          omega
        rw [hasRoom_p2, and_iff_right ordered]
        exact roomFrom_iff parted board .p2 du_mb _ (le_BSIZE board) (BSIZE_le board)
  · have far := offset_bare board used unit
    refine iff_of_false ?_ (fun claimed => unit claimed.1)
    cases P_VALUE with
    | p1 => rw [hasRoom_p1]; exact no_room_of_bare parted board du_mb far
    | p2 =>
        have most : BSIZE board ≤ 512 * 2 ^ 20 := BSIZE_le board
        rw [hasRoom_p2]
        rintro ⟨ordered, -⟩
        omega

/-- A parted that leaves nothing free. -/
def wholeImage : Parted := ⟨fun _ _ => 0, fun _ _ => Nat.zero_le _⟩

theorem hasRoom_three_gigabytes : HasRoom wholeImage lepotato .p1 3000 :=
  (hasRoom_iff wholeImage lepotato .p1 3000 (by decide)).mpr ⟨rfl, Or.inl (by decide)⟩

/-- 20000 MiB get an image of 20600 MB. -/
theorem no_room_twenty_gigabytes : ¬ HasRoom wholeImage lepotato .p1 20000 := by
  rw [hasRoom_p1]
  rintro ⟨_, enough⟩
  have short := no_room_of_large .p1 20000 lepotato.OFFSET.bytes (by decide) (Nat.zero_le _)
  unfold Parted.full at enough
  omega

end ImageBuilder.Shrink
