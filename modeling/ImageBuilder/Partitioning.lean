import ImageBuilder.Numerals

set_option autoImplicit false

/- The part of write2mmc and transfer that wipes a device: partition variables,
the summary, and the partition functions. -/
namespace ImageBuilder

open PlainText Numerals

/-- An offset as board.txt writes it for parted: with the unit, or bare, which
parted reads as megabytes. -/
inductive Offset
  | MiB (n : Nat)
  | bare (n : Nat)
  deriving DecidableEq

def Offset.text : Offset → Text
  | .MiB n => decimal n ++ ("MiB" : Text)
  | .bare n => decimal n

def Offset.bytes : Offset → Nat
  | .MiB n => n * 2 ^ 20
  | .bare n => n * 10 ^ 6

/-- The values of `OFFSET` in lib/boards, the hidden files included. -/
def boardOffsets : List Offset := [.MiB 1, .MiB 4, .MiB 16, .bare 4096, .bare 8192]

/-- The families with a file of their own in lib/function. -/
inductive Family
  | allwinner
  | amlogic
  | broadcom
  | freescale
  | generic
  | rockchip
  | samsung
  | spacemit
  deriving DecidableEq

def Family.name : Family → Text
  | .allwinner => "allwinner"
  | .amlogic => "amlogic"
  | .broadcom => "broadcom"
  | .freescale => "freescale"
  | .generic => "generic"
  | .rockchip => "rockchip"
  | .samsung => "samsung"
  | .spacemit => "spacemit"

inductive Arch
  | arm
  | arm64
  | riscv
  | x86
  deriving DecidableEq

/-- What board.txt says about the board. The switches compare with `true`. -/
structure Board where
  BOARD : Text
  FAMILY : Family
  FAMILY_EXT : Text
  SERIES : Text
  ARCH : Arch
  EFI : Bool
  GPT : Bool
  PETITBOOT : Bool
  AML_EMMC : Bool
  UBOOT_RK_BIN : Bool
  OFFSET : Offset
  deriving DecidableEq

/-- lib/boards/lepotato -/
def lepotato : Board where
  BOARD := "lepotato"
  FAMILY := .amlogic
  FAMILY_EXT := "none"
  SERIES := "meson-gxl"
  ARCH := .arm64
  EFI := false
  GPT := false
  PETITBOOT := false
  AML_EMMC := false
  UBOOT_RK_BIN := false
  OFFSET := .MiB 4

/-- A script's early exit and the text it leaves on the screen. -/
structure Halt where
  status : Nat
  message : Text
  deriving DecidableEq

inductive Scheme
  | p1
  | p2
  deriving DecidableEq

namespace Device

/-- What the shell and `ls` make of the files at one time: the path names that a word
expands to, and the lines that are shown for some arguments. -/
structure Shell where
  glob : Text → List Text
  ls : List Text → List Text

/-- The arguments an unquoted variable becomes. -/
def Shell.arguments (shell : Shell) (text : Text) : List Text := (words text).flatMap shell.glob

/-- The commands that change a device. sfdisk and the `mkfs` lines get the node without
quotes; the words of a `mkfs` are those behind its label. -/
inductive DiskCommand
  | sfdiskDelete (words : List Text)
  | mklabel (node table : Text)
  | mkpart (node fstype start stop : Text)
  | set1 (node flag : Text)
  | mkfs (maker : Text) (words : List Text)
  deriving DecidableEq

/-- mkfs.btrfs takes any number of devices, and sfdisk and the others one: what follows
is a partition number or a size. -/
def DiskCommand.devices : DiskCommand → List Text
  | .sfdiskDelete words => words.head?.toList
  | .mklabel node _ | .mkpart node _ _ _ | .set1 node _ => [node]
  | .mkfs maker words => if maker = ("mkfs.btrfs -f -L" : Text) then words else words.head?.toList

/-- The `mkfs` lines come after the kernel has read the new partition table. -/
def DiskCommand.late : DiskCommand → Bool
  | .mkfs _ _ => true
  | _ => false

/-- What the user answers after the device node. -/
structure Choices where
  P_VALUE : Scheme
  B_FSTYPE : Text
  R_FSTYPE : Text
  confirmed : Bool
  deriving DecidableEq

/-- `p1` and `p2`, without the `p` when `ls $DEVICE_NODE` shows a SCSI disk. -/
def partitionSuffix (shown : List Text) (P : Text) : Text :=
  if shown.any (grepLine ("/dev/sd" : Text)) then replaceAll ['p'] [] P else P

/-- The file systems a root partition can have and the commands that make them. -/
def rootMakers : List (Text × Text) :=
  [("btrfs", "mkfs.btrfs -f -L"), ("ext4", "mkfs.ext4 -L"), ("f2fs", "mkfs.f2fs -f -l"),
    ("xfs", "mkfs.xfs -f -L")]

/-- The file systems write2mmc offers for a boot partition. -/
def bootMakers : List (Text × Text) :=
  [("vfat", "mkfs.fat -F 32 -n"), ("ext2", "mkfs.ext2 -L"), ("ext4", "mkfs.ext4 -L")]

/-- The maker of a file system, or the script's refusal of it. -/
def makerOf (makers : List (Text × Text)) (status : Nat) (fstype : Text) : Except Halt Text :=
  match makers.lookup fstype with
  | some maker => .ok maker
  | none => .error ⟨status, ("Filesystem " : Text) ++ fstype ++
      (" is not supported or invalid." : Text)⟩

/-- The summary's Continue and Quit. -/
def summary (confirmed : Bool) : Except Halt Unit :=
  if confirmed then .ok () else .error ⟨0, ("Program Terminated." : Text)⟩

/-- The families that write2mmc supports. -/
def write2mmcFamilies : List Family :=
  [.allwinner, .amlogic, .freescale, .generic, .rockchip, .samsung, .spacemit]

/-- write2mmc's tests of the board. -/
def write2mmcSupports (board : Board) : Except Halt Unit :=
  if board.FAMILY ∉ write2mmcFamilies then
    .error ⟨0, ("    The " : Text) ++ board.FAMILY.name.map Char.toUpper ++
      (" platform is currently not supported." : Text)⟩
  else if board.PETITBOOT then
    .error ⟨0, ("    Only boards using BOOTCMD and EXTLINUX are currently supported at this time."
      : Text)⟩
  else .ok ()

/-- write2mmc's `GPT`, which is not board.txt's. -/
def write2mmcGPT (board : Board) : Bool :=
  [Family.generic, Family.rockchip].contains board.FAMILY || board.BOARD == ("picoitx" : Text)

def tableName (GPT : Bool) : Text := if GPT then "gpt" else "msdos"

section Commands

/- The shell before the first command, and once the new partition table is read. -/
variable (now later : Shell)

/-- `[[ `ls "$path"` ]]` -/
def Shell.shows (shell : Shell) (path : Text) : Bool := !(shell.ls [path]).isEmpty

def one_partition (GPT : Bool) (PART_OFFSET DEVICE_NODE P_ROOTFS makeRootfs : Text) :
    List DiskCommand :=
  [.sfdiskDelete (now.arguments DEVICE_NODE), .mklabel DEVICE_NODE (tableName GPT),
    .mkpart DEVICE_NODE ("ext2" : Text) PART_OFFSET ("100%" : Text)] ++
  if later.shows (DEVICE_NODE ++ P_ROOTFS) then
    [.mkfs makeRootfs (later.arguments (DEVICE_NODE ++ P_ROOTFS))]
  else []

def two_partitions (GPT EFI : Bool) (B_FSTYPE PART_OFFSET BSIZE DEVICE_NODE : Text)
    (P_BOOT P_ROOTFS makeBootfs makeRootfs : Text) : List DiskCommand :=
  let vfat := B_FSTYPE = ("vfat" : Text)
  [.sfdiskDelete (now.arguments DEVICE_NODE), .mklabel DEVICE_NODE (tableName GPT),
    .mkpart DEVICE_NODE (if vfat then "fat32" else "ext2") PART_OFFSET BSIZE,
    .mkpart DEVICE_NODE ("ext2" : Text) BSIZE ("100%" : Text)] ++
  (if vfat ∧ GPT = false then [.set1 DEVICE_NODE ("boot" : Text)] else []) ++
  (if vfat ∧ EFI = true then [.set1 DEVICE_NODE ("esp" : Text)] else []) ++
  if later.shows (DEVICE_NODE ++ P_ROOTFS) then
    [.mkfs makeBootfs (later.arguments (DEVICE_NODE ++ P_BOOT)),
      .mkfs makeRootfs (later.arguments (DEVICE_NODE ++ P_ROOTFS))]
  else []

/-- write2mmc after the guard, up to and with partitioning. -/
def write2mmcPartition (board : Board) (choices : Choices) (DEVICE_NODE : Text) :
    Except Halt (List DiskCommand) := do
  let P_VALUE := if board.EFI then .p2 else choices.P_VALUE
  let GPT := write2mmcGPT board
  let shown := now.ls (now.arguments DEVICE_NODE)
  match P_VALUE with
  | .p1 =>
      let makeRootfs ← makerOf rootMakers 0 ("ext4" : Text)
      summary choices.confirmed
      return one_partition now later GPT board.OFFSET.text DEVICE_NODE
        (partitionSuffix shown ("p1" : Text)) makeRootfs
  | .p2 =>
      let B_FSTYPE : Text := if board.EFI then "vfat" else choices.B_FSTYPE
      let makeBootfs ← makerOf bootMakers 0 B_FSTYPE
      let makeRootfs ← makerOf rootMakers 0 choices.R_FSTYPE
      summary choices.confirmed
      return two_partitions now later GPT board.EFI B_FSTYPE board.OFFSET.text
        (if board.EFI then "256MiB" else "512MiB") DEVICE_NODE
        (partitionSuffix shown ("p1" : Text)) (partitionSuffix shown ("p2" : Text))
        makeBootfs makeRootfs

/-- transfer after the guard, up to and with partitioning: always two
partitions, a vfat one first. -/
def transferPartition (choices : Choices) (DEVICE_NODE : Text) :
    Except Halt (List DiskCommand) := do
  let shown := now.ls (now.arguments DEVICE_NODE)
  let makeRootfs ← makerOf rootMakers 1 choices.R_FSTYPE
  summary choices.confirmed
  return two_partitions now later false false ("vfat" : Text) ("4MiB" : Text) ("512MiB" : Text)
    DEVICE_NODE (partitionSuffix shown ("p1" : Text)) (partitionSuffix shown ("p2" : Text))
    ("mkfs.fat -F 32 -n" : Text) makeRootfs

/-- Answers for one partition, and for two of which mkfs.btrfs makes the second. -/
def oneChoices : Choices := ⟨.p1, ("vfat" : Text), ("ext4" : Text), true⟩

def twoChoices : Choices := ⟨.p2, ("vfat" : Text), ("btrfs" : Text), true⟩

theorem write2mmcPartition_one (board : Board) (efi : board.EFI = false) (DEVICE_NODE : Text) :
    write2mmcPartition now later board oneChoices DEVICE_NODE =
      .ok (one_partition now later (write2mmcGPT board) board.OFFSET.text DEVICE_NODE
        (partitionSuffix (now.ls (now.arguments DEVICE_NODE)) ("p1" : Text))
        ("mkfs.ext4 -L" : Text)) := by
  simp only [write2mmcPartition, efi, Bool.false_eq_true, ↓reduceIte]
  rfl

/-- What every board and either script can come to. -/
def PartitionsTwo (DEVICE_NODE : Text) (run : Except Halt (List DiskCommand)) : Prop :=
  ∃ GPT EFI PART_OFFSET BSIZE, run = .ok (two_partitions now later GPT EFI ("vfat" : Text)
    PART_OFFSET BSIZE DEVICE_NODE
    (partitionSuffix (now.ls (now.arguments DEVICE_NODE)) ("p1" : Text))
    (partitionSuffix (now.ls (now.arguments DEVICE_NODE)) ("p2" : Text))
    ("mkfs.fat -F 32 -n" : Text) ("mkfs.btrfs -f -L" : Text))

theorem write2mmcPartition_two (board : Board) (DEVICE_NODE : Text) :
    PartitionsTwo now later DEVICE_NODE
      (write2mmcPartition now later board twoChoices DEVICE_NODE) := by
  cases efi : board.EFI <;>
    simp only [write2mmcPartition, efi, Bool.false_eq_true, ↓reduceIte, twoChoices] <;>
    exact ⟨_, _, _, _, rfl⟩

theorem transferPartition_two (DEVICE_NODE : Text) :
    PartitionsTwo now later DEVICE_NODE (transferPartition now later twoChoices DEVICE_NODE) :=
  ⟨false, false, ("4MiB" : Text), ("512MiB" : Text), rfl⟩

theorem ok_of_bind {α β : Type} {first : Except Halt α} {next : α → Except Halt β} {result : β}
    (done : (first >>= next) = .ok result) :
    ∃ value, first = .ok value ∧ next value = .ok result := by
  cases first with
  | error halt => cases done
  | ok value => exact ⟨value, rfl, done⟩

/-- Only a root partition is made by mkfs.btrfs. -/
theorem bootMaker_ne_btrfs {status : Nat} {fstype maker : Text}
    (made : makerOf bootMakers status fstype = .ok maker) :
    maker ≠ ("mkfs.btrfs -f -L" : Text) := by
  unfold makerOf at made
  split at made
  · rename_i found there
    cases made
    obtain ⟨before, behind, list, -⟩ := List.lookup_eq_some_iff.mp there
    have member : (fstype, maker) ∈ bootMakers := by
      rw [list]
      exact List.mem_append_right before List.mem_cons_self
    have others : ∀ entry ∈ bootMakers, entry.2 ≠ ("mkfs.btrfs -f -L" : Text) := by decide
    exact others _ member
  · cases made

/-- write2mmc makes one partition, unless the board has one for EFI, or two. -/
theorem write2mmcPartition_cases (board : Board) (choices : Choices) (DEVICE_NODE : Text)
    (commands : List DiskCommand)
    (run : write2mmcPartition now later board choices DEVICE_NODE = .ok commands) :
    (board.EFI = false ∧ ∃ GPT PART_OFFSET, commands = one_partition now later GPT PART_OFFSET
      DEVICE_NODE (partitionSuffix (now.ls (now.arguments DEVICE_NODE)) ("p1" : Text))
      ("mkfs.ext4 -L" : Text)) ∨
    ∃ GPT EFI B_FSTYPE PART_OFFSET BSIZE makeBootfs makeRootfs,
      makeBootfs ≠ ("mkfs.btrfs -f -L" : Text) ∧
      commands = two_partitions now later GPT EFI B_FSTYPE PART_OFFSET BSIZE DEVICE_NODE
        (partitionSuffix (now.ls (now.arguments DEVICE_NODE)) ("p1" : Text))
        (partitionSuffix (now.ls (now.arguments DEVICE_NODE)) ("p2" : Text))
        makeBootfs makeRootfs := by
  unfold write2mmcPartition at run
  dsimp only at run
  split at run
  · rename_i single
    left
    have efi : board.EFI = false := by
      cases efi : board.EFI with
      | false => rfl
      | true =>
          rw [efi] at single
          cases single
    obtain ⟨makeRootfs, made, run⟩ := ok_of_bind run
    obtain ⟨_, -, run⟩ := ok_of_bind run
    cases made
    cases run
    exact ⟨efi, _, _, rfl⟩
  · right
    obtain ⟨makeBootfs, boot, run⟩ := ok_of_bind run
    obtain ⟨makeRootfs, -, run⟩ := ok_of_bind run
    obtain ⟨_, -, run⟩ := ok_of_bind run
    cases run
    exact ⟨_, _, _, _, _, _, _, bootMaker_ne_btrfs boot, rfl⟩

theorem transferPartition_cases (choices : Choices) (DEVICE_NODE : Text)
    (commands : List DiskCommand)
    (run : transferPartition now later choices DEVICE_NODE = .ok commands) :
    ∃ makeRootfs, commands = two_partitions now later false false ("vfat" : Text)
      ("4MiB" : Text) ("512MiB" : Text) DEVICE_NODE
      (partitionSuffix (now.ls (now.arguments DEVICE_NODE)) ("p1" : Text))
      (partitionSuffix (now.ls (now.arguments DEVICE_NODE)) ("p2" : Text))
      ("mkfs.fat -F 32 -n" : Text) makeRootfs := by
  obtain ⟨makeRootfs, -, run⟩ := ok_of_bind run
  obtain ⟨_, -, run⟩ := ok_of_bind run
  cases run
  exact ⟨_, rfl⟩

end Commands

end Device

end ImageBuilder
