import ImageBuilder.DeviceNames
import ImageBuilder.Identifiers
import ImageBuilder.Medium
import ImageBuilder.StagedBoot

set_option autoImplicit false

/- packaging/flash-recovery.sh: the vendor's boot loader is written over the eMMC of a
running board. The partition table stays, but the disk's identifier lies partly inside
of what is written, so that the root partition may get another PARTUUID. -/
namespace ImageBuilder.FlashRecovery

open PlainText Numerals Medium Device Identifiers

open Staging hiding Disk

section PartUuid

/-- The identifier of an MBR disk, as its four bytes have it. -/
def diskId (disk : Nat → UInt8) : Nat :=
  (disk 440).toNat + 256 * ((disk 441).toNat + 256 * ((disk 442).toNat + 256 * (disk 443).toNat))

/-- The disk has a partition table of its own in the first sector, not the one that
stands there for a GPT. -/
def Mbr (disk : Nat → UInt8) : Prop := disk 510 = 0x55 ∧ disk 511 = 0xaa ∧ disk 450 ≠ 0xee

instance (disk : Nat → UInt8) : Decidable (Mbr disk) :=
  inferInstanceAs (Decidable (disk 510 = 0x55 ∧ disk 511 = 0xaa ∧ disk 450 ≠ 0xee))

/-- blkid, as far as the sed behind it takes out what it prints as PARTUUID of the
partition with a number on a disk with these contents. On an MBR disk that is made of the
disk's identifier; if that is 0, blkid prints none. -/
structure Blkid where
  PARTUUID : (Nat → UInt8) → Nat → Text
  solid : ∀ disk number, ' ' ∉ PARTUUID disk number
  named : ∀ disk number, Mbr disk → diskId disk ≠ 0 →
    PARTUUID disk number = paddedHex 8 (diskId disk) ++ '-' :: paddedHex 2 number
  unnamed : ∀ disk number, Mbr disk → diskId disk = 0 → PARTUUID disk number = []

end PartUuid

section Script

/-- `s,key[^ ]*,key...,` on one line. -/
def replaceParameter (key value : Text) : Text → Text
  | [] => []
  | c :: rest =>
      if key.isPrefixOf (c :: rest) then
        key ++ value ++ ((c :: rest).drop key.length).dropWhile (· != ' ')
      else c :: replaceParameter key value rest

def rootKey : Text := "root=PARTUUID="

def copies (MMC : Disk) : List (Copy Unit Disk) :=
  [{ infile := some (), area := MMC, bs := 1, count := some 442 },
    { infile := some (), area := MMC, bs := 512, seek := 1, skip := 1 }]

/-- A running board with at most one eMMC. -/
structure Machine where
  FAMILY_EXT : Text
  MMC : Option Disk
  root : Partition
  disks : Contents Disk
  extlinux_conf : Option (List Text)

/-- The PARTUUID of the root partition, as its disk is now. -/
def Machine.PARTUUID (blkid : Blkid) (machine : Machine) : Text :=
  blkid.PARTUUID (machine.disks machine.root.disk) machine.root.number

end Script

section Parameter

/-- The value behind the first key of a line is replaced. -/
theorem replaceParameter_first (key value front old back : Text) (solid : ' ' ∉ old)
    (first : ¬ key <:+: front ++ key.dropLast) (nonempty : key ≠ []) :
    replaceParameter key value (front ++ (key ++ (old ++ ' ' :: back))) =
      front ++ (key ++ (value ++ ' ' :: back)) := by
  induction front with
  | nil =>
    have here : key.isPrefixOf (key ++ (old ++ ' ' :: back)) = true :=
      List.isPrefixOf_iff_prefix.mpr (List.prefix_append _ _)
    have runs : ∀ c ∈ old, (c != ' ') = true := by
      intro c member
      exact bne_iff_ne.mpr fun is => solid (is ▸ member)
    have stops : (old ++ ' ' :: back).dropWhile (· != ' ') = ' ' :: back := by
      rw [List.dropWhile_append_of_pos runs]
      rfl
    obtain ⟨c, rest, is⟩ := List.exists_cons_of_ne_nil nonempty
    rw [List.nil_append, List.nil_append]
    rw [is, List.cons_append] at here ⊢
    rw [replaceParameter, if_pos here, ← List.cons_append, ← is, List.drop_left, stops,
      List.append_assoc]
  | cons c front ih =>
    have here : key.isPrefixOf ((c :: front) ++ (key ++ (old ++ ' ' :: back))) = false := by
      rw [Bool.eq_false_iff]
      intro found
      refine first ?_
      have short : key.length ≤ ((c :: front) ++ key.dropLast).length := by
        rw [List.length_append, List.length_dropLast, List.length_cons]
        omega
      have part : (c :: front) ++ key.dropLast <+: (c :: front) ++ (key ++ (old ++ ' ' :: back)) :=
        (List.prefix_append_right_inj _).mpr
          ((List.dropLast_prefix key).trans (List.prefix_append _ _))
      have inside := List.isPrefixOf_iff_prefix.mp found
      exact (List.prefix_of_prefix_length_le inside part short).isInfix
    rw [List.cons_append] at here ⊢
    rw [replaceParameter, here, if_neg Bool.false_ne_true, ih]
    · rfl
    · exact fun later => first (later.trans (List.suffix_cons c _).isInfix)

end Parameter

section Disks

variable (binary : Bytes) (MMC : Disk) (before : Contents Disk)

end Disks

section Recovered

variable (blkid : Blkid) (config : Config)

/-- extlinux.conf of a build for one root partition. -/
def confLines (ROOT_PARTUUID : Text) : List Text :=
  (extlinux config).dropLast ++ ['\t' :: CMDLINE config ROOT_PARTUUID config.FSTYPE]

/-- The kernel is told the partition that the root is on. -/
structure Machine.Finds (machine : Machine) : Prop where
  identified : machine.PARTUUID blkid ≠ []
  told : machine.extlinux_conf = some (confLines config (machine.PARTUUID blkid))

/-- The board's own strings name no root. -/
structure Quiet : Prop where
  lines : ∀ line ∈ (extlinux config).dropLast, ¬ rootKey <:+: line
  console : ¬ rootKey <:+: config.CONSOLE

variable {config}

/-- What is before the root partition on the kernel's line. -/
def cmdlineFront (config : Config) : Text :=
  '\t' :: (("append earlyprintk " : Text) ++ config.CONSOLE ++ (" rw " : Text))

theorem cmdline_eq (uuid : Text) : '\t' :: CMDLINE config uuid config.FSTYPE =
    cmdlineFront config ++ (rootKey ++ (uuid ++ ' ' :: (("rootwait " : Text) ++
      config.FSTYPE.ROOT_FSTYPE ++ (" fsck.repair=yes " : Text) ++ config.LOGLEVEL ++ [' '] ++
        config.EXTRA ++ (" init=/sbin/init" : Text)))) := by
  have split : (" rw root=PARTUUID=" : Text) = (" rw " : Text) ++ rootKey := by
    decide
  have blank : (" rootwait " : Text) = ' ' :: ("rootwait " : Text) := by simp
  unfold CMDLINE cmdlineFront
  simp only [split, blank]
  simp only [List.append_assoc, List.cons_append]

/-- The key has no blank, so it would be in one of the words before. -/
theorem Quiet.front (quiet : Quiet config) :
    ¬ rootKey <:+: cmdlineFront config ++ rootKey.dropLast := by
  have solid : ' ' ∉ rootKey := by decide
  have split : cmdlineFront config ++ rootKey.dropLast =
      ('\t' :: ("append earlyprintk" : Text)) ++
        ' ' :: (config.CONSOLE ++ ' ' :: (("rw" : Text) ++ ' ' :: rootKey.dropLast)) := by
    have front : '\t' :: ("append earlyprintk " : Text) =
        ('\t' :: ("append earlyprintk" : Text)) ++ [' '] := by simp
    have back : (" rw " : Text) = ' ' :: (("rw" : Text) ++ [' ']) := by simp
    rw [cmdlineFront, ← List.cons_append, ← List.cons_append, front, back]
    simp only [List.append_assoc, List.cons_append, List.nil_append]
  rw [split]
  intro inside
  rcases infix_append_cons solid inside with one | rest
  · exact absurd one (by decide)
  · rcases infix_append_cons solid rest with console | rest
    · exact quiet.console console
    · rcases infix_append_cons solid rest with two | three
      · exact absurd two (by decide)
      · exact absurd three (by decide)

theorem Quiet.cmdline (quiet : Quiet config) (old new : Text) (solid : ' ' ∉ old) :
    replaceParameter rootKey new ('\t' :: CMDLINE config old config.FSTYPE) =
      '\t' :: CMDLINE config new config.FSTYPE := by
  rw [cmdline_eq old, cmdline_eq new]
  exact replaceParameter_first rootKey new _ old _ solid quiet.front (by decide)

end Recovered

end ImageBuilder.FlashRecovery
