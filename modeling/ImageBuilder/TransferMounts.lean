import ImageBuilder.LenientMounts
import ImageBuilder.Partitioning

set_option autoImplicit false

/- What write2mmc and transfer mount below /transfer, and what is still mounted when
they delete it. -/
namespace ImageBuilder.TransferMounts

open MountTable

/-- /transfer/${P_BOOT} and /transfer/${P_ROOTFS}, and the names below the latter. -/
inductive Entry
  | P_BOOT
  | P_ROOTFS
  | dev
  | pts
  | proc
  | sys
  | run
  | boot
  | efi
  deriving DecidableEq

open Entry

section Scripts

def command (attempts : List (Attempt Entry)) : Step Entry := ⟨attempts, false⟩

def called (attempts : List (Attempt Entry)) : Step Entry := ⟨attempts, true⟩

/-- In the root partition. -/
def inRoot (below : List Entry) : Place Entry := ⟨P_ROOTFS, below⟩

/-- What decides about the mounts of write2mmc, and which of its two mount points the
partitions have. -/
structure Config where
  P_VALUE : Scheme
  EFI : Bool
  EXTLINUX : Bool
  BOOTCMD : Bool
  BOOTINI : Bool
  deriving DecidableEq

/-- EFI takes two partitions, whatever is selected. -/
def Config.scheme (config : Config) : Scheme := if config.EFI then .p2 else config.P_VALUE

def one_partition : List (Step Entry) :=
  [command [.mount (top P_ROOTFS)], command [.umount (top P_ROOTFS)],
    command [.mount (top P_ROOTFS)]]

def two_partitions : List (Step Entry) :=
  [command [.mount (top P_BOOT)], command [.mount (top P_ROOTFS)],
    command [.umount (top P_ROOTFS)], command [.mount (top P_ROOTFS)]]

/-- update_grub.sh, which has set errexit. -/
def update_grub_sh : List (Step Entry) :=
  [called [.mount (inRoot [proc])], called [.mount (inRoot [sys])],
    called [.other], called [.umount (inRoot [proc]), .umount (inRoot [sys])]]

/-- In p2_boot, behind the tests for the other boot methods. -/
def Config.grub (config : Config) : Bool :=
  config.EFI && !(config.EXTLINUX || config.BOOTCMD || config.BOOTINI)

def p2_boot (config : Config) : List (Step Entry) :=
  if config.grub then
    [command [.mount (inRoot [boot, efi])], command [.mount (inRoot [dev])],
      command [.mount (inRoot [dev, pts])]] ++ update_grub_sh ++
    [command [.umount (inRoot [dev, pts])], command [.umount (inRoot [dev])],
      command [.umount (inRoot [boot, efi])]]
  else []

def Config.bootPlace (config : Config) : Place Entry :=
  if config.EFI then inRoot [boot, efi] else inRoot [boot]

/-- The mounts around `update-initramfs`. -/
def initramfsMounts : List (Step Entry) :=
  [command [.mount (inRoot [dev])], command [.mount (inRoot [dev, pts])],
    command [.mount (inRoot [proc])], command [.mount (inRoot [sys])],
    command [.mount (inRoot [run])]]

def initramfsUmounts : Step Entry :=
  command [.umount (inRoot [dev, pts]), .umount (inRoot [dev]), .umount (inRoot [proc]),
    .umount (inRoot [sys]), .umount (inRoot [run])]

def update_initramfs (config : Config) : List (Step Entry) :=
  match config.scheme with
  | .p1 => initramfsMounts ++ [initramfsUmounts]
  | .p2 => initramfsMounts ++ [command [.mount config.bootPlace],
      command [.umount config.bootPlace], initramfsUmounts]

/-- write2mmc up to `rm -fdr /transfer` -/
def write2mmc (config : Config) : List (Step Entry) :=
  match config.scheme with
  | .p1 => one_partition ++ update_initramfs config ++ [command [.umount (top P_ROOTFS)]]
  | .p2 => two_partitions ++ p2_boot config ++ update_initramfs config ++
      [command [.umount (top P_BOOT)], command [.umount (top P_ROOTFS)]]

/-- transfer up to `rm -fdr /transfer` -/
def transfer : List (Step Entry) :=
  two_partitions ++ [command [.umount (top P_BOOT)], command [.umount (top P_ROOTFS)]]

end Scripts

section Runs

inductive Program
  | write2mmc (config : Config)
  | transfer
  deriving DecidableEq

def Program.steps : Program → List (Step Entry)
  | .write2mmc config => TransferMounts.write2mmc config
  | .transfer => TransferMounts.transfer

/-- A run, with what becomes of its commands as far as they are run. -/
structure Run where
  program : Program
  fate : List (List Bool)

/-- What is mounted below /transfer, and whether `rm -fdr /transfer` has gone into what
was mounted there. -/
structure Machine where
  mounts : Mounts Entry
  wiped : Bool
  deriving DecidableEq

/-- Only a run that is not broken off comes to `rm -fdr /transfer`. -/
def Machine.after (machine : Machine) (run : Run) : Machine :=
  let mounts := (runSteps false machine.mounts run.program.steps run.fate).1
  if run.fate.length < run.program.steps.length then ⟨mounts, machine.wiped⟩
  else ⟨mounts, machine.wiped || !mounts.isEmpty⟩

end Runs

section Safety

theorem settled (program : Program) :
    settle [] (program.steps.flatMap Step.attempts) = some [] := by
  cases program with
  | write2mmc config =>
    obtain ⟨P_VALUE, EFI, EXTLINUX, BOOTCMD, BOOTINI⟩ := config
    cases EFI with
    | false => cases P_VALUE <;> rfl
    | true => cases EXTLINUX <;> cases BOOTCMD <;> cases BOOTINI <;> rfl
  | transfer => rfl

/-- The run comes to its end, no unmounting in it fails for reasons of its own, and
neither does update_grub.sh stop. -/
structure Run.Orderly (run : Run) : Prop where
  free : Free run.program.steps run.fate
  ended : (runSteps false [] run.program.steps run.fate).2 = true

theorem after_orderly (run : Run) (orderly : run.Orderly) :
    (⟨[], false⟩ : Machine).after run = ⟨[], false⟩ := by
  have left := runSteps_settle run.program.steps run.fate [] (List.Sublist.refl []) orderly.free
    (settled run.program) orderly.ended
  have whole : ¬ run.fate.length < run.program.steps.length := by
    rw [orderly.free.length_eq]
    exact Nat.lt_irrefl _
  rw [Machine.after, if_neg whole, List.sublist_nil.mp left]
  rfl

/-- Orderly runs of write2mmc and transfer, one after the other, never delete what is
mounted, whatever else fails in them: each of them leaves /transfer without a mount. -/
theorem orderly_runs (runs : List Run) (orderly : ∀ run ∈ runs, run.Orderly) :
    runs.foldl Machine.after ⟨[], false⟩ = ⟨[], false⟩ := by
  induction runs with
  | nil => rfl
  | cons run runs ih =>
    rw [List.foldl_cons, after_orderly run (orderly run List.mem_cons_self)]
    exact ih fun later member => orderly later (List.mem_cons_of_mem run member)

/-- A transfer to one partition, its /run not mounted in the new system, and one to two
partitions whose first mount of the boot partition fails. -/
def unevenRuns : List Run :=
  [⟨.write2mmc ⟨.p1, false, true, false, false⟩,
      [[true], [true], [true], [true], [true], [true], [true], [false],
        [true, true, true, true, true], [true]]⟩,
    ⟨.transfer, [[false], [true], [true], [true], [true], [true]]⟩]

theorem orderly_runs_uneven : unevenRuns.foldl Machine.after ⟨[], false⟩ = ⟨[], false⟩ :=
  orderly_runs unevenRuns (List.forall_mem_cons.mpr ⟨⟨by decide, by decide⟩,
    List.forall_mem_singleton.mpr ⟨by decide, by decide⟩⟩)

end Safety

section Exactly

/-- Nothing fails, unless what update_grub.sh does between its mounts. -/
def Attempt.outcome (grub : Bool) : Attempt Entry → Bool
  | .other => grub
  | _ => true

def Program.run (program : Program) (grub : Bool) : Run :=
  ⟨program, program.steps.map fun step => step.attempts.map (Attempt.outcome grub)⟩

/-- Whether the run has a use for grub. -/
def Program.grub : Program → Bool
  | .write2mmc config => config.grub
  | .transfer => false

/-- What update_grub.sh leaves mounted when it stops keeps the root partition mounted. -/
def Program.stuck (program : Program) (grub : Bool) : Mounts Entry :=
  if program.grub && !grub then [inRoot [sys], inRoot [proc], top P_ROOTFS] else []

theorem run_mounts (program : Program) (grub : Bool) (leftover : Mounts Entry) :
    (runSteps false leftover program.steps (program.run grub).fate).1 =
      program.stuck grub ++ leftover := by
  cases program with
  | write2mmc config =>
    obtain ⟨P_VALUE, EFI, EXTLINUX, BOOTCMD, BOOTINI⟩ := config
    cases EFI with
    | false => cases P_VALUE <;> cases grub <;> rfl
    | true => cases grub <;> cases EXTLINUX <;> cases BOOTCMD <;> cases BOOTINI <;> rfl
  | transfer => rfl

/-- A run in which no mount and no unmounting fails deletes what is mounted exactly if
an earlier one has left a mount, or update_grub.sh stops in it. -/
theorem wipes_iff (program : Program) (grub : Bool) (leftover : Mounts Entry) :
    ((⟨leftover, false⟩ : Machine).after (program.run grub)).wiped = true ↔
      leftover ≠ [] ∨ (program.grub = true ∧ grub = false) := by
  have whole : ¬ (program.run grub).fate.length < program.steps.length := by
    rw [Program.run, List.length_map]
    exact Nat.lt_irrefl _
  have mounts : (⟨leftover, false⟩ : Machine).after (program.run grub) =
      ⟨program.stuck grub ++ leftover, !(program.stuck grub ++ leftover).isEmpty⟩ := by
    rw [← run_mounts]
    exact if_neg whole
  rw [mounts, Bool.not_eq_true', List.isEmpty_eq_false_iff, ne_eq, List.append_eq_nil_iff,
    not_and_or, or_comm]
  refine or_congr_right ?_
  rw [Program.stuck]
  cases program.grub <;> cases grub <;> decide

/-- Where grub-install fails the new system is deleted again. -/
example : (⟨[], false⟩ : Machine).after
    ((Program.write2mmc ⟨.p2, true, false, false, false⟩).run false) =
      ⟨[inRoot [sys], inRoot [proc], top P_ROOTFS], true⟩ := by
  decide +kernel

end Exactly

end ImageBuilder.TransferMounts
