import ImageBuilder.DeviceNames
import ImageBuilder.Partitioning

set_option autoImplicit false

/- The device menu of write2mmc and transfer: what is listed, which node is
refused as being in use, and what the guard therefore protects. -/
namespace ImageBuilder.Device

open PlainText Numerals

/-- The running system: its root partition, a /boot mount of its own if there is one,
whether `lsblk` shows an eMMC boot partition, and the files with what the shell makes of
them, at first and after the kernel has read a new partition table. -/
structure System where
  root : Partition
  boot : Option Partition
  lsblkBoot0 : Bool
  tree : DevTree
  now : Shell
  laterTree : DevTree
  later : Shell

/-- `/dev/name` -/
def devPath (name : Text) : Text := ("/dev/" : Text) ++ name

/-- `findmnt -v -n -o SOURCE /` -/
def System.findmntRoot (system : System) : Text := devPath system.root.name

def isLetter (c : Char) : Bool := decide ('a' ≤ c ∧ c ≤ 'z')

/-- `sd*[a-z]` -/
def matchesSd (name : Text) : Bool :=
  ("sd" : Text).isPrefixOf name && (name.drop 2).getLast?.any isLetter

/-- `nvme*[0-9]` -/
def matchesNvme (name : Text) : Bool :=
  ("nvme" : Text).isPrefixOf name && (name.drop 4).getLast?.any Char.isDigit

/-- `mmcblk[0-9]` -/
def matchesMmcblk (name : Text) : Bool :=
  ("mmcblk" : Text).isPrefixOf name &&
    match name.drop 6 with
    | [digit] => digit.isDigit
    | _ => false

/-- `mmcblk*boot0` -/
def matchesBoot0 (name : Text) : Bool :=
  ("mmcblk" : Text).isPrefixOf name && ("boot0" : Text).isSuffixOf (name.drop 6)

def System.listsSd (system : System) : Bool := system.tree.devNames.any matchesSd
def System.listsNvme (system : System) : Bool := system.tree.devNames.any matchesNvme
def System.listsMmcblk (system : System) : Bool := system.tree.devNames.any matchesMmcblk

/-- `sed 's/.$//'` on the one line of findmnt. -/
def dropLast1 (line : Text) : Text := line.dropLast

/-- `sed 's/..$//'`, which leaves a line of one character alone. -/
def dropLast2 (line : Text) : Text :=
  if line.length < 2 then line else line.dropLast.dropLast

/-- An unset variable compares as the empty text. -/
def System.HD_CHK (system : System) : Text :=
  if system.listsSd then dropLast1 system.findmntRoot else []

def System.NVME_CHK (system : System) : Text :=
  if system.listsNvme then dropLast2 system.findmntRoot else []

def System.MMC_CHK (system : System) : Text :=
  if system.listsMmcblk then dropLast2 system.findmntRoot else []

/-- The lines of `ls /dev/mmcblk*boot0` with `boot0` removed. -/
def System.EMMC (system : System) : Text :=
  if system.lsblkBoot0 then
    ['\n'].intercalate ((system.tree.devNames.filter matchesBoot0).map fun name =>
      replaceAll ("boot0" : Text) [] (devPath name))
  else []

/-- The two scripts that run this menu. -/
inductive Script
  | write2mmc
  | transfer
  deriving DecidableEq

/-- The exit status of a refusal. -/
def Script.status : Script → Nat
  | .write2mmc => 0
  | .transfer => 1

/-- What the scripts call a block device in their messages. -/
def Script.noun : Script → Text
  | .write2mmc => "block device"
  | .transfer => "drive"

def Script.noneAvailable (script : Script) : Halt :=
  ⟨script.status, ("There are no available " : Text) ++ script.noun ++ ("s to transfer to." : Text)⟩

def Script.invalid (script : Script) : Halt :=
  ⟨script.status, ("WARNING: The " : Text) ++ script.noun ++
    (" you selected is not available or invalid." : Text)⟩

def Script.currentlyInUse (script : Script) : Halt :=
  ⟨script.status, ("WARNING: The " : Text) ++ script.noun ++
    (" you selected is currently in use." : Text)⟩

/-- A node that passed the guard. -/
structure Chosen where
  DEVICE_NODE : Text
  EMMC_TRUE : Bool
  deriving DecidableEq

/-- The menu from the list of devices to the end of the guard. -/
def Script.choose (script : Script) (system : System) (NODE : Text) : Except Halt Chosen :=
  let DEVICE_NODE := devPath NODE
  if !(system.listsSd || system.listsNvme || system.listsMmcblk) then .error script.noneAvailable
  else if !system.tree.exists DEVICE_NODE then .error script.invalid
  else if system.HD_CHK = DEVICE_NODE ∨ system.NVME_CHK = DEVICE_NODE ∨
      system.MMC_CHK = DEVICE_NODE then .error script.currentlyInUse
  else .ok ⟨DEVICE_NODE, system.EMMC == DEVICE_NODE⟩

/-- transfer does not test the board. -/
def Script.supports (script : Script) (board : Board) : Except Halt Unit :=
  match script with
  | .write2mmc => write2mmcSupports board
  | .transfer => .ok ()

/-- The whole way from the tests of the board through partitioning. -/
def Script.run (script : Script) (board : Board) (system : System) (choices : Choices)
    (NODE : Text) : Except Halt (List DiskCommand) := do
  script.supports board
  let chosen ← script.choose system NODE
  match script with
  | .write2mmc =>
      write2mmcPartition system.now system.later board choices chosen.DEVICE_NODE
  | .transfer => transferPartition system.now system.later choices chosen.DEVICE_NODE

/-- The path leads to a disk that holds / or /boot, or to a partition of one. -/
def System.InUse (system : System) (tree : DevTree) (path : Text) : Prop :=
  ∃ device disk, tree.device path = some device ∧ device.disk? = some disk ∧
    (disk = system.root.disk ∨ system.boot.any (fun boot => boot.disk = disk))

/-- What is left of a partition's name without its last character: a digit of
the number, so nothing of it when it has only one. -/
def Partition.shortened (part : Partition) : Text :=
  if part.number < 10 then part.disk.name ++ part.disk.separator
  else Partition.name ⟨part.disk, part.number / 10⟩

/-- The disk's name, or for a SCSI disk the name without its last letter. -/
def Disk.stem (disk : Disk) : Text := (disk.name ++ disk.separator).dropLast

/-- What is left without the last two characters. -/
def Partition.shortenedTwice (part : Partition) : Text :=
  if part.number < 10 then part.disk.stem
  else if part.number < 100 then part.disk.name ++ part.disk.separator
  else Partition.name ⟨part.disk, part.number / 100⟩

/-- The names the guard refuses: one or two, whatever leads to the disk. -/
def System.Refuses (system : System) (NODE : Text) : Prop :=
  (system.listsSd = true ∧ NODE = system.root.shortened) ∨
  ((system.listsNvme = true ∨ system.listsMmcblk = true) ∧ NODE = system.root.shortenedTwice)

theorem Partition.dropLast_name (part : Partition) : part.name.dropLast = part.shortened := by
  unfold Partition.name Partition.shortened
  rw [List.dropLast_append_of_ne_nil (decimal_ne_nil _), dropLast_decimal]
  split
  · rw [List.append_nil]
  · rfl

theorem Partition.dropLast_shortened (part : Partition) :
    part.shortened.dropLast = part.shortenedTwice := by
  unfold Partition.shortened Partition.shortenedTwice
  by_cases single : part.number < 10
  · rw [if_pos single, if_pos single, Disk.stem]
  · rw [if_neg single, if_neg single, Partition.dropLast_name, Partition.shortened]
    have tens : part.number / 10 < 10 ↔ part.number < 100 := by omega
    simp only [tens, Nat.div_div_eq_div_mul, Nat.reduceMul]

theorem Disk.name_ne_nil (disk : Disk) : disk.name ≠ [] := by
  cases disk <;> exact List.cons_ne_nil _ _

theorem Partition.name_ne_nil (part : Partition) : part.name ≠ [] :=
  List.append_ne_nil_of_right_ne_nil _ (decimal_ne_nil _)

theorem Partition.shortened_ne_nil (part : Partition) : part.shortened ≠ [] := by
  unfold Partition.shortened
  split
  · exact List.append_ne_nil_of_left_ne_nil (Disk.name_ne_nil _) _
  · exact Partition.name_ne_nil _

theorem devPath_ne_nil (name : Text) : devPath name ≠ [] := List.cons_ne_nil _ _

theorem devPath_injective (a b : Text) : devPath a = devPath b ↔ a = b := by
  simp only [devPath, List.append_cancel_left_eq]

theorem devPath_dropLast (name : Text) (nonempty : name ≠ []) :
    (devPath name).dropLast = devPath name.dropLast :=
  List.dropLast_append_of_ne_nil nonempty

/-- The two strips on the node of a partition. -/
theorem Partition.dropLast1_devPath (part : Partition) :
    dropLast1 (devPath part.name) = devPath part.shortened := by
  rw [dropLast1, devPath_dropLast _ part.name_ne_nil, Partition.dropLast_name]

theorem Partition.dropLast2_devPath (part : Partition) :
    dropLast2 (devPath part.name) = devPath part.shortenedTwice := by
  have long : ¬ (devPath part.name).length < 2 := by
    simp only [devPath, List.length_append, String.length_toList]
    have dev : "/dev/".length = 5 := rfl
    omega
  rw [dropLast2, if_neg long, devPath_dropLast _ part.name_ne_nil, Partition.dropLast_name,
    devPath_dropLast _ part.shortened_ne_nil, Partition.dropLast_shortened]

/-- A check variable equals the chosen path only where its family is listed. -/
theorem chk_eq_iff (listed : Bool) (current NODE : Text) :
    (if listed then devPath current else []) = devPath NODE ↔ listed = true ∧ NODE = current := by
  cases listed with
  | false => simp [(devPath_ne_nil NODE).symm]
  | true => simp [devPath_injective, eq_comm]

/-- The three string comparisons of the guard. -/
theorem System.refuses_iff (system : System) (NODE : Text) :
    (system.HD_CHK = devPath NODE ∨ system.NVME_CHK = devPath NODE ∨
      system.MMC_CHK = devPath NODE) ↔ system.Refuses NODE := by
  unfold HD_CHK NVME_CHK MMC_CHK Refuses findmntRoot
  rw [Partition.dropLast1_devPath, Partition.dropLast2_devPath, chk_eq_iff, chk_eq_iff, chk_eq_iff]
  grind

/-- The whole disk that holds / is refused when its partition has one digit and
its own naming scheme is listed. -/
theorem System.refuses_disk (system : System) (single : system.root.number < 10)
    (listed : match system.root.disk with
      | .sd _ => system.listsSd = true
      | .mmcblk _ => system.listsMmcblk = true
      | .nvme _ _ => system.listsNvme = true) : system.Refuses system.root.disk.name := by
  cases scheme : system.root.disk with
  | sd letters =>
      rw [scheme] at listed
      refine Or.inl ⟨listed, ?_⟩
      rw [Partition.shortened, if_pos single, scheme, Disk.separator, List.append_nil]
  | mmcblk index =>
      rw [scheme] at listed
      refine Or.inr ⟨Or.inr listed, ?_⟩
      rw [Partition.shortenedTwice, if_pos single, scheme, Disk.stem, Disk.separator,
        List.dropLast_concat]
  | nvme controller ns =>
      rw [scheme] at listed
      refine Or.inr ⟨Or.inl listed, ?_⟩
      rw [Partition.shortenedTwice, if_pos single, scheme, Disk.stem, Disk.separator,
        List.dropLast_concat]

/-- The partition that holds / is never refused itself. -/
theorem System.not_refuses_root (system : System) : ¬ system.Refuses system.root.name := by
  have positive := List.length_pos_of_ne_nil system.root.name_ne_nil
  have once : system.root.shortened.length = system.root.name.length - 1 := by
    rw [← Partition.dropLast_name, List.length_dropLast]
  have twice : system.root.shortenedTwice.length = system.root.name.length - 1 - 1 := by
    rw [← Partition.dropLast_shortened, List.length_dropLast, once]
  rintro (⟨_, same⟩ | ⟨_, same⟩)
  · have lengths := congrArg List.length same
    omega
  · have lengths := congrArg List.length same
    omega

/-- Nothing matches the three patterns. -/
def System.NothingListed (system : System) : Prop :=
  system.listsSd = false ∧ system.listsNvme = false ∧ system.listsMmcblk = false

/-- What the guard lets through. -/
theorem Script.choose_ok_iff (script : Script) (system : System) (NODE : Text) (chosen : Chosen) :
    script.choose system NODE = .ok chosen ↔
      ¬ system.NothingListed ∧ system.tree.exists (devPath NODE) = true ∧
      ¬ system.Refuses NODE ∧ chosen = ⟨devPath NODE, system.EMMC == devPath NODE⟩ := by
  rw [← System.refuses_iff]
  have nothing : system.NothingListed ↔
      (!(system.listsSd || system.listsNvme || system.listsMmcblk)) = true := by
    simp only [System.NothingListed, Bool.not_eq_true', Bool.or_eq_false_iff, and_assoc]
  rw [nothing]
  unfold Script.choose
  dsimp only
  split
  · rename_i unlisted
    simp [unlisted]
  · rename_i listed
    split
    · rename_i absent
      simp_all
    · rename_i there
      split
      · rename_i refused
        simp [refused]
      · rename_i free
        simp only [Bool.not_eq_true', Bool.not_eq_false] at there
        simp only [listed, there, free, not_false_eq_true, Bool.false_eq_true,
          true_and, Except.ok.injEq]
        exact eq_comm

/-- The files as a command finds them. -/
def System.treeOf (system : System) (command : DiskCommand) : DevTree :=
  if command.late then system.laterTree else system.tree

/-- No command that changes a device is given one of a disk the system runs from. -/
def Script.SparesRunningSystem (script : Script) (board : Board) (system : System)
    (NODE : Text) : Prop :=
  ∀ choices commands, script.run board system choices NODE = .ok commands →
    ∀ command ∈ commands, ∀ path ∈ command.devices,
      ¬ system.InUse (system.treeOf command) path

/-- The path of a partition of the chosen device, as the scripts put it together. -/
def System.partition (system : System) (NODE P : Text) : Text :=
  devPath NODE ++ partitionSuffix (system.now.ls (system.now.arguments (devPath NODE))) P

/-- The board has no EFI partition, so that write2mmc offers a single one. -/
def Script.Single (script : Script) (board : Board) : Prop :=
  script = .write2mmc ∧ board.EFI = false

/-- The node, its first word, and where the kernel shows them its partitions, whole and in
words, lead to other disks. -/
structure System.Elsewhere (system : System) (single : Prop) (NODE : Text) : Prop where
  node : ¬ system.InUse system.tree (devPath NODE)
  first : ∀ path ∈ (system.now.arguments (devPath NODE)).head?, ¬ system.InUse system.tree path
  one : single → system.later.shows (system.partition NODE "p1") = true →
    ∀ path ∈ (system.later.arguments (system.partition NODE "p1")).head?,
      ¬ system.InUse system.laterTree path
  two : system.later.shows (system.partition NODE "p2") = true →
    (∀ path ∈ (system.later.arguments (system.partition NODE "p1")).head?,
      ¬ system.InUse system.laterTree path) ∧
    ∀ path ∈ system.later.arguments (system.partition NODE "p2"),
      ¬ system.InUse system.laterTree path

section Devices

variable (now later : Shell)

/-- Before the new table is read the commands get the node or its first word. -/
theorem early_one (GPT : Bool) (PART_OFFSET DEVICE_NODE P_ROOTFS makeRootfs : Text)
    (command : DiskCommand)
    (member : command ∈ one_partition now later GPT PART_OFFSET DEVICE_NODE P_ROOTFS makeRootfs) :
    (command.late = false ∧ ∀ path ∈ command.devices,
      path = DEVICE_NODE ∨ path ∈ (now.arguments DEVICE_NODE).head?) ∨
    later.shows (DEVICE_NODE ++ P_ROOTFS) = true ∧
      command = .mkfs makeRootfs (later.arguments (DEVICE_NODE ++ P_ROOTFS)) := by
  simp only [one_partition, List.mem_append, List.mem_cons, List.not_mem_nil, or_false,
    List.mem_ite_nil_right] at member
  rcases member with (rfl | rfl | rfl) | made
  · exact Or.inl ⟨rfl, fun path device => Or.inr (Option.mem_toList.mp device)⟩
  · exact Or.inl ⟨rfl, fun path device => Or.inl (List.mem_singleton.mp device)⟩
  · exact Or.inl ⟨rfl, fun path device => Or.inl (List.mem_singleton.mp device)⟩
  · exact Or.inr made

theorem early_two (GPT EFI : Bool) (B_FSTYPE PART_OFFSET BSIZE DEVICE_NODE : Text)
    (P_BOOT P_ROOTFS makeBootfs makeRootfs : Text) (command : DiskCommand)
    (member : command ∈ two_partitions now later GPT EFI B_FSTYPE PART_OFFSET BSIZE DEVICE_NODE
      P_BOOT P_ROOTFS makeBootfs makeRootfs) :
    (command.late = false ∧ ∀ path ∈ command.devices,
      path = DEVICE_NODE ∨ path ∈ (now.arguments DEVICE_NODE).head?) ∨
    later.shows (DEVICE_NODE ++ P_ROOTFS) = true ∧
      (command = .mkfs makeBootfs (later.arguments (DEVICE_NODE ++ P_BOOT)) ∨
        command = .mkfs makeRootfs (later.arguments (DEVICE_NODE ++ P_ROOTFS))) := by
  simp only [two_partitions, List.mem_append, List.mem_cons, List.not_mem_nil, or_false,
    List.mem_ite_nil_right] at member
  rcases member with (((rfl | rfl | rfl | rfl) | ⟨-, rfl⟩) | ⟨-, rfl⟩) | made
  · exact Or.inl ⟨rfl, fun path device => Or.inr (Option.mem_toList.mp device)⟩
  · exact Or.inl ⟨rfl, fun path device => Or.inl (List.mem_singleton.mp device)⟩
  · exact Or.inl ⟨rfl, fun path device => Or.inl (List.mem_singleton.mp device)⟩
  · exact Or.inl ⟨rfl, fun path device => Or.inl (List.mem_singleton.mp device)⟩
  · exact Or.inl ⟨rfl, fun path device => Or.inl (List.mem_singleton.mp device)⟩
  · exact Or.inl ⟨rfl, fun path device => Or.inl (List.mem_singleton.mp device)⟩
  · exact Or.inr made

/-- Where the root partition shows up, file systems are made. -/
theorem late_one (GPT : Bool) (PART_OFFSET DEVICE_NODE P_ROOTFS makeRootfs : Text)
    (shown : later.shows (DEVICE_NODE ++ P_ROOTFS) = true) :
    .mkfs makeRootfs (later.arguments (DEVICE_NODE ++ P_ROOTFS)) ∈
      one_partition now later GPT PART_OFFSET DEVICE_NODE P_ROOTFS makeRootfs := by
  rw [one_partition, if_pos shown]
  exact List.mem_append_right _ (List.mem_singleton_self _)

theorem late_two (GPT EFI : Bool) (B_FSTYPE PART_OFFSET BSIZE DEVICE_NODE : Text)
    (P_BOOT P_ROOTFS makeBootfs makeRootfs : Text)
    (shown : later.shows (DEVICE_NODE ++ P_ROOTFS) = true) :
    .mkfs makeBootfs (later.arguments (DEVICE_NODE ++ P_BOOT)) ∈
        two_partitions now later GPT EFI B_FSTYPE PART_OFFSET BSIZE DEVICE_NODE P_BOOT P_ROOTFS
          makeBootfs makeRootfs ∧
      .mkfs makeRootfs (later.arguments (DEVICE_NODE ++ P_ROOTFS)) ∈
        two_partitions now later GPT EFI B_FSTYPE PART_OFFSET BSIZE DEVICE_NODE P_BOOT P_ROOTFS
          makeBootfs makeRootfs := by
  rw [two_partitions, if_pos shown]
  exact ⟨List.mem_append_right _ List.mem_cons_self,
    List.mem_append_right _ (List.mem_cons_of_mem _ List.mem_cons_self)⟩

end Devices

/-- The script's way past its tests, with a device chosen. -/
def Script.partitions (script : Script) (board : Board) (system : System) (choices : Choices)
    (NODE : Text) : Except Halt (List DiskCommand) :=
  match script with
  | .write2mmc => write2mmcPartition system.now system.later board choices (devPath NODE)
  | .transfer => transferPartition system.now system.later choices (devPath NODE)

/-- Partitioning is reached past the tests of the board and the guard. -/
theorem Script.run_ok_iff (script : Script) (board : Board) (system : System)
    (choices : Choices) (NODE : Text) (commands : List DiskCommand) :
    script.run board system choices NODE = .ok commands ↔
      script.supports board = .ok () ∧ (∃ chosen, script.choose system NODE = .ok chosen) ∧
        script.partitions board system choices NODE = .ok commands := by
  have node (chosen : Chosen) (passed : script.choose system NODE = .ok chosen) :
      chosen.DEVICE_NODE = devPath NODE := by
    rw [((script.choose_ok_iff system NODE chosen).mp passed).2.2.2]
  unfold Script.run
  constructor
  · intro run
    obtain ⟨_, supported, run⟩ := ok_of_bind run
    obtain ⟨chosen, passed, run⟩ := ok_of_bind run
    rw [node chosen passed] at run
    exact ⟨supported, ⟨chosen, passed⟩, run⟩
  · rintro ⟨supported, ⟨chosen, passed⟩, run⟩
    rw [supported, passed]
    show (match script with
      | .write2mmc => write2mmcPartition system.now system.later board choices chosen.DEVICE_NODE
      | .transfer => transferPartition system.now system.later choices chosen.DEVICE_NODE) = _
    rw [node chosen passed]
    exact run

theorem Script.partitions_two (script : Script) (board : Board) (system : System)
    (NODE : Text) : PartitionsTwo system.now system.later (devPath NODE)
      (script.partitions board system twoChoices NODE) := by
  cases script with
  | write2mmc => exact write2mmcPartition_two _ _ board _
  | transfer => exact transferPartition_two _ _ _

theorem Script.partitions_one (script : Script) (board : Board) (system : System)
    (NODE : Text) (single : script.Single board) : ∃ GPT PART_OFFSET,
      script.partitions board system oneChoices NODE =
        .ok (one_partition system.now system.later GPT PART_OFFSET (devPath NODE)
          (partitionSuffix (system.now.ls (system.now.arguments (devPath NODE))) ("p1" : Text))
          ("mkfs.ext4 -L" : Text)) := by
  obtain ⟨rfl, efi⟩ := single
  exact ⟨_, _, write2mmcPartition_one _ _ board efi _⟩

section Spares

variable {script : Script} {board : Board} {system : System} {NODE : Text}

/-- Where everything leads elsewhere nothing is spoilt. -/
theorem System.Elsewhere.spares (elsewhere : system.Elsewhere (script.Single board) NODE)
    (choices : Choices) (commands : List DiskCommand)
    (run : script.partitions board system choices NODE = .ok commands) :
    ∀ command ∈ commands, ∀ path ∈ command.devices,
      ¬ system.InUse (system.treeOf command) path := by
  have early (command : DiskCommand) (soon : command.late = false)
      (devices : ∀ path ∈ command.devices, path = devPath NODE ∨
        path ∈ (system.now.arguments (devPath NODE)).head?) (path : Text)
      (device : path ∈ command.devices) : ¬ system.InUse (system.treeOf command) path := by
    rw [System.treeOf, soon, if_neg Bool.false_ne_true]
    rcases devices path device with rfl | first
    · exact elsewhere.node
    · exact elsewhere.first path first
  have made (maker : Text) (arguments : List Text) (other : maker ≠ ("mkfs.btrfs -f -L" : Text))
      (free : ∀ path ∈ arguments.head?, ¬ system.InUse system.laterTree path) (path : Text)
      (device : path ∈ (DiskCommand.mkfs maker arguments).devices) :
      ¬ system.InUse system.laterTree path := by
    rw [DiskCommand.devices, if_neg other] at device
    exact free path (Option.mem_toList.mp device)
  have two (GPT EFI : Bool) (B_FSTYPE PART_OFFSET BSIZE makeBootfs makeRootfs : Text)
      (other : makeBootfs ≠ ("mkfs.btrfs -f -L" : Text))
      (is : commands = two_partitions system.now system.later GPT EFI B_FSTYPE PART_OFFSET BSIZE
        (devPath NODE)
        (partitionSuffix (system.now.ls (system.now.arguments (devPath NODE))) ("p1" : Text))
        (partitionSuffix (system.now.ls (system.now.arguments (devPath NODE))) ("p2" : Text))
        makeBootfs makeRootfs) :
      ∀ command ∈ commands, ∀ path ∈ command.devices,
        ¬ system.InUse (system.treeOf command) path := by
    subst is
    intro command member path device
    rcases early_two _ _ _ _ _ _ _ _ _ _ _ _ command member with ⟨soon, devices⟩ | ⟨shown, late⟩
    · exact early command soon devices path device
    · obtain ⟨boot, root⟩ := elsewhere.two shown
      rcases late with rfl | rfl
      · exact made makeBootfs _ other boot path device
      · rw [DiskCommand.devices] at device
        split at device
        · exact root path device
        · exact root path (List.mem_of_mem_head? (Option.mem_toList.mp device))
  cases script with
  | write2mmc =>
      rcases write2mmcPartition_cases _ _ board choices _ commands run with
        ⟨efi, GPT, PART_OFFSET, rfl⟩ | ⟨_, _, _, _, _, _, _, other, is⟩
      · intro command member path device
        rcases early_one _ _ _ _ _ _ _ command member with ⟨soon, devices⟩ | ⟨shown, rfl⟩
        · exact early command soon devices path device
        · exact made _ _ (by decide) (elsewhere.one ⟨rfl, efi⟩ shown) path device
      · exact two _ _ _ _ _ _ _ other is
  | transfer =>
      obtain ⟨_, is⟩ := transferPartition_cases _ _ choices _ commands run
      exact two _ _ _ _ _ _ _ (by decide) is

/-- And only there: the answers for one partition and for two reach every device. -/
theorem elsewhere_of_spares
    (spares : ∀ choices commands, script.partitions board system choices NODE = .ok commands →
      ∀ command ∈ commands, ∀ path ∈ command.devices,
        ¬ system.InUse (system.treeOf command) path) :
    system.Elsewhere (script.Single board) NODE := by
  obtain ⟨GPT, EFI, PART_OFFSET, BSIZE, run⟩ := script.partitions_two board system NODE
  have two := spares twoChoices _ run
  constructor
  case node =>
    exact two (.mklabel (devPath NODE) (tableName GPT))
      (List.mem_cons_of_mem _ List.mem_cons_self) _ List.mem_cons_self
  case first =>
    intro path first
    exact two (.sfdiskDelete (system.now.arguments (devPath NODE))) List.mem_cons_self path
      (Option.mem_toList.mpr first)
  case one =>
    intro single shown path first
    obtain ⟨_, _, run⟩ := script.partitions_one board system NODE single
    refine spares oneChoices _ run _ (late_one _ _ _ _ _ _ _ shown) path ?_
    rw [DiskCommand.devices, if_neg (by decide)]
    exact Option.mem_toList.mpr first
  case two =>
    intro shown
    have made := late_two system.now system.later GPT EFI ("vfat" : Text) PART_OFFSET BSIZE
      (devPath NODE)
      (partitionSuffix (system.now.ls (system.now.arguments (devPath NODE))) ("p1" : Text)) _
      ("mkfs.fat -F 32 -n" : Text) ("mkfs.btrfs -f -L" : Text) shown
    constructor
    · intro path first
      refine two _ made.1 path ?_
      rw [DiskCommand.devices, if_neg (by decide)]
      exact Option.mem_toList.mpr first
    · intro path member
      refine two _ made.2 path ?_
      rw [DiskCommand.devices, if_pos rfl]
      exact member

end Spares

/-- The script stops in front of partitioning: at its tests of the board, with nothing
listed, or at a node that is not there or that the guard refuses. -/
def Script.Stops (script : Script) (board : Board) (system : System) (NODE : Text) : Prop :=
  (script = .write2mmc ∧ (board.FAMILY = .broadcom ∨ board.PETITBOOT = true)) ∨
    system.NothingListed ∨ system.tree.exists (devPath NODE) = false ∨ system.Refuses NODE

theorem Script.supports_iff (script : Script) (board : Board) :
    script.supports board = .ok () ↔
      ¬ (script = .write2mmc ∧ (board.FAMILY = .broadcom ∨ board.PETITBOOT = true)) := by
  cases script with
  | transfer => simp [Script.supports]
  | write2mmc =>
      unfold Script.supports write2mmcSupports
      cases board.PETITBOOT <;> cases board.FAMILY <;> simp [write2mmcFamilies]

theorem Script.stops_iff (script : Script) (board : Board) (system : System) (NODE : Text) :
    script.Stops board system NODE ↔
      ¬ (script.supports board = .ok () ∧ ∃ chosen, script.choose system NODE = .ok chosen) := by
  have passes : (∃ chosen, script.choose system NODE = .ok chosen) ↔
      ¬ system.NothingListed ∧ system.tree.exists (devPath NODE) = true ∧
        ¬ system.Refuses NODE := by
    simp only [Script.choose_ok_iff]
    constructor
    · rintro ⟨_, listed, there, free, -⟩
      exact ⟨listed, there, free⟩
    · rintro ⟨listed, there, free⟩
      exact ⟨_, listed, there, free, rfl⟩
  rw [Script.supports_iff, passes, Script.Stops, ← Bool.not_eq_true]
  tauto

/-- The running system is spared exactly where the script stops, and where everything
that the commands make of the node leads elsewhere. -/
theorem Script.sparesRunningSystem_iff (script : Script) (board : Board) (system : System)
    (NODE : Text) :
    script.SparesRunningSystem board system NODE ↔
      script.Stops board system NODE ∨ system.Elsewhere (script.Single board) NODE := by
  unfold SparesRunningSystem
  simp only [Script.run_ok_iff]
  constructor
  · intro spares
    by_cases stops : script.Stops board system NODE
    · exact Or.inl stops
    · rw [Script.stops_iff, not_not] at stops
      exact Or.inr (elsewhere_of_spares fun choices commands run =>
        spares choices commands ⟨stops.1, stops.2, run⟩)
  · rintro (stops | elsewhere) choices commands ⟨supported, passed, run⟩
    · exact absurd ⟨supported, passed⟩ ((script.stops_iff board system NODE).mp stops)
    · exact elsewhere.spares choices commands run
/-- Names that are no patterns, and `ls` of what is no directory. -/
def plainShell : Shell where
  glob word := [word]
  ls paths := paths

/-- A board that runs from the second partition of its SD card. -/
def runningFromCard : System where
  root := ⟨.mmcblk 0, 2⟩
  boot := some ⟨.mmcblk 0, 1⟩
  lsblkBoot0 := false
  tree := ⟨[([], .directory), ([("dev" : Text)], .directory),
    ([("dev" : Text), ("mmcblk0" : Text)], .node (.whole (.mmcblk 0))),
    ([("dev" : Text), ("mmcblk0p1" : Text)], .node (.part ⟨.mmcblk 0, 1⟩)),
    ([("dev" : Text), ("mmcblk0p2" : Text)], .node (.part ⟨.mmcblk 0, 2⟩))]⟩
  now := plainShell
  laterTree := ⟨[]⟩
  later := plainShell

example : Script.write2mmc.choose runningFromCard ("mmcblk0" : Text) =
    .error ⟨0, ("WARNING: The block device you selected is currently in use." : Text)⟩ := by
  rfl

/-- The mounted boot partition of the running card gets past the guard. -/
theorem boot_partition_wiped :
    ¬ Script.write2mmc.SparesRunningSystem lepotato runningFromCard ("mmcblk0p1" : Text) := by
  intro spares
  have passed : Script.write2mmc.choose runningFromCard ("mmcblk0p1" : Text) =
      .ok ⟨devPath ("mmcblk0p1" : Text), false⟩ := by rfl
  have elsewhere := elsewhere_of_spares fun choices commands run =>
    spares choices commands
      ((Script.run_ok_iff _ _ _ _ _ _).mpr ⟨rfl, ⟨_, passed⟩, run⟩)
  exact elsewhere.node ⟨.part ⟨.mmcblk 0, 1⟩, .mmcblk 0, rfl, rfl, Or.inl rfl⟩

end ImageBuilder.Device
