import ImageBuilder.FlashUboot
import ImageBuilder.TransferGuard

set_option autoImplicit false

/- Names of partitions put together by write2mmc and taken apart again by
firstboot and flash.sh. -/
namespace ImageBuilder.Device

open PlainText Numerals

/-- write2mmc's partition variables, from what `ls $DEVICE_NODE` shows. -/
def P_BOOT (P_VALUE : Scheme) (shown : List Text) : Option Text :=
  match P_VALUE with
  | .p1 => none
  | .p2 => some (partitionSuffix shown ("p1" : Text))

def P_ROOTFS (P_VALUE : Scheme) (shown : List Text) : Text :=
  match P_VALUE with
  | .p1 => partitionSuffix shown ("p1" : Text)
  | .p2 => partitionSuffix shown ("p2" : Text)

/-- The root partition's number. -/
def rootNumber : Scheme → Nat
  | .p1 => 1
  | .p2 => 2

/-- What firstboot passes to growpart; for other roots `NODE` is unset. -/
structure Growpart where
  NODE : Text
  PART : Text
  deriving DecidableEq

/-- The second test overrules the first: an `sd` disk has no separator. -/
def firstboot (SOURCE : Text) : Growpart :=
  let NODE : Text := if grepLine ("mmc" : Text) SOURCE ∨ grepLine ("nvme" : Text) SOURCE then
    dropLast2 SOURCE else []
  let NODE := if grepLine ("sd" : Text) SOURCE then dropLast1 SOURCE else NODE
  ⟨NODE, SOURCE.getLast?.toList⟩

/-- `^(/dev/mmcblk0|/dev/mmcblk1|/dev/mmcblk2)$` -/
def flashNodes : List Text := ["/dev/mmcblk0", "/dev/mmcblk1", "/dev/mmcblk2"]

/-- A run of flash.sh past its checks, with the `of=` of each `dd`. -/
structure FlashRun where
  MMC : Text
  EMMC : Bool
  writes : List (Text × Flash.Dd)

/-- The lines of `ls /dev/mmcblk*boot0` without their first five characters. -/
def DevTree.boot0Device (tree : DevTree) : Text :=
  ['\n'].intercalate ((tree.devNames.filter matchesBoot0).map fun name => (devPath name).drop 5)

def flashTarget (tree : DevTree) (MMC : Text) : Flash.Area → Text
  | .user => MMC
  | .boot0 => devPath tree.boot0Device

/-- `DIR` is /usr/lib/u-boot, if that is there. -/
def flash_sh (board : Board) (DEFAULT_MOTD USER : Text) (DIR : Option Flash.Binaries)
    (SOURCE : Text) (tree : DevTree) : Except Halt FlashRun :=
  if board.BOARD = ("odroidc1" : Text) then
    .error ⟨0, ("The " : Text) ++ DEFAULT_MOTD ++ (" is not supported by this script" : Text)⟩
  else if board.PETITBOOT then .error ⟨0, ("Petitboot is not supported by this script" : Text)⟩
  else if USER ≠ ("root" : Text) then
    .error ⟨1, ("Please run this as root or with sudo privileges." : Text)⟩
  else match DIR with
  | none => .error ⟨0, ("    Could not find u-boot directory." : Text)⟩
  | some dir =>
      let MMC := dropLast2 SOURCE
      if MMC ∈ flashNodes then
        let EMMC := tree.exists (MMC ++ ("boot0" : Text))
        let kind : Flash.Kind := if EMMC then .emmc else .sd
        .ok ⟨MMC, EMMC, (Flash.flash_sh board kind dir).map fun command =>
          (flashTarget tree MMC command.area, command)⟩
      else .error ⟨0, ("    Could not find device node." : Text)⟩

/-- A disk whose partitions have the separator. -/
def Disk.Separated (disk : Disk) : Prop := disk.separator = ['p']

theorem Disk.separated_or (disk : Disk) :
    disk.Separated ∨ ∃ letters, disk = .sd letters := by
  cases disk with
  | sd letters => exact Or.inr ⟨letters, rfl⟩
  | mmcblk index => exact Or.inl rfl
  | nvme controller ns => exact Or.inl rfl

/-- Only the names of SCSI disks have an `s`. -/
theorem Disk.no_s (disk : Disk) (separated : disk.Separated) : 's' ∉ disk.name := by
  have digits (n : Nat) : 's' ∉ decimal n := not_mem_decimal n (by decide)
  have mmcblk : 's' ∉ ("mmcblk" : Text) := by decide
  have nvme : 's' ∉ ("nvme" : Text) := by decide
  cases disk with
  | sd letters => cases separated
  | mmcblk index => exact List.not_mem_append mmcblk (digits index)
  | nvme controller ns =>
      apply List.not_mem_append (List.not_mem_append nvme (digits controller))
      exact List.not_mem_cons_of_ne_of_not_mem (by decide) (digits ns)

theorem devPath_no_s (disk : Disk) (number : Nat) (separated : disk.Separated) :
    's' ∉ devPath disk.name ∧ 's' ∉ devPath (Partition.name ⟨disk, number⟩) := by
  have digits : 's' ∉ decimal number := not_mem_decimal number (by decide)
  have dev : 's' ∉ ("/dev/" : Text) := by decide
  have separator : 's' ∉ disk.separator := by
    rw [separated]
    decide
  have named := disk.no_s separated
  have parts := List.not_mem_append (List.not_mem_append named separator) digits
  exact ⟨List.not_mem_append dev named, List.not_mem_append dev parts⟩

theorem sd_infix (letters : DiskLetters) (rest : Text) :
    ("/dev/sd" : Text) <:+: devPath ((Disk.sd letters).name ++ rest) :=
  ⟨[], letters.letters ++ rest, rfl⟩

/-- write2mmc drops the `p` exactly where the kernel has no separator: `ls` shows the
node itself. -/
theorem partitionSuffix_eq (disk : Disk) (digit : Char) (plain : digit ≠ 'p') :
    partitionSuffix [devPath disk.name] ['p', digit] = disk.separator ++ [digit] := by
  unfold partitionSuffix
  rw [List.any_cons, List.any_nil, Bool.or_false]
  rcases disk.separated_or with separated | ⟨letters, rfl⟩
  · have absent := (devPath_no_s disk 0 separated).1
    have silent : ¬ grepLine ("/dev/sd" : Text) (devPath disk.name) = true := fun found =>
      absent ((of_decide_eq_true found).subset (by decide))
    rw [if_neg silent, separated]
    rfl
  · have shown := sd_infix letters []
    rw [List.append_nil] at shown
    have absent : ¬ ['p'] <:+: [digit] := fun found =>
      plain (List.mem_singleton.mp (found.subset (List.mem_singleton_self 'p'))).symm
    rw [grepLine, if_pos (decide_eq_true shown)]
    exact replaceAll_head ['p'] [] [digit] (by decide) absent

/-- firstboot takes the disk and the number apart. -/
theorem firstboot_eq (disk : Disk) (number : Nat) (single : number < 10) :
    firstboot (devPath (Partition.name ⟨disk, number⟩)) =
      ⟨devPath disk.name, decimal number⟩ := by
  have once : dropLast1 (devPath (Partition.name ⟨disk, number⟩)) =
      devPath (disk.name ++ disk.separator) := by
    rw [Partition.dropLast1_devPath, Partition.shortened, if_pos single]
  have twice : dropLast2 (devPath (Partition.name ⟨disk, number⟩)) = devPath disk.stem := by
    rw [Partition.dropLast2_devPath, Partition.shortenedTwice, if_pos single]
  have digit : (devPath (Partition.name ⟨disk, number⟩)).getLast?.toList = decimal number := by
    rw [devPath, List.getLast?_append_of_ne_nil _ (Partition.name_ne_nil _), Partition.name,
      List.getLast?_append_of_ne_nil _ (decimal_ne_nil number), decimal_small number single]
    rfl
  unfold firstboot
  rw [digit, once, twice]
  rcases disk.separated_or with separated | ⟨letters, rfl⟩
  · have absent := (devPath_no_s disk number separated).2
    have silent : ¬ grepLine ("sd" : Text) (devPath (Partition.name ⟨disk, number⟩)) = true :=
      fun found => absent ((of_decide_eq_true found).subset (by decide))
    have stem : disk.stem = disk.name := by
      rw [Disk.stem, separated, List.dropLast_concat]
    have named : grepLine ("mmc" : Text) (devPath (Partition.name ⟨disk, number⟩)) = true ∨
        grepLine ("nvme" : Text) (devPath (Partition.name ⟨disk, number⟩)) = true := by
      cases disk with
      | sd letters => cases separated
      | mmcblk index => exact Or.inl (decide_eq_true ⟨("/dev/" : Text), _, rfl⟩)
      | nvme controller ns => exact Or.inr (decide_eq_true ⟨("/dev/" : Text), _, rfl⟩)
    dsimp only
    rw [if_neg silent, if_pos named, stem]
  · have found : grepLine ("sd" : Text)
        (devPath (Partition.name ⟨.sd letters, number⟩)) = true :=
      decide_eq_true ⟨("/dev/" : Text), _, rfl⟩
    dsimp only
    rw [if_pos found, Disk.separator, List.append_nil]

/-- flash.sh: a node that passes the check is the disk's. -/
theorem flashNodes_disk (disk : Disk) (number : Nat) (single : number < 10)
    (passed : dropLast2 (devPath (Partition.name ⟨disk, number⟩)) ∈ flashNodes) :
    dropLast2 (devPath (Partition.name ⟨disk, number⟩)) = devPath disk.name := by
  rw [Partition.dropLast2_devPath, Partition.shortenedTwice, if_pos single] at passed ⊢
  rcases disk.separated_or with separated | ⟨letters, rfl⟩
  · rw [Disk.stem, separated, List.dropLast_concat]
  · exfalso
    have stem : Disk.stem (.sd letters) = ("sd" : Text) ++ letters.letters.dropLast := by
      show (("sd" : Text) ++ letters.letters ++ []).dropLast = _
      rw [List.append_nil, List.dropLast_append_of_ne_nil letters.nonempty]
    have listed : ∀ node ∈ flashNodes, node[5]? = some 'm' := by decide
    rw [stem] at passed
    have letter : some 's' = some 'm' := listed _ passed
    cases letter

/-- A node that `-e` finds in a plain /dev is one of its names. -/
theorem DevTree.mem_devNames (tree : DevTree) (name : Text) (steps : Nat)
    (plain : name ≠ [] ∧ name ≠ ['.'] ∧ name ≠ ['.', '.'])
    (dev : tree.find [("dev" : Text)] = some .directory)
    (found : (tree.walk (steps + 3) [] [[], ("dev" : Text), name]).isSome = true) :
    name ∈ tree.devNames := by
  have first : ¬ (("dev" : Text) = [] ∨ ("dev" : Text) = ['.']) := by decide
  have second : ("dev" : Text) ≠ ['.', '.'] := by decide
  rw [DevTree.walk, if_pos (Or.inl rfl), DevTree.walk, if_neg first, if_neg second,
    List.nil_append, dev] at found
  dsimp only at found
  rw [DevTree.walk, if_neg (not_or.mpr ⟨plain.1, plain.2.1⟩), if_neg plain.2.2] at found
  cases entry : tree.find ([("dev" : Text)] ++ [name]) with
  | none =>
      rw [entry] at found
      cases found
  | some entry' =>
      obtain ⟨before, behind, same, _⟩ := List.lookup_eq_some_iff.mp entry
      apply List.mem_filterMap.mpr
      refine ⟨([("dev" : Text), name], entry'), ?_, ?_⟩
      · rw [same]
        exact List.mem_append_right before List.mem_cons_self
      · exact if_pos rfl

/-- The eMMC's own boot partition is among those flash.sh lists. -/
theorem boot0_listed (tree : DevTree) (MMC : Text) (listed : MMC ∈ flashNodes)
    (dev : tree.find [("dev" : Text)] = some .directory)
    (there : tree.exists (MMC ++ ("boot0" : Text)) = true) :
    ∃ name ∈ tree.devNames.filter matchesBoot0, devPath name = MMC ++ ("boot0" : Text) := by
  have limit : walkLimit = walkLimit - 3 + 3 := rfl
  have parts : ∀ node ∈ flashNodes, components (node ++ ("boot0" : Text)) =
        [[], ("dev" : Text), node.drop 5 ++ ("boot0" : Text)] ∧
      matchesBoot0 (node.drop 5 ++ ("boot0" : Text)) = true ∧
      devPath (node.drop 5 ++ ("boot0" : Text)) = node ++ ("boot0" : Text) ∧
      node.drop 5 ++ ("boot0" : Text) ≠ [] ∧ node.drop 5 ++ ("boot0" : Text) ≠ ['.'] ∧
      node.drop 5 ++ ("boot0" : Text) ≠ ['.', '.'] := by decide
  obtain ⟨split, shown, path, plain⟩ := parts MMC listed
  rw [DevTree.exists, DevTree.resolve, split, limit] at there
  have named := tree.mem_devNames _ _ plain dev there
  exact ⟨_, List.mem_filter.mpr ⟨named, shown⟩, path⟩

/-- One line is one name. -/
theorem boot0Device_eq (tree : DevTree) (own : Text)
    (listed : own ∈ tree.devNames.filter matchesBoot0)
    (single : (tree.devNames.filter matchesBoot0).length ≤ 1) : tree.boot0Device = own := by
  unfold DevTree.boot0Device
  have strip (path : Text) : (devPath path).drop 5 = path := rfl
  simp only [strip, List.map_id']
  cases names : tree.devNames.filter matchesBoot0 with
  | nil =>
      rw [names] at listed
      cases listed
  | cons head tail =>
      rw [names] at listed single
      obtain rfl : tail = [] := by
        rw [List.length_cons] at single
        exact List.length_eq_zero_iff.mp (by omega)
      rw [List.mem_singleton.mp listed]
      exact List.intercalate_singleton

/-- Several are the name of no device. -/
theorem newline_mem_boot0Device (tree : DevTree)
    (several : 1 < (tree.devNames.filter matchesBoot0).length) : '\n' ∈ tree.boot0Device := by
  unfold DevTree.boot0Device
  have strip (path : Text) : (devPath path).drop 5 = path := rfl
  simp only [strip, List.map_id']
  match names : tree.devNames.filter matchesBoot0 with
  | [] | [_] =>
      rw [names] at several
      exact absurd several (by simp)
  | head :: next :: rest =>
      rw [List.intercalate_cons_cons]
      exact List.mem_append_left _ (List.mem_append_right _ (List.mem_singleton_self _))

/-- On a card flash.sh writes to the disk itself only. -/
theorem sd_areas (board : Board) (dir : Flash.Binaries) (command : Flash.Dd)
    (member : command ∈ Flash.flash_sh board .sd dir) : command.area = .user := by
  have areas : ∀ command ∈ Flash.sunxi ++ Flash.amlogic_sd ++ Flash.imx6q ++ Flash.imx8mp ++
      Flash.rockchip_bin ++ Flash.rockchip_parts ++ Flash.samsung .user 1 ++
      Flash.spacemit .user, command.area = .user := by decide
  apply areas
  simp only [List.mem_append]
  simp only [Flash.flash_sh, List.mem_ite_nil_left] at member
  cases family : board.FAMILY <;>
    simp only [family, Flash.Kind.loaders, List.mem_append, List.mem_ite_nil_right,
      List.not_mem_nil] at member <;>
    grind

/-- Past its checks flash.sh has the disk of the running system in `MMC`. -/
theorem flash_sh_ok (board : Board) (DEFAULT_MOTD USER : Text) (DIR : Option Flash.Binaries)
    (SOURCE : Text) (tree : DevTree) (run : FlashRun)
    (passed : flash_sh board DEFAULT_MOTD USER DIR SOURCE tree = .ok run) :
    run.MMC = dropLast2 SOURCE ∧ run.MMC ∈ flashNodes ∧
      run.EMMC = tree.exists (run.MMC ++ ("boot0" : Text)) ∧
      ∃ dir, ((board.BOARD ≠ ("odroidc1" : Text) ∧ board.PETITBOOT = false) ∧
          USER = ("root" : Text) ∧ DIR = some dir) ∧
        run.writes = (Flash.flash_sh board (if run.EMMC then .emmc else .sd) dir).map
          fun command => (flashTarget tree run.MMC command.area, command) := by
  unfold flash_sh at passed
  split at passed
  · cases passed
  · rename_i known
    split at passed
    · cases passed
    · rename_i petitboot
      split at passed
      · cases passed
      · rename_i root
        cases DIR with
        | none => cases passed
        | some dir =>
            dsimp only at passed
            split at passed
            · rename_i listed
              cases passed
              exact ⟨rfl, listed, rfl, dir,
                ⟨⟨known, Bool.eq_false_iff.mpr petitboot⟩, not_not.mp root, rfl⟩, rfl⟩
            · cases passed

/-- The boards and binaries with which flash.sh writes to an eMMC's boot partition. -/
def LoadsBoot0 (board : Board) (dir : Flash.Binaries) : Prop :=
  (board.FAMILY = .samsung ∧ board.BOARD = ("odroidxu4" : Text) ∧ dir.has .bl1 = true ∧
    dir.has .bl2 = true ∧ dir.has .u_boot = true) ∨
  (board.FAMILY = .spacemit ∧ dir.has .bootinfo_emmc = true ∧ dir.has .u_boot = true)

/-- Only these have a command for it. -/
theorem loadsBoot0_iff (board : Board) (dir : Flash.Binaries)
    (supported : board.BOARD ≠ ("odroidc1" : Text) ∧ board.PETITBOOT = false) :
    (∃ command ∈ Flash.flash_sh board .emmc dir, command.area = .boot0) ↔
      LoadsBoot0 board dir := by
  have users : ∀ command ∈ Flash.sunxi ++ Flash.amlogic_emmc ++ Flash.imx6q ++ Flash.imx8mp ++
      Flash.rockchip_bin ++ Flash.rockchip_parts, command.area ≠ .boot0 := by decide
  simp only [List.forall_mem_append] at users
  obtain ⟨⟨⟨⟨⟨sunxi, amlogic⟩, imx6q⟩, imx8mp⟩, bin⟩, parts⟩ := users
  have samsung : ∃ command ∈ Flash.samsung .boot0 0, command.area = .boot0 := by decide
  have spacemit : ∃ command ∈ Flash.spacemit .boot0, command.area = .boot0 := by decide
  unfold LoadsBoot0 Flash.flash_sh
  rw [if_neg (not_or.mpr ⟨supported.1, by rw [supported.2]; exact Bool.false_ne_true⟩)]
  cases family : board.FAMILY <;>
    simp only [Flash.Kind.loaders, List.mem_append, List.mem_ite_nil_right, List.not_mem_nil] <;>
    grind

/-- The devices of a disk: its node, and an eMMC's first boot partition. -/
def Disk.Owns (disk : Disk) (path : Text) : Prop :=
  path = devPath disk.name ∨ path = devPath (disk.name ++ ("boot0" : Text))

/-- Another eMMC, or anything that matches beside the disk's own boot partition: flash.sh
then writes to a path of several lines. -/
structure SeveralBoot0 (disk : Disk) (board : Board) (USER : Text) (DIR : Option Flash.Binaries)
    (tree : DevTree) : Prop where
  supported : board.BOARD ≠ ("odroidc1" : Text) ∧ board.PETITBOOT = false
  root : USER = ("root" : Text)
  loads : ∃ dir, DIR = some dir ∧ LoadsBoot0 board dir
  node : devPath disk.name ∈ flashNodes
  emmc : tree.exists (devPath disk.name ++ ("boot0" : Text)) = true
  several : 1 < (tree.devNames.filter matchesBoot0).length

theorem flash_sh_MMC (disk : Disk) (number : Nat) (single : number < 10) (board : Board)
    (DEFAULT_MOTD USER : Text) (DIR : Option Flash.Binaries) (tree : DevTree) (run : FlashRun)
    (passed : flash_sh board DEFAULT_MOTD USER DIR (devPath (Partition.name ⟨disk, number⟩)) tree =
      .ok run) : run.MMC = devPath disk.name := by
  obtain ⟨MMC, listed, -, -⟩ := flash_sh_ok _ _ _ _ _ _ _ passed
  rw [MMC] at listed ⊢
  exact flashNodes_disk disk number single listed

/-- With one node that matches, every device flash.sh writes to is the disk's. -/
theorem flash_sh_writes (disk : Disk) (number : Nat) (single : number < 10) (board : Board)
    (DEFAULT_MOTD USER : Text) (DIR : Option Flash.Binaries) (tree : DevTree)
    (dev : tree.find [("dev" : Text)] = some .directory)
    (alone : ¬ SeveralBoot0 disk board USER DIR tree) (run : FlashRun)
    (passed : flash_sh board DEFAULT_MOTD USER DIR (devPath (Partition.name ⟨disk, number⟩)) tree =
      .ok run) (write : Text × Flash.Dd) (member : write ∈ run.writes) :
    disk.Owns write.1 := by
  have own := flash_sh_MMC disk number single _ _ _ _ _ _ passed
  obtain ⟨-, listed, EMMC, dir, ⟨supported, root, there⟩, writes⟩ :=
    flash_sh_ok _ _ _ _ _ _ _ passed
  rw [writes] at member
  obtain ⟨command, commands, rfl⟩ := List.mem_map.mp member
  cases area : command.area with
  | user =>
      left
      exact own
  | boot0 =>
      right
      have emmc : run.EMMC = true := by
        cases kind : run.EMMC with
        | true => rfl
        | false =>
            rw [kind] at commands
            have plain := sd_areas board dir command commands
            rw [area] at plain
            cases plain
      have exists' : tree.exists (run.MMC ++ ("boot0" : Text)) = true := EMMC ▸ emmc
      obtain ⟨name, names, path⟩ := boot0_listed tree run.MMC listed dev exists'
      rw [own] at path listed exists'
      have named : name = disk.name ++ ("boot0" : Text) := by
        rwa [← devPath_injective, devPath, devPath, ← List.append_assoc]
      rw [emmc, if_pos rfl] at commands
      have loads := (loadsBoot0_iff board dir supported).mp ⟨command, commands, area⟩
      have one : (tree.devNames.filter matchesBoot0).length ≤ 1 := by
        by_contra several
        exact alone ⟨supported, root, ⟨dir, there, loads⟩, listed, exists', by omega⟩
      show devPath tree.boot0Device = _
      rw [boot0Device_eq tree name names one, named]

/-- With several it writes to a path that is none of its devices. -/
theorem flash_sh_astray (disk : Disk) (number : Nat) (single : number < 10) (board : Board)
    (DEFAULT_MOTD USER : Text) (DIR : Option Flash.Binaries) (tree : DevTree)
    (several : SeveralBoot0 disk board USER DIR tree) : ∃ run,
      flash_sh board DEFAULT_MOTD USER DIR (devPath (Partition.name ⟨disk, number⟩)) tree =
        .ok run ∧ ∃ write ∈ run.writes, ¬ disk.Owns write.1 := by
  obtain ⟨supported, root, ⟨dir, there, loads⟩, node, emmc, many⟩ := several
  have MMC : dropLast2 (devPath (Partition.name ⟨disk, number⟩)) = devPath disk.name := by
    rw [Partition.dropLast2_devPath, Partition.shortenedTwice, if_pos single]
    rcases disk.separated_or with separated | ⟨letters, rfl⟩
    · rw [Disk.stem, separated, List.dropLast_concat]
    · have listed : ∀ node ∈ flashNodes, node[5]? = some 'm' := by decide
      have letter : some 's' = some 'm' := listed _ node
      cases letter
  obtain ⟨command, commands, area⟩ := (loadsBoot0_iff board dir supported).mpr loads
  refine ⟨⟨devPath disk.name, true, (Flash.flash_sh board .emmc dir).map fun command =>
    (flashTarget tree (devPath disk.name) command.area, command)⟩, ?_, ?_⟩
  · unfold flash_sh
    rw [if_neg supported.1, supported.2, if_neg Bool.false_ne_true, if_neg (by simp [root]), there]
    dsimp only
    rw [MMC, if_pos node, emmc]
    rfl
  · refine ⟨_, List.mem_map_of_mem commands, ?_⟩
    show ¬ disk.Owns (flashTarget tree (devPath disk.name) command.area)
    rw [area]
    have newline : '\n' ∈ devPath tree.boot0Device :=
      List.mem_append_right _ (newline_mem_boot0Device tree many)
    have nodes : ∀ node ∈ flashNodes, '\n' ∉ node := by decide
    have line := nodes _ node
    rintro (same | same)
    · exact line (same ▸ newline)
    · have inside : '\n' ∈ devPath (disk.name ++ ("boot0" : Text)) := same ▸ newline
      rw [devPath, ← List.append_assoc] at inside
      rcases List.mem_append.mp inside with inside | inside
      · exact line inside
      · exact absurd inside (by decide)

theorem rootfs_node (disk : Disk) (P_VALUE : Scheme) :
    devPath disk.name ++ P_ROOTFS P_VALUE [devPath disk.name] =
      devPath (Partition.name ⟨disk, rootNumber P_VALUE⟩) := by
  have one : decimal 1 = ['1'] := rfl
  have two : decimal 2 = ['2'] := rfl
  rw [devPath, devPath, List.append_assoc, Partition.name, List.append_assoc, ← devPath]
  cases P_VALUE with
  | p1 =>
      show _ ++ (_ ++ partitionSuffix [devPath disk.name] ['p', '1']) = _
      rw [partitionSuffix_eq disk '1' (by decide), rootNumber, one]
  | p2 =>
      show _ ++ (_ ++ partitionSuffix [devPath disk.name] ['p', '2']) = _
      rw [partitionSuffix_eq disk '2' (by decide), rootNumber, two]

/-- The suffix of a boot partition is that of a root partition that stands alone. -/
theorem boot_node (disk : Disk) : ∃ BOOT, P_BOOT .p2 [devPath disk.name] = some BOOT ∧
    devPath disk.name ++ BOOT = devPath (Partition.name ⟨disk, 1⟩) :=
  ⟨P_ROOTFS .p1 [devPath disk.name], rfl, rootfs_node disk .p1⟩

/-- write2mmc makes file systems on the composed nodes only. -/
theorem write2mmc_makes (now later : Shell) (board : Board) (choices : Choices)
    (DEVICE_NODE : Text) (commands : List DiskCommand)
    (run : write2mmcPartition now later board choices DEVICE_NODE = .ok commands)
    (maker : Text) (words : List Text) (member : .mkfs maker words ∈ commands) :
    let shown := now.ls (now.arguments DEVICE_NODE)
    ∃ P_VALUE, words = later.arguments (DEVICE_NODE ++ P_ROOTFS P_VALUE shown) ∨
      ∃ BOOT, P_BOOT P_VALUE shown = some BOOT ∧ words = later.arguments (DEVICE_NODE ++ BOOT) := by
  rcases write2mmcPartition_cases now later board choices DEVICE_NODE commands run with
    ⟨-, _, _, rfl⟩ | ⟨_, _, _, _, _, _, _, -, rfl⟩
  · rcases early_one _ _ _ _ _ _ _ _ member with ⟨early, -⟩ | ⟨-, made⟩
    · cases early
    · cases made
      exact ⟨.p1, Or.inl rfl⟩
  · rcases early_two _ _ _ _ _ _ _ _ _ _ _ _ _ member with ⟨early, -⟩ | ⟨-, boot | root⟩
    · cases early
    · cases boot
      exact ⟨.p2, Or.inr ⟨_, rfl, rfl⟩⟩
    · cases root
      exact ⟨.p2, Or.inl rfl⟩

/-- What write2mmc composes firstboot takes apart, and flash.sh refuses to write or
reaches no other disk. -/
structure SplitUndone (disk : Disk) (P_VALUE : Scheme) (board : Board) (DEFAULT_MOTD USER : Text)
    (DIR : Option Flash.Binaries) (tree : DevTree) : Prop where
  boot : P_VALUE = .p2 → ∃ BOOT, P_BOOT P_VALUE [devPath disk.name] = some BOOT ∧
    devPath disk.name ++ BOOT = devPath (Partition.name ⟨disk, 1⟩)
  rootfs : devPath disk.name ++ P_ROOTFS P_VALUE [devPath disk.name] =
    devPath (Partition.name ⟨disk, rootNumber P_VALUE⟩)
  grown : ∀ number, number = 1 ∨ number = 2 →
    firstboot (devPath (Partition.name ⟨disk, number⟩)) = ⟨devPath disk.name, decimal number⟩
  flashed : ∀ number, number = 1 ∨ number = 2 → ∀ run,
    flash_sh board DEFAULT_MOTD USER DIR (devPath (Partition.name ⟨disk, number⟩)) tree =
      .ok run → run.MMC = devPath disk.name ∧ ∀ write ∈ run.writes, disk.Owns write.1

theorem not_undone_of_several (disk : Disk) (P_VALUE : Scheme) (board : Board)
    (DEFAULT_MOTD USER : Text) (DIR : Option Flash.Binaries) (tree : DevTree)
    (several : SeveralBoot0 disk board USER DIR tree) :
    ¬ SplitUndone disk P_VALUE board DEFAULT_MOTD USER DIR tree := by
  intro undone
  obtain ⟨run, passed, write, member, astray⟩ :=
    flash_sh_astray disk 1 (by decide) board DEFAULT_MOTD USER DIR tree several
  exact astray ((undone.flashed 1 (Or.inl rfl) run passed).2 write member)

/-- The split is undone unless several nodes have the name of a boot partition that
flash.sh writes to. -/
theorem splitUndone_iff (disk : Disk) (P_VALUE : Scheme) (board : Board)
    (DEFAULT_MOTD USER : Text) (DIR : Option Flash.Binaries) (tree : DevTree)
    (dev : tree.find [("dev" : Text)] = some .directory) :
    SplitUndone disk P_VALUE board DEFAULT_MOTD USER DIR tree ↔
      ¬ SeveralBoot0 disk board USER DIR tree := by
  constructor
  · intro undone several
    exact not_undone_of_several disk P_VALUE board DEFAULT_MOTD USER DIR tree several undone
  · intro alone
    have single (number : Nat) (created : number = 1 ∨ number = 2) : number < 10 := by omega
    constructor
    case boot =>
      rintro rfl
      exact boot_node disk
    case rootfs => exact rootfs_node disk P_VALUE
    case grown => exact fun number created => firstboot_eq disk number (single number created)
    case flashed =>
      intro number created run passed
      have small := single number created
      exact ⟨flash_sh_MMC disk number small _ _ _ _ _ _ passed,
        flash_sh_writes disk number small board DEFAULT_MOTD USER DIR tree dev alone run passed⟩

/-- The card of the running board has no boot partition of an eMMC. -/
theorem card_split : SplitUndone (.mmcblk 0) .p2 lepotato ("Le Potato" : Text) ("root" : Text)
    (some (Flash.uniform lepotato [1])) runningFromCard.tree :=
  (splitUndone_iff (.mmcblk 0) .p2 lepotato ("Le Potato" : Text) ("root" : Text)
    (some (Flash.uniform lepotato [1])) runningFromCard.tree rfl).mpr
    fun several => absurd several.several (by decide +kernel)

/-- An Odroid XU4 that runs from one eMMC beside another. -/
def besideOther : DevTree :=
  ⟨[([], .directory), ([("dev" : Text)], .directory),
    ([("dev" : Text), ("mmcblk0" : Text)], .node (.whole (.mmcblk 0))),
    ([("dev" : Text), ("mmcblk0boot0" : Text)], .node (.other ("mmcblk0boot0" : Text))),
    ([("dev" : Text), ("mmcblk0p1" : Text)], .node (.part ⟨.mmcblk 0, 1⟩)),
    ([("dev" : Text), ("mmcblk0p2" : Text)], .node (.part ⟨.mmcblk 0, 2⟩)),
    ([("dev" : Text), ("mmcblk1boot0" : Text)], .node (.other ("mmcblk1boot0" : Text)))]⟩

/-- flash.sh writes its loaders to a path of two lines. -/
theorem second_emmc_astray : ¬ SplitUndone (.mmcblk 0) .p2 Flash.odroidxu4 ("Odroid XU4" : Text)
    ("root" : Text) (some (Flash.uniform Flash.odroidxu4 [1])) besideOther := by
  apply not_undone_of_several
  exact ⟨by decide +kernel, rfl,
    ⟨_, rfl, Or.inl ⟨rfl, rfl, by decide +kernel, by decide +kernel, by decide +kernel⟩⟩,
    by decide +kernel, by decide +kernel, by decide +kernel⟩

end ImageBuilder.Device
