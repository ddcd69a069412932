import ImageBuilder.Medium
import ImageBuilder.Partitioning

set_option autoImplicit false

/- The three flashers of U-Boot: the image builder's flash_uboot of each family,
write2mmc's and the package's flash.sh, as the `dd` commands they run. -/
namespace ImageBuilder.Flash

open PlainText Medium

/-- The boot binaries the flashers name. -/
inductive Binary
  | u_boot_sunxi_with_spl
  | sploader
  | u_boot
  | u_boot_sd
  | u_boot_rockchip
  | idbloader
  | bl1
  | bl2
  | tzsw
  | bootinfo_emmc
  | FSBL
  | fw_dynamic
  deriving DecidableEq

/-- The disk itself and the eMMC's boot partition. -/
inductive Area
  | user
  | boot0
  deriving DecidableEq

abbrev Dd := Copy Binary Area

/-- The binaries of one directory, those that are there. -/
abbrev Binaries := Binary → Option Bytes

def Binaries.has (dir : Binaries) (binary : Binary) : Bool := (dir binary).isSome

/-- `dd if=binary of=device bs= seek=` -/
def dd (binary : Binary) (bs seek : Nat) : Dd := { infile := some binary, area := .user, bs, seek }

/-- The last command of every samsung list: 32 blocks of zeros. -/
def dd_zero (area : Area) : Dd :=
  { infile := none, area, bs := 512, seek := 2015, count := some 32 }

def sunxi : List Dd := [dd .u_boot_sunxi_with_spl 1024 8]

def imx6q : List Dd :=
  [{ dd .sploader 1024 1 with sync := true }, { dd .u_boot 1024 69 with sync := true }]

def imx8mp : List Dd := [dd .u_boot 1024 32]

def amlogic_emmc : List Dd := [dd .u_boot 512 1]

/-- The first 442 bytes, then everything behind the first sector. -/
def amlogic_sd : List Dd :=
  [{ dd .u_boot_sd 1 0 with count := some 442 }, { dd .u_boot_sd 512 1 with skip := 1 }]

def rockchip_bin : List Dd := [dd .u_boot_rockchip 512 64]

def rockchip_parts : List Dd := [dd .idbloader 512 64, dd .u_boot 512 16384]

/-- The samsung binaries, with the sector each list starts at. -/
def samsung (area : Area) (first : Nat) : List Dd :=
  [{ dd .bl1 512 first with area }, { dd .bl2 512 (first + 30) with area },
    { dd .u_boot 512 (first + 62) with area }, { dd .tzsw 512 (first + 1502) with area },
    dd_zero area]

/-- The loaders of spacemit go to `area`, the rest always to the disk. -/
def spacemit (area : Area) : List Dd :=
  [{ dd .bootinfo_emmc 512 0 with area }, { dd .FSBL 512 1 with area }, dd .fw_dynamic 512 1280,
    dd .u_boot 512 2048]

/-- lib/function/$FAMILY. The amlogic test compares two constants, so the value
that AML_EMMC gets just before it is never looked at. -/
def builder_flash_uboot (board : Board) : List Dd :=
  match board.FAMILY with
  | .allwinner => sunxi
  | .amlogic => if ("AML_EMMC" : Text) = ("true" : Text) then amlogic_emmc else amlogic_sd
  | .freescale =>
      (if board.SERIES = ("imx6q" : Text) then imx6q else []) ++
      (if board.SERIES = ("imx8mp" : Text) then imx8mp else [])
  | .rockchip => if board.UBOOT_RK_BIN then rockchip_bin else rockchip_parts
  | .samsung => samsung .user 1
  | .spacemit => if board.FAMILY_EXT = ("spacemit-k1" : Text) then spacemit .user else []
  | .generic | .broadcom => []

/-- What is flashed: an SD card or an eMMC. -/
inductive Kind
  | sd
  | emmc
  deriving DecidableEq

/-- Where an eMMC keeps its first loaders. -/
def Kind.loaders : Kind → Area
  | .sd => .user
  | .emmc => .boot0

/-- write2mmc; it is not called for the generic family. -/
def write2mmc_flash_uboot (board : Board) (kind : Kind) (dir : Binaries) : List Dd :=
  match board.FAMILY with
  | .allwinner => sunxi
  | .freescale =>
      (if board.SERIES = ("imx6q" : Text) then imx6q else []) ++
      (if board.SERIES = ("imx8mp" : Text) then imx8mp else [])
  | .amlogic =>
      match kind with
      | .emmc => amlogic_emmc
      | .sd => amlogic_sd
  | .rockchip =>
      (if dir.has .u_boot_rockchip then rockchip_bin else []) ++
      (if dir.has .idbloader && dir.has .u_boot then rockchip_parts else [])
  | .samsung => samsung kind.loaders 0
  | .spacemit => if board.SERIES = ("k1" : Text) then spacemit kind.loaders else []
  | .generic | .broadcom => []

/-- flash.sh; where the source forgets `-f` before a path, the test is true. -/
def flash_sh (board : Board) (kind : Kind) (dir : Binaries) : List Dd :=
  if board.BOARD = ("odroidc1" : Text) ∨ board.PETITBOOT = true then []
  else match board.FAMILY with
  | .allwinner => if dir.has .u_boot_sunxi_with_spl then sunxi else []
  | .amlogic =>
      match kind with
      | .emmc => if dir.has .u_boot then amlogic_emmc else []
      | .sd => if dir.has .u_boot_sd then amlogic_sd else []
  | .freescale =>
      (if board.ARCH = .arm ∧ dir.has .sploader ∧ dir.has .u_boot then imx6q else []) ++
      (if board.ARCH = .arm64 ∧ dir.has .u_boot then imx8mp else [])
  | .rockchip =>
      (if dir.has .u_boot_rockchip then rockchip_bin else []) ++
      (if dir.has .idbloader && dir.has .u_boot then rockchip_parts else [])
  | .samsung =>
      if board.BOARD = ("odroidxu4" : Text) ∧ dir.has .bl1 ∧ dir.has .bl2 ∧ dir.has .u_boot then
        match kind with
        | .emmc => samsung .boot0 0
        | .sd => samsung .user 1
      else []
  | .spacemit =>
      if dir.has .bootinfo_emmc && dir.has .u_boot then spacemit kind.loaders else []
  | .generic | .broadcom => []

/-- The binaries a board's u-boot package holds, of those the flashers name. -/
def uboot_packaging (board : Board) : List Binary :=
  match board.FAMILY with
  | .allwinner => [.u_boot_sunxi_with_spl]
  | .amlogic => [.u_boot, .u_boot_sd]
  | .freescale =>
      match board.ARCH with
      | .arm => [.sploader, .u_boot]
      | .arm64 => [.u_boot]
      | _ => []
  | .rockchip => if board.UBOOT_RK_BIN then [.u_boot_rockchip] else [.idbloader, .u_boot]
  | .samsung =>
      .u_boot :: if board.BOARD = ("odroidxu4" : Text) then [.bl1, .bl2, .tzsw] else []
  | .spacemit =>
      if board.FAMILY_EXT = ("spacemit-k1" : Text) then [.bootinfo_emmc, .FSBL, .fw_dynamic, .u_boot]
      else if board.FAMILY_EXT = ("spacemit-k3" : Text) then [.FSBL, .fw_dynamic, .u_boot]
      else []
  | .generic | .broadcom => []

/-- What holds of every board file in lib/boards that flashes U-Boot. -/
structure Supported (board : Board) : Prop where
  petitboot : board.PETITBOOT = false
  odroidc1 : board.BOARD ≠ ("odroidc1" : Text)
  offset : board.OFFSET ∈ boardOffsets
  gpt : board.GPT = true → board.FAMILY = .generic ∨ board.FAMILY = .rockchip ∨
    (board.FAMILY = .spacemit ∧ board.SERIES = ("k3" : Text))
  picoitx : board.BOARD = ("picoitx" : Text) →
    board.FAMILY = .spacemit ∧ board.SERIES = ("k3" : Text)
  freescale : board.FAMILY = .freescale →
    (board.SERIES = ("imx6q" : Text) ∧ board.ARCH = .arm) ∨
    (board.SERIES = ("imx8mp" : Text) ∧ board.ARCH = .arm64)
  samsung : board.FAMILY = .samsung → board.BOARD = ("odroidxu4" : Text)
  spacemit : board.FAMILY = .spacemit → board.FAMILY_EXT = ("spacemit-" : Text) ++ board.SERIES ∧
    (board.SERIES = ("k1" : Text) ∨ board.SERIES = ("k3" : Text))

/-- The package's directory: the packaged binaries and no other. -/
def Packaged (board : Board) (dir : Binaries) : Prop :=
  ∀ binary, dir.has binary = true ↔ binary ∈ uboot_packaging board

/-- The three programs, the last two for either kind of device. -/
inductive Flasher
  | builder
  | write2mmc (kind : Kind)
  | flash_sh (kind : Kind)
  deriving DecidableEq

def Flasher.commands (flasher : Flasher) (board : Board) (dir : Binaries) : List Dd :=
  match flasher with
  | .builder => builder_flash_uboot board
  | .write2mmc kind => write2mmc_flash_uboot board kind dir
  | .flash_sh kind => Flash.flash_sh board kind dir

/-- Whether the disk has a GPT. flash.sh finds what one of the others made. -/
def Flasher.tables (flasher : Flasher) (board : Board) : List Bool :=
  match flasher with
  | .builder => [board.GPT]
  | .write2mmc _ => [Device.write2mmcGPT board]
  | .flash_sh _ => [board.GPT, Device.write2mmcGPT board]

/-- The one list that starts the samsung loader in the first sector of the disk. -/
def Flasher.WritesSectorZero (flasher : Flasher) (board : Board) : Prop :=
  flasher = .write2mmc .sd ∧ board.FAMILY = .samsung

/-- Every command of the other lists. -/
def otherCommands : List Dd :=
  sunxi ++ imx6q ++ imx8mp ++ amlogic_emmc ++ amlogic_sd ++ rockchip_bin ++ rockchip_parts ++
    samsung .user 1 ++ samsung .boot0 0 ++ spacemit .user ++ spacemit .boot0

/-- AML_EMMC never comes into it. -/
theorem builder_amlogic (board : Board) (family : board.FAMILY = .amlogic) :
    builder_flash_uboot board = amlogic_sd := by
  have constants : ("AML_EMMC" : Text) ≠ ("true" : Text) := by decide
  simp only [builder_flash_uboot, family, constants, ↓reduceIte]

theorem commands_cases (flasher : Flasher) (board : Board) (dir : Binaries) (copy : Dd)
    (member : copy ∈ flasher.commands board dir) : copy ∈ otherCommands ∨
      flasher.WritesSectorZero board ∧ copy ∈ samsung .user 0 := by
  have constants : ("AML_EMMC" : Text) ≠ ("true" : Text) := by decide
  unfold otherCommands Flasher.WritesSectorZero
  simp only [List.mem_append]
  cases flasher with
  | builder =>
      simp only [Flasher.commands, builder_flash_uboot, constants, ↓reduceIte] at member
      cases family : board.FAMILY <;>
        simp only [family, List.mem_append, List.mem_ite_nil_right, List.not_mem_nil] at member <;>
        grind
  | write2mmc kind =>
      simp only [Flasher.commands, write2mmc_flash_uboot] at member
      cases family : board.FAMILY <;> cases kind <;>
        simp only [family, Kind.loaders, List.mem_append, List.mem_ite_nil_right,
          List.not_mem_nil] at member <;>
        grind
  | flash_sh kind =>
      simp only [Flasher.commands, Flash.flash_sh, List.mem_ite_nil_left] at member
      cases family : board.FAMILY <;> cases kind <;>
        simp only [family, Kind.loaders, List.mem_append, List.mem_ite_nil_right,
          List.not_mem_nil] at member <;>
        grind

theorem command_shape : ∀ copy ∈ otherCommands ++ samsung .user 0,
    (copy.bs = 1 ∨ copy.bs = 512 ∨ copy.bs = 1024) ∧
    (copy.infile = none → copy.count = some 32 ∧ copy.bs = 512 ∧ copy.seek = 2015 ∧
      copy.sync = false) ∧
    (copy.sync = true → copy.bs = 1024) := by
  decide

/-- In the first sector of the disk the other lists have the first part of the amlogic
loader, which ends at byte 442, and the bootinfo. -/
theorem sector_zero : ∀ copy ∈ otherCommands, copy.area = .user →
    512 ≤ copy.seek * copy.bs ∨ copy.seek = 0 ∧ copy.sync = false ∧
      (copy.bs = 1 ∧ copy.count = some 442 ∨
        copy.skip = 0 ∧ copy.count = none ∧ copy.infile = some .bootinfo_emmc) := by
  decide

/-- Each binary ends before the first partition, and the bootinfo before the
partition entries; the programs check neither. -/
structure Fits (flasher : Flasher) (board : Board) (dir : Binaries) : Prop where
  before_offset : ∀ copy ∈ flasher.commands board dir, ∀ binary bytes,
    copy.infile = some binary → dir binary = some bytes →
      copy.seek * copy.bs + (bytes.length - copy.skip * copy.bs) ≤ board.OFFSET.bytes
  bootinfo : ∀ bytes, dir .bootinfo_emmc = some bytes → bytes.length ≤ 440

/-- The offsets are whole blocks of every size used, and beyond the zeros. -/
theorem offset_blocks (offset : Offset) (used : offset ∈ boardOffsets) :
    1024 ∣ offset.bytes ∧ 2 ^ 20 ≤ offset.bytes := by
  revert offset
  decide

theorem blocks_room (seek blocks length zeros : Nat)
    (padded : length + zeros ≤ (blocks - seek) * 1024) (inside : seek * 1024 ≤ 1024 * blocks) :
    seek * 1024 + length + zeros ≤ 1024 * blocks := by
  have fits : seek ≤ blocks := by
    clear padded
    omega
  clear inside
  omega

theorem ends_before_offset (flasher : Flasher) (board : Board) (dir : Binaries)
    (supported : Supported board) (fits : Fits flasher board dir) (copy : Dd)
    (member : copy ∈ flasher.commands board dir) (input : Bytes)
    (read : copy.input dir = some input) :
    copy.seek * copy.bs + (copy.part input).length + (copy.padding (copy.part input)).length ≤
      board.OFFSET.bytes := by
  have listed : copy ∈ otherCommands ++ samsung .user 0 :=
    List.mem_append.mpr ((commands_cases flasher board dir copy member).imp_right And.right)
  obtain ⟨sizes, zeros, synced⟩ := command_shape copy listed
  obtain ⟨⟨blocks, whole⟩, megabyte⟩ := offset_blocks board.OFFSET supported.offset
  cases source : copy.infile with
  | none =>
      obtain ⟨counted, size, place, plain⟩ := zeros source
      have short := part_length_le_count copy input 32 counted
      rw [padding_none copy plain, size] at *
      rw [place, List.length_nil]
      omega
  | some binary =>
      simp only [Copy.input, source] at read
      have inside := fits.before_offset copy member binary input source read
      have short := part_length_le copy input
      cases plain : copy.sync with
      | false =>
          rw [padding_none copy plain, List.length_nil]
          omega
      | true =>
          have size := synced plain
          have room : (copy.part input).length ≤ (blocks - copy.seek) * copy.bs := by
            rw [size] at inside short ⊢
            omega
          have padded := padded_le copy (copy.part input) (blocks - copy.seek) (by omega) room
          rw [size] at padded inside ⊢
          rw [whole] at inside ⊢
          exact blocks_room _ blocks _ _ padded (Nat.le_of_add_right_le inside)

/-- Only these families have a GPT. -/
theorem gpt_family (flasher : Flasher) (board : Board) (supported : Supported board)
    (gpt : true ∈ flasher.tables board) : board.FAMILY = .generic ∨ board.FAMILY = .rockchip ∨
      (board.FAMILY = .spacemit ∧ board.SERIES = ("k3" : Text)) := by
  have created : board.GPT = true ∨ Device.write2mmcGPT board = true := by
    cases flasher <;> simp only [Flasher.tables, List.mem_cons, List.not_mem_nil, or_false] at gpt
    · exact Or.inl gpt.symm
    · exact Or.inr gpt.symm
    · exact gpt.imp Eq.symm Eq.symm
  rcases created with declared | written
  · exact supported.gpt declared
  · simp only [Device.write2mmcGPT, Bool.or_eq_true, List.contains_iff_mem, List.mem_cons,
      List.not_mem_nil, or_false, beq_iff_eq] at written
    rcases written with (generic | rockchip) | picoitx
    · exact Or.inl generic
    · exact Or.inr (Or.inl rockchip)
    · exact Or.inr (Or.inr (supported.picoitx picoitx))

theorem spacemit_ext (board : Board) (supported : Supported board)
    (family : board.FAMILY = .spacemit) (series : Text) :
    board.FAMILY_EXT = ("spacemit-" : Text) ++ series ↔ board.SERIES = series := by
  rw [(supported.spacemit family).1, List.append_cancel_left_eq]

/-- On a GPT disk nothing but the rockchip loaders is written. -/
theorem gpt_commands (flasher : Flasher) (board : Board) (dir : Binaries)
    (supported : Supported board) (packaged : Packaged board dir)
    (gpt : true ∈ flasher.tables board) (copy : Dd)
    (member : copy ∈ flasher.commands board dir) : copy ∈ rockchip_bin ++ rockchip_parts := by
  rw [List.mem_append]
  rcases gpt_family flasher board supported gpt with family | family | ⟨family, series⟩
  · cases flasher <;>
      simp only [Flasher.commands, builder_flash_uboot, write2mmc_flash_uboot, Flash.flash_sh,
        family, ite_self, List.not_mem_nil] at member
  · cases flasher <;>
      simp only [Flasher.commands, builder_flash_uboot, write2mmc_flash_uboot, Flash.flash_sh,
        family, List.mem_append, List.mem_ite_nil_right, List.mem_ite_nil_left] at member <;>
      grind
  · have k3 : ("k3" : Text) ≠ ("k1" : Text) := by decide
    have ext : board.FAMILY_EXT ≠ ("spacemit-k1" : Text) := fun same =>
      k3 (series ▸ (spacemit_ext board supported family ("k1" : Text)).mp same)
    have absent : dir.has .bootinfo_emmc = false := by
      rw [← Bool.not_eq_true, packaged]
      simp only [uboot_packaging, family, ext, ↓reduceIte]
      split <;> simp
    cases flasher <;>
      simp only [Flasher.commands, builder_flash_uboot, write2mmc_flash_uboot, Flash.flash_sh,
        family, series, k3, ext, absent, Bool.false_and, Bool.false_eq_true, ↓reduceIte, ite_self,
        List.not_mem_nil] at member

/-- What flashing leaves alone: the partition entries and the signature of an
msdos disk, the primary GPT of a GPT disk, and everything from OFFSET on. -/
structure Intact (flasher : Flasher) (board : Board) (before after : Contents Area) : Prop where
  mbr : false ∈ flasher.tables board → ∀ i, 446 ≤ i → i ≤ 511 → after .user i = before .user i
  gpt : true ∈ flasher.tables board → ∀ i, 512 ≤ i → i < 34 * 512 →
    after .user i = before .user i
  partitions : ∀ i, board.OFFSET.bytes ≤ i → after .user i = before .user i

theorem mbr_kept (flasher : Flasher) (board : Board) (dir : Binaries)
    (fits : Fits flasher board dir) (other : ¬ flasher.WritesSectorZero board)
    (before : Contents Area) (i : Nat) (lower : 446 ≤ i) (upper : i ≤ 511) :
    flash dir (flasher.commands board dir) before .user i = before .user i := by
  refine flash_frame _ _ _ _ _ fun copy member input read disk => ?_
  have listed := (commands_cases flasher board dir copy member).resolve_right
    fun zero => other zero.1
  rcases sector_zero copy listed disk with later | ⟨start, plain, ⟨size, counted⟩ |
    ⟨skipped, whole, source⟩⟩
  · exact Or.inl (by omega)
  · have short := part_length_le_count copy input 442 counted
    right
    rw [start, size, padding_none copy plain, List.length_nil]
    rw [size] at short
    omega
  · have short := fits.bootinfo input (by simpa only [Copy.input, source] using read)
    right
    rw [start, part_all copy input whole skipped, padding_none copy plain, List.length_nil]
    omega

theorem gpt_kept (flasher : Flasher) (board : Board) (dir : Binaries)
    (supported : Supported board) (packaged : Packaged board dir)
    (gpt : true ∈ flasher.tables board) (before : Contents Area) (i : Nat)
    (upper : i < 34 * 512) :
    flash dir (flasher.commands board dir) before .user i = before .user i := by
  have far : ∀ copy ∈ rockchip_bin ++ rockchip_parts, 34 * 512 ≤ copy.seek * copy.bs := by decide
  refine flash_frame _ _ _ _ _ fun copy member input read _ => Or.inl ?_
  have start := far copy (gpt_commands flasher board dir supported packaged gpt copy member)
  omega

theorem partitions_kept (flasher : Flasher) (board : Board) (dir : Binaries)
    (supported : Supported board) (fits : Fits flasher board dir) (before : Contents Area)
    (i : Nat) (lower : board.OFFSET.bytes ≤ i) :
    flash dir (flasher.commands board dir) before .user i = before .user i := by
  refine flash_frame _ _ _ _ _ fun copy member input read _ => Or.inr ?_
  have inside := ends_before_offset flasher board dir supported fits copy member input read
  omega

/-- write2mmc's samsung list puts the first loader into sector 0. -/
theorem samsung_zero_cell (dir : Binaries) (before : Contents Area) (i : Nat) (first : i < 512) :
    flash dir (samsung .user 0) before .user i =
      ((dir .bl1).bind fun bytes => bytes[i]?).getD (before .user i) := by
  have later : ∀ copy ∈ (samsung .user 0).tail, 512 ≤ copy.seek * copy.bs := by decide
  have split : samsung .user 0 = { dd .bl1 512 0 with area := Area.user } ::
      (samsung .user 0).tail := rfl
  have loader := flash_file dir { dd .bl1 512 0 with area := Area.user } before .bl1 rfl rfl rfl
    rfl i (Nat.zero_le i)
  rw [split, flash_cons, flash_frame]
  · exact loader
  · intro copy member input read _
    have start := later copy member
    omega

theorem zero_tables (flasher : Flasher) (board : Board) (supported : Supported board)
    (zero : flasher.WritesSectorZero board) : flasher.tables board = [false] := by
  obtain ⟨rfl, family⟩ := zero
  have notGpt : ¬ true ∈ Flasher.tables (.write2mmc .sd) board := fun gpt => by
    rcases gpt_family _ board supported gpt with other | other | ⟨other, _⟩ <;>
      rw [family] at other <;> cases other
  simp only [Flasher.tables, List.mem_cons, List.not_mem_nil, or_false] at notGpt ⊢
  rw [eq_comm, Bool.not_eq_true] at notGpt
  rw [notGpt]

/-- Flashing leaves the tables and the partitions alone, except that write2mmc
writes the samsung loader over the table of an SD card, where it survives only
if the loader happens to hold it already. -/
theorem intact_iff (flasher : Flasher) (board : Board) (dir : Binaries) (before : Contents Area)
    (supported : Supported board) (packaged : Packaged board dir)
    (fits : Fits flasher board dir) :
    Intact flasher board before (flash dir (flasher.commands board dir) before) ↔
      (flasher.WritesSectorZero board → ∀ bytes, dir .bl1 = some bytes →
        ∀ i, 446 ≤ i → i ≤ 511 → ∀ byte, bytes[i]? = some byte → before .user i = byte) := by
  by_cases zero : flasher.WritesSectorZero board
  · have tables := zero_tables flasher board supported zero
    obtain ⟨rfl, family⟩ := id zero
    have commands : Flasher.commands (.write2mmc .sd) board dir = samsung .user 0 := by
      simp only [Flasher.commands, write2mmc_flash_uboot, family, Kind.loaders]
    constructor
    · intro intact _ bytes found i lower upper byte there
      have kept := intact.mbr (tables ▸ List.mem_singleton_self false) i lower upper
      rw [commands, samsung_zero_cell dir before i (by omega), found, Option.bind_some,
        there, Option.getD_some] at kept
      exact kept.symm
    · intro same
      refine ⟨fun _ i lower upper => ?_, fun gpt => ?_, ?_⟩
      · rw [commands, samsung_zero_cell dir before i (by omega)]
        cases found : dir .bl1 with
        | none => rfl
        | some bytes =>
            rw [Option.bind_some]
            cases there : bytes[i]? with
            | none => rfl
            | some byte => exact (same zero bytes found i lower upper byte there).symm
      · rw [tables] at gpt
        cases List.mem_singleton.mp gpt
      · exact partitions_kept _ board dir supported fits before
  · refine iff_of_true ⟨fun _ => ?_, fun gpt i _ => ?_, ?_⟩ fun claimed => absurd claimed zero
    · exact mbr_kept flasher board dir fits zero before
    · exact gpt_kept flasher board dir supported packaged gpt before i
    · exact partitions_kept flasher board dir supported fits before

/-- lib/boards/odroidxu4 -/
def odroidxu4 : Board where
  BOARD := "odroidxu4"
  FAMILY := .samsung
  FAMILY_EXT := "exynos"
  SERIES := "exynos5422"
  ARCH := .arm
  EFI := false
  GPT := false
  PETITBOOT := false
  AML_EMMC := false
  UBOOT_RK_BIN := false
  OFFSET := .MiB 4

/-- The package of a board whose binaries all have the same contents. -/
def uniform (board : Board) (bytes : Bytes) : Binaries := fun binary =>
  if binary ∈ uboot_packaging board then some bytes else none

theorem uniform_packaged (board : Board) (bytes : Bytes) : Packaged board (uniform board bytes) := by
  intro binary
  unfold Binaries.has uniform
  split <;> simp_all

theorem uniform_bytes (board : Board) (bytes found : Bytes) (binary : Binary)
    (there : uniform board bytes binary = some found) : found = bytes := by
  unfold uniform at there
  split at there
  · exact (Option.some.inj there).symm
  · cases there

/-- Binaries of one small length fit where the commands start early enough. -/
theorem uniform_fits (flasher : Flasher) (board : Board) (bytes : Bytes)
    (small : bytes.length ≤ 440) (early : ∀ copy ∈ flasher.commands board (uniform board bytes),
      copy.seek * copy.bs + 440 ≤ board.OFFSET.bytes) :
    Fits flasher board (uniform board bytes) := by
  constructor
  · intro copy member binary found _ there
    rw [uniform_bytes board bytes found binary there]
    have start := early copy member
    omega
  · intro found there
    rw [uniform_bytes board bytes found _ there]
    exact small

theorem odroidxu4_supported : Supported odroidxu4 := by
  constructor <;> decide

theorem lepotato_supported : Supported lepotato := by
  constructor <;> decide

/-- The image builder leaves a card of the same board intact. -/
theorem intact_builder : Intact .builder odroidxu4 (fun _ _ => 0)
    (flash (uniform odroidxu4 [1]) (builder_flash_uboot odroidxu4) (fun _ _ => 0)) :=
  (intact_iff .builder odroidxu4 (uniform odroidxu4 [1]) (fun _ _ => 0) odroidxu4_supported
    (uniform_packaged _ _) (uniform_fits _ _ _ (by decide) (by decide))).mpr
    fun zero => absurd zero.1 (by decide)

/-- A loader of 448 bytes in sector 0 overwrites the first partition entry. -/
theorem samsung_card_table_lost : ¬ Intact (.write2mmc .sd) odroidxu4 (fun _ _ => 0)
    (flash (uniform odroidxu4 (List.replicate 448 1))
      (write2mmc_flash_uboot odroidxu4 .sd (uniform odroidxu4 (List.replicate 448 1)))
      (fun _ _ => 0)) := by
  intro intact
  have kept := intact.mbr (by decide) 446 (by decide) (by decide)
  have commands : write2mmc_flash_uboot odroidxu4 .sd (uniform odroidxu4 (List.replicate 448 1)) =
      samsung .user 0 := rfl
  have found : uniform odroidxu4 (List.replicate 448 1) .bl1 = some (List.replicate 448 1) := by
    rw [uniform, if_pos (by decide)]
  have there : (List.replicate 448 (1 : UInt8))[446]? = some 1 := by
    rw [List.getElem?_replicate, if_pos (by decide)]
  rw [commands, samsung_zero_cell _ _ _ (by decide), found, Option.bind_some, there,
    Option.getD_some] at kept
  exact absurd kept (by decide)

end ImageBuilder.Flash
