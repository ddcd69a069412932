import ImageBuilder.FlashUboot

set_option autoImplicit false

/- Whether the three flashers leave the same medium. -/
namespace ImageBuilder.Flash

open PlainText Medium

/-- What AML_EMMC holds when the image builder's amlogic flash_uboot tests it. -/
def EmmcOnly (board : Board) : Prop :=
  board.FAMILY = .amlogic ∧ (board.BOARD = ("gateway-gz80x" : Text) ∨ board.AML_EMMC = true)

/-- The three programs leave the same bytes everywhere, whatever was there. -/
structure Agree (board : Board) (dir : Binaries) : Prop where
  card : ¬ EmmcOnly board → ∀ before, flash dir (builder_flash_uboot board) before =
    flash dir (write2mmc_flash_uboot board .sd dir) before
  emmc_only : EmmcOnly board → ∀ before, flash dir (builder_flash_uboot board) before =
    flash dir (write2mmc_flash_uboot board .emmc dir) before
  installed : ∀ kind before, flash dir (write2mmc_flash_uboot board kind dir) before =
    flash dir (flash_sh board kind dir) before

theorem packaged_absent (board : Board) (dir : Binaries) (packaged : Packaged board dir)
    (binary : Binary) (absent : binary ∉ uboot_packaging board) : dir.has binary = false := by
  rw [← Bool.not_eq_true, packaged]
  exact absent

/-- Neither of the early exits of flash.sh is taken. -/
theorem started (board : Board) (supported : Supported board) :
    ¬ (board.BOARD = ("odroidc1" : Text) ∨ board.PETITBOOT = true) := by
  rintro (odroidc1 | petitboot)
  · exact supported.odroidc1 odroidc1
  · rw [supported.petitboot] at petitboot
    cases petitboot

theorem packaged_present (board : Board) (dir : Binaries) (packaged : Packaged board dir)
    (binary : Binary) (member : binary ∈ uboot_packaging board) : dir.has binary = true :=
  (packaged binary).mpr member

theorem samsung_packaging (board : Board) (supported : Supported board)
    (family : board.FAMILY = .samsung) :
    uboot_packaging board = [.u_boot, .bl1, .bl2, .tzsw] := by
  rw [uboot_packaging, family]
  exact congrArg (Binary.u_boot :: ·) (if_pos (supported.samsung family))

section Selection

variable (board : Board) (dir : Binaries) (supported : Supported board)
  (packaged : Packaged board dir)

include supported packaged

/-- Outside samsung the image builder runs write2mmc's commands for a card. -/
theorem builder_eq_write2mmc (other : board.FAMILY ≠ .samsung) :
    builder_flash_uboot board = write2mmc_flash_uboot board .sd dir := by
  cases family : board.FAMILY with
  | samsung => exact absurd family other
  | amlogic =>
      rw [builder_amlogic board family]
      simp only [write2mmc_flash_uboot, family]
  | rockchip =>
      have found := (packaged .u_boot_rockchip)
      have loader := (packaged .idbloader)
      have uboot := (packaged .u_boot)
      cases bin : board.UBOOT_RK_BIN <;>
        simp only [uboot_packaging, family, bin, Bool.false_eq_true, ↓reduceIte, List.mem_cons,
          List.not_mem_nil, reduceCtorEq, or_false, or_true, iff_true, iff_false,
          Bool.not_eq_true] at found loader uboot <;>
        simp only [builder_flash_uboot, write2mmc_flash_uboot, family, bin, found, loader, uboot,
          Bool.and_self, Bool.false_eq_true, ↓reduceIte, List.nil_append, List.append_nil]
  | spacemit =>
      have same := spacemit_ext board supported family ("k1" : Text)
      have spelled : ("spacemit-" : Text) ++ ("k1" : Text) = ("spacemit-k1" : Text) := rfl
      rw [spelled] at same
      simp only [builder_flash_uboot, write2mmc_flash_uboot, family, same, Kind.loaders]
  | allwinner | freescale | generic | broadcom =>
      simp only [builder_flash_uboot, write2mmc_flash_uboot, family]

theorem installed_allwinner (kind : Kind) (family : board.FAMILY = .allwinner) :
    write2mmc_flash_uboot board kind dir = flash_sh board kind dir := by
  have spl := packaged_present board dir packaged .u_boot_sunxi_with_spl
    (by simp [uboot_packaging, family])
  simp only [write2mmc_flash_uboot, flash_sh, started board supported, family, spl,
    ↓reduceIte]

theorem installed_amlogic (kind : Kind) (family : board.FAMILY = .amlogic) :
    write2mmc_flash_uboot board kind dir = flash_sh board kind dir := by
  have uboot := packaged_present board dir packaged .u_boot (by simp [uboot_packaging, family])
  have card := packaged_present board dir packaged .u_boot_sd (by simp [uboot_packaging, family])
  cases kind <;> simp only [write2mmc_flash_uboot, flash_sh,
    started board supported, family, uboot, card, ↓reduceIte]

/-- The builder and write2mmc go by the series, flash.sh by the architecture. -/
theorem installed_freescale (kind : Kind) (family : board.FAMILY = .freescale) :
    write2mmc_flash_uboot board kind dir = flash_sh board kind dir := by
  have differs : ("imx6q" : Text) ≠ ("imx8mp" : Text) := by decide
  rcases supported.freescale family with ⟨series, arch⟩ | ⟨series, arch⟩
  · have loader := packaged_present board dir packaged .sploader
      (by simp [uboot_packaging, family, arch])
    have uboot := packaged_present board dir packaged .u_boot
      (by simp [uboot_packaging, family, arch])
    simp only [write2mmc_flash_uboot, flash_sh, started board supported, family,
      series, arch, loader, uboot, differs, reduceCtorEq, and_self, false_and, ↓reduceIte]
  · have uboot := packaged_present board dir packaged .u_boot
      (by simp [uboot_packaging, family, arch])
    simp only [write2mmc_flash_uboot, flash_sh, started board supported, family,
      series, arch, uboot, differs.symm, reduceCtorEq, and_self, false_and, ↓reduceIte]

theorem installed_samsung (family : board.FAMILY = .samsung) :
    flash_sh board .emmc dir = samsung .boot0 0 ∧ flash_sh board .sd dir = samsung .user 1 := by
  have xu4 := supported.samsung family
  have packed := samsung_packaging board supported family
  have there := fun binary member => packaged_present board dir packaged binary (packed ▸ member)
  have first := there .bl1 (by decide)
  have second := there .bl2 (by decide)
  have uboot := there .u_boot (by decide)
  have complete : board.BOARD = ("odroidxu4" : Text) ∧ dir.has .bl1 ∧ dir.has .bl2 ∧
      dir.has .u_boot := ⟨xu4, first, second, uboot⟩
  unfold flash_sh
  rw [if_neg (started board supported), if_neg (started board supported), family]
  exact ⟨if_pos complete, if_pos complete⟩

/-- flash.sh knows the series by the bootinfo in the package. -/
theorem installed_spacemit (kind : Kind) (family : board.FAMILY = .spacemit) :
    write2mmc_flash_uboot board kind dir = flash_sh board kind dir := by
  have k1 := spacemit_ext board supported family ("k1" : Text)
  have spelled : ("spacemit-" : Text) ++ ("k1" : Text) = ("spacemit-k1" : Text) := rfl
  rw [spelled] at k1
  by_cases series : board.SERIES = ("k1" : Text)
  · have ext := k1.mpr series
    have info := packaged_present board dir packaged .bootinfo_emmc
      (by simp only [uboot_packaging, family, ext, ↓reduceIte]; decide)
    have uboot := packaged_present board dir packaged .u_boot
      (by simp only [uboot_packaging, family, ext, ↓reduceIte]; decide)
    simp only [write2mmc_flash_uboot, flash_sh, started board supported, family,
      series, info, uboot, Bool.and_self, ↓reduceIte]
  · have ext : board.FAMILY_EXT ≠ ("spacemit-k1" : Text) := fun same => series (k1.mp same)
    have info := packaged_absent board dir packaged .bootinfo_emmc (by
      simp only [uboot_packaging, family, ext, ↓reduceIte]
      split <;> decide)
    simp only [write2mmc_flash_uboot, flash_sh, started board supported, family,
      series, info, Bool.false_and, Bool.false_eq_true, ↓reduceIte]

/-- flash.sh runs write2mmc's commands, except for the samsung card. -/
theorem write2mmc_eq_flash_sh (kind : Kind)
    (other : ¬ (board.FAMILY = .samsung ∧ kind = .sd)) :
    write2mmc_flash_uboot board kind dir = flash_sh board kind dir := by
  cases family : board.FAMILY with
  | allwinner => exact installed_allwinner board dir supported packaged kind family
  | amlogic => exact installed_amlogic board dir supported packaged kind family
  | freescale => exact installed_freescale board dir supported packaged kind family
  | spacemit => exact installed_spacemit board dir supported packaged kind family
  | samsung =>
      cases kind with
      | sd => exact absurd ⟨family, rfl⟩ other
      | emmc =>
          rw [(installed_samsung board dir supported packaged family).1]
          simp only [write2mmc_flash_uboot, family, Kind.loaders]
  | rockchip | generic | broadcom =>
      simp only [write2mmc_flash_uboot, flash_sh, started board supported, family,
        ↓reduceIte]

end Selection

/-- The writes of a samsung list, whatever its four binaries hold. -/
theorem samsung_writes (dir : Binaries) (area : Area) (first : Nat) (bl1 bl2 u_boot tzsw : Bytes)
    (one : dir .bl1 = some bl1) (two : dir .bl2 = some bl2) (three : dir .u_boot = some u_boot)
    (four : dir .tzsw = some tzsw) :
    writes dir (samsung area first) =
      [⟨area, first * 512, bl1⟩, ⟨area, (first + 30) * 512, bl2⟩,
        ⟨area, (first + 62) * 512, u_boot⟩, ⟨area, (first + 1502) * 512, tzsw⟩] ++
      writes dir [dd_zero area] := by
  unfold samsung writes
  rw [List.filterMap_cons_some (write_file dir _ .bl1 bl1 rfl rfl rfl rfl one),
    List.filterMap_cons_some (write_file dir _ .bl2 bl2 rfl rfl rfl rfl two),
    List.filterMap_cons_some (write_file dir _ .u_boot u_boot rfl rfl rfl rfl three),
    List.filterMap_cons_some (write_file dir _ .tzsw tzsw rfl rfl rfl rfl four)]
  rfl

theorem amlogic_sd_writes (dir : Binaries) (card : Bytes) (found : dir .u_boot_sd = some card) :
    writes dir amlogic_sd = [⟨.user, 0, card.take 442⟩, ⟨.user, 512, card.drop 512⟩] := by
  simp only [writes, amlogic_sd, dd, List.filterMap_cons, List.filterMap_nil, Copy.write?,
    Copy.input, found, Option.map_some, Copy.part, Copy.padding, Bool.false_eq_true, ↓reduceIte,
    List.append_nil, Nat.mul_one, Nat.one_mul, List.drop_zero]

theorem amlogic_emmc_writes (dir : Binaries) (u_boot : Bytes) (found : dir .u_boot = some u_boot) :
    writes dir amlogic_emmc = [⟨.user, 512, u_boot⟩] := by
  unfold amlogic_emmc writes
  rw [List.filterMap_cons_some (write_file dir _ .u_boot u_boot rfl rfl rfl rfl found)]
  rfl

/-- The zeros of a samsung list start behind everything else. -/
theorem zeros_late (dir : Binaries) (offset : Nat) (early : offset < 2015 * 512) :
    ∀ write ∈ writes dir [dd_zero .user], offset < write.offset := by
  intro write member
  obtain ⟨copy, listed, input, _, rfl⟩ := mem_writes dir _ write member
  rw [List.mem_singleton.mp listed]
  exact early

/-- One sector apart, the two samsung lists agree only on empty binaries: the
first one that is not empty starts in a cell the other list leaves alone. -/
theorem samsung_agree_iff (dir : Binaries) (bl1 bl2 u_boot tzsw : Bytes)
    (one : dir .bl1 = some bl1) (two : dir .bl2 = some bl2) (three : dir .u_boot = some u_boot)
    (four : dir .tzsw = some tzsw) :
    (∀ before, flash dir (samsung .user 1) before = flash dir (samsung .user 0) before) ↔
      bl1 = [] ∧ bl2 = [] ∧ u_boot = [] ∧ tzsw = [] := by
  unfold flash
  rw [applyAll_agree_iff, samsung_writes dir .user 0 bl1 bl2 u_boot tzsw one two three four,
    samsung_writes dir .user 1 bl1 bl2 u_boot tzsw one two three four]
  constructor
  · intro agree
    have same := fun area i => (agree area i).symm
    simp only [List.cons_append, List.nil_append, Nat.reduceMul, Nat.reduceAdd] at same
    have late := zeros_late dir
    have empty1 : bl1 = [] := by
      apply first_empty _ _ _ _ _ same <;>
        simp only [List.forall_mem_cons, Nat.reduceLT, true_and] <;> exact late _ (by decide)
    rw [empty1] at same
    simp only [written_empty] at same
    have empty2 : bl2 = [] := by
      apply first_empty _ _ _ _ _ same <;>
        simp only [List.forall_mem_cons, Nat.reduceLT, true_and] <;> exact late _ (by decide)
    rw [empty2] at same
    simp only [written_empty] at same
    have empty3 : u_boot = [] := by
      apply first_empty _ _ _ _ _ same <;>
        simp only [List.forall_mem_cons, Nat.reduceLT, true_and] <;> exact late _ (by decide)
    rw [empty3] at same
    simp only [written_empty] at same
    have empty4 : tzsw = [] := by
      refine first_empty _ _ _ _ _ same (late _ (by decide)) ?_
      simp only [List.forall_mem_cons, Nat.reduceLT, true_and]
      exact late _ (by decide)
    exact ⟨empty1, empty2, empty3, empty4⟩
  · rintro ⟨rfl, rfl, rfl, rfl⟩ area i
    simp only [List.cons_append, List.nil_append, written_empty]

/-- The card's layout is the eMMC's only when both loaders are empty. -/
theorem amlogic_agree_iff (dir : Binaries) (card u_boot : Bytes)
    (one : dir .u_boot_sd = some card) (two : dir .u_boot = some u_boot) :
    (∀ before, flash dir amlogic_sd before = flash dir amlogic_emmc before) ↔
      card = [] ∧ u_boot = [] := by
  unfold flash
  rw [applyAll_agree_iff, amlogic_sd_writes dir card one, amlogic_emmc_writes dir u_boot two]
  constructor
  · intro same
    have start : card.take 442 = [] := by
      apply first_empty _ _ _ _ _ same <;> simp
    have empty : card = [] := by
      rcases List.take_eq_nil_iff.mp start with zero | empty
      · cases zero
      · exact empty
    rw [empty] at same
    simp only [List.take_nil, List.drop_nil, written_empty] at same
    refine ⟨empty, first_empty _ _ _ _ [] (fun area i => (same area i).symm) ?_ ?_⟩ <;> simp
  · rintro ⟨rfl, rfl⟩ area i
    simp only [List.take_nil, List.drop_nil, written_empty]

/-- Where the three flashers agree: not on samsung cards, where write2mmc starts
one sector early, and not on boards with nothing but an eMMC, for which the
image builder writes the card's layout. -/
theorem agree_iff (board : Board) (dir : Binaries) (supported : Supported board)
    (packaged : Packaged board dir) :
    Agree board dir ↔
      (board.FAMILY = .samsung → dir .bl1 = some [] ∧ dir .bl2 = some [] ∧
        dir .u_boot = some [] ∧ dir .tzsw = some []) ∧
      (EmmcOnly board → dir .u_boot_sd = some [] ∧ dir .u_boot = some []) := by
  have xu4 : board.FAMILY = .samsung → ∃ bl1 bl2 u_boot tzsw, dir .bl1 = some bl1 ∧
      dir .bl2 = some bl2 ∧ dir .u_boot = some u_boot ∧ dir .tzsw = some tzsw := by
    intro family
    have packed := samsung_packaging board supported family
    have there := fun binary member => Option.isSome_iff_exists.mp
      (packaged_present board dir packaged binary (packed ▸ member))
    obtain ⟨bl1, one⟩ := there .bl1 (by decide)
    obtain ⟨bl2, two⟩ := there .bl2 (by decide)
    obtain ⟨u_boot, three⟩ := there .u_boot (by decide)
    obtain ⟨tzsw, four⟩ := there .tzsw (by decide)
    exact ⟨bl1, bl2, u_boot, tzsw, one, two, three, four⟩
  constructor
  · intro agree
    constructor
    · intro family
      obtain ⟨bl1, bl2, u_boot, tzsw, one, two, three, four⟩ := xu4 family
      have card := agree.card fun only => by rw [only.1] at family; cases family
      simp only [builder_flash_uboot, write2mmc_flash_uboot, family, Kind.loaders] at card
      obtain ⟨rfl, rfl, rfl, rfl⟩ :=
        (samsung_agree_iff dir bl1 bl2 u_boot tzsw one two three four).mp card
      exact ⟨one, two, three, four⟩
    · intro only
      obtain ⟨card, one⟩ := Option.isSome_iff_exists.mp (packaged_present board dir packaged
        .u_boot_sd (by simp [uboot_packaging, only.1]))
      obtain ⟨u_boot, two⟩ := Option.isSome_iff_exists.mp (packaged_present board dir packaged
        .u_boot (by simp [uboot_packaging, only.1]))
      have layout := agree.emmc_only only
      simp only [builder_amlogic board only.1, write2mmc_flash_uboot, only.1] at layout
      obtain ⟨rfl, rfl⟩ := (amlogic_agree_iff dir card u_boot one two).mp layout
      exact ⟨one, two⟩
  · rintro ⟨samsungEmpty, amlogicEmpty⟩
    by_cases family : board.FAMILY = .samsung
    · obtain ⟨one, two, three, four⟩ := samsungEmpty family
      have same := (samsung_agree_iff dir [] [] [] [] one two three four).mpr ⟨rfl, rfl, rfl, rfl⟩
      obtain ⟨emmc, card⟩ := installed_samsung board dir supported packaged family
      refine ⟨fun _ before => ?_, fun only => ?_, fun kind before => ?_⟩
      · simp only [builder_flash_uboot, write2mmc_flash_uboot, family, Kind.loaders]
        exact same before
      · rw [only.1] at family
        cases family
      · cases kind with
        | sd =>
            rw [card]
            simp only [write2mmc_flash_uboot, family, Kind.loaders]
            exact (same before).symm
        | emmc =>
            rw [emmc]
            simp only [write2mmc_flash_uboot, family, Kind.loaders]
    · refine ⟨fun _ before => ?_, fun only before => ?_, fun kind before => ?_⟩
      · rw [builder_eq_write2mmc board dir supported packaged family]
      · obtain ⟨one, two⟩ := amlogicEmpty only
        have same := (amlogic_agree_iff dir [] [] one two).mpr ⟨rfl, rfl⟩ before
        simp only [builder_amlogic board only.1, write2mmc_flash_uboot, only.1]
        exact same
      · rw [write2mmc_eq_flash_sh board dir supported packaged kind fun card => family card.1]

/-- The flashers agree on a board with a card, whatever it is. -/
theorem agree_lepotato : Agree lepotato (uniform lepotato [1]) :=
  (agree_iff lepotato (uniform lepotato [1]) lepotato_supported (uniform_packaged _ _)).mpr
    ⟨fun family => absurd family (by decide), fun only => absurd only.2 (by decide)⟩

/-- The image builder's and write2mmc's samsung loaders lie one sector apart. -/
theorem samsung_disagree : ¬ Agree odroidxu4 (uniform odroidxu4 [1]) := by
  intro agree
  have card := agree.card fun only => by cases only.1
  have one : uniform odroidxu4 [1] .bl1 = some [1] := by rw [uniform, if_pos (by decide)]
  have two : uniform odroidxu4 [1] .bl2 = some [1] := by rw [uniform, if_pos (by decide)]
  have three : uniform odroidxu4 [1] .u_boot = some [1] := by rw [uniform, if_pos (by decide)]
  have four : uniform odroidxu4 [1] .tzsw = some [1] := by rw [uniform, if_pos (by decide)]
  cases ((samsung_agree_iff _ [1] [1] [1] [1] one two three four).mp card).1

end ImageBuilder.Flash
