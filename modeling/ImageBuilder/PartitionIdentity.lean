import ImageBuilder.CopiedFiles

set_option autoImplicit false

/- The files of an image that record which partitions it is made of, as the builder
writes them. -/
namespace ImageBuilder.Shrink

open PlainText EnvText StreamEditor Staging Identifiers Renewal

/-- The variables that these files depend on, besides those of the boot files; the
identifiers are those of the new partitions. -/
structure Options extends Config where
  BOARD : Text
  EFI : Bool
  GPT : Bool
  PETITBOOT : Bool
  BOOT_VFAT : Bool
  BOOT_EXT4 : Bool
  ROOT_UUID : Text
  BOOT_UUID : Text

/-- f2fs has no entry. -/
def ROOTFS_TABLE : Fstype → Option Text
  | .btrfs => some "btrfs\tdefaults,compress=lzo,noatime,subvol=@ 0 1"
  | .ext4 => some "ext4\tdefaults,noatime,commit=600,errors=remount-ro 0 1"
  | .f2fs => none
  | .xfs => some "xfs\tdefaults,noatime 0 1"

def EXTFS (options : Options) : Option Text :=
  if options.PETITBOOT then some "ext2"
  else if options.FSTYPE = .btrfs ∨ options.FSTYPE = .xfs then some "ext4"
  else if options.BOOT_EXT4 then some "ext4"
  else none

def BOOTFS_TABLE (options : Options) : Option Text :=
  if options.BOOT_VFAT then
    if options.EFI then some "/boot/efi\tvfat\tdefaults,flush 0 2"
    else if options.FAMILY = .broadcom then some "/boot/broadcom\tvfat\tdefaults,flush 0 2"
    else some "/boot\tvfat\tdefaults,flush 0 2"
  else if options.EFI then none
  else (EXTFS options).map fun EXTFS =>
    ("/boot\t" : Text) ++ EXTFS ++ ("\trw,relatime,errors=continue 0 2" : Text)

/-- What the builder guarantees about these variables before there is an image; that sed
takes DTB and EXTRA as they are is so for the strings of the board files. -/
structure Setup extends Options where
  single : P_VALUE = .p1 → FSTYPE = .ext4 ∧ EFI = false
  firmware : FAMILY = .broadcom → EFI = false
  rootfs : FSTYPE ≠ .f2fs
  bootfs : P_VALUE = .p2 → BOOTFS_TABLE toOptions ≠ none
  plain : Plain DTB ∧ Plain EXTRA
  visible : isHidden PLATFORM = false

def p1_fstab (options : Options) : Option (List Text) :=
  (ROOTFS_TABLE options.FSTYPE).map fun ROOTFS_TABLE =>
    [("UUID=" : Text) ++ (options.ROOT_UUID ++ (("\t/\t" : Text) ++ ROOTFS_TABLE)),
      "tmpfs\t\t/tmp\ttmpfs\tdefaults,nosuid 0 0"]

def p2_fstab (options : Options) : Option (List Text) :=
  (BOOTFS_TABLE options).bind fun BOOTFS_TABLE =>
    (ROOTFS_TABLE options.FSTYPE).map fun ROOTFS_TABLE =>
      [("UUID=" : Text) ++ (options.BOOT_UUID ++ ('\t' :: BOOTFS_TABLE)),
        ("UUID=" : Text) ++ (options.ROOT_UUID ++ (("\t/\t" : Text) ++ ROOTFS_TABLE)),
        "tmpfs\t/tmp\t\ttmpfs\tdefaults,nosuid 0 0"]

def fstab_lines (options : Options) : Option (List Text) :=
  match options.P_VALUE with
  | .p1 => p1_fstab options
  | .p2 => p2_fstab options

/-- The files and texts of the repository that go into an image as they are. -/
structure Repository where
  script : List Text
  odroid_boot_cmd : List Text
  odroid_boot_logo : Text
  config_txt : List Text
  update_grub_sh : Text

/-- files/boot/scripts/odroid-config.ini -/
def odroid_config_ini : List Text :=
  [[], "[user_options]", "bootlabel=Amlogic", "uuid=PARTUUID=", "rootfstype=", "verbose=1",
    "usbquirks=usb-storage.quirks=0x1f75:0x0621:u", "extra=\"no_console_suspend clk_ignore_unused\"",
    "console=\"console=tty1 console=ttyAML0,115200n8 console=both\"", [], "fk_kvers=Image",
    "initrd=initrd.gz", "kernel_addr_r=0x10800000", "ramdisk_addr_r=0x30800000", "fdtdir=amlogic",
    "fdtfile=", "fdt_addr_r=0x20000000", [], "; Device Tree Overlay", "overlay_resize=16384",
    "overlay_profile=", "; overlays=\"spi0 i2c0 i2c1 uart0\""]

/-- The root file system as config.ini has it, with quotes for btrfs. -/
def iniFstype : Fstype → Text
  | .btrfs => ("rootfstype=\"" : Text) ++ (Fstype.btrfs.ROOT_FSTYPE ++ ['"'])
  | .f2fs => "rootfstype="
  | fstype => ("rootfstype=" : Text) ++ fstype.ROOT_FSTYPE

/-- The three substitutions in config.ini. -/
def odroid_config (sed : Replacer) (options : Options) : List Text :=
  sed.substitute ("fdtfile=" : Text) (("fdtfile=" : Text) ++ (options.DTB ++ (".dtb" : Text)))
    (sed.substitute ("rootfstype=" : Text) (iniFstype options.FSTYPE)
      (sed.substitute ("uuid=PARTUUID=" : Text) (("uuid=PARTUUID=" : Text) ++ options.ROOT_PARTUUID)
        odroid_config_ini))

/-- The line of cmdline.txt. -/
def cmdline (options : Options) : Text :=
  options.CONSOLE ++ (" root=PARTUUID=" : Text) ++ options.ROOT_PARTUUID ++ [' '] ++
    options.FSTYPE.ROOT_FSTYPE ++ (" fsck.repair=yes " : Text) ++ options.LOGLEVEL ++ [' '] ++
    options.EXTRA ++ (" rootwait" : Text)

/-- What update-grub builds the menu from, on the root partition. -/
def isGrubInput (path : Text) : Bool :=
  path == "etc/default/grub".toList || ("etc/grub.d/" : Text).isPrefixOf path

/-- The directories that belong to grub. -/
def isGrubPlace : Place → Bool
  | (.boot, path) => ("EFI/" : Text).isPrefixOf path
  | (.root, path) => ("boot/grub/" : Text).isPrefixOf path

/-- grub-install and update-grub: the files they write, and what they put into them
on partitions with these identifiers. They know no others, except from their input. -/
structure Grub where
  files : List Place
  contents : (identifiers : List Text) → Image → Place → Text
  placed : ∀ place ∈ files, isGrubPlace place = true
  named : ∀ identifiers image place (id : Id), place ∈ files →
    id.text <:+: contents identifiers image place →
      (∃ given ∈ identifiers, id.text <:+: given) ∨
      ∃ path text, isGrubInput path = true ∧ image.files .root path = some text ∧
        id.text <:+: text

/-- The programs that the builder runs. -/
structure Tools where
  fresh : Place → Attributes
  sed : Sed
  replacer : Replacer
  mkimage : List Text → Text
  grub : Grub

section Commands

variable (repository : Repository) (tools : Tools) (options : Options)

def extlinux : Volume → Option Volume := fun before =>
  some (before.write (BOOT_PATH options.P_VALUE ++ ("extlinux/extlinux.conf" : Text))
    (unlines (Staging.extlinux options.toConfig)))

def bootcmdini : Volume → Option Volume :=
  Staging.bootcmdini tools.sed tools.mkimage (some repository.script) options.toConfig

def odroid_bootcmd : Volume → Option Volume := fun before =>
  let removed := before.remove ["boot.cmd", "config.ini"]
  let copied := (removed.write "boot.cmd" (unlines repository.odroid_boot_cmd)).write
    "boot-logo.bmp.gz" repository.odroid_boot_logo
  some ((copied.write "config.ini" (unlines (odroid_config tools.replacer options))).write
    "boot.scr" (tools.mkimage repository.odroid_boot_cmd))

def brcm_cmdline : Volume → Option Volume := fun before =>
  some (before.write "cmdline.txt" (unlines [cmdline options]))

/-- On arm the first line goes. -/
def config_dot_txt : Volume → Option Volume := fun before =>
  let lines := if options.ARCH = ("arm" : Text) then repository.config_txt.tail
    else repository.config_txt
  some (before.write "config.txt" (unlines lines))

def fstab : Volume → Option Volume := fun before =>
  (fstab_lines options).map fun lines => before.write "etc/fstab" (unlines lines)

end Commands

/-- The parameter that names the root partition to the kernel. -/
def rootParameter (ROOT_PARTUUID : Text) : Text := ("root=PARTUUID=" : Text) ++ ROOT_PARTUUID

/-- Where grub finds the directory boot. -/
def grubBoot (options : Options) : Text := if options.FSTYPE = .btrfs then "/@/boot/" else "/boot/"

def FSMOD : Fstype → Text
  | .ext4 => "ext2"
  | fstype => fstype.name

def CMDLINE_front (options : Options) : Text :=
  ("\tlinux " : Text) ++ grubBoot options ++ ("Image " : Text) ++ options.CONSOLE ++ (" rw" : Text)

def CMDLINE_back (options : Options) : Text :=
  ("rootwait " : Text) ++ options.FSTYPE.ROOT_FSTYPE ++ (" fsck.repair=yes " : Text) ++
    options.LOGLEVEL ++ [' '] ++ options.EXTRA

/-- The menu entry up to the line for the kernel. -/
def board_09_head (options : Options) : List Text :=
  ["#!/bin/sh", "exec tail -n +3 $0", [],
    ("menuentry \"" : Text) ++ options.DEFAULT_MOTD ++ ("\" \x7b" : Text), "\tinsmod gzio",
    if options.GPT then "\tinsmod part_gpt" else "\tinsmod part_msdos",
    ("\tinsmod " : Text) ++ FSMOD options.FSTYPE, "\techo \"Loading kernel ...\""]

def board_09_tail (options : Options) : List Text :=
  ["\techo \"Loading ramdisk ...\"",
    ("\tinitrd " : Text) ++ grubBoot options ++ ("initrd.img" : Text),
    "\techo \"Loading devicetree ...\"",
    ("\tdevicetree " : Text) ++ grubBoot options ++ options.FAMILY.name ++ ['/'] ++ options.DTB ++
      (".dtb" : Text), "\x7d"]

/-- /etc/grub.d/09_$BOARD for a root partition. -/
def board_09 (options : Options) (ROOT_PARTUUID : Text) : List Text :=
  board_09_head options ++
    [CMDLINE_front options ++ ' ' :: (rootParameter ROOT_PARTUUID ++ ' ' :: CMDLINE_back options)] ++
    board_09_tail options

/-- The strings that the files are put together from. -/
def Options.values (options : Options) : List Text :=
  [options.DEFAULT_MOTD, options.CAP_DISTRO, options.CAP_RELEASE, options.CONSOLE, options.EXTRA,
    options.LOGLEVEL, options.DTB, options.PLATFORM, options.ARCH, options.BOOT_KERNEL,
    options.BOOT_INITRD, options.BOOTCMD_FDTOVERLAYS, options.EXTLINUX_FDTOVERLAYS]

/-- The identifiers are not those of the new partitions, and no string or file of the
repository names them; nor does mkimage put them in front of a script. -/
structure Fresh (ids : List Id) (repository : Repository) (tools : Tools) (options : Options) :
    Prop where
  root : Free ids options.ROOT_UUID
  part : Free ids options.ROOT_PARTUUID
  boot : Free ids options.BOOT_UUID
  values : ∀ value ∈ options.values, Free ids value
  script : ∀ line ∈ repository.script, Free ids line
  odroid : ∀ line ∈ repository.odroid_boot_cmd, Free ids line
  config : ∀ line ∈ repository.config_txt, Free ids line
  grub : Free ids repository.update_grub_sh
  mkimage : ∀ lines, (∀ line ∈ lines, Free ids line) → Free ids (tools.mkimage lines)

section Names

variable {ids : List Id}

theorem free_fstype (fstype : Fstype) : Free ids fstype.name := by
  cases fstype <;> exact free_of_brief (by decide)

theorem free_ROOT_FSTYPE (fstype : Fstype) : Free ids fstype.ROOT_FSTYPE := by
  cases fstype <;> exact free_of_brief (by decide)

theorem free_family (family : Family) : Free ids family.name := by
  cases family <;> exact free_of_brief (by decide)

theorem free_ROOTFS_TABLE (fstype : Fstype) (table : Text) (found : ROOTFS_TABLE fstype = some table) :
    Free ids table := by
  cases fstype <;> cases found <;> exact free_of_brief (by decide)

theorem free_BOOTFS_TABLE (options : Options) (table : Text)
    (found : BOOTFS_TABLE options = some table) : Free ids table := by
  have extfs (EXTFS : Text) (is : EXTFS = ("ext2" : Text) ∨ EXTFS = ("ext4" : Text)) :
      Free ids (("/boot\t" : Text) ++ EXTFS ++ ("\trw,relatime,errors=continue 0 2" : Text)) := by
    rcases is with rfl | rfl <;> exact free_of_brief (by decide)
  unfold BOOTFS_TABLE at found
  split at found
  · split at found
    · cases found
      exact free_of_brief (by decide)
    · split at found <;> cases found <;> exact free_of_brief (by decide)
  · split at found
    · cases found
    · obtain ⟨fs, chosen, rfl⟩ := Option.map_eq_some_iff.mp found
      apply extfs
      unfold EXTFS at chosen
      split at chosen
      · exact Or.inl (Option.some.inj chosen).symm
      · split at chosen
        · exact Or.inr (Option.some.inj chosen).symm
        · split at chosen
          · exact Or.inr (Option.some.inj chosen).symm
          · cases chosen

end Names

section Texts

variable {ids : List Id} {repository : Repository} {tools : Tools} {options : Options}
  (fresh : Fresh ids repository tools options)
include fresh

theorem Fresh.rootEntry (table : Text) (known : ROOTFS_TABLE options.FSTYPE = some table) :
    Free ids (("UUID=" : Text) ++ (options.ROOT_UUID ++ (("\t/\t" : Text) ++ table))) := by
  have entry := fresh.root.around (free_ROOTFS_TABLE _ table known)
    (by decide : apart ("\t/\t" : Text) = true)
  rw [List.append_assoc] at entry
  exact entry.behind (by decide) (by decide)

theorem Fresh.p1_lines {lines : List Text} (found : p1_fstab options = some lines) :
    ∀ line ∈ lines, Free ids line := by
  obtain ⟨table, known, rfl⟩ := Option.map_eq_some_iff.mp found
  rw [List.forall_mem_cons, List.forall_mem_singleton]
  exact ⟨fresh.rootEntry table known, free_of_brief (by decide)⟩

theorem Fresh.p2_lines {lines : List Text} (found : p2_fstab options = some lines) :
    ∀ line ∈ lines, Free ids line := by
  obtain ⟨boot, chosen, rest⟩ := Option.bind_eq_some_iff.mp found
  obtain ⟨table, known, rfl⟩ := Option.map_eq_some_iff.mp rest
  have entry : Free ids (("UUID=" : Text) ++ (options.BOOT_UUID ++ '\t' :: boot)) :=
    (fresh.boot.cons_separator (free_BOOTFS_TABLE options boot chosen) (by decide)).behind
      (by decide) (by decide)
  rw [List.forall_mem_cons, List.forall_mem_cons, List.forall_mem_singleton]
  exact ⟨entry, fresh.rootEntry table known, free_of_brief (by decide)⟩

theorem Fresh.dtb_file : Free ids (options.DTB ++ (".dtb" : Text)) := by
  have dtb := fresh.values options.DTB (by simp [Options.values])
  exact dtb.before (by decide) (by decide)

theorem Fresh.cmdline_free : Free ids (cmdline options) := by
  have console := fresh.values options.CONSOLE (by simp [Options.values])
  have level := fresh.values options.LOGLEVEL (by simp [Options.values])
  have extra := fresh.values options.EXTRA (by simp [Options.values])
  have root := console.around fresh.part (by decide : apart (" root=PARTUUID=" : Text) = true)
  have fstype := root.around (free_ROOT_FSTYPE options.FSTYPE) (by decide : apart [' '] = true)
  have repair := fstype.around level (by decide : apart (" fsck.repair=yes " : Text) = true)
  exact (repair.around extra (by decide)).before (by decide) (by decide)

theorem Fresh.extlinux_lines : ∀ line ∈ Staging.extlinux options.toConfig, Free ids line := by
  have free := fresh.values
  simp only [Options.values, List.forall_mem_cons] at free
  obtain ⟨motd, distro, release, console, extra, level, dtb, platform, arch, kernel, initrd,
    bootcmd, overlays, -⟩ := free
  have append : Free ids (CMDLINE options.toConfig options.ROOT_PARTUUID options.FSTYPE) := by
    have tty := console.behind (by decide : brief ("append earlyprintk " : Text) = true) (by decide)
    have root := tty.around fresh.part (by decide : apart (" rw root=PARTUUID=" : Text) = true)
    have fstype := root.around (free_ROOT_FSTYPE options.FSTYPE)
      (by decide : apart (" rootwait " : Text) = true)
    have repair := fstype.around level (by decide : apart (" fsck.repair=yes " : Text) = true)
    exact (repair.around extra (by decide)).before (by decide) (by decide)
  have fdt : Free ids (("\tfdt ../" : Text) ++ options.FAMILY.name ++ ['/'] ++ options.DTB ++
      (".dtb" : Text)) := by
    have family : Free ids (("\tfdt ../" : Text) ++ options.FAMILY.name) :=
      (free_family _).behind (by decide) (by decide)
    exact (family.around dtb (by decide)).before (by decide) (by decide)
  have title : Free ids (("label " : Text) ++ options.CAP_DISTRO ++ [' '] ++ options.CAP_RELEASE) :=
    (distro.behind (by decide) (by decide)).around release (by decide)
  simp only [Staging.extlinux, List.forall_mem_cons]
  exact ⟨motd.behind (by decide) (by decide), free_of_brief (by decide), free_nil, title,
    kernel.behind (by decide) (by decide), initrd.behind (by decide) (by decide),
    (free_family _).behind (by decide) (by decide), fdt,
    free_nil.cons_separator overlays (by decide), free_nil.cons_separator append (by decide),
    fun _ member => nomatch member⟩

/-- The environment file, for any value of `extra`. -/
theorem Fresh.env_lines {extra : Text} (more : Free ids extra) :
    ∀ line ∈ envLines options.toConfig extra options.ROOT_PARTUUID options.FSTYPE,
      Free ids line := by
  have free := fresh.values
  simp only [Options.values, List.forall_mem_cons] at free
  obtain ⟨motd, distro, release, console, _, level, dtb, platform, arch, kernel, initrd,
    bootcmd, overlays, -⟩ := free
  have named : ∀ name ∈ settingNames, brief name = true := by decide
  have rootdev : Free ids (("PARTUUID=" : Text) ++ options.ROOT_PARTUUID) :=
    fresh.part.behind (by decide) (by decide)
  have values : ∀ setting ∈ settings options.toConfig extra options.ROOT_PARTUUID options.FSTYPE,
      Free ids setting.2 := by
    simp only [settings, List.forall_mem_cons]
    exact ⟨motd, console, more, fresh.dtb_file, initrd, kernel, free_family _, rootdev, free_fstype _,
      fun _ member => absurd member List.not_mem_nil⟩
  intro line member
  rcases List.mem_append.mp member with one | two
  · obtain ⟨setting, inside, rfl⟩ := List.mem_map.mp one
    have name := named setting.1
      (settings_names options.toConfig _ _ _ ▸ List.mem_map_of_mem inside)
    exact (free_of_brief name).cons_separator (values setting inside) (by decide)
  · simp only [notes, List.mem_cons, List.not_mem_nil, or_false] at two
    rcases two with rfl | rfl | rfl | rfl | rfl
    · exact level
    · exact free_nil
    · exact free_of_brief (by decide)
    · exact bootcmd
    · exact free_of_brief (by decide)

theorem Fresh.staged_extra : Free ids (stagedExtra options.toConfig) := by
  have extra := fresh.values options.EXTRA (by simp [Options.values])
  unfold Staging.stagedExtra
  split
  · exact extra.before (by decide) (by decide)
  · exact extra

theorem Fresh.platform_line {line : Text} (free : Free ids line) :
    Free ids (setPlatform options.PLATFORM line) := by
  have platform := fresh.values options.PLATFORM (by simp [Options.values])
  unfold Staging.setPlatform Staging.platformLine
  split
  · exact (platform.behind (by decide) (by decide)).before (by decide) (by decide)
  · exact free

theorem Fresh.board_09_front :
    Free ids (unlines (board_09_head options) ++ CMDLINE_front options) := by
  have motd := fresh.values options.DEFAULT_MOTD (by simp [Options.values])
  have console := fresh.values options.CONSOLE (by simp [Options.values])
  have kernel : Free ids (CMDLINE_front options) := by
    have boot : Free ids (("\tlinux " : Text) ++ grubBoot options ++ ("Image " : Text)) := by
      unfold grubBoot
      split <;> exact free_of_brief (by decide)
    have last : (("\tlinux " : Text) ++ grubBoot options ++ ("Image " : Text)).getLast?.any
        (!isIdChar ·) = true := by
      unfold grubBoot
      split <;> decide
    exact (boot.append_last console last).before (by decide) (by decide)
  have table : Free ids (if options.GPT then ("\tinsmod part_gpt" : Text)
      else "\tinsmod part_msdos") := by
    split <;> exact free_of_brief (by decide)
  have fsmod : Free ids (("\tinsmod " : Text) ++ FSMOD options.FSTYPE) := by
    cases options.FSTYPE <;> exact free_of_brief (by decide)
  have head : ∀ line ∈ board_09_head options, Free ids line := by
    simp only [board_09_head, List.forall_mem_cons]
    exact ⟨free_of_brief (by decide), free_of_brief (by decide), free_nil,
      (motd.behind (by decide) (by decide)).before (by decide) (by decide),
      free_of_brief (by decide), table, fsmod, free_of_brief (by decide),
      fun _ member => absurd member List.not_mem_nil⟩
  exact (free_unlines head).append_head kernel rfl

theorem Fresh.board_09_back :
    Free ids (CMDLINE_back options ++ '\n' :: unlines (board_09_tail options)) := by
  have level := fresh.values options.LOGLEVEL (by simp [Options.values])
  have extra := fresh.values options.EXTRA (by simp [Options.values])
  have kernel : Free ids (CMDLINE_back options) := by
    have fstype : Free ids (("rootwait " : Text) ++ options.FSTYPE.ROOT_FSTYPE) :=
      (free_ROOT_FSTYPE _).behind (by decide) (by decide)
    have repair := fstype.around level (by decide : apart (" fsck.repair=yes " : Text) = true)
    exact repair.around extra (by decide)
  have initrd : Free ids (("\tinitrd " : Text) ++ grubBoot options ++ ("initrd.img" : Text)) := by
    unfold grubBoot
    split <;> exact free_of_brief (by decide)
  have devicetree : Free ids (("\tdevicetree " : Text) ++ grubBoot options ++ options.FAMILY.name ++
      ['/'] ++ options.DTB ++ (".dtb" : Text)) := by
    have dtb := fresh.values options.DTB (by simp [Options.values])
    have family : Free ids (("\tdevicetree " : Text) ++ grubBoot options ++ options.FAMILY.name) := by
      unfold grubBoot
      split <;> exact (free_family _).behind (by decide) (by decide)
    exact (family.around dtb (by decide)).before (by decide) (by decide)
  have tail : ∀ line ∈ board_09_tail options, Free ids line := by
    simp only [board_09_tail, List.forall_mem_cons]
    exact ⟨free_of_brief (by decide), initrd, free_of_brief (by decide), devicetree,
      free_of_brief (by decide), fun _ member => nomatch member⟩
  exact kernel.cons_separator (free_unlines tail) (by decide)

end Texts

end ImageBuilder.Shrink
