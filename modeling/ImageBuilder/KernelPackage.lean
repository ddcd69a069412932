import ImageBuilder.InitrdHook

set_option autoImplicit false

/- The kernel package: its preinst, and the kernel and the ramdisk in /boot over any
installations of it. -/
namespace ImageBuilder.KernelPackage

open PlainText Initrd

section Package

/-- A package of this builder; its release is not named like a backup. -/
structure Package where
  KERNELRELEASE : Release
  kept : KERNELRELEASE.isBak = false
  deriving DecidableEq

/-- /boot with its kernels; on broadcom boards `Image` stands for the kernel*.img of
the firmware partition. -/
structure Directory where
  boot : Boot
  vmlinuz : List Release
  Image : Option Release
  /-- /etc/initramfs/post-update.d/99-initrd is there. -/
  hook : Bool
  deriving DecidableEq

/-- What preinst deletes: kernels and ramdisks, those of $platform too, and the hook. -/
inductive Operand
  | Image
  | vmlinuz
  | initrd
  | uInitrd
  | images
  | INITRD_BRCM
  | hook
  deriving DecidableEq

def rm (directory : Directory) : Operand → Directory
  | .Image => { directory with Image := none }
  | .vmlinuz => { directory with vmlinuz := [] }
  | .initrd => { directory with boot := { directory.boot with initrd := none } }
  | .uInitrd => { directory with boot := { directory.boot with uInitrd := none } }
  | .images => { directory with boot := { directory.boot with images := [] } }
  | .INITRD_BRCM => { directory with boot := { directory.boot with INITRD_BRCM := none } }
  | .hook => { directory with hook := false }

/-- The operands in their order; the kernels of the firmware partition come later than
those of /boot. -/
def operands (broadcom : Bool) : List Operand :=
  if broadcom then [.vmlinuz, .initrd, .uInitrd, .images, .Image, .INITRD_BRCM, .hook]
  else [.Image, .vmlinuz, .initrd, .uInitrd, .images, .hook]

/-- preinst, broken off behind the first of its operands -/
def preinstUpTo (count : Nat) (directory : Directory) : Directory :=
  ((operands directory.boot.broadcom).take count).foldl rm directory

def preinst (directory : Directory) : Directory :=
  (operands directory.boot.broadcom).foldl rm directory

/-- preinst, and the files of the package behind it -/
def unpack (package : Package) (directory : Directory) : Directory :=
  { preinst directory with
    vmlinuz := package.KERNELRELEASE :: (preinst directory).vmlinuz
    Image := some package.KERNELRELEASE
    hook := true }

/-- A ramdisk is written, and the hook runs where it is there. -/
def generate (directory : Directory) (image : Image) : Directory :=
  { directory with
    boot := if directory.hook then post_update directory.boot image
      else directory.boot.generate image }

/-- postinst, which has update-initramfs write the ramdisk of the package's release -/
def postinst (package : Package) (content : Text) (directory : Directory) : Directory :=
  generate directory ⟨package.KERNELRELEASE, content⟩

/-- `update-initramfs -u -k all`: a ramdisk that is there is written anew. -/
def update_initramfs (content : Text) (directory : Directory) : Directory :=
  (directory.vmlinuz.filter fun release =>
    directory.boot.images.any fun image => image.release = release).foldl
      (fun directory release => generate directory ⟨release, content⟩) directory

/-- What dpkg and update-initramfs do, in any order. The packages are installed one at a
time, so that dpkg configures the one that it has unpacked last; an installation can be
broken off behind each deletion and behind each of its steps. -/
inductive Event
  | preinst (count : Nat)
  | unpack (package : Package)
  | postinst (content : Text)
  | update_initramfs (content : Text)
  deriving DecidableEq

structure System where
  directory : Directory
  unpacked : Option Package
  deriving DecidableEq

def step (system : System) : Event → System
  | .preinst count => { system with directory := preinstUpTo count system.directory }
  | .unpack package => ⟨KernelPackage.unpack package system.directory, some package⟩
  | .postinst content =>
      { system with
        directory := match system.unpacked with
          | some package => KernelPackage.postinst package content system.directory
          | none => system.directory }
  | .update_initramfs content =>
      { system with directory := KernelPackage.update_initramfs content system.directory }

/-- A new system, on a board and a kind of boot partition. -/
def fresh (broadcom vfat : Bool) : System :=
  ⟨⟨⟨broadcom, vfat, [], none, none, none⟩, [], none, false⟩, none⟩

end Package

section Alone

/-- What the hook leaves where its ramdisk is the only one. -/
theorem post_update_alone (boot : Boot) (image : Image) (alone : Alone boot image) :
    post_update boot image =
      if boot.broadcom then
        { boot with images := [image], initrd := none, INITRD_BRCM := some image }
      else
        { boot with
          images := [image]
          initrd := some (if boot.vfat then .copy image else .to image.release)
          uInitrd := some image } := by
  have only := (left_alone boot image).mp alone
  have found := find_self image
  obtain ⟨broadcom, vfat, images, initrd, uInitrd, INITRD_BRCM⟩ := boot
  rw [post_update, relink_generate, only]
  cases broadcom with
  | true => rfl
  | false =>
    cases vfat with
    | true => simp only [wrap, copyGlob, found, Option.map_some, Bool.false_eq_true, if_false, if_true]
    | false => simp only [wrap, linkGlob, found, Bool.false_eq_true, if_false]

end Alone

section Matching

/-- What there is of kernels and ramdisks, under each of its names, is of the one
release. -/
structure Matching (of : Option Release) (directory : Directory) : Prop where
  vmlinuz : directory.vmlinuz = [] ∨ directory.vmlinuz = of.toList
  Image : ∀ release, directory.Image = some release → of = some release
  images : ∀ image ∈ directory.boot.images, of = some image.release
  copied : ∀ image, directory.boot.initrd = some (.copy image) → of = some image.release
  uInitrd : ∀ image, directory.boot.uInitrd = some image → of = some image.release
  INITRD_BRCM : ∀ image, directory.boot.INITRD_BRCM = some image →
    directory.boot.broadcom = true ∧ of = some image.release

/-- The release is that of the package that was unpacked last. -/
def Matched (system : System) : Prop :=
  Matching (system.unpacked.map Package.KERNELRELEASE) system.directory

variable {directory : Directory} {of : Option Release}

theorem fresh_matched (broadcom vfat : Bool) : Matched (fresh broadcom vfat) where
  vmlinuz := Or.inl rfl
  Image := nofun
  images := nofun
  copied := nofun
  uInitrd := nofun
  INITRD_BRCM := nofun

theorem Matching.rm (matching : Matching of directory) (operand : Operand) :
    Matching of (KernelPackage.rm directory operand) := by
  obtain ⟨vmlinuz, Image, images, copied, uInitrd, INITRD_BRCM⟩ := matching
  cases operand with
  | Image => exact ⟨vmlinuz, nofun, images, copied, uInitrd, INITRD_BRCM⟩
  | vmlinuz => exact ⟨Or.inl rfl, Image, images, copied, uInitrd, INITRD_BRCM⟩
  | initrd => exact ⟨vmlinuz, Image, images, nofun, uInitrd, INITRD_BRCM⟩
  | uInitrd => exact ⟨vmlinuz, Image, images, copied, nofun, INITRD_BRCM⟩
  | images => exact ⟨vmlinuz, Image, nofun, copied, uInitrd, INITRD_BRCM⟩
  | INITRD_BRCM => exact ⟨vmlinuz, Image, images, copied, uInitrd, nofun⟩
  | hook => exact ⟨vmlinuz, Image, images, copied, uInitrd, INITRD_BRCM⟩

theorem Matching.rmAll (matching : Matching of directory) (operands : List Operand) :
    Matching of (operands.foldl KernelPackage.rm directory) := by
  induction operands generalizing directory with
  | nil => exact matching
  | cons operand operands ih => exact ih (matching.rm operand)

/-- Behind preinst nothing is left, whatever was there, but what the firmware partition of
another board may hold. -/
theorem preinst_eq (directory : Directory) : preinst directory =
    { boot := { directory.boot with
        images := []
        initrd := none
        uInitrd := none
        INITRD_BRCM := if directory.boot.broadcom then none else directory.boot.INITRD_BRCM }
      vmlinuz := []
      Image := none
      hook := false } := by
  obtain ⟨⟨broadcom, vfat, images, initrd, uInitrd, INITRD_BRCM⟩, vmlinuz, Image, hook⟩ :=
    directory
  cases broadcom <;> rfl

/-- Between unpacking and configuring there is a kernel without a ramdisk. -/
theorem unpack_matching (package : Package) (matching : Matching of directory) :
    Matching (some package.KERNELRELEASE) (unpack package directory) := by
  rw [unpack, preinst_eq]
  refine ⟨Or.inr rfl, fun release is => is, nofun, nofun,
    nofun, ?_⟩
  intro image is
  have is : (if directory.boot.broadcom then none else directory.boot.INITRD_BRCM) =
    some image := is
  split at is
  · cases is
  · rename_i mainline
    exact absurd (matching.INITRD_BRCM image is).1 mainline

theorem Matching.alone {release : Release} (matching : Matching (some release) directory)
    (kept : release.isBak = false) (content : Text) :
    Alone directory.boot ⟨release, content⟩ := by
  refine ⟨kept, ?_⟩
  intro other member differs
  exact absurd (Option.some.inj (matching.images other member)).symm differs

/-- The hook for the kernel that is there. -/
theorem Matching.post_update {release : Release} (matching : Matching (some release) directory)
    (kept : release.isBak = false) (content : Text) :
    Matching (some release)
      { directory with boot := post_update directory.boot ⟨release, content⟩ } := by
  have closed := post_update_alone directory.boot ⟨release, content⟩ (matching.alone kept content)
  rw [closed]
  split
  · rename_i broadcom
    refine ⟨matching.vmlinuz, matching.Image, ?_, nofun, matching.uInitrd, ?_⟩
    · intro image member
      rw [List.mem_singleton.mp member]
    · intro image same
      obtain rfl := Option.some.inj same
      exact ⟨broadcom, rfl⟩
  · refine ⟨matching.vmlinuz, matching.Image, ?_, ?_, ?_, matching.INITRD_BRCM⟩
    · intro image member
      rw [List.mem_singleton.mp member]
    · intro image copied
      split at copied
      · obtain rfl := Link.copy.inj (Option.some.inj copied)
        rfl
      · cases copied
    · intro image same
      obtain rfl := Option.some.inj same
      rfl

/-- A ramdisk of the one release, with the hook or without it. -/
theorem Matching.generate {release : Release} (matching : Matching (some release) directory)
    (kept : release.isBak = false) (content : Text) :
    Matching (some release) (KernelPackage.generate directory ⟨release, content⟩) := by
  unfold KernelPackage.generate
  split
  · exact matching.post_update kept content
  · refine ⟨matching.vmlinuz, matching.Image, ?_, matching.copied, matching.uInitrd,
      matching.INITRD_BRCM⟩
    intro image member
    rcases List.mem_cons.mp member with rfl | other
    · rfl
    · exact matching.images image (List.mem_of_mem_filter other)

/-- With one kernel there is one ramdisk to write anew, or none. -/
theorem update_initramfs_eq (matching : Matching of directory) (content : Text) :
    update_initramfs content directory = directory ∨
      ∃ release, of = some release ∧
        update_initramfs content directory = generate directory ⟨release, content⟩ := by
  obtain ⟨boot, vmlinuz, Image, hook⟩ := directory
  rcases matching.vmlinuz with none | is
  · obtain rfl : vmlinuz = [] := none
    exact Or.inl rfl
  · obtain rfl : vmlinuz = of.toList := is
    cases of with
    | none => exact Or.inl rfl
    | some release =>
      rw [update_initramfs, Option.toList_some, List.filter_cons]
      split
      · exact Or.inr ⟨release, rfl, rfl⟩
      · exact Or.inl rfl

theorem step_matched (system : System) (matched : Matched system) (event : Event) :
    Matched (step system event) := by
  obtain ⟨directory, unpacked⟩ := system
  cases event with
  | preinst count => exact Matching.rmAll matched _
  | unpack package => exact unpack_matching package matched
  | postinst content =>
    cases unpacked with
    | none => exact matched
    | some package => exact Matching.generate matched package.kept content
  | update_initramfs content =>
    rcases update_initramfs_eq matched content with same | ⟨release, is, written⟩
    · change Matching _ (update_initramfs content directory)
      rw [same]
      exact matched
    · change Matching _ (update_initramfs content directory)
      obtain ⟨package, known, rfl⟩ := Option.map_eq_some_iff.mp is
      obtain rfl : unpacked = some package := known
      rw [written]
      exact Matching.generate matched package.kept content

end Matching

section Installed

/-- The package's kernel is the only one, and its ramdisk, with this content, the one
that the boot configuration names. -/
structure Installed (package : Package) (content : Text) (directory : Directory) : Prop where
  vmlinuz : directory.vmlinuz = [package.KERNELRELEASE]
  Image : directory.Image = some package.KERNELRELEASE
  images : directory.boot.images = [⟨package.KERNELRELEASE, content⟩]
  hook : directory.hook = true
  current : Current ⟨package.KERNELRELEASE, content⟩ directory.boot

variable {package : Package} {directory : Directory}

theorem installed_of_alone (vmlinuz : directory.vmlinuz = [package.KERNELRELEASE])
    (is : directory.Image = some package.KERNELRELEASE) (hook : directory.hook = true)
    (content : Text) (alone : Alone directory.boot ⟨package.KERNELRELEASE, content⟩) :
    Installed package content (generate directory ⟨package.KERNELRELEASE, content⟩) := by
  rw [generate, if_pos hook]
  exact ⟨vmlinuz, is, (post_update_images _ _).trans ((left_alone _ _).mp alone), hook,
    (current_iff _ _).mpr alone⟩

theorem postinst_unpack (package : Package) (content : Text) (directory : Directory) :
    Installed package content (postinst package content (unpack package directory)) := by
  rw [postinst, unpack, preinst_eq]
  refine installed_of_alone rfl rfl rfl content ⟨package.kept, ?_⟩
  intro other none
  cases none

theorem Installed.update_initramfs {before : Text} (installed : Installed package before directory)
    (content : Text) : Installed package content (update_initramfs content directory) := by
  have alone : Alone directory.boot ⟨package.KERNELRELEASE, content⟩ := by
    refine ⟨package.kept, ?_⟩
    intro other member differs
    rw [installed.images] at member
    rw [List.mem_singleton.mp member] at differs
    exact absurd rfl differs
  have written : KernelPackage.update_initramfs content directory =
      generate directory ⟨package.KERNELRELEASE, content⟩ := by
    rw [KernelPackage.update_initramfs, installed.vmlinuz, installed.images]
    simp
  rw [written]
  exact installed_of_alone installed.vmlinuz installed.Image installed.hook content alone

end Installed

section Runs

theorem run_matched (system : System) (events : List Event) (matched : Matched system) :
    Matched (events.foldl step system) := by
  induction events generalizing system with
  | nil => exact matched
  | cons event events ih => exact ih (step system event) (step_matched system matched event)

/-- Whatever is installed, one package at a time, in whatever order and however often it
is broken off: there are never two kernels, and the board never finds a kernel beside the
ramdisk of another one. -/
theorem kernel_and_ramdisk_match (broadcom vfat : Bool) (events : List Event) :
    let reached := (events.foldl step (fresh broadcom vfat)).directory
    reached.vmlinuz.length ≤ 1 ∧
      ∀ kernel image, reached.Image = some kernel → reached.boot.read = some image ∨
        reached.boot.uInitrd = some image ∨ reached.boot.INITRD_BRCM = some image →
          image.release = kernel := by
  have matched := run_matched (fresh broadcom vfat) events (fresh_matched broadcom vfat)
  constructor
  · rcases matched.vmlinuz with none | one
    · rw [none]
      exact Nat.zero_le 1
    · rw [one]
      exact Option.length_toList_le
  · intro kernel image there found
    have kernelOf := matched.Image kernel there
    have imageOf : (events.foldl step (fresh broadcom vfat)).unpacked.map Package.KERNELRELEASE =
        some image.release := by
      rcases found with read | wrapped | firmware
      · obtain ⟨link, is, reads⟩ := Option.bind_eq_some_iff.mp read
        rcases link with other | release | _
        · obtain rfl := Option.some.inj reads
          exact matched.copied other is
        · exact matched.images image (List.mem_of_find?_eq_some reads)
        · cases reads
      · exact matched.uInitrd image wrapped
      · exact (matched.INITRD_BRCM image firmware).2
    exact Option.some.inj (imageOf.symm.trans kernelOf)

/-- Whatever was in /boot before: after an installation that comes to its end, and after
each later update of the ramdisk, the board has the package's kernel and its newest ramdisk. -/
theorem installed_package (directory : Directory) (package : Package) (content : Text)
    (updates : List Text) :
    Installed package ((content :: updates).getLast (List.cons_ne_nil content updates))
      (updates.foldl (fun directory content => update_initramfs content directory)
        (postinst package content (unpack package directory))) := by
  have start := postinst_unpack package content directory
  generalize postinst package content (unpack package directory) = reached at start
  induction updates generalizing content reached with
  | nil => exact start
  | cons next updates ih =>
    rw [List.foldl_cons, List.getLast_cons (List.cons_ne_nil next updates)]
    exact ih next _ (start.update_initramfs next)

end Runs

end ImageBuilder.KernelPackage
