import ImageBuilder.LoopDevices
import ImageBuilder.RenewedIdentity

set_option autoImplicit false

/- Shrinking as a whole: the partitions of the finished image are copied into a new one,
and the files that say which partitions these are get written again. -/
namespace ImageBuilder.Shrink

open PlainText EnvText StreamEditor Staging Identifiers Renewal

/-- The partition that U-Boot's files are on. -/
def bootSide : Scheme → Side
  | .p1 => .root
  | .p2 => .boot

/-- Where the system lies on the root partition. -/
def rootDirectory : Fstype → Text
  | .btrfs => "@/"
  | _ => []

/-- Where shrink looks for it. -/
def sourceDirectory : Scheme → Fstype → Text
  | .p2, .btrfs => "@/"
  | _, _ => []

def extlinux_directories : Scheme → List Text
  | .p1 => ["boot", "boot/extlinux"]
  | .p2 => ["extlinux"]

def efi_directories : List Text := ["boot", "boot/efi"]

def update_grub_path : Text := "root/update_grub.sh"

/-- The menu entry of the board. -/
def grub_09 (options : Options) : Text := ("etc/grub.d/09_" : Text) ++ options.BOARD

/-- A step behind an `if`. -/
def onlyIf (guard : Prop) [Decidable guard] (step : Image → Option Image) (image : Image) :
    Option Image :=
  if guard then step image else some image

section Steps

variable (repository : Repository) (tools : Tools) (setup : Setup)

def makeDirectories (side : Side) (paths : List Text) (image : Image) : Image :=
  paths.foldl (fun image path => image.mkdir tools.fresh (side, path)) image

def extlinuxStep (image : Image) : Option Image :=
  (makeDirectories tools (bootSide setup.P_VALUE) (extlinux_directories setup.P_VALUE) image).edit
    tools.fresh (bootSide setup.P_VALUE) (extlinux setup.toOptions)

def bootcmdiniStep (image : Image) : Option Image :=
  image.edit tools.fresh (bootSide setup.P_VALUE) (bootcmdini repository tools setup.toOptions)

/-- `sed -i` on the menu entry, if there is one. The pattern has no end of a line in it. -/
def replacePartuuid (OLD_PARTUUID : Text) : Volume → Option Volume := fun before =>
  match before (grub_09 setup.toOptions) with
  | some contents => some (before.write (grub_09 setup.toOptions)
      (replaceAll (rootParameter OLD_PARTUUID) (rootParameter setup.ROOT_PARTUUID) contents))
  | none => some before

/-- `chroot p2 /root/update_grub.sh` -/
def chrootGrub (image : Image) : Image := fun place =>
  if place ∈ tools.grub.files then
    some ⟨.file (tools.grub.contents [setup.ROOT_UUID, setup.ROOT_PARTUUID, setup.BOOT_UUID]
      image place), tools.fresh place⟩
  else image place

def grubStep (OLD_PARTUUID : Text) (image : Image) : Option Image := do
  let image := makeDirectories tools .root efi_directories image
  let image ← image.edit tools.fresh .root fun files =>
    some (files.write update_grub_path repository.update_grub_sh)
  let image ← image.edit tools.fresh .root (replacePartuuid setup OLD_PARTUUID)
  (chrootGrub tools setup image).edit tools.fresh .root fun files =>
    some (files.remove [update_grub_path])

/-- The copy of a system on one partition. -/
def copy_p1 (root : Filesystem) : Option Image :=
  (copy (sourceDirectory .p1 setup.FSTYPE) root).map fun tree place =>
    match place.1 with
    | .boot => none
    | .root => tree place.2

/-- The copy of a system on two; `cp -fr` keeps no attributes. -/
def copy_p2 (boot root : Filesystem) : Option Image :=
  (copy [] boot).bind fun bootTree =>
    (copy (sourceDirectory .p2 setup.FSTYPE) root).map fun tree place =>
      match place.1 with
      | .boot => (bootTree place.2).map fun node => ⟨node.entry, tools.fresh place⟩
      | .root => tree place.2

def finish_p1 (image : Image) : Option Image := do
  let image ← onlyIf (setup.EXTLINUX = true ∧ setup.EFI = false) (extlinuxStep tools setup) image
  let image ← onlyIf ((setup.BOOTCMD = true ∨ setup.BOOTINI = true) ∧ setup.EFI = false)
    (bootcmdiniStep repository tools setup) image
  image.edit tools.fresh .root (fstab setup.toOptions)

def finish_p2 (OLD_PARTUUID : Text) (image : Image) : Option Image := do
  let image ← onlyIf (setup.EXTLINUX = true ∧ setup.EFI = false) (extlinuxStep tools setup) image
  let image ← onlyIf ((setup.BOOTCMD = true ∨ setup.BOOTINI = true) ∧ setup.EFI = false)
    (bootcmdiniStep repository tools setup) image
  let image ← onlyIf (setup.PETITBOOT = true ∧ setup.EFI = false)
    (·.edit tools.fresh .boot (odroid_bootcmd repository tools setup.toOptions)) image
  let image ← onlyIf (setup.FAMILY = .broadcom ∧ setup.EFI = false)
    (·.edit tools.fresh .boot (brcm_cmdline setup.toOptions)) image
  let image ← onlyIf (setup.FAMILY = .broadcom ∧ setup.EFI = false)
    (·.edit tools.fresh .boot (config_dot_txt repository setup.toOptions)) image
  let image ← onlyIf (setup.EFI = true) (grubStep repository tools setup OLD_PARTUUID) image
  image.edit tools.fresh .root (fstab setup.toOptions)

def sides : Scheme → List Side
  | .p1 => [.root]
  | .p2 => [.boot, .root]

/-- The partition behind a device, if it is one of the image. -/
def mount {P_VALUE : Scheme} (host : Host P_VALUE) (partition : Side → Filesystem) (device : Text) :
    Option Filesystem :=
  ((host.own.zip (sides P_VALUE)).lookup device).map partition

/-- shrink_p1 or shrink_p2, on what is mounted. -/
def shrinkMounted (OLD_PARTUUID : Text) (mounted : List (Option Filesystem)) : Option Image :=
  match setup.P_VALUE, mounted with
  | .p1, [some root] => (copy_p1 setup root).bind (finish_p1 repository tools setup)
  | .p2, [some boot, some root] =>
    (copy_p2 tools setup boot root).bind (finish_p2 repository tools setup OLD_PARTUUID)
  | _, _ => none

/-- The image that shrink leaves; nothing if it ends before. Commands that are not
modelled are taken to succeed. -/
def shrink (host : Host setup.P_VALUE) (partition : Side → Filesystem) (OLD_PARTUUID : Text) :
    Option Image :=
  (LOOP host.HOST_MACHINE host.KPARTX).bind fun lines =>
    shrinkMounted repository tools setup OLD_PARTUUID
      ((selected setup.P_VALUE lines).map (mount host partition))

end Steps

/-- The files of both partitions by their paths in the running system. -/
def original (FSTYPE : Fstype) (partition : Side → Filesystem) : Image := fun place =>
  match place.1 with
  | .boot => (partition .boot).lookup place.2
  | .root => (partition .root).lookup (rootDirectory FSTYPE ++ place.2)

/-- What U-Boot or the firmware reads about the partitions. -/
def bootPaths (options : Options) : List Text :=
  extlinux_files options ++ bootcmdini_files options ++
    match options.P_VALUE with
    | .p1 => []
    | .p2 => ["config.ini", "cmdline.txt", "config.txt"]

/-- The files that record the identity of the partitions. -/
def isIdentity (options : Options) (place : Place) : Prop :=
  place = (Side.root, ("etc/fstab" : Text)) ∨
  place ∈ (bootPaths options).map (fun path => (bootSide options.P_VALUE, path)) ∨
  options.EFI = true ∧ (isGrubPlace place = true ∨ place = (Side.root, grub_09 options))

/-- The places that the steps write, the script for grub included. -/
def rewritten (grub : Grub) (options : Options) : List Place :=
  let common :=
    (if options.EXTLINUX = true ∧ options.EFI = false then
      (extlinux_files options).map fun path => (bootSide options.P_VALUE, path) else []) ++
    (if (options.BOOTCMD = true ∨ options.BOOTINI = true) ∧ options.EFI = false then
      (bootcmdini_files options).map fun path => (bootSide options.P_VALUE, path) else [])
  match options.P_VALUE with
  | .p1 => common ++ [(Side.root, ("etc/fstab" : Text))]
  | .p2 => common ++
    (if options.PETITBOOT = true ∧ options.EFI = false then
      odroid_files.map fun path => (Side.boot, path) else []) ++
    (if options.FAMILY = .broadcom ∧ options.EFI = false then [(Side.boot, ("cmdline.txt" : Text))] else []) ++
    (if options.FAMILY = .broadcom ∧ options.EFI = false then [(Side.boot, ("config.txt" : Text))] else []) ++
    (if options.EFI = true then
      [(Side.root, update_grub_path), (Side.root, grub_09 options)] ++ grub.files ++
        [(Side.root, update_grub_path)] else []) ++
    [(Side.root, ("etc/fstab" : Text))]

/-- An image that the builder has finished, on partitions with the given identifiers. It
wrote the files of its boot method by the same functions, and no others name the
partitions. -/
structure FinishedImage (repository : Repository) (grub : Grub) (setup : Setup)
    (ids : List Id) where
  partition : Side → Filesystem
  OLD_PARTUUID : Id
  old : OLD_PARTUUID ∈ ids
  etc : ("etc" : Text) ∈ ls (rootDirectory setup.FSTYPE) (partition .root)
  boot : setup.P_VALUE = .p2 → ∃ name ∈ ls [] (partition .boot), isHidden name = false
  directories : setup.EXTLINUX = true ∧ setup.EFI = false →
    ∀ path ∈ extlinux_directories setup.P_VALUE,
      original setup.FSTYPE partition (bootSide setup.P_VALUE, path) ≠ none
  efi : setup.EFI = true →
    ∀ path ∈ efi_directories, original setup.FSTYPE partition (.root, path) ≠ none
  picture : setup.P_VALUE = .p2 → setup.PETITBOOT = true ∧ setup.EFI = false →
    (original setup.FSTYPE partition).files .boot "boot-logo.bmp.gz" =
      some repository.odroid_boot_logo
  entry : setup.EFI = true → ∀ contents,
    (original setup.FSTYPE partition).files .root (grub_09 setup.toOptions) = some contents →
      contents = unlines (board_09 setup.toOptions OLD_PARTUUID.text)
  inputs : setup.EFI = true → ∀ path, isGrubInput path = true → path ≠ grub_09 setup.toOptions →
    Unnamed ids ((original setup.FSTYPE partition).files .root path)
  others : ∀ place, isIdentity setup.toOptions place → place ∉ rewritten grub setup.toOptions →
    UnnamedNode ids (original setup.FSTYPE partition place)

/-- The new partitions hold the files of the old ones, except those that record the
identity of the partitions; of these none names an old one. -/
structure Preserved (setup : Setup) (ids : List Id) (before after : Image) : Prop where
  root : ∀ path, path ≠ [] → ¬ isIdentity setup.toOptions (.root, path) →
    after (.root, path) = before (.root, path)
  boot : setup.P_VALUE = .p2 → ∀ path, path ≠ [] → ¬ isIdentity setup.toOptions (.boot, path) →
    (after (.boot, path)).map Node.entry = (before (.boot, path)).map Node.entry
  renamed : ∀ place, isIdentity setup.toOptions place → UnnamedNode ids (after place)

/-- Shrinking takes the partitions of the image and keeps the system on them. -/
def PreservesSystem (repository : Repository) (tools : Tools) (setup : Setup) (ids : List Id)
    (host : Host setup.P_VALUE) (image : FinishedImage repository tools.grub setup ids) : Prop :=
  (LOOP host.HOST_MACHINE host.KPARTX).map (selected setup.P_VALUE) = some host.own ∧
  ∀ after, shrink repository tools setup host image.partition image.OLD_PARTUUID.text = some after →
    Preserved setup ids (original setup.FSTYPE image.partition) after

/-- Nothing at the top of a partition has a name that begins with a dot, and nothing has
the name of the script for grub. -/
structure AllVisible (setup : Setup) (partition : Side → Filesystem) : Prop where
  root : ∀ name ∈ ls (rootDirectory setup.FSTYPE) (partition .root), isHidden name = false
  boot : setup.P_VALUE = .p2 → ∀ name ∈ ls [] (partition .boot), isHidden name = false
  script : setup.EFI = true → original setup.FSTYPE partition (.root, update_grub_path) = none

section Places

theorem isHidden_top (path : Text) : isHidden (top path) = isHidden path := by
  cases path with
  | nil => rfl
  | cons c path =>
    unfold isHidden top
    rw [List.takeWhile_cons]
    split
    · rfl
    · rename_i slash
      have is : c = '/' := by simpa using slash
      rw [is]
      rfl

theorem isHidden_append (front back : Text) (nonempty : front ≠ []) :
    isHidden (front ++ back) = isHidden front := by
  cases front with
  | nil => exact absurd rfl nonempty
  | cons c front => rfl

variable {setup : Setup} {grub : Grub}

/-- A path that the shell's * leads to, if it exists. -/
def Reached (path : Text) : Prop := path ≠ [] ∧ isHidden path = false

theorem reached_append (front back : Text) (reached : Reached front) : Reached (front ++ back) :=
  ⟨List.append_ne_nil_of_left_ne_nil reached.1 _,
    (isHidden_append front back reached.1).trans reached.2⟩

theorem bootPaths_reached : ∀ path ∈ bootPaths setup.toOptions, Reached path := by
  have env : Reached (setup.PLATFORM ++ ("Env.txt" : Text)) :=
    reached_append _ _ ⟨ne_nil_of_isFileName _ setup.names.1, setup.visible⟩
  unfold bootPaths extlinux_files bootcmdini_files
  cases setup.P_VALUE with
  | p1 =>
    have below (path : Text) : Reached (BOOT_PATH .p1 ++ path) :=
      reached_append _ _ ⟨by decide, by decide⟩
    simp only [List.forall_mem_append, List.forall_mem_cons]
    exact ⟨⟨⟨below _, fun _ member => nomatch member⟩, below _, below _, below _, below _,
      fun _ member => nomatch member⟩, fun _ member => nomatch member⟩
  | p2 =>
    have below (path : Text) (reached : Reached path) : Reached (BOOT_PATH .p2 ++ path) := reached
    simp only [List.forall_mem_append, List.forall_mem_cons]
    exact ⟨⟨⟨below _ ⟨by decide, rfl⟩, fun _ member => nomatch member⟩, below _ ⟨by decide, rfl⟩,
      below _ ⟨by decide, rfl⟩, below _ ⟨by decide, rfl⟩, below _ env,
      fun _ member => nomatch member⟩, ⟨by decide, rfl⟩, ⟨by decide, rfl⟩, ⟨by decide, rfl⟩,
      fun _ member => nomatch member⟩

theorem isGrubPlace_reached {place : Place} (grub : isGrubPlace place = true) :
    Reached place.2 := by
  obtain ⟨side, path⟩ := place
  cases side with
  | boot =>
    obtain ⟨rest, rfl⟩ := List.isPrefixOf_iff_prefix.mp grub
    exact reached_append _ _ ⟨by decide, by decide⟩
  | root =>
    obtain ⟨rest, rfl⟩ := List.isPrefixOf_iff_prefix.mp grub
    exact reached_append _ _ ⟨by decide, by decide⟩

theorem grub_09_reached (options : Options) : Reached (grub_09 options) :=
  reached_append _ _ ⟨by decide, by decide⟩

/-- No file that records the identity of the partitions is hidden. -/
theorem isIdentity_reached {place : Place} (identity : isIdentity setup.toOptions place) :
    Reached place.2 := by
  rcases identity with rfl | boot | ⟨_, grub | rfl⟩
  · exact ⟨by decide, rfl⟩
  · obtain ⟨path, member, rfl⟩ := List.mem_map.mp boot
    exact bootPaths_reached path member
  · exact isGrubPlace_reached grub
  · exact grub_09_reached setup.toOptions

/-- There is a boot partition if one of these files is on it. -/
theorem scheme_of_isIdentity {path : Text} (identity : isIdentity setup.toOptions (.boot, path)) :
    setup.P_VALUE = .p2 := by
  cases scheme : setup.P_VALUE with
  | p2 => rfl
  | p1 =>
    rcases identity with is | boot | ⟨efi, _⟩
    · nomatch (Prod.mk.inj is).1
    · obtain ⟨other, _, is⟩ := List.mem_map.mp boot
      rw [show setup.toOptions.P_VALUE = .p1 from scheme] at is
      nomatch (Prod.mk.inj is).1
    · rw [(setup.single scheme).2] at efi
      nomatch efi

theorem update_grub_path_other (efi : setup.EFI = true) :
    ¬ isIdentity setup.toOptions (.root, update_grub_path) := by
  rintro (is | boot | ⟨_, grub | is⟩)
  · exact absurd (Prod.mk.inj is).2 (by decide)
  · obtain ⟨other, _, is⟩ := List.mem_map.mp boot
    cases scheme : setup.P_VALUE with
    | p1 =>
      rw [(setup.single scheme).2] at efi
      nomatch efi
    | p2 =>
      rw [show setup.toOptions.P_VALUE = .p2 from scheme] at is
      nomatch (Prod.mk.inj is).1
  · exact absurd grub (by decide)
  · have head : update_grub_path.head? = some 'e' := by rw [(Prod.mk.inj is).2]; rfl
    nomatch head

/-- The steps write files that record the identity, and the script for grub. -/
theorem isIdentity_of_rewritten {place : Place} (member : place ∈ rewritten grub setup.toOptions) :
    isIdentity setup.toOptions place ∨ setup.EFI = true ∧ place = (Side.root, update_grub_path) := by
  have onBoot {paths : List Text} (within : ∀ path ∈ paths, path ∈ bootPaths setup.toOptions)
      (inside : place ∈ paths.map fun path => (bootSide setup.P_VALUE, path)) :
      isIdentity setup.toOptions place := by
    obtain ⟨path, listed, rfl⟩ := List.mem_map.mp inside
    exact Or.inr (Or.inl (List.mem_map_of_mem (within path listed)))
  have common (inside : place ∈
      (if setup.EXTLINUX = true ∧ setup.EFI = false then
        (extlinux_files setup.toOptions).map fun path => (bootSide setup.P_VALUE, path) else []) ++
      (if (setup.BOOTCMD = true ∨ setup.BOOTINI = true) ∧ setup.EFI = false then
        (bootcmdini_files setup.toOptions).map fun path => (bootSide setup.P_VALUE, path)
        else [])) : isIdentity setup.toOptions place := by
    rw [List.mem_append, List.mem_ite_nil_right, List.mem_ite_nil_right] at inside
    rcases inside with ⟨_, one⟩ | ⟨_, two⟩
    · exact onBoot (fun path listed => List.mem_append_left _ (List.mem_append_left _ listed)) one
    · exact onBoot (fun path listed => List.mem_append_left _ (List.mem_append_right _ listed)) two
  have last (inside : place ∈ [(Side.root, ("etc/fstab" : Text))]) :
      isIdentity setup.toOptions place :=
    Or.inl (List.mem_singleton.mp inside)
  unfold rewritten at member
  dsimp only at member
  split at member
  · rcases List.mem_append.mp member with inside | inside
    · exact Or.inl (common inside)
    · exact Or.inl (last inside)
  · rename_i scheme
    have onSecond (paths : List Text) (within : ∀ path ∈ paths, path ∈ bootPaths setup.toOptions)
        (inside : place ∈ paths.map fun path => (Side.boot, path)) :
        isIdentity setup.toOptions place := by
      apply onBoot within
      rw [scheme]
      exact inside
    have firmware : bootPaths setup.toOptions = extlinux_files setup.toOptions ++
        bootcmdini_files setup.toOptions ++
        ([("config.ini" : Text), "cmdline.txt", "config.txt"] : List Text) := by
      unfold bootPaths
      rw [scheme]
    have path : BOOT_PATH setup.P_VALUE = [] := by rw [scheme]; rfl
    rw [List.mem_append, List.mem_append, List.mem_append, List.mem_append, List.mem_append,
      List.mem_ite_nil_right, List.mem_ite_nil_right, List.mem_ite_nil_right,
      List.mem_ite_nil_right] at member
    rcases member with ((((inside | ⟨_, odroid⟩) | ⟨_, cmdline⟩) | ⟨_, config⟩) | ⟨efi, grubs⟩) | inside
    · exact Or.inl (common inside)
    · left
      apply onSecond odroid_files _ odroid
      rw [firmware, bootcmdini_files, path]
      simp only [odroid_files, List.forall_mem_cons]
      exact ⟨List.mem_append_left _ (List.mem_append_right _ List.mem_cons_self),
        List.mem_append_right _ List.mem_cons_self, List.mem_append_left _
          (List.mem_append_right _ (List.mem_cons_of_mem _ List.mem_cons_self)),
        fun _ member => nomatch member⟩
    · left
      apply onSecond ["cmdline.txt"] _ cmdline
      rw [firmware, List.forall_mem_singleton]
      apply List.mem_append_right
      decide
    · left
      apply onSecond ["config.txt"] _ config
      rw [firmware, List.forall_mem_singleton]
      apply List.mem_append_right
      decide
    · rw [List.mem_append, List.mem_append, List.mem_cons, List.mem_singleton,
        List.mem_singleton] at grubs
      rcases grubs with ((script | entry) | menu) | script
      · exact Or.inr ⟨efi, script⟩
      · exact Or.inl (Or.inr (Or.inr ⟨efi, Or.inr entry⟩))
      · exact Or.inl (Or.inr (Or.inr ⟨efi, Or.inl (grub.placed place menu)⟩))
      · exact Or.inr ⟨efi, script⟩
    · exact Or.inl (last inside)

end Places

/-- What the copy of a finished image holds before anything is written into it. -/
structure Copied (setup : Setup) (partition : Side → Filesystem) (image : Image) : Prop where
  root : ∀ path, path ≠ [] → isHidden path = false →
    image (.root, path) = original setup.FSTYPE partition (.root, path)
  boot : setup.P_VALUE = .p2 → ∀ path, path ≠ [] → isHidden path = false →
    (image (.boot, path)).map Node.entry =
      (original setup.FSTYPE partition (.boot, path)).map Node.entry
  rootHidden : ∀ path, isHidden path = true → image (.root, path) = none
  bootHidden : setup.P_VALUE = .p2 → ∀ path, isHidden path = true → image (.boot, path) = none

section Copy

variable (tools : Tools) {setup : Setup} {partition : Side → Filesystem}

theorem sourceDirectory_eq : sourceDirectory setup.P_VALUE setup.FSTYPE =
    rootDirectory setup.FSTYPE := by
  cases scheme : setup.P_VALUE with
  | p1 =>
    rw [(setup.single scheme).1]
    rfl
  | p2 => cases setup.FSTYPE <;> rfl

theorem copy_p1_copied (scheme : setup.P_VALUE = .p1)
    (etc : ("etc" : Text) ∈ ls (rootDirectory setup.FSTYPE) (partition .root)) :
    ∃ image, copy_p1 setup (partition .root) = some image ∧ Copied setup partition image := by
  have source : sourceDirectory setup.P_VALUE setup.FSTYPE = rootDirectory setup.FSTYPE :=
    sourceDirectory_eq
  rw [scheme] at source
  obtain ⟨tree, copied⟩ := copy_isSome etc (by decide)
  unfold copy_p1
  rw [source, copied]
  refine ⟨_, rfl, ?_, ?_, ?_, ?_⟩
  · intro path nonempty visible
    exact copy_visible copied nonempty ((isHidden_top path).trans visible)
  · intro other
    nomatch scheme.symm.trans other
  · intro path hidden
    exact copy_hidden copied ((isHidden_top path).trans hidden)
  · intro other
    nomatch scheme.symm.trans other

theorem copy_p2_copied (scheme : setup.P_VALUE = .p2)
    (etc : ("etc" : Text) ∈ ls (rootDirectory setup.FSTYPE) (partition .root))
    (boot : ∃ name ∈ ls [] (partition .boot), isHidden name = false) :
    ∃ image, copy_p2 tools setup (partition .boot) (partition .root) = some image ∧
      Copied setup partition image := by
  have source : sourceDirectory setup.P_VALUE setup.FSTYPE = rootDirectory setup.FSTYPE :=
    sourceDirectory_eq
  rw [scheme] at source
  obtain ⟨tree, copied⟩ := copy_isSome etc (by decide)
  obtain ⟨name, listed, seen⟩ := boot
  obtain ⟨bootTree, bootCopied⟩ := copy_isSome listed seen
  unfold copy_p2
  rw [source, copied, bootCopied]
  refine ⟨_, rfl, ?_, ?_, ?_, ?_⟩
  · intro path nonempty visible
    exact copy_visible copied nonempty ((isHidden_top path).trans visible)
  · intro _ path nonempty visible
    have same := copy_visible bootCopied nonempty ((isHidden_top path).trans visible)
    dsimp only [original]
    rw [same, List.nil_append, Option.map_map]
    rfl
  · intro path hidden
    exact copy_hidden copied ((isHidden_top path).trans hidden)
  · intro _ path hidden
    dsimp only
    rw [copy_hidden bootCopied ((isHidden_top path).trans hidden)]
    rfl

end Copy

section Running

variable {ids : List Id} {image : Image} {fresh : Place → Attributes} {side : Side}

theorem makeDirectories_present (tools : Tools) (paths : List Text)
    (present : ∀ path ∈ paths, image (side, path) ≠ none) :
    makeDirectories tools side paths image = image := by
  unfold makeDirectories
  induction paths with
  | nil => rfl
  | cons path paths ih =>
    rw [List.forall_mem_cons] at present
    rw [List.foldl_cons, Image.mkdir_present (side, path) present.1]
    exact ih present.2

theorem edit_renewed {command : Volume → Option Volume} {paths : List Text}
    (works : ∃ after, command (image.files side) = some after ∧
      Renewed (Unnamed ids) paths (image.files side) after) :
    ∃ result, image.edit fresh side command = some result ∧
      Renewed (UnnamedNode ids) (paths.map fun path => (side, path)) image result := by
  obtain ⟨after, ran, renewed⟩ := works
  have edited : ∃ result, image.edit fresh side command = some result := by
    rw [Image.edit, ran]
    exact ⟨_, rfl⟩
  obtain ⟨result, edited⟩ := edited
  exact ⟨result, edited, Image.renewed_edit ran renewed edited⟩

theorem onlyIf_renewed {guard : Prop} [Decidable guard] {step : Image → Option Image}
    {places : List Place} (works : guard → ∃ after, step image = some after ∧
      Renewed (UnnamedNode ids) places image after) :
    ∃ after, onlyIf guard step image = some after ∧
      Renewed (UnnamedNode ids) (if guard then places else []) image after := by
  unfold onlyIf
  split
  · rename_i holds
    exact works holds
  · exact ⟨image, rfl, Renewed.refl image⟩

theorem onlyIf_edit_renewed (fresh : Place → Attributes) {guard : Prop} [Decidable guard]
    {command : Volume → Option Volume} {paths : List Text}
    (works : guard → ∃ after, command (image.files side) = some after ∧
      Renewed (Unnamed ids) paths (image.files side) after) :
    ∃ after, onlyIf guard (·.edit fresh side command) image = some after ∧
      Renewed (UnnamedNode ids) (if guard then paths.map fun path => (side, path) else [])
        image after :=
  onlyIf_renewed fun holds => edit_renewed (works holds)

theorem edit_removed {path text : Text} {result : Image}
    (present : image.files side path = some text)
    (edited : image.edit fresh side (fun files => some (files.remove [path])) = some result) :
    result (side, path) = none := by
  obtain rfl := Option.some.inj edited
  have gone : (image.files side).remove [path] path = none := if_pos List.mem_cons_self
  dsimp only
  rw [gone, present, if_pos ⟨rfl, (Option.some_ne_none text).symm⟩]
  rfl

variable {repository : Repository} {tools : Tools} {setup : Setup}
  (new : Fresh ids repository tools setup.toOptions)
include new

theorem extlinuxStep_renewed (present : ∀ path ∈ extlinux_directories setup.P_VALUE,
      image (bootSide setup.P_VALUE, path) ≠ none) :
    ∃ after, extlinuxStep tools setup image = some after ∧
      Renewed (UnnamedNode ids) ((extlinux_files setup.toOptions).map fun path =>
        (bootSide setup.P_VALUE, path)) image after := by
  rw [extlinuxStep, makeDirectories_present tools _ present]
  exact edit_renewed (new.extlinux_renewed _)

theorem chrootGrub_renewed
    (inputs : ∀ path, isGrubInput path = true → Unnamed ids (image.files .root path)) :
    Renewed (UnnamedNode ids) tools.grub.files image (chrootGrub tools setup image) := by
  constructor
  · intro place member contents attributes is
    rw [chrootGrub, if_pos member] at is
    rw [← Entry.file.inj (Node.mk.inj (Option.some.inj is)).1]
    intro id listed inside
    rcases tools.grub.named _ image place id member inside with ⟨given, known, found⟩ |
      ⟨path, text, input, stored, found⟩
    · simp only [List.mem_cons, List.not_mem_nil, or_false] at known
      rcases known with rfl | rfl | rfl
      · exact new.root id listed found
      · exact new.part id listed found
      · exact new.boot id listed found
    · exact inputs path input text stored id listed found
  · intro place apart
    exact if_neg apart

theorem replacePartuuid_renewed {OLD_PARTUUID : Id} (old : OLD_PARTUUID ∈ ids) (before : Volume)
    (entry : ∀ contents, before (grub_09 setup.toOptions) = some contents →
      contents = unlines (board_09 setup.toOptions OLD_PARTUUID.text)) :
    ∃ after, replacePartuuid setup OLD_PARTUUID.text before = some after ∧
      Renewed (Unnamed ids) [grub_09 setup.toOptions] before after := by
  unfold replacePartuuid
  split
  · rename_i contents found
    refine ⟨_, rfl, renewed_write before _ _ ?_⟩
    rw [entry contents found, new.board_09_replaced old]
    exact new.board_09_free
  · rename_i absent
    refine ⟨before, rfl, Renewed.single ?_ fun _ _ => rfl⟩
    intro text found
    rw [absent] at found
    nomatch found

/-- The script for grub is there while grub runs, and gone afterwards. -/
theorem grubStep_renewed {OLD_PARTUUID : Id} (old : OLD_PARTUUID ∈ ids)
    (present : ∀ path ∈ efi_directories, image (.root, path) ≠ none)
    (entry : ∀ contents, image.files .root (grub_09 setup.toOptions) = some contents →
      contents = unlines (board_09 setup.toOptions OLD_PARTUUID.text))
    (inputs : ∀ path, isGrubInput path = true → path ≠ grub_09 setup.toOptions →
      Unnamed ids (image.files .root path)) :
    ∃ after, grubStep repository tools setup OLD_PARTUUID.text image = some after ∧
      Renewed (UnnamedNode ids) ([(.root, update_grub_path), (.root, grub_09 setup.toOptions)] ++
        tools.grub.files ++ [(.root, update_grub_path)]) image after ∧
      after (.root, update_grub_path) = none := by
  have different : update_grub_path ≠ grub_09 setup.toOptions := by
    intro is
    have head : update_grub_path.head? = some 'e' := by rw [is]; rfl
    nomatch head
  -- the script is written
  have written : ∃ one, image.edit tools.fresh .root
        (fun files => some (files.write update_grub_path repository.update_grub_sh)) = some one ∧
      Renewed (UnnamedNode ids) ([update_grub_path].map fun path => (Side.root, path)) image one :=
    edit_renewed ⟨_, rfl, renewed_write _ update_grub_path _ new.grub⟩
  obtain ⟨one, wrote, first⟩ := written
  have kept (path : Text) (other : path ≠ update_grub_path) :
      one.files .root path = image.files .root path := by
    apply files_of_entry
    rw [first.outside]
    intro member
    exact other (Prod.mk.inj (List.mem_singleton.mp member)).2
  -- the entry of the board is for the new partition
  have edited : ∃ two, one.edit tools.fresh .root
        (replacePartuuid setup OLD_PARTUUID.text) = some two ∧
      Renewed (UnnamedNode ids) ([grub_09 setup.toOptions].map fun path => (Side.root, path))
        one two := by
    apply edit_renewed (replacePartuuid_renewed new old _ _)
    rw [kept _ (Ne.symm different)]
    exact entry
  obtain ⟨two, replaced, second⟩ := edited
  have same (path : Text) (other : path ≠ grub_09 setup.toOptions) :
      two.files .root path = one.files .root path := by
    apply files_of_entry
    rw [second.outside]
    intro member
    exact other (Prod.mk.inj (List.mem_singleton.mp member)).2
  -- so grub finds no old identifier in its input
  have third : Renewed (UnnamedNode ids) tools.grub.files two (chrootGrub tools setup two) := by
    apply chrootGrub_renewed new
    intro path input
    by_cases board : path = grub_09 setup.toOptions
    · rw [board, ← unnamedNode_iff]
      exact second.inside _ List.mem_cons_self
    · have other : path ≠ update_grub_path := by
        rintro rfl
        exact absurd input (by decide)
      rw [same path board, kept path other]
      exact inputs path input board
  have script : (chrootGrub tools setup two).files .root update_grub_path =
      some repository.update_grub_sh := by
    have outside : (Side.root, update_grub_path) ∉ tools.grub.files := fun member =>
      absurd (tools.grub.placed _ member) (by decide)
    have unchanged : (chrootGrub tools setup two).files .root update_grub_path =
        two.files .root update_grub_path := by
      apply files_of_entry
      rw [third.outside _ outside]
    have stored : one.files .root =
        (image.files .root).write update_grub_path repository.update_grub_sh :=
      Image.edit_files (by rfl) wrote
    rw [unchanged, same _ different, stored, Volume.write_same]
  -- and the script goes again
  have removed : ∃ four, (chrootGrub tools setup two).edit tools.fresh .root
        (fun files => some (files.remove [update_grub_path])) = some four ∧
      Renewed (UnnamedNode ids) ([update_grub_path].map fun path => (Side.root, path))
        (chrootGrub tools setup two) four :=
    edit_renewed ⟨_, rfl, renewed_remove _ [update_grub_path]⟩
  obtain ⟨four, went, fourth⟩ := removed
  refine ⟨four, ?_, ((first.trans second).trans third).trans fourth, edit_removed script went⟩
  rw [grubStep, makeDirectories_present tools _ present]
  simp only [Option.bind_eq_bind]
  rw [wrote, Option.bind_some, replaced, Option.bind_some, went]

end Running

end ImageBuilder.Shrink
