import ImageBuilder.ShrunkImage

set_option autoImplicit false

/- What the new partitions hold when shrink has completed, and on which images and
machines that is the system of the old ones. -/
namespace ImageBuilder.Shrink

open PlainText Numerals EnvText StreamEditor Staging Identifiers Renewal

section Finish

variable {repository : Repository} {tools : Tools} {setup : Setup} {ids : List Id}
  {partition : Side → Filesystem} {before : Image} (copied : Copied setup partition before)
include copied

theorem Copied.files_root {path : Text} (nonempty : path ≠ []) (visible : isHidden path = false) :
    before.files .root path = (original setup.FSTYPE partition).files .root path :=
  files_of_entry (congrArg (Option.map Node.entry) (copied.root path nonempty visible))

theorem Copied.present {path : Text} (nonempty : path ≠ []) (visible : isHidden path = false)
    (present : original setup.FSTYPE partition (bootSide setup.P_VALUE, path) ≠ none) :
    before (bootSide setup.P_VALUE, path) ≠ none := by
  cases scheme : setup.P_VALUE with
  | p1 =>
    rw [scheme] at present
    show before (.root, path) ≠ none
    rw [copied.root path nonempty visible]
    exact present
  | p2 =>
    rw [scheme] at present
    intro absent
    have same := copied.boot scheme path nonempty visible
    rw [show before (.boot, path) = none from absent] at same
    exact present (Option.map_eq_none_iff.mp same.symm)

end Finish

theorem extlinux_directories_visible (P_VALUE : Scheme) :
    ∀ path ∈ extlinux_directories P_VALUE, path ≠ [] ∧ isHidden path = false := by
  cases P_VALUE <;> decide

theorem efi_directories_visible : ∀ path ∈ efi_directories, path ≠ [] ∧ isHidden path = false := by
  decide

theorem isGrubInput_visible {path : Text} (input : isGrubInput path = true) :
    path ≠ [] ∧ isHidden path = false := by
  rw [isGrubInput, Bool.or_eq_true, beq_iff_eq] at input
  rcases input with rfl | below
  · decide
  · obtain ⟨rest, rfl⟩ := List.isPrefixOf_iff_prefix.mp below
    exact ⟨List.cons_ne_nil _ _, rfl⟩

/-- No file of the boot methods ends like the picture. -/
theorem picture_apart (options : Options) :
    ("boot-logo.bmp.gz" : Text) ∉ extlinux_files options ++ bootcmdini_files options := by
  have last : ∀ path ∈ extlinux_files options ++ bootcmdini_files options,
      path.getLast? ≠ some 'z' := by
    simp [extlinux_files, bootcmdini_files]
  intro member
  exact last _ member rfl

section Run

variable {repository : Repository} {tools : Tools} {setup : Setup} {ids : List Id}
  (new : Fresh ids repository tools setup.toOptions)
  (image : FinishedImage repository tools.grub setup ids) {before : Image}
  (copied : Copied setup image.partition before)
include new copied

theorem extlinux_runs (guard : setup.EXTLINUX = true ∧ setup.EFI = false) :
    ∃ after, extlinuxStep tools setup before = some after ∧
      Renewed (UnnamedNode ids) ((extlinux_files setup.toOptions).map fun path =>
        (bootSide setup.P_VALUE, path)) before after := by
  apply extlinuxStep_renewed new
  intro path member
  obtain ⟨nonempty, visible⟩ := extlinux_directories_visible _ path member
  exact copied.present nonempty visible (image.directories guard path member)

omit copied in
theorem bootcmdini_runs (state : Image)
    (guard : (setup.BOOTCMD = true ∨ setup.BOOTINI = true) ∧ setup.EFI = false) :
    ∃ after, bootcmdiniStep repository tools setup state = some after ∧
      Renewed (UnnamedNode ids) ((bootcmdini_files setup.toOptions).map fun path =>
        (bootSide setup.P_VALUE, path)) state after :=
  edit_renewed (new.bootcmdini_renewed _ setup.plain.2 guard.1)

theorem finish_p1_runs (scheme : setup.P_VALUE = .p1) :
    ∃ after, finish_p1 repository tools setup before = some after ∧
      Renewed (UnnamedNode ids) (rewritten tools.grub setup.toOptions) before after := by
  obtain ⟨one, ran1, first⟩ := onlyIf_renewed (extlinux_runs new image copied)
  obtain ⟨two, ran2, second⟩ := onlyIf_renewed (bootcmdini_runs new one)
  obtain ⟨after, ran3, third⟩ : ∃ after, two.edit tools.fresh .root (fstab setup.toOptions) =
      some after ∧ Renewed (UnnamedNode ids) [(Side.root, ("etc/fstab" : Text))] two after :=
    edit_renewed (new.fstab_renewed _)
  refine ⟨after, ?_, ?_⟩
  · rw [finish_p1]
    simp only [Option.bind_eq_bind]
    rw [ran1, Option.bind_some, ran2, Option.bind_some, ran3]
  · unfold rewritten
    rw [scheme] at first second ⊢
    exact (first.trans second).trans third

omit new in
theorem picture_present (scheme : setup.P_VALUE = .p2) {state : Image}
    (same : state (.boot, "boot-logo.bmp.gz") = before (.boot, "boot-logo.bmp.gz"))
    (guard : setup.PETITBOOT = true ∧ setup.EFI = false) :
    state.files .boot "boot-logo.bmp.gz" = some repository.odroid_boot_logo := by
  rw [← image.picture scheme guard]
  apply files_of_entry
  rw [same]
  exact copied.boot scheme _ (by decide) (by decide)

/-- Grub runs on the copy as it is: the other boot methods are off then. -/
theorem grub_runs (efi : setup.EFI = true) :
    ∃ after, grubStep repository tools setup image.OLD_PARTUUID.text before = some after ∧
      Renewed (UnnamedNode ids) ([(.root, update_grub_path), (.root, grub_09 setup.toOptions)] ++
        tools.grub.files ++ [(.root, update_grub_path)]) before after ∧
      after (.root, update_grub_path) = none := by
  apply grubStep_renewed new image.old
  · intro path member
    obtain ⟨nonempty, visible⟩ := efi_directories_visible path member
    rw [copied.root path nonempty visible]
    exact image.efi efi path member
  · intro contents found
    have reached := grub_09_reached setup.toOptions
    rw [copied.files_root reached.1 reached.2] at found
    exact image.entry efi contents found
  · intro path input other
    obtain ⟨nonempty, visible⟩ := isGrubInput_visible input
    rw [copied.files_root nonempty visible]
    exact image.inputs efi path input other

theorem finish_p2_runs (scheme : setup.P_VALUE = .p2) :
    ∃ after, finish_p2 repository tools setup image.OLD_PARTUUID.text before = some after ∧
      Renewed (UnnamedNode ids) (rewritten tools.grub setup.toOptions) before after ∧
      (setup.EFI = true → after (.root, update_grub_path) = none) := by
  obtain ⟨one, ran1, first⟩ := onlyIf_renewed (extlinux_runs new image copied)
  obtain ⟨two, ran2, second⟩ := onlyIf_renewed (bootcmdini_runs new one)
  have common := first.trans second
  have unpictured : two (.boot, "boot-logo.bmp.gz") = before (.boot, "boot-logo.bmp.gz") := by
    apply common.outside
    intro member
    apply picture_apart setup.toOptions
    rw [List.mem_append, List.mem_ite_nil_right, List.mem_ite_nil_right] at member
    rw [List.mem_append]
    rcases member with ⟨_, member⟩ | ⟨_, member⟩
    · obtain ⟨path, listed, is⟩ := List.mem_map.mp member
      exact Or.inl ((Prod.mk.inj is).2 ▸ listed)
    · obtain ⟨path, listed, is⟩ := List.mem_map.mp member
      exact Or.inr ((Prod.mk.inj is).2 ▸ listed)
  obtain ⟨three, ran3, third⟩ := onlyIf_edit_renewed tools.fresh fun guard =>
    new.odroid_renewed (two.files .boot) setup.plain.1
      (picture_present image copied scheme unpictured guard)
  obtain ⟨four, ran4, fourth⟩ := onlyIf_edit_renewed tools.fresh
    fun _ : setup.FAMILY = .broadcom ∧ setup.EFI = false =>
      new.cmdline_renewed (three.files .boot)
  obtain ⟨five, ran5, fifth⟩ := onlyIf_edit_renewed tools.fresh
    fun _ : setup.FAMILY = .broadcom ∧ setup.EFI = false =>
      new.config_renewed (four.files .boot)
  have booted := ((common.trans third).trans fourth).trans fifth
  have asCopied (efi : setup.EFI = true) : five = before := by
    funext place
    apply booted.outside
    simp [efi]
  have grub (efi : setup.EFI = true) :
      ∃ after, grubStep repository tools setup image.OLD_PARTUUID.text five = some after ∧
        Renewed (UnnamedNode ids) ([(.root, update_grub_path), (.root, grub_09 setup.toOptions)] ++
          tools.grub.files ++ [(.root, update_grub_path)]) five after := by
    rw [asCopied efi]
    obtain ⟨after, ran, renewed, _⟩ := grub_runs new image copied efi
    exact ⟨after, ran, renewed⟩
  obtain ⟨six, ran6, sixth⟩ := onlyIf_renewed grub
  obtain ⟨after, ran7, seventh⟩ : ∃ after, six.edit tools.fresh .root (fstab setup.toOptions) =
      some after ∧ Renewed (UnnamedNode ids) [(Side.root, ("etc/fstab" : Text))] six after :=
    edit_renewed (new.fstab_renewed _)
  refine ⟨after, ?_, ?_, ?_⟩
  · rw [finish_p2]
    simp only [Option.bind_eq_bind]
    rw [ran1, Option.bind_some, ran2, Option.bind_some, ran3, Option.bind_some, ran4,
      Option.bind_some, ran5, Option.bind_some, ran6, Option.bind_some, ran7]
  · unfold rewritten
    rw [scheme] at booted ⊢
    exact (booted.trans sixth).trans seventh
  · intro efi
    obtain ⟨other, ran, _, gone⟩ := grub_runs new image copied efi
    rw [onlyIf, if_pos efi, asCopied efi, ran] at ran6
    obtain rfl := Option.some.inj ran6
    rw [seventh.outside _ (by decide)]
    exact gone

end Run

/-- The devices of the image are its partitions. -/
theorem mount_own {P_VALUE : Scheme} (host : Host P_VALUE) (partition : Side → Filesystem) :
    host.own.map (mount host partition) = (sides P_VALUE).map fun side => some (partition side) := by
  cases P_VALUE with
  | p1 =>
    have root : (host.own.zip (sides .p1)).lookup (mapper (loopName host.loop 1)) = some .root :=
      List.lookup_cons_self
    show [mount host partition (mapper (loopName host.loop 1))] = [some (partition .root)]
    rw [mount, root, Option.map_some]
  | p2 =>
    have different : mapper (loopName host.loop 2) ≠ mapper (loopName host.loop 1) := by
      intro is
      have last : 'p' :: decimal 2 = 'p' :: decimal 1 :=
        List.append_cancel_left (List.append_cancel_left is)
      exact absurd last (by decide)
    have boot : (host.own.zip (sides .p2)).lookup (mapper (loopName host.loop 1)) = some .boot :=
      List.lookup_cons_self
    have root : (host.own.zip (sides .p2)).lookup (mapper (loopName host.loop 2)) = some .root := by
      show List.lookup _ [(mapper (loopName host.loop 1), Side.boot),
        (mapper (loopName host.loop 2), Side.root)] = _
      rw [List.lookup_cons, beq_eq_false_iff_ne.mpr different]
      exact List.lookup_cons_self
    show [mount host partition (mapper (loopName host.loop 1)),
      mount host partition (mapper (loopName host.loop 2))] =
        [some (partition .boot), some (partition .root)]
    rw [mount, mount, boot, root, Option.map_some, Option.map_some]

section Preserved

variable {repository : Repository} {tools : Tools} {setup : Setup} {ids : List Id}
  (new : Fresh ids repository tools setup.toOptions) (host : Host setup.P_VALUE)
  (image : FinishedImage repository tools.grub setup ids)
include new

theorem shrinkMounted_runs : ∃ before after, Copied setup image.partition before ∧
    shrinkMounted repository tools setup image.OLD_PARTUUID.text
      ((sides setup.P_VALUE).map fun side => some (image.partition side)) = some after ∧
    Renewed (UnnamedNode ids) (rewritten tools.grub setup.toOptions) before after ∧
    (setup.EFI = true → after (.root, update_grub_path) = none) := by
  unfold shrinkMounted
  cases scheme : setup.P_VALUE with
  | p1 =>
    obtain ⟨before, made, copied⟩ := copy_p1_copied scheme image.etc
    obtain ⟨after, ran, renewed⟩ := finish_p1_runs new image copied scheme
    refine ⟨before, after, copied, ?_, renewed, ?_⟩
    · show (copy_p1 setup (image.partition .root)).bind _ = some after
      rw [made]
      exact ran
    · intro efi
      rw [(setup.single scheme).2] at efi
      nomatch efi
  | p2 =>
    obtain ⟨before, made, copied⟩ := copy_p2_copied tools scheme image.etc (image.boot scheme)
    obtain ⟨after, ran, renewed, gone⟩ := finish_p2_runs new image copied scheme
    refine ⟨before, after, copied, ?_, renewed, gone⟩
    show (copy_p2 tools setup (image.partition .boot) (image.partition .root)).bind _ = some after
    rw [made]
    exact ran

/-- When the devices are found shrink completes. -/
theorem shrink_runs (reached : host.HOST_MACHINE = "Ubuntu".toList ∨ host.loop < 10) :
    ∃ before after, Copied setup image.partition before ∧
      shrink repository tools setup host image.partition image.OLD_PARTUUID.text = some after ∧
      Renewed (UnnamedNode ids) (rewritten tools.grub setup.toOptions) before after ∧
      (setup.EFI = true → after (.root, update_grub_path) = none) := by
  obtain ⟨lines, found, own⟩ := Option.map_eq_some_iff.mp (LOOP_found host reached)
  have mounted := mount_own host image.partition
  rw [← own] at mounted
  unfold shrink
  rw [found, Option.bind_some, mounted]
  exact shrinkMounted_runs new image

omit new in
/-- What is hidden is not there, if nothing is. -/
theorem original_hidden (all : AllVisible setup image.partition) {path : Text}
    (hidden : isHidden path = true) :
    original setup.FSTYPE image.partition (.root, path) = none ∧
      (setup.P_VALUE = .p2 → original setup.FSTYPE image.partition (.boot, path) = none) := by
  have nonempty : path ≠ [] := by
    rintro rfl
    nomatch hidden
  have absent (directory : Text) (files : Filesystem)
      (visible : ∀ name ∈ ls directory files, isHidden name = false) :
      files.lookup (directory ++ path) = none := by
    rw [← Option.not_isSome_iff_eq_none]
    intro present
    have listed := visible (top path) ((mem_ls_iff _).mpr ⟨path, nonempty, present, rfl⟩)
    rw [isHidden_top, hidden] at listed
    nomatch listed
  exact ⟨absent _ _ all.root, fun scheme => absent [] _ (all.boot scheme)⟩

omit new in
/-- With nothing left behind the copy, renewed, is the system. -/
theorem preserved_of_visible {before after : Image} (copied : Copied setup image.partition before)
    (renewed : Renewed (UnnamedNode ids) (rewritten tools.grub setup.toOptions) before after)
    (gone : setup.EFI = true → after (.root, update_grub_path) = none)
    (all : AllVisible setup image.partition) :
    Preserved setup ids (original setup.FSTYPE image.partition) after := by
  constructor
  · intro path nonempty other
    by_cases member : (Side.root, path) ∈ rewritten tools.grub setup.toOptions
    · rcases isIdentity_of_rewritten member with identity | ⟨efi, script⟩
      · exact absurd identity other
      · rw [(Prod.mk.inj script).2, gone efi, all.script efi]
    · rw [renewed.outside _ member]
      cases hidden : isHidden path with
      | false => exact copied.root path nonempty hidden
      | true => rw [copied.rootHidden path hidden, (original_hidden image all hidden).1]
  · intro scheme path nonempty other
    have member : (Side.boot, path) ∉ rewritten tools.grub setup.toOptions := by
      intro member
      rcases isIdentity_of_rewritten member with identity | ⟨_, script⟩
      · exact other identity
      · nomatch (Prod.mk.inj script).1
    rw [renewed.outside _ member]
    cases hidden : isHidden path with
    | false => exact copied.boot scheme path nonempty hidden
    | true => rw [copied.bootHidden scheme path hidden, (original_hidden image all hidden).2 scheme]
  · intro place identity
    by_cases member : place ∈ rewritten tools.grub setup.toOptions
    · exact renewed.inside place member
    · rw [renewed.outside place member]
      have unnamed := image.others place identity member
      obtain ⟨nonempty, visible⟩ := isIdentity_reached identity
      obtain ⟨side, path⟩ := place
      cases side with
      | root =>
        rw [copied.root path nonempty visible]
        exact unnamed
      | boot =>
        have same := copied.boot (scheme_of_isIdentity identity) path nonempty visible
        rw [unnamedNode_iff, files_of_entry same, ← unnamedNode_iff]
        exact unnamed

omit new in
/-- A hidden name is missing from the new partition. -/
theorem visible_of_preserved {before after : Image}
    (copied : Copied setup image.partition before)
    (renewed : Renewed (UnnamedNode ids) (rewritten tools.grub setup.toOptions) before after)
    (gone : setup.EFI = true → after (.root, update_grub_path) = none)
    (preserved : Preserved setup ids (original setup.FSTYPE image.partition) after) :
    AllVisible setup image.partition := by
  have unidentified {side : Side} {path : Text} (hidden : isHidden path = true) :
      ¬ isIdentity setup.toOptions (side, path) := by
    intro identity
    rw [(isIdentity_reached identity).2] at hidden
    nomatch hidden
  have untouched {side : Side} {path : Text} (hidden : isHidden path = true) :
      after (side, path) = before (side, path) := by
    apply renewed.outside
    intro member
    rcases isIdentity_of_rewritten member with identity | ⟨_, script⟩
    · exact unidentified hidden identity
    · rw [(Prod.mk.inj script).2] at hidden
      nomatch hidden
  constructor
  · intro name listed
    obtain ⟨path, nonempty, present, rfl⟩ := (mem_ls_iff name).mp listed
    rw [isHidden_top]
    by_contra hidden
    rw [Bool.not_eq_false] at hidden
    have kept := preserved.root path nonempty (unidentified hidden)
    rw [untouched hidden, copied.rootHidden path hidden] at kept
    have missing : (image.partition .root).lookup (rootDirectory setup.FSTYPE ++ path) = none :=
      kept.symm
    rw [missing] at present
    nomatch present
  · intro scheme name listed
    obtain ⟨path, nonempty, present, rfl⟩ := (mem_ls_iff name).mp listed
    rw [isHidden_top]
    by_contra hidden
    rw [Bool.not_eq_false] at hidden
    have kept := preserved.boot scheme path nonempty (unidentified hidden)
    rw [untouched hidden, copied.bootHidden scheme path hidden] at kept
    have missing : (image.partition .boot).lookup path = none :=
      Option.map_eq_none_iff.mp kept.symm
    rw [List.nil_append, missing] at present
    nomatch present
  · intro efi
    rw [← preserved.root update_grub_path (by decide) (update_grub_path_other efi)]
    exact gone efi

/-- shrink keeps the system just when kpartx used a loop device that the pattern finds and
no name is hidden from the copy. -/
theorem preservesSystem_iff : PreservesSystem repository tools setup ids host image ↔
    (host.HOST_MACHINE = "Ubuntu".toList ∨ host.loop < 10) ∧ AllVisible setup image.partition := by
  constructor
  · rintro ⟨taken, keeps⟩
    have reached := (selected_own_iff host).mp taken
    obtain ⟨before, after, copied, ran, renewed, gone⟩ := shrink_runs new host image reached
    exact ⟨reached, visible_of_preserved image copied renewed gone (keeps after ran)⟩
  · rintro ⟨reached, all⟩
    obtain ⟨before, after, copied, ran, renewed, gone⟩ := shrink_runs new host image reached
    refine ⟨(selected_own_iff host).mpr reached, ?_⟩
    intro other completed
    rw [ran] at completed
    obtain rfl := Option.some.inj completed
    exact preserved_of_visible image copied renewed gone all

end Preserved

section Example

/-- A new image for lepotato with btrfs. -/
def lepotatoSetup : Setup where
  toConfig := lepotatoBtrfs
  BOARD := "lepotato"
  EFI := false
  GPT := false
  PETITBOOT := false
  BOOT_VFAT := false
  BOOT_EXT4 := false
  ROOT_UUID := "7f0c1a52-90d4-4a51-b7a8-3f3d54e0c1aa"
  BOOT_UUID := "c2b5d1e7-5c2f-4f0c-8a43-0b5a6f5e9d10"
  single := by decide
  firmware := by decide
  rootfs := by decide
  bootfs := by decide
  plain := by decide
  visible := by decide

def emptyRepository : Repository := ⟨[], [], [], [], []⟩

def plainTools : Tools where
  fresh _ := ⟨0, 0, 0o644, 0⟩
  sed := plainSed
  replacer := droppingReplacer
  mkimage := unlines
  grub := ⟨[], fun _ _ _ => [], nofun, nofun⟩

def oldPartuuid : Id := ⟨"8d1e44b0-02".toList, by decide, by decide⟩

def lepotatoFiles : Side → Filesystem
  | .boot => [("Image".toList, ⟨.file "kernel".toList, ⟨0, 0, 0o644, 12⟩⟩),
      ("amlogicEnv.txt".toList, ⟨.file "rootdev=PARTUUID=8d1e44b0-02\n".toList,
        ⟨0, 0, 0o644, 13⟩⟩)]
  | .root => [("@/etc".toList, ⟨.directory, ⟨0, 0, 0o755, 256⟩⟩),
      ("@/etc/hostname".toList, ⟨.file "debian\n".toList, ⟨0, 0, 0o644, 257⟩⟩)]

theorem lepotatoFresh : Fresh [oldPartuuid] emptyRepository plainTools lepotatoSetup.toOptions where
  root := by decide +kernel
  part := by decide +kernel
  boot := by decide +kernel
  values := by decide +kernel
  script := nofun
  odroid := nofun
  config := nofun
  grub := by decide
  mkimage _ := free_unlines

def lepotatoImage : FinishedImage emptyRepository plainTools.grub lepotatoSetup [oldPartuuid] where
  partition := lepotatoFiles
  OLD_PARTUUID := oldPartuuid
  old := List.mem_cons_self
  etc := by decide
  boot _ := ⟨"Image".toList, by decide, by decide⟩
  directories := by decide
  efi efi := nomatch efi
  picture := by decide
  entry efi := nomatch efi
  inputs efi := nomatch efi
  others := by
    have listed {side : Side} {path contents : Text} {attributes : Attributes}
        (found : (lepotatoFiles side).lookup path = some ⟨.file contents, attributes⟩) :
        (path, ⟨.file contents, attributes⟩) ∈ lepotatoFiles side := by
      obtain ⟨front, back, split, _⟩ := List.lookup_eq_some_iff.mp found
      rw [split]
      exact List.mem_append_right _ List.mem_cons_self
    intro place identity outside contents attributes is
    obtain ⟨side, path⟩ := place
    cases side with
    | root =>
      have member : _ ∈ lepotatoFiles .root := listed is
      simp only [lepotatoFiles, List.mem_cons, Prod.mk.injEq, Node.mk.injEq, reduceCtorEq,
        Entry.file.injEq, false_and, and_false, List.not_mem_nil, or_false, false_or] at member
      rw [member.2.1]
      decide
    | boot =>
      have member : _ ∈ lepotatoFiles .boot := listed is
      simp only [lepotatoFiles, List.mem_cons, Prod.mk.injEq, Node.mk.injEq, Entry.file.injEq,
        List.not_mem_nil, or_false] at member
      rcases member with ⟨_, kernel, _⟩ | ⟨rfl, _⟩
      · rw [kernel]
        decide
      · exact absurd (by decide) outside

/-- On Ubuntu any loop device is found. -/
def ubuntuHost : Host .p2 := ⟨"Ubuntu".toList, 27, [⟨0, 1048576, 8192⟩, ⟨1, 4194304, 1056768⟩], rfl⟩

theorem lepotato_preserved : PreservesSystem emptyRepository plainTools lepotatoSetup [oldPartuuid]
    ubuntuHost lepotatoImage :=
  (preservesSystem_iff lepotatoFresh ubuntuHost lepotatoImage).mpr
    ⟨Or.inl rfl, by decide, by decide, fun efi => nomatch efi⟩

/-- Elsewhere loop10 is not. -/
def debianHost : Host .p2 := { ubuntuHost with HOST_MACHINE := "Debian".toList, loop := 10 }

theorem loop10_missed : ¬ PreservesSystem emptyRepository plainTools lepotatoSetup [oldPartuuid]
    debianHost lepotatoImage := by
  rintro ⟨taken, _⟩
  have reached := (selected_own_iff debianHost).mp taken
  exact absurd reached (by decide)

end Example

end ImageBuilder.Shrink
