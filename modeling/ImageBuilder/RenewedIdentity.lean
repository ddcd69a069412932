import ImageBuilder.PartitionIdentity

set_option autoImplicit false

/- What each command of shrink leaves on a partition: it writes its files, in which no old
identifier is left, and no others. -/
namespace ImageBuilder.Shrink

open PlainText EnvText StreamEditor Staging Identifiers Renewal

section Volumes

variable {ids : List Id} (before : Volume)

theorem renewed_write (path contents : Text) (free : Free ids contents) :
    Renewed (Unnamed ids) [path] before (before.write path contents) := by
  apply Renewed.single
  · intro text found
    rw [Volume.write_same] at found
    rwa [← Option.some.inj found]
  · exact before.write_other path contents

theorem renewed_remove (paths : List Text) :
    Renewed (Unnamed ids) paths before (before.remove paths) := by
  constructor
  · intro path member text found
    rw [Volume.remove, if_pos member] at found
    nomatch found
  · intro path apart
    exact if_neg apart

/-- One of the files written again. -/
theorem renewed_again {paths : List Text} {middle : Volume}
    (renewed : Renewed (Unnamed ids) paths before middle) {path contents : Text}
    (inside : path ∈ paths) (free : Free ids contents) :
    Renewed (Unnamed ids) paths before (middle.write path contents) := by
  apply (renewed.trans (renewed_write middle path contents free)).congr
  intro other
  rw [List.mem_append, List.mem_singleton]
  constructor
  · rintro (member | rfl)
    · exact member
    · exact inside
  · exact Or.inl

/-- A file that is there already with these contents. -/
theorem write_present (path contents : Text) (present : before path = some contents) :
    before.write path contents = before := by
  funext other
  unfold Volume.write
  split
  · rename_i same
    rw [same, present]
  · rfl

end Volumes

/-- The files each command writes, by their paths on the partition. -/
def extlinux_files (options : Options) : List Text :=
  [BOOT_PATH options.P_VALUE ++ ("extlinux/extlinux.conf" : Text)]

def bootcmdini_files (options : Options) : List Text :=
  [BOOT_PATH options.P_VALUE ++ ("boot.cmd" : Text),
    BOOT_PATH options.P_VALUE ++ ("boot.scr" : Text),
    BOOT_PATH options.P_VALUE ++ ("boot.ini" : Text),
    BOOT_PATH options.P_VALUE ++ (options.PLATFORM ++ ("Env.txt" : Text))]

def odroid_files : List Text := ["boot.cmd", "config.ini", "boot.scr"]

theorem iniFstype_plain (fstype : Fstype) : Plain (iniFstype fstype) := by
  cases fstype <;> decide

/-- The three lines of config.ini that are filled in; the others name nothing and hold
none of the patterns. -/
theorem config_ini_line : ∀ line ∈ odroid_config_ini, line = ("uuid=PARTUUID=" : Text) ∨
    line = ("rootfstype=" : Text) ∨ line = ("fdtfile=" : Text) ∨
      (brief line = true ∧ ¬ ("uuid=PARTUUID=" : Text) <:+: line ∧
        ¬ ("rootfstype=" : Text) <:+: line ∧ ¬ ("fdtfile=" : Text) <:+: line) := by
  decide +kernel

/-- A pattern that ends in an equals sign and its own value. -/
theorem replaceAll_own (pattern value : Text) (nonempty : pattern ≠ []) :
    replaceAll pattern (pattern ++ value) pattern = pattern ++ value := by
  have replaced := replaceAll_append pattern (pattern ++ value) [] nonempty
  rwa [List.append_nil, show replaceAll pattern (pattern ++ value) [] = [] from rfl,
    List.append_nil] at replaced

theorem setting_absent (name : Text) (front value : Text) (plain : '=' ∉ value)
    (other : ¬ name ++ ['='] <:+: front) : ¬ name ++ ['='] <:+: front ++ value :=
  fun found => other (infix_of_infix_append front value name '=' plain found)

section Commands

variable {ids : List Id} {repository : Repository} {tools : Tools} {options : Options}
  (fresh : Fresh ids repository tools options) (before : Volume)
include fresh

theorem Fresh.extlinux_renewed : ∃ after, extlinux options before = some after ∧
    Renewed (Unnamed ids) (extlinux_files options) before after :=
  ⟨_, rfl, renewed_write before _ _ (free_unlines fresh.extlinux_lines)⟩

theorem Fresh.cmdline_renewed : ∃ after, brcm_cmdline options before = some after ∧
    Renewed (Unnamed ids) [("cmdline.txt" : Text)] before after := by
  refine ⟨_, rfl, renewed_write before _ _ (free_unlines ?_)⟩
  intro line member
  rw [List.mem_singleton.mp member]
  exact fresh.cmdline_free

theorem Fresh.config_renewed : ∃ after, config_dot_txt repository options before = some after ∧
    Renewed (Unnamed ids) [("config.txt" : Text)] before after := by
  refine ⟨_, rfl, renewed_write before _ _ (free_unlines ?_)⟩
  intro line member
  apply fresh.config
  split at member
  · exact List.mem_of_mem_tail member
  · exact member

theorem Fresh.bootcmdini_renewed (plain : Plain options.EXTRA)
    (started : options.BOOTCMD = true ∨ options.BOOTINI = true) :
    ∃ after, bootcmdini repository tools options before = some after ∧
      Renewed (Unnamed ids) (bootcmdini_files options) before after := by
  have staged := stagedEnvironment_eq options.toConfig tools.sed fun _ => plain
  have copied : ∀ line ∈ copiedScript options.toConfig repository.script, Free ids line := by
    intro line member
    obtain ⟨original, inside, rfl⟩ := List.mem_map.mp member
    exact fresh.platform_line (fresh.script original inside)
  have hint : ∀ line ∈ hintedScript options.toConfig repository.script, Free ids line := by
    have arch := fresh.values options.ARCH (by simp [Options.values])
    rw [hintedScript, List.forall_mem_append, List.forall_mem_cons, List.forall_mem_singleton]
    exact ⟨copied, free_nil, (arch.behind (by decide) (by decide)).before (by decide) (by decide)⟩
  have lines := free_unlines (fresh.env_lines fresh.staged_extra)
  have removed : Renewed (Unnamed ids) _ before _ := renewed_remove before
    [BOOT_PATH options.P_VALUE ++ ("boot.cmd" : Text),
      BOOT_PATH options.P_VALUE ++ ("boot.scr" : Text),
      BOOT_PATH options.P_VALUE ++ ("boot.ini" : Text)]
  cases bootcmd : options.BOOTCMD with
  | true =>
    have script := renewed_again before removed List.mem_cons_self (free_unlines hint)
    have compiled := renewed_again before script (List.mem_cons_of_mem _ List.mem_cons_self)
      (fresh.mkimage _ hint)
    have environment := compiled.trans (renewed_write _
      (BOOT_PATH options.P_VALUE ++ (options.PLATFORM ++ ("Env.txt" : Text))) _ lines)
    refine ⟨_, ?_, environment⟩
    simp only [bootcmdini, Staging.bootcmdini, staged, BOOT_FTYPE, bootcmd, ↓reduceIte,
      Option.bind_eq_bind, Option.bind_some]
  | false =>
    have bootini : options.BOOTINI = true := started.resolve_left (by rw [bootcmd]; decide)
    have script := renewed_again before removed
      (List.mem_cons_of_mem _ (List.mem_cons_of_mem _ List.mem_cons_self)) (free_unlines copied)
    have environment := script.trans (renewed_write _
      (BOOT_PATH options.P_VALUE ++ (options.PLATFORM ++ ("Env.txt" : Text))) _ lines)
    refine ⟨_, ?_, environment⟩
    simp only [bootcmdini, Staging.bootcmdini, staged, BOOT_FTYPE, bootcmd, bootini, ↓reduceIte,
      Bool.false_eq_true, Option.bind_eq_bind, Option.bind_some]

theorem Fresh.odroid_lines (plain : Plain options.DTB) :
    ∀ line ∈ odroid_config tools.replacer options, Free ids line := by
  have named := options.names.2.2.2
  have id : '=' ∉ options.ROOT_PARTUUID := not_mem_of_isFileName '=' _ named (by decide)
  have root : Plain (("uuid=PARTUUID=" : Text) ++ options.ROOT_PARTUUID) := by
    rw [Plain, List.forall_mem_append]
    exact ⟨by decide, plain_of_isFileName _ named⟩
  have dtb : Plain (("fdtfile=" : Text) ++ (options.DTB ++ (".dtb" : Text))) := by
    simp only [Plain, List.forall_mem_append]
    exact ⟨by decide, plain, by decide⟩
  unfold odroid_config
  rw [Replacer.substitute_plain _ _ _ _ root, Replacer.substitute_plain _ _ _ _ (iniFstype_plain _),
    Replacer.substitute_plain _ _ _ _ dtb]
  intro line member
  rw [List.map_map, List.map_map] at member
  obtain ⟨original, inside, rfl⟩ := List.mem_map.mp member
  dsimp only [Function.comp_apply]
  rcases config_ini_line original inside with rfl | rfl | rfl | ⟨short, uuid, fstype, fdt⟩
  · have fstype : ¬ ("rootfstype=" : Text) <:+: ("uuid=PARTUUID=" : Text) ++ options.ROOT_PARTUUID :=
      setting_absent "rootfstype" _ _ id (by decide)
    have fdt : ¬ ("fdtfile=" : Text) <:+: ("uuid=PARTUUID=" : Text) ++ options.ROOT_PARTUUID :=
      setting_absent "fdtfile" _ _ id (by decide)
    rw [replaceAll_own _ _ (by decide), replaceAll_of_absent _ _ _ fstype,
      replaceAll_of_absent _ _ _ fdt]
    exact fresh.part.behind (by decide) (by decide)
  · have filled (fstype : Fstype) : Free ids (replaceAll ("fdtfile=" : Text)
        (("fdtfile=" : Text) ++ (options.DTB ++ (".dtb" : Text)))
        (replaceAll ("rootfstype=" : Text) (iniFstype fstype) ("rootfstype=" : Text))) := by
      have whole : replaceAll ("rootfstype=" : Text) (iniFstype fstype) ("rootfstype=" : Text) =
          iniFstype fstype := by
        cases fstype <;> decide +kernel
      have fdt : ¬ ("fdtfile=" : Text) <:+: iniFstype fstype := by
        cases fstype <;> decide +kernel
      rw [whole, replaceAll_of_absent _ _ _ fdt]
      cases fstype <;> exact free_of_brief (by decide)
    rw [replaceAll_of_absent ("uuid=PARTUUID=" : Text) _ _ (by decide)]
    exact filled options.FSTYPE
  · rw [replaceAll_of_absent ("uuid=PARTUUID=" : Text) _ _ (by decide),
      replaceAll_of_absent ("rootfstype=" : Text) _ _ (by decide), replaceAll_own _ _ (by decide)]
    exact fresh.dtb_file.behind (by decide) (by decide)
  · rw [replaceAll_of_absent _ _ _ uuid, replaceAll_of_absent _ _ _ fstype,
      replaceAll_of_absent _ _ _ fdt]
    exact free_of_brief short

/-- The picture is in its place already. -/
theorem Fresh.odroid_renewed (plain : Plain options.DTB)
    (logo : before ("boot-logo.bmp.gz" : Text) = some repository.odroid_boot_logo) :
    ∃ after, odroid_bootcmd repository tools options before = some after ∧
      Renewed (Unnamed ids) odroid_files before after := by
  have removed : Renewed (Unnamed ids) _ before _ :=
    renewed_remove before [("boot.cmd" : Text), "config.ini"]
  have script := renewed_again before removed List.mem_cons_self (free_unlines fresh.odroid)
  have picture := write_present ((before.remove [("boot.cmd" : Text), "config.ini"]).write
    "boot.cmd" (unlines repository.odroid_boot_cmd)) "boot-logo.bmp.gz"
    repository.odroid_boot_logo logo
  have config := renewed_again before script (List.mem_cons_of_mem _ List.mem_cons_self)
    (free_unlines (fresh.odroid_lines plain))
  have compiled := config.trans (renewed_write _ "boot.scr" _ (fresh.mkimage _ fresh.odroid))
  refine ⟨_, ?_, compiled⟩
  rw [odroid_bootcmd, picture]

end Commands

section MenuEntry

variable {ids : List Id} {repository : Repository} {tools : Tools} {options : Options}
  (fresh : Fresh ids repository tools options)

theorem board_09_eq (ROOT_PARTUUID : Text) : unlines (board_09 options ROOT_PARTUUID) =
    unlines (board_09_head options) ++ CMDLINE_front options ++
      ' ' :: (rootParameter ROOT_PARTUUID ++
        ' ' :: (CMDLINE_back options ++ '\n' :: unlines (board_09_tail options))) := by
  simp only [board_09, unlines, List.flatMap_append, List.flatMap_cons, List.append_assoc,
    List.cons_append, List.nil_append]

include fresh

/-- The substitution makes the entry for the new partition of that for the old one. -/
theorem Fresh.board_09_replaced {old : Id} (listed : old ∈ ids) :
    replaceAll (rootParameter old.text) (rootParameter options.ROOT_PARTUUID)
      (unlines (board_09 options old.text)) =
        unlines (board_09 options options.ROOT_PARTUUID) := by
  have named : old.text <:+: rootParameter old.text := (List.suffix_append _ _).isInfix
  have front : ¬ rootParameter old.text <:+: unlines (board_09_head options) ++
      CMDLINE_front options :=
    fun found => fresh.board_09_front old listed (named.trans found)
  have back : ¬ rootParameter old.text <:+: ' ' :: (CMDLINE_back options ++
      '\n' :: unlines (board_09_tail options)) := by
    intro found
    have free := free_nil.cons_separator fresh.board_09_back (by decide : isIdChar ' ' = false)
    exact free old listed (named.trans found)
  have solid : ' ' ∉ ("root=PARTUUID=" : Text) := by decide
  have single : ' ' ∉ rootParameter old.text := fun member =>
    (List.mem_append.mp member).elim solid (old.separator_not_mem (by decide))
  have nonempty : rootParameter old.text ≠ [] := List.cons_ne_nil _ _
  rw [board_09_eq, board_09_eq, replaceAll_past _ _ _ _ ' ' front single,
    replaceAll_head _ _ _ nonempty back]

theorem Fresh.board_09_free : Free ids (unlines (board_09 options options.ROOT_PARTUUID)) := by
  have parameter : Free ids (rootParameter options.ROOT_PARTUUID) :=
    fresh.part.behind (by decide) (by decide)
  rw [board_09_eq]
  exact fresh.board_09_front.cons_separator
    (parameter.cons_separator fresh.board_09_back (by decide)) (by decide)

end MenuEntry

section Fstab

variable {ids : List Id} {repository : Repository} {tools : Tools} {setup : Setup}
  (fresh : Fresh ids repository tools setup.toOptions) (before : Volume)
include fresh

/-- There is a table for every image that the builder makes. -/
theorem Fresh.fstab_lines_free : ∃ lines, fstab_lines setup.toOptions = some lines ∧
    ∀ line ∈ lines, Free ids line := by
  obtain ⟨table, known⟩ : ∃ table, ROOTFS_TABLE setup.FSTYPE = some table := by
    have rootfs := setup.rootfs
    cases fstype : setup.FSTYPE with
    | f2fs => exact absurd fstype rootfs
    | btrfs => exact ⟨_, rfl⟩
    | ext4 => exact ⟨_, rfl⟩
    | xfs => exact ⟨_, rfl⟩
  unfold fstab_lines
  cases scheme : setup.P_VALUE with
  | p1 =>
    have made : p1_fstab setup.toOptions = some _ := congrArg (Option.map _) known
    exact ⟨_, made, fresh.p1_lines made⟩
  | p2 =>
    obtain ⟨boot, chosen⟩ := Option.ne_none_iff_exists'.mp (setup.bootfs scheme)
    obtain ⟨lines, made⟩ : ∃ lines, p2_fstab setup.toOptions = some lines := by
      rw [p2_fstab, chosen, known]
      exact ⟨_, rfl⟩
    exact ⟨lines, made, fresh.p2_lines made⟩

theorem Fresh.fstab_renewed : ∃ after, fstab setup.toOptions before = some after ∧
    Renewed (Unnamed ids) [("etc/fstab" : Text)] before after := by
  obtain ⟨lines, made, free⟩ := fresh.fstab_lines_free
  refine ⟨_, ?_, renewed_write before _ _ (free_unlines free)⟩
  rw [fstab, made]
  rfl

end Fstab

end ImageBuilder.Shrink
