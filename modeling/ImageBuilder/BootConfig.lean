import ImageBuilder.EnvText
import ImageBuilder.StreamEditor
import ImageBuilder.Partitioning

set_option autoImplicit false

/- What the image builder puts beside the kernel: the boot script and its
environment file, or extlinux.conf. -/
namespace ImageBuilder.Staging

open PlainText Hush EnvText StreamEditor

inductive Fstype
  | btrfs
  | ext4
  | f2fs
  | xfs
  deriving DecidableEq

def Fstype.name : Fstype → Text
  | .btrfs => "btrfs"
  | .ext4 => "ext4"
  | .f2fs => "f2fs"
  | .xfs => "xfs"

def ROOT_FLAGS : Text := "rootflags=subvol=@"

/-- `ROOT_FSTYPE`, the same in staging and in write2mmc. -/
def Fstype.ROOT_FSTYPE : Fstype → Text
  | .btrfs => ("rootfstype=btrfs " : Text) ++ ROOT_FLAGS
  | fstype => ("rootfstype=" : Text) ++ fstype.name

/-- The two scripts a board may name in `BOOTSCR` that suit every board. -/
inductive BootScr
  | boot_cmd
  | boot_ini
  deriving DecidableEq

def isFileChar (c : Char) : Bool := c.isAlphanum || c == '.' || c == '_' || c == '-'

/-- Names of files and partitions. -/
def isFileName (name : Text) : Bool := !name.isEmpty && name.all isFileChar

theorem not_mem_of_isFileName (c : Char) (name : Text) (named : isFileName name = true)
    (outside : isFileChar c = false) : c ∉ name := by
  intro member
  simp only [isFileName, Bool.and_eq_true] at named
  rw [List.all_eq_true.mp named.2 c member] at outside
  cases outside

theorem ne_nil_of_isFileName (name : Text) (named : isFileName name = true) : name ≠ [] := by
  intro is
  rw [is] at named
  exact absurd named (by decide)

theorem plain_of_isFileName (name : Text) (named : isFileName name = true) : Plain name := by
  intro c member
  cases plain : isPlain c with
  | true => rfl
  | false =>
      simp only [isFileName, Bool.and_eq_true] at named
      have inside := List.all_eq_true.mp named.2 c member
      simp only [isPlain, Bool.and_eq_false_iff, bne_eq_false_iff_eq] at plain
      rcases plain with ((is | is) | is) | is <;> rw [is] at inside <;>
        exact absurd inside (by decide)

def Printable (value : Text) : Prop := ∀ c ∈ value, ' ' ≤ c ∧ c ≤ '~'

instance (value : Text) : Decidable (Printable value) :=
  inferInstanceAs (Decidable (∀ c ∈ value, ' ' ≤ c ∧ c ≤ '~'))

/-- The variables of board.txt and of the build that the boot files depend on,
with what holds of them in every board file. -/
structure Config where
  P_VALUE : Scheme
  FSTYPE : Fstype
  BOOTCMD : Bool
  BOOTINI : Bool
  EXTLINUX : Bool
  BOOTSCR : BootScr
  ARCH : Text
  FAMILY : Family
  PLATFORM : Text
  DTB : Text
  CONSOLE : Text
  EXTRA : Text
  LOGLEVEL : Text
  DEFAULT_MOTD : Text
  CAP_DISTRO : Text
  CAP_RELEASE : Text
  BOOT_KERNEL : Text
  BOOT_INITRD : Text
  BOOTCMD_FDTOVERLAYS : Text
  EXTLINUX_FDTOVERLAYS : Text
  ROOT_PARTUUID : Text
  strings : Printable DTB ∧ Printable CONSOLE ∧ Printable EXTRA
  names : isFileName PLATFORM = true ∧ isFileName BOOT_KERNEL = true ∧
    isFileName BOOT_INITRD = true ∧ isFileName ROOT_PARTUUID = true
  machine : isFileName ARCH = true
  titles : Plain DEFAULT_MOTD ∧ Plain CAP_DISTRO ∧ Plain CAP_RELEASE
  level : ∃ n, isFileName n = true ∧ LOGLEVEL = ("loglevel=" : Text) ++ n
  overlays : BOOTCMD_FDTOVERLAYS = [] ∨ ∃ rest, '\n' ∉ rest ∧
    (BOOTCMD_FDTOVERLAYS = '#' :: rest ∨ BOOTCMD_FDTOVERLAYS = ("overlays=" : Text) ++ rest)

/-- lib/boards/lepotato with the boot script switched on and a btrfs root. -/
def lepotatoBtrfs : Config where
  P_VALUE := .p2
  FSTYPE := .btrfs
  BOOTCMD := true
  BOOTINI := false
  EXTLINUX := false
  BOOTSCR := .boot_cmd
  ARCH := "arm64"
  FAMILY := .amlogic
  PLATFORM := "amlogic"
  DTB := "meson-gxl-s905x-libretech-cc"
  CONSOLE := "console=tty1 console=ttyAML0,115200n8"
  EXTRA := "net.ifnames=0 no_console_suspend"
  LOGLEVEL := "loglevel=1"
  DEFAULT_MOTD := "Libre Computer Le Potato"
  CAP_DISTRO := "Debian"
  CAP_RELEASE := "Trixie"
  BOOT_KERNEL := "Image"
  BOOT_INITRD := "initrd.img"
  BOOTCMD_FDTOVERLAYS := "#overlays="
  EXTLINUX_FDTOVERLAYS := "#fdtoverlays"
  ROOT_PARTUUID := "5a3c9e0d-02"
  strings := by decide
  names := by decide
  machine := by decide
  titles := by decide
  level := ⟨"1", by decide, by decide⟩
  overlays := Or.inr ⟨"overlays=", by decide, Or.inl (by decide)⟩

/-- The files of a partition by their path. -/
abbrev Volume := Text → Option Text

def Volume.write (files : Volume) (path contents : Text) : Volume := fun other =>
  if other = path then some contents else files other

@[simp] theorem Volume.write_same (files : Volume) (path contents : Text) :
    files.write path contents path = some contents :=
  if_pos rfl

theorem Volume.write_other (files : Volume) (path contents other : Text)
    (different : other ≠ path) : files.write path contents other = files other :=
  if_neg different

def Volume.remove (files : Volume) (paths : List Text) : Volume := fun other =>
  if other ∈ paths then none else files other

/-- `BOOT_PATH` as seen from the top of the partition that U-Boot boots from. -/
def BOOT_PATH : Scheme → Text
  | .p1 => "boot/"
  | .p2 => []

/-- The lines of the environment file. -/
def environment (config : Config) : List Text :=
  [("bootlabel=" : Text) ++ config.DEFAULT_MOTD,
    ("console=" : Text) ++ config.CONSOLE,
    ("extra=" : Text) ++ config.EXTRA,
    ("fdtfile=" : Text) ++ (config.DTB ++ (".dtb" : Text)),
    ("initramfs=" : Text) ++ config.BOOT_INITRD,
    ("kernel=" : Text) ++ config.BOOT_KERNEL,
    ("platform=" : Text) ++ config.FAMILY.name,
    ("rootdev=" : Text) ++ (("PARTUUID=" : Text) ++ config.ROOT_PARTUUID),
    ("rootfstype=" : Text) ++ config.FSTYPE.name,
    config.LOGLEVEL,
    [],
    "# OVERLAYS",
    config.BOOTCMD_FDTOVERLAYS,
    "#user_overlays="]

/-- `sed -i` on the environment file, for btrfs only. -/
def stagedEnvironment (sed : Sed) (config : Config) : Option (List Text) :=
  if config.FSTYPE = .btrfs then
    sed.substitute ("extra" : Text)
      (("extra=" : Text) ++ (config.EXTRA ++ ([' '] ++ ROOT_FLAGS))) (environment config)
  else some (environment config)

/-- The line of the script that bootcmdini fills in. -/
def unsetPlatform : Text := literal "setenv platform \"\""

def platformLine (PLATFORM : Text) : Text :=
  literal "setenv platform \"" ++ PLATFORM ++ literal "\""

/-- `s/^setenv platform "".*/../g` on a line of the script. -/
def setPlatform (PLATFORM line : Text) : Text :=
  if unsetPlatform.isPrefixOf line then platformLine PLATFORM else line

/-- With neither switch the variable stays unset, which ends the build. -/
def BOOT_FTYPE (config : Config) : Option Text :=
  if config.BOOTCMD then some "boot.cmd" else if config.BOOTINI then some "boot.ini" else none

/-- The script of a build, and with the two lines that end the one for mkimage. -/
def copiedScript (config : Config) (script : List Text) : List Text :=
  script.map (setPlatform config.PLATFORM)

/-- The line for whoever builds boot.scr again. -/
def hint (ARCH : Text) : Text :=
  literal "# mkimage -C none -A " ++ ARCH ++ literal " -T script -d boot.cmd boot.scr"

def hintedScript (config : Config) (script : List Text) : List Text :=
  copiedScript config script ++ [[], hint config.ARCH]

/-- The boot partition after `bootcmdini`; `script` is files/boot/scripts/${BOOTSCR},
if there is one. -/
def bootcmdini (sed : Sed) (mkimage : List Text → Text) (script : Option (List Text))
    (config : Config) (before : Volume) : Option Volume := do
  let path := BOOT_PATH config.P_VALUE
  let removed := before.remove
    [path ++ ("boot.cmd" : Text), path ++ ("boot.scr" : Text), path ++ ("boot.ini" : Text)]
  let lines ← script
  let type ← BOOT_FTYPE config
  let installed :=
    if config.BOOTCMD then
      (removed.write (path ++ type) (unlines (hintedScript config lines))).write
        (path ++ ("boot.scr" : Text)) (mkimage (hintedScript config lines))
    else removed.write (path ++ type) (unlines (copiedScript config lines))
  let lines ← stagedEnvironment sed config
  some (installed.write (path ++ (config.PLATFORM ++ ("Env.txt" : Text))) (unlines lines))

/-- `CMDLINE` of extlinux.conf, for one root partition and filesystem. -/
def CMDLINE (config : Config) (ROOT_PARTUUID : Text) (fstype : Fstype) : Text :=
  ("append earlyprintk " : Text) ++ config.CONSOLE ++ (" rw root=PARTUUID=" : Text) ++
    ROOT_PARTUUID ++ (" rootwait " : Text) ++ fstype.ROOT_FSTYPE ++ (" fsck.repair=yes " : Text) ++
    config.LOGLEVEL ++ [' '] ++ config.EXTRA ++ (" init=/sbin/init" : Text)

/-- The lines of extlinux.conf. -/
def extlinux (config : Config) : List Text :=
  [("menu title " : Text) ++ config.DEFAULT_MOTD,
    "timeout 5",
    [],
    ("label " : Text) ++ config.CAP_DISTRO ++ [' '] ++ config.CAP_RELEASE,
    ("\tkernel ../" : Text) ++ config.BOOT_KERNEL,
    ("\tinitrd ../" : Text) ++ config.BOOT_INITRD,
    ("\tfdtdir ../" : Text) ++ config.FAMILY.name,
    ("\tfdt ../" : Text) ++ config.FAMILY.name ++ ['/'] ++ config.DTB ++ (".dtb" : Text),
    '\t' :: config.EXTLINUX_FDTOVERLAYS,
    '\t' :: CMDLINE config config.ROOT_PARTUUID config.FSTYPE]

section Environment

variable (config : Config)

/-- The assignments of the environment file, for one value of the three variables
that a transfer changes. -/
def settings (extra ROOT_PARTUUID : Text) (fstype : Fstype) : List (Text × Text) :=
  [("bootlabel", config.DEFAULT_MOTD), ("console", config.CONSOLE), ("extra", extra),
    ("fdtfile", config.DTB ++ (".dtb" : Text)), ("initramfs", config.BOOT_INITRD),
    ("kernel", config.BOOT_KERNEL), ("platform", config.FAMILY.name),
    ("rootdev", ("PARTUUID=" : Text) ++ ROOT_PARTUUID), ("rootfstype", fstype.name)]

/-- The other lines. -/
def notes : List Text :=
  [config.LOGLEVEL, [], "# OVERLAYS", config.BOOTCMD_FDTOVERLAYS, "#user_overlays="]

def envLines (extra ROOT_PARTUUID : Text) (fstype : Fstype) : List Text :=
  (settings config extra ROOT_PARTUUID fstype).map assignment ++ notes config

theorem environment_eq :
    environment config = envLines config config.EXTRA config.ROOT_PARTUUID config.FSTYPE := by
  simp [environment, envLines, settings, notes, assignment]

/-- What the environment file of a build says about `extra`. -/
def stagedExtra : Text :=
  if config.FSTYPE = .btrfs then config.EXTRA ++ ([' '] ++ ROOT_FLAGS) else config.EXTRA

def settingNames : List Text :=
  ["bootlabel", "console", "extra", "fdtfile", "initramfs", "kernel", "platform", "rootdev",
    "rootfstype"]

theorem settings_names (extra uuid : Text) (fstype : Fstype) :
    (settings config extra uuid fstype).map Prod.fst = settingNames :=
  rfl

theorem settings_named (extra uuid : Text) (fstype : Fstype) :
    ∀ setting ∈ settings config extra uuid fstype, isName setting.1 = true := by
  have all : ∀ name ∈ settingNames, isName name = true := by decide
  intro setting member
  exact all setting.1 (settings_names config extra uuid fstype ▸ List.mem_map_of_mem member)

/-- The names that the other lines set, if any. -/
def noteNames : List Text := [[], "loglevel", "overlays"]

/-- The lines after the log level. -/
theorem lastNotes_spare (name : Text) (blank : name ≠ []) (overlays : name ≠ ("overlays" : Text)) :
    ∀ line ∈ (notes config).drop 1, Spares name line := by
  have comment : ∀ rest : Text, Spares name ('#' :: rest) := fun _ _ _ is => nomatch is
  have empty : Spares name [] := fun key value is => by
    cases is
    exact blank.symm
  intro line member
  simp only [notes, List.drop_succ_cons, List.drop_zero, List.mem_cons, List.not_mem_nil,
    or_false] at member
  rcases member with is | is | is | is
  · rw [is]
    exact empty
  · rw [is]
    exact comment _
  · rcases config.overlays with none | ⟨rest, _, hash | list⟩
    · rw [is, none]
      exact empty
    · rw [is, hash]
      exact comment rest
    · rw [is, list]
      exact spares_assign name "overlays" rest (by decide) overlays.symm
  · rw [is]
    exact comment _

theorem notes_spare (name : Text) (other : name ∉ noteNames) :
    ∀ line ∈ notes config, Spares name line := by
  simp only [noteNames, List.mem_cons, List.not_mem_nil, or_false, not_or] at other
  obtain ⟨blank, level, overlays⟩ := other
  obtain ⟨n, _, loglevel⟩ := config.level
  intro line member
  rcases List.mem_cons.mp member with first | later
  · rw [first, loglevel]
    exact spares_assign name "loglevel" n (by decide) (Ne.symm level)
  · exact lastNotes_spare config name blank overlays line later

theorem family_name (family : Family) : isFileName family.name = true := by
  cases family <;> decide

theorem fstype_name (fstype : Fstype) : isFileName fstype.name = true := by
  cases fstype <;> decide

/-- A special character is in a value of the file only if it is in a free string. -/
theorem settings_absent (c : Char) (extra uuid : Text) (fstype : Fstype)
    (special : isFileChar c = false ∧ c ≠ '=' ∧ isPlain c = false)
    (console : c ∉ config.CONSOLE) (extras : c ∉ extra) (dtb : c ∉ config.DTB) (id : c ∉ uuid) :
    ∀ setting ∈ settings config extra uuid fstype, c ∉ setting.2 := by
  have plain : ∀ name : Text, isFileName name = true → c ∉ name := fun name named =>
    not_mem_of_isFileName c name named special.1
  have motd : c ∉ config.DEFAULT_MOTD := fun member => by
    rw [config.titles.1 c member] at special
    exact nomatch special.2.2
  have suffix : c ∉ (".dtb" : Text) := plain _ (by decide)
  have label : c ∉ ("PARTUUID=" : Text) := by
    change c ∉ ("PARTUUID" : Text) ++ ['=']
    rw [List.mem_append, List.mem_singleton, not_or]
    exact ⟨plain _ (by decide), special.2.1⟩
  simp only [settings, List.forall_mem_cons, List.mem_append, not_or]
  exact ⟨motd, console, extras, ⟨dtb, suffix⟩, plain _ config.names.2.2.1, plain _ config.names.2.1,
    plain _ (family_name _), ⟨label, id⟩, plain _ (fstype_name _), fun _ member => nomatch member⟩

/-- The values come back from U-Boot when the free strings have no backslash. -/
theorem settings_plain (extra uuid : Text) (fstype : Fstype) (console : '\\' ∉ config.CONSOLE)
    (extras : '\\' ∉ extra) (dtb : '\\' ∉ config.DTB) (id : '\\' ∉ uuid) :
    ∀ setting ∈ settings config extra uuid fstype, '\\' ∉ setting.2 :=
  settings_absent config '\\' extra uuid fstype (by decide) console extras dtb id

theorem single_of_printable (value : Text) (printable : Printable value) : '\n' ∉ value :=
  fun member => absurd (printable _ member) (by decide)

/-- Every line of the environment file is one line. -/
theorem envLines_single (extra uuid : Text) (fstype : Fstype) (extras : '\n' ∉ extra)
    (id : '\n' ∉ uuid) : ∀ line ∈ envLines config extra uuid fstype, '\n' ∉ line := by
  have values := settings_absent config '\n' extra uuid fstype (by decide)
    (single_of_printable _ config.strings.2.1) extras (single_of_printable _ config.strings.1) id
  intro line member
  rcases List.mem_append.mp member with one | two
  · obtain ⟨setting, inside, rfl⟩ := List.mem_map.mp one
    have name : '\n' ∉ setting.1 := fun wrong => by
      have named := settings_named config extra uuid fstype setting inside
      simp only [isName, Bool.and_eq_true] at named
      exact absurd (List.all_eq_true.mp named.2 _ wrong) (by decide)
    rw [assignment, List.mem_append, List.mem_cons, not_or, not_or]
    exact ⟨name, by decide, values setting inside⟩
  · obtain ⟨n, named, level⟩ := config.level
    simp only [notes, List.mem_cons, List.not_mem_nil, or_false] at two
    rcases two with is | is | is | is | is <;> rw [is]
    · rw [level, List.mem_append, not_or]
      exact ⟨by decide, not_mem_of_isFileName '\n' n named (by decide)⟩
    · exact List.not_mem_nil
    · decide
    · rcases config.overlays with none | ⟨rest, single, hash | list⟩
      · rw [none]
        exact List.not_mem_nil
      · rw [hash, List.mem_cons, not_or]
        exact ⟨by decide, single⟩
      · rw [list, List.mem_append, not_or]
        exact ⟨by decide, single⟩
    · decide

theorem settings_distinct (extra uuid : Text) (fstype : Fstype) :
    ((settings config extra uuid fstype).map Prod.fst).Nodup := by
  rw [settings_names]
  decide

/-- U-Boot reads the settings back when the free strings have no backslash. -/
theorem envLines_value (extra uuid : Text) (fstype : Fstype) (env : Env)
    (plain : ∀ setting ∈ settings config extra uuid fstype, '\\' ∉ setting.2)
    (setting : Text × Text) (member : setting ∈ settings config extra uuid fstype) :
    importLines none (envLines config extra uuid fstype) env setting.1 = setting.2 := by
  apply importLines_value _ _ _ (settings_named config extra uuid fstype) plain
    (settings_distinct config extra uuid fstype) setting member
  apply notes_spare
  have all : ∀ name ∈ settingNames, name ∉ noteNames := by decide
  exact all setting.1 (settings_names config extra uuid fstype ▸ List.mem_map_of_mem member)

/-- A line that spares a variable is not rewritten for it. -/
theorem substituteLine_spared (key replacement line : Text) (named : isName key = true)
    (spared : Spares key line) : substituteLine key replacement line = line := by
  apply substituteLine_miss
  intro here
  obtain ⟨value, rfl⟩ := here
  apply spared key value
  · rw [List.append_assoc, List.singleton_append, parseLine_assign key value named]
  · rfl

/-- One setting replaced in a list of them. -/
def reset (key value : Text) (setting : Text × Text) : Text × Text :=
  if setting.1 = key then (key, value) else setting

theorem substitute_assignments (key value : Text) (named : isName key = true)
    (list : List (Text × Text)) (names : ∀ setting ∈ list, isName setting.1 = true) :
    (list.map assignment).map (substituteLine key (assignment (key, value))) =
      (list.map (reset key value)).map assignment := by
  rw [List.map_map, List.map_map]
  apply List.map_congr_left
  intro setting member
  change substituteLine key _ (assignment setting) = assignment (reset key value setting)
  unfold reset
  split
  · rename_i same
    have line : assignment setting = key ++ '=' :: setting.2 := by rw [assignment, same]
    rw [line]
    exact substituteLine_hit key _ _
  · rename_i different
    exact substituteLine_assign key setting.1 _ _ (equals_not_mem key named)
      (equals_not_mem _ (names setting member)) different

theorem substitute_envLines (key value : Text) (extra uuid : Text) (fstype : Fstype)
    (named : isName key = true) (other : key ∉ noteNames) :
    (envLines config extra uuid fstype).map (substituteLine key (assignment (key, value))) =
      ((settings config extra uuid fstype).map (reset key value)).map assignment ++
        notes config := by
  have unchanged : (notes config).map (substituteLine key (assignment (key, value))) =
      (notes config).map id := by
    apply List.map_congr_left
    intro line member
    exact substituteLine_spared key _ line named (notes_spare config key other line member)
  rw [envLines, List.map_append, unchanged, List.map_id,
    substitute_assignments key value named _ (settings_named config extra uuid fstype)]

theorem substitute_extra (value extra uuid : Text) (fstype : Fstype) :
    (envLines config extra uuid fstype).map
        (substituteLine ("extra" : Text) (assignment ("extra", value))) =
      envLines config value uuid fstype := by
  rw [substitute_envLines config _ _ _ _ _ (by decide) (by decide)]
  rfl

/-- The lines of the environment file, when sed finds nothing special in `EXTRA`. -/
theorem stagedEnvironment_eq (sed : Sed) (plain : config.FSTYPE = .btrfs → Plain config.EXTRA) :
    stagedEnvironment sed config =
      some (envLines config (stagedExtra config) config.ROOT_PARTUUID config.FSTYPE) := by
  unfold stagedEnvironment stagedExtra
  rw [environment_eq]
  split
  · rename_i btrfs
    have harmless : Plain (("extra=" : Text) ++ (config.EXTRA ++ ([' '] ++ ROOT_FLAGS))) := by
      simp only [Plain, List.forall_mem_append]
      exact ⟨by decide, plain btrfs, by decide, by decide⟩
    rw [sed.substitute_plain _ _ _ harmless]
    exact congrArg some (substitute_extra config _ _ _ _)
  · rfl

end Environment

end ImageBuilder.Staging
