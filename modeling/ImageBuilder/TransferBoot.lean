import ImageBuilder.StagedBoot

set_option autoImplicit false

/- What write2mmc makes of the boot configuration that it copies, and the kernel
command line the target then boots with. -/
namespace ImageBuilder.Transfer

open PlainText Hush EnvText StreamEditor Boot Staging

/-- The root filesystem that write2mmc goes on with; nothing when it stops. -/
def filesystems (P_VALUE : Scheme) (B_FSTYPE R_FSTYPE : Text) : Option Fstype :=
  match P_VALUE with
  | .p1 => some .ext4
  | .p2 =>
      if B_FSTYPE ∈ [("vfat" : Text), ("ext2" : Text), ("ext4" : Text)] then
        [Fstype.btrfs, .ext4, .f2fs, .xfs].find? fun fstype => fstype.name = R_FSTYPE
      else none

/-- A target that was accepted, and the partition id that blkid finds on it. -/
structure Target where
  P_VALUE : Scheme
  B_FSTYPE : Text
  answer : Text
  R_FSTYPE : Fstype
  ROOT_PARTUUID : Text
  accepted : filesystems P_VALUE B_FSTYPE answer = some R_FSTYPE
  named : isFileName ROOT_PARTUUID = true

/-- The boot configuration of an installation: ${FAMILY}Env.txt and extlinux.conf,
which the transfer copies with everything else. -/
structure Install where
  environment : Option (List Text)
  extlinux : Option (List Text)

/-- `sed -i` that fails leaves the file as it was. -/
def edited (run : List Text → Option (List Text)) (lines : List Text) : List Text :=
  (run lines).getD lines

/-- `${EXTRA} ${ROOT_FLAGS}` for btrfs, else `${EXTRA}`. -/
def extraFor (config : Config) (fstype : Fstype) : Text :=
  if fstype = .btrfs then config.EXTRA ++ ([' '] ++ ROOT_FLAGS) else config.EXTRA

section Commands

variable (sed : Sed) (config : Config) (target : Target)

def editCMDLINE : List Text → List Text :=
  edited (sed.change ("append" : Text)
    ('\t' :: CMDLINE config target.ROOT_PARTUUID target.R_FSTYPE))

def editRootfstype : List Text → List Text :=
  edited (sed.substitute ("rootfstype" : Text) (("rootfstype=" : Text) ++ target.R_FSTYPE.name))

def editRootdev : List Text → List Text :=
  edited (sed.substitute ("rootdev" : Text) (("rootdev=PARTUUID=" : Text) ++ target.ROOT_PARTUUID))

def editExtra : List Text → List Text :=
  edited (sed.substitute ("extra" : Text) (("extra=" : Text) ++ extraFor config target.R_FSTYPE))

def p1_boot (files : Install) : Install :=
  if config.EXTLINUX then
    { files with extlinux := files.extlinux.map (editCMDLINE sed config target) }
  else if config.BOOTCMD then
    { files with environment := files.environment.map fun lines =>
        editRootdev sed target (editRootfstype sed target lines) }
  else if config.BOOTINI then
    { files with environment := files.environment.map fun lines =>
        editRootdev sed target (editRootfstype sed target lines) }
  else files

def p2_boot (files : Install) : Install :=
  if config.EXTLINUX then
    { files with extlinux := files.extlinux.map (editCMDLINE sed config target) }
  else if config.BOOTCMD then
    { files with environment := files.environment.map fun lines =>
        editExtra sed config target (editRootdev sed target (editRootfstype sed target lines)) }
  else if config.BOOTINI then
    { files with environment := files.environment.map fun lines =>
        editExtra sed config target (editRootdev sed target (editRootfstype sed target lines)) }
  else files

def transfer (files : Install) : Install :=
  match target.P_VALUE with
  | .p1 => p1_boot sed config target files
  | .p2 => p2_boot sed config target files

/-- The installation that the image builder makes. -/
def built : Install where
  environment := if config.BOOTCMD || config.BOOTINI then stagedEnvironment sed config else none
  extlinux := if config.EXTLINUX then some (Staging.extlinux config) else none

end Commands

section CommandLine

def isAppend (line : Text) : Bool := (words line).head? == some ("append" : Text)

/-- The arguments of the first append line. -/
def appendArgs (lines : List Text) : List Text :=
  match lines.find? isAppend with
  | some line => (words line).tail
  | none => []

/-- A disk whose boot partition holds the transferred files: the environment file,
and boot.scr when mkimage has made one. -/
structure Holds (config : Config) (target : Target) (files : Install) (disk : Disk) : Prop where
  environment : disk.volume (BOOT_PATH target.P_VALUE ++
    (config.FAMILY.name ++ ("Env.txt" : Text))) = files.environment.map unlines
  boot_scr : (disk.volume (BOOT_PATH target.P_VALUE ++ ("boot.scr" : Text))).isSome =
    config.BOOTCMD
  clean : disk.volume (elsewhere target.P_VALUE) = none
  root : disk.partuuid [disk.devtype, disk.devnum ++ rootPart target.P_VALUE] =
    target.ROOT_PARTUUID

/-- The scripts that read the environment file. -/
inductive EnvScript
  | boot_cmd
  | boot_ini
  | spacemit_boot_cmd

def EnvScript.prepare (script : EnvScript) (world : World) (platform : Text) : Command :=
  match script with
  | .boot_cmd | .boot_ini => genericPrepare world platform
  | .spacemit_boot_cmd => spacemitPrepare world platform

def EnvScript.command (script : EnvScript) (world : World) (platform : Text) : Command :=
  match script with
  | .boot_cmd => Boot.boot_cmd world platform
  | .boot_ini => Boot.boot_ini world platform
  | .spacemit_boot_cmd => Boot.spacemit_boot_cmd world platform

/-- One root partition and one filesystem, those of the target, and the subvolume
of btrfs for btrfs only. -/
structure Describes (target : Target) (line : List Text) : Prop where
  root : line.filter (("root=PARTUUID=" : Text).isPrefixOf ·) =
    [("root=PARTUUID=" : Text) ++ target.ROOT_PARTUUID]
  rootfstype : line.filter (("rootfstype=" : Text).isPrefixOf ·) =
    [("rootfstype=" : Text) ++ target.R_FSTYPE.name]
  rootflags : ROOT_FLAGS ∈ line ↔ target.R_FSTYPE = .btrfs

/-- The command line of an installation: from extlinux.conf, or from `bootargs` as
the boot script leaves it on any such disk. -/
def DescribesTarget (config : Config) (script : EnvScript) (target : Target) (files : Install) :
    Prop :=
  if config.EXTLINUX then ∃ lines, files.extlinux = some lines ∧ Describes target (appendArgs lines)
  else ∀ (disk : Disk) (env : Env) (memory : Text → Text), Holds config target files disk →
    disk.Ready env → Describes target (words
      ((script.command disk.world config.PLATFORM (start env memory)).2.env ("bootargs" : Text)))

end CommandLine

section Words

/-- A word that says nothing about the root filesystem. -/
def Neutral (word : Text) : Prop :=
  ¬ ("root=PARTUUID=" : Text) <+: word ∧ ¬ ("rootfstype=" : Text) <+: word ∧ word ≠ ROOT_FLAGS

instance (word : Text) : Decidable (Neutral word) :=
  inferInstanceAs (Decidable (_ ∧ _ ∧ _))

variable (target : Target)

theorem filter_absent (key : Text) (list : List Text) (absent : ∀ word ∈ list, ¬ key <+: word) :
    list.filter (key.isPrefixOf ·) = [] := by
  rw [List.filter_eq_nil_iff]
  intro word member
  rw [List.isPrefixOf_iff_prefix]
  exact absent word member

theorem filter_here (key value : Text) : [key ++ value].filter (key.isPrefixOf ·) = [key ++ value] := by
  apply List.filter_cons_of_pos
  rw [List.isPrefixOf_iff_prefix]
  exact List.prefix_append key value

/-- The word about the subvolume, for btrfs only. -/
def flagWords (fstype : Fstype) : List Text := if fstype = .btrfs then [ROOT_FLAGS] else []

theorem flagWords_cases (fstype : Fstype) (word : Text) (member : word ∈ flagWords fstype) :
    word = ROOT_FLAGS ∧ fstype = .btrfs := by
  unfold flagWords at member
  split at member
  · rename_i btrfs
    exact ⟨List.mem_singleton.mp member, btrfs⟩
  · cases member

/-- The words about the root filesystem among neutral ones. -/
theorem describes_of_parts (before between after rest : List Text)
    (one : ∀ word ∈ before, Neutral word) (two : ∀ word ∈ between, Neutral word)
    (three : ∀ word ∈ after, Neutral word) (four : ∀ word ∈ rest, Neutral word) :
    Describes target (before ++ [("root=PARTUUID=" : Text) ++ target.ROOT_PARTUUID] ++ between ++
      [("rootfstype=" : Text) ++ target.R_FSTYPE.name] ++ after ++ flagWords target.R_FSTYPE ++
      rest) := by
  have crossed : ¬ ("root=PARTUUID=" : Text) <+: ("rootfstype=" : Text) ++ target.R_FSTYPE.name := by
    cases target.R_FSTYPE <;> decide
  have fifth : ∀ value : Text, (("root=PARTUUID=" : Text) ++ value)[4]? = some '=' := fun _ => rfl
  have crossed' : ¬ ("rootfstype=" : Text) <+:
      ("root=PARTUUID=" : Text) ++ target.ROOT_PARTUUID := by
    intro here
    obtain ⟨tail, same⟩ := here
    have letter := fifth target.ROOT_PARTUUID
    have other : (("rootfstype=" : Text) ++ tail)[4]? = some 'f' := rfl
    rw [← same, other] at letter
    exact absurd letter (by decide)
  have flags : ∀ key : Text, ¬ key <+: ROOT_FLAGS →
      ∀ word ∈ flagWords target.R_FSTYPE, ¬ key <+: word := by
    intro key other word member
    rw [(flagWords_cases _ word member).1]
    exact other
  constructor
  · simp only [List.filter_append]
    rw [filter_absent _ before fun word member => (one word member).1, filter_here,
      filter_absent _ between fun word member => (two word member).1,
      filter_absent _ [_] fun word member => by rw [List.mem_singleton.mp member]; exact crossed,
      filter_absent _ after fun word member => (three word member).1,
      filter_absent _ (flagWords _) (flags _ (by decide)),
      filter_absent _ rest fun word member => (four word member).1]
    rfl
  · simp only [List.filter_append]
    rw [filter_absent _ before fun word member => (one word member).2.1,
      filter_absent _ [_] fun word member => by rw [List.mem_singleton.mp member]; exact crossed',
      filter_absent _ between fun word member => (two word member).2.1, filter_here,
      filter_absent _ after fun word member => (three word member).2.1,
      filter_absent _ (flagWords _) (flags _ (by decide)),
      filter_absent _ rest fun word member => (four word member).2.1]
    rfl
  · simp only [List.mem_append, List.mem_singleton]
    constructor
    · intro member
      rcases member with (((((inside | is) | inside) | is) | inside) | inside) | inside
      · exact absurd rfl (one _ inside).2.2
      · have letter := fifth target.ROOT_PARTUUID
        rw [← is] at letter
        exact absurd letter (by decide)
      · exact absurd rfl (two _ inside).2.2
      · exact absurd is (by cases target.R_FSTYPE <;> decide)
      · exact absurd rfl (three _ inside).2.2
      · exact (flagWords_cases _ _ inside).2
      · exact absurd rfl (four _ inside).2.2
    · intro btrfs
      apply Or.inl
      apply Or.inr
      rw [flagWords, if_pos btrfs]
      exact List.mem_singleton_self _

end Words

/-- The free strings mean nothing to sed and U-Boot and do not speak about the root
filesystem, and the environment file has the name that write2mmc looks for. -/
structure Harmless (config : Config) : Prop where
  platform : config.PLATFORM = config.FAMILY.name
  console : '\\' ∉ config.CONSOLE
  dtb : '\\' ∉ config.DTB
  extra : '\\' ∉ config.EXTRA
  sed : config.EXTLINUX = false → config.FSTYPE = .btrfs → Plain config.EXTRA
  neutral : ∀ word ∈ words config.CONSOLE ++ words config.EXTRA, Neutral word

section Lines

variable (config : Config) (target : Target)

theorem neutral_loglevel (n : Text) : Neutral (("loglevel=" : Text) ++ n) := by
  refine ⟨?_, ?_, ?_⟩
  · intro here
    obtain ⟨rest, same⟩ := here
    exact absurd (List.cons.inj same).1 (by decide)
  · intro here
    obtain ⟨rest, same⟩ := here
    exact absurd (List.cons.inj same).1 (by decide)
  · intro is
    exact absurd (List.cons.inj is).1 (by decide)

theorem loglevel_word (name : Text) (named : isFileName name = true) :
    IsWord (("loglevel=" : Text) ++ name) :=
  IsWord.join _ _ (by decide) (isWord_of_isFileName name named)

theorem root_word : IsWord (("root=PARTUUID=" : Text) ++ target.ROOT_PARTUUID) :=
  IsWord.join _ _ (by decide) (isWord_of_isFileName _ target.named)

theorem rootfstype_word : IsWord (("rootfstype=" : Text) ++ target.R_FSTYPE.name) :=
  IsWord.join _ _ (by decide) (isWord_of_isFileName _ (fstype_name _))

/-- The parts of `bootargs`. -/
def bootargsParts (console uuid fstype loglevel extra : Text) : List Text :=
  [console, "rw", ("root=PARTUUID=" : Text) ++ uuid, ("rootfstype=" : Text) ++ fstype,
    ("loglevel=" : Text) ++ loglevel, "fsck.repair=yes", extra, "rootwait", "init=/sbin/init"]

theorem words_extraFor : words (extraFor config target.R_FSTYPE) =
    words config.EXTRA ++ flagWords target.R_FSTYPE := by
  unfold extraFor flagWords
  split
  · rw [List.singleton_append, words_append _ _ ' ' rfl, words_word ROOT_FLAGS (by decide)]
  · rw [List.append_nil]

theorem neutral_console (harmless : Harmless config) :
    ∀ word ∈ words config.CONSOLE, Neutral word := fun word member =>
  harmless.neutral word (List.mem_append_left _ member)

theorem neutral_extra (harmless : Harmless config) :
    ∀ word ∈ words config.EXTRA, Neutral word := fun word member =>
  harmless.neutral word (List.mem_append_right _ member)

theorem bootargs_describe (harmless : Harmless config) (n : Text) (named : isFileName n = true) :
    Describes target (words (spaced (bootargsParts config.CONSOLE target.ROOT_PARTUUID
      target.R_FSTYPE.name n (extraFor config target.R_FSTYPE)))) := by
  have parts : words (spaced (bootargsParts config.CONSOLE target.ROOT_PARTUUID
      target.R_FSTYPE.name n (extraFor config target.R_FSTYPE))) =
      (words config.CONSOLE ++ [("rw" : Text)]) ++
        [("root=PARTUUID=" : Text) ++ target.ROOT_PARTUUID] ++ [] ++
        [("rootfstype=" : Text) ++ target.R_FSTYPE.name] ++
        ([("loglevel=" : Text) ++ n, ("fsck.repair=yes" : Text)] ++ words config.EXTRA) ++
        flagWords target.R_FSTYPE ++ [("rootwait" : Text), ("init=/sbin/init" : Text)] := by
    rw [words_spaced, bootargsParts]
    simp only [List.flatMap_cons, List.flatMap_nil, words_word _ (root_word target),
      words_word _ (rootfstype_word target), words_word _ (loglevel_word n named), words_extraFor,
      words_word ("rw" : Text) (by decide), words_word ("fsck.repair=yes" : Text) (by decide),
      words_word ("rootwait" : Text) (by decide), words_word ("init=/sbin/init" : Text) (by decide)]
    simp only [List.append_assoc, List.cons_append, List.nil_append, List.append_nil]
  rw [parts]
  apply describes_of_parts
  · rw [List.forall_mem_append]
    exact ⟨neutral_console config harmless, by decide⟩
  · exact fun word member => nomatch member
  · rw [List.forall_mem_append, List.forall_mem_cons]
    exact ⟨⟨neutral_loglevel n, by decide⟩, neutral_extra config harmless⟩
  · decide

/-- The parts of `CMDLINE`. -/
theorem CMDLINE_parts (uuid : Text) (fstype : Fstype) : CMDLINE config uuid fstype =
    spaced [("append" : Text), ("earlyprintk" : Text), config.CONSOLE, ("rw" : Text),
      ("root=PARTUUID=" : Text) ++ uuid, ("rootwait" : Text), fstype.ROOT_FSTYPE,
      ("fsck.repair=yes" : Text), config.LOGLEVEL, config.EXTRA, ("init=/sbin/init" : Text)] := by
  unfold CMDLINE
  generalize config.CONSOLE = console
  generalize config.LOGLEVEL = loglevel
  generalize config.EXTRA = extra
  generalize fstype.ROOT_FSTYPE = root
  simp only [List.append_assoc]
  simp only [spaced_cons, spaced_one, List.append_assoc]
  rfl

theorem words_ROOT_FSTYPE : words target.R_FSTYPE.ROOT_FSTYPE =
    (("rootfstype=" : Text) ++ target.R_FSTYPE.name) :: flagWords target.R_FSTYPE := by
  cases target.R_FSTYPE <;> decide

theorem CMDLINE_describes (harmless : Harmless config) : Describes target
    (words ('\t' :: CMDLINE config target.ROOT_PARTUUID target.R_FSTYPE)).tail := by
  obtain ⟨n, named, level⟩ := config.level
  have parts : (words ('\t' :: CMDLINE config target.ROOT_PARTUUID target.R_FSTYPE)).tail =
      ([("earlyprintk" : Text)] ++ words config.CONSOLE ++ [("rw" : Text)]) ++
        [("root=PARTUUID=" : Text) ++ target.ROOT_PARTUUID] ++ [("rootwait" : Text)] ++
        [("rootfstype=" : Text) ++ target.R_FSTYPE.name] ++ [] ++ flagWords target.R_FSTYPE ++
        ([("fsck.repair=yes" : Text), ("loglevel=" : Text) ++ n] ++ words config.EXTRA ++
          [("init=/sbin/init" : Text)]) := by
    have blank := words_append [] (CMDLINE config target.ROOT_PARTUUID target.R_FSTYPE) '\t' rfl
    rw [List.nil_append] at blank
    rw [blank, CMDLINE_parts, words_spaced, level]
    simp only [List.flatMap_cons, List.flatMap_nil, words_word _ (root_word target),
      words_ROOT_FSTYPE, words_word _ (loglevel_word n named),
      words_word ("append" : Text) (by decide), words_word ("earlyprintk" : Text) (by decide),
      words_word ("rw" : Text) (by decide), words_word ("fsck.repair=yes" : Text) (by decide),
      words_word ("rootwait" : Text) (by decide), words_word ("init=/sbin/init" : Text) (by decide)]
    simp only [List.append_assoc, List.cons_append, List.nil_append, List.append_nil]
    rfl
  rw [parts]
  apply describes_of_parts
  · rw [List.forall_mem_append, List.forall_mem_append]
    exact ⟨⟨by decide, neutral_console config harmless⟩, by decide⟩
  · decide
  · exact fun word member => nomatch member
  · have check : Neutral ("fsck.repair=yes" : Text) := by decide
    have init : Neutral ("init=/sbin/init" : Text) := by decide
    simp only [List.forall_mem_append, List.forall_mem_cons]
    exact ⟨⟨⟨check, neutral_loglevel n, fun _ member => nomatch member⟩,
      neutral_extra config harmless⟩, init, fun _ member => nomatch member⟩

end Lines

section BootArguments

variable (disk : Disk) (config : Config) (target : Target) (s : State)

theorem bootVariables_bootargs : (bootVariables s).2.env ("bootargs" : Text) =
    spaced (bootargsParts (s.env ("console" : Text)) (s.env ("uuid" : Text))
      (s.env ("rootfstype" : Text)) (s.env ("loglevel" : Text)) (s.env ("extra" : Text))) := by
  simp [bootVariables, setenv, expand, v, Env.set, bootargsParts, spaced]

/-- The choice of a board of the k1 series sets two variables at most. -/
theorem productName_env (world : World) (name : Text) (bootlabel : name ≠ ("bootlabel" : Text))
    (fdtfile : name ≠ ("fdtfile" : Text)) : (productName world s).2.env name = s.env name := by
  have board : ∀ label file, (k1Board world label file s).2.env name = s.env name := by
    intro label file
    unfold k1Board ifThen
    split
    · simp only [sequence_cons, sequence_nil, setenv]
      rw [Env.set_other _ _ _ _ fdtfile, Env.set_other _ _ _ _ bootlabel]
    · rfl
  simp only [productName, ifThen]
  split
  · exact board _ _
  split
  · exact board _ _
  split
  · exact board _ _
  split
  · exact board _ _
  · rfl

/-- Between the environment file and the boot arguments a script changes none of the
variables that the arguments are made of. -/
theorem prepare_bootargs (script : EnvScript) : ∃ between : State,
    ((script.prepare disk.world config.PLATFORM s).2.env ("bootargs" : Text) =
      (bootVariables between).2.env ("bootargs" : Text)) ∧
    ∀ name, name ≠ ("bootlabel" : Text) → name ≠ ("fdtfile" : Text) → between.env name =
      (loadEnvironment disk.world config.PLATFORM (detectPrefix disk.world s).2).2.env name := by
  cases script with
  | boot_cmd => exact ⟨_, rfl, fun _ _ _ => rfl⟩
  | boot_ini => exact ⟨_, rfl, fun _ _ _ => rfl⟩
  | spacemit_boot_cmd =>
      exact ⟨_, rfl, fun name bootlabel fdtfile => productName_env _ disk.world name bootlabel fdtfile⟩

theorem command_bootargs (script : EnvScript) :
    (script.command disk.world config.PLATFORM s).2.env ("bootargs" : Text) =
      (script.prepare disk.world config.PLATFORM s).2.env ("bootargs" : Text) := by
  have same : ∀ checked s', (bootBoth (loadAll disk.world checked s').2).2.env ("bootargs" : Text) =
      s'.env ("bootargs" : Text) := by
    intro checked s'
    have booted : ∀ s'' : State, (bootBoth s'').2.env = s''.env := fun _ => rfl
    rw [booted]
    exact (loadAll_loads disk.world checked s').other _ (by decide) (by decide)
  cases script with
  | boot_cmd => exact same true _
  | boot_ini => exact same false _
  | spacemit_boot_cmd => exact same true _

/-- The settings together with the log level. -/
theorem envLines_loglevel (extra uuid : Text) (fstype : Fstype) (env : Env)
    (plain : ∀ setting ∈ settings config extra uuid fstype, '\\' ∉ setting.2) :
    ∃ n, isFileName n = true ∧
      importLines none (envLines config extra uuid fstype) env ("loglevel" : Text) = n := by
  obtain ⟨n, named, level⟩ := config.level
  refine ⟨n, named, ?_⟩
  have lines : envLines config extra uuid fstype =
      (settings config extra uuid fstype ++ [(("loglevel" : Text), n)]).map assignment ++
        (notes config).drop 1 := by
    rw [List.map_append, List.append_assoc, envLines, notes, level]
    rfl
  have names : (settings config extra uuid fstype ++ [(("loglevel" : Text), n)]).map Prod.fst =
      settingNames ++ [("loglevel" : Text)] := rfl
  have spared := lastNotes_spare config ("loglevel" : Text) (by decide) (by decide)
  have name : isName ("loglevel" : Text) = true := by decide
  rw [lines]
  refine importLines_value _ _ env ?_ ?_ ?_ (("loglevel" : Text), n)
    (List.mem_append_right _ List.mem_cons_self) spared
  · rw [List.forall_mem_append, List.forall_mem_singleton]
    exact ⟨settings_named config extra uuid fstype, name⟩
  · rw [List.forall_mem_append, List.forall_mem_singleton]
    exact ⟨plain, not_mem_of_isFileName '\\' n named (by decide)⟩
  · rw [names]
    decide

theorem extraFor_plain (harmless : Harmless config) (fstype : Fstype) :
    '\\' ∉ extraFor config fstype := by
  unfold extraFor
  split
  · rw [List.mem_append, not_or]
    exact ⟨harmless.extra, by decide⟩
  · exact harmless.extra

theorem extraFor_single (fstype : Fstype) : '\n' ∉ extraFor config fstype := by
  have extra := single_of_printable _ config.strings.2.2
  unfold extraFor
  split
  · rw [List.mem_append, not_or]
    exact ⟨extra, by decide⟩
  · exact extra

/-- The variables after the environment file of the target was imported. -/
theorem imported_env (harmless : Harmless config) (files : Install)
    (holds : Holds config target files disk) (ready : disk.Ready s.env)
    (bootcmd : config.BOOTCMD = true) (lines : List Text) (single : ∀ line ∈ lines, '\n' ∉ line)
    (only : SetsOnly lines) (current : files.environment = some lines) :
    ∃ env, (loadEnvironment disk.world config.PLATFORM (detectPrefix disk.world s).2).2.env =
        importLines none lines env ∧
      importLines none lines env ("uuid" : Text) = target.ROOT_PARTUUID := by
  have detected := detectPrefix_found disk { config with P_VALUE := target.P_VALUE } s ready
    (holds.boot_scr.trans bootcmd) holds.clean
  generalize (detectPrefix disk.world s).2 = s1 at detected ⊢
  have ready' : disk.Ready s1.env := by
    rw [detected]
    exact (ready.set disk _ _ _ (by decide)).set disk _ _ _ (by decide)
  have prefixed : s1.env ("prefix" : Text) = bootPrefix target.P_VALUE := by
    rw [detected, Env.set_other _ _ _ _ (by decide), Env.set_same]
  have there : disk.volume (BOOT_PATH target.P_VALUE ++ (config.PLATFORM ++ ("Env.txt" : Text))) =
      some (unlines lines) := by
    rw [harmless.platform, holds.environment, current]
    rfl
  have imports := loadEnvironment_env disk { config with P_VALUE := target.P_VALUE } s1
    (unlines lines) ready' prefixed there
  rw [importText, textLines_unlines lines single] at imports
  refine ⟨_, imports, ?_⟩
  rw [importLines_spared _ lines _ (only _ (by decide) (by decide)), beforeImport,
    Env.set_other _ _ _ _ (by decide), Env.set_other _ _ _ _ (by decide),
    Env.set_other _ _ _ _ (by decide), detected, Env.set_same]
  exact holds.root

/-- The boot arguments that an environment file leads to. -/
theorem bootcmd_bootargs (harmless : Harmless config) (script : EnvScript) (files : Install)
    (holds : Holds config target files disk) (ready : disk.Ready s.env)
    (bootcmd : config.BOOTCMD = true) (source fstype : Fstype)
    (current : files.environment = some (envLines config (extraFor config source)
      target.ROOT_PARTUUID fstype)) :
    ∃ n, isFileName n = true ∧
      (script.command disk.world config.PLATFORM s).2.env ("bootargs" : Text) =
        spaced (bootargsParts config.CONSOLE target.ROOT_PARTUUID fstype.name n
          (extraFor config source)) := by
  have plain := settings_plain config (extraFor config source) target.ROOT_PARTUUID fstype
    harmless.console (extraFor_plain config harmless _) harmless.dtb
    (not_mem_of_isFileName '\\' _ target.named (by decide))
  obtain ⟨env, imports, uuid⟩ := imported_env disk config target s harmless files holds ready
    bootcmd _ (envLines_single config _ _ _ (extraFor_single config _)
      (not_mem_of_isFileName '\n' _ target.named (by decide))) (envLines_only config _ _ _) current
  have value := fun setting member => envLines_value config (extraFor config source)
    target.ROOT_PARTUUID fstype env plain setting member
  obtain ⟨n, named, loglevel⟩ := envLines_loglevel config _ _ _ env plain
  obtain ⟨between, prepared, kept⟩ := prepare_bootargs disk config s script
  rw [imports] at kept
  have console := (kept ("console" : Text) (by decide) (by decide)).trans
    (value ("console", config.CONSOLE) (by simp [settings]))
  have extra := (kept ("extra" : Text) (by decide) (by decide)).trans
    (value ("extra", extraFor config source) (by simp [settings]))
  have rootfstype := (kept ("rootfstype" : Text) (by decide) (by decide)).trans
    (value ("rootfstype", fstype.name) (by simp [settings]))
  have level := (kept ("loglevel" : Text) (by decide) (by decide)).trans loglevel
  have root := (kept ("uuid" : Text) (by decide) (by decide)).trans uuid
  refine ⟨n, named, ?_⟩
  rw [command_bootargs, prepared, bootVariables_bootargs, console, extra, rootfstype, level, root]

/-- A disk with the environment file and boot.scr, and nothing else. -/
def bareDisk (lines : List Text) : Disk :=
  let script := Volume.write (fun _ => none) (BOOT_PATH target.P_VALUE ++ ("boot.scr" : Text)) []
  card (script.write (BOOT_PATH target.P_VALUE ++ (config.PLATFORM ++ ("Env.txt" : Text)))
    (unlines lines)) target.ROOT_PARTUUID

theorem bareDisk_holds (harmless : Harmless config) (files : Install) (lines : List Text)
    (bootcmd : config.BOOTCMD = true) (there : files.environment = some lines) :
    Holds config target files (bareDisk config target lines) := by
  have notScr : BOOT_PATH target.P_VALUE ++ ("boot.scr" : Text) ≠
      BOOT_PATH target.P_VALUE ++ (config.PLATFORM ++ ("Env.txt" : Text)) := by
    apply ne_Env_txt
    simp
  have notElsewhere : elsewhere target.P_VALUE ≠
      BOOT_PATH target.P_VALUE ++ (config.PLATFORM ++ ("Env.txt" : Text)) := by
    apply ne_Env_txt
    cases target.P_VALUE <;> decide
  have other : elsewhere target.P_VALUE ≠ BOOT_PATH target.P_VALUE ++ ("boot.scr" : Text) := by
    cases target.P_VALUE <;> decide
  refine ⟨?_, ?_, ?_, rfl⟩
  · rw [← harmless.platform, there]
    exact Volume.write_same _ _ _
  · simp only [bareDisk, card, bootcmd]
    rw [Volume.write_other _ _ _ _ notScr, Volume.write_same]
    rfl
  · simp only [bareDisk, card]
    rw [Volume.write_other _ _ _ _ notElsewhere, Volume.write_other _ _ _ _ other]

theorem bareDisk_ready (lines : List Text) : (bareDisk config target lines).Ready uboot :=
  card_ready _ _

end BootArguments

section Step

variable (sed : Sed) (config : Config) (target : Target)

/-- The boot configuration of an installation on a given root partition. -/
def Current (config : Config) (uuid : Text) (fstype : Fstype) (files : Install) : Prop :=
  if config.EXTLINUX then ∃ lines, files.extlinux = some lines ∧
    ∃ line ∈ lines, grepLine ("append" : Text) line = true
  else files.environment = some (envLines config (extraFor config fstype) uuid fstype)

/-- The transfers that write2mmc gets right, from a root filesystem of `fstype`: to one
partition not from btrfs, and to two with an `extra` that its sed takes as it is. -/
def Kept (config : Config) (fstype : Fstype) (target : Target) : Prop :=
  config.EXTLINUX = true ∨
    config.BOOTCMD = true ∧ (target.P_VALUE = .p1 → fstype ≠ .btrfs) ∧
      (target.P_VALUE = .p2 → Plain config.EXTRA)

theorem Plain.join (first second : Text) (one : Plain first) (two : Plain second) :
    Plain (first ++ second) := by
  rw [Plain, List.forall_mem_append]
  exact ⟨one, two⟩

theorem editRootfstype_envLines (extra uuid : Text) (fstype : Fstype) :
    editRootfstype sed target (envLines config extra uuid fstype) =
      envLines config extra uuid target.R_FSTYPE := by
  have plain : Plain (("rootfstype=" : Text) ++ target.R_FSTYPE.name) :=
    Plain.join _ _ (by decide) (plain_of_isFileName _ (fstype_name _))
  rw [editRootfstype, edited, sed.substitute_plain _ _ _ plain, Option.getD_some]
  exact substitute_envLines config ("rootfstype" : Text) target.R_FSTYPE.name extra uuid fstype
    (by decide) (by decide)

theorem editRootdev_envLines (extra uuid : Text) (fstype : Fstype) :
    editRootdev sed target (envLines config extra uuid fstype) =
      envLines config extra target.ROOT_PARTUUID fstype := by
  have plain : Plain (("rootdev=PARTUUID=" : Text) ++ target.ROOT_PARTUUID) :=
    Plain.join _ _ (by decide) (plain_of_isFileName _ target.named)
  rw [editRootdev, edited, sed.substitute_plain _ _ _ plain, Option.getD_some]
  exact substitute_envLines config ("rootdev" : Text)
    (("PARTUUID=" : Text) ++ target.ROOT_PARTUUID) extra uuid fstype (by decide) (by decide)

theorem editExtra_envLines (plain : Plain config.EXTRA) (extra uuid : Text) (fstype : Fstype) :
    editExtra sed config target (envLines config extra uuid fstype) =
      envLines config (extraFor config target.R_FSTYPE) uuid fstype := by
  have value : Plain (extraFor config target.R_FSTYPE) := by
    unfold extraFor
    split
    · exact Plain.join _ _ plain (by decide)
    · exact plain
  have harmless := Plain.join ("extra=" : Text) _ (by decide) value
  rw [editExtra, edited, sed.substitute_plain _ _ _ harmless, Option.getD_some]
  exact substitute_extra config (extraFor config target.R_FSTYPE) extra uuid fstype

theorem grepLine_CMDLINE (uuid : Text) (fstype : Fstype) :
    grepLine ("append" : Text) ('\t' :: CMDLINE config uuid fstype) = true := by
  apply decide_eq_true
  rw [CMDLINE_parts, spaced_cons]
  exact ⟨['\t'], _, rfl⟩

theorem isAppend_CMDLINE (uuid : Text) (fstype : Fstype) :
    isAppend ('\t' :: CMDLINE config uuid fstype) = true := by
  have blank := words_append [] (CMDLINE config uuid fstype) '\t' rfl
  rw [List.nil_append] at blank
  rw [isAppend, blank, CMDLINE_parts, spaced_cons, words_append _ _ ' ' rfl,
    words_word ("append" : Text) (by decide)]
  rfl

/-- A line whose first word is append is one that sed finds. -/
theorem grepLine_of_isAppend (line : Text) (first : isAppend line = true) :
    grepLine ("append" : Text) line = true := by
  apply decide_eq_true
  apply infix_of_mem_words
  simp only [isAppend, beq_iff_eq] at first
  exact List.mem_of_mem_head? first

/-- After the change the first append line is the new one. -/
theorem find_changed (text : Text) (append : isAppend text = true) (lines : List Text)
    (found : ∃ line ∈ lines, grepLine ("append" : Text) line = true) :
    (lines.map (changeLine ("append" : Text) text)).find? isAppend = some text := by
  induction lines with
  | nil =>
      obtain ⟨line, member, _⟩ := found
      cases member
  | cons first rest ih =>
      rw [List.map_cons]
      cases hit : grepLine ("append" : Text) first with
      | true =>
          rw [changeLine, if_pos hit, List.find?_cons_of_pos append]
      | false =>
          have other : isAppend first = false := by
            rw [← Bool.not_eq_true]
            intro is
            rw [grepLine_of_isAppend first is] at hit
            cases hit
          have later : ∃ line ∈ rest, grepLine ("append" : Text) line = true := by
            obtain ⟨line, member, here⟩ := found
            rcases List.mem_cons.mp member with is | later
            · rw [is, hit] at here
              cases here
            · exact ⟨line, later, here⟩
          rw [changeLine, if_neg (by rw [hit]; exact Bool.false_ne_true),
            List.find?_cons_of_neg (by rw [other]; exact Bool.false_ne_true)]
          exact ih later

/-- On one partition the root filesystem is ext4. -/
theorem Target.ext4 (single : target.P_VALUE = .p1) : target.R_FSTYPE = .ext4 := by
  have accepted := target.accepted
  rw [single] at accepted
  exact (Option.some.inj accepted).symm

theorem CMDLINE_single (harmless : Harmless config) (c : Char) (special : c = '\\' ∨ c = '\n') :
    c ∉ '\t' :: CMDLINE config target.ROOT_PARTUUID target.R_FSTYPE := by
  have text : ∀ text : Text, '\\' ∉ text → '\n' ∉ text → c ∉ text := by
    intro text one two
    rcases special with is | is <;> rw [is]
    · exact one
    · exact two
  have names : ∀ name : Text, isFileName name = true → c ∉ name := fun name named =>
    text name (not_mem_of_isFileName _ name named (by decide))
      (not_mem_of_isFileName _ name named (by decide))
  have console := text _ harmless.console (single_of_printable _ config.strings.2.1)
  have extra := text _ harmless.extra (single_of_printable _ config.strings.2.2)
  have root : c ∉ target.R_FSTYPE.ROOT_FSTYPE := by
    cases target.R_FSTYPE <;> exact text _ (by decide) (by decide)
  have uuid := names _ target.named
  have loglevel : c ∉ config.LOGLEVEL := by
    obtain ⟨n, named, level⟩ := config.level
    rw [level, List.mem_append, not_or]
    exact ⟨text _ (by decide) (by decide), names n named⟩
  unfold CMDLINE
  generalize config.CONSOLE = console' at console ⊢
  generalize config.LOGLEVEL = loglevel' at loglevel ⊢
  generalize config.EXTRA = extra' at extra ⊢
  generalize target.R_FSTYPE.ROOT_FSTYPE = root' at root ⊢
  rw [List.mem_cons, not_or]
  refine ⟨?_, ?_⟩
  · rcases special with is | is <;> rw [is] <;> decide
  · simp only [List.mem_append, not_or]
    exact ⟨⟨⟨⟨⟨⟨⟨⟨⟨⟨text _ (by decide) (by decide), console⟩, text _ (by decide) (by decide)⟩,
      uuid⟩, text _ (by decide) (by decide)⟩, root⟩, text _ (by decide) (by decide)⟩, loglevel⟩,
      text _ (by decide) (by decide)⟩, extra⟩, text _ (by decide) (by decide)⟩

/-- One transfer with extlinux.conf. -/
theorem extlinux_transfer (harmless : Harmless config) (files : Install) (lines : List Text)
    (extlinux : config.EXTLINUX = true) (there : files.extlinux = some lines)
    (found : ∃ line ∈ lines, grepLine ("append" : Text) line = true) :
    ∃ lines, (transfer sed config target files).extlinux = some lines ∧
      (∃ line ∈ lines, grepLine ("append" : Text) line = true) ∧
      Describes target (appendArgs lines) := by
  have edit : (transfer sed config target files).extlinux =
      some (editCMDLINE sed config target lines) := by
    unfold transfer
    cases target.P_VALUE with
    | p1 => rw [p1_boot, if_pos extlinux, there]; rfl
    | p2 => rw [p2_boot, if_pos extlinux, there]; rfl
  have changed : editCMDLINE sed config target lines = lines.map (changeLine ("append" : Text)
      ('\t' :: CMDLINE config target.ROOT_PARTUUID target.R_FSTYPE)) := by
    rw [editCMDLINE, edited, sed.change_plain _ _ _ (CMDLINE_single config target harmless _
      (Or.inl rfl)) (CMDLINE_single config target harmless _ (Or.inr rfl)), Option.getD_some]
  have first := find_changed _ (isAppend_CMDLINE config target.ROOT_PARTUUID target.R_FSTYPE)
    lines found
  rw [← changed] at first
  refine ⟨_, edit, ⟨_, List.mem_of_find?_eq_some first, grepLine_CMDLINE config _ _⟩, ?_⟩
  rw [appendArgs, first]
  exact CMDLINE_describes config target harmless

/-- One transfer with the environment file. -/
theorem environment_transfer (files : Install) (uuid : Text)
    (fstype : Fstype) (extlinux : config.EXTLINUX = false) (bootcmd : config.BOOTCMD = true)
    (room : target.P_VALUE = .p1 → fstype ≠ .btrfs) (plain : target.P_VALUE = .p2 → Plain config.EXTRA)
    (there : files.environment = some (envLines config (extraFor config fstype) uuid fstype)) :
    (transfer sed config target files).environment = some (envLines config
      (extraFor config target.R_FSTYPE) target.ROOT_PARTUUID target.R_FSTYPE) := by
  have notExtlinux : ¬ config.EXTLINUX = true := by
    rw [extlinux]
    exact Bool.false_ne_true
  unfold transfer
  cases scheme : target.P_VALUE with
  | p1 =>
      have ext4 := target.ext4 scheme
      have kept : extraFor config fstype = extraFor config target.R_FSTYPE := by
        rw [extraFor, if_neg (room scheme), extraFor, ext4]
        rfl
      simp only [p1_boot, if_neg notExtlinux, if_pos bootcmd, there, Option.map_some]
      rw [editRootfstype_envLines, editRootdev_envLines, kept]
  | p2 =>
      simp only [p2_boot, if_neg notExtlinux, if_pos bootcmd, there, Option.map_some]
      rw [editRootfstype_envLines, editRootdev_envLines,
        editExtra_envLines sed config target (plain scheme)]

end Step

section Run

variable (sed : Sed) (config : Config)

/-- Every transfer of a run is one that write2mmc gets right. -/
def KeptAll (config : Config) : Fstype → List Target → Prop
  | _, [] => True
  | fstype, target :: rest => Kept config fstype target ∧ KeptAll config target.R_FSTYPE rest

theorem built_current (harmless : Harmless config)
    (started : config.EXTLINUX = true ∨ config.BOOTCMD = true) :
    Current config config.ROOT_PARTUUID config.FSTYPE (built sed config) := by
  unfold Current
  cases extlinux : config.EXTLINUX with
  | true =>
      refine ⟨_, if_pos extlinux, _, ?_, grepLine_CMDLINE config config.ROOT_PARTUUID config.FSTYPE⟩
      simp [Staging.extlinux]
  | false =>
      have bootcmd : config.BOOTCMD = true :=
        started.resolve_left (by rw [extlinux]; exact Bool.false_ne_true)
      have lines := stagedEnvironment_eq config sed (harmless.sed extlinux)
      simp only [Bool.false_eq_true, ↓reduceIte, built, bootcmd, Bool.true_or, lines]
      rfl

/-- One transfer: the configuration follows the target. -/
theorem transfer_current (harmless : Harmless config) (target : Target) (files : Install)
    (uuid : Text) (fstype : Fstype) (current : Current config uuid fstype files)
    (kept : Kept config fstype target) :
    Current config target.ROOT_PARTUUID target.R_FSTYPE (transfer sed config target files) ∧
      ∀ script, DescribesTarget config script target (transfer sed config target files) := by
  unfold Current at current ⊢
  unfold DescribesTarget
  cases extlinux : config.EXTLINUX with
  | true =>
      rw [if_pos extlinux] at current
      obtain ⟨lines, there, found⟩ := current
      obtain ⟨after, edit, again, describes⟩ :=
        extlinux_transfer sed config target harmless files lines extlinux there found
      exact ⟨⟨after, edit, again⟩, fun _ => ⟨after, edit, describes⟩⟩
  | false =>
      have off : ¬ config.EXTLINUX = true := by
        rw [extlinux]
        exact Bool.false_ne_true
      rw [if_neg off] at current
      obtain ⟨bootcmd, room, plain⟩ := kept.resolve_left off
      have edit := environment_transfer sed config target files uuid fstype extlinux bootcmd
        room plain current
      refine ⟨edit, fun script disk env memory holds ready => ?_⟩
      obtain ⟨n, named, bootargs⟩ := bootcmd_bootargs disk config target (start env memory) harmless
        script _ holds ready bootcmd target.R_FSTYPE target.R_FSTYPE edit
      rw [bootargs]
      exact bootargs_describe config target harmless n named

/-- Any number of transfers, each from the target of the one before. -/
theorem foldl_current (harmless : Harmless config) (targets : List Target) (files : Install)
    (uuid : Text) (fstype : Fstype) (current : Current config uuid fstype files) (target : Target)
    (kept : KeptAll config fstype (targets ++ [target])) (script : EnvScript) :
    DescribesTarget config script target
      ((targets ++ [target]).foldl (fun files target => transfer sed config target files) files) := by
  induction targets generalizing files uuid fstype with
  | nil => exact (transfer_current sed config harmless target files uuid fstype current kept.1).2 script
  | cons first rest ih =>
      have step := transfer_current sed config harmless first files uuid fstype current kept.1
      exact ih _ _ _ step.1 kept.2

/-- After every run of transfers that write2mmc gets right, from any installation that
the image builder makes, the command line of the last target describes it. -/
theorem transfers_describe (harmless : Harmless config) (targets : List Target) (target : Target)
    (kept : KeptAll config config.FSTYPE (targets ++ [target])) (script : EnvScript) :
    DescribesTarget config script target ((targets ++ [target]).foldl
      (fun files target => transfer sed config target files) (built sed config)) := by
  apply foldl_current sed config harmless targets _ config.ROOT_PARTUUID config.FSTYPE _ target kept
  apply built_current sed config harmless
  cases targets with
  | nil => exact kept.1.imp_right And.left
  | cons first rest => exact kept.1.imp_right And.left

/-- From btrfs to one partition the words about the subvolume stay. -/
theorem p1_keeps_rootflags (harmless : Harmless config) (target : Target) (files : Install)
    (uuid : Text) (extlinux : config.EXTLINUX = false) (bootcmd : config.BOOTCMD = true)
    (single : target.P_VALUE = .p1)
    (there : files.environment = some (envLines config (extraFor config .btrfs) uuid .btrfs))
    (script : EnvScript) :
    ¬ DescribesTarget config script target (transfer sed config target files) := by
  have off : ¬ config.EXTLINUX = true := by
    rw [extlinux]
    exact Bool.false_ne_true
  have edit : (transfer sed config target files).environment = some (envLines config
      (extraFor config .btrfs) target.ROOT_PARTUUID target.R_FSTYPE) := by
    simp only [transfer, single, p1_boot, if_neg off, if_pos bootcmd, there, Option.map_some]
    rw [editRootfstype_envLines, editRootdev_envLines]
  intro describes
  rw [DescribesTarget, if_neg off] at describes
  have holds := bareDisk_holds config target harmless _ _ bootcmd edit
  have ready := bareDisk_ready config target
    (envLines config (extraFor config .btrfs) target.ROOT_PARTUUID target.R_FSTYPE)
  have line := describes _ uboot (fun _ => []) holds ready
  obtain ⟨n, named, bootargs⟩ := bootcmd_bootargs _ config target (start uboot fun _ => []) harmless
    script _ holds ready bootcmd .btrfs target.R_FSTYPE edit
  rw [bootargs, words_spaced] at line
  have flags : ROOT_FLAGS ∈ words (extraFor config .btrfs) := by
    rw [extraFor, if_pos rfl, List.singleton_append, words_append _ _ ' ' rfl,
      words_word ROOT_FLAGS (by decide)]
    exact List.mem_append_right _ List.mem_cons_self
  have btrfs := line.rootflags.mp (List.mem_flatMap.mpr ⟨_, by simp [bootargsParts], flags⟩)
  rw [target.ext4 single] at btrfs
  cases btrfs

end Run

section Example

/-- A transfer to one partition. -/
def onePartition : Target where
  P_VALUE := .p1
  B_FSTYPE := []
  answer := []
  R_FSTYPE := .ext4
  ROOT_PARTUUID := "1b2c3d4e-01"
  accepted := rfl
  named := by decide

def xfsTarget : Target where
  P_VALUE := .p2
  B_FSTYPE := "ext4"
  answer := "xfs"
  R_FSTYPE := .xfs
  ROOT_PARTUUID := "9f8e7d6c-02"
  accepted := by decide
  named := by decide

theorem lepotato_harmless : Harmless lepotatoBtrfs :=
  ⟨by decide, by decide, by decide, by decide, fun _ _ => by decide, by decide⟩

theorem transfers_describe_lepotato : DescribesTarget lepotatoBtrfs .boot_cmd onePartition
    (([xfsTarget] ++ [onePartition]).foldl
      (fun files target => transfer plainSed lepotatoBtrfs target files) (built plainSed lepotatoBtrfs)) :=
  transfers_describe plainSed lepotatoBtrfs lepotato_harmless [xfsTarget] onePartition
    ⟨Or.inr ⟨rfl, by decide, by decide⟩, Or.inr ⟨rfl, by decide, by decide⟩, trivial⟩ .boot_cmd

/-- A btrfs installation transferred to one partition boots with the subvolume of
btrfs on ext4. -/
theorem btrfs_to_one_partition : ¬ DescribesTarget lepotatoBtrfs .boot_cmd onePartition
    (transfer plainSed lepotatoBtrfs onePartition (built plainSed lepotatoBtrfs)) := by
  have current := built_current plainSed lepotatoBtrfs lepotato_harmless (Or.inr rfl)
  exact p1_keeps_rootflags plainSed lepotatoBtrfs lepotato_harmless onePartition _ _ rfl rfl rfl current
    .boot_cmd

end Example

end ImageBuilder.Transfer
