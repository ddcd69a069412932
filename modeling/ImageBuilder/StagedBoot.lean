import ImageBuilder.RamdiskSize
import ImageBuilder.StagedScript

set_option autoImplicit false

/- The boot script of a built image, run by U-Boot on the boot partition that
bootcmdini has filled. -/
namespace ImageBuilder.Staging

open PlainText Numerals Hush EnvText StreamEditor Boot

/-- The medium as U-Boot sees it, with the files of the partition it boots from. -/
structure Disk where
  devtype : Text
  devnum : Text
  bootpart : Text
  volume : Volume
  partuuid : List Text → Text
  words : IsWord devtype ∧ IsWord devnum ∧ IsWord bootpart

def Disk.part (disk : Disk) : Text := disk.devnum ++ (':' :: disk.bootpart)

/-- A path from the top of the partition. -/
def relative (path : Text) : Text := path.dropWhile (· == '/')

/-- The file of the boot partition that the arguments of a load name. -/
def Disk.path (disk : Disk) : List Text → Option Text
  | device :: part :: _ :: path :: _ =>
      if device = disk.devtype ∧ part = disk.part then some (relative path) else none
  | _ => none

def Disk.found (disk : Disk) : List Text → Bool
  | [device, part, path] =>
      device = disk.devtype ∧ part = disk.part ∧ (disk.volume (relative path)).isSome = true
  | _ => false

def Disk.world (disk : Disk) : World where
  fetch args := (disk.path args).bind disk.volume
  found := disk.found
  partuuid := disk.partuuid
  importText := importText
  ini _ _ env := env

def addressNames : List Text := ["scriptaddr", "kernel_addr_r", "ramdisk_addr_r", "fdt_addr_r"]

/-- The variables U-Boot has set when it starts the script. -/
structure Disk.Ready (disk : Disk) (env : Env) : Prop where
  devtype : env ("devtype" : Text) = disk.devtype
  devnum : env ("devnum" : Text) = disk.devnum
  bootpart : env ("distro_bootpart" : Text) = disk.bootpart
  addresses : ∀ name ∈ addressNames, IsWord (env name)

section Arguments

variable (disk : Disk) (env : Env)

theorem Disk.part_word : IsWord disk.part := by
  obtain ⟨_, devnum, bootpart⟩ := disk.words
  refine ⟨fun is => devnum.1 (List.append_eq_nil_iff.mp is).1, ?_⟩
  intro c member
  rcases List.mem_append.mp member with one | two
  · exact devnum.2 c one
  · rcases List.mem_cons.mp two with colon | rest
    · rw [colon]
      rfl
    · exact bootpart.2 c rest

theorem Disk.Ready.part (ready : disk.Ready env) :
    expand env [v "devnum", ":", v "distro_bootpart"] = disk.part := by
  simp only [expand, v, List.flatMap_cons, List.flatMap_nil, List.append_nil, ready.devnum,
    ready.bootpart, Disk.part]
  rfl

theorem expand_var (name : String) : expand env [v name] = env name := by
  simp only [expand, v, List.flatMap_cons, List.flatMap_nil, List.append_nil]

theorem expand_lit (text : Text) : expand env [.lit text] = text := by
  simp only [expand, List.flatMap_cons, List.flatMap_nil, List.append_nil]

theorem argv_cons (pieces : List Piece) (rest : List (List Piece))
    (single : IsWord (expand env pieces)) :
    argv env (pieces :: rest) = expand env pieces :: argv env rest := by
  rw [argv, List.flatMap_cons, words_word _ single]
  rfl

theorem Disk.Ready.devtype_word (ready : disk.Ready env) : IsWord (expand env [v "devtype"]) := by
  rw [expand_var, ready.devtype]
  exact disk.words.1

theorem Disk.Ready.part_word (ready : disk.Ready env) :
    IsWord (expand env [v "devnum", ":", v "distro_bootpart"]) := by
  rw [ready.part]
  exact disk.part_word

theorem onDevice_argv (ready : disk.Ready env) (path : List Piece) :
    argv env (onDevice path) = disk.devtype :: disk.part :: words (expand env path) := by
  rw [onDevice, argv_cons _ _ _ ready.devtype_word, argv_cons _ _ _ ready.part_word,
    expand_var, ready.devtype,
    ready.part, argv, List.flatMap_cons, List.flatMap_nil, List.append_nil]

theorem loadLine_argv (ready : disk.Ready env) (address : String)
    (known : (address : Text) ∈ addressNames) (path : List Piece) :
    argv env (loadLine address path) = ("load" : Text) :: disk.devtype :: disk.part ::
      env address :: words (expand env path) := by
  have command : IsWord (expand env [("load" : Piece)]) := by
    rw [expand_lit]
    decide
  have target : IsWord (expand env [v address]) := by
    rw [expand_var]
    exact ready.addresses address known
  rw [loadLine, argv_cons _ _ _ command, argv_cons _ _ _ ready.devtype_word,
    argv_cons _ _ _ ready.part_word,
    argv_cons _ _ _ target, expand_lit, expand_var, expand_var, ready.devtype, ready.part,
    argv, List.flatMap_cons, List.flatMap_nil, List.append_nil]

/-- What a load line of the boot scripts reads. -/
theorem loaded_line (ready : disk.Ready env) (address : String)
    (known : (address : Text) ∈ addressNames) (path : List Piece) (single : IsWord (expand env path)) :
    disk.world.loaded (argv env (loadLine address path)) =
      disk.volume (relative (expand env path)) := by
  have place : disk.path [disk.devtype, disk.part, env address, expand env path] =
      some (relative (expand env path)) := if_pos ⟨rfl, rfl⟩
  rw [loadLine_argv disk env ready address known, words_word _ single]
  change (disk.path [disk.devtype, disk.part, env address, expand env path]).bind disk.volume = _
  rw [place]
  rfl

/-- The first word of the path is what a load line names. -/
theorem path_line (ready : disk.Ready env) (address : String)
    (known : (address : Text) ∈ addressNames) (path : List Piece) :
    disk.path (argv env (loadLine address path)).tail =
      (words (expand env path)).head?.map relative := by
  rw [loadLine_argv disk env ready address known]
  cases words (expand env path) with
  | nil => rfl
  | cons first rest => exact if_pos ⟨rfl, rfl⟩

theorem path_word (ready : disk.Ready env) (address : String)
    (known : (address : Text) ∈ addressNames) (path : List Piece) (single : IsWord (expand env path)) :
    disk.path (argv env (loadLine address path)).tail = some (relative (expand env path)) := by
  rw [path_line disk env ready address known, words_word _ single]
  rfl

/-- A path with a blank is never the file that is loaded. -/
theorem path_solid (ready : disk.Ready env) (address : String)
    (known : (address : Text) ∈ addressNames) (path : List Piece) (file : Text)
    (named : disk.path (argv env (loadLine address path)).tail = some file) :
    ∀ c ∈ file, isBlank c = false := by
  rw [path_line disk env ready address known] at named
  cases parts : words (expand env path) with
  | nil =>
      rw [parts] at named
      cases named
  | cons first rest =>
      rw [parts] at named
      cases named
      intro c member
      apply blank_not_mem_word (expand env path) first (parts ▸ List.mem_cons_self) c
      exact List.dropWhile_subset _ member

end Arguments

section Prefix

variable (disk : Disk) (config : Config) (s : State)

/-- The value of `prefix` for the place of the boot files. -/
def bootPrefix : Scheme → Text
  | .p1 => "boot"
  | .p2 => []

/-- What `part uuid` is asked for. -/
def rootPart : Scheme → Text
  | .p1 => ":1"
  | .p2 => ":2"

/-- The paths that the script tests are words. -/
theorem found_iff (ready : disk.Ready s.env) (path : Text) (single : IsWord path) :
    testE disk.world (onDevice [.lit path]) s = (disk.volume (relative path)).isSome := by
  change disk.found (argv s.env (onDevice [.lit path])) = _
  rw [onDevice_argv disk s.env ready, expand_lit, words_word path single]
  simp only [Disk.found, true_and, Bool.decide_eq_true]

/-- The place where no boot script may lie. -/
def elsewhere : Scheme → Text
  | .p1 => "boot.scr"
  | .p2 => "boot/boot.scr"

theorem uuid_argv (env : Env) (ready : disk.Ready env) (number : Text) (single : IsWord number) :
    argv env [[v "devtype"], [v "devnum", .lit number]] =
      [disk.devtype, disk.devnum ++ number] := by
  have expanded : expand env [v "devnum", .lit number] = disk.devnum ++ number := by
    simp only [expand, v, List.flatMap_cons, List.flatMap_nil, List.append_nil, ready.devnum]
  have joined : IsWord (disk.devnum ++ number) := by
    refine ⟨fun is => single.1 (List.append_eq_nil_iff.mp is).2, ?_⟩
    intro c member
    exact (List.mem_append.mp member).elim (disk.words.2.1.2 c) (single.2 c)
  have devtype : IsWord (expand env [v "devtype"]) := by
    rw [expand_var, ready.devtype]
    exact disk.words.1
  rw [argv_cons _ _ _ devtype, argv_cons _ _ _ (expanded ▸ joined), expanded, expand_var,
    ready.devtype]
  rfl

/-- Variables that U-Boot does not read stay out of the way. -/
theorem Disk.Ready.set (env : Env) (ready : disk.Ready env) (name value : Text)
    (other : name ∉ [("devtype" : Text), ("devnum" : Text), ("distro_bootpart" : Text)] ++
      addressNames) : disk.Ready (env.set name value) := by
  rw [List.mem_append, not_or] at other
  simp only [List.mem_cons, List.not_mem_nil, or_false, not_or] at other
  obtain ⟨⟨devtype, devnum, bootpart⟩, address⟩ := other
  refine ⟨?_, ?_, ?_, ?_⟩
  · rw [Env.set_other _ _ _ _ (Ne.symm devtype), ready.devtype]
  · rw [Env.set_other _ _ _ _ (Ne.symm devnum), ready.devnum]
  · rw [Env.set_other _ _ _ _ (Ne.symm bootpart), ready.bootpart]
  · intro target member
    have different : target ≠ name := fun is => address (is ▸ member)
    rw [Env.set_other _ _ _ _ different]
    exact ready.addresses target member

/-- With boot.scr in place the script finds prefix and root partition. -/
theorem detectPrefix_found (ready : disk.Ready s.env)
    (there : (disk.volume (BOOT_PATH config.P_VALUE ++ ("boot.scr" : Text))).isSome = true)
    (clean : disk.volume (elsewhere config.P_VALUE) = none) :
    (detectPrefix disk.world s).2.env =
      (s.env.set ("prefix" : Text) (bootPrefix config.P_VALUE)).set ("uuid" : Text)
        (disk.partuuid [disk.devtype, disk.devnum ++ rootPart config.P_VALUE]) := by
  have root := found_iff disk s ready ("boot.scr" : Text) (by decide)
  have below := found_iff disk s ready ("boot/boot.scr" : Text) (by decide)
  rw [show relative ("boot.scr" : Text) = "boot.scr" by decide] at root
  rw [show relative ("boot/boot.scr" : Text) = "boot/boot.scr" by decide] at below
  have kept : ∀ value, disk.Ready (s.env.set ("prefix" : Text) value) := fun value =>
    ready.set disk s.env _ _ (by decide)
  unfold detectPrefix
  cases scheme : config.P_VALUE with
  | p1 =>
      rw [scheme] at there clean
      rw [show disk.volume ("boot.scr" : Text) = none from clean] at root
      rw [show (disk.volume ("boot/boot.scr" : Text)).isSome = true from there] at below
      rw [ifThen_false _ _ _ _ root, ifThen_true _ _ _ _ below]
      have argument := uuid_argv disk _ (kept ("boot" : Text)) (":1" : Text) (by decide)
      simp only [sequence_cons, sequence_nil, setenv, partUuid, expand_lit, argument]
      rfl
  | p2 =>
      rw [scheme] at there
      rw [show (disk.volume ("boot.scr" : Text)).isSome = true from there] at root
      rw [ifThen_true _ _ _ _ root]
      have argument := uuid_argv disk _ (kept []) (":2" : Text) (by decide)
      have empty : expand s.env [] = [] := rfl
      simp only [sequence_cons, sequence_nil, setenv, partUuid, empty, argument]
      rfl

/-- Without it the script leaves both as they were. -/
theorem detectPrefix_missing (ready : disk.Ready s.env)
    (missing : disk.volume (BOOT_PATH config.P_VALUE ++ ("boot.scr" : Text)) = none)
    (clean : disk.volume (elsewhere config.P_VALUE) = none) :
    (detectPrefix disk.world s).2 = s := by
  have root := found_iff disk s ready ("boot.scr" : Text) (by decide)
  have below := found_iff disk s ready ("boot/boot.scr" : Text) (by decide)
  have none' : disk.volume ("boot.scr" : Text) = none ∧
      disk.volume ("boot/boot.scr" : Text) = none := by
    cases scheme : config.P_VALUE <;> rw [scheme] at missing clean
    · exact ⟨clean, missing⟩
    · exact ⟨missing, clean⟩
  rw [show relative ("boot.scr" : Text) = "boot.scr" by decide, none'.1] at root
  rw [show relative ("boot/boot.scr" : Text) = "boot/boot.scr" by decide, none'.2] at below
  rw [detectPrefix, ifThen_false _ _ _ _ root, ifThen_false _ _ _ _ below, skip_state]

end Prefix

section Environment

variable (disk : Disk) (config : Config) (s : State)

/-- The path of the environment file as the script writes it. -/
def userEnv (config : Config) : Text :=
  bootPrefix config.P_VALUE ++ '/' :: (config.PLATFORM ++ ("Env.txt" : Text))

/-- The variables just before the import. -/
def beforeImport (config : Config) (env : Env) (size : Nat) : Env :=
  ((env.set ("platform" : Text) config.PLATFORM).set ("user_env" : Text) (userEnv config)).set
    filesize (hexadecimal size)

theorem isFileChar_blank (c : Char) (inside : isFileChar c = true) : isBlank c = false := by
  rw [← Bool.not_eq_true, isBlank_iff]
  rintro (rfl | rfl | rfl) <;> exact absurd inside (by decide)

theorem isWord_of_isFileName (name : Text) (named : isFileName name = true) : IsWord name := by
  refine ⟨ne_nil_of_isFileName name named, ?_⟩
  intro c member
  simp only [isFileName, Bool.and_eq_true] at named
  exact isFileChar_blank c (List.all_eq_true.mp named.2 c member)

theorem IsWord.join (first second : Text) (solid : ∀ c ∈ first, isBlank c = false)
    (single : IsWord second) : IsWord (first ++ second) := by
  refine ⟨fun is => single.1 (List.append_eq_nil_iff.mp is).2, ?_⟩
  intro c member
  exact (List.mem_append.mp member).elim (solid c) (single.2 c)

/-- From the prefix and a name the path below BOOT_PATH. -/
theorem relative_prefix (scheme : Scheme) (c : Char) (rest : Text) (inside : c ≠ '/') :
    relative (bootPrefix scheme ++ '/' :: c :: rest) = BOOT_PATH scheme ++ (c :: rest) := by
  have head : (c == '/') = false := beq_eq_false_iff_ne.mpr inside
  cases scheme with
  | p1 => rfl
  | p2 =>
      change (('/' :: c :: rest).dropWhile (· == '/')) = c :: rest
      simp only [List.dropWhile_cons, beq_self_eq_true, ↓reduceIte, head, Bool.false_eq_true]

theorem relative_name (scheme : Scheme) (name rest : Text) (named : isFileName name = true) :
    relative (bootPrefix scheme ++ '/' :: (name ++ rest)) = BOOT_PATH scheme ++ (name ++ rest) := by
  cases name with
  | nil => exact absurd rfl (ne_nil_of_isFileName [] named)
  | cons c tail =>
      apply relative_prefix
      intro is
      exact not_mem_of_isFileName '/' (c :: tail) named (by decide) (is ▸ List.mem_cons_self)

theorem relative_file (scheme : Scheme) (name : Text) (named : isFileName name = true) :
    relative (bootPrefix scheme ++ '/' :: name) = BOOT_PATH scheme ++ name := by
  have path := relative_name scheme name [] named
  rwa [List.append_nil] at path

theorem slash_word (path : Text) (single : IsWord path) : IsWord ('/' :: path) :=
  IsWord.join ['/'] path (by decide) single

theorem bootPrefix_solid (scheme : Scheme) : ∀ c ∈ bootPrefix scheme, isBlank c = false := by
  cases scheme <;> decide

/-- The only blank among the printable characters is the space. -/
theorem solid_of_printable (value : Text) (printable : Printable value) (space : ' ' ∉ value) :
    ∀ c ∈ value, isBlank c = false := by
  have other (c : Char) (odd : ¬ Printable [c]) : c ∉ value := fun member =>
    odd fun d only => List.mem_singleton.mp only ▸ printable c member
  exact solid_of_not_mem value space (other '\t' (by decide)) (other '\n' (by decide))

theorem userEnv_word : IsWord (userEnv config) := by
  have platform := isWord_of_isFileName _ config.names.1
  exact IsWord.join _ _ (bootPrefix_solid config.P_VALUE)
    (slash_word _ (IsWord.join _ _ platform.2 (by decide)))

/-- The environment file in its place is what the script imports. -/
theorem loadEnvironment_env (contents : Text) (ready : disk.Ready s.env)
    (prefixed : s.env ("prefix" : Text) = bootPrefix config.P_VALUE)
    (there : disk.volume (BOOT_PATH config.P_VALUE ++ (config.PLATFORM ++ ("Env.txt" : Text))) =
      some contents) :
    (loadEnvironment disk.world config.PLATFORM s).2.env =
      importText contents (beforeImport config s.env contents.length) := by
  have path : expand (s.env.set ("platform" : Text) config.PLATFORM)
      [v "prefix", "/", v "platform", "Env.txt"] = userEnv config := by
    simp only [expand, v, List.flatMap_cons, List.flatMap_nil, List.append_nil, Env.set_same]
    rw [Env.set_other _ _ _ _ (by decide), prefixed, userEnv]
    rfl
  generalize named : (s.env.set ("platform" : Text) config.PLATFORM).set ("user_env" : Text)
    (userEnv config) = env
  have ready' : disk.Ready env := by
    rw [← named]
    exact (ready.set disk _ _ _ (by decide)).set disk _ _ _ (by decide)
  have file : expand env [v "user_env"] = userEnv config := by
    rw [expand_var, ← named, Env.set_same]
  have loaded : disk.world.loaded (argv env (loadLine "scriptaddr" [v "user_env"])) =
      some contents := by
    rw [loaded_line disk env ready' _ (by decide) _ (file ▸ userEnv_word config), file, userEnv,
      relative_name _ _ _ config.names.1, there]
  have order : (loadEnvironment disk.world config.PLATFORM s).2 =
      (envImport disk.world [v "scriptaddr"] [v "filesize"]
        (load disk.world (loadLine "scriptaddr" [v "user_env"]) { s with env := env }).2).2 := by
    simp only [loadEnvironment, sequence_cons, sequence_nil, skip_state, setenv, expand_lit, path,
      ← named]
  obtain ⟨after, memory⟩ := load_some disk.world _ { s with env := env } contents loaded
  have address := memory (env ("scriptaddr" : Text)) (by
    rw [loadLine_argv disk env ready' _ (by decide)]
    rfl)
  rw [order, envImport_loaded disk.world _ _ _ contents, after, beforeImport, ← named]
  · rfl
  · rw [expand_var, after, Env.set_other _ _ _ _ (by decide)]
    exact address
  · rw [expand_var, after]
    exact Env.set_same _ _ _

/-- The names that bootVariables sets. -/
def bootNames : List Text :=
  ["rootdev", "fk_kvers", "initrd", "fdtdir", "user_overlay_dir", "bootargs"]

structure BootNames (before after : Env) : Prop where
  rootdev : after ("rootdev" : Text) = ("PARTUUID=" : Text) ++ before ("uuid" : Text)
  fk_kvers : after ("fk_kvers" : Text) =
    before ("prefix" : Text) ++ '/' :: before ("kernel" : Text)
  initrd : after ("initrd" : Text) = before ("prefix" : Text) ++ '/' :: before ("initramfs" : Text)
  fdtdir : after ("fdtdir" : Text) = before ("prefix" : Text) ++ '/' :: before ("platform" : Text)
  other : ∀ name, name ∉ bootNames → after name = before name

theorem bootVariables_names : BootNames s.env (bootVariables s).2.env := by
  refine ⟨?_, ?_, ?_, ?_, ?_⟩
  · simp [bootVariables, setenv, expand, v, Env.set]
  · simp [bootVariables, setenv, expand, v, Env.set]
  · simp [bootVariables, setenv, expand, v, Env.set]
  · simp [bootVariables, setenv, expand, v, Env.set]
  · intro name other
    simp only [bootNames, List.mem_cons, List.not_mem_nil, or_false, not_or] at other
    obtain ⟨rootdev, fk_kvers, initrd, fdtdir, overlays, bootargs⟩ := other
    simp only [bootVariables, sequence_cons, sequence_nil, setenv]
    rw [Env.set_other _ _ _ _ bootargs, Env.set_other _ _ _ _ overlays,
      Env.set_other _ _ _ _ fdtdir, Env.set_other _ _ _ _ initrd, Env.set_other _ _ _ _ fk_kvers,
      Env.set_other _ _ _ _ rootdev]

/-- After preparation only `filesize` and the loop variable change. -/
theorem generic_env (name : Text) (kept : name ≠ filesize ∧ name ≠ dtoverlay) :
    (generic config disk.world s).2.env name =
      (genericPrepare disk.world config.PLATFORM s).2.env name := by
  have same : ∀ checked s', (bootBoth (loadAll disk.world checked s').2).2.env name =
      s'.env name := by
    intro checked s'
    have booted : ∀ s'' : State, (bootBoth s'').2.env = s''.env := fun _ => rfl
    rw [booted]
    exact (loadAll_loads disk.world checked s').other name kept.1
      fun is => kept.2 (List.mem_singleton.mp is)
  unfold generic
  cases config.BOOTSCR with
  | boot_cmd => exact same true _
  | boot_ini => exact same false _

end Environment

section Run

variable (disk : Disk) (config : Config) (s : State)

/-- What the variables at the end of the script come from: `found` is left by the
detection of the prefix, `imported` by the environment file. -/
structure Reads (config : Config) (disk : Disk) (found imported final : Env) : Prop where
  ready : disk.Ready final
  prefixed : final ("prefix" : Text) = bootPrefix config.P_VALUE
  user_env : final ("user_env" : Text) = userEnv config
  settings : ∀ name ∈ [("console" : Text), ("extra" : Text), ("fdtfile" : Text),
    ("rootfstype" : Text)], final name = imported name
  rootdev : final ("rootdev" : Text) = ("PARTUUID=" : Text) ++ found ("uuid" : Text)
  fk_kvers : final ("fk_kvers" : Text) =
    bootPrefix config.P_VALUE ++ '/' :: imported ("kernel" : Text)
  initrd : final ("initrd" : Text) =
    bootPrefix config.P_VALUE ++ '/' :: imported ("initramfs" : Text)
  fdtdir : final ("fdtdir" : Text) =
    bootPrefix config.P_VALUE ++ '/' :: imported ("platform" : Text)

/-- Lines that set nothing but settings and notes. -/
def SetsOnly (lines : List Text) : Prop :=
  ∀ name, name ∉ settingNames → name ∉ noteNames → ∀ line ∈ lines, Spares name line

theorem generic_reads (lines : List Text) (single : ∀ line ∈ lines, '\n' ∉ line)
    (only : SetsOnly lines) (ready : disk.Ready (detectPrefix disk.world s).2.env)
    (prefixed : (detectPrefix disk.world s).2.env ("prefix" : Text) = bootPrefix config.P_VALUE)
    (there : disk.volume (BOOT_PATH config.P_VALUE ++ (config.PLATFORM ++ ("Env.txt" : Text))) =
      some (unlines lines)) :
    Reads config disk (detectPrefix disk.world s).2.env
      (importLines none lines
        (beforeImport config (detectPrefix disk.world s).2.env (unlines lines).length))
      (generic config disk.world s).2.env := by
  generalize one : (detectPrefix disk.world s).2 = s1 at *
  have import' := loadEnvironment_env disk config s1 (unlines lines) ready prefixed there
  rw [importText, textLines_unlines lines single] at import'
  have names := bootVariables_names (loadEnvironment disk.world config.PLATFORM s1).2
  rw [import'] at names
  have prepared : (genericPrepare disk.world config.PLATFORM s).2 =
      (bootVariables (loadEnvironment disk.world config.PLATFORM s1).2).2 := by
    simp only [genericPrepare, sequence_cons, sequence_nil, one]
  generalize before : beforeImport config s1.env (unlines lines).length = env at *
  generalize imported : importLines none lines env = after at *
  generalize last : (generic config disk.world s).2.env = final
  generalize prepared' : (bootVariables (loadEnvironment disk.world config.PLATFORM s1).2).2.env =
    ready' at *
  have kept : ∀ name, name ∉ [filesize, dtoverlay] → final name = ready' name := by
    intro name other
    simp only [List.mem_cons, List.not_mem_nil, or_false, not_or] at other
    rw [← last, generic_env disk config s name other, prepared, prepared']
  have read : ∀ name, name ∉ [filesize, dtoverlay] ++ bootNames → final name = after name := by
    intro name other
    rw [List.mem_append, not_or] at other
    rw [kept name other.1, names.other name other.2]
  have carried : ∀ name, name ∉ [filesize, dtoverlay] ++ bootNames →
      name ∉ settingNames → name ∉ noteNames → final name = env name := by
    intro name other setting note
    rw [read name other, ← imported]
    exact importLines_spared name lines env (only name setting note)
  have detected : ∀ name, name ∉ [filesize, dtoverlay] ++ bootNames → name ∉ settingNames →
      name ∉ noteNames → name ∉ [("platform" : Text), ("user_env" : Text), filesize] →
      final name = s1.env name := by
    intro name other setting note set
    simp only [List.mem_cons, List.not_mem_nil, or_false, not_or] at set
    rw [carried name other setting note, ← before, beforeImport,
      Env.set_other _ _ _ _ set.2.2, Env.set_other _ _ _ _ set.2.1, Env.set_other _ _ _ _ set.1]
  have uuid : after ("uuid" : Text) = s1.env ("uuid" : Text) := by
    rw [← read _ (by decide), detected _ (by decide) (by decide) (by decide) (by decide)]
  have prefix' : after ("prefix" : Text) = bootPrefix config.P_VALUE := by
    rw [← read _ (by decide), detected _ (by decide) (by decide) (by decide) (by decide), prefixed]
  refine ⟨⟨?_, ?_, ?_, ?_⟩, ?_, ?_, ?_, ?_, ?_, ?_, ?_⟩
  · rw [detected _ (by decide) (by decide) (by decide) (by decide), ready.devtype]
  · rw [detected _ (by decide) (by decide) (by decide) (by decide), ready.devnum]
  · rw [detected _ (by decide) (by decide) (by decide) (by decide), ready.bootpart]
  · have clear : ∀ name ∈ addressNames, name ∉ [filesize, dtoverlay] ++ bootNames ∧
        name ∉ settingNames ∧ name ∉ noteNames ∧
        name ∉ [("platform" : Text), ("user_env" : Text), filesize] := by
      decide
    intro name member
    obtain ⟨other, setting, note, set⟩ := clear name member
    rw [detected name other setting note set]
    exact ready.addresses name member
  · rw [read _ (by decide), prefix']
  · rw [carried _ (by decide) (by decide) (by decide), ← before, beforeImport,
      Env.set_other _ _ _ _ (by decide), Env.set_same]
  · have clear : ∀ name ∈ [("console" : Text), ("extra" : Text), ("fdtfile" : Text),
        ("rootfstype" : Text)], name ∉ [filesize, dtoverlay] ++ bootNames := by
      decide
    intro name member
    exact read name (clear name member)
  · rw [kept _ (by decide), names.rootdev, uuid]
  · rw [kept _ (by decide), names.fk_kvers, prefix']
  · rw [kept _ (by decide), names.initrd, prefix']
  · rw [kept _ (by decide), names.fdtdir, prefix']

end Run

section Partition

/-- mkimage, and `source` as far as it takes the script out of an image. -/
structure ScriptImage where
  mkimage : List Text → Text
  payload : Text → Option Text
  read : ∀ lines, payload (mkimage lines) = some (unlines lines)

/-- The script that U-Boot runs: the one in boot.scr, or boot.ini where there is none. -/
def program (image : ScriptImage) (config : Config) (volume : Volume) : Option Text :=
  match volume (BOOT_PATH config.P_VALUE ++ ("boot.scr" : Text)) with
  | some contents => image.payload contents
  | none => volume (BOOT_PATH config.P_VALUE ++ ("boot.ini" : Text))

variable (sed : Sed) (image : ScriptImage) (config : Config) (before volume : Volume)

/-- The partition that bootcmdini leaves, file by file. -/
theorem bootcmdini_some (lines : List Text) (staged : stagedEnvironment sed config = some lines)
    (started : config.BOOTCMD = true ∨ config.BOOTINI = true) :
    ∃ files : Volume, (∀ path, path ∉ [BOOT_PATH config.P_VALUE ++ ("boot.cmd" : Text),
        BOOT_PATH config.P_VALUE ++ ("boot.scr" : Text),
        BOOT_PATH config.P_VALUE ++ ("boot.ini" : Text)] → files path = before path) ∧
      (files (BOOT_PATH config.P_VALUE ++ ("boot.scr" : Text))).isSome = config.BOOTCMD ∧
      program image config files = some (programText config) ∧
      bootcmdini sed image.mkimage (some config.BOOTSCR.text) config before = some (files.write
        (BOOT_PATH config.P_VALUE ++ (config.PLATFORM ++ ("Env.txt" : Text))) (unlines lines)) := by
  cases bootcmd : config.BOOTCMD with
  | false =>
      have bootini : config.BOOTINI = true := started.resolve_left (by rw [bootcmd]; decide)
      have other : BOOT_PATH config.P_VALUE ++ ("boot.scr" : Text) ≠
          BOOT_PATH config.P_VALUE ++ ("boot.ini" : Text) := by
        intro is
        exact absurd (List.append_cancel_left is) (by decide)
      have gone (text : Text) : ((before.remove
          [BOOT_PATH config.P_VALUE ++ ("boot.cmd" : Text),
            BOOT_PATH config.P_VALUE ++ ("boot.scr" : Text),
            BOOT_PATH config.P_VALUE ++ ("boot.ini" : Text)]).write
          (BOOT_PATH config.P_VALUE ++ ("boot.ini" : Text)) text)
          (BOOT_PATH config.P_VALUE ++ ("boot.scr" : Text)) = none := by
        rw [Volume.write_other _ _ _ _ other, Volume.remove,
          if_pos (List.mem_cons_of_mem _ List.mem_cons_self)]
      simp only [bootcmdini, staged, BOOT_FTYPE, bootcmd, bootini, Bool.false_eq_true, ↓reduceIte,
        Option.bind_eq_bind, Option.bind_some]
      refine ⟨_, ?_, ?_, ?_, rfl⟩
      · intro path outside
        simp only [List.mem_cons, List.not_mem_nil, or_false, not_or] at outside
        obtain ⟨cmd, scr, ini⟩ := outside
        simp only [Volume.write, Volume.remove, List.mem_cons, List.not_mem_nil, or_false]
        rw [if_neg ini, if_neg (by simp only [cmd, scr, ini, or_self, not_false_eq_true])]
      · rw [gone]
        rfl
      · rw [program, gone, Volume.write_same, programText, bootcmd]
        rfl
  | true =>
      simp only [bootcmdini, staged, BOOT_FTYPE, bootcmd, ↓reduceIte, Option.bind_eq_bind,
        Option.bind_some]
      refine ⟨_, ?_, ?_, ?_, rfl⟩
      · intro path outside
        simp only [List.mem_cons, List.not_mem_nil, or_false, not_or] at outside
        obtain ⟨cmd, scr, ini⟩ := outside
        simp only [Volume.write, Volume.remove, List.mem_cons, List.not_mem_nil, or_false]
        rw [if_neg scr, if_neg cmd,
          if_neg (by simp only [cmd, scr, ini, or_self, not_false_eq_true])]
      · rw [Volume.write_same, Option.isSome_some]
      · rw [program, Volume.write_same, programText, bootcmd]
        exact image.read _

/-- Nothing that ends otherwise is an environment file. -/
theorem ne_Env_txt (directory path : Text) (other : path.getLast? ≠ some 't') :
    path ≠ directory ++ (config.PLATFORM ++ ("Env.txt" : Text)) := by
  intro is
  apply other
  rw [is]
  simp

theorem bootcmdini_placed (lines : List Text) (staged : stagedEnvironment sed config = some lines)
    (clean : before (elsewhere config.P_VALUE) = none)
    (built : bootcmdini sed image.mkimage (some config.BOOTSCR.text) config before =
      some volume) :
    volume (BOOT_PATH config.P_VALUE ++ (config.PLATFORM ++ ("Env.txt" : Text))) =
        some (unlines lines) ∧
      (volume (BOOT_PATH config.P_VALUE ++ ("boot.scr" : Text))).isSome = config.BOOTCMD ∧
      program image config volume = some (programText config) ∧
      volume (elsewhere config.P_VALUE) = none := by
  have started : config.BOOTCMD = true ∨ config.BOOTINI = true := by
    cases bootcmd : config.BOOTCMD with
    | true => exact Or.inl rfl
    | false =>
        cases bootini : config.BOOTINI with
        | true => exact Or.inr rfl
        | false =>
            simp only [bootcmdini, BOOT_FTYPE, bootcmd, bootini, Bool.false_eq_true, ↓reduceIte,
              Option.bind_eq_bind, Option.bind_some, Option.bind_none] at built
            cases built
  obtain ⟨files, others, scr, text, all⟩ :=
    bootcmdini_some sed image config before lines staged started
  rw [all] at built
  cases built
  have notScr : BOOT_PATH config.P_VALUE ++ ("boot.scr" : Text) ≠
      BOOT_PATH config.P_VALUE ++ (config.PLATFORM ++ ("Env.txt" : Text)) := by
    apply ne_Env_txt
    simp
  have notIni : BOOT_PATH config.P_VALUE ++ ("boot.ini" : Text) ≠
      BOOT_PATH config.P_VALUE ++ (config.PLATFORM ++ ("Env.txt" : Text)) := by
    apply ne_Env_txt
    simp
  have notElsewhere : elsewhere config.P_VALUE ≠
      BOOT_PATH config.P_VALUE ++ (config.PLATFORM ++ ("Env.txt" : Text)) := by
    apply ne_Env_txt
    cases config.P_VALUE <;> decide
  have untouched : elsewhere config.P_VALUE ∉ [BOOT_PATH config.P_VALUE ++ ("boot.cmd" : Text),
      BOOT_PATH config.P_VALUE ++ ("boot.scr" : Text),
      BOOT_PATH config.P_VALUE ++ ("boot.ini" : Text)] := by
    cases config.P_VALUE <;> decide
  refine ⟨if_pos rfl, ?_, ?_, ?_⟩
  · rw [Volume.write_other _ _ _ _ notScr]
    exact scr
  · rw [program, Volume.write_other _ _ _ _ notScr, Volume.write_other _ _ _ _ notIni]
    exact text
  · rw [Volume.write_other _ _ _ _ notElsewhere, others _ untouched]
    exact clean

end Partition

/-- The files that the loads of a script to an address name. -/
def Disk.files (disk : Disk) (text : Text) (address : String) (env : Env) : List (Option Text) :=
  (loadsTo address (scriptLoads text)).map fun line => disk.path (argv env line).tail

/-- With the variables at the end of the script its loads name the staged files, and
the variables hold the configured values. -/
structure Finds (config : Config) (disk : Disk) (text contents : Text) (env : Env) : Prop where
  prefixed : env ("prefix" : Text) = bootPrefix config.P_VALUE
  imports : ((loadsTo "scriptaddr" (scriptLoads text)).head?.bind fun line =>
    disk.world.loaded (argv env line)) = some contents
  kernel : disk.files text "kernel_addr_r" env =
    [some (BOOT_PATH config.P_VALUE ++ config.BOOT_KERNEL)]
  ramdisk : disk.files text "ramdisk_addr_r" env =
    [some (BOOT_PATH config.P_VALUE ++ config.BOOT_INITRD)]
  fdt : disk.files text "fdt_addr_r" env = [some (BOOT_PATH config.P_VALUE ++
    (config.FAMILY.name ++ '/' :: (config.DTB ++ (".dtb" : Text))))]
  console : env ("console" : Text) = config.CONSOLE
  extra : env ("extra" : Text) =
    if config.FSTYPE = .btrfs then config.EXTRA ++ ([' '] ++ ROOT_FLAGS) else config.EXTRA
  rootdev : env ("rootdev" : Text) = ("PARTUUID=" : Text) ++ config.ROOT_PARTUUID
  rootfstype : env ("rootfstype" : Text) = config.FSTYPE.name

/-- The boot partition is built, and from every disk that holds it, whatever
U-Boot's memory and other variables, the script that lies there, as the shell of U-Boot
reads it, finds what was staged. -/
def Found (sed : Sed) (image : ScriptImage) (config : Config) (before : Volume) : Prop :=
  ∃ lines volume text, stagedEnvironment sed config = some lines ∧
    bootcmdini sed image.mkimage (some config.BOOTSCR.text) config before = some volume ∧
    program image config volume = some text ∧
    ∀ (disk : Disk) (env : Env) (memory : Text → Text), disk.volume = volume → disk.Ready env →
      disk.partuuid [disk.devtype, disk.devnum ++ rootPart config.P_VALUE] =
        config.ROOT_PARTUUID →
      ∃ command, source disk.world text = some command ∧
        Finds config disk text (unlines lines) (command (start env memory)).2.env

section Settings

variable (config : Config) (extra uuid : Text) (fstype : Fstype)

/-- Only settings and notes are set. -/
theorem envLines_only : SetsOnly (envLines config extra uuid fstype) := by
  intro name setting note line member
  rcases List.mem_append.mp member with one | two
  · exact assignments_spare name _ (settings_named config extra uuid fstype)
      (by rwa [settings_names]) line one
  · exact notes_spare config name note line two

end Settings

section Result

variable (sed : Sed) (image : ScriptImage) (config : Config) (before : Volume)

/-- The lines that a build writes. -/
def stagedLines (config : Config) : List Text :=
  envLines config (stagedExtra config) config.ROOT_PARTUUID config.FSTYPE

theorem stagedLines_single : ∀ line ∈ stagedLines config, '\n' ∉ line := by
  have extra := single_of_printable _ config.strings.2.2
  apply envLines_single
  · unfold stagedExtra
    split
    · rw [List.mem_append, not_or]
      exact ⟨extra, by decide⟩
    · exact extra
  · exact not_mem_of_isFileName '\n' _ config.names.2.2.2 (by decide)

theorem Finds.fdt_line {disk : Disk} {contents : Text} {env : Env} {config : Config}
    (finds : Finds config disk (programText config) contents env) :
    disk.path (argv env fdtLine).tail = some (BOOT_PATH config.P_VALUE ++
      (config.FAMILY.name ++ '/' :: (config.DTB ++ (".dtb" : Text)))) := by
  have only := finds.fdt
  rw [Disk.files, (programText_loads config).fdt, List.map_singleton] at only
  exact List.singleton_inj.mp only

/-- With boot.scr on the partition, the end of the script is known. -/
theorem reads_of_bootcmd (disk : Disk) (s : State) (ready : disk.Ready s.env)
    (bootcmd : (disk.volume (BOOT_PATH config.P_VALUE ++ ("boot.scr" : Text))).isSome = true)
    (clean : disk.volume (elsewhere config.P_VALUE) = none)
    (there : disk.volume (BOOT_PATH config.P_VALUE ++ (config.PLATFORM ++ ("Env.txt" : Text))) =
      some (unlines (stagedLines config))) :
    ∃ found env, Reads config disk found (importLines none (stagedLines config) env)
        (generic config disk.world s).2.env ∧
      found ("uuid" : Text) =
        disk.partuuid [disk.devtype, disk.devnum ++ rootPart config.P_VALUE] := by
  have detected := detectPrefix_found disk config s ready bootcmd clean
  have reads := generic_reads disk config s (stagedLines config) (stagedLines_single config)
    (envLines_only config _ _ _)
  rw [detected] at reads
  refine ⟨_, _, reads ?_ ?_ there, Env.set_same _ _ _⟩
  · exact (ready.set disk _ _ _ (by decide)).set disk _ _ _ (by decide)
  · rw [Env.set_other _ _ _ _ (by decide), Env.set_same]

/-- Values that come back as written lead to the staged files. -/
theorem finds_of_reads (disk : Disk) (found env final : Env)
    (reads : Reads config disk found (importLines none (stagedLines config) env) final)
    (there : disk.volume (BOOT_PATH config.P_VALUE ++ (config.PLATFORM ++ ("Env.txt" : Text))) =
      some (unlines (stagedLines config)))
    (uuid : found ("uuid" : Text) = config.ROOT_PARTUUID)
    (plain : ∀ setting ∈ settings config (stagedExtra config) config.ROOT_PARTUUID config.FSTYPE,
      '\\' ∉ setting.2) (dtb : ' ' ∉ config.DTB) :
    Finds config disk (programText config) (unlines (stagedLines config)) final := by
  have value := fun setting member => envLines_value config (stagedExtra config)
    config.ROOT_PARTUUID config.FSTYPE env plain setting member
  have kernel : final ("fk_kvers" : Text) = bootPrefix config.P_VALUE ++ '/' :: config.BOOT_KERNEL :=
    reads.fk_kvers.trans (congrArg (bootPrefix config.P_VALUE ++ '/' :: ·)
      (value ("kernel", config.BOOT_KERNEL) (by simp [settings])))
  have initrd : final ("initrd" : Text) = bootPrefix config.P_VALUE ++ '/' :: config.BOOT_INITRD :=
    reads.initrd.trans (congrArg (bootPrefix config.P_VALUE ++ '/' :: ·)
      (value ("initramfs", config.BOOT_INITRD) (by simp [settings])))
  have fdtdir : final ("fdtdir" : Text) = bootPrefix config.P_VALUE ++ '/' :: config.FAMILY.name :=
    reads.fdtdir.trans (congrArg (bootPrefix config.P_VALUE ++ '/' :: ·)
      (value ("platform", config.FAMILY.name) (by simp [settings])))
  have fdtfile : final ("fdtfile" : Text) = config.DTB ++ (".dtb" : Text) :=
    (reads.settings _ (by decide)).trans
      (value ("fdtfile", config.DTB ++ (".dtb" : Text)) (by simp [settings]))
  have path : expand final [v "fdtdir", "/", v "fdtfile"] = bootPrefix config.P_VALUE ++
      '/' :: (config.FAMILY.name ++ '/' :: (config.DTB ++ (".dtb" : Text))) := by
    simp only [expand, v, List.flatMap_cons, List.flatMap_nil, List.append_nil, fdtdir, fdtfile,
      List.append_assoc, List.cons_append]
    rfl
  have solid := bootPrefix_solid config.P_VALUE
  have loading := programText_loads config
  refine ⟨reads.prefixed, ?_, ?_, ?_, ?_, ?_, ?_, ?_, ?_⟩
  · have file : expand final [v "user_env"] = userEnv config := by
      rw [expand_var, reads.user_env]
    rw [loading.environment, Option.bind_some,
      loaded_line disk final reads.ready _ (by decide) _ (file ▸ userEnv_word config), file,
      userEnv, relative_name _ _ _ config.names.1, there]
  · have word : IsWord (expand final [v "fk_kvers"]) := by
      rw [expand_var, kernel]
      exact IsWord.join _ _ solid (slash_word _ (isWord_of_isFileName _ config.names.2.1))
    rw [Disk.files, loading.kernel, List.map_singleton, kernelLine,
      path_word disk final reads.ready _ (by decide) _ word, expand_var, kernel,
      relative_file config.P_VALUE _ config.names.2.1]
  · have word : IsWord (expand final [v "initrd"]) := by
      rw [expand_var, initrd]
      exact IsWord.join _ _ solid (slash_word _ (isWord_of_isFileName _ config.names.2.2.1))
    rw [Disk.files, loading.ramdisk, List.map_singleton, ramdiskLine,
      path_word disk final reads.ready _ (by decide) _ word, expand_var, initrd,
      relative_file config.P_VALUE _ config.names.2.2.1]
  · have word : IsWord (expand final [v "fdtdir", "/", v "fdtfile"]) := by
      rw [path]
      apply IsWord.join _ _ solid
      apply slash_word
      apply IsWord.join _ _ (isWord_of_isFileName _ (family_name _)).2
      apply slash_word
      exact IsWord.join _ _ (solid_of_printable _ config.strings.1 dtb) (by decide)
    rw [Disk.files, loading.fdt, List.map_singleton, fdtLine,
      path_word disk final reads.ready _ (by decide) _ word, path,
      relative_name config.P_VALUE _ _ (family_name _)]
  · exact (reads.settings _ (by decide)).trans
      (value ("console", config.CONSOLE) (by simp [settings]))
  · exact (reads.settings _ (by decide)).trans
      (value ("extra", stagedExtra config) (by simp [settings]))
  · rw [reads.rootdev, uuid]
  · exact (reads.settings _ (by decide)).trans
      (value ("rootfstype", config.FSTYPE.name) (by simp [settings]))

/-- A card in the first slot; the addresses are those of `uboot`. -/
def card (volume : Volume) (uuid : Text) : Disk where
  devtype := "mmc"
  devnum := "0"
  bootpart := "1"
  volume := volume
  partuuid _ := uuid
  words := by decide

theorem card_ready (volume : Volume) (uuid : Text) : (card volume uuid).Ready uboot := by
  have named : uboot ("devtype" : Text) = "mmc" ∧ uboot ("devnum" : Text) = "0" ∧
      uboot ("distro_bootpart" : Text) = "1" := by
    decide
  exact ⟨named.1, named.2.1, named.2.2, by decide⟩

/-- Without boot.scr the script has no root partition, even if the prefix happens
to be right. -/
theorem bootcmd_of_found (plain : config.FSTYPE = .btrfs → Plain config.EXTRA)
    (clean : before (elsewhere config.P_VALUE) = none)
    (found : Found sed image config before) : config.BOOTCMD = true := by
  obtain ⟨lines, volume, text, staged, built, runs, finds⟩ := found
  rw [stagedEnvironment_eq config sed plain] at staged
  cases staged
  obtain ⟨there, scr, lies, none'⟩ :=
    bootcmdini_placed sed image config before volume _
      (stagedEnvironment_eq config sed plain) clean built
  obtain rfl := Option.some.inj (lies.symm.trans runs)
  cases bootcmd : config.BOOTCMD with
  | true => rfl
  | false =>
      generalize prefixed : uboot.set ("prefix" : Text) (bootPrefix config.P_VALUE) = env
      have ready : (card volume config.ROOT_PARTUUID).Ready env := by
        rw [← prefixed]
        exact (card_ready volume _).set _ _ _ _ (by decide)
      have missing : volume (BOOT_PATH config.P_VALUE ++ ("boot.scr" : Text)) = none := by
        rw [bootcmd] at scr
        exact Option.isNone_iff_eq_none.mp (by rw [← Option.not_isSome, scr]; rfl)
      have same := detectPrefix_missing (card volume config.ROOT_PARTUUID) config
        (start env fun _ => []) ready missing none'
      have reads := generic_reads (card volume config.ROOT_PARTUUID) config
        (start env fun _ => []) (stagedLines config) (stagedLines_single config)
        (envLines_only config _ _ _)
      rw [same] at reads
      have right : env ("prefix" : Text) = bootPrefix config.P_VALUE := by
        rw [← prefixed, Env.set_same]
      have final := reads ready right there
      obtain ⟨command, parsed, known⟩ :=
        finds (card volume config.ROOT_PARTUUID) env (fun _ => []) rfl ready rfl
      rw [generic_of_source config _ command parsed] at known
      have expected := known.rootdev
      rw [final.rootdev] at expected
      have empty : env ("uuid" : Text) = [] := by
        rw [← prefixed, Env.set_other _ _ _ _ (by decide)]
        decide
      have nothing := List.append_cancel_left expected
      exact absurd (nothing.symm.trans empty) (ne_nil_of_isFileName _ config.names.2.2.2)

theorem stagedExtra_plain (extra : '\\' ∉ config.EXTRA) : '\\' ∉ stagedExtra config := by
  unfold stagedExtra
  split
  · rw [List.mem_append, not_or]
    exact ⟨extra, by decide⟩
  · exact extra

/-- What is imported when only the name of the device tree may have escapes. -/
theorem fdt_imported (env : Env) (console : '\\' ∉ config.CONSOLE) (extra : '\\' ∉ config.EXTRA) :
    importLines none (stagedLines config) env ("fdtfile" : Text) =
        (unescape (config.DTB ++ (".dtb" : Text))).1 ∧
      importLines none (stagedLines config) env ("platform" : Text) = config.FAMILY.name := by
  have motd : '\\' ∉ config.DEFAULT_MOTD := fun member =>
    absurd (config.titles.1 _ member) (by decide)
  have named := settings_named config (stagedExtra config) config.ROOT_PARTUUID config.FSTYPE
  have ends : (unescape (config.DTB ++ (".dtb" : Text))).2 = false := by
    rw [← Bool.not_eq_true]
    intro runs
    have last := getLast_of_runs _ runs
    simp at last
  generalize later : (settings config (stagedExtra config) config.ROOT_PARTUUID
    config.FSTYPE).drop 4 = after
  have names : after.map Prod.fst = settingNames.drop 4 := by
    rw [← later]
    rfl
  have tail : ∀ setting ∈ after, '\\' ∉ setting.2 := by
    have plain : ∀ name : Text, isFileName name = true → '\\' ∉ name := fun name file =>
      not_mem_of_isFileName '\\' name file (by decide)
    have root : '\\' ∉ ("PARTUUID=" : Text) ++ config.ROOT_PARTUUID := by
      rw [List.mem_append, not_or]
      exact ⟨by decide, plain _ config.names.2.2.2⟩
    rw [← later]
    simp only [settings, List.drop_succ_cons, List.drop_zero, List.forall_mem_cons]
    exact ⟨plain _ config.names.2.2.1, plain _ config.names.2.1, plain _ (family_name _), root,
      plain _ (fstype_name _), fun _ member => absurd member List.not_mem_nil⟩
  have split : settings config (stagedExtra config) config.ROOT_PARTUUID config.FSTYPE =
      [(("bootlabel" : Text), config.DEFAULT_MOTD), (("console" : Text), config.CONSOLE),
        (("extra" : Text), stagedExtra config)] ++
        (("fdtfile" : Text), config.DTB ++ (".dtb" : Text)) :: after := by
    rw [← later]
    rfl
  rw [split] at named
  obtain ⟨env', through⟩ := importLines_through _ after _ _ (notes config) env named
    (by simpa using ⟨motd, console, stagedExtra_plain config extra⟩) ends
  have named' : ∀ setting ∈ after, isName setting.1 = true := fun setting member =>
    named setting (List.mem_append_right _ (List.mem_cons_of_mem _ member))
  rw [stagedLines, envLines, split, through]
  constructor
  · rw [importLines_spared, Env.set_same]
    intro line member
    rcases List.mem_append.mp member with one | two
    · exact assignments_spare _ after named' (by rw [names]; decide) line one
    · exact notes_spare config _ (by decide) line two
  · have spared := notes_spare config ("platform" : Text) (by decide)
    refine importLines_value after (notes config) _ named' tail (by rw [names]; decide)
      ("platform", config.FAMILY.name) ?_ spared
    rw [← later]
    simp [settings]

/-- The device tree that is loaded has the name without its escapes. -/
theorem fdtfile_unescaped (disk : Disk) (found env final : Env)
    (reads : Reads config disk found (importLines none (stagedLines config) env) final)
    (finds : Finds config disk (programText config) (unlines (stagedLines config)) final)
    (console : '\\' ∉ config.CONSOLE) (extra : '\\' ∉ config.EXTRA) (space : ' ' ∉ config.DTB) :
    (unescape (config.DTB ++ (".dtb" : Text))).1 = config.DTB ++ (".dtb" : Text) := by
  obtain ⟨fdtfile, platform⟩ := fdt_imported config env console extra
  rw [← reads.settings _ (by decide)] at fdtfile
  have fdtdir := reads.fdtdir
  rw [platform] at fdtdir
  have path : expand final [v "fdtdir", "/", v "fdtfile"] = bootPrefix config.P_VALUE ++
      '/' :: (config.FAMILY.name ++ '/' :: (unescape (config.DTB ++ (".dtb" : Text))).1) := by
    simp only [expand, v, List.flatMap_cons, List.flatMap_nil, List.append_nil, fdtdir, fdtfile,
      List.append_assoc, List.cons_append]
    rfl
  have solid : ∀ c ∈ '/' :: (unescape (config.DTB ++ (".dtb" : Text))).1, isBlank c = false := by
    rw [List.forall_mem_cons]
    refine ⟨by decide, fun c member => ?_⟩
    rcases List.mem_append.mp (unescape_subset _ c member) with one | two
    · exact solid_of_printable _ config.strings.1 space c one
    · exact (isWord_of_isFileName (".dtb" : Text) (by decide)).2 c two
  have word : IsWord (expand final [v "fdtdir", "/", v "fdtfile"]) := by
    rw [path]
    apply IsWord.join _ _ (bootPrefix_solid config.P_VALUE)
    apply slash_word
    exact IsWord.join _ _ (isWord_of_isFileName _ (family_name _)).2 ⟨List.cons_ne_nil _ _, solid⟩
  have loads := finds.fdt_line
  rw [fdtLine, path_word disk final reads.ready _ (by decide) _ word, path,
    relative_name _ _ _ (family_name _)] at loads
  have rest := List.append_cancel_left (List.append_cancel_left (Option.some.inj loads))
  exact List.cons.inj rest |>.2

/-- Values that come back right were written without a backslash, and the name of the
device tree without a blank. -/
theorem plain_of_finds (disk : Disk) (found env final : Env)
    (reads : Reads config disk found (importLines none (stagedLines config) env) final)
    (finds : Finds config disk (programText config) (unlines (stagedLines config)) final)
    (plain : config.FSTYPE = .btrfs → Plain config.EXTRA) :
    '\\' ∉ config.CONSOLE ∧ '\\' ∉ config.EXTRA ∧ '\\' ∉ config.DTB ∧ ' ' ∉ config.DTB := by
  have motd : '\\' ∉ config.DEFAULT_MOTD := fun member =>
    absurd (config.titles.1 _ member) (by decide)
  have named := settings_named config (stagedExtra config) config.ROOT_PARTUUID config.FSTYPE
  have last : notes config ≠ [] := fun is => nomatch is
  have consoleLater : ("console" : Text) ∉ settingNames.drop 2 := by decide
  have extraLater : ("extra" : Text) ∉ settingNames.drop 3 := by decide
  have console : '\\' ∉ config.CONSOLE := by
    intro escaped
    have back := (reads.settings _ (by decide)).symm.trans finds.console
    refine importLines_escaped [("bootlabel", config.DEFAULT_MOTD)] _ ("console" : Text)
      config.CONSOLE (notes config) env named ?_ ?_ escaped last consoleLater
      (notes_spare config _ (by decide)) back
    · simpa using motd
    · exact single_of_printable _ config.strings.2.1
  have extra : '\\' ∉ config.EXTRA := by
    by_cases btrfs : config.FSTYPE = .btrfs
    · exact fun member => absurd (plain btrfs _ member) (by decide)
    · intro escaped
      have staged : stagedExtra config = config.EXTRA := if_neg btrfs
      have back := (reads.settings _ (by decide)).symm.trans finds.extra
      rw [if_neg btrfs] at back
      rw [stagedLines, staged] at back
      rw [staged] at named
      refine importLines_escaped [("bootlabel", config.DEFAULT_MOTD), ("console", config.CONSOLE)]
        _ ("extra" : Text) config.EXTRA (notes config) env named ?_ ?_ escaped last extraLater
        (notes_spare config _ (by decide)) back
      · simpa using ⟨motd, console⟩
      · exact single_of_printable _ config.strings.2.2
  have space : ' ' ∉ config.DTB := by
    intro member
    have solid := path_solid disk final reads.ready _ (by decide) _ _ finds.fdt_line ' ' (by
      simp only [List.mem_append, List.mem_cons]
      exact Or.inr (Or.inr (Or.inr (Or.inl member))))
    exact absurd solid (by decide)
  refine ⟨console, extra, fun escaped => ?_, space⟩
  have same := fdtfile_unescaped config disk found env final reads finds console extra space
  have shorter := unescape_length_lt (config.DTB ++ (".dtb" : Text))
    (List.mem_append_left _ escaped)
  rw [same] at shorter
  exact Nat.lt_irrefl _ shorter

/-- The generic boot script finds the staged files and values exactly when boot.scr
was built and the free strings survive the two programs. -/
theorem found_iff_bootcmd (plain : config.FSTYPE = .btrfs → Plain config.EXTRA)
    (clean : before (elsewhere config.P_VALUE) = none) :
    Found sed image config before ↔ config.BOOTCMD = true ∧ '\\' ∉ config.CONSOLE ∧
      '\\' ∉ config.EXTRA ∧ '\\' ∉ config.DTB ∧ ' ' ∉ config.DTB := by
  have staged := stagedEnvironment_eq config sed plain
  constructor
  · intro found
    have bootcmd := bootcmd_of_found sed image config before plain clean found
    obtain ⟨lines, volume, text, staged', built, runs, finds⟩ := found
    rw [staged] at staged'
    cases staged'
    obtain ⟨there, scr, lies, none'⟩ :=
      bootcmdini_placed sed image config before volume _ staged clean built
    obtain rfl := Option.some.inj (lies.symm.trans runs)
    have ready := card_ready volume config.ROOT_PARTUUID
    obtain ⟨command, parsed, known⟩ :=
      finds (card volume config.ROOT_PARTUUID) uboot (fun _ => []) rfl ready rfl
    rw [generic_of_source config _ command parsed] at known
    obtain ⟨detected, env, reads, _⟩ := reads_of_bootcmd config (card volume config.ROOT_PARTUUID)
      (start uboot fun _ => []) ready (scr.trans bootcmd) none' there
    obtain ⟨console, extra, dtb, space⟩ := plain_of_finds config _ _ env _ reads known plain
    exact ⟨bootcmd, console, extra, dtb, space⟩
  · rintro ⟨bootcmd, console, extra, dtb, space⟩
    obtain ⟨files, _, _, _, built⟩ :=
      bootcmdini_some sed image config before _ staged (Or.inl bootcmd)
    obtain ⟨there, scr, lies, none'⟩ :=
      bootcmdini_placed sed image config before _ _ staged clean built
    refine ⟨_, _, _, staged, built, lies, ?_⟩
    intro disk env memory same ready root
    rw [← same] at there scr none'
    obtain ⟨detected, imported, reads, uuid⟩ := reads_of_bootcmd config disk (start env memory)
      ready (scr.trans bootcmd) none' there
    obtain ⟨command, parsed, runs⟩ := programText_source config disk.world
    refine ⟨command, parsed, ?_⟩
    rw [runs]
    apply finds_of_reads config disk detected imported _ reads there (uuid.trans root) _ space
    apply settings_plain config _ _ _ console _ dtb
    · exact not_mem_of_isFileName '\\' _ config.names.2.2.2 (by decide)
    · exact stagedExtra_plain config extra

/-- An image with the script behind a header of 64 bytes and the 8 with its length. -/
def wrapped : ScriptImage where
  mkimage lines := List.replicate 72 '\x00' ++ unlines lines
  payload image := if 72 ≤ image.length then some (image.drop 72) else none
  read lines := by simp

theorem found_lepotato : Found plainSed wrapped lepotatoBtrfs (fun _ => none) :=
  (found_iff_bootcmd plainSed wrapped lepotatoBtrfs (fun _ => none) (fun _ => by decide)
    rfl).mpr ⟨rfl, by decide, by decide, by decide, by decide⟩

/-- boot.ini looks for boot.scr, which is not built for it. -/
theorem bootini_not_found : ¬ Found plainSed wrapped
    { lepotatoBtrfs with BOOTCMD := false, BOOTINI := true } (fun _ => none) := by
  intro found
  have bootcmd := bootcmd_of_found plainSed wrapped
    { lepotatoBtrfs with BOOTCMD := false, BOOTINI := true } (fun _ => none) (fun _ => by decide) rfl
    found
  cases bootcmd

end Result

end ImageBuilder.Staging
