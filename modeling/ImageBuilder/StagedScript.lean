import ImageBuilder.BootConfig
import ImageBuilder.BootScripts
import ImageBuilder.HushScript

set_option autoImplicit false

/- The text of the generic boot scripts in files/boot/scripts, what bootcmdini makes of
it, and the commands that U-Boot reads in it. -/
namespace ImageBuilder.Staging

open PlainText Hush EnvText Boot

section Text

/-- Where the boot files lie, and the root. -/
def detectLines : List Text :=
  [literal "if test -e ${devtype} ${devnum}:${distro_bootpart} boot.scr; then",
    literal "\tsetenv prefix \"\"",
    literal "\tpart uuid ${devtype} ${devnum}:2 uuid",
    literal "elif test -e ${devtype} ${devnum}:${distro_bootpart} boot/boot.scr; then",
    literal "\tsetenv prefix \"boot\"",
    literal "\tpart uuid ${devtype} ${devnum}:1 uuid",
    literal "fi",
    []]

def environmentLines : List Text :=
  [literal "setenv user_env \"$\x7bprefix\x7d/${platform}Env.txt\"",
    literal "echo \"Loading environment (${devtype} ${devnum}:${distro_bootpart})\"",
    literal "load ${devtype} ${devnum}:${distro_bootpart} ${scriptaddr} ${user_env}",
    literal "env import -t ${scriptaddr} ${filesize}",
    []]

def variableLines : List Text :=
  [literal "setenv rootdev \"PARTUUID=${uuid}\"",
    literal "setenv fk_kvers \"$\x7bprefix\x7d/${kernel}\"",
    literal "setenv initrd \"$\x7bprefix\x7d/${initramfs}\"",
    literal "setenv fdtdir \"$\x7bprefix\x7d/${platform}\"",
    literal "setenv user_overlay_dir \"$\x7bprefix\x7d/user-overlays\"",
    literal "setenv bootargs \"${console} rw root=${rootdev} rootfstype=${rootfstype} loglevel=${loglevel} fsck.repair=yes ${extra} rootwait init=/sbin/init\"",
    []]

def loadLines : List Text :=
  [literal "load ${devtype} ${devnum}:${distro_bootpart} ${ramdisk_addr_r} ${initrd}",
    literal "load ${devtype} ${devnum}:${distro_bootpart} ${kernel_addr_r} ${fk_kvers}",
    literal "echo \"Loading ${fdtfile} (${devtype} ${devnum}:${distro_bootpart})\"",
    literal "load ${devtype} ${devnum}:${distro_bootpart} ${fdt_addr_r} ${fdtdir}/${fdtfile}",
    [],
    literal "fdt addr ${fdt_addr_r}",
    literal "fdt resize 65536"]

/-- boot.cmd looks for an overlay first. -/
def checkedOverlayLines : List Text :=
  [literal "if test -n ${overlays}; then",
    literal "\tfor dtoverlay in ${overlays}; do",
    literal "\t\tif test -e ${devtype} ${devnum}:${distro_bootpart} ${fdtdir}/overlays/${dtoverlay}.dtbo; then",
    literal "\t\t\techo \"Applying ${dtoverlay} ...\"",
    literal "\t\t\tload ${devtype} ${devnum}:${distro_bootpart} ${scriptaddr} ${fdtdir}/overlays/${dtoverlay}.dtbo && fdt apply ${scriptaddr}",
    literal "\t\tfi",
    literal "\tdone",
    literal "fi",
    literal "if test -n ${user_overlays}; then",
    literal "\tfor dtoverlay in ${user_overlays}; do",
    literal "\t\tif test -e ${devtype} ${devnum}:${distro_bootpart} ${user_overlay_dir}/${dtoverlay}.dtbo; then",
    literal "\t\t\techo \"Applying ${dtoverlay} ...\"",
    literal "\t\t\tload ${devtype} ${devnum}:${distro_bootpart} ${scriptaddr} ${user_overlay_dir}/${dtoverlay}.dtbo && fdt apply ${scriptaddr}",
    literal "\t\tfi",
    literal "\tdone",
    literal "fi",
    []]

def overlayLines : List Text :=
  [literal "if test -n ${overlays}; then",
    literal "\tfor dtoverlay in ${overlays}; do",
    literal "\t\techo \"Applying ${dtoverlay} ...\"",
    literal "\t\tload ${devtype} ${devnum}:${distro_bootpart} ${scriptaddr} ${fdtdir}/overlays/${dtoverlay}.dtbo && fdt apply ${scriptaddr}",
    literal "\tdone",
    literal "fi",
    literal "if test -n ${user_overlays}; then",
    literal "\tfor dtoverlay in ${user_overlays}; do",
    literal "\t\techo \"Applying ${dtoverlay} ...\"",
    literal "\t\tload ${devtype} ${devnum}:${distro_bootpart} ${scriptaddr} ${user_overlay_dir}/${dtoverlay}.dtbo && fdt apply ${scriptaddr}",
    literal "\tdone",
    literal "fi",
    []]

def bootLines : List Text :=
  [literal "echo \"Booting $bootlabel (${devtype} ${devnum}:${distro_bootpart})\" \\",
    literal "&& booti ${kernel_addr_r} ${ramdisk_addr_r}:${filesize} ${fdt_addr_r}",
    [],
    literal "echo \"Trying bootm ...\" \\",
    literal "&& bootm ${kernel_addr_r} ${ramdisk_addr_r}:${filesize} ${fdt_addr_r}"]

def BootScr.loops : BootScr → List Text
  | .boot_cmd => checkedOverlayLines
  | .boot_ini => overlayLines

/-- The text of files/boot/scripts/${BOOTSCR}. -/
def BootScr.text (BOOTSCR : BootScr) : List Text :=
  detectLines ++ unsetPlatform ::
    (environmentLines ++ variableLines ++ loadLines ++ BOOTSCR.loops ++ bootLines)

end Text

section Items

/-- What the shell reads in the lines, block by block. -/
def detectItems : List Item :=
  [.if_ (.found (onDevice ["boot.scr"])), .then_, .commands [.setenv "prefix" []],
    .commands [.partUuid [[v "devtype"], [v "devnum", ":2"]] "uuid"],
    .elif (.found (onDevice ["boot/boot.scr"])), .then_, .commands [.setenv "prefix" ["boot"]],
    .commands [.partUuid [[v "devtype"], [v "devnum", ":1"]] "uuid"], .fi]

def environmentItems : List Item :=
  [.commands [.setenv "user_env" [v "prefix", "/", v "platform", "Env.txt"]], .commands [.quiet],
    .commands [.load (loadLine "scriptaddr" [v "user_env"])],
    .commands [.envImport [v "scriptaddr"] [v "filesize"]]]

def variableItems : List Item :=
  [.commands [.setenv "rootdev" ["PARTUUID=", v "uuid"]],
    .commands [.setenv "fk_kvers" [v "prefix", "/", v "kernel"]],
    .commands [.setenv "initrd" [v "prefix", "/", v "initramfs"]],
    .commands [.setenv "fdtdir" [v "prefix", "/", v "platform"]],
    .commands [.setenv "user_overlay_dir" [v "prefix", "/user-overlays"]],
    .commands [.setenv "bootargs" [v "console", " rw root=", v "rootdev", " rootfstype=",
      v "rootfstype", " loglevel=", v "loglevel", " fsck.repair=yes ", v "extra",
      " rootwait init=/sbin/init"]]]

def loadItems : List Item :=
  [.commands [.load ramdiskLine], .commands [.load kernelLine], .commands [.quiet],
    .commands [.load fdtLine], .commands [.quiet], .commands [.quiet]]

/-- The path of an overlay below the directory that the pieces make. -/
def overlayFile (directory : List Piece) : List Piece := directory ++ [v "dtoverlay", ".dtbo"]

/-- One of the two loops. -/
def loopItems (checked : Bool) (list : String) (directory : List Piece) : List Item :=
  let apply : List Item := [.commands [.quiet],
    .commands [.load (loadLine "scriptaddr" (overlayFile directory)), .quiet]]
  [.if_ (.nonempty [[v list]]), .then_, .for_ "dtoverlay" [[v list]], .do_] ++
    (if checked then [.if_ (.found (onDevice (overlayFile directory))), .then_] ++ apply ++ [.fi]
      else apply) ++
    [.done, .fi]

def overlayItems (checked : Bool) : List Item :=
  loopItems checked "overlays" [v "fdtdir", "/overlays/"] ++
    loopItems checked "user_overlays" [v "user_overlay_dir", "/"]

def bootItems : List Item :=
  [("booti" : Text), ("bootm" : Text)].map fun command => .commands [.quiet,
    .boot command [v "kernel_addr_r"] [v "ramdisk_addr_r", ":", v "filesize"] [v "fdt_addr_r"]]

/-- What is known of some lines of a script: what they say, that the sed of bootcmdini
leaves them, and that nothing of the next line belongs to them. -/
structure Block (lines : List Text) (items : List Item) : Prop where
  read : linesItems (joined lines) = some items
  other : ∀ line ∈ lines, unsetPlatform.isPrefixOf line = false
  single : ∀ line ∈ lines, '\n' ∉ line
  ended : ∀ line ∈ lines.getLast?, line.getLast? ≠ some '\\'

instance (lines : List Text) (items : List Item) : Decidable (Block lines items) :=
  decidable_of_iff (linesItems (joined lines) = some items ∧
      (∀ line ∈ lines, unsetPlatform.isPrefixOf line = false) ∧
      (∀ line ∈ lines, '\n' ∉ line) ∧ ∀ line ∈ lines.getLast?, line.getLast? ≠ some '\\')
    ⟨fun ⟨read, other, single, ended⟩ => ⟨read, other, single, ended⟩,
      fun block => ⟨block.read, block.other, block.single, block.ended⟩⟩

theorem Block.append {first second : List Text} {one two : List Item} (before : Block first one)
    (after : Block second two) (more : second ≠ []) : Block (first ++ second) (one ++ two) where
  read := joined_read before.read after.read before.ended
  other := List.forall_mem_append.mpr ⟨before.other, after.other⟩
  single := List.forall_mem_append.mpr ⟨before.single, after.single⟩
  ended := by
    rw [List.getLast?_append_of_ne_nil _ more]
    exact after.ended

theorem blocks : Block detectLines detectItems ∧ Block environmentLines environmentItems ∧
    Block variableLines variableItems ∧ Block loadLines loadItems ∧ Block bootLines bootItems ∧
    Block checkedOverlayLines (overlayItems true) ∧ Block overlayLines (overlayItems false) := by
  decide +kernel

theorem detect_block : Block detectLines detectItems := blocks.1

end Items

section Copied

variable (config : Config) (BOOTSCR : BootScr)

def platformItem (PLATFORM : Text) : Item := .commands [.setenv "platform" [.lit PLATFORM]]

def BootScr.checked : BootScr → Bool
  | .boot_cmd => true
  | .boot_ini => false

/-- What follows the line with the platform. -/
def BootScr.rest (BOOTSCR : BootScr) : List Text :=
  environmentLines ++ variableLines ++ loadLines ++ BOOTSCR.loops ++ bootLines

def restItems (checked : Bool) : List Item :=
  environmentItems ++ variableItems ++ loadItems ++ overlayItems checked ++ bootItems

def scriptItemsOf (PLATFORM : Text) (checked : Bool) : List Item :=
  detectItems ++ ([platformItem PLATFORM] ++ restItems checked)

theorem quotable_of_isFileName (name : Text) (named : isFileName name = true) :
    ∀ c ∈ name, Quotable c := by
  have outside (c : Char) (odd : isFileChar c = false) : c ∉ name :=
    not_mem_of_isFileName c name named odd
  intro c member
  refine ⟨?_, ?_, ?_, ?_⟩ <;> rintro rfl
  · exact outside '"' (by decide) member
  · exact outside '$' (by decide) member
  · exact outside '\\' (by decide) member
  · exact outside '`' (by decide) member

theorem platform_lex (PLATFORM : Text) (named : isFileName PLATFORM = true) :
    lex (platformLine PLATFORM) = some [.word ⟨false, ["setenv"]⟩, .word ⟨false, ["platform"]⟩,
      .word ⟨true, [.lit PLATFORM]⟩] := by
  have opened : (literal "setenv platform \"").foldl Lexer.step Lexer.start =
      ⟨.quote, some [], [.word ⟨false, ["setenv"]⟩, .word ⟨false, ["platform"]⟩]⟩ := by
    rfl
  have closing : literal "\"" = ['"'] := rfl
  have closed (tokens : List Token) :
      (List.foldl Lexer.step ⟨.quote, some [.lit PLATFORM], tokens⟩ ['"']).done =
        some (tokens ++ [.word ⟨true, [.lit PLATFORM]⟩]) :=
    rfl
  unfold lex platformLine
  simp only [List.foldl_append, opened, closing]
  rw [quote_text PLATFORM _ (ne_nil_of_isFileName _ named) (quotable_of_isFileName _ named)]
  exact closed _

theorem platformLine_ended (PLATFORM : Text) : (platformLine PLATFORM).getLast? ≠ some '\\' := by
  have closing : literal "\"" = ['"'] := rfl
  unfold platformLine
  rw [closing, List.getLast?_concat]
  decide

theorem platform_read (PLATFORM : Text) (named : isFileName PLATFORM = true) :
    linesItems (joined [platformLine PLATFORM]) = some [platformItem PLATFORM] :=
  line_read _ (setenv_read _ _ _ (platform_lex PLATFORM named)) (platformLine_ended PLATFORM)

theorem single_between {first second third : Text} (one : '\n' ∉ first) (two : '\n' ∉ second)
    (three : '\n' ∉ third) : '\n' ∉ first ++ second ++ third := by
  rw [List.mem_append, List.mem_append, not_or, not_or]
  exact ⟨⟨one, two⟩, three⟩

theorem platformLine_single (PLATFORM : Text) (named : isFileName PLATFORM = true) :
    '\n' ∉ platformLine PLATFORM :=
  single_between (by decide) (not_mem_of_isFileName '\n' PLATFORM named (by decide)) (by decide)

theorem loops_block : Block BOOTSCR.loops (overlayItems BOOTSCR.checked) := by
  obtain ⟨-, -, -, -, -, checkedOverlay, overlay⟩ := blocks
  cases BOOTSCR with
  | boot_cmd => exact checkedOverlay
  | boot_ini => exact overlay

theorem rest_block : Block BOOTSCR.rest (restItems BOOTSCR.checked) := by
  obtain ⟨-, environment, middle, load, boot, -⟩ := blocks
  have loops : BOOTSCR.loops ≠ [] := by cases BOOTSCR <;> exact List.cons_ne_nil _ _
  have start := environment.append middle (List.cons_ne_nil _ _)
  have loaded := start.append load (List.cons_ne_nil _ _)
  exact (loaded.append (loops_block BOOTSCR) loops).append boot (List.cons_ne_nil _ _)

theorem rest_ne_nil : BOOTSCR.rest ≠ [] := fun none =>
  absurd (List.append_eq_nil_iff.mp none).2 (List.cons_ne_nil _ _)

/-- The sed changes the one line only. -/
theorem copied_text :
    copiedScript config BOOTSCR.text = detectLines ++ ([platformLine config.PLATFORM] ++
      BOOTSCR.rest) := by
  have other (lines : List Text)
      (none : ∀ line ∈ lines, unsetPlatform.isPrefixOf line = false) :
      lines.map (setPlatform config.PLATFORM) = lines := by
    calc lines.map (setPlatform config.PLATFORM) = lines.map id := by
          refine List.map_congr_left fun line member => ?_
          rw [setPlatform, none line member, if_neg Bool.false_ne_true, id]
      _ = lines := List.map_id lines
  have own : setPlatform config.PLATFORM unsetPlatform = platformLine config.PLATFORM :=
    if_pos (List.isPrefixOf_iff_prefix.mpr (List.prefix_refl _))
  rw [copiedScript, BootScr.text, List.map_append, other detectLines detect_block.other,
    List.map_cons, own]
  exact congrArg (fun lines => _ ++ _ :: lines) (other BOOTSCR.rest (rest_block BOOTSCR).other)

theorem copied_read : linesItems (joined (copiedScript config BOOTSCR.text)) =
    some (scriptItemsOf config.PLATFORM BOOTSCR.checked) := by
  have ended : ∀ line ∈ [platformLine config.PLATFORM].getLast?, line.getLast? ≠ some '\\' := by
    intro line last
    obtain rfl := Option.some.inj last
    exact platformLine_ended config.PLATFORM
  rw [copied_text]
  exact joined_read detect_block.read (joined_read (platform_read _ config.names.1)
    (rest_block BOOTSCR).read ended) detect_block.ended

theorem copied_single : ∀ line ∈ copiedScript config BOOTSCR.text, '\n' ∉ line := by
  rw [copied_text, List.forall_mem_append, List.forall_mem_append, List.forall_mem_singleton]
  exact ⟨detect_block.single, platformLine_single _ config.names.1, (rest_block BOOTSCR).single⟩

/-- The two lines more say nothing to the shell. -/
theorem hint_read (ARCH : Text) : linesItems (joined [[], hint ARCH]) = some [] := by
  have comment : hint ARCH = '#' :: (literal " mkimage -C none -A " ++ ARCH ++
      literal " -T script -d boot.cmd boot.scr") := rfl
  have said : lineItems (hint ARCH) = some [] := by
    rw [lineItems, comment, lex_comment]
    rfl
  have ended : (hint ARCH).getLast? ≠ some '\\' := by
    unfold hint
    rw [List.getLast?_append_of_ne_nil _ (by decide)]
    decide
  have blank : linesItems (joined [[]]) = some [] := by decide
  exact joined_read blank (line_read _ said ended) (by decide)

theorem hinted_read : linesItems (joined (hintedScript config BOOTSCR.text)) =
    some (scriptItemsOf config.PLATFORM BOOTSCR.checked) := by
  have ended : ∀ line ∈ (copiedScript config BOOTSCR.text).getLast?,
      line.getLast? ≠ some '\\' := by
    have behind : [platformLine config.PLATFORM] ++ BOOTSCR.rest ≠ [] := List.cons_ne_nil _ _
    rw [copied_text, List.getLast?_append_of_ne_nil _ behind,
      List.getLast?_append_of_ne_nil _ (rest_ne_nil BOOTSCR)]
    exact (rest_block BOOTSCR).ended
  have whole := joined_read (copied_read config BOOTSCR) (hint_read config.ARCH) ended
  rwa [List.append_nil] at whole

theorem hinted_single : ∀ line ∈ hintedScript config BOOTSCR.text, '\n' ∉ line := by
  have said : '\n' ∉ hint config.ARCH :=
    single_between (by decide) (not_mem_of_isFileName '\n' _ config.machine (by decide)) (by decide)
  rw [hintedScript, List.forall_mem_append, List.forall_mem_cons, List.forall_mem_singleton]
  exact ⟨copied_single config BOOTSCR, List.not_mem_nil, said⟩

end Copied

section Commands

variable (world : World)

/-- One of the loops as it is read. -/
def loopCommand (checked : Bool) (list : String) (directory : List Piece) : Command :=
  let apply : List Command :=
    [skip, andThen (load world (loadLine "scriptaddr" (overlayFile directory))) skip]
  ifThen (testN [[v list]]) (sequence [forWords "dtoverlay" [[v list]] (sequence
    (if checked then [ifThen (testE world (onDevice (overlayFile directory))) (sequence apply)]
      else apply))])

/-- It is the one of the model: the directory only ends elsewhere. -/
theorem loopCommand_same (checked : Bool) (list : String) (directory slashed : List Piece)
    (same : ∀ env, expand env (overlayFile slashed) = expand env (overlayPath directory))
    (s : State) :
    (loopCommand world checked list slashed s).2 =
      (overlayLoop world checked list directory s).2 := by
  have test := testE_congr world (onDevice (overlayFile slashed)) (onDevice (overlayPath directory))
    fun env => by simp only [onDevice, argv, List.flatMap_cons, List.flatMap_nil, same]
  have loads := load_congr world (loadLine "scriptaddr" (overlayFile slashed))
    (loadLine "scriptaddr" (overlayPath directory))
    fun env => by simp only [loadLine, argv, List.flatMap_cons, List.flatMap_nil, same]
  have loop (body : Command) (each : ∀ s, (body s).2 = (applyOverlay world checked directory s).2) :
      forWords "dtoverlay" [[v list]] body =
        forWords "dtoverlay" [[v list]] (applyOverlay world checked directory) :=
    funext fun s => forEach_congr _ _ _ each _ s
  unfold loopCommand overlayLoop
  rw [test, loads, loop]
  · unfold ifThen
    split <;> rfl
  · intro s
    cases checked <;> rfl

theorem detect_adds : Adds world detectItems [detectPrefix world] := fun _ => rfl

/-- Items that are plain commands come to these commands, one for each. -/
theorem plain_adds (lists : List (List Simple)) : Adds world (lists.map .commands)
    (lists.map fun list => andList (list.map (Simple.command world))) := by
  intro before
  induction lists generalizing before with
  | nil =>
      rw [List.map_nil, List.map_nil, List.append_nil]
      rfl
  | cons list rest ih =>
      have step : Parser.step world ⟨[], before⟩ (.commands list) =
          some ⟨[], before ++ [andList (list.map (Simple.command world))]⟩ := rfl
      have later := ih (before ++ [andList (list.map (Simple.command world))])
      rw [List.append_assoc] at later
      unfold Parser.run at later ⊢
      rw [List.map_cons, List.foldlM_cons, step]
      exact later

theorem loop_adds (checked : Bool) (list : String) (directory : List Piece) :
    Adds world (loopItems checked list directory)
      [loopCommand world checked list directory] := by
  cases checked
  · exact fun _ => rfl
  · exact fun _ => rfl

theorem environment_adds (PLATFORM : Text) :
    Adds world ([platformItem PLATFORM] ++ environmentItems)
      [setenv "platform" [.lit PLATFORM], setenv "user_env" [v "prefix", "/", v "platform", "Env.txt"],
        skip, load world (loadLine "scriptaddr" [v "user_env"]),
        envImport world [v "scriptaddr"] [v "filesize"]] :=
  plain_adds world [_, _, _, _, _]

theorem variable_adds : Adds world variableItems
    [setenv "rootdev" ["PARTUUID=", v "uuid"],
      setenv "fk_kvers" [v "prefix", "/", v "kernel"],
      setenv "initrd" [v "prefix", "/", v "initramfs"],
      setenv "fdtdir" [v "prefix", "/", v "platform"],
      setenv "user_overlay_dir" [v "prefix", "/user-overlays"],
      setenv "bootargs" [v "console", " rw root=", v "rootdev", " rootfstype=", v "rootfstype",
        " loglevel=", v "loglevel", " fsck.repair=yes ", v "extra", " rootwait init=/sbin/init"]] :=
  plain_adds world [_, _, _, _, _, _]

theorem load_adds : Adds world loadItems
    [load world ramdiskLine, load world kernelLine, skip, load world fdtLine, skip, skip] :=
  plain_adds world [_, _, _, _, _, _]

theorem boot_adds : Adds world bootItems [bootWith "booti", bootWith "bootm"] :=
  plain_adds world [_, _]

/-- What is read in the script is the script of the model. -/
theorem parsed (PLATFORM : Text) (checked : Bool) : ∃ command,
    parse world (scriptItemsOf PLATFORM checked) = some command ∧ ∀ s, (command s).2 =
      (bootBoth (loadAll world checked (genericPrepare world PLATFORM s).2).2).2 := by
  have staged (env : Env) : expand env (overlayFile [v "fdtdir", "/overlays/"]) =
      expand env (overlayPath [v "fdtdir", "/overlays"]) := by
    have joined : ("/overlays/" : Text) = ("/overlays" : Text) ++ ("/" : Text) := by decide
    simp only [expand, overlayFile, overlayPath, v, List.cons_append, List.nil_append,
      List.flatMap_cons, List.flatMap_nil, joined, List.append_assoc]
  have user (env : Env) : expand env (overlayFile [v "user_overlay_dir", "/"]) =
      expand env (overlayPath [v "user_overlay_dir"]) := rfl
  have loops := (loop_adds world checked "overlays" [v "fdtdir", "/overlays/"]).append
    (loop_adds world checked "user_overlays" [v "user_overlay_dir", "/"])
  have behind := (((variable_adds world).append (load_adds world)).append loops).append
    (boot_adds world)
  have whole := (detect_adds world).append ((environment_adds world PLATFORM).append behind)
  rw [List.append_assoc, ← List.append_assoc environmentItems] at whole
  refine ⟨_, parse_of_adds whole, fun s => ?_⟩
  simp only [sequence_append, sequence_cons, sequence_nil, skip_state, genericPrepare,
    loadEnvironment, bootVariables, loadAll, overlays, bootBoth,
    loopCommand_same world checked _ _ _ staged, loopCommand_same world checked _ _ _ user]

end Commands

section Program

variable (config : Config)

/-- What lies in boot.scr, or in boot.ini if that was not built. -/
def programText : Text :=
  unlines (if config.BOOTCMD then hintedScript config config.BOOTSCR.text
    else copiedScript config config.BOOTSCR.text)

theorem programText_items :
    scriptItems (programText config) =
      some (scriptItemsOf config.PLATFORM config.BOOTSCR.checked) := by
  unfold scriptItems programText
  split
  · rw [textLines_unlines _ (hinted_single config config.BOOTSCR)]
    exact hinted_read config config.BOOTSCR
  · rw [textLines_unlines _ (copied_single config config.BOOTSCR)]
    exact copied_read config config.BOOTSCR

/-- The script of the model that it is. -/
def generic (config : Config) (world : World) : Command :=
  match config.BOOTSCR with
  | .boot_cmd => boot_cmd world config.PLATFORM
  | .boot_ini => boot_ini world config.PLATFORM

theorem programText_source (world : World) : ∃ command,
    source world (programText config) = some command ∧
      ∀ s, (command s).2 = (generic config world s).2 := by
  obtain ⟨command, is, same⟩ := parsed world config.PLATFORM config.BOOTSCR.checked
  refine ⟨command, ?_, fun s => ?_⟩
  · rw [source, programText_items]
    exact is
  · rw [same s, generic]
    cases config.BOOTSCR with
    | boot_cmd => simp only [BootScr.checked, boot_cmd, sequence_cons, sequence_nil]
    | boot_ini => simp only [BootScr.checked, boot_ini, sequence_cons, sequence_nil]

theorem generic_of_source (world : World) (command : Command)
    (is : source world (programText config) = some command) (s : State) :
    (command s).2 = (generic config world s).2 := by
  obtain ⟨other, reads, same⟩ := programText_source config world
  obtain rfl := Option.some.inj (reads.symm.trans is)
  exact same s

/-- The load commands by the address that they load to. -/
structure Loading (loads : List (List (List Piece))) : Prop where
  environment : (loadsTo "scriptaddr" loads).head? = some (loadLine "scriptaddr" [v "user_env"])
  kernel : loadsTo "kernel_addr_r" loads = [kernelLine]
  ramdisk : loadsTo "ramdisk_addr_r" loads = [ramdiskLine]
  fdt : loadsTo "fdt_addr_r" loads = [fdtLine]

instance (loads : List (List (List Piece))) : Decidable (Loading loads) :=
  decidable_of_iff ((loadsTo "scriptaddr" loads).head? = some (loadLine "scriptaddr" [v "user_env"]) ∧
      loadsTo "kernel_addr_r" loads = [kernelLine] ∧ loadsTo "ramdisk_addr_r" loads = [ramdiskLine] ∧
      loadsTo "fdt_addr_r" loads = [fdtLine])
    ⟨fun ⟨environment, kernel, ramdisk, fdt⟩ => ⟨environment, kernel, ramdisk, fdt⟩,
      fun loading => ⟨loading.environment, loading.kernel, loading.ramdisk, loading.fdt⟩⟩

theorem items_loads (checked : Bool) :
    Loading ((detectItems ++ restItems checked).flatMap Item.loads) := by
  revert checked
  decide +kernel

theorem programText_loads : Loading (scriptLoads (programText config)) := by
  have same : scriptLoads (programText config) =
      (detectItems ++ restItems config.BOOTSCR.checked).flatMap Item.loads := by
    rw [scriptLoads, programText_items, Option.getD_some, scriptItemsOf, List.flatMap_append,
      List.flatMap_append, List.flatMap_append]
    rfl
  rw [same]
  exact items_loads config.BOOTSCR.checked

end Program

end ImageBuilder.Staging
