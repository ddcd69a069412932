import ImageBuilder.BootScripts

set_option autoImplicit false

/- The ramdisk size in the argument of booti and bootm. -/
namespace ImageBuilder.Boot

open PlainText Numerals Hush

def dtoverlay : Text := "dtoverlay"

/-- The line that loads one overlay, unless a test for it comes first and fails. -/
def overlayLines (world : World) (checked : Bool) (directory : List Piece) (e : Env)
    (word : Text) : List (List Text) :=
  let current := e.set dtoverlay word
  if checked = true ∧ world.found (argv current (onDevice (overlayPath directory))) = false then []
  else [argv current (loadLine "scriptaddr" (overlayPath directory))]

def loopLines (world : World) (checked : Bool) (list : String) (directory : List Piece)
    (e : Env) : List (List Text) :=
  (argv e [[v list]]).flatMap (overlayLines world checked directory e)

def overlaysLines (world : World) (checked : Bool) (e : Env) : List (List Text) :=
  loopLines world checked "overlays" [v "fdtdir", "/overlays"] e ++
    loopLines world checked "user_overlays" [v "user_overlay_dir"] e

/-- The loads after the ramdisk's in boot.cmd, boot.ini and spacemit-boot.cmd. -/
def genericLater (world : World) (checked : Bool) (e : Env) : List (List Text) :=
  [argv e kernelLine, argv e fdtLine] ++ overlaysLines world checked e

/-- In amlogic-t7-boot.cmd the device tree is loaded only after the kernel. -/
def t7Later (world : World) (e : Env) : List (List Text) :=
  (argv e t7Kernel :: if (world.size (argv e t7Kernel)).isSome then [argv e t7Fdt] else []) ++
    overlaysLines world false e

section Overlays

variable (world : World) (checked : Bool)

theorem current_argv (e : Env) (s : State) (word : Text) (agrees : Agrees [dtoverlay] e s.env)
    (current : s.env dtoverlay = word) (args : List (List Piece)) (clear : filesize ∉ names args) :
    argv s.env args = argv (e.set dtoverlay word) args := by
  apply argv_congr
  intro name member
  by_cases same : name = dtoverlay
  · rw [same, current, Env.set_same]
  · rw [Env.set_other _ _ _ _ same]
    exact agrees name (fun is => clear (is ▸ member)) fun is => same (List.mem_singleton.mp is)

theorem applyOverlay_loads (directory : List Piece) (e : Env) (word : Text) (s : State)
    (tested : filesize ∉ names (onDevice (overlayPath directory)))
    (loaded : filesize ∉ names (loadLine "scriptaddr" (overlayPath directory)))
    (agrees : Agrees [dtoverlay] e s.env) (current : s.env dtoverlay = word) :
    Loads [dtoverlay] (world.lastSize (overlayLines world checked directory e word)) s
      (applyOverlay world checked directory s).2 := by
  have apply : Loads [dtoverlay]
      (world.size (argv (e.set dtoverlay word) (loadLine "scriptaddr" (overlayPath directory)))) s
      (load world (loadLine "scriptaddr" (overlayPath directory)) s).2 := by
    rw [← current_argv e s word agrees current _ loaded]
    exact load_loads world [dtoverlay] _ s
  have body : (sequence [skip, andThen (load world (loadLine "scriptaddr" (overlayPath directory)))
      skip] s).2 = (load world (loadLine "scriptaddr" (overlayPath directory)) s).2 := by
    simp only [Hush.sequence, skip, andThen]
    split <;> rename_i next ran <;> rw [ran]
  unfold applyOverlay overlayLines
  dsimp only
  cases checked with
  | false =>
      simp only [Bool.false_eq_true, false_and, ↓reduceIte, World.lastSize, Option.none_or]
      rw [body]
      exact apply
  | true =>
      simp only [true_and, ↓reduceIte]
      have test : testE world (onDevice (overlayPath directory)) s =
          world.found (argv (e.set dtoverlay word) (onDevice (overlayPath directory))) :=
        congrArg world.found (current_argv e s word agrees current _ tested)
      cases there : world.found (argv (e.set dtoverlay word) (onDevice (overlayPath directory))) with
      | false =>
          rw [ifThen_false _ _ _ _ (test.trans there)]
          exact Loads.refl _ s
      | true =>
          rw [ifThen_true _ _ _ _ (test.trans there), body]
          simp only [Bool.true_eq_false, ↓reduceIte, World.lastSize, Option.none_or]
          exact apply

theorem overlayLoop_loads (list : String) (directory : List Piece) (e : Env) (s : State)
    (listed : ∀ name ∈ names [[v list]], name ≠ filesize ∧ name ∉ [dtoverlay])
    (tested : filesize ∉ names (onDevice (overlayPath directory)))
    (loaded : filesize ∉ names (loadLine "scriptaddr" (overlayPath directory)))
    (agrees : Agrees [dtoverlay] e s.env) :
    Loads [dtoverlay] (world.lastSize (loopLines world checked list directory e)) s
      (overlayLoop world checked list directory s).2 := by
  have same : argv s.env [[v list]] = argv e [[v list]] := agrees.argv _ listed
  have loop := forEach_loads world dtoverlay (applyOverlay world checked directory)
    (overlayLines world checked directory e) e (by decide)
    (fun word s' ready current =>
      applyOverlay_loads world checked directory e word s' tested loaded ready current)
    (argv e [[v list]]) s agrees
  unfold overlayLoop loopLines
  cases empty : argv e [[v list]] with
  | nil =>
      have test : testN [[v list]] s = false := by
        rw [testN, same, empty]
        rfl
      rw [ifThen_false _ _ _ _ test]
      exact Loads.refl _ s
  | cons word rest =>
      have test : testN [[v list]] s = true := by
        rw [testN, same, empty]
        rfl
      rw [ifThen_true _ _ _ _ test, forWords, same, ← empty]
      exact loop

theorem overlayLoops_loads (e : Env) (s : State) (agrees : Agrees [dtoverlay] e s.env) :
    Loads [dtoverlay] (world.lastSize (overlaysLines world checked e)) s
      (overlayLoop world checked "user_overlays" [v "user_overlay_dir"]
        (overlayLoop world checked "overlays" [v "fdtdir", "/overlays"] s).2).2 := by
  have first := overlayLoop_loads world checked "overlays" [v "fdtdir", "/overlays"] e s
    (by decide) (by decide) (by decide) agrees
  have second := overlayLoop_loads world checked "user_overlays" [v "user_overlay_dir"] e _
    (by decide) (by decide) (by decide) fun name changed scratched =>
      (first.other name changed scratched).trans (agrees name changed scratched)
  rw [overlaysLines, lastSize_append]
  exact first.trans second

end Overlays

/-- A boot command gets the size of the ramdisk, if the ramdisk was loaded. -/
def SizeRight (world : World) (ramdisk : List (List Piece)) (boot : Boot) : Prop :=
  ∀ contents, world.loaded (argv boot.env ramdisk) = some contents →
    boot.ramdisk = expand boot.env [v "ramdisk_addr_r", ":"] ++ hexadecimal contents.length

/-- Nothing is loaded after the ramdisk, or last something of the same length. -/
def Kept (world : World) (ramdisk : List Text) (later : List (List Text)) : Prop :=
  ∀ contents length, world.loaded ramdisk = some contents →
    world.lastSize later = some length → length = contents.length

/-- The variables at a boot command after the ramdisk and `later`, started from
`e`: the ones the ramdisk line reads are the same, and `filesize` is known. -/
structure AtBoot (world : World) (ramdisk : List (List Piece)) (later : List (List Text))
    (e : Env) (boot : Boot) : Prop where
  agrees : Agrees [dtoverlay] e boot.env
  size : ∀ contents, world.loaded (argv e ramdisk) = some contents →
    boot.env filesize = hexadecimal ((world.lastSize later).getD contents.length)
  argument : boot.ramdisk = expand boot.env [v "ramdisk_addr_r", ":", v "filesize"]

theorem ramdiskArgument (e : Env) : expand e [v "ramdisk_addr_r", ":", v "filesize"] =
    expand e [v "ramdisk_addr_r", ":"] ++ e filesize := by
  simp only [expand, List.flatMap_cons, List.flatMap_nil, List.append_nil, List.append_assoc, v]
  rfl

/-- A boot command sees the variables as they are. -/
theorem bootWith_boots (command : String) (s : State) :
    ∃ boot : Boot, (bootWith command s).2.boots = s.boots ++ [boot] ∧ boot.env = s.env ∧
      boot.ramdisk = expand s.env [v "ramdisk_addr_r", ":", v "filesize"] :=
  ⟨_, rfl, rfl, rfl⟩

theorem ramdisk_size_iff (world : World) (ramdisk : List (List Piece)) (later : List (List Text))
    (e : Env) (boot : Boot)
    (clear : ∀ name ∈ names ramdisk, name ≠ filesize ∧ name ∉ [dtoverlay])
    (at' : AtBoot world ramdisk later e boot) :
    SizeRight world ramdisk boot ↔ Kept world (argv e ramdisk) later := by
  have same : argv boot.env ramdisk = argv e ramdisk := at'.agrees.argv _ clear
  unfold SizeRight Kept
  rw [same, at'.argument, ramdiskArgument]
  constructor
  · intro right contents length loaded last
    have sizes := List.append_cancel_left (right contents loaded)
    rw [at'.size contents loaded, last, Option.getD_some] at sizes
    exact hexadecimal_injective _ _ sizes
  · intro kept contents loaded
    rw [at'.size contents loaded]
    cases last : world.lastSize later with
    | none => rfl
    | some length => rw [Option.getD_some, kept contents length loaded last]

/-- The ramdisk first, then the rest: the size of the rest wins. -/
theorem filesize_after (world : World) (ramdisk : List Text) (later : List (List Text))
    (before after : State) (loads : Loads [dtoverlay] (world.lastSize (ramdisk :: later)) before after)
    (contents : Text) (loaded : world.loaded ramdisk = some contents) :
    after.env filesize = hexadecimal ((world.lastSize later).getD contents.length) := by
  rw [loads.size, World.lastSize, World.size, loaded]
  cases world.lastSize later <;> rfl

section Generic

variable (world : World) (checked : Bool)

theorem loadAll_loads (s : State) :
    Loads [dtoverlay] (world.lastSize (argv s.env ramdiskLine :: genericLater world checked s.env))
      s (loadAll world checked s).2 := by
  have ramdisk := load_loads world [dtoverlay] ramdiskLine s
  have kernel := load_loads world [dtoverlay] kernelLine (load world ramdiskLine s).2
  rw [ramdisk.other.argv kernelLine (by decide)] at kernel
  have two := ramdisk.trans kernel
  have fdt := load_loads world [dtoverlay] fdtLine
    (load world kernelLine (load world ramdiskLine s).2).2
  rw [two.other.argv fdtLine (by decide)] at fdt
  have three := two.trans fdt
  have all := three.trans (overlayLoops_loads world checked s.env _ three.other)
  have order : (loadAll world checked s).2 =
      (overlayLoop world checked "user_overlays" [v "user_overlay_dir"]
        (overlayLoop world checked "overlays" [v "fdtdir", "/overlays"]
          (load world fdtLine (load world kernelLine (load world ramdiskLine s).2).2).2).2).2 := by
    simp only [loadAll, overlays, sequence_cons, sequence_nil, skip_state]
  have sizes : world.lastSize (argv s.env ramdiskLine :: genericLater world checked s.env) =
      (world.lastSize (overlaysLines world checked s.env)).or
        ((world.size (argv s.env fdtLine)).or ((world.size (argv s.env kernelLine)).or
          (world.size (argv s.env ramdiskLine)))) := by
    simp only [genericLater, World.lastSize, lastSize_append, Option.none_or, Option.or_assoc]
  rw [order, sizes]
  exact all

/-- Both boot commands see the variables that the loads leave. -/
theorem bootBoth_boots (s : State) : ∃ first second : Boot,
    (bootBoth s).2.boots = s.boots ++ [first, second] ∧ first.env = s.env ∧ second.env = s.env ∧
      first.ramdisk = expand s.env [v "ramdisk_addr_r", ":", v "filesize"] ∧
      second.ramdisk = expand s.env [v "ramdisk_addr_r", ":", v "filesize"] := by
  obtain ⟨first, boots, env, argument⟩ := bootWith_boots "booti" s
  have kept : (bootWith "booti" s).2.env = s.env := rfl
  obtain ⟨second, boots', env', argument'⟩ := bootWith_boots "bootm" (bootWith "booti" s).2
  rw [kept] at env' argument'
  refine ⟨first, second, ?_, env, env', argument, argument'⟩
  simp only [bootBoth, sequence_cons, sequence_nil]
  rw [boots', boots, List.append_assoc]
  rfl

theorem generic_right_iff (s : State) (fresh : s.boots = []) :
    (∀ boot ∈ (sequence [loadAll world checked, bootBoth] s).2.boots,
        SizeRight world ramdiskLine boot) ↔
      Kept world (argv s.env ramdiskLine) (genericLater world checked s.env) := by
  have loads := loadAll_loads world checked s
  simp only [sequence_cons, sequence_nil]
  have at' : ∀ boot : Boot, boot.env = (loadAll world checked s).2.env →
      boot.ramdisk = expand (loadAll world checked s).2.env
        [v "ramdisk_addr_r", ":", v "filesize"] →
      AtBoot world ramdiskLine (genericLater world checked s.env) s.env boot := by
    intro boot env argument
    refine ⟨?_, fun contents loaded => ?_, ?_⟩
    · rw [env]
      exact loads.other
    · rw [env]
      exact filesize_after world _ _ _ _ loads contents loaded
    · rw [env]
      exact argument
  obtain ⟨first, second, boots, env, env', argument, argument'⟩ :=
    bootBoth_boots (loadAll world checked s).2
  have one := ramdisk_size_iff world ramdiskLine _ s.env first (by decide) (at' first env argument)
  have two := ramdisk_size_iff world ramdiskLine _ s.env second (by decide)
    (at' second env' argument')
  rw [boots, loads.boots, fresh, List.nil_append]
  simp only [List.forall_mem_cons, List.not_mem_nil, false_implies, implies_true, and_true]
  rw [one, two, and_self]

end Generic

section AmlogicT7

variable (world : World)

def t7Chain : Command :=
  andThen (load world t7Ramdisk) (andThen (load world t7Kernel)
    (andThen skip (load world t7Fdt)))

/-- The chain changes what loads change; when the ramdisk is there, the kernel
comes after it, and the device tree after the kernel. -/
theorem t7Chain_loads (s : State) : ∃ size, Loads [dtoverlay] size s (t7Chain world s).2 ∧
    ((world.size (argv s.env t7Ramdisk)).isSome = true → size = world.lastSize
      (argv s.env t7Ramdisk :: argv s.env t7Kernel ::
        if (world.size (argv s.env t7Kernel)).isSome then [argv s.env t7Fdt] else [])) := by
  have ramdisk := load_loads world [dtoverlay] t7Ramdisk s
  unfold t7Chain
  cases there : (world.size (argv s.env t7Ramdisk)).isSome with
  | false =>
      rw [andThen_false _ _ s ((load_fst world t7Ramdisk s).trans there)]
      exact ⟨_, ramdisk, fun impossible => by cases impossible⟩
  | true =>
      rw [andThen_true _ _ s ((load_fst world t7Ramdisk s).trans there)]
      have reads : argv (load world t7Ramdisk s).2.env t7Kernel = argv s.env t7Kernel :=
        ramdisk.other.argv t7Kernel (by decide)
      have kernel := load_loads world [dtoverlay] t7Kernel (load world t7Ramdisk s).2
      rw [reads] at kernel
      have two := ramdisk.trans kernel
      have status := load_fst world t7Kernel (load world t7Ramdisk s).2
      rw [reads] at status
      cases second : (world.size (argv s.env t7Kernel)).isSome with
      | false =>
          rw [andThen_false _ _ _ (status.trans second)]
          refine ⟨_, two, fun _ => ?_⟩
          simp only [Bool.false_eq_true, ↓reduceIte, World.lastSize, Option.none_or]
      | true =>
          rw [andThen_true _ _ _ (status.trans second), andThen_true skip _ _ rfl, skip_state]
          have fdt := load_loads world [dtoverlay] t7Fdt
            (load world t7Kernel (load world t7Ramdisk s).2).2
          rw [two.other.argv t7Fdt (by decide)] at fdt
          refine ⟨_, two.trans fdt, fun _ => ?_⟩
          simp only [↓reduceIte, World.lastSize, Option.none_or, Option.or_assoc]

theorem t7Load_loads (s : State) : ∃ size, Loads [dtoverlay] size s (t7Load world s).2 ∧
    ((world.size (argv s.env t7Ramdisk)).isSome = true →
      size = world.lastSize (argv s.env t7Ramdisk :: t7Later world s.env)) := by
  obtain ⟨size, chain, known⟩ := t7Chain_loads world s
  have all := chain.trans (overlayLoops_loads world false s.env _ chain.other)
  have order : (t7Load world s).2 =
      (overlayLoop world false "user_overlays" [v "user_overlay_dir"]
        (overlayLoop world false "overlays" [v "fdtdir", "/overlays"] (t7Chain world s).2).2).2 := by
    simp only [t7Load, t7Chain, sequence_cons, sequence_nil, skip_state]
  rw [order]
  refine ⟨_, all, fun there => ?_⟩
  rw [known there, t7Later, ← List.cons_append, lastSize_append]

theorem t7_right_iff (s : State) (fresh : s.boots = []) :
    (∀ boot ∈ (sequence [t7Load world, bootWith "booti"] s).2.boots,
        SizeRight world t7Ramdisk boot) ↔
      Kept world (argv s.env t7Ramdisk) (t7Later world s.env) := by
  obtain ⟨size, loads, known⟩ := t7Load_loads world s
  simp only [sequence_cons, sequence_nil]
  obtain ⟨boot, boots, env, argument⟩ := bootWith_boots "booti" (t7Load world s).2
  rw [boots, loads.boots, fresh, List.nil_append, List.forall_mem_singleton]
  refine ramdisk_size_iff world t7Ramdisk _ s.env _ (by decide)
    ⟨?_, fun contents loaded => ?_, ?_⟩
  · rw [env]
    exact loads.other
  · have there : (world.size (argv s.env t7Ramdisk)).isSome = true := by
      rw [World.size, loaded]
      rfl
    rw [env]
    exact filesize_after world _ _ _ _ (known there ▸ loads) contents loaded
  · rw [env]
    exact argument

end AmlogicT7

section Odroid

variable (world : World)

/-- The ramdisk comes last here, so `filesize` is still its size. -/
theorem odroidAttempt_right (s : State)
    (right : ∀ boot ∈ s.boots, SizeRight world odroidRamdisk boot) :
    ∀ boot ∈ (odroidAttempt world s).2.boots, SizeRight world odroidRamdisk boot := by
  have quiet := fun line => quiet_load world line
  unfold odroidAttempt
  cases kernel : (load world (odroidLine "kernel_addr_r" [v "fk_kvers"]) s).1 with
  | false =>
      rw [andThen_false _ _ _ kernel, quiet]
      exact right
  | true =>
      rw [andThen_true _ _ _ kernel]
      cases fdt : (load world (odroidLine "fdt_addr_r" [v "fdtdir", "/", v "fdtfile"])
          (load world (odroidLine "kernel_addr_r" [v "fk_kvers"]) s).2).1 with
      | false =>
          rw [andThen_false _ _ _ fdt, quiet, quiet]
          exact right
      | true =>
          rw [andThen_true _ _ _ fdt]
          generalize before : (load world (odroidLine "fdt_addr_r" [v "fdtdir", "/", v "fdtfile"])
            (load world (odroidLine "kernel_addr_r" [v "fk_kvers"]) s).2).2 = s2
          have same : s2.boots = s.boots := by rw [← before, quiet, quiet]
          have ramdisk := load_loads world [] odroidRamdisk s2
          have reads : argv (load world odroidRamdisk s2).2.env odroidRamdisk =
              argv s2.env odroidRamdisk := ramdisk.other.argv _ (by decide)
          cases loaded : (load world odroidRamdisk s2).1 with
          | false =>
              rw [andThen_false _ _ _ loaded, quiet, same]
              exact right
          | true =>
              rw [andThen_true _ _ _ loaded]
              obtain ⟨boot, boots, env, argument⟩ :=
                bootWith_boots "booti" (load world odroidRamdisk s2).2
              rw [boots, quiet, same]
              intro other member
              rcases List.mem_append.mp member with old | new
              · exact right other old
              · rw [List.mem_singleton.mp new]
                intro contents read
                rw [env, reads] at read
                have size := ramdisk.size
                rw [World.size, read] at size
                rw [argument, ramdiskArgument, size, env]
                rfl

end Odroid

/-- The five scripts, with what is filled in when they are installed. -/
inductive Script
  | boot_cmd (platform : Text)
  | boot_ini (platform : Text)
  | spacemit_boot_cmd (platform : Text)
  | amlogic_t7_boot_cmd (rootfstype loading : Text)
  | odroid_boot_cmd

def Script.command (world : World) : Script → Command
  | .boot_cmd platform => Boot.boot_cmd world platform
  | .boot_ini platform => Boot.boot_ini world platform
  | .spacemit_boot_cmd platform => Boot.spacemit_boot_cmd world platform
  | .amlogic_t7_boot_cmd rootfstype loading => Boot.amlogic_t7_boot_cmd world rootfstype loading
  | .odroid_boot_cmd => Boot.odroid_boot_cmd world

/-- What runs before the first load of a boot file. -/
def Script.prepare (world : World) : Script → Command
  | .boot_cmd platform | .boot_ini platform => genericPrepare world platform
  | .spacemit_boot_cmd platform => spacemitPrepare world platform
  | .amlogic_t7_boot_cmd rootfstype loading => t7Prepare world rootfstype loading
  | .odroid_boot_cmd => odroidPrepare world

/-- The line that loads the ramdisk. -/
def Script.ramdisk : Script → List (List Piece)
  | .boot_cmd _ | .boot_ini _ | .spacemit_boot_cmd _ => ramdiskLine
  | .amlogic_t7_boot_cmd _ _ => t7Ramdisk
  | .odroid_boot_cmd => odroidRamdisk

/-- The lines that load something after the ramdisk and before booting. -/
def Script.later (world : World) (e : Env) : Script → List (List Text)
  | .boot_cmd _ | .spacemit_boot_cmd _ => genericLater world true e
  | .boot_ini _ => genericLater world false e
  | .amlogic_t7_boot_cmd _ _ => t7Later world e
  | .odroid_boot_cmd => []

theorem detectPrefix_quiet (world : World) : Quiet (detectPrefix world) := by
  unfold detectPrefix
  apply quiet_ifThen
  · apply quiet_sequence
    simp
  · apply quiet_ifThen
    · apply quiet_sequence
      simp
    · exact quiet_skip

theorem loadEnvironment_quiet (world : World) (platform : Text) :
    Quiet (loadEnvironment world platform) := by
  apply quiet_sequence
  simp

theorem bootVariables_quiet : Quiet bootVariables := by
  apply quiet_sequence
  simp

theorem k1Board_quiet (world : World) (label fdtfile : String) :
    Quiet (k1Board world label fdtfile) := by
  apply quiet_ifThen
  · apply quiet_sequence
    simp
  · exact quiet_skip

theorem productName_quiet (world : World) : Quiet (productName world) := by
  have board := k1Board_quiet world
  exact quiet_ifThen _ _ _ (board _ _) (quiet_ifThen _ _ _ (board _ _)
    (quiet_ifThen _ _ _ (board _ _) (quiet_ifThen _ _ _ (board _ _) quiet_skip)))

theorem genericPrepare_quiet (world : World) (platform : Text) :
    Quiet (genericPrepare world platform) := by
  apply quiet_sequence
  simp [detectPrefix_quiet, loadEnvironment_quiet, bootVariables_quiet]

theorem spacemitPrepare_quiet (world : World) (platform : Text) :
    Quiet (spacemitPrepare world platform) := by
  apply quiet_sequence
  simp [detectPrefix_quiet, loadEnvironment_quiet, productName_quiet, bootVariables_quiet]

theorem t7Prepare_quiet (world : World) (rootfstype loading : Text) :
    Quiet (t7Prepare world rootfstype loading) := by
  have uconfig : Quiet (t7Uconfig world) := by
    apply quiet_sequence
    simp
  have paths : Quiet (t7Paths world) := by
    apply quiet_ifThen
    · apply quiet_sequence
      simp
    · apply quiet_ifThen
      · apply quiet_sequence
        simp
      · exact quiet_skip
  apply quiet_sequence
  simp [uconfig, paths]

theorem odroidPrepare_quiet (world : World) : Quiet (odroidPrepare world) := by
  have options : Quiet (odroidUserOptions world) := by
    apply quiet_sequence
    simp
  apply quiet_sequence
  simp [options]

/-- U-Boot before the script: variables and memory, nothing booted yet. -/
def start (env : Env) (memory : Text → Text) : State := ⟨env, memory, []⟩

/-- The state in which a script reaches its first load of a boot file. -/
def Script.ready (script : Script) (world : World) (env : Env) (memory : Text → Text) : State :=
  (script.prepare world (start env memory)).2

/-- Every boot command of a run gets the ramdisk's size exactly when no file is
loaded after the ramdisk or the last one loaded has the ramdisk's length. -/
theorem Script.sizeRight_iff (script : Script) (world : World) (env : Env)
    (memory : Text → Text) :
    (∀ boot ∈ (script.command world (start env memory)).2.boots,
        SizeRight world script.ramdisk boot) ↔
      Kept world (argv (script.ready world env memory).env script.ramdisk)
        (script.later world (script.ready world env memory).env) := by
  cases script with
  | boot_cmd platform =>
      exact generic_right_iff world true _ (genericPrepare_quiet world platform _)
  | boot_ini platform =>
      exact generic_right_iff world false _ (genericPrepare_quiet world platform _)
  | spacemit_boot_cmd platform =>
      exact generic_right_iff world true _ (spacemitPrepare_quiet world platform _)
  | amlogic_t7_boot_cmd rootfstype loading =>
      exact t7_right_iff world _ (t7Prepare_quiet world rootfstype loading _)
  | odroid_boot_cmd =>
      refine iff_of_true ?_ fun contents length _ last => by cases last
      have fresh := odroidPrepare_quiet world (start env memory)
      have first := odroidAttempt_right world (odroidPrepare world (start env memory)).2
        (by rw [fresh]; exact fun boot member => by cases member)
      exact odroidAttempt_right world _ first

def environmentFile : Text := "kernel=Image\ninitramfs=initrd\n"

/-- A card with a ramdisk of three bytes and a kernel of five, which its
environment file names. -/
def threeAndFive : World where
  fetch line :=
    if line.getLast? = some ("/amlogicEnv.txt" : Text) then some environmentFile
    else if line.getLast? = some ("/initrd" : Text) then some ("ram" : Text)
    else if line.getLast? = some ("/Image" : Text) then some ("image" : Text)
    else none
  found line := line.getLast? = some ("boot.scr" : Text)
  partuuid _ := []
  importText text env :=
    if text = environmentFile then
      (env.set ("kernel" : Text) "Image").set ("initramfs" : Text) "initrd"
    else env
  ini _ _ env := env

/-- The variables that U-Boot itself sets; the addresses are of some board. -/
def uboot : Env :=
  ((((((Env.set (fun _ => []) ("devtype" : Text) "mmc").set ("devnum" : Text) "0").set
    ("distro_bootpart" : Text) "1").set ("scriptaddr" : Text) "0x1").set
    ("kernel_addr_r" : Text) "0x2").set ("ramdisk_addr_r" : Text) "0x3").set
    ("fdt_addr_r" : Text) "0x4"

/-- boot.cmd hands the kernel's size to booti. -/
theorem kernel_size_as_ramdisk_size :
    ¬ ∀ boot ∈ ((Script.boot_cmd ("amlogic" : Text)).command threeAndFive
        (start uboot fun _ => [])).2.boots,
      SizeRight threeAndFive (Script.boot_cmd ("amlogic" : Text)).ramdisk boot := by
  have fresh := genericPrepare_quiet threeAndFive ("amlogic" : Text)
    (start uboot fun _ => [])
  intro right
  have kept := (generic_right_iff threeAndFive true _ fresh).mp right
  have later : threeAndFive.lastSize (genericLater threeAndFive true
      (genericPrepare threeAndFive ("amlogic" : Text) (start uboot fun _ => [])).2.env) =
      some 5 := by
    decide
  have ramdisk : threeAndFive.loaded (argv
      (genericPrepare threeAndFive ("amlogic" : Text) (start uboot fun _ => [])).2.env
      ramdiskLine) = some ("ram" : Text) := by
    decide
  exact absurd (kept _ _ ramdisk later) (by decide)

end ImageBuilder.Boot
