import ImageBuilder.Numerals

set_option autoImplicit false

/- The shell of U-Boot: variables, expansion, the commands a boot script uses and
its control flow. What the medium holds and what an environment file says are
left to the world; an unset variable reads as the empty text. -/
namespace Hush

open PlainText Numerals

abbrev Env := Text → Text

def Env.set (env : Env) (name value : Text) : Env := fun other =>
  if other = name then value else env other

@[simp] theorem Env.set_same (env : Env) (name value : Text) : env.set name value name = value :=
  if_pos rfl

theorem Env.set_other (env : Env) (name value other : Text) (different : other ≠ name) :
    env.set name value other = env other :=
  if_neg different

/-- A part of a word: literal text or a variable. -/
inductive Piece
  | lit (text : Text)
  | var (name : Text)
  deriving DecidableEq

instance : Coe String Piece := ⟨fun text => .lit text⟩

/-- `${name}` -/
def v (name : String) : Piece := .var name

/-- The text between two double quotes. -/
def expand (env : Env) (pieces : List Piece) : Text :=
  pieces.flatMap fun
    | .lit text => text
    | .var name => env name

/-- The variables a text depends on. -/
def Piece.names : Piece → List Text
  | .lit _ => []
  | .var name => [name]

/-- The arguments of a command: without quotes each is split into its words. -/
def argv (env : Env) (args : List (List Piece)) : List Text :=
  args.flatMap fun pieces => words (expand env pieces)

def names (args : List (List Piece)) : List Text := args.flatten.flatMap Piece.names

theorem expand_congr (first second : Env) (pieces : List Piece)
    (same : ∀ name ∈ pieces.flatMap Piece.names, first name = second name) :
    expand first pieces = expand second pieces := by
  induction pieces with
  | nil => rfl
  | cons piece rest ih =>
      simp only [List.flatMap_cons, List.mem_append] at same
      have tail := ih fun name member => same name (Or.inr member)
      unfold expand at tail ⊢
      rw [List.flatMap_cons, List.flatMap_cons, tail]
      cases piece with
      | lit text => rfl
      | var name =>
          have head := same name (Or.inl (by simp only [Piece.names, List.mem_singleton]))
          exact congrArg (· ++ _) head

theorem argv_congr (first second : Env) (args : List (List Piece))
    (same : ∀ name ∈ names args, first name = second name) :
    argv first args = argv second args := by
  induction args with
  | nil => rfl
  | cons pieces rest ih =>
      simp only [names, List.flatten_cons, List.flatMap_append, List.mem_append] at same
      have head := expand_congr first second pieces fun name member => same name (Or.inl member)
      have tail := ih fun name member => same name (Or.inr member)
      unfold argv at tail ⊢
      rw [List.flatMap_cons, List.flatMap_cons, head, tail]

/-- What a script finds outside itself. `fetch` is the file that a load command
with these arguments reads, and `importText` what an environment text sets. -/
structure World where
  fetch : List Text → Option Text
  found : List Text → Bool
  partuuid : List Text → Text
  importText : Text → Env → Env
  /-- `ini section`, on the text at its address. -/
  ini : Text → Text → Env → Env

/-- A boot command that was reached, with its arguments and the variables then. -/
structure Boot where
  command : Text
  kernel : Text
  ramdisk : Text
  fdt : Text
  env : Env

structure State where
  env : Env
  /-- What the last load to each address left there. -/
  memory : Text → Text
  boots : List Boot

abbrev Command := State → Bool × State

/-- The load commands of U-Boot. -/
def loaders : List Text :=
  [("load" : Text), ("ext2load" : Text), ("ext4load" : Text), ("fatload" : Text)]

/-- The file a command line loads; any other command loads none. -/
def World.loaded (world : World) : List Text → Option Text
  | [] => none
  | command :: args => if loaders.contains command then world.fetch args else none

def filesize : Text := "filesize"

/-- A load sets `filesize` when it succeeds and changes nothing otherwise. -/
def load (world : World) (command : List (List Piece)) : Command := fun s =>
  let line := argv s.env command
  match world.loaded line with
  | some contents =>
      (true, { s with
        env := s.env.set filesize (hexadecimal contents.length)
        memory := fun address => if (line)[3]? = some address then contents else s.memory address })
  | none => (false, s)

def setenv (name : Text) (value : List Piece) : Command := fun s =>
  (true, { s with env := s.env.set name (expand s.env value) })

/-- `part uuid device name` -/
def partUuid (world : World) (device : List (List Piece)) (name : Text) : Command := fun s =>
  (true, { s with env := s.env.set name (world.partuuid (argv s.env device)) })

/-- `env import -t address size` -/
def envImport (world : World) (address size : List Piece) : Command := fun s =>
  let text := (s.memory (expand s.env address)).take (unhex (expand s.env size))
  (true, { s with env := world.importText text s.env })

/-- `ini section address` -/
def ini (world : World) (sectionName : List Piece) (address : List Piece) : Command := fun s =>
  (true, { s with
    env := world.ini (expand s.env sectionName) (s.memory (expand s.env address)) s.env })

/-- A boot command that returns has failed. -/
def boot (command : Text) (kernel ramdisk fdt : List Piece) : Command := fun s =>
  (false, { s with boots := s.boots ++
    [⟨command, expand s.env kernel, expand s.env ramdisk, expand s.env fdt, s.env⟩] })

/-- Commands without an effect on the variables: echo, fdt. -/
def skip : Command := fun s => (true, s)

def andThen (first second : Command) : Command := fun s =>
  match first s with
  | (true, next) => second next
  | (false, next) => (false, next)

theorem andThen_true (first second : Command) (s : State) (succeeded : (first s).1 = true) :
    andThen first second s = second (first s).2 := by
  unfold andThen
  split <;> rename_i next ran <;> rw [ran] at succeeded ⊢
  cases succeeded

theorem andThen_false (first second : Command) (s : State) (failed : (first s).1 = false) :
    (andThen first second s).2 = (first s).2 := by
  unfold andThen
  split <;> rename_i next ran <;> rw [ran] at failed ⊢
  cases failed

/-- One command after the other, whatever they return. -/
def sequence : List Command → Command
  | [] => skip
  | first :: rest => fun s => sequence rest (first s).2

@[simp] theorem skip_state (s : State) : (skip s).2 = s := rfl

@[simp] theorem sequence_nil (s : State) : (sequence [] s).2 = s := rfl

@[simp] theorem sequence_cons (first : Command) (rest : List Command) (s : State) :
    (sequence (first :: rest) s).2 = (sequence rest (first s).2).2 := rfl

theorem sequence_append (first second : List Command) (s : State) :
    (sequence (first ++ second) s).2 = (sequence second (sequence first s).2).2 := by
  induction first generalizing s with
  | nil => rfl
  | cons command rest ih => exact ih (command s).2

abbrev Test := State → Bool

/-- `test -e device path` -/
def testE (world : World) (args : List (List Piece)) : Test := fun s =>
  world.found (argv s.env args)

/-- `test -n` of an unquoted value: there is at least one word. -/
def testN (args : List (List Piece)) : Test := fun s => argv s.env args ≠ []

def testZ (pieces : List Piece) : Test := fun s => expand s.env pieces = []

def testEq (left right : List Piece) : Test := fun s => expand s.env left = expand s.env right

def ifThen (condition : Test) (yes : Command) (no : Command := skip) : Command := fun s =>
  if condition s then yes s else no s

theorem ifThen_true (condition : Test) (yes no : Command) (s : State)
    (holds : condition s = true) : ifThen condition yes no s = yes s :=
  if_pos holds

theorem ifThen_false (condition : Test) (yes no : Command) (s : State)
    (fails : condition s = false) : ifThen condition yes no s = no s :=
  if_neg (by rw [fails]; exact Bool.false_ne_true)

def forEach (name : Text) (body : Command) : List Text → Command
  | [], s => (true, s)
  | word :: rest, s => forEach name body rest (body { s with env := s.env.set name word }).2

/-- `for name in args; do body; done`; the list is expanded once. -/
def forWords (name : Text) (args : List (List Piece)) (body : Command) : Command := fun s =>
  forEach name body (argv s.env args) s

theorem forEach_congr (name : Text) (body body' : Command) (same : ∀ s, (body s).2 = (body' s).2)
    (words : List Text) (s : State) : forEach name body words s = forEach name body' words s := by
  induction words generalizing s with
  | nil => rfl
  | cons word rest ih => rw [forEach, forEach, same, ih]

/-- A test and a load depend on the values of their words only. -/
theorem testE_congr (world : World) (args args' : List (List Piece))
    (same : ∀ env, argv env args = argv env args') : testE world args = testE world args' :=
  funext fun s => congrArg world.found (same s.env)

theorem load_congr (world : World) (command command' : List (List Piece))
    (same : ∀ env, argv env command = argv env command') :
    load world command = load world command' := by
  funext s
  unfold load
  rw [same s.env]

section Quiet

/-- A command that reaches no boot command. -/
def Quiet (command : Command) : Prop := ∀ s, (command s).2.boots = s.boots

@[simp] theorem quiet_skip : Quiet skip := fun _ => rfl

@[simp] theorem quiet_setenv (name : Text) (value : List Piece) : Quiet (setenv name value) :=
  fun _ => rfl

@[simp] theorem quiet_partUuid (world : World) (device : List (List Piece)) (name : Text) :
    Quiet (partUuid world device name) :=
  fun _ => rfl

@[simp] theorem quiet_envImport (world : World) (address size : List Piece) :
    Quiet (envImport world address size) :=
  fun _ => rfl

@[simp] theorem quiet_ini (world : World) (sectionName address : List Piece) :
    Quiet (ini world sectionName address) :=
  fun _ => rfl

@[simp] theorem quiet_load (world : World) (command : List (List Piece)) :
    Quiet (load world command) := by
  intro s
  unfold load
  dsimp only
  split <;> rfl

@[simp] theorem quiet_ifThen (condition : Test) (yes no : Command) (first : Quiet yes)
    (second : Quiet no) : Quiet (ifThen condition yes no) := by
  intro s
  unfold ifThen
  split
  · exact first s
  · exact second s

@[simp] theorem quiet_andThen (first second : Command) (one : Quiet first) (two : Quiet second) :
    Quiet (andThen first second) := by
  intro s
  have before := one s
  unfold andThen
  split
  · rename_i next ran
    rw [ran] at before
    exact (two next).trans before
  · rename_i next ran
    rw [ran] at before
    exact before

theorem quiet_sequence (commands : List Command) (each : ∀ command ∈ commands, Quiet command) :
    Quiet (sequence commands) := by
  induction commands with
  | nil => exact fun _ => rfl
  | cons first rest ih =>
      rw [List.forall_mem_cons] at each
      intro s
      exact (ih each.2 _).trans (each.1 s)

end Quiet

section Loads

variable (world : World)

/-- The length of the file a command line loads. -/
def World.size (line : List Text) : Option Nat := (world.loaded line).map List.length

/-- The length of the last file that a run of command lines loads. -/
def World.lastSize : List (List Text) → Option Nat
  | [] => none
  | line :: rest => (World.lastSize rest).or (world.size line)

theorem lastSize_append (first second : List (List Text)) :
    world.lastSize (first ++ second) = (world.lastSize second).or (world.lastSize first) := by
  induction first with
  | nil => exact (Option.or_none).symm
  | cons line rest ih =>
      rw [List.cons_append, World.lastSize, ih, World.lastSize, Option.or_assoc]

/-- The same variables apart from `filesize` and the scratch ones. -/
def Agrees (scratch : List Text) (first second : Env) : Prop :=
  ∀ name, name ≠ filesize → name ∉ scratch → second name = first name

/-- What a stretch of loads does: `filesize` tells the last file loaded, if any,
and nothing else changes but scratch variables. -/
structure Loads (scratch : List Text) (size : Option Nat) (before after : State) : Prop where
  size : after.env filesize = (size.map hexadecimal).getD (before.env filesize)
  other : Agrees scratch before.env after.env
  boots : after.boots = before.boots

theorem Loads.refl (scratch : List Text) (s : State) : Loads scratch none s s :=
  ⟨rfl, fun _ _ _ => rfl, rfl⟩

theorem Loads.trans {scratch : List Text} {first second : Option Nat} {a b c : State}
    (one : Loads scratch first a b) (two : Loads scratch second b c) :
    Loads scratch (second.or first) a c := by
  refine ⟨?_, ?_, two.boots.trans one.boots⟩
  · rw [two.size, one.size]
    cases second with
    | none => rw [Option.none_or]; rfl
    | some size => rfl
  · intro name changed scratched
    rw [two.other name changed scratched, one.other name changed scratched]

theorem load_loads (scratch : List Text) (command : List (List Piece)) (s : State) :
    Loads scratch (world.size (argv s.env command)) s (load world command s).2 := by
  unfold load World.size
  dsimp only
  cases world.loaded (argv s.env command) with
  | none => exact Loads.refl scratch s
  | some contents =>
      refine ⟨?_, ?_, rfl⟩
      · exact Env.set_same s.env filesize (hexadecimal contents.length)
      · intro name changed _
        exact Env.set_other _ _ _ _ changed

/-- The load succeeds exactly when there is a file. -/
theorem load_fst (command : List (List Piece)) (s : State) :
    (load world command s).1 = (world.size (argv s.env command)).isSome := by
  unfold load World.size
  dsimp only
  cases world.loaded (argv s.env command) <;> rfl

theorem load_some (command : List (List Piece)) (s : State) (contents : Text)
    (found : world.loaded (argv s.env command) = some contents) :
    (load world command s).2.env = s.env.set filesize (hexadecimal contents.length) ∧
      ∀ address, (argv s.env command)[3]? = some address →
        (load world command s).2.memory address = contents := by
  unfold load
  dsimp only
  rw [found]
  exact ⟨rfl, fun address is => if_pos is⟩

/-- An import right after the load reads the file. -/
theorem envImport_loaded (address size : List Piece) (s : State) (contents : Text)
    (there : s.memory (expand s.env address) = contents)
    (sized : expand s.env size = hexadecimal contents.length) :
    (envImport world address size s).2.env = world.importText contents s.env := by
  unfold envImport
  rw [there, sized, unhex_hexadecimal, List.take_length]

/-- Arguments that mention no changed variable read the same later. -/
theorem Agrees.argv {scratch : List Text} {first second : Env} (agrees : Agrees scratch first second)
    (args : List (List Piece)) (clear : ∀ name ∈ names args, name ≠ filesize ∧ name ∉ scratch) :
    argv second args = argv first args :=
  argv_congr second first args fun name member => agrees name (clear name member).1
    (clear name member).2

/-- A loop whose body loads `lines word` for each word loads them in turn. -/
theorem forEach_loads (name : Text) (body : Command) (lines : Text → List (List Text)) (start : Env)
    (variable' : name ≠ filesize)
    (step : ∀ word s, Agrees [name] start s.env → s.env name = word →
      Loads [name] (world.lastSize (lines word)) s (body s).2)
    (words : List Text) (s : State) (agrees : Agrees [name] start s.env) :
    Loads [name] (world.lastSize (words.flatMap lines)) s (forEach name body words s).2 := by
  induction words generalizing s with
  | nil => exact Loads.refl [name] s
  | cons word rest ih =>
      have assign : Loads [name] none s { s with env := s.env.set name word } := by
        refine ⟨Env.set_other _ _ _ _ variable'.symm, ?_, rfl⟩
        intro other _ scratched
        exact Env.set_other _ _ _ _ fun same => scratched (List.mem_singleton.mpr same)
      have ready : Agrees [name] start (s.env.set name word) := fun other changed scratched =>
        (assign.other other changed scratched).trans (agrees other changed scratched)
      have once := step word { s with env := s.env.set name word } ready
        (Env.set_same s.env name word)
      have later := ih _ fun other changed scratched =>
        (once.other other changed scratched).trans (ready other changed scratched)
      have all := (assign.trans once).trans later
      rw [Option.or_none] at all
      rw [List.flatMap_cons, lastSize_append]
      exact all

end Loads

end Hush
