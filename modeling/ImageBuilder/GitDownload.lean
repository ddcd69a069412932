import ImageBuilder.Partitioning
import ImageBuilder.Transition

set_option autoImplicit false

/- The source cache of lib/function/git: git_download with git_option and
git_verify, one state for each command, for one repository and branch. -/
namespace ImageBuilder.GitCache

open PlainText

/-- The files broadcom_extra_git looks for when it has fetched the firmware. -/
def RPI_FW : List Text :=
  ["firmware/fixup4.dat", "firmware/fixup4cd.dat", "firmware/fixup4db.dat",
   "firmware/fixup4x.dat", "firmware/start4.elf", "firmware/start4cd.elf",
   "firmware/start4db.elf", "firmware/start4x.elf", "firmware/bootcode.bin",
   "firmware/fixup.dat", "firmware/fixup_cd.dat", "firmware/fixup_db.dat",
   "firmware/fixup_x.dat", "firmware/start.elf", "firmware/start_cd.elf",
   "firmware/start_db.elf", "firmware/start_x.elf"]

/-- What `${FAMILY}_extra_git` has to bring, for a family that defines it. -/
def extra_git : Family → Option (List Text)
  | .broadcom => some RPI_FW
  | _ => none

/-- The first of the files that is missing. -/
def missing (bins files : List Text) : Option Text := bins.find? fun bin => !files.contains bin

/-- What an interrupted command leaves of a tree. -/
structure Debris where
  Makefile : Bool
  extra : List Text
  deriving DecidableEq

/-- A source directory: a full checkout of a commit, or a part of one. Beside it
lie the files that extra_git brought. -/
inductive Tree (Hash : Type)
  | checkout (commit : Hash) (extra : List Text)
  | debris (rest : Debris)
  deriving DecidableEq

variable {Hash : Type}

/-- Every commit of a kernel has a Makefile. -/
def Tree.Makefile : Tree Hash → Bool
  | .checkout _ _ => true
  | .debris rest => rest.Makefile

def Tree.extra : Tree Hash → List Text
  | .checkout _ extra => extra
  | .debris rest => rest.extra

def Tree.withExtra (files : List Text) : Tree Hash → Tree Hash
  | .checkout commit _ => .checkout commit files
  | .debris rest => .debris { rest with extra := files }

/-- `.cache/git_shallow.<repo>-<branch>`: just opened, with its first line, or
with both. -/
inductive Record (Hash : Type)
  | empty
  | shallow
  | commit (GIT_COMMIT : Hash)
  deriving DecidableEq

/-- The variable after `source`; unset without the second line. -/
def Record.GIT_COMMIT : Record Hash → Option Hash
  | .commit hash => some hash
  | _ => none

def Record.GIT_SHALLOW : Record Hash → Bool
  | .empty => false
  | _ => true

/-- `sed -i 's/^GIT_COMMIT=.*/…/'`, which changes no other line. -/
def Record.rewrite (GIT_HASH : Hash) : Record Hash → Record Hash
  | .commit _ => .commit GIT_HASH
  | record => record

/-- The command a run is at. -/
inductive Run (Hash : Type)
  -- git_option
  | readHash
  | testCache (GIT_HASH : Hash)
  | dropRecord (GIT_HASH : Hash)
  | dropTree (GIT_HASH : Hash)
  | sourceRecord (GIT_HASH : Hash)
  | writeShallow (GIT_HASH : Hash)
  | writeCommit (GIT_HASH : Hash)
  -- git_verify
  | compare (GIT_HASH : Hash) (GIT_COMMIT : Option Hash)
  | rewrite (GIT_HASH : Hash)
  | remove (GIT_HASH : Hash)
  -- git_download; `ok` when git_verify has said so
  | testTree (GIT_HASH : Hash) (ok : Bool)
  | restore (GIT_HASH : Hash) (ok : Bool)
  | clone (GIT_HASH : Hash)
  | testMakefile (GIT_HASH : Hash)
  | extraGit (GIT_HASH : Hash)
  | prepare (GIT_HASH : Hash)
  -- the build goes on with a copy of the tree in ${KERNEL}
  | past (GIT_HASH : Hash) (ok : Bool) (KERNEL : Tree Hash)
  deriving DecidableEq

/-- The remote branch, the cache, and the run under way. -/
structure State (Hash : Type) where
  remote : Hash
  record : Option (Record Hash)
  tree : Option (Tree Hash)
  run : Option (Run Hash)
  deriving DecidableEq

/-- Nothing downloaded yet. -/
def fresh (remote : Hash) : State Hash := ⟨remote, none, none, none⟩

/-- What a killed command has done by then. -/
inductive Left
  | unchanged
  | opened
  | tree (rest : Option Debris)
  | extra (files : List Text)
  deriving DecidableEq

inductive Event (Hash : Type)
  | move (commit : Hash)
  | start
  | next
  | fetch (files : List Text)
  | fail (rest : Option Debris)
  | kill (left : Left)
  deriving DecidableEq

def State.goto (state : State Hash) (run : Run Hash) : State Hash := { state with run := some run }

def State.halt (state : State Hash) : State Hash := { state with run := none }

/-- The commands of git_option. -/
def git_option (state : State Hash) : Run Hash → Option (State Hash)
  | .readHash => some (state.goto (.testCache state.remote))
  | .testCache GIT_HASH =>
    if state.record.isSome && state.tree.isSome then some (state.goto (.sourceRecord GIT_HASH))
    else some (state.goto (.dropRecord GIT_HASH))
  | .dropRecord GIT_HASH => some ({ state with record := none }.goto (.dropTree GIT_HASH))
  | .dropTree GIT_HASH => some ({ state with tree := none }.goto (.sourceRecord GIT_HASH))
  | .sourceRecord GIT_HASH =>
    match state.record with
    | some record =>
      if record.GIT_SHALLOW then some (state.goto (.compare GIT_HASH record.GIT_COMMIT))
      else some (state.goto (.testTree GIT_HASH false))
    | none => some (state.goto (.writeShallow GIT_HASH))
  | .writeShallow GIT_HASH =>
    some ({ state with record := some .shallow }.goto (.writeCommit GIT_HASH))
  | .writeCommit GIT_HASH =>
    -- GIT_SHALLOW is in the file only, so git_verify is left out
    some ({ state with record := some (.commit GIT_HASH) }.goto (.testTree GIT_HASH false))
  | _ => none

/-- The commands of git_verify. -/
def git_verify [DecidableEq Hash] (state : State Hash) : Run Hash → Option (State Hash)
  | .compare GIT_HASH GIT_COMMIT =>
    if GIT_COMMIT = some GIT_HASH then some (state.goto (.testTree GIT_HASH true))
    else some (state.goto (.rewrite GIT_HASH))
  | .rewrite GIT_HASH =>
    some ({ state with record := state.record.map (Record.rewrite GIT_HASH) }.goto
      (.remove GIT_HASH))
  | .remove GIT_HASH => some ({ state with tree := none }.goto (.testTree GIT_HASH false))
  | _ => none

/-- The commands of git_download from the test for the directory on. -/
def git_download (family : Family) (state : State Hash) : Run Hash → Option (State Hash)
  | .testTree GIT_HASH ok =>
    if state.tree.isSome then some (state.goto (.restore GIT_HASH ok))
    else some (state.goto (.clone GIT_HASH))
  | .restore GIT_HASH ok => state.tree.map fun tree => state.goto (.past GIT_HASH ok tree)
  | .clone GIT_HASH =>
    some ({ state with tree := some (.checkout state.remote []) }.goto (.testMakefile GIT_HASH))
  | .testMakefile GIT_HASH =>
    if state.tree.any Tree.Makefile then
      if (extra_git family).isSome then some (state.goto (.extraGit GIT_HASH))
      else some (state.goto (.prepare GIT_HASH))
    else some state.halt
  | .prepare GIT_HASH => state.tree.map fun tree => state.goto (.past GIT_HASH false tree)
  | .past _ _ _ => some state.halt
  | _ => none

/-- `${FAMILY}_extra_git` with the files it could fetch: it exits the build when
one is missing. -/
def fetched (family : Family) (files : List Text) (state : State Hash) :
    Run Hash → Option (State Hash)
  | .extraGit GIT_HASH => (extra_git family).map fun bins =>
    let brought := { state with tree := state.tree.map (Tree.withExtra files) }
    if (missing bins files).isNone then brought.goto (.prepare GIT_HASH) else brought.halt
  | _ => none

/-- A clone that fails; what it printed is all the script knows of it. -/
def failed (rest : Option Debris) (state : State Hash) : Run Hash → Option (State Hash)
  | .clone GIT_HASH =>
    some ({ state with tree := rest.map .debris }.goto (.testMakefile GIT_HASH))
  | _ => none

/-- A run killed between two commands or inside one. -/
def killed (left : Left) (state : State Hash) : Run Hash → Option (State Hash)
  | .writeShallow _ =>
    match left with
    | .unchanged => some state.halt
    | .opened => some { state with record := some .empty }.halt
    | _ => none
  | .dropTree _ | .remove _ =>
    match left with
    | .unchanged => some state.halt
    | .tree rest => some { state with tree := state.tree.bind fun _ => rest.map .debris }.halt
    | _ => none
  | .clone _ =>
    match left with
    | .unchanged => some state.halt
    | .tree rest => some { state with tree := rest.map .debris }.halt
    | _ => none
  | .extraGit _ =>
    match left with
    | .unchanged => some state.halt
    | .extra files => some { state with tree := state.tree.map (Tree.withExtra files) }.halt
    | _ => none
  | _ => if left = .unchanged then some state.halt else none

def step [DecidableEq Hash] (family : Family) (state : State Hash) (event : Event Hash) : Option (State Hash) :=
  match event, state.run with
  | .move commit, _ => some { state with remote := commit }
  | .start, none => some (state.goto .readHash)
  | .next, some run =>
    git_option state run <|> git_verify state run <|> git_download family state run
  | .fetch files, some run => fetched family files state run
  | .fail rest, some run => failed rest state run
  | .kill left, some run => killed left state run
  | _, _ => none

/-- All that a kill can do: nothing, or part of the command it hits. -/
theorem killed_cases {left : Left} {state next : State Hash} {run : Run Hash}
    (stepped : killed left state run = some next) :
    left = .unchanged ∧ next = state.halt ∨
    (∃ GIT_HASH, run = .writeShallow GIT_HASH ∧
      next = { state with record := some .empty }.halt) ∨
    (∃ rest GIT_HASH, left = .tree rest ∧ (run = .dropTree GIT_HASH ∨ run = .remove GIT_HASH) ∧
      next = { state with tree := state.tree.bind fun _ => rest.map .debris }.halt) ∨
    (∃ rest GIT_HASH, left = .tree rest ∧ run = .clone GIT_HASH ∧
      next = { state with tree := rest.map .debris }.halt) ∨
    (∃ files GIT_HASH, left = .extra files ∧ run = .extraGit GIT_HASH ∧
      next = { state with tree := state.tree.map (Tree.withExtra files) }.halt) := by
  cases left with
  | unchanged =>
    refine .inl ⟨rfl, ?_⟩
    cases run <;> exact (Option.some.inj stepped).symm
  | opened =>
    cases run with
    | writeShallow GIT_HASH => exact .inr (.inl ⟨GIT_HASH, rfl, (Option.some.inj stepped).symm⟩)
    | _ => cases stepped
  | tree rest =>
    cases run with
    | dropTree GIT_HASH =>
      exact .inr (.inr (.inl ⟨rest, GIT_HASH, rfl, .inl rfl, (Option.some.inj stepped).symm⟩))
    | remove GIT_HASH =>
      exact .inr (.inr (.inl ⟨rest, GIT_HASH, rfl, .inr rfl, (Option.some.inj stepped).symm⟩))
    | clone GIT_HASH =>
      exact .inr (.inr (.inr (.inl ⟨rest, GIT_HASH, rfl, rfl, (Option.some.inj stepped).symm⟩)))
    | _ => cases stepped
  | extra files =>
    cases run with
    | extraGit GIT_HASH =>
      exact .inr (.inr (.inr (.inr ⟨files, GIT_HASH, rfl, rfl, (Option.some.inj stepped).symm⟩)))
    | _ => cases stepped

variable [DecidableEq Hash]

/-- A step moves the branch, starts a run, or is a step of the run under way. -/
theorem step_cases {family : Family} {state next : State Hash} {event : Event Hash}
    (stepped : step family state event = some next) :
    (∃ commit, event = .move commit ∧ next = { state with remote := commit }) ∨
    (event = .start ∧ state.run = none ∧ next = state.goto .readHash) ∨
    ∃ run, state.run = some run ∧
      (event = .next ∧ (git_option state run = some next ∨ git_verify state run = some next ∨
          git_download family state run = some next) ∨
        (∃ files, event = .fetch files ∧ fetched family files state run = some next) ∨
        (∃ rest, event = .fail rest ∧ failed rest state run = some next) ∨
        ∃ left, event = .kill left ∧ killed left state run = some next) := by
  unfold step at stepped
  split at stepped
  · exact .inl ⟨_, rfl, (Option.some.inj stepped).symm⟩
  · exact .inr (.inl ⟨rfl, ‹_›, (Option.some.inj stepped).symm⟩)
  · rename_i run here
    refine .inr (.inr ⟨run, here, .inl ⟨rfl, ?_⟩⟩)
    simp only [Option.orElse_eq_orElse, Option.orElse_eq_or, Option.or_eq_some_iff] at stepped
    rcases stepped with option | ⟨_, verify | ⟨_, download⟩⟩
    · exact .inl option
    · exact .inr (.inl verify)
    · exact .inr (.inr download)
  · rename_i files run here
    exact .inr (.inr ⟨run, here, .inr (.inl ⟨files, rfl, stepped⟩)⟩)
  · rename_i rest run here
    exact .inr (.inr ⟨run, here, .inr (.inr (.inl ⟨rest, rfl, stepped⟩))⟩)
  · rename_i left run here
    exact .inr (.inr ⟨run, here, .inr (.inr (.inr ⟨left, rfl, stepped⟩))⟩)
  · cases stepped

end ImageBuilder.GitCache
