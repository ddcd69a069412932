import Mathlib.Data.List.DropRight
import ImageBuilder.FileMoves
import ImageBuilder.PlainText
import ImageBuilder.TextLines

set_option autoImplicit false

/- menu-config-update with one repository: which installed files it offers to update,
and where it takes the new contents from. -/
namespace ImageBuilder.ConfigUpdate

open PlainText TextLines FileMoves

/-- A file of the repository's directory of scripts. -/
structure Script where
  name : Text
  contents : Text
  deriving DecidableEq

/-- `\s` -/
def isSpace (c : Char) : Bool := isBlank c || (11 ≤ c.toNat && c.toNat ≤ 13)

/-- `grep "^#\sDestination"` -/
def isDestinationLine : Text → Bool
  | '#' :: c :: rest => isSpace c && ("Destination" : Text).isPrefixOf rest
  | _ => false

/-- `cut -d ":" -f 2`, which prints a line without a colon whole. -/
def cutSecond (line : Text) : Text :=
  match line.splitOn ':' with
  | _ :: second :: _ => second
  | _ => line

/-- The arguments xargs makes of its input, none when a quote stays open on a line.
`quote` is the open quote, `word` the argument begun. -/
def xargs : Option Char → Option Text → Text → Option (List Text)
  | none, word, [] => some word.toList
  | some _, _, [] => none
  | some quote, word, c :: rest =>
      if c = quote then xargs none (some (word.getD [])) rest
      else if c = '\n' then none
      else xargs (some quote) (some (word.getD [] ++ [c])) rest
  | none, word, '\\' :: c :: rest => xargs none (some (word.getD [] ++ [c])) rest
  | none, word, c :: rest =>
      if isBlank c then (xargs none none rest).map (word.toList ++ ·)
      else if c = '\'' ∨ c = '"' then xargs (some c) (some (word.getD [])) rest
      else xargs none (some (word.getD [] ++ [c])) rest

def trim (text : Text) : Text :=
  (text.dropWhile isBlank).rdropWhile isBlank

/-- The paths the header lines of a script name. -/
def Script.named (f : Script) : List Text :=
  (((lines isNewline f.contents).filterMap (after ("# Destination:" : Text))).map trim).filter
    fun path => !path.isEmpty

def basename (path : Text) : Text :=
  (((path.splitOn '/').filter fun part => !part.isEmpty).getLast?).getD []

/-- What the run finds around it. -/
structure System (Key Digest : Type) where
  /-- The directory entry a path leads to, from the working directory. -/
  entry : Text → Key
  /-- The entry `mv` writes to for a path: in a directory the file of the same name. -/
  lands : Text → Key
  /-- The entries below the working copy, which is removed in the end. -/
  clone : Key → Bool
  /-- The expansion of a word to file names. -/
  glob : Text → List Text
  md5 : Text → Digest
  path_to_files : Text

section Run

variable {Key Digest : Type}
variable (system : System Key Digest) (tree : List Script) (files : Key → Option Text)

/-- The entry of a name in the working copy. -/
def System.src (name : Text) : Key := system.entry (system.path_to_files ++ '/' :: name)

def System.filename (f : Script) : Text := system.path_to_files ++ '/' :: f.name

/-- The arguments an unquoted variable becomes. -/
def System.arguments (text : Text) : List Text := (words text).flatMap system.glob

/-- `grep "^#\sDestination"`, which puts the file's name before a line when it has
several files to read. -/
def System.headers (paths : List Text) : List Text :=
  paths.flatMap fun path =>
    let found := (lines isNewline ((files (system.entry path)).getD [])).filter isDestinationLine
    if paths.length = 1 then found else found.map fun line => path ++ ':' :: line

/-- `dest`, the fields of all header lines as xargs prints them. -/
def System.dest (f : Script) : Text :=
  let fields := (system.headers files (system.arguments (system.filename f))).map cutSecond
  (spaced ((xargs none none (fields.flatMap (· ++ ['\n']))).getD [])).rdropWhile isNewline

/-- `md5sum`, a line for each of its arguments that is a file. -/
def System.digests (text : Text) : List Digest :=
  (system.arguments text).filterMap fun path => (files (system.entry path)).map system.md5

/-- `[ $oldmd5 != $newmd5 ]`, an error unless both are one digest. -/
def System.differs [DecidableEq Digest] (f : Script) : Bool :=
  match system.digests files (system.dest files f), system.digests files (system.filename f) with
  | [oldmd5], [newmd5] => oldmd5 != newmd5
  | _, _ => false

/-- The tests of the comparison loop. That dpkg knows no such file it says where the
script does not look, so its answer never counts. -/
def System.candidate [DecidableEq Digest] (f : Script) : Bool :=
  !(system.dest files f).isEmpty && (files (system.entry (system.dest files f))).isSome &&
    system.differs files f

/-- The check list, from the files that `*` shows. -/
def updates [DecidableEq Digest] : List Script :=
  (tree.filter fun f => f.name.head? != some '.').filter (system.candidate files)

/-- The moves for the items that were checked; `choices` has their words. -/
def installs (selected : List Script) : List (Key × Key) :=
  (selected.flatMap fun f => words (system.dest files f)).filterMap fun word =>
    match system.glob word with
    | [path] => some (system.src (basename path), system.lands path)
    | _ => none

/-- The files after the installation loop and the removal of the working copy. -/
def run [DecidableEq Key] (selected : List Script) : Key → Option Text := fun key =>
  if system.clone key then none else moves files (installs system files selected) key

/-- The path leads to an installed file with other contents. -/
def Outdated (f : Script) (path : Text) : Prop :=
  system.clone (system.entry path) = false ∧
    ∃ old, files (system.entry path) = some old ∧ old ≠ f.contents

/-- The update offers what differs, installs what it compared, and nothing else. -/
structure InstallsWhatItCompared [DecidableEq Key] [DecidableEq Digest] : Prop where
  offers : ∀ f ∈ tree, ∀ path, f ∈ updates system tree files ∧ system.dest files f = path ↔
    path ∈ f.named ∧ Outdated system files f path
  replaces : ∀ selected, selected.Sublist (updates system tree files) → ∀ f ∈ selected,
    run system files selected (system.entry (system.dest files f)) = some f.contents
  frame : ∀ selected, selected.Sublist (updates system tree files) → ∀ key,
    system.clone key = false → (∀ f ∈ selected, key ≠ system.entry (system.dest files f)) →
      run system files selected key = files key

/-- The working copy holds the scripts under their names, apart from what is installed. -/
structure Cloned : Prop where
  names : (tree.map Script.name).Nodup
  plain : ∀ f ∈ tree, '/' ∉ f.name
  holds : ∀ name, '/' ∉ name →
    files (system.src name) = (tree.find? fun f => f.name = name).map Script.contents
  inside : ∀ name, '/' ∉ name → files (system.src name) ≠ none →
    system.clone (system.src name) = true
  distinct : ∀ name other, '/' ∉ name → '/' ∉ other → files (system.src name) ≠ none →
    system.src name = system.src other → name = other
  regular : ∀ path, files (system.entry path) ≠ none → system.lands path = system.entry path

/-- The shell leaves the path whole. -/
def System.Whole (path : Text) : Prop := words path = [path] ∧ system.glob path = [path]

/-- The path that the header lines of a script spell, in the words that xargs finds. -/
def Script.spelled (f : Script) : Text :=
  let fields := ((lines isNewline f.contents).filter isDestinationLine).map cutSecond
  (spaced ((xargs none none (fields.flatMap (· ++ ['\n']))).getD [])).rdropWhile isNewline

/-- The shell leaves the names of the scripts whole. -/
def Kept : Prop := ∀ f ∈ tree, f.name.head? ≠ some '.' → system.Whole (system.filename f)

/-- The script is not hidden, its header spells the path of an installed file, and the one
file that the shell makes of this path has another digest than the script. -/
structure Differing (f : Script) : Prop where
  member : f ∈ tree
  shown : f.name.head? ≠ some '.'
  spells : f.spelled ≠ []
  installed : files (system.entry f.spelled) ≠ none
  digest : ∃ old, (system.arguments f.spelled).filterMap (fun path => files (system.entry path)) =
    [old] ∧ system.md5 old ≠ system.md5 f.contents

/-- What the repository has to be like. -/
structure Matched : Prop where
  kept : Kept system tree
  header : ∀ f ∈ tree, ∀ path ∈ f.named, Outdated system files f path →
    f.name.head? ≠ some '.' ∧ f.spelled = path ∧ system.Whole path ∧
      ∀ old, files (system.entry path) = some old → system.md5 old ≠ system.md5 f.contents
  stray : ∀ f, Differing system tree files f → f.spelled ∈ f.named ∧
    system.Whole f.spelled ∧ system.clone (system.entry f.spelled) = false
  source : ∀ f, Differing system tree files f →
    ∃ g ∈ tree, g.name = basename f.spelled ∧ g.contents = f.contents
  sources : ∀ f g, Differing system tree files f → Differing system tree files g →
    basename f.spelled = basename g.spelled →
      system.entry f.spelled = system.entry g.spelled
  targets : ∀ f g, Differing system tree files f → Differing system tree files g →
    system.entry f.spelled = system.entry g.spelled → f.contents = g.contents

/-- Of a path that the shell splits or expands, no piece leads to the same file. -/
def Apart : Prop :=
  ∀ f, Differing system tree files f → ¬ system.Whole f.spelled →
    ∀ word ∈ words f.spelled, ∀ path, system.glob word = [path] →
      system.lands path ≠ system.entry f.spelled

/-- The move that the comparison has in mind. -/
def System.replacement (f : Script) : Key × Key :=
  (system.src (basename f.spelled), system.entry f.spelled)

theorem basename_plain (path : Text) : '/' ∉ basename path := by
  unfold basename
  cases last : ((path.splitOn '/').filter fun part => !part.isEmpty).getLast? with
  | none => exact List.not_mem_nil
  | some part =>
      have member := (List.mem_filter.mp (List.mem_of_getLast? last)).1
      rw [List.splitOn_eq_splitOnP] at member
      intro inside
      have other := not_mem_piece (· == '/') path part member '/' inside
      cases other

section Lemmas

variable {system tree files}

/-- The source of a move is in the working copy or missing. -/
theorem Cloned.src_ne (cloned : Cloned system tree files) (name : Text) (plain : '/' ∉ name)
    (key : Key) (outside : system.clone key = false) (there : files key ≠ none) :
    key ≠ system.src name := by
  intro same
  rw [same] at there outside
  rw [cloned.inside name plain there] at outside
  cases outside

/-- A name of the working copy that has contents is that of a script. -/
theorem Cloned.script_of_src (cloned : Cloned system tree files) (name contents : Text)
    (plain : '/' ∉ name) (found : files (system.src name) = some contents) :
    ∃ g ∈ tree, g.name = name ∧ g.contents = contents := by
  rw [cloned.holds name plain, Option.map_eq_some_iff] at found
  obtain ⟨g, search, same⟩ := found
  have named := List.find?_some search
  exact ⟨g, List.mem_of_find?_eq_some search, of_decide_eq_true named, same⟩

theorem Cloned.src_of_script (cloned : Cloned system tree files) (g : Script)
    (member : g ∈ tree) : files (system.src g.name) = some g.contents := by
  have distinct := List.inj_on_of_nodup_map cloned.names
  rw [cloned.holds g.name (cloned.plain g member)]
  cases search : tree.find? fun f => decide (f.name = g.name) with
  | none => exact absurd (decide_eq_true rfl) (List.find?_eq_none.mp search g member)
  | some f =>
      have named := List.find?_some search
      rw [distinct (List.mem_of_find?_eq_some search) member (of_decide_eq_true named)]
      rfl

theorem arguments_whole (path : Text) (whole : system.Whole path) :
    system.arguments path = [path] := by
  rw [System.arguments, whole.1, List.flatMap_singleton, whole.2]

/-- A path that stays whole is the one file it leads to. -/
theorem read_whole (path text : Text) (whole : system.Whole path)
    (found : files (system.entry path) = some text) :
    ((system.arguments path).filterMap fun path => files (system.entry path)) = [text] := by
  rw [arguments_whole path whole, List.filterMap_cons, found]
  rfl

section Comparison

variable (cloned : Cloned system tree files) (kept : Kept system tree)

include cloned kept

/-- The shell reads the header of the script it means. -/
theorem Cloned.dest_eq (f : Script) (member : f ∈ tree) (shown : f.name.head? ≠ some '.') :
    system.dest files f = f.spelled := by
  have found : files (system.entry (system.filename f)) = some f.contents :=
    cloned.src_of_script f member
  rw [System.dest, arguments_whole _ (kept f member shown), System.headers, List.flatMap_singleton,
    found]
  rfl

theorem Cloned.differs_iff [DecidableEq Digest] (f : Script) (member : f ∈ tree)
    (shown : f.name.head? ≠ some '.') : system.differs files f = true ↔
      ∃ old, (system.arguments f.spelled).filterMap (fun path => files (system.entry path)) =
        [old] ∧ system.md5 old ≠ system.md5 f.contents := by
  have found : files (system.entry (system.filename f)) = some f.contents :=
    cloned.src_of_script f member
  have new : system.digests files (system.filename f) = [system.md5 f.contents] := by
    rw [System.digests, arguments_whole _ (kept f member shown), List.filterMap_cons, found]
    rfl
  have old : system.digests files f.spelled = ((system.arguments f.spelled).filterMap
      fun path => files (system.entry path)).map system.md5 := by
    rw [System.digests, List.map_filterMap]
  rw [System.differs, cloned.dest_eq kept f member shown, new, old]
  rcases (system.arguments f.spelled).filterMap fun path => files (system.entry path) with
    _ | ⟨first, _ | ⟨second, rest⟩⟩
  · constructor
    · intro differs
      cases differs
    · rintro ⟨_, one, -⟩
      cases one
  · constructor
    · intro differs
      exact ⟨first, rfl, bne_iff_ne.mp differs⟩
    · rintro ⟨_, one, other⟩
      cases one
      exact bne_iff_ne.mpr other
  · constructor
    · intro differs
      cases differs
    · rintro ⟨_, one, -⟩
      cases one

/-- The update offers the scripts that differ from what their headers spell. -/
theorem Cloned.mem_updates_iff [DecidableEq Digest] (f : Script) :
    f ∈ updates system tree files ↔ Differing system tree files f := by
  rw [updates, List.mem_filter, List.mem_filter, bne_iff_ne]
  constructor
  · rintro ⟨⟨member, shown⟩, tests⟩
    rw [System.candidate, cloned.dest_eq kept f member shown] at tests
    simp only [Bool.and_eq_true, cloned.differs_iff kept f member shown] at tests
    obtain ⟨⟨nonempty, installed⟩, digest⟩ := tests
    refine ⟨member, shown, ?_, Option.isSome_iff_ne_none.mp installed, digest⟩
    intro empty
    rw [empty] at nonempty
    cases nonempty
  · rintro ⟨member, shown, spells, installed, digest⟩
    refine ⟨⟨member, shown⟩, ?_⟩
    rw [System.candidate, cloned.dest_eq kept f member shown]
    simp only [Bool.and_eq_true, cloned.differs_iff kept f member shown]
    refine ⟨⟨?_, Option.isSome_iff_ne_none.mpr installed⟩, digest⟩
    rw [List.isEmpty_eq_false_iff.mpr spells]
    rfl

end Comparison

section Loops

variable [DecidableEq Key]

omit [DecidableEq Key] in
/-- The moves of whole paths go from the working copy to the installed files. -/
theorem Cloned.moved_whole (cloned : Cloned system tree files) (kept : Kept system tree)
    (selected : List Script) (offered : ∀ f ∈ selected, Differing system tree files f)
    (whole : ∀ f ∈ selected, system.Whole f.spelled) :
    installs system files selected = selected.map system.replacement := by
  have dests : (selected.flatMap fun f => words (system.dest files f)) =
      selected.map Script.spelled := by
    rw [← List.flatMap_pure_eq_map]
    apply List.flatMap_congr
    intro f member
    have own := offered f member
    rw [cloned.dest_eq kept f own.member own.shown, (whole f member).1]
    rfl
  rw [installs, dests, List.filterMap_map, ← List.filterMap_eq_map]
  apply List.filterMap_congr
  intro f member
  show (match system.glob f.spelled with
    | [path] => some (system.src (basename path), system.lands path)
    | _ => none) = _
  rw [(whole f member).2]
  show some (system.src (basename f.spelled), system.lands f.spelled) = _
  rw [cloned.regular f.spelled (offered f member).installed]
  rfl

theorem run_outside (selected : List Script) (key : Key) (outside : system.clone key = false) :
    run system files selected key = moves files (installs system files selected) key := by
  rw [run, outside, if_neg Bool.false_ne_true]

section Sufficient

variable (cloned : Cloned system tree files) (matched : Matched system tree files)

include cloned matched

omit [DecidableEq Key] in
theorem Matched.found (f : Script) (offered : Differing system tree files f) :
    files (system.src (basename f.spelled)) = some f.contents := by
  obtain ⟨g, member, named, same⟩ := matched.source f offered
  have found := cloned.src_of_script g member
  rw [← named, found, same]

omit [DecidableEq Key] in
theorem Matched.installs_eq (selected : List Script)
    (offered : ∀ f ∈ selected, Differing system tree files f) :
    installs system files selected = selected.map system.replacement :=
  cloned.moved_whole matched.kept selected offered fun f member => (matched.stray f (offered f member)).2.1

omit [DecidableEq Key] in
/-- The moves for what the repository matches agree with one another. -/
theorem Matched.agreeing (selected : List Script)
    (offered : ∀ f ∈ selected, Differing system tree files f) :
    Agreeing (selected.map system.replacement) fun pair => (files pair.1).getD [] := by
  apply agreeing_map
  case apart =>
    intro f _ g chosen
    have outside := (matched.stray g (offered g chosen)).2.2
    exact (cloned.src_ne _ (basename_plain _) _ outside (offered g chosen).installed).symm
  case sources =>
    intro f member g chosen same
    have found := matched.found cloned f (offered f member)
    have names := cloned.distinct _ _ (basename_plain _) (basename_plain _)
      (found ▸ Option.some_ne_none _) same
    exact matched.sources f g (offered f member) (offered g chosen) names
  case targets =>
    intro f member g chosen same
    show (files (system.src (basename f.spelled))).getD [] =
      (files (system.src (basename g.spelled))).getD []
    rw [matched.found cloned f (offered f member), matched.found cloned g (offered g chosen),
      matched.targets f g (offered f member) (offered g chosen) same]

theorem Matched.replaces (selected : List Script)
    (offered : ∀ f ∈ selected, Differing system tree files f) (f : Script) (member : f ∈ selected) :
    run system files selected (system.entry f.spelled) = some f.contents := by
  have ready : ∀ pair ∈ selected.map system.replacement,
      Ready files (fun pair => (files pair.1).getD []) pair := by
    intro pair inside
    obtain ⟨g, chosen, rfl⟩ := List.mem_map.mp inside
    left
    show files (system.src (basename g.spelled)) =
      some ((files (system.src (basename g.spelled))).getD [])
    rw [matched.found cloned g (offered g chosen)]
    rfl
  have installed := moves_install files _ _ (matched.agreeing cloned selected offered) ready _
    (List.mem_map.mpr ⟨f, member, rfl⟩)
  rw [run_outside selected _ (matched.stray f (offered f member)).2.2,
    matched.installs_eq cloned selected offered]
  show moves files (selected.map system.replacement) (system.replacement f).2 =
    some f.contents
  rw [installed]
  show some ((files (system.src (basename f.spelled))).getD []) = some f.contents
  rw [matched.found cloned f (offered f member)]
  rfl

theorem Matched.frame (selected : List Script)
    (offered : ∀ f ∈ selected, Differing system tree files f) (key : Key)
    (outside : system.clone key = false)
    (other : ∀ f ∈ selected, key ≠ system.entry f.spelled) :
    run system files selected key = files key := by
  rw [run_outside selected key outside, matched.installs_eq cloned selected offered]
  apply moves_frame
  intro pair inside
  obtain ⟨f, member, rfl⟩ := List.mem_map.mp inside
  refine ⟨?_, other f member⟩
  intro same
  have found := matched.found cloned f (offered f member)
  have inClone := cloned.inside _ (basename_plain _) (found ▸ Option.some_ne_none _)
  change key = system.src (basename f.spelled) at same
  rw [← same, outside] at inClone
  cases inClone

omit [DecidableEq Key] cloned in
/-- Where a header names an outdated file, the script differs from it. -/
theorem Matched.differing (f : Script) (member : f ∈ tree) (path : Text) (named : path ∈ f.named)
    (outdated : Outdated system files f path) :
    Differing system tree files f ∧ f.spelled = path := by
  obtain ⟨shown, rfl, whole, differs⟩ := matched.header f member path named outdated
  obtain ⟨-, old, found, -⟩ := outdated
  refine ⟨⟨member, shown, ?_, found ▸ Option.some_ne_none old, old, ?_, differs old found⟩, rfl⟩
  · intro empty
    have split := whole.1
    rw [empty] at split
    cases split
  · exact read_whole f.spelled old whole found

omit [DecidableEq Key] cloned in
theorem Matched.outdated (f : Script) (offered : Differing system tree files f) :
    Outdated system files f f.spelled := by
  obtain ⟨-, whole, outside⟩ := matched.stray f offered
  obtain ⟨old, there⟩ := Option.ne_none_iff_exists'.mp offered.installed
  obtain ⟨other, read, differs⟩ := offered.digest
  rw [read_whole f.spelled old whole there, List.singleton_inj] at read
  refine ⟨outside, old, there, ?_⟩
  intro same
  rw [← read, same] at differs
  exact differs rfl

/-- Such a repository is installed as it was compared. -/
theorem Matched.right [DecidableEq Digest] : InstallsWhatItCompared system tree files := by
  have offered : ∀ selected : List Script, selected.Sublist (updates system tree files) →
      ∀ f ∈ selected, Differing system tree files f := fun selected chosen f member =>
    (cloned.mem_updates_iff matched.kept f).mp (chosen.subset member)
  have dest : ∀ selected : List Script, selected.Sublist (updates system tree files) →
      ∀ f ∈ selected, system.dest files f = f.spelled := fun selected chosen f member =>
    cloned.dest_eq matched.kept f (offered selected chosen f member).member
      (offered selected chosen f member).shown
  constructor
  case offers =>
    intro f member path
    rw [cloned.mem_updates_iff matched.kept]
    constructor
    · rintro ⟨differing, rfl⟩
      rw [cloned.dest_eq matched.kept f member differing.shown]
      exact ⟨(matched.stray f differing).1, matched.outdated f differing⟩
    · rintro ⟨named, outdated⟩
      obtain ⟨differing, rfl⟩ := matched.differing f member path named outdated
      exact ⟨differing, cloned.dest_eq matched.kept f member differing.shown⟩
  case replaces =>
    intro selected chosen f member
    rw [dest selected chosen f member]
    exact matched.replaces cloned selected (offered selected chosen) f member
  case frame =>
    intro selected chosen key outside other
    apply matched.frame cloned selected (offered selected chosen) key outside
    intro f member
    rw [← dest selected chosen f member]
    exact other f member

end Sufficient

section Needed

variable [DecidableEq Digest]
variable (cloned : Cloned system tree files) (kept : Kept system tree)

include cloned kept

omit [DecidableEq Key] in
theorem updates_single (f : Script) (offered : Differing system tree files f) :
    [f].Sublist (updates system tree files) :=
  List.singleton_sublist.mpr ((cloned.mem_updates_iff kept f).mpr offered)

omit [DecidableEq Key] in
theorem updates_pair (f g : Script) (first : Differing system tree files f)
    (second : Differing system tree files g) :
    ∃ selected : List Script, selected.Sublist (updates system tree files) ∧
      f ∈ selected ∧ g ∈ selected ∧ ∀ h ∈ selected, h = f ∨ h = g := by
  rw [← cloned.mem_updates_iff kept] at first second
  refine ⟨(updates system tree files).filter fun h => h = f ∨ h = g, ?_, ?_, ?_, ?_⟩
  · exact List.filter_sublist
  · exact List.mem_filter.mpr ⟨first, decide_eq_true (Or.inl rfl)⟩
  · exact List.mem_filter.mpr ⟨second, decide_eq_true (Or.inr rfl)⟩
  · intro h member
    exact of_decide_eq_true (List.mem_filter.mp member).2

variable (right : InstallsWhatItCompared system tree files)

include right

theorem InstallsWhatItCompared.outdated (f : Script) (offered : Differing system tree files f) :
    f.spelled ∈ f.named ∧ Outdated system files f f.spelled :=
  (right.offers f offered.member f.spelled).mp
    ⟨(cloned.mem_updates_iff kept f).mpr offered, cloned.dest_eq kept f offered.member offered.shown⟩

/-- What was selected does change. -/
theorem InstallsWhatItCompared.changed (selected : List Script)
    (chosen : selected.Sublist (updates system tree files)) (f : Script) (member : f ∈ selected) :
    moves files (installs system files selected) (system.entry f.spelled) =
        some f.contents ∧
      files (system.entry f.spelled) ≠ some f.contents := by
  have offered := (cloned.mem_updates_iff kept f).mp (chosen.subset member)
  obtain ⟨-, outside, old, found, differs⟩ := right.outdated cloned kept f offered
  have replaced := right.replaces selected chosen f member
  rw [cloned.dest_eq kept f offered.member offered.shown,
    run_outside selected _ outside] at replaced
  refine ⟨replaced, ?_⟩
  rw [found]
  exact fun same => differs (Option.some.inj same)

theorem InstallsWhatItCompared.targets (f g : Script) (first : Differing system tree files f)
    (second : Differing system tree files g)
    (same : system.entry f.spelled = system.entry g.spelled) :
    f.contents = g.contents := by
  obtain ⟨selected, chosen, here, there, -⟩ := updates_pair cloned kept f g first second
  have one := (right.changed cloned kept selected chosen f here).1
  have other := (right.changed cloned kept selected chosen g there).1
  rw [← same, one] at other
  exact Option.some.inj other

/-- The installed file is no source. -/
theorem InstallsWhatItCompared.dest_ne_src (f : Script) (offered : Differing system tree files f)
    (name : Text) (plain : '/' ∉ name) :
    system.entry f.spelled ≠ system.src name := by
  have outside := (right.outdated cloned kept f offered).2.1
  exact cloned.src_ne name plain _ outside offered.installed

theorem InstallsWhatItCompared.whole (apart : Apart system tree files) (f : Script)
    (offered : Differing system tree files f) : system.Whole f.spelled := by
  obtain ⟨replaced, changed⟩ := right.changed cloned kept [f]
    (updates_single cloned kept f offered) f List.mem_cons_self
  by_contra split
  apply changed
  rw [← replaced]
  symm
  apply moves_frame
  intro pair member
  obtain ⟨word, piece, moved⟩ := List.mem_filterMap.mp member
  rw [List.flatMap_singleton, cloned.dest_eq kept f offered.member offered.shown] at piece
  split at moved
  case h_1 path expanded =>
    cases moved
    exact ⟨right.dest_ne_src cloned kept f offered _ (basename_plain path),
      (apart f offered split word piece path expanded).symm⟩
  case h_2 => cases moved

/-- The source has what was compared. -/
theorem InstallsWhatItCompared.source (f : Script) (offered : Differing system tree files f)
    (whole : system.Whole f.spelled) :
    files (system.src (basename f.spelled)) = some f.contents := by
  obtain ⟨replaced, changed⟩ := right.changed cloned kept [f]
    (updates_single cloned kept f offered) f List.mem_cons_self
  have single := cloned.moved_whole kept [f]
    (fun g member => List.mem_singleton.mp member ▸ offered)
    (fun g member => List.mem_singleton.mp member ▸ whole)
  rw [single] at replaced
  change move files (system.src (basename f.spelled))
    (system.entry f.spelled) (system.entry f.spelled) = _ at replaced
  cases found : files (system.src (basename f.spelled)) with
  | none =>
      rw [move_missing _ _ _ found] at replaced
      exact absurd replaced changed
  | some contents =>
      have apart := right.dest_ne_src cloned kept f offered (basename f.spelled)
        (basename_plain _)
      rw [move_target _ _ _ contents found apart.symm] at replaced
      exact replaced

/-- One source serves one installed file. -/
theorem InstallsWhatItCompared.sources (f g : Script) (first : Differing system tree files f)
    (second : Differing system tree files g)
    (whole : ∀ h, Differing system tree files h → system.Whole h.spelled)
    (names : basename f.spelled = basename g.spelled) :
    system.entry f.spelled = system.entry g.spelled := by
  obtain ⟨selected, chosen, here, there, only⟩ := updates_pair cloned kept f g first second
  have offered : ∀ h ∈ selected, Differing system tree files h := fun h member =>
    (cloned.mem_updates_iff kept h).mp (chosen.subset member)
  have list := cloned.moved_whole kept selected offered fun h member => whole h (offered h member)
  have shared : ∀ pair ∈ installs system files selected,
      pair.1 = system.src (basename f.spelled) := by
    intro pair inside
    rw [list] at inside
    obtain ⟨h, member, rfl⟩ := List.mem_map.mp inside
    show system.src (basename h.spelled) = _
    rcases only h member with rfl | rfl
    · rfl
    · rw [names]
  obtain ⟨target, still⟩ := moves_one_target files (installs system files selected) _ shared
  have arrives : ∀ h ∈ selected, system.entry h.spelled = target := by
    intro h member
    obtain ⟨replaced, changed⟩ := right.changed cloned kept selected chosen h member
    by_contra elsewhere
    have notSource := right.dest_ne_src cloned kept h (offered h member)
      (basename f.spelled) (basename_plain _)
    rw [still _ notSource elsewhere] at replaced
    exact changed replaced
  rw [arrives f here, arrives g there]

theorem InstallsWhatItCompared.matched (apart : Apart system tree files) :
    Matched system tree files := by
  have whole := right.whole cloned kept apart
  constructor
  case kept => exact kept
  case header =>
    intro f member path named outdated
    obtain ⟨listed, read⟩ := (right.offers f member path).mpr ⟨named, outdated⟩
    have offered := (cloned.mem_updates_iff kept f).mp listed
    rw [cloned.dest_eq kept f member offered.shown] at read
    obtain ⟨other, digested, differs⟩ := offered.digest
    rw [read] at digested
    have kept := read ▸ whole f offered
    refine ⟨offered.shown, read, kept, ?_⟩
    intro old there
    rw [read_whole path old kept there, List.singleton_inj] at digested
    rwa [digested]
  case stray =>
    intro f offered
    obtain ⟨named, outside, -⟩ := right.outdated cloned kept f offered
    exact ⟨named, whole f offered, outside⟩
  case source =>
    intro f offered
    have found := right.source cloned kept f offered (whole f offered)
    exact cloned.script_of_src _ _ (basename_plain _) found
  case sources =>
    intro f g first second
    exact right.sources cloned kept f g first second whole
  case targets => exact right.targets cloned kept

end Needed

end Loops

end Lemmas

end Run

section Checkout

/-- The names are the entries, and no name is a pattern. -/
def literal : System Text Text where
  entry := id
  lands := id
  clone := ("/var/tmp/debian-image-builder/" : Text).isPrefixOf
  glob word := [word]
  md5 := id
  path_to_files := "/var/tmp/debian-image-builder/files/scripts".toList

/-- The scripts in the working copy beside what is installed. -/
def checkout (tree : List Script) (installed : List (Text × Text)) (key : Text) : Option Text :=
  match after (literal.path_to_files ++ ['/']) key with
  | some name => (tree.find? fun f => f.name = name).map Script.contents
  | none => installed.lookup key

end Checkout

/-- `menu-config-update` in the repository under its own name. -/
def own : Script where
  name := "menu-config-update".toList
  contents := "#!/bin/bash\n# Destination: /usr/local/bin/menu-config-update\n".toList

/-- The same script after it was renamed in the repository. -/
def renamed : Script := { own with name := "update-scripts".toList }

def outdated : List (Text × Text) := [("/usr/local/bin/menu-config-update".toList, "old".toList)]

end ImageBuilder.ConfigUpdate
