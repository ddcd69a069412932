import ImageBuilder.BootConfig
import ImageBuilder.Identifiers
import ImageBuilder.Renewal

set_option autoImplicit false

/- The files of an image on its two partitions: what the shell's * and cp take of them,
and what a command that writes files makes of them. -/
namespace ImageBuilder.Shrink

open PlainText Staging Identifiers Renewal

inductive Side
  | boot
  | root
  deriving DecidableEq

/-- What a path leads to. -/
inductive Entry
  | directory
  | file (contents : Text)
  | link (target : Text)
  | special (device : Text)
  deriving DecidableEq

/-- Paths with one inode are names of one file. -/
structure Attributes where
  owner : Nat
  group : Nat
  mode : Nat
  inode : Nat
  deriving DecidableEq

structure Node where
  entry : Entry
  attributes : Attributes
  deriving DecidableEq

/-- A partition as it is found, by the paths from its top. -/
abbrev Filesystem := List (Text × Node)

abbrev Tree := Text → Option Node

/-- A path on one of the two partitions. -/
abbrev Place := Side × Text

abbrev Image := Place → Option Node

/-- The first name in a path. -/
def top (path : Text) : Text := path.takeWhile (· ≠ '/')

def isHidden (name : Text) : Bool := name.head? == some '.'

/-- The names in a directory, which is the empty path or ends in a slash. -/
def ls (directory : Text) (files : Filesystem) : List Text :=
  files.filterMap fun file =>
    match PlainText.after directory file.1 with
    | some (c :: path) => some (top (c :: path))
    | _ => none

/-- The shell's *; without a match the word stays as it is and cp fails on it. -/
def glob (names : List Text) : Option (List Text) :=
  match names.filter (!isHidden ·) with
  | [] => none
  | visible => some visible

/-- `cp -ax directory/* target/` -/
def copy (directory : Text) (files : Filesystem) : Option Tree :=
  (glob (ls directory files)).map fun names path =>
    if top path ∈ names then files.lookup (directory ++ path) else none

/-- `mkdir -p` for one directory. -/
def Image.mkdir (fresh : Place → Attributes) (place : Place) (image : Image) : Image := fun other =>
  if other = place ∧ image place = none then some ⟨.directory, fresh place⟩ else image other

/-- The contents of the plain files of a partition. -/
def Image.files (image : Image) (side : Side) : Volume := fun path =>
  match image (side, path) with
  | some ⟨.file contents, _⟩ => some contents
  | _ => none

/-- A command that writes and removes files; those with other contents are new. -/
def Image.edit (fresh : Place → Attributes) (side : Side) (command : Volume → Option Volume)
    (image : Image) : Option Image :=
  (command (image.files side)).map fun after place =>
    if place.1 = side ∧ after place.2 ≠ image.files side place.2 then
      (after place.2).map fun contents => ⟨.file contents, fresh place⟩
    else image place

/-- A file, if there is one, names none of the identifiers. -/
def Unnamed (ids : List Id) (contents : Option Text) : Prop := ∀ text ∈ contents, Free ids text

def UnnamedNode (ids : List Id) (node : Option Node) : Prop :=
  ∀ contents attributes, node = some ⟨.file contents, attributes⟩ → Free ids contents

section Copying

variable {directory : Text} {files : Filesystem}

theorem lookup_isSome_iff (path : Text) :
    (files.lookup path).isSome = true ↔ ∃ node, (path, node) ∈ files := by
  induction files with
  | nil => simp
  | cons file rest ih =>
    obtain ⟨name, node⟩ := file
    rw [List.lookup_cons]
    split
    · rename_i same
      rw [beq_iff_eq] at same
      subst same
      exact iff_of_true rfl ⟨node, List.mem_cons_self⟩
    · rename_i different
      rw [ih]
      constructor
      · rintro ⟨node, member⟩
        exact ⟨node, List.mem_cons_of_mem _ member⟩
      · rintro ⟨found, member⟩
        rcases List.mem_cons.mp member with is | member
        · obtain ⟨rfl, _⟩ := Prod.mk.inj is
          simp at different
        · exact ⟨found, member⟩

/-- A name is listed just when some path under it exists. -/
theorem mem_ls_iff (name : Text) : name ∈ ls directory files ↔
    ∃ path, path ≠ [] ∧ (files.lookup (directory ++ path)).isSome = true ∧ top path = name := by
  unfold ls
  rw [List.mem_filterMap]
  constructor
  · rintro ⟨⟨whole, node⟩, member, listed⟩
    dsimp only at listed
    split at listed
    · rename_i c path found
      rw [after_eq_some_iff] at found
      refine ⟨c :: path, List.cons_ne_nil c path, ?_, Option.some.inj listed⟩
      rw [lookup_isSome_iff, ← found]
      exact ⟨node, member⟩
    · cases listed
  · rintro ⟨path, nonempty, present, rfl⟩
    obtain ⟨node, member⟩ := (lookup_isSome_iff _).mp present
    refine ⟨(directory ++ path, node), member, ?_⟩
    have cut : PlainText.after directory (directory ++ path) = some path :=
      (after_eq_some_iff _ _ _).mpr rfl
    dsimp only
    rw [cut]
    cases path with
    | nil => exact absurd rfl nonempty
    | cons c path => rfl

theorem glob_eq_some {names visible : List Text} (found : glob names = some visible) :
    visible = names.filter (!isHidden ·) := by
  unfold glob at found
  split at found
  · nomatch found
  · exact (Option.some.inj found).symm

/-- One visible name is enough for cp to start. -/
theorem copy_isSome {name : Text} (listed : name ∈ ls directory files)
    (visible : isHidden name = false) : ∃ tree, copy directory files = some tree := by
  have taken : name ∈ (ls directory files).filter (!isHidden ·) := by
    rw [List.mem_filter, visible]
    exact ⟨listed, rfl⟩
  unfold copy glob
  split
  · rename_i none
    rw [none] at taken
    nomatch taken
  · exact ⟨_, rfl⟩

variable {tree : Tree} (copied : copy directory files = some tree) {path : Text}
include copied

/-- Below a visible name everything is copied. -/
theorem copy_visible (nonempty : path ≠ []) (visible : isHidden (top path) = false) :
    tree path = files.lookup (directory ++ path) := by
  obtain ⟨names, found, is⟩ := Option.map_eq_some_iff.mp copied
  rw [← is, glob_eq_some found]
  dsimp only
  split
  · rfl
  · rename_i untaken
    rw [List.mem_filter, not_and, visible] at untaken
    symm
    rw [← Option.not_isSome_iff_eq_none]
    intro present
    exact untaken ((mem_ls_iff _).mpr ⟨path, nonempty, present, rfl⟩) rfl

theorem copy_hidden (hidden : isHidden (top path) = true) : tree path = none := by
  obtain ⟨names, found, is⟩ := Option.map_eq_some_iff.mp copied
  rw [← is, glob_eq_some found]
  apply if_neg
  rw [List.mem_filter, hidden]
  intro taken
  nomatch taken.2

end Copying

section Editing

variable {fresh : Place → Attributes} {ids : List Id} {image result : Image} {side : Side}

theorem Image.mkdir_present (place : Place) (present : image place ≠ none) :
    image.mkdir fresh place = image := by
  funext other
  apply if_neg
  intro absent
  exact present absent.2

theorem Image.files_eq_some_iff (path contents : Text) : image.files side path = some contents ↔
    ∃ attributes, image (side, path) = some ⟨.file contents, attributes⟩ := by
  unfold Image.files
  split
  · rename_i found attributes is
    rw [is]
    constructor
    · intro same
      exact ⟨attributes, by rw [Option.some.inj same]⟩
    · rintro ⟨_, same⟩
      rw [(Entry.file.inj (Node.mk.inj (Option.some.inj same)).1)]
  · rename_i other
    constructor
    · intro wrong
      cases wrong
    · rintro ⟨attributes, is⟩
      exact absurd is (other contents attributes)

theorem unnamedNode_iff (path : Text) :
    UnnamedNode ids (image (side, path)) ↔ Unnamed ids (image.files side path) := by
  constructor
  · intro free contents found
    obtain ⟨attributes, is⟩ := (Image.files_eq_some_iff path contents).mp found
    exact free contents attributes is
  · intro free contents attributes is
    exact free contents ((Image.files_eq_some_iff path contents).mpr ⟨attributes, is⟩)

theorem files_of_entry {other : Image} {path : Text}
    (same : (image (side, path)).map Node.entry = (other (side, path)).map Node.entry) :
    image.files side path = other.files side path := by
  unfold Image.files
  generalize image (side, path) = one at same
  generalize other (side, path) = two at same
  cases one with
  | none => rw [Option.map_eq_none_iff.mp same.symm]
  | some one =>
    obtain ⟨two, rfl, is⟩ := Option.map_eq_some_iff.mp same.symm
    obtain ⟨entry, _⟩ := one
    obtain ⟨other, _⟩ := two
    obtain rfl : other = entry := is
    cases other <;> rfl

/-- The files of the partition are those the command left. -/
theorem Image.edit_files {command : Volume → Option Volume} {after : Volume}
    (ran : command (image.files side) = some after)
    (edited : image.edit fresh side command = some result) : result.files side = after := by
  unfold Image.edit at edited
  rw [ran] at edited
  obtain rfl := Option.some.inj edited
  funext path
  by_cases same : after path = image.files side path
  · rw [same]
    apply files_of_entry
    dsimp only
    rw [if_neg fun changed => changed.2 same]
  · unfold Image.files
    dsimp only
    rw [if_pos ⟨rfl, same⟩]
    cases after path <;> rfl

/-- A command on one partition changes the image where it changes the files. -/
theorem Image.renewed_edit {command : Volume → Option Volume} {after : Volume} {paths : List Text}
    (ran : command (image.files side) = some after)
    (renewed : Renewed (Unnamed ids) paths (image.files side) after)
    (edited : image.edit fresh side command = some result) :
    Renewed (UnnamedNode ids) (paths.map fun path => (side, path)) image result := by
  unfold Image.edit at edited
  rw [ran] at edited
  obtain rfl := Option.some.inj edited
  constructor
  · intro place member
    obtain ⟨path, inside, rfl⟩ := List.mem_map.mp member
    have free := renewed.inside path inside
    dsimp only
    split
    · intro contents attributes is
      obtain ⟨written, found, same⟩ := Option.map_eq_some_iff.mp is
      rw [← Entry.file.inj (Node.mk.inj same).1]
      exact free written found
    · rename_i unchanged
      rw [not_and, not_not] at unchanged
      rw [unnamedNode_iff, ← unchanged rfl]
      exact free
  · intro place apart
    obtain ⟨other, path⟩ := place
    apply if_neg
    rintro ⟨rfl, changed⟩
    apply changed
    apply renewed.outside
    intro member
    exact apart (List.mem_map_of_mem member)

end Editing

end ImageBuilder.Shrink
