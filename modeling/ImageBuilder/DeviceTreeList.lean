import Mathlib.Data.List.Nodup
import Mathlib.Data.List.Perm.Subperm
import ImageBuilder.PlainText

set_option autoImplicit false

/- dtclist: the device trees that go into the kernel package of a board, picked from
board files that are all read into one shell. -/
namespace ImageBuilder.Dtclist

open PlainText

/-- What a file in lib/boards assigns, as `NAME="value"`. -/
structure BoardFile where
  SERIES : Text
  COMMON_PKG : Option Text
  COMMON_PKGNAME : Option Text
  DEVICETREE : Option Text
  deriving DecidableEq

/-- The variables of the shell; one that is not set reads as the empty text. -/
structure Variables where
  SERIES : Text
  COMMON_PKG : Text
  COMMON_PKGNAME : Text
  DEVICETREE : Text

def unset : Variables := ⟨[], [], [], []⟩

/-- `. $f` -/
def source (shell : Variables) (f : BoardFile) : Variables where
  SERIES := f.SERIES
  COMMON_PKG := f.COMMON_PKG.getD shell.COMMON_PKG
  COMMON_PKGNAME := f.COMMON_PKGNAME.getD shell.COMMON_PKGNAME
  DEVICETREE := f.DEVICETREE.getD shell.DEVICETREE

/-- The tests of the loop. `FIND` comes from the board that is built, the switch from
the file that was just read. -/
def selects (board : BoardFile) (shell : Variables) : Bool :=
  if shell.COMMON_PKG = ("true" : Text) then
    shell.COMMON_PKGNAME == board.COMMON_PKGNAME.getD []
  else shell.SERIES == board.SERIES

/-- `echo -e ${DEVICETREE} | tr ' ' '\n'` -/
def deviceTrees (DEVICETREE : Text) : List Text := words DEVICETREE

def dtclistFrom (board : BoardFile) : Variables → List BoardFile → List Text
  | _, [] => []
  | shell, f :: files =>
      let read := source shell f
      (if selects board read then deviceTrees read.DEVICETREE else []) ++
        dtclistFrom board read files

/-- dtclist.txt when `board` is built and the files are read in this order. -/
def dtclist (board : BoardFile) (files : List BoardFile) : List Text :=
  dtclistFrom board unset files

/-- The name of the kernel package in linux_packaging. -/
def LINUX_IMAGE (board : BoardFile) : Text :=
  if board.COMMON_PKG = some ("true" : Text) then
    ("linux-image-" : Text) ++ board.COMMON_PKGNAME.getD []
  else ("linux-image-" : Text) ++ board.SERIES

/-- The device trees a file lists itself. -/
def BoardFile.trees (f : BoardFile) : List Text := deviceTrees (f.DEVICETREE.getD [])

/-- Some board of the package lists the device tree. -/
def PackageTree (boards : List BoardFile) (package tree : Text) : Prop :=
  ∃ f ∈ boards, LINUX_IMAGE f = package ∧ tree ∈ f.trees

/-- In every order and for every board the list holds the trees of the package. -/
def DependsOnPackage (boards : List BoardFile) : Prop :=
  ∀ order, order.Perm boards → ∀ board ∈ boards, ∀ tree,
    tree ∈ dtclist board order ↔ PackageTree boards (LINUX_IMAGE board) tree

/-- What a variable is when `f` is read after the earlier files: the value of `f`, or else
that of the last earlier file with one. -/
def met (assigned : BoardFile → Option Text) (earlier : List BoardFile) (f : BoardFile) : Text :=
  (assigned f).getD (((earlier.filterMap assigned).getLast?).getD [])

/-- Whatever other files are read before `f`, in whatever order: where it meets the switch,
it meets the name of the board that is built exactly if the two are of one package, and
elsewhere it has the series of that board exactly if they are. -/
structure Distinguished (boards : List BoardFile) : Prop where
  common : ∀ earlier f, (f :: earlier).Subperm boards → ∀ board ∈ boards,
    met BoardFile.COMMON_PKG earlier f = ("true" : Text) →
      (met BoardFile.COMMON_PKGNAME earlier f = board.COMMON_PKGNAME.getD [] ↔
        LINUX_IMAGE f = LINUX_IMAGE board)
  series : ∀ earlier f, (f :: earlier).Subperm boards → ∀ board ∈ boards,
    met BoardFile.COMMON_PKG earlier f ≠ ("true" : Text) →
      (f.SERIES = board.SERIES ↔ LINUX_IMAGE f = LINUX_IMAGE board)

/-- A file without device trees has the other files' trees in its package anyway. -/
def Lent (boards : List BoardFile) : Prop :=
  ∀ f other, [f, other].Subperm boards → f.DEVICETREE = none →
    ∀ tree ∈ other.trees, PackageTree boards (LINUX_IMAGE f) tree

/-- Every file lists a device tree that no other file lists. -/
structure OwnTrees (boards : List BoardFile) : Prop where
  once : boards.Nodup
  own : ∀ f ∈ boards, ∃ tree ∈ f.trees, ∀ other ∈ boards, tree ∈ other.trees → other = f

theorem foldl_getD {α : Type} (assigned : α → Option Text) (start : Text) (files : List α) :
    files.foldl (fun value f => (assigned f).getD value) start =
      ((files.filterMap assigned).getLast?).getD start := by
  induction files generalizing start with
  | nil => rfl
  | cons f files ih =>
      rw [List.foldl_cons, ih]
      cases own : assigned f with
      | none => rw [List.filterMap_cons_none own, Option.getD_none]
      | some value =>
          rw [List.filterMap_cons_some own, List.getLast?_cons, Option.getD_some,
            Option.getD_some]

theorem foldl_source (value : Variables → Text) (assigned : BoardFile → Option Text)
    (sourced : ∀ shell f, value (source shell f) = (assigned f).getD (value shell))
    (shell : Variables) (files : List BoardFile) :
    value (files.foldl source shell) =
      ((files.filterMap assigned).getLast?).getD (value shell) := by
  rw [← foldl_getD]
  exact (List.foldl_hom value fun shell f => (sourced shell f).symm).symm

/-- After the earlier files a file meets what they left. -/
theorem source_met (earlier : List BoardFile) (f : BoardFile) :
    source (earlier.foldl source unset) f =
      ⟨f.SERIES, met BoardFile.COMMON_PKG earlier f, met BoardFile.COMMON_PKGNAME earlier f,
        met BoardFile.DEVICETREE earlier f⟩ := by
  have switch := foldl_source Variables.COMMON_PKG BoardFile.COMMON_PKG (fun _ _ => rfl) unset earlier
  have name := foldl_source Variables.COMMON_PKGNAME BoardFile.COMMON_PKGNAME (fun _ _ => rfl) unset
    earlier
  have trees := foldl_source Variables.DEVICETREE BoardFile.DEVICETREE (fun _ _ => rfl) unset earlier
  rw [source, switch, name, trees]
  rfl

theorem mem_dtclistFrom (board : BoardFile) (shell : Variables) (files : List BoardFile)
    (tree : Text) : tree ∈ dtclistFrom board shell files ↔
      ∃ earlier f later, files = earlier ++ f :: later ∧
        selects board (source (earlier.foldl source shell) f) = true ∧
        tree ∈ deviceTrees (source (earlier.foldl source shell) f).DEVICETREE := by
  induction files generalizing shell with
  | nil => simp [dtclistFrom]
  | cons g files ih =>
      simp only [dtclistFrom, List.mem_append, List.mem_ite_nil_right, ih]
      constructor
      · rintro (⟨picked, printed⟩ | ⟨earlier, f, later, rfl, picked, printed⟩)
        · exact ⟨[], g, files, rfl, picked, printed⟩
        · exact ⟨g :: earlier, f, later, rfl, picked, printed⟩
      · rintro ⟨earlier, f, later, split, picked, printed⟩
        cases earlier with
        | nil =>
            cases split
            exact Or.inl ⟨picked, printed⟩
        | cons first earlier =>
            cases split
            exact Or.inr ⟨earlier, f, later, rfl, picked, printed⟩

/-- One run of dtclist. -/
theorem mem_dtclist (board : BoardFile) (order : List BoardFile) (tree : Text) :
    tree ∈ dtclist board order ↔
      ∃ earlier f later, order = earlier ++ f :: later ∧
        selects board (source (earlier.foldl source unset) f) = true ∧
        tree ∈ deviceTrees (met BoardFile.DEVICETREE earlier f) := by
  rw [dtclist, mem_dtclistFrom]
  simp only [source_met]

theorem subperm_of_order (boards earlier later : List BoardFile) (f : BoardFile)
    (same : (earlier ++ f :: later).Perm boards) : (f :: earlier).Subperm boards := by
  refine List.Subperm.trans ⟨earlier ++ [f], List.perm_append_singleton f earlier, ?_⟩ same.subperm
  exact (List.sublist_append_left [f] later).append_left earlier

theorem order_of_subperm (boards earlier : List BoardFile) (f : BoardFile)
    (placed : (f :: earlier).Subperm boards) :
    ∃ later, (earlier ++ f :: later).Perm boards := by
  obtain ⟨files, moved, part⟩ := placed
  obtain ⟨later, rest⟩ := part.exists_perm_append
  refine ⟨later, List.perm_middle.trans ?_⟩
  exact (moved.symm.append_right later).trans rest.symm

theorem met_assigned (assigned : BoardFile → Option Text) (earlier : List BoardFile)
    (f : BoardFile) (value : Text) (own : assigned f = some value) :
    met assigned earlier f = value := by
  rw [met, own, Option.getD_some]

/-- Device trees that a file does not list itself are those of an earlier file. -/
theorem met_lent (earlier : List BoardFile) (f : BoardFile) (lends : f.DEVICETREE = none)
    (tree : Text) (printed : tree ∈ deviceTrees (met BoardFile.DEVICETREE earlier f)) :
    ∃ other ∈ earlier, tree ∈ other.trees := by
  rw [met, lends, Option.getD_none] at printed
  cases last : (earlier.filterMap BoardFile.DEVICETREE).getLast? with
  | none =>
      rw [last] at printed
      exact absurd printed List.not_mem_nil
  | some value =>
      obtain ⟨other, member, own⟩ := List.mem_filterMap.mp (List.mem_of_getLast? last)
      rw [last] at printed
      refine ⟨other, member, ?_⟩
      rwa [BoardFile.trees, own]

theorem assigned_of_tree (f : BoardFile) (tree : Text) (listed : tree ∈ f.trees) :
    ∃ value, f.DEVICETREE = some value ∧ tree ∈ deviceTrees value := by
  cases own : f.DEVICETREE with
  | none =>
      rw [BoardFile.trees, own] at listed
      exact absurd listed List.not_mem_nil
  | some value =>
      rw [BoardFile.trees, own] at listed
      exact ⟨value, rfl, listed⟩

/-- The tests of the loop on what a file meets. -/
theorem Distinguished.selects_iff {boards : List BoardFile} (distinguished : Distinguished boards)
    (earlier : List BoardFile) (f : BoardFile) (placed : (f :: earlier).Subperm boards)
    (board : BoardFile) (built : board ∈ boards) :
    selects board (source (earlier.foldl source unset) f) = true ↔
      LINUX_IMAGE f = LINUX_IMAGE board := by
  rw [source_met, selects]
  by_cases switch : met BoardFile.COMMON_PKG earlier f = ("true" : Text)
  · rw [if_pos switch, beq_iff_eq]
    exact distinguished.common earlier f placed board built switch
  · rw [if_neg switch, beq_iff_eq]
    exact distinguished.series earlier f placed board built switch

theorem Distinguished.depends {boards : List BoardFile} (distinguished : Distinguished boards)
    (lent : Lent boards) : DependsOnPackage boards := by
  intro order same board built tree
  rw [mem_dtclist]
  constructor
  · rintro ⟨earlier, f, later, rfl, picked, printed⟩
    have placed := subperm_of_order boards earlier later f same
    have package := (distinguished.selects_iff earlier f placed board built).mp picked
    cases own : f.DEVICETREE with
    | none =>
        obtain ⟨other, member, listed⟩ := met_lent earlier f own tree printed
        have pair : [f, other].Subperm boards :=
          ((List.singleton_sublist.mpr member).cons_cons f).subperm.trans placed
        rw [← package]
        exact lent f other pair own tree listed
    | some value =>
        rw [met_assigned BoardFile.DEVICETREE earlier f value own] at printed
        refine ⟨f, placed.subset List.mem_cons_self, package, ?_⟩
        rwa [BoardFile.trees, own]
  · rintro ⟨f, file, package, listed⟩
    obtain ⟨earlier, later, rfl⟩ := List.append_of_mem (same.symm.subset file)
    have placed := subperm_of_order boards earlier later f same
    obtain ⟨value, own, printed⟩ := assigned_of_tree f tree listed
    refine ⟨earlier, f, later, rfl, ?_, ?_⟩
    · exact (distinguished.selects_iff earlier f placed board built).mpr package
    · rwa [met_assigned BoardFile.DEVICETREE earlier f value own]

theorem Distinguished.lent {boards : List BoardFile} (distinguished : Distinguished boards)
    (depends : DependsOnPackage boards) : Lent boards := by
  intro f other pair lends tree listed
  obtain ⟨later, same⟩ := order_of_subperm boards [other] f pair
  have built := pair.subset List.mem_cons_self
  apply (depends _ same f built tree).mp
  refine (mem_dtclist f _ tree).mpr ⟨[other], f, later, rfl, ?_, ?_⟩
  · exact (distinguished.selects_iff [other] f pair f built).mpr rfl
  · obtain ⟨value, own, printed⟩ := assigned_of_tree other tree listed
    rwa [met, lends, List.filterMap_cons_some own]

/-- The device tree of one file is printed for that file alone. -/
theorem OwnTrees.selected_iff {boards : List BoardFile} (owned : OwnTrees boards)
    (earlier later : List BoardFile) (f : BoardFile) (same : (earlier ++ f :: later).Perm boards)
    (board : BoardFile) (tree : Text) (listed : tree ∈ f.trees)
    (alone : ∀ other ∈ boards, tree ∈ other.trees → other = f) :
    tree ∈ dtclist board (earlier ++ f :: later) ↔
      selects board (source (earlier.foldl source unset) f) = true := by
  have once := List.nodup_middle.mp (same.symm.nodup owned.once)
  have absent := (List.nodup_cons.mp once).1
  rw [List.mem_append, not_or] at absent
  rw [mem_dtclist]
  constructor
  · rintro ⟨before, other, behind, split, picked, printed⟩
    have there : other ∈ boards := by
      apply same.subset
      rw [split]
      exact List.mem_append_right before List.mem_cons_self
    obtain ⟨_, listsOwn, -⟩ := owned.own other there
    obtain ⟨value, own, -⟩ := assigned_of_tree other _ listsOwn
    rw [met_assigned BoardFile.DEVICETREE before other value own] at printed
    have one : other = f := by
      apply alone other there
      rwa [BoardFile.trees, own]
    rw [one] at split picked
    obtain ⟨places, -⟩ := (List.append_cons_inj_of_notMem absent.1 absent.2).mp split
    rwa [places]
  · intro picked
    obtain ⟨value, own, printed⟩ := assigned_of_tree f tree listed
    refine ⟨earlier, f, later, rfl, picked, ?_⟩
    rwa [met_assigned BoardFile.DEVICETREE earlier f value own]

/-- Where every file has a device tree of its own, a wrong test shows in the list. -/
theorem OwnTrees.tests {boards : List BoardFile} (owned : OwnTrees boards)
    (depends : DependsOnPackage boards) (earlier : List BoardFile) (f : BoardFile)
    (placed : (f :: earlier).Subperm boards) (board : BoardFile) (built : board ∈ boards) :
    selects board (source (earlier.foldl source unset) f) = true ↔
      LINUX_IMAGE f = LINUX_IMAGE board := by
  have file := placed.subset List.mem_cons_self
  obtain ⟨later, same⟩ := order_of_subperm boards earlier f placed
  obtain ⟨tree, listed, alone⟩ := owned.own f file
  rw [← owned.selected_iff earlier later f same board tree listed alone,
    depends _ same board built tree]
  constructor
  · rintro ⟨other, there, package, found⟩
    rwa [alone other there found] at package
  · intro package
    exact ⟨f, file, package, listed⟩

theorem OwnTrees.distinguished {boards : List BoardFile} (owned : OwnTrees boards)
    (depends : DependsOnPackage boards) : Distinguished boards := by
  constructor
  · intro earlier f placed board built switch
    have tests := owned.tests depends earlier f placed board built
    rwa [source_met, selects, if_pos switch, beq_iff_eq] at tests
  · intro earlier f placed board built switch
    have tests := owned.tests depends earlier f placed board built
    rwa [source_met, selects, if_neg switch, beq_iff_eq] at tests

theorem OwnTrees.lent {boards : List BoardFile} (owned : OwnTrees boards) : Lent boards := by
  intro f other pair lends
  obtain ⟨tree, listed, -⟩ := owned.own f (pair.subset List.mem_cons_self)
  obtain ⟨value, own, -⟩ := assigned_of_tree f tree listed
  rw [lends] at own
  cases own

/-- Two boards of one package then get the same device trees, whatever the orders. -/
theorem same_trees (boards : List BoardFile) (depends : DependsOnPackage boards)
    (order other : List BoardFile) (one : order.Perm boards) (two : other.Perm boards)
    (first second : BoardFile) (firstBoard : first ∈ boards) (secondBoard : second ∈ boards)
    (package : LINUX_IMAGE first = LINUX_IMAGE second) (tree : Text) :
    tree ∈ dtclist first order ↔ tree ∈ dtclist second other := by
  rw [depends order one first firstBoard, depends other two second secondBoard, package]

/-- COMMON_PKG as the file itself assigns it. -/
def BoardFile.common (f : BoardFile) : Prop := f.COMMON_PKG = some ("true" : Text)

/-- No variable is left to an earlier file, and the switch of the file that is read
tells as much about the name as the switch of the board that is built. -/
structure Explicit (boards : List BoardFile) : Prop where
  assigned : ∀ f ∈ boards, f.COMMON_PKG ≠ none ∧ f.COMMON_PKGNAME ≠ none ∧ f.DEVICETREE ≠ none
  names : ∀ f ∈ boards, ∀ board ∈ boards, f.common → ¬ board.common →
    (f.COMMON_PKGNAME = board.COMMON_PKGNAME ↔ f.COMMON_PKGNAME = some board.SERIES)
  series : ∀ f ∈ boards, ∀ board ∈ boards, ¬ f.common → board.common →
    (f.SERIES = board.SERIES ↔ some f.SERIES = board.COMMON_PKGNAME)

/-- What the package is called after. -/
def BoardFile.packageKey (f : BoardFile) : Text :=
  if f.COMMON_PKG = some ("true" : Text) then f.COMMON_PKGNAME.getD [] else f.SERIES

theorem LINUX_IMAGE_eq_iff (f board : BoardFile) :
    LINUX_IMAGE f = LINUX_IMAGE board ↔ f.packageKey = board.packageKey := by
  have name (board : BoardFile) :
      LINUX_IMAGE board = ("linux-image-" : Text) ++ board.packageKey := by
    unfold LINUX_IMAGE BoardFile.packageKey
    split <;> rfl
  rw [name, name, List.append_cancel_left_eq]

theorem packageKey_common (f : BoardFile) (common : f.common) :
    f.packageKey = f.COMMON_PKGNAME.getD [] := if_pos common

theorem packageKey_series (f : BoardFile) (plain : ¬ f.common) : f.packageKey = f.SERIES :=
  if_neg plain

/-- With nothing left over no file is taken for one of another package. -/
theorem Explicit.distinguished {boards : List BoardFile} (explicit : Explicit boards) :
    Distinguished boards := by
  constructor
  · intro earlier f placed board built switched
    have file := placed.subset List.mem_cons_self
    obtain ⟨switch, name, -⟩ := explicit.assigned f file
    obtain ⟨COMMON_PKG, own⟩ := Option.ne_none_iff_exists'.mp switch
    obtain ⟨COMMON_PKGNAME, ownName⟩ := Option.ne_none_iff_exists'.mp name
    rw [met_assigned BoardFile.COMMON_PKG earlier f COMMON_PKG own] at switched
    rw [met_assigned BoardFile.COMMON_PKGNAME earlier f COMMON_PKGNAME ownName, LINUX_IMAGE_eq_iff]
    have common : f.common := own.trans (congrArg some switched)
    rw [packageKey_common f common, ownName, Option.getD_some]
    by_cases other : board.common
    · rw [packageKey_common board other]
    · rw [packageKey_series board other]
      obtain ⟨FIND, boardName⟩ := Option.ne_none_iff_exists'.mp (explicit.assigned board built).2.1
      have names := explicit.names f file board built common other
      rw [ownName, boardName, Option.some_inj, Option.some_inj] at names
      rwa [boardName, Option.getD_some]
  · intro earlier f placed board built switched
    have file := placed.subset List.mem_cons_self
    obtain ⟨switch, -, -⟩ := explicit.assigned f file
    obtain ⟨COMMON_PKG, own⟩ := Option.ne_none_iff_exists'.mp switch
    rw [met_assigned BoardFile.COMMON_PKG earlier f COMMON_PKG own] at switched
    have plain : ¬ f.common := fun common => switched (Option.some.inj (own.symm.trans common))
    rw [LINUX_IMAGE_eq_iff, packageKey_series f plain]
    by_cases common : board.common
    · rw [packageKey_common board common]
      obtain ⟨FIND, boardName⟩ := Option.ne_none_iff_exists'.mp (explicit.assigned board built).2.1
      have series := explicit.series f file board built plain common
      rw [boardName, Option.some_inj] at series
      rwa [boardName, Option.getD_some]
    · rw [packageKey_series board common]

/-- A way to write board files for which the list is right. -/
theorem dependsOnPackage_of_explicit (boards : List BoardFile) (explicit : Explicit boards) :
    DependsOnPackage boards := by
  apply explicit.distinguished.depends
  intro f other pair lends
  exact absurd lends (explicit.assigned f (pair.subset List.mem_cons_self)).2.2

/-- A board of the common package, and one that leaves the switch alone. -/
def common : BoardFile where
  SERIES := "meson-gxl"
  COMMON_PKG := some "true"
  COMMON_PKGNAME := some "amlogic"
  DEVICETREE := some "meson-gxl-s905x-libretech-cc.dtb"

def plain : BoardFile where
  SERIES := "exynos5422"
  COMMON_PKG := none
  COMMON_PKGNAME := none
  DEVICETREE := some "exynos5422-odroidxu4.dtb"

end ImageBuilder.Dtclist
