import ImageBuilder.PlainText
import Mathlib.Data.List.Nodup

set_option autoImplicit false

/- uboot_patching: which patches of ${UBOOT_PATCHDIR}/${UBOOT_VERSION} are applied,
and in what order. -/
namespace ImageBuilder.Patching

open PlainText

/-- A directory name as board.txt has them: one word, and nothing the shell expands. -/
@[ext]
structure DirName where
  text : Text
  nonempty : text ≠ []
  solid : ∀ c ∈ text, isBlank c = false ∧ c ∉ ['/', '*', '?', '[', '\\']

instance : DecidableEq DirName := fun _ _ => decidable_of_iff _ DirName.ext_iff.symm

/-- `all` -/
def all : DirName := ⟨"all", by decide, by decide⟩

/-- A directory with its files; a name may hold blanks, but nothing the shell expands. -/
structure Dir where
  files : List Text
  distinct : files.Nodup
  literal : ∀ file ∈ files, ∀ c ∈ file, c ∉ ['/', '*', '?', '[', '\\']

/-- The directories under ${UBOOT_PATCHDIR}/${UBOOT_VERSION}. -/
abbrev Tree := DirName → Option Dir

/-- The order in which the shell lists names. -/
structure Collation where
  le : Text → Text → Bool
  trans : ∀ a b c, le a b → le b c → le a c
  total : ∀ a b, le a b || le b a

/-- `*.patch` -/
def isPatch (file : Text) : Bool := (".patch" : Text).isSuffixOf file && file.head? != some '.'

/-- `dir/*.patch`, nothing if the directory is not there. -/
def glob (order : Collation) (tree : Tree) (dir : DirName) : List (DirName × Text) :=
  match tree dir with
  | none => []
  | some content => ((content.files.filter isPatch).mergeSort order.le).map fun file => (dir, file)

/-- The names that board.txt gives. -/
structure Names where
  BOARD : DirName
  FAMILY : DirName
  FAMILY_EXT : DirName
  SERIES : DirName

variable (order : Collation) (names : Names) (tree : Tree)

/-- `patch -N -p1 < $i`: a redirection to more than one word is an error, and the
loop goes on. -/
def patchable (patch : DirName × Text) : Bool := patch.2.all fun c => !isBlank c

/-- The loop over one directory. -/
def applyDir (dir : DirName) : List (DirName × Text) := (glob order tree dir).filter patchable

/-- The outer test. -/
def anyPatches : Bool :=
  (tree names.BOARD).isSome || (tree names.FAMILY_EXT).isSome || (tree names.SERIES).isSome ||
    !(glob order tree all).isEmpty

/-- The patches that uboot_patching applies, in order. -/
def uboot_patching : List (DirName × Text) :=
  if anyPatches order names tree then
    (if !(glob order tree names.BOARD).isEmpty then applyDir order tree names.BOARD
      else if !(glob order tree names.FAMILY).isEmpty then applyDir order tree names.FAMILY
      else if !(glob order tree names.FAMILY_EXT).isEmpty then applyDir order tree names.FAMILY_EXT
      else if !(glob order tree names.SERIES).isEmpty then applyDir order tree names.SERIES
      else []) ++
    (if !(glob order tree all).isEmpty then applyDir order tree all else [])
  else []

/-- The chain of names. -/
def Names.chain : List DirName := [names.BOARD, names.FAMILY, names.FAMILY_EXT, names.SERIES]

/-- The first of them with a patch. -/
def first : Option DirName := names.chain.find? fun dir => !(glob order tree dir).isEmpty

/-- What is meant: the first directory, then `all`. -/
def intended : List (DirName × Text) :=
  ((first order names tree).elim [] (glob order tree)) ++ glob order tree all

/-- Each intended patch, once, in its place; nothing only where there is nothing. -/
structure AppliesEachOnce : Prop where
  inPlace : uboot_patching order names tree = intended order names tree
  once : (uboot_patching order names tree).Nodup
  nothing : uboot_patching order names tree = [] →
    ∀ dir ∈ all :: names.chain, glob order tree dir = []

/-- The trees that get what they hold. -/
structure Applicable : Prop where
  noticed : anyPatches order names tree = true ∨ glob order tree names.FAMILY = []
  words : ∀ patch ∈ intended order names tree, patchable patch = true
  apart : first order names tree ≠ some all

variable {order names tree}

/-- Within a directory the patches come in file-name order, all of them. -/
theorem glob_sorted (order : Collation) (tree : Tree) (dir : DirName) :
    (glob order tree dir).Pairwise fun one other => order.le one.2 other.2 = true := by
  unfold glob
  cases tree dir with
  | none => exact .nil
  | some content =>
    have sorted := List.pairwise_mergeSort order.trans order.total (content.files.filter isPatch)
    exact List.pairwise_map.mpr sorted

theorem mem_glob (order : Collation) (tree : Tree) (dir : DirName) (patch : DirName × Text) :
    patch ∈ glob order tree dir ↔ patch.1 = dir ∧
      ∃ content, tree dir = some content ∧ patch.2 ∈ content.files ∧ isPatch patch.2 = true := by
  unfold glob
  cases tree dir with
  | none => simp
  | some content =>
    simp only [List.mem_map, List.mem_mergeSort, List.mem_filter, Option.some.injEq]
    refine ⟨?_, ?_⟩
    · rintro ⟨file, here, rfl⟩
      exact ⟨rfl, content, rfl, here⟩
    · rintro ⟨same, _, rfl, here⟩
      exact ⟨patch.2, here, Prod.ext same.symm rfl⟩

theorem glob_nodup (order : Collation) (tree : Tree) (dir : DirName) :
    (glob order tree dir).Nodup := by
  unfold glob
  cases tree dir with
  | none => exact List.nodup_nil
  | some content =>
    apply List.Nodup.map (fun _ _ same => (Prod.mk.inj same).2)
    rw [(List.mergeSort_perm _ _).nodup_iff]
    exact content.distinct.filter _

/-- A directory that is not there has no patches. -/
theorem glob_of_none {dir : DirName} (absent : tree dir = none) : glob order tree dir = [] := by
  unfold glob
  rw [absent]

/-- The chain of tests finds the first directory with a patch. -/
theorem chain_eq :
    (if !(glob order tree names.BOARD).isEmpty then applyDir order tree names.BOARD
      else if !(glob order tree names.FAMILY).isEmpty then applyDir order tree names.FAMILY
      else if !(glob order tree names.FAMILY_EXT).isEmpty then applyDir order tree names.FAMILY_EXT
      else if !(glob order tree names.SERIES).isEmpty then applyDir order tree names.SERIES
      else []) =
      ((first order names tree).elim [] (glob order tree)).filter patchable := by
  unfold first Names.chain
  simp only [List.find?]
  cases board : !(glob order tree names.BOARD).isEmpty with
  | true => rfl
  | false =>
    cases family : !(glob order tree names.FAMILY).isEmpty with
    | true => rfl
    | false =>
      cases extended : !(glob order tree names.FAMILY_EXT).isEmpty with
      | true => rfl
      | false =>
        cases series : !(glob order tree names.SERIES).isEmpty with
        | true => rfl
        | false => rfl

theorem uboot_patching_eq (noticed : anyPatches order names tree = true) :
    uboot_patching order names tree = (intended order names tree).filter patchable := by
  unfold uboot_patching intended
  rw [if_pos noticed, chain_eq, List.filter_append]
  congr 1
  split
  · rfl
  · rename_i empty
    have none : glob order tree all = [] := by simpa using empty
    rw [none]
    rfl

/-- A run that notices no directory can only miss the patches of FAMILY. -/
theorem intended_of_unnoticed (unnoticed : anyPatches order names tree ≠ true) :
    intended order names tree = glob order tree names.FAMILY := by
  simp only [anyPatches, Bool.not_eq_true, Bool.or_eq_false_iff, Option.isSome_eq_false_iff,
    Option.isNone_iff_eq_none, Bool.not_eq_false', List.isEmpty_iff] at unnoticed
  obtain ⟨⟨⟨board, extended⟩, series⟩, common⟩ := unnoticed
  have boards : glob order tree names.BOARD = [] := glob_of_none board
  have extensions : glob order tree names.FAMILY_EXT = [] := glob_of_none extended
  have members : glob order tree names.SERIES = [] := glob_of_none series
  unfold intended first Names.chain
  rw [common, List.append_nil, List.find?_cons_of_neg (by simp [boards])]
  by_cases family : glob order tree names.FAMILY = []
  · rw [List.find?_cons_of_neg (by simp [family]), List.find?_cons_of_neg (by simp [extensions]),
      List.find?_cons_of_neg (by simp [members]), family]
    rfl
  · rw [List.find?_cons_of_pos (by simp [family])]
    rfl

theorem intended_nodup_iff : (intended order names tree).Nodup ↔
    first order names tree ≠ some all ∨ glob order tree all = [] := by
  unfold intended
  cases found : first order names tree with
  | none => simp [glob_nodup]
  | some dir =>
    rw [List.nodup_append]
    refine ⟨fun both => ?_, fun apart => ⟨glob_nodup order tree dir, glob_nodup order tree all, ?_⟩⟩
    · by_cases same : dir = all
      · subst same
        refine .inr (List.eq_nil_iff_forall_not_mem.mpr fun patch member => ?_)
        exact both.2.2 patch member patch member rfl
      · exact .inl fun is => same (Option.some.inj is)
    · intro one own other common same
      subst same
      have here := ((mem_glob order tree dir one).mp own).1
      have there := ((mem_glob order tree all one).mp common).1
      rcases apart with different | none
      · exact different (congrArg some (here.symm.trans there))
      · rw [none] at common
        cases common

/-- The first directory has a patch. -/
theorem glob_first {dir : DirName} (found : first order names tree = some dir) :
    glob order tree dir ≠ [] := by
  have holds := List.find?_some found
  simpa using holds

theorem glob_of_intended_nil (nothing : intended order names tree = []) :
    ∀ dir ∈ all :: names.chain, glob order tree dir = [] := by
  obtain ⟨own, common⟩ := List.append_eq_nil_iff.mp nothing
  intro dir member
  rcases List.mem_cons.mp member with rfl | listed
  · exact common
  · cases found : first order names tree with
    | none =>
      have fails := List.find?_eq_none.mp found dir listed
      simpa using fails
    | some chosen =>
      rw [found] at own
      exact absurd own (glob_first found)

/-- Exactly these trees get each of their patches once. -/
theorem appliesEachOnce_iff (order : Collation) (names : Names) (tree : Tree) :
    AppliesEachOnce order names tree ↔ Applicable order names tree := by
  refine ⟨fun applies => ?_, fun applicable => ?_⟩
  · have apart : first order names tree ≠ some all := by
      have once := applies.once
      rw [applies.inPlace, intended_nodup_iff] at once
      intro is
      rcases once with different | none
      · exact different is
      · exact glob_first is none
    by_cases noticed : anyPatches order names tree = true
    · refine ⟨.inl noticed, ?_, apart⟩
      have same := applies.inPlace
      rw [uboot_patching_eq noticed, List.filter_eq_self] at same
      exact same
    · have same := applies.inPlace
      rw [uboot_patching, if_neg noticed] at same
      have family : glob order tree names.FAMILY = [] :=
        (intended_of_unnoticed noticed).symm.trans same.symm
      refine ⟨.inr family, ?_, apart⟩
      rw [← same]
      exact fun _ member => nomatch member
  · have same : uboot_patching order names tree = intended order names tree := by
      by_cases noticed : anyPatches order names tree = true
      · rw [uboot_patching_eq noticed, List.filter_eq_self]
        exact applicable.words
      · rw [uboot_patching, if_neg noticed, intended_of_unnoticed noticed]
        exact (applicable.noticed.resolve_left noticed).symm
    refine ⟨same, ?_, ?_⟩
    · rw [same, intended_nodup_iff]
      exact .inl applicable.apart
    · rw [same]
      exact glob_of_intended_nil

/-- File names in the order of their characters. -/
def byCharacter : Collation where
  le one other := decide (@LE.le Text List.instLE one other)
  trans a b c ab bc := by
    simp only [decide_eq_true_eq] at ab bc ⊢
    exact List.le_trans ab bc
  total a b := by
    simp only [Bool.or_eq_true, decide_eq_true_eq]
    exact List.le_total a b

/-- A board of the rockchip family. -/
def rockchipNames : Names where
  BOARD := ⟨"nanopir3s", by decide, by decide⟩
  FAMILY := ⟨"rockchip", by decide, by decide⟩
  FAMILY_EXT := ⟨"rk356x", by decide, by decide⟩
  SERIES := ⟨"rk3566", by decide, by decide⟩

/-- Only the directory of the family has patches. -/
def familyOnly : Tree := fun dir =>
  if dir = rockchipNames.FAMILY then some ⟨["0001-fix.patch"], by decide, by decide⟩ else none

theorem family_patches_dropped : ¬ ∀ (order : Collation) (names : Names) (tree : Tree),
    AppliesEachOnce order names tree := by
  intro applies
  have skipped : uboot_patching byCharacter rockchipNames familyOnly = [] := by decide
  have nothing := (applies byCharacter rockchipNames familyOnly).nothing skipped
    rockchipNames.FAMILY (by decide)
  have found : (rockchipNames.FAMILY, ("0001-fix.patch" : Text)) ∈
      glob byCharacter familyOnly rockchipNames.FAMILY :=
    (mem_glob ..).mpr ⟨rfl, _, rfl, by decide, by decide⟩
  rw [nothing] at found
  cases found

end ImageBuilder.Patching
