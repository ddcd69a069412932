import ImageBuilder.Numerals

set_option autoImplicit false

/- The kernel version that is built: resolve_version from the Makefile of a stable
branch, and the series that names the patch directory. -/
namespace ImageBuilder.Kernel

open PlainText Numerals

/-- What the builder reads from kernel.org: the Makefile of a branch, if it is
served, and the three versions of the front page. -/
structure KernelOrg where
  makefile : Text → Option (List Text)
  NEXT : Text
  STABLE : Text
  RC : Text

/-- `grep -m1 word` -/
def grepM1 (word : Text) (lines : List Text) : List Text :=
  (lines.find? (grepLine word)).toList

/-- `grep -x ".0"` on one line. -/
def isDotZero : Text → Bool
  | [_, zero] => zero == '0'
  | _ => false

/-- revision.txt without its line ends. -/
def revision (lines : List Text) : Text :=
  let version := (grepM1 ("VERSION" : Text) lines).map (replaceAll ("VERSION = " : Text) [])
  let patchlevel :=
    (grepM1 ("PATCHLEVEL" : Text) lines).map (replaceAll ("PATCHLEVEL = " : Text) ['.'])
  let sublevel := (grepM1 ("SUBLEVEL" : Text) lines).map (replaceAll ("SUBLEVEL = " : Text) ['.'])
  let extraversion := (grepM1 ("EXTRAVERSION" : Text) lines).map fun line =>
    replaceAll [' '] [] (replaceAll ("EXTRAVERSION =" : Text) [] line)
  version.flatten ++ patchlevel.flatten ++
    (if sublevel.any isDotZero then [] else sublevel.flatten) ++ extraversion.flatten

/-- `^([0-9].[0-9].y|[0-9].[0-9][0-9].y)$`, where a dot is any character. -/
def isBranch : Text → Bool
  | [M, _, m, _, 'y'] => M.isDigit && m.isDigit
  | [M, _, m, n, _, 'y'] => M.isDigit && m.isDigit && n.isDigit
  | _ => false

def KERNEL : Text := "linux"

def resolve_version (org : KernelOrg) (VERSION : Text) : Text :=
  if isBranch VERSION then
    match org.makefile (KERNEL ++ '-' :: VERSION) with
    | some lines => revision lines
    | none => VERSION
  else if VERSION = ("next" : Text) then org.NEXT
  else if VERSION = ("stable" : Text) then org.STABLE
  else if VERSION = ("rc" : Text) then org.RC
  else VERSION

/-- `sed -r 's/\.$//'` -/
def stripDot (line : Text) : Text := if line.getLast? = some '.' then line.dropLast else line

/-- scripts/linux: four characters, without `-` and without a dot at the end. -/
def LINUX_VERSION (VERSION : Text) : Text := stripDot (replaceAll ['-'] [] (VERSION.take 4))

/-- The four lines as the kernel's Makefile has them; an empty `EXTRAVERSION` may
lack the blank behind the equals sign. -/
structure Assignments (lines : List Text) (M m s : Nat) (e : Text) : Prop where
  version : lines.find? (grepLine ("VERSION" : Text)) = some (("VERSION = " : Text) ++ decimal M)
  patchlevel : lines.find? (grepLine ("PATCHLEVEL" : Text)) =
    some (("PATCHLEVEL = " : Text) ++ decimal m)
  sublevel : lines.find? (grepLine ("SUBLEVEL" : Text)) = some (("SUBLEVEL = " : Text) ++ decimal s)
  extraversion : lines.find? (grepLine ("EXTRAVERSION" : Text)) =
      some (("EXTRAVERSION = " : Text) ++ e) ∨
    e = [] ∧ lines.find? (grepLine ("EXTRAVERSION" : Text)) = some ("EXTRAVERSION =" : Text)

/-- `M.m` -/
def series (M m : Nat) : Text := decimal M ++ '.' :: decimal m

/-- `M.m`, or `M.m.s` where the sublevel is not zero. -/
def release (M m s : Nat) : Text := series M m ++ if s = 0 then [] else '.' :: decimal s

/-- What is left of the extra version. -/
def unspaced (e : Text) : Text := replaceAll [' '] [] (replaceAll ("EXTRAVERSION =" : Text) [] e)

theorem replaceAll_numeral (name replacement : Text) (n : Nat) (c : Char)
    (first : name.head? = some c) (letter : c.isDigit = false) :
    replaceAll name replacement (name ++ decimal n) = replacement ++ decimal n := by
  have nonempty : name ≠ [] := by
    intro empty
    rw [empty] at first
    cases first
  apply replaceAll_head name replacement (decimal n) nonempty
  intro found
  exact not_mem_decimal n letter (found.subset (List.mem_of_head? first))

/-- Only `0` itself is recognised as a zero sublevel. -/
theorem isDotZero_iff (s : Nat) : isDotZero ('.' :: decimal s) = true ↔ s = 0 := by
  by_cases small : s < 10
  · have digits : ∀ s < 10, isDotZero ['.', s.digitChar] = true ↔ s = 0 := by decide
    rw [decimal_small s small]
    exact digits s small
  · have tens : 10 ≤ s := by omega
    rw [decimal_large s tens]
    have several : isDotZero ('.' :: (decimal (s / 10) ++ [(s % 10).digitChar])) = false := by
      cases digits : decimal (s / 10) with
      | nil => exact absurd digits (decimal_ne_nil _)
      | cons first more =>
          cases more with
          | nil => rfl
          | cons second more => rfl
    rw [several]
    constructor
    · intro wrong
      cases wrong
    · intro zero
      omega

theorem unspaced_line (e : Text) :
    replaceAll [' '] []
        (replaceAll ("EXTRAVERSION =" : Text) [] (("EXTRAVERSION = " : Text) ++ e)) =
      unspaced e := by
  have split : ("EXTRAVERSION = " : Text) ++ e = ("EXTRAVERSION =" : Text) ++ ' ' :: e := rfl
  have blank : ¬ ("EXTRAVERSION =" : Text) <+: ' ' :: e := by
    intro found
    exact absurd (List.cons_prefix_cons.mp found).1 (by decide)
  rw [split, replaceAll_append _ _ _ (by decide), List.nil_append,
    replaceAll_cons _ _ _ _ blank, unspaced, replaceAll_delete, replaceAll_delete]
  exact List.filter_cons_of_neg (by decide)

theorem revision_eq (lines : List Text) (M m s : Nat) (e : Text)
    (assigned : Assignments lines M m s e) : revision lines = release M m s ++ unspaced e := by
  have version := replaceAll_numeral ("VERSION = " : Text) [] M 'V' rfl (by decide)
  have patchlevel := replaceAll_numeral ("PATCHLEVEL = " : Text) ['.'] m 'P' rfl (by decide)
  have sublevel := replaceAll_numeral ("SUBLEVEL = " : Text) ['.'] s 'S' rfl (by decide)
  have extraversion : ((grepM1 ("EXTRAVERSION" : Text) lines).map fun line =>
      replaceAll [' '] [] (replaceAll ("EXTRAVERSION =" : Text) [] line)).flatten =
        unspaced e := by
    rcases assigned.extraversion with found | ⟨rfl, found⟩
    · rw [grepM1, found, Option.toList_some, List.map_singleton, unspaced_line,
        List.flatten_singleton]
    · rw [grepM1, found]
      rfl
  unfold revision
  dsimp only
  rw [extraversion]
  simp only [grepM1, assigned.version, assigned.patchlevel, assigned.sublevel, version, patchlevel,
    sublevel, Option.toList_some, List.map_singleton, List.flatten_singleton, List.any_cons,
    List.any_nil, Bool.or_false, List.nil_append, List.singleton_append, isDotZero_iff]
  rw [release, series, List.append_assoc, List.append_assoc]

/-- An extra version keeps its dash. -/
theorem unspaced_dash (rest : Text) : ∃ more, unspaced ('-' :: rest) = '-' :: more := by
  have dash : ¬ ("EXTRAVERSION =" : Text) <+: '-' :: rest := by
    intro found
    exact absurd (List.cons_prefix_cons.mp found).1 (by decide)
  rw [unspaced, replaceAll_cons _ _ _ _ dash, replaceAll_delete]
  exact ⟨_, List.filter_cons_of_pos (by decide)⟩

/-- Nothing else is left without blanks, and nothing else has none. -/
theorem unspaced_eq_iff (e : Text) : unspaced e = e ↔ ' ' ∉ e := by
  constructor
  · intro same
    rw [← same, unspaced, replaceAll_delete]
    simp
  · intro plain
    have absent : ¬ ("EXTRAVERSION =" : Text) <:+: e := fun found =>
      plain (found.subset (by decide))
    rw [unspaced, replaceAll_of_absent _ _ _ absent, replaceAll_delete]
    apply List.filter_eq_self.mpr
    intro c member
    rw [bne_iff_ne]
    intro blank
    exact plain (blank ▸ member)

/-- Four characters reach the end of the series and at most one dot or dash beyond. -/
theorem LINUX_VERSION_eq (M m : Nat) (one : M < 10) (two : m < 100) (rest : Text)
    (start : ∀ c, rest.head? = some c → c = '.' ∨ c = '-') :
    LINUX_VERSION (series M m ++ rest) = series M m := by
  have digit : ∀ d < 10, (d.digitChar != '-') = true ∧ d.digitChar ≠ '.' := by decide
  have dot : ('.' != '-') = true := by decide
  unfold LINUX_VERSION series
  rw [replaceAll_delete, decimal_small M one]
  by_cases small : m < 10
  · rw [decimal_small m small]
    have cut : ([M.digitChar] ++ '.' :: [m.digitChar] ++ rest).take 4 =
        M.digitChar :: '.' :: m.digitChar :: rest.take 1 := rfl
    rw [cut]
    simp only [List.filter_cons, digit M one, dot, digit m small, ↓reduceIte]
    cases rest with
    | nil => exact if_neg fun last => (digit m small).2 (Option.some.inj last)
    | cons c more =>
        rcases start c rfl with rfl | rfl
        · rfl
        · exact if_neg fun last => (digit m small).2 (Option.some.inj last)
  · have high : m / 10 < 10 := by omega
    have low : m % 10 < 10 := by omega
    rw [decimal_large m (by omega), decimal_small (m / 10) high]
    have cut : ([M.digitChar] ++ '.' :: ([(m / 10).digitChar] ++ [(m % 10).digitChar]) ++
        rest).take 4 = [M.digitChar, '.', (m / 10).digitChar, (m % 10).digitChar] := rfl
    rw [cut]
    simp only [List.filter_cons, List.filter_nil, digit M one, dot, digit _ high, digit _ low,
      ↓reduceIte]
    exact if_neg fun last => (digit _ low).2 (Option.some.inj last)

/-- What follows the series begins with a dot or a dash. -/
theorem release_rest (M m s : Nat) (e : Text) (dash : ∀ c, e.head? = some c → c = '-') :
    ∃ rest : Text, release M m s ++ unspaced e = series M m ++ rest ∧
      ∀ c, rest.head? = some c → c = '.' ∨ c = '-' := by
  refine ⟨(if s = 0 then [] else '.' :: decimal s) ++ unspaced e, List.append_assoc _ _ _, ?_⟩
  split
  · rw [List.nil_append]
    intro c first
    cases e with
    | nil => cases first
    | cons d more =>
        obtain ⟨rest, kept⟩ := unspaced_dash more
        rw [dash d rfl, kept] at first
        exact Or.inr (Option.some.inj first).symm
  · intro c first
    exact Or.inl (Option.some.inj first).symm

/-- The revision of a branch is the release of its Makefile, with the blanks of the
extra version removed, and the patch directory is always the series. -/
theorem resolve_version_eq (org : KernelOrg) (VERSION : Text) (branch : isBranch VERSION = true)
    (lines : List Text) (served : org.makefile (KERNEL ++ '-' :: VERSION) = some lines)
    (M m s : Nat) (one : M < 10) (two : m < 100) (e : Text)
    (dash : ∀ c, e.head? = some c → c = '-') (assigned : Assignments lines M m s e) :
    resolve_version org VERSION = release M m s ++ unspaced e ∧
    (resolve_version org VERSION = release M m s ++ e ↔ ' ' ∉ e) ∧
    LINUX_VERSION (resolve_version org VERSION) = series M m := by
  have resolved : resolve_version org VERSION = release M m s ++ unspaced e := by
    rw [resolve_version, if_pos branch, served]
    exact revision_eq lines M m s e assigned
  obtain ⟨rest, split, start⟩ := release_rest M m s e dash
  refine ⟨resolved, ?_, ?_⟩
  · rw [resolved, List.append_cancel_left_eq]
    exact unspaced_eq_iff e
  · rw [resolved, split]
    exact LINUX_VERSION_eq M m one two rest start

/-- The head of a Makefile. -/
def makefile (SUBLEVEL EXTRAVERSION : Text) : List Text :=
  ["# SPDX-License-Identifier: GPL-2.0", "VERSION = 6", "PATCHLEVEL = 12",
    ("SUBLEVEL = " : Text) ++ SUBLEVEL, ("EXTRAVERSION = " : Text) ++ EXTRAVERSION,
    "NAME = Baby Opossum Posse"]

def serving (lines : List Text) : KernelOrg where
  makefile := fun name => if name = ("linux-6.12.y" : Text) then some lines else none
  NEXT := []
  STABLE := []
  RC := []

theorem first_candidate :
    resolve_version (serving (makefile ("0" : Text) ("-rc1" : Text))) ("6.12.y" : Text) =
      ("6.12-rc1" : Text) ∧
    LINUX_VERSION ("6.12-rc1" : Text) = ("6.12" : Text) := by
  have assigned : Assignments (makefile ("0" : Text) ("-rc1" : Text)) 6 12 0 ("-rc1" : Text) :=
    ⟨by decide, by decide, by decide, Or.inl (by decide)⟩
  have dash : ∀ c, ("-rc1" : Text).head? = some c → c = '-' := by
    intro c start
    exact (Option.some.inj start).symm
  obtain ⟨-, whole, patches⟩ := resolve_version_eq
    (serving (makefile ("0" : Text) ("-rc1" : Text))) ("6.12.y" : Text) rfl _ rfl 6 12 0 (by decide)
    (by decide) ("-rc1" : Text) dash assigned
  have resolved := whole.mpr (by decide)
  rw [resolved] at patches
  exact ⟨resolved, patches⟩

/-- A blank inside the extra version is lost as well. -/
theorem inner_blank_lost :
    Assignments (makefile ("30" : Text) ("-a b" : Text)) 6 12 30 ("-a b" : Text) ∧
    resolve_version (serving (makefile ("30" : Text) ("-a b" : Text))) ("6.12.y" : Text) ≠
      release 6 12 30 ++ ("-a b" : Text) :=
  ⟨⟨by decide, by decide, by decide, Or.inl (by decide)⟩, by decide +kernel⟩

end ImageBuilder.Kernel
