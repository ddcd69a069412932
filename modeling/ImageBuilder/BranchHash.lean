import ImageBuilder.Numerals
import ImageBuilder.StreamEditor
import ImageBuilder.Substitution

set_option autoImplicit false

/- What git_option reads as GIT_HASH from the heads of the remote, for any other
branches there. -/
namespace ImageBuilder.BranchHash

open PlainText Numerals Substitution StreamEditor

/-- The id of a commit. -/
structure Commit where
  text : Text
  length : text.length = 40
  hex : ∀ c ∈ text, isHexDigit c = true
  deriving DecidableEq

/-- A branch name: none of the characters that git refuses in it. -/
@[ext]
structure Branch where
  text : Text
  nonempty : text ≠ []
  admitted : ∀ c ∈ text, ' ' < c ∧ c ∉ ['\x7f', '~', '^', ':', '?', '*', '[', '\\']

instance : DecidableEq Branch := fun _ _ => decidable_of_iff _ Branch.ext_iff.symm

structure Head where
  commit : Commit
  branch : Branch
  deriving DecidableEq

/-- The heads as ls-remote prints them, and the configured branch, which is one. -/
structure Repository where
  heads : List Head
  sorted : heads.Pairwise fun first second => first.branch.text < second.branch.text
  current : Head
  listed : current ∈ heads

def refs_heads : Text := "refs/heads/"

/-- One line of ls-remote. -/
def Head.line (head : Head) : Text := head.commit.text ++ '\t' :: (refs_heads ++ head.branch.text)

/-- refs/heads/${GIT_BRANCH} as a regular expression: a dot is any character, and a $ at
its end the end of the line. -/
structure Pattern where
  text : Text
  anchored : Bool

def Pattern.of (GIT_BRANCH : Text) : Pattern :=
  if GIT_BRANCH.getLast? = some '$' then ⟨refs_heads ++ GIT_BRANCH.dropLast, true⟩
  else ⟨refs_heads ++ GIT_BRANCH, false⟩

def Pattern.matches (pattern : Pattern) (rest : Text) : Bool :=
  dotted pattern.text rest && (!pattern.anchored || rest.length == pattern.text.length)

/-- `grep -w` on one line; the character in front is the last one passed. -/
def Pattern.word (pattern : Pattern) : Option Char → Text → Bool
  | _, [] => false
  | before, c :: rest =>
    (boundary before && pattern.matches (c :: rest) &&
        boundary ((c :: rest).drop pattern.text.length).head?) ||
      pattern.word (some c) rest

/-- `s/pattern//g` on one line. -/
def Pattern.remove (pattern : Pattern) (line : Text) : Text :=
  scan pattern.text.length (fun _ rest => pattern.matches rest) (fun _ _ => []) [] 0 line

/-- What follows the second slash of the pattern and the replacement in the program
`s/refs\/heads\/${GIT_BRANCH}//g`, where a slash in the name already counts. -/
def options (GIT_BRANCH : Text) : Text :=
  let past (text : Text) : Text := (text.dropWhile (· ≠ '/')).tail
  past (past (GIT_BRANCH ++ "//g"))

/-- sed stops with an unknown option to `s'. -/
def Rejected (GIT_BRANCH : Text) : Prop :=
  '/' ∈ GIT_BRANCH ∧ ∀ c ∈ (options GIT_BRANCH).head?, isOption c = false

instance (GIT_BRANCH : Text) : Decidable (Rejected GIT_BRANCH) :=
  inferInstanceAs (Decidable (_ ∧ _))

section Sed

/- What sed prints for a line when the name has slashes and the rest of it is still
a program. -/
variable (odd : Text → Text → Text)

/-- `sed "s/refs\/heads\/${GIT_BRANCH}//g"` on one line. -/
def sed (GIT_BRANCH line : Text) : Text :=
  if '/' ∈ GIT_BRANCH then
    if Rejected GIT_BRANCH then [] else odd GIT_BRANCH line
  else (Pattern.of GIT_BRANCH).remove line

/-- The pipeline of git_option and of amlogic_uboot_download. -/
def headHash (GIT_BRANCH : Text) (heads : List Head) : Text :=
  match heads.find? fun head => (Pattern.of GIT_BRANCH).word none head.line with
  | some head => (sed odd GIT_BRANCH head.line).filter fun c => !isBlank c
  | none => []

/-- git_option -/
def GIT_HASH (repository : Repository) : Text :=
  headHash odd repository.current.branch.text repository.heads

end Sed

/-- git_verify prints ok. -/
def git_verify (GIT_COMMIT GIT_HASH : Text) : Bool := GIT_COMMIT == GIT_HASH

/-- The name but for a dollar at its end, the end of the line to grep and to sed. -/
def stem (GIT_BRANCH : Text) : Text :=
  if GIT_BRANCH.getLast? = some '$' then GIT_BRANCH.dropLast else GIT_BRANCH

/-- In refs/heads/name there are refs/heads/ and a text that reads like the branch, with no
more of a word on either side. -/
def Resembles (GIT_BRANCH name : Text) : Prop :=
  ∃ front like back, refs_heads ++ name = front ++ (refs_heads ++ like ++ back) ∧
    ReadsLike (stem GIT_BRANCH) like ∧ boundary front.getLast? = true ∧
    boundary back.head? = true ∧ (GIT_BRANCH.getLast? = some '$' → back = [])

/-- refs/heads/name is nothing but such texts. -/
def Composed (GIT_BRANCH name : Text) : Prop :=
  ∃ likes : List Text, refs_heads ++ name = likes.flatMap (refs_heads ++ ·) ∧
    (∀ like ∈ likes, ReadsLike (stem GIT_BRANCH) like) ∧
    (GIT_BRANCH.getLast? = some '$' → likes.length ≤ 1)

/-- No branch sorted before the name resembles the configured branch. -/
def NoneBefore (repository : Repository) (name : Text) : Prop :=
  ∀ head ∈ repository.heads, head.branch.text < name →
    ¬ Resembles repository.current.branch.text head.branch.text

/-- The name has no slash. Either it has no dollar at its end and no branch sorted before it
resembles it, or the first branch that does is another name of its commit and composed of
what reads like it. -/
structure Singled (repository : Repository) : Prop where
  plain : '/' ∉ repository.current.branch.text
  first : (repository.current.branch.text.getLast? ≠ some '$' ∧
      NoneBefore repository repository.current.branch.text) ∨
    ∃ head ∈ repository.heads, NoneBefore repository head.branch.text ∧
      Resembles repository.current.branch.text head.branch.text ∧
      head.commit = repository.current.commit ∧
      Composed repository.current.branch.text head.branch.text

section Line

variable {GIT_BRANCH : Text}

theorem Commit.solid (commit : Commit) : ∀ c ∈ commit.text, isBlank c = false ∧ c ≠ 'r' := by
  have other (c : Char) (odd : isHexDigit c = false) : c ∉ commit.text := fun member =>
    Bool.false_ne_true (odd.symm.trans (commit.hex c member))
  have solid := solid_of_not_mem commit.text (other ' ' (by decide)) (other '\t' (by decide))
    (other '\n' (by decide))
  intro c member
  refine ⟨solid c member, ?_⟩
  rintro rfl
  exact other 'r' (by decide) member

theorem Branch.solid (branch : Branch) : ∀ c ∈ branch.text, isBlank c = false := by
  have other (c : Char) (low : ¬ ' ' < c) : c ∉ branch.text := fun member =>
    low (branch.admitted c member).1
  exact solid_of_not_mem branch.text (other ' ' (by decide)) (other '\t' (by decide))
    (other '\n' (by decide))

theorem Pattern.starts (GIT_BRANCH : Text) : ∃ name, (Pattern.of GIT_BRANCH).text = 'r' :: name := by
  unfold Pattern.of
  split
  · exact ⟨_, rfl⟩
  · exact ⟨_, rfl⟩

theorem Pattern.positive (GIT_BRANCH : Text) : 0 < (Pattern.of GIT_BRANCH).text.length := by
  obtain ⟨name, is⟩ := Pattern.starts GIT_BRANCH
  rw [is]
  exact Nat.succ_pos _

/-- A match starts with an r. -/
theorem Pattern.not_matches {c : Char} {rest : Text} (other : c ≠ 'r') :
    (Pattern.of GIT_BRANCH).matches (c :: rest) = false := by
  obtain ⟨name, is⟩ := Pattern.starts GIT_BRANCH
  unfold Pattern.matches
  have differs : ('r' == c) = false := beq_eq_false_iff_ne.mpr (Ne.symm other)
  rw [is, dotted, differs]
  rfl

/-- So sed leaves the commit and the tab alone. -/
theorem Pattern.remove_line (head : Head) : (Pattern.of GIT_BRANCH).remove head.line =
    head.commit.text ++ '\t' :: (Pattern.of GIT_BRANCH).remove (refs_heads ++ head.branch.text) := by
  have front : ∀ c ∈ head.commit.text ++ ['\t'], c ≠ 'r' := by
    intro c member
    rcases List.mem_append.mp member with hash | tab
    · exact (head.commit.solid c hash).2
    · rw [List.mem_singleton.mp tab]
      decide
  have whole : head.line = (head.commit.text ++ ['\t']) ++ (refs_heads ++ head.branch.text) := by
    rw [Head.line, List.append_assoc, List.singleton_append]
  unfold Pattern.remove
  rw [whole, scan_clear (head.commit.text ++ ['\t']).length, List.take_left, List.drop_left,
    List.append_assoc, List.singleton_append]
  · congr 2
    exact scan_local (Pattern.positive GIT_BRANCH) _ [] _
  · intro index below
    rw [List.drop_append_of_le_length (Nat.le_of_lt below), List.drop_eq_getElem_cons below]
    exact Pattern.not_matches (front _ (List.getElem_mem below))

/-- And no blank of the name is its doing. -/
theorem Pattern.remove_solid (GIT_BRANCH text : Text) (solid : ∀ c ∈ text, isBlank c = false) :
    ∀ c ∈ (Pattern.of GIT_BRANCH).remove text, isBlank c = false := by
  have total := countP_scan_absent (fun _ rest => (Pattern.of GIT_BRANCH).matches rest)
    (fun _ _ => []) (Pattern.positive GIT_BRANCH) isBlank [] text fun _ _ => rfl
  have none : text.countP isBlank = 0 := by
    rw [List.countP_eq_zero]
    intro c member
    rw [solid c member]
    exact Bool.false_ne_true
  have left : ((Pattern.of GIT_BRANCH).remove text).countP isBlank = 0 := by
    unfold Pattern.remove
    omega
  intro c member
  exact Bool.eq_false_iff.mpr (List.countP_eq_zero.mp left c member)

/-- What the pipeline makes of one line. -/
theorem filter_remove (head : Head) :
    ((Pattern.of GIT_BRANCH).remove head.line).filter (fun c => !isBlank c) =
      head.commit.text ++ (Pattern.of GIT_BRANCH).remove (refs_heads ++ head.branch.text) := by
  have name : ∀ c ∈ refs_heads ++ head.branch.text, isBlank c = false := by
    intro c member
    rcases List.mem_append.mp member with front | branch
    · exact (by decide : ∀ c ∈ refs_heads, isBlank c = false) c front
    · exact head.branch.solid c branch
  have rest := Pattern.remove_solid GIT_BRANCH _ name
  rw [Pattern.remove_line, List.filter_append, List.filter_cons_of_neg (by decide)]
  congr 1
  · apply List.filter_eq_self.mpr
    intro c member
    rw [(head.commit.solid c member).1]
    rfl
  · apply List.filter_eq_self.mpr
    intro c member
    rw [rest c member]
    rfl

theorem Pattern.of_eq (GIT_BRANCH : Text) : Pattern.of GIT_BRANCH =
    ⟨refs_heads ++ stem GIT_BRANCH, decide (GIT_BRANCH.getLast? = some '$')⟩ := by
  unfold Pattern.of stem
  split
  case isTrue dollar => rw [decide_eq_true dollar]
  case isFalse other => rw [decide_eq_false other]

theorem Pattern.matches_iff (rest : Text) : (Pattern.of GIT_BRANCH).matches rest = true ↔
    ∃ like back, rest = refs_heads ++ like ++ back ∧ ReadsLike (stem GIT_BRANCH) like ∧
      (GIT_BRANCH.getLast? = some '$' → back = []) := by
  have ends (like back : Text) (reads : ReadsLike (stem GIT_BRANCH) like) :
      (refs_heads ++ like ++ back).length = (refs_heads ++ stem GIT_BRANCH).length ↔ back = [] := by
    have long := reads.length_eq
    rw [← List.length_eq_zero_iff]
    simp only [List.length_append]
    omega
  rw [Pattern.of_eq, Pattern.matches, Bool.and_eq_true, Bool.or_eq_true, Bool.not_eq_true',
    decide_eq_false_iff_not, beq_iff_eq, dotted_literal _ _ _ (by decide), ← imp_iff_not_or]
  constructor
  · rintro ⟨⟨behind, rfl, found⟩, anchored⟩
    obtain ⟨like, back, rfl, reads⟩ := (dotted_iff _ _).mp found
    rw [← List.append_assoc] at anchored ⊢
    exact ⟨like, back, rfl, reads, fun dollar => (ends like back reads).mp (anchored dollar)⟩
  · rintro ⟨like, back, rfl, reads, anchored⟩
    refine ⟨⟨like ++ back, List.append_assoc _ _ _, (dotted_iff _ _).mpr ⟨like, back, rfl, reads⟩⟩, ?_⟩
    exact fun dollar => (ends like back reads).mpr (anchored dollar)

/-- What a match leaves of the line. -/
theorem Pattern.drop_match (like back : Text) (reads : ReadsLike (stem GIT_BRANCH) like) :
    (refs_heads ++ like ++ back).drop (Pattern.of GIT_BRANCH).text.length = back := by
  have long : (Pattern.of GIT_BRANCH).text.length = (refs_heads ++ like).length := by
    rw [Pattern.of_eq, List.length_append, List.length_append, reads.length_eq]
  rw [long, List.drop_left]

/-- grep finds the pattern somewhere in the line. -/
theorem Pattern.word_iff (pattern : Pattern) (before : Option Char) (text : Text) :
    pattern.word before text = true ↔ ∃ front rest, text = front ++ rest ∧ rest ≠ [] ∧
      pattern.matches rest = true ∧ boundary (front.getLast?.or before) = true ∧
      boundary (rest.drop pattern.text.length).head? = true := by
  induction text generalizing before with
  | nil =>
    constructor
    · intro found
      nomatch found
    · rintro ⟨front, rest, whole, nonempty, -⟩
      exact absurd (List.append_eq_nil_iff.mp whole.symm).2 nonempty
  | cons c text ih =>
    have last (front : Text) :
        (c :: front).getLast?.or before = front.getLast?.or (some c) := by
      rw [List.getLast?_cons]
      cases front.getLast? <;> rfl
    rw [Pattern.word, Bool.or_eq_true, ih, Bool.and_eq_true, Bool.and_eq_true]
    constructor
    · rintro (⟨⟨start, found⟩, stop⟩ | ⟨front, rest, rfl, nonempty, found, start, stop⟩)
      · exact ⟨[], c :: text, rfl, List.cons_ne_nil c text, found, start, stop⟩
      · exact ⟨c :: front, rest, rfl, nonempty, found, (last front).symm ▸ start, stop⟩
    · rintro ⟨front, rest, whole, nonempty, found, start, stop⟩
      cases front with
      | nil =>
        subst whole
        exact Or.inl ⟨⟨start, found⟩, stop⟩
      | cons d front =>
        obtain ⟨rfl, rfl⟩ := List.cons.inj whole
        exact Or.inr ⟨front, rest, rfl, nonempty, found, last front ▸ start, stop⟩

/-- No match begins in the commit or the tab. -/
theorem Pattern.behind_tab (head : Head) (front rest : Text) (split : head.line = front ++ rest)
    (nonempty : rest ≠ []) (found : (Pattern.of GIT_BRANCH).matches rest = true) :
    ∃ behind, front = head.commit.text ++ ['\t'] ++ behind ∧
      refs_heads ++ head.branch.text = behind ++ rest := by
  have whole : head.line = (head.commit.text ++ ['\t']) ++ (refs_heads ++ head.branch.text) := by
    rw [Head.line, List.append_assoc, List.singleton_append]
  rw [whole, List.append_eq_append_iff] at split
  rcases split with ⟨behind, rfl, ref⟩ | ⟨inside, own, rfl⟩
  · exact ⟨behind, rfl, ref⟩
  · cases inside with
    | nil => exact ⟨[], by rw [own, List.append_nil, List.append_nil], rfl⟩
    | cons c inside =>
      exfalso
      have other : c ≠ 'r' := by
        have member : c ∈ head.commit.text ++ ['\t'] := by
          rw [own]
          exact List.mem_append_right _ List.mem_cons_self
        rcases List.mem_append.mp member with hash | tab
        · exact (head.commit.solid c hash).2
        · rw [List.mem_singleton.mp tab]
          decide
      rw [List.cons_append, Pattern.not_matches other] at found
      nomatch found

theorem boundary_tab (front hash : Text) :
    boundary (((hash ++ ['\t'] ++ front).getLast?).or none) = boundary front.getLast? := by
  rw [Option.or_none]
  by_cases empty : front = []
  · rw [empty, List.append_nil, List.getLast?_concat]
    rfl
  · rw [List.getLast?_append_of_ne_nil _ empty]

/-- grep finds the branches that resemble the configured one. -/
theorem Pattern.word_line_iff (head : Head) : (Pattern.of GIT_BRANCH).word none head.line = true ↔
    Resembles GIT_BRANCH head.branch.text := by
  rw [Pattern.word_iff]
  constructor
  · rintro ⟨front, rest, split, nonempty, found, start, stop⟩
    obtain ⟨behind, rfl, ref⟩ := Pattern.behind_tab head front rest split nonempty found
    obtain ⟨like, back, rfl, reads, anchored⟩ := (Pattern.matches_iff rest).mp found
    rw [boundary_tab] at start
    rw [Pattern.drop_match like back reads] at stop
    exact ⟨behind, like, back, ref, reads, start, stop, anchored⟩
  · rintro ⟨front, like, back, ref, reads, start, stop, anchored⟩
    refine ⟨head.commit.text ++ ['\t'] ++ front, refs_heads ++ like ++ back, ?_, ?_,
      (Pattern.matches_iff _).mpr ⟨like, back, rfl, reads, anchored⟩, ?_, ?_⟩
    · rw [Head.line, ref]
      simp only [List.append_assoc, List.cons_append, List.nil_append]
    · exact List.cons_ne_nil _ _
    · rw [boundary_tab, start]
    · rw [Pattern.drop_match like back reads, stop]

theorem flatMap_refs_nil (likes : List Text) (empty : likes.flatMap (refs_heads ++ ·) = []) :
    likes = [] := by
  cases likes with
  | nil => rfl
  | cons like likes => nomatch empty

/-- sed removes all of a text that is composed of matches, and of no other. -/
theorem Pattern.remove_nil_iff (text : Text) : (Pattern.of GIT_BRANCH).remove text = [] ↔
    ∃ likes : List Text, text = likes.flatMap (refs_heads ++ ·) ∧
      (∀ like ∈ likes, ReadsLike (stem GIT_BRANCH) like) ∧
      (GIT_BRANCH.getLast? = some '$' → likes.length ≤ 1) := by
  let hit (_ rest : Text) : Bool := (Pattern.of GIT_BRANCH).matches rest
  have positive := Pattern.positive GIT_BRANCH
  suffices anywhere : ∀ before, scan (Pattern.of GIT_BRANCH).text.length hit (fun _ _ => []) before 0
      text = [] ↔ ∃ likes : List Text, text = likes.flatMap (refs_heads ++ ·) ∧
        (∀ like ∈ likes, ReadsLike (stem GIT_BRANCH) like) ∧
        (GIT_BRANCH.getLast? = some '$' → likes.length ≤ 1) from anywhere []
  intro before
  induction before, text using scan_induction hit positive with
  | nil before => exact ⟨fun _ => ⟨[], rfl, nofun, fun _ => Nat.zero_le 1⟩, fun _ => rfl⟩
  | miss before c rest missed ih =>
    rw [scan_miss missed]
    refine iff_of_false (List.cons_ne_nil _ _) ?_
    rintro ⟨likes, whole, reads, anchored⟩
    cases likes with
    | nil => nomatch whole
    | cons like likes =>
      rw [List.flatMap_cons] at whole
      have found : hit before (c :: rest) = true := by
        refine (Pattern.matches_iff _).mpr ⟨like, _, whole, reads like List.mem_cons_self, ?_⟩
        intro dollar
        have single := anchored dollar
        rw [List.length_cons] at single
        rw [List.length_eq_zero_iff.mp (Nat.le_zero.mp (Nat.le_of_succ_le_succ single))]
        rfl
      rw [missed] at found
      nomatch found
  | found before c rest found ih =>
    obtain ⟨like, back, whole, reads, anchored⟩ := (Pattern.matches_iff _).mp found
    rw [scan_hit positive found, List.nil_append, ih, whole, Pattern.drop_match like back reads]
    constructor
    · rintro ⟨likes, rfl, others, -⟩
      refine ⟨like :: likes, rfl, List.forall_mem_cons.mpr ⟨reads, others⟩, ?_⟩
      intro dollar
      rw [flatMap_refs_nil likes (anchored dollar)]
      exact Nat.le_refl 1
    · rintro ⟨likes, covers, all, single⟩
      cases likes with
      | nil => nomatch covers
      | cons other likes =>
        obtain ⟨own, others⟩ := List.forall_mem_cons.mp all
        rw [List.flatMap_cons] at covers
        have long : (refs_heads ++ like).length = (refs_heads ++ other).length := by
          rw [List.length_append, List.length_append, ← reads.length_eq, own.length_eq]
        obtain ⟨-, rfl⟩ := List.append_inj covers long
        refine ⟨likes, rfl, others, fun dollar => ?_⟩
        have bound := single dollar
        rw [List.length_cons] at bound
        omega

theorem stem_literal (literal : GIT_BRANCH.getLast? ≠ some '$') : stem GIT_BRANCH = GIT_BRANCH :=
  if_neg literal

/-- A branch resembles itself, unless the end of its name is taken for the end of a line. -/
theorem resembles_self (literal : GIT_BRANCH.getLast? ≠ some '$') :
    Resembles GIT_BRANCH GIT_BRANCH := by
  refine ⟨[], GIT_BRANCH, [], ?_, ?_, rfl, rfl, fun _ => rfl⟩
  · rw [List.append_nil, List.nil_append]
  · rw [stem_literal literal]
    exact readsLike_self GIT_BRANCH

theorem composed_self (literal : GIT_BRANCH.getLast? ≠ some '$') :
    Composed GIT_BRANCH GIT_BRANCH := by
  refine ⟨[GIT_BRANCH], ?_, ?_, fun _ => Nat.le_refl 1⟩
  · rw [List.flatMap_singleton]
  · intro like member
    rw [List.mem_singleton.mp member, stem_literal literal]
    exact readsLike_self GIT_BRANCH

end Line

section Hash

variable {repository : Repository}

/-- The first head that is found is the first in the order of the names. -/
theorem find_iff (head : Head) :
    (repository.heads.find? fun head =>
        (Pattern.of repository.current.branch.text).word none head.line) = some head ↔
      head ∈ repository.heads ∧ NoneBefore repository head.branch.text ∧
        Resembles repository.current.branch.text head.branch.text := by
  have order := repository.sorted
  rw [List.find?_eq_some_iff_append]
  constructor
  · rintro ⟨found, before, after, split, missed⟩
    have listed : head ∈ repository.heads := by
      rw [split]
      exact List.mem_append_right before List.mem_cons_self
    refine ⟨listed, ?_, (Pattern.word_line_iff head).mp found⟩
    intro other member less resembles
    rw [split] at member order
    rw [List.pairwise_append, List.pairwise_cons] at order
    rcases List.mem_append.mp member with earlier | rest
    · have passed := missed other earlier
      rw [(Pattern.word_line_iff other).mpr resembles] at passed
      nomatch passed
    · rcases List.mem_cons.mp rest with rfl | later
      · exact List.lt_irrefl _ less
      · exact List.lt_asymm less (order.2.1.1 other later)
  · rintro ⟨listed, none, resembles⟩
    obtain ⟨before, after, split⟩ := List.append_of_mem listed
    refine ⟨(Pattern.word_line_iff head).mpr resembles, before, after, split, ?_⟩
    intro other member
    have listed : other ∈ repository.heads := by
      rw [split]
      exact List.mem_append_left _ member
    rw [split, List.pairwise_append] at order
    have less := order.2.2 other member head List.mem_cons_self
    rw [Bool.not_eq_true', Bool.eq_false_iff, Ne, Pattern.word_line_iff]
    exact none other listed less

/-- What the pipeline makes of the first head that is found. -/
theorem headHash_first (odd : Text → Text → Text) (plain : '/' ∉ repository.current.branch.text)
    (head : Head) (listed : head ∈ repository.heads)
    (none : NoneBefore repository head.branch.text)
    (resembles : Resembles repository.current.branch.text head.branch.text) :
    headHash odd repository.current.branch.text repository.heads = head.commit.text ++
      (Pattern.of repository.current.branch.text).remove (refs_heads ++ head.branch.text) := by
  have first := (find_iff head).mpr ⟨listed, none, resembles⟩
  unfold headHash
  rw [first]
  show (sed odd repository.current.branch.text head.line).filter (fun c => !isBlank c) = _
  rw [sed, if_neg plain, filter_remove]

theorem Singled.headHash (odd : Text → Text → Text) (singled : Singled repository) :
    headHash odd repository.current.branch.text repository.heads =
      repository.current.commit.text := by
  rcases singled.first with ⟨literal, none⟩ | ⟨head, listed, none, resembles, same, composed⟩
  · rw [headHash_first odd singled.plain _ repository.listed none (resembles_self literal),
      (Pattern.remove_nil_iff _).mpr (composed_self literal), List.append_nil]
  · rw [headHash_first odd singled.plain head listed none resembles,
      (Pattern.remove_nil_iff _).mpr composed, List.append_nil, same]

end Hash

/-- A commit id of one digit. -/
def sameDigits (digit : Char) (hex : isHexDigit digit = true) : Commit where
  text := List.replicate 40 digit
  length := List.length_replicate
  hex := by
    intro c member
    rw [List.eq_of_mem_replicate member]
    exact hex

/-- A branch name with a dot, and one that comes before it and matches. -/
def release : Repository where
  heads := [⟨sameDigits '1' rfl, ⟨"v1-0-rc", by decide, by decide⟩⟩,
    ⟨sameDigits '2' rfl, ⟨"v1.0", by decide, by decide⟩⟩]
  sorted := by
    rw [List.pairwise_pair]
    decide
  current := ⟨sameDigits '2' rfl, ⟨"v1.0", by decide, by decide⟩⟩
  listed := List.mem_cons_of_mem _ (List.mem_singleton_self _)

end ImageBuilder.BranchHash
