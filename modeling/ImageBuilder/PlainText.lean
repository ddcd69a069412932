import Mathlib.Data.List.Basic
import Mathlib.Data.List.Infix

set_option autoImplicit false

/- Text as the stream editors of a shell script see it: characters, words,
lines, literal search and literal replacement. Nothing here knows a script. -/
namespace PlainText

abbrev Text := List Char

instance : Coe String Text := ⟨String.toList⟩

/-- A string with its characters spelled out, for a text that is computed with. -/
def literal (text : String) {chars : Text} (_spelled : text = String.ofList chars := by rfl) :
    Text :=
  chars

-- A statement about the characters of a text is decided along the text.
instance (priority := high) decidableText (p : Char → Prop) [DecidablePred p] (text : Text) :
    Decidable (∀ c ∈ text, p c) :=
  List.decidableBAll p text

instance lawfulText : LawfulBEq Text := inferInstance

instance (priority := high) decidableHead (p : Char → Prop) [DecidablePred p]
    (first : Option Char) : Decidable (∀ c ∈ first, p c) :=
  Option.decidableForallMem first

/-- The characters `grep -w` counts as part of a word. -/
def isWordChar (c : Char) : Bool := c.isAlphanum || c == '_'

/-- A word boundary: no character there, or one outside every word. -/
def boundary : Option Char → Bool
  | none => true
  | some c => !isWordChar c

/-- `grep -w` for a literal nonempty pattern on one line; `before` is the
character in front of the part still to be searched. -/
def wordMatch (pattern : Text) : Option Char → Text → Bool
  | _, [] => false
  | before, c :: rest =>
      (boundary before && pattern.isPrefixOf (c :: rest) &&
          boundary ((c :: rest).drop pattern.length).head?) ||
        wordMatch pattern (some c) rest

/-- `grep -w pattern file` prints at least one line. -/
def grepWord (pattern : Text) (lines : List Text) : Bool :=
  lines.any (wordMatch pattern none)

/-- `grep pattern` on one line. -/
def grepLine (pattern line : Text) : Bool := decide (pattern <:+: line)

/-- The scan of a global literal substitution; `skip` characters of the last
match are still to be passed over. -/
def replaceFrom (pattern replacement : Text) : Nat → Text → Text
  | _, [] => []
  | skip + 1, _ :: rest => replaceFrom pattern replacement skip rest
  | 0, c :: rest =>
      if pattern.isPrefixOf (c :: rest) then
        replacement ++ replaceFrom pattern replacement (pattern.length - 1) rest
      else c :: replaceFrom pattern replacement 0 rest

/-- `sed s/pattern/replacement/g` on one line, both literal. -/
def replaceAll (pattern replacement line : Text) : Text :=
  replaceFrom pattern replacement 0 line

theorem replaceFrom_drop (pattern replacement : Text) (skip : Nat) (line : Text) :
    replaceFrom pattern replacement skip line =
      replaceFrom pattern replacement 0 (line.drop skip) := by
  induction skip generalizing line with
  | zero => rfl
  | succ skip ih =>
      cases line with
      | nil => rfl
      | cons c rest =>
          simp only [replaceFrom, List.drop_succ_cons]
          exact ih rest

theorem replaceAll_of_absent (pattern replacement line : Text)
    (absent : ¬ pattern <:+: line) : replaceAll pattern replacement line = line := by
  induction line with
  | nil => rfl
  | cons c rest ih =>
      have notHere : ¬ pattern.isPrefixOf (c :: rest) = true := fun here =>
        absent (List.isPrefixOf_iff_prefix.mp here).isInfix
      have notLater : ¬ pattern <:+: rest := fun later =>
        absent (later.trans (List.suffix_cons c rest).isInfix)
      simp only [replaceAll, replaceFrom, notHere, Bool.false_eq_true, ↓reduceIte]
      exact congrArg (c :: ·) (ih notLater)

/-- A match in front of text without a further one is the only replacement. -/
theorem replaceAll_head (pattern replacement rest : Text) (nonempty : pattern ≠ [])
    (absent : ¬ pattern <:+: rest) :
    replaceAll pattern replacement (pattern ++ rest) = replacement ++ rest := by
  cases pattern with
  | nil => exact absurd rfl nonempty
  | cons c tail =>
      have here : (c :: tail).isPrefixOf (c :: (tail ++ rest)) = true :=
        List.isPrefixOf_iff_prefix.mpr ⟨rest, rfl⟩
      have later := replaceAll_of_absent (c :: tail) replacement rest absent
      simp only [replaceAll] at later
      simp only [replaceAll, List.cons_append, replaceFrom, here, ↓reduceIte,
        List.length_cons, Nat.add_sub_cancel]
      rw [replaceFrom_drop, List.drop_left, later]

/-- A match at the front. -/
theorem replaceAll_append (pattern replacement rest : Text) (nonempty : pattern ≠ []) :
    replaceAll pattern replacement (pattern ++ rest) =
      replacement ++ replaceAll pattern replacement rest := by
  obtain ⟨c, tail, rfl⟩ := List.exists_cons_of_ne_nil nonempty
  have here : (c :: tail).isPrefixOf (c :: (tail ++ rest)) = true :=
    List.isPrefixOf_iff_prefix.mpr ⟨rest, rfl⟩
  rw [replaceAll, List.cons_append, replaceFrom, if_pos here, replaceFrom_drop,
    List.length_cons, Nat.add_sub_cancel, List.drop_left]
  rfl

/-- A character in front, if no match begins there. -/
theorem replaceAll_cons (pattern replacement rest : Text) (c : Char)
    (other : ¬ pattern <+: c :: rest) :
    replaceAll pattern replacement (c :: rest) = c :: replaceAll pattern replacement rest := by
  rw [replaceAll, replaceFrom, if_neg fun here => other (List.isPrefixOf_iff_prefix.mp here)]
  rfl

/-- Text without a match up to a character that no match contains. -/
theorem replaceAll_past (pattern replacement front rest : Text) (c : Char)
    (absent : ¬ pattern <:+: front) (outside : c ∉ pattern) :
    replaceAll pattern replacement (front ++ c :: rest) =
      front ++ c :: replaceAll pattern replacement rest := by
  have notHere (front : Text) (absent : ¬ pattern <:+: front) :
      ¬ pattern <+: front ++ c :: rest := by
    intro here
    rcases Nat.lt_or_ge front.length pattern.length with longer | shorter
    · have reaches : front ++ [c] <+: front ++ c :: rest := by
        rw [List.prefix_append_right_inj]
        exact List.prefix_append [c] rest
      apply outside
      apply (List.prefix_of_prefix_length_le reaches here ?_).subset
      · exact List.mem_append_right _ List.mem_cons_self
      · rw [List.length_append, List.length_singleton]
        exact longer
    · exact absent
        (List.prefix_of_prefix_length_le here (List.prefix_append _ _) shorter).isInfix
  induction front with
  | nil => exact replaceAll_cons pattern replacement rest c (notHere [] absent)
  | cons d front ih =>
      have later : ¬ pattern <:+: front := fun found =>
        absent (found.trans (List.suffix_cons d front).isInfix)
      have skipped := replaceAll_cons pattern replacement (front ++ c :: rest) d
        (notHere (d :: front) absent)
      rw [List.cons_append, skipped, ih later]
      rfl

/-- `sed s/c//g` -/
theorem replaceAll_delete (c : Char) (line : Text) :
    replaceAll [c] [] line = line.filter fun d => d != c := by
  induction line with
  | nil => rfl
  | cons d rest ih =>
      by_cases same : d = c
      · rw [List.filter_cons_of_neg (by simp [same]), same, ← ih]
        exact replaceAll_append [c] [] rest (List.cons_ne_nil c [])
      · rw [List.filter_cons_of_pos (by simp [same]), ← ih]
        apply replaceAll_cons
        intro found
        exact same (List.cons_prefix_cons.mp found).1.symm

/-- Induction along a replacement. -/
theorem replaceAll_induction (pattern : Text) (nonempty : pattern ≠ []) {motive : Text → Prop}
    (nil : motive []) (miss : ∀ c rest, ¬ pattern <+: c :: rest → motive rest → motive (c :: rest))
    (found : ∀ rest, motive rest → motive (pattern ++ rest)) (line : Text) : motive line := by
  induction size : line.length using Nat.strongRecOn generalizing line with
  | ind size' ih =>
      cases line with
      | nil => exact nil
      | cons c rest =>
          by_cases here : pattern <+: c :: rest
          · obtain ⟨tail, whole⟩ := here
            have long := List.length_pos_iff.mpr nonempty
            rw [← whole, List.length_append] at size
            rw [← whole]
            exact found tail (ih tail.length (by omega) tail rfl)
          · rw [List.length_cons] at size
            exact miss c rest here (ih rest.length (by omega) rest rfl)

/-- A pattern for itself. -/
theorem replaceAll_self (pattern line : Text) (nonempty : pattern ≠ []) :
    replaceAll pattern pattern line = line := by
  induction line using replaceAll_induction pattern nonempty with
  | nil => rfl
  | miss c rest other ih => rw [replaceAll_cons pattern pattern rest c other, ih]
  | found rest ih => rw [replaceAll_append pattern pattern rest nonempty, ih]

/-- Characters that come in the replacement as often as in the pattern. -/
theorem count_replaceAll (pattern replacement line : Text) (nonempty : pattern ≠ []) (q : Char)
    (same : replacement.count q = pattern.count q) :
    (replaceAll pattern replacement line).count q = line.count q := by
  induction line using replaceAll_induction pattern nonempty with
  | nil => rfl
  | miss c rest other ih =>
      rw [replaceAll_cons pattern replacement rest c other, List.count_cons, List.count_cons, ih]
  | found rest ih =>
      rw [replaceAll_append pattern replacement rest nonempty, List.count_append,
        List.count_append, ih, same]

/-- Where the pattern occurs the replacement comes. -/
theorem infix_replaceAll (pattern replacement line : Text) (nonempty : pattern ≠ [])
    (occurs : pattern <:+: line) : replacement <:+: replaceAll pattern replacement line := by
  unfold replaceAll
  induction line with
  | nil => exact absurd (List.infix_nil.mp occurs) nonempty
  | cons c rest ih =>
      rw [replaceFrom]
      split
      · exact (List.prefix_append _ _).isInfix
      · rename_i notHere
        have later : pattern <:+: rest := by
          rcases List.infix_cons_iff.mp occurs with here | later
          · exact absurd (List.isPrefixOf_iff_prefix.mpr here) notHere
          · exact later
        exact (ih later).trans (List.suffix_cons c _).isInfix

/-- An occurrence that ends in a character ends in text that has it. -/
theorem infix_of_infix_append (front back part : Text) (c : Char) (absent : c ∉ back)
    (occurs : part ++ [c] <:+: front ++ back) : part ++ [c] <:+: front := by
  obtain ⟨left, right, whole⟩ := occurs
  rcases List.append_eq_append_iff.mp whole with ⟨more, isFront, _⟩ | ⟨more, isPart, isBack⟩
  · exact ⟨left, more, isFront.symm⟩
  · have last := congrArg List.getLast? isPart
    cases more with
    | nil =>
      refine ⟨left, [], ?_⟩
      rw [isPart, List.append_nil, List.append_nil]
    | cons d more =>
      rw [← List.append_assoc, List.getLast?_concat,
        List.getLast?_append_of_ne_nil _ (List.cons_ne_nil d more)] at last
      apply absurd _ absent
      rw [isBack]
      exact List.mem_append_left _ (List.mem_of_getLast? last.symm)

/-- What follows the marker, if the line starts with it. -/
def after (marker line : Text) : Option Text :=
  if marker.isPrefixOf line then some (line.drop marker.length) else none

theorem after_eq_some_iff (marker line rest : Text) :
    after marker line = some rest ↔ line = marker ++ rest := by
  unfold after
  constructor
  · intro found
    split at found
    · rename_i starts
      obtain ⟨tail, rfl⟩ := List.isPrefixOf_iff_prefix.mp starts
      rw [List.drop_left] at found
      rw [Option.some.inj found]
    · nomatch found
  · rintro rfl
    rw [if_pos (List.isPrefixOf_iff_prefix.mpr (List.prefix_append marker rest)), List.drop_left]

/-- The text before the first c, and what follows it. -/
def cutAt (c : Char) : Text → Option (Text × Text)
  | [] => none
  | d :: rest =>
    if d = c then some ([], rest) else (cutAt c rest).map fun parts => (d :: parts.1, parts.2)

theorem cutAt_eq_some_iff (c : Char) (text front back : Text) :
    cutAt c text = some (front, back) ↔ c ∉ front ∧ text = front ++ c :: back := by
  induction text generalizing front with
  | nil => simp [cutAt]
  | cons d rest ih =>
    unfold cutAt
    constructor
    · intro found
      split at found
      · rename_i here
        obtain ⟨rfl, rfl⟩ := Prod.mk.inj (Option.some.inj found)
        exact ⟨List.not_mem_nil, by rw [here, List.nil_append]⟩
      · rename_i later
        obtain ⟨⟨tail, behind⟩, inner, is⟩ := Option.map_eq_some_iff.mp found
        obtain ⟨rfl, rfl⟩ := Prod.mk.inj is
        obtain ⟨absent, rfl⟩ := (ih tail).mp inner
        exact ⟨List.not_mem_cons_of_ne_of_not_mem (Ne.symm later) absent, rfl⟩
    · rintro ⟨absent, is⟩
      cases front with
      | nil =>
        obtain ⟨rfl, rfl⟩ := List.cons.inj is
        exact if_pos rfl
      | cons e front =>
        obtain ⟨rfl, rfl⟩ := List.cons.inj is
        obtain ⟨later, absent⟩ := List.ne_and_not_mem_of_not_mem_cons absent
        rw [if_neg (Ne.symm later), (ih front).mpr ⟨absent, rfl⟩, Option.map_some]

/-- What separates the words of a line. -/
def isBlank (c : Char) : Bool := c == ' ' || c == '\t' || c == '\n'

theorem isBlank_iff (c : Char) : isBlank c = true ↔ c = ' ' ∨ c = '\t' ∨ c = '\n' := by
  simp only [isBlank, Bool.or_eq_true, beq_iff_eq, or_assoc]

theorem solid_of_not_mem (text : Text) (space : ' ' ∉ text) (tab : '\t' ∉ text)
    (newline : '\n' ∉ text) : ∀ c ∈ text, isBlank c = false := by
  intro c member
  rw [← Bool.not_eq_true, isBlank_iff]
  rintro (rfl | rfl | rfl)
  · exact space member
  · exact tab member
  · exact newline member

def words (line : Text) : List Text := (line.splitOnP isBlank).filter fun word => !word.isEmpty

def IsWord (word : Text) : Prop := word ≠ [] ∧ ∀ c ∈ word, isBlank c = false

instance (word : Text) : Decidable (IsWord word) :=
  inferInstanceAs (Decidable (word ≠ [] ∧ ∀ c ∈ word, isBlank c = false))

theorem words_word (word : Text) (single : IsWord word) : words word = [word] := by
  rw [words, List.splitOnP_eq_singleton single.2]
  apply List.filter_cons_of_pos
  rw [Bool.not_eq_true', List.isEmpty_eq_false_iff]
  exact single.1

/-- A blank separates words. -/
theorem words_append (first second : Text) (c : Char) (blank : isBlank c = true) :
    words (first ++ c :: second) = words first ++ words second := by
  rw [words, List.splitOnP_append_cons first second blank, List.filter_append]
  rfl

/-- No piece of a split line holds a character that was split at. -/
theorem not_mem_piece (split : Char → Bool) (line piece : Text)
    (member : piece ∈ line.splitOnP split) : ∀ c ∈ piece, split c = false := by
  induction line generalizing piece with
  | nil =>
      rw [List.splitOnP_nil, List.mem_singleton] at member
      rw [member]
      exact fun c inside => nomatch inside
  | cons c rest ih =>
      rw [List.splitOnP_cons_eq_if_modifyHead] at member
      split at member
      · rcases List.mem_cons.mp member with empty | later
        · rw [empty]
          exact fun c inside => nomatch inside
        · exact ih piece later
      · rename_i solid
        cases parts : rest.splitOnP split with
        | nil => exact absurd parts (List.splitOnP_ne_nil split rest)
        | cons first others =>
            rw [parts] at member ih
            rcases List.mem_cons.mp member with head | later
            · rw [head, List.forall_mem_cons]
              exact ⟨Bool.not_eq_true _ ▸ solid, ih first List.mem_cons_self⟩
            · exact ih piece (List.mem_cons_of_mem first later)

/-- No word contains a blank. -/
theorem blank_not_mem_word (line word : Text) (member : word ∈ words line) :
    ∀ c ∈ word, isBlank c = false :=
  not_mem_piece isBlank line word (List.mem_filter.mp member).1

/-- The first piece starts the line. -/
theorem prefix_of_head_piece (line piece : Text)
    (head : (line.splitOnP isBlank).head? = some piece) : piece <+: line := by
  induction line generalizing piece with
  | nil =>
      rw [List.splitOnP_nil] at head
      cases head
      exact List.prefix_refl []
  | cons c rest ih =>
      rw [List.splitOnP_cons_eq_if_modifyHead] at head
      split at head
      · cases head
        exact List.nil_prefix
      · rw [List.head?_modifyHead, Option.map_eq_some_iff] at head
        obtain ⟨shorter, first, rfl⟩ := head
        exact (List.prefix_cons_inj c).mpr (ih shorter first)

/-- A word is a part of its line. -/
theorem infix_of_mem_words (line word : Text) (member : word ∈ words line) : word <:+: line := by
  have part : word ∈ line.splitOnP isBlank := (List.mem_filter.mp member).1
  clear member
  induction line with
  | nil =>
      rw [List.splitOnP_nil] at part
      rw [List.mem_singleton.mp part]
  | cons c rest ih =>
      have head := prefix_of_head_piece (c :: rest)
      rw [List.splitOnP_cons_eq_if_modifyHead] at part head
      split at part
      · rcases List.mem_cons.mp part with empty | later
        · rw [empty]
          exact List.nil_infix
        · exact (ih later).trans (List.suffix_cons c rest).isInfix
      · rename_i solid
        rw [if_neg solid] at head
        cases parts : rest.splitOnP isBlank with
        | nil => exact absurd parts (List.splitOnP_ne_nil isBlank rest)
        | cons first others =>
            rw [parts] at part ih head
            rcases List.mem_cons.mp part with here | later
            · rw [here]
              exact (head (c :: first) rfl).isInfix
            · exact (ih (List.mem_cons_of_mem first later)).trans (List.suffix_cons c rest).isInfix

/-- A line that starts with a word. -/
theorem words_first (c : Char) (rest : Text) (solid : isBlank c = false) :
    ∃ part others, words (c :: rest) = (c :: part) :: others ∧ c :: part <+: c :: rest := by
  have head := prefix_of_head_piece (c :: rest)
  have piece : ¬ isBlank c = true := by
    rw [solid]
    exact Bool.false_ne_true
  rw [List.splitOnP_cons_eq_if_modifyHead, if_neg piece] at head
  rw [words, List.splitOnP_cons_eq_if_modifyHead, if_neg piece]
  cases parts : rest.splitOnP isBlank with
  | nil => exact absurd parts (List.splitOnP_ne_nil isBlank rest)
  | cons part others =>
      rw [parts] at head
      exact ⟨part, others.filter fun word => !word.isEmpty, rfl, head (c :: part) rfl⟩

/-- Parts of a line with one space between them. -/
def spaced : List Text → Text
  | [] => []
  | [part] => part
  | part :: rest => part ++ ' ' :: spaced rest

theorem spaced_one (part : Text) : spaced [part] = part := rfl

theorem spaced_cons (part next : Text) (rest : List Text) :
    spaced (part :: next :: rest) = part ++ ' ' :: spaced (next :: rest) := rfl

theorem words_spaced (parts : List Text) : words (spaced parts) = parts.flatMap words := by
  fun_induction spaced parts with
  | case1 => rfl
  | case2 part => rw [List.flatMap_cons, List.flatMap_nil, List.append_nil]
  | case3 part rest _ ih => rw [words_append _ _ ' ' rfl, ih, List.flatMap_cons]

end PlainText
