import ImageBuilder.PlainText
import ImageBuilder.TextLines
import Mathlib.Data.List.Flatten
import Mathlib.Data.List.TakeWhile

set_option autoImplicit false

/- The board menu: its labels come from the concatenated board files, the board that
is started from the listing of the directory. -/
namespace ImageBuilder.Menu

open PlainText TextLines

structure BoardFile where
  name : Text
  contents : Text
  deriving DecidableEq

/-- What the shell's `lib/boards/*` and `ls lib/boards` show of the directory, both in
the order of `boards`. -/
def visible (boards : List BoardFile) : List BoardFile :=
  boards.filter fun f => f.name.head? != some '.'

/-- `grep -w "DEFAULT_MOTD"` -/
def mentions (line : Text) : Bool := wordMatch ("DEFAULT_MOTD" : Text) none line

/-- The two `sed` commands. -/
def label (line : Text) : Text :=
  replaceAll ['"'] [] (replaceAll ("DEFAULT_MOTD=\"" : Text) [] line)

/-- .cache/menu by lines; the dialog shows the first as entry 1. -/
def menu (boards : List BoardFile) : List Text :=
  ((lines isNewline ((visible boards).flatMap BoardFile.contents)).filter mentions).map label

/-- `ls lib/boards` into a pipe. -/
def ls (boards : List BoardFile) : Text := (visible boards).flatMap fun f => f.name ++ ['\n']

/-- `ls lib/boards | head -n $choice | tail -n 1` -/
def BOARD (boards : List BoardFile) (choice : Nat) : Text :=
  (((lines isNewline (ls boards)).take choice).getLast?).getD []

/-- The first argument that lib/dialog/general gets for the unquoted `$BOARD`; `glob`
is the expansion of a word to file names. -/
def started (glob : Text → List Text) (boards : List BoardFile) (choice : Nat) : Option Text :=
  ((words (BOARD boards choice)).flatMap glob).head?

/-- The concatenation with the number of the file each character comes from. -/
def markedFrom : Nat → List BoardFile → List (Nat × Char)
  | _, [] => []
  | i, f :: files => (f.contents.map fun c => (i, c)) ++ markedFrom (i + 1) files

def markedLines (boards : List BoardFile) : List (List (Nat × Char)) :=
  lines (fun c => isNewline c.2) (markedFrom 0 (visible boards))

def plainText (line : List (Nat × Char)) : Text := line.map Prod.snd

/-- The lines of the menu with the files they come from. -/
def entries (boards : List BoardFile) : List (List (Nat × Char)) :=
  (markedLines boards).filter fun line => mentions (plainText line)

/-- Nothing in the line comes from another file than the one with the number `i`. -/
def isFrom (i : Nat) (line : List (Nat × Char)) : Bool := line.all fun c => c.1 == i

/-- An entry shows a line of one board file and starts that board, and every board
file has one entry. -/
structure RunsWhatItShows (glob : Text → List Text) (boards : List BoardFile) : Prop where
  runs : ∀ (n : Nat) shown, (menu boards)[n]? = some shown →
    ∃ line i f, (entries boards)[n]? = some line ∧ shown = label (plainText line) ∧
      isFrom i line = true ∧ (visible boards)[i]? = some f ∧
      started glob boards (n + 1) = some f.name
  listed : ∀ f ∈ boards, f ∈ visible boards
  once : ∀ i < (visible boards).length,
    ∃! n : Nat, ∃ line, (entries boards)[n]? = some line ∧ isFrom i line = true

/-- What the files have to be like. -/
structure Aligned (glob : Text → List Text) (boards : List BoardFile) : Prop where
  dots : ∀ f ∈ boards, f.name.head? ≠ some '.'
  glued : ∀ line ∈ markedLines boards, mentions (plainText line) = true →
    ∃ i, isFrom i line = true
  single : ∀ i < (visible boards).length,
    (markedLines boards).countP (fun line => mentions (plainText line) && isFrom i line) = 1
  names : ∀ f ∈ visible boards,
    '\n' ∉ f.name ∧ ((words f.name).flatMap glob).head? = some f.name

theorem marked_plain (i : Nat) (files : List BoardFile) :
    (markedFrom i files).map Prod.snd = files.flatMap BoardFile.contents := by
  induction files generalizing i with
  | nil => rfl
  | cons f files ih =>
      have own : ((f.contents.map fun c => (i, c)).map Prod.snd) = f.contents := by
        rw [List.map_map]
        exact List.map_id _
      rw [markedFrom, List.map_append, own, ih, List.flatMap_cons]

/-- The entries are those of the menu. -/
theorem menu_eq (boards : List BoardFile) :
    menu boards = (entries boards).map fun line => label (plainText line) := by
  unfold menu entries markedLines
  rw [← marked_plain 0, lines_map, List.filter_map, List.map_map]
  rfl

/-- The numbers never fall along the concatenation. -/
theorem marked_sorted (i : Nat) (files : List BoardFile) :
    (markedFrom i files).Pairwise (fun c d => c.1 ≤ d.1) ∧
      ∀ c ∈ markedFrom i files, i ≤ c.1 ∧ c.1 < i + files.length := by
  induction files generalizing i with
  | nil => exact ⟨List.Pairwise.nil, nofun⟩
  | cons f files ih =>
      obtain ⟨sorted, range⟩ := ih (i + 1)
      rw [markedFrom, List.length_cons]
      constructor
      · rw [List.pairwise_append]
        refine ⟨?_, sorted, ?_⟩
        · rw [List.pairwise_map]
          exact List.pairwise_of_forall fun _ _ => Nat.le_refl i
        · intro c own d later
          obtain ⟨_, _, rfl⟩ := List.mem_map.mp own
          have above := (range d later).1
          show i ≤ d.1
          omega
      · intro c member
        rcases List.mem_append.mp member with own | later
        · obtain ⟨_, _, rfl⟩ := List.mem_map.mp own
          exact ⟨Nat.le_refl i, by omega⟩
        · have bounds := range c later
          omega

/-- The number of a line's first character. -/
def number (line : List (Nat × Char)) : Nat := (line.head?.map Prod.fst).getD 0

theorem entry_ne_nil (boards : List BoardFile) (line : List (Nat × Char))
    (member : line ∈ entries boards) : line ≠ [] := by
  have found := (List.mem_filter.mp member).2
  intro empty
  rw [empty] at found
  cases found

theorem number_mem (line : List (Nat × Char)) (nonempty : line ≠ []) :
    ∃ c ∈ line, c.1 = number line := by
  cases line with
  | nil => exact absurd rfl nonempty
  | cons c rest => exact ⟨c, List.mem_cons_self, rfl⟩

theorem isFrom_iff (line : List (Nat × Char)) (nonempty : line ≠ [])
    (own : ∃ i, isFrom i line = true) (i : Nat) : isFrom i line = true ↔ number line = i := by
  obtain ⟨c, member, first⟩ := number_mem line nonempty
  have all (j : Nat) (alone : isFrom j line = true) : ∀ d ∈ line, d.1 = j := by
    intro d inside
    exact beq_iff_eq.mp (List.all_eq_true.mp alone d inside)
  constructor
  · intro alone
    rw [← first]
    exact all i alone c member
  · rintro rfl
    obtain ⟨j, alone⟩ := own
    have same : number line = j := by
      rw [← first]
      exact all j alone c member
    rwa [same]

theorem entries_sublist (boards : List BoardFile) :
    (entries boards).flatten.Sublist (markedFrom 0 (visible boards)) :=
  List.filter_sublist.flatten.trans (flatten_lines _ _)

/-- The entries stand in the order of the files. -/
theorem numbers_sorted (boards : List BoardFile) :
    ((entries boards).map number).Pairwise (· ≤ ·) := by
  have sorted := (marked_sorted 0 (visible boards)).1.sublist (entries_sublist boards)
  rw [List.pairwise_map]
  refine (List.pairwise_flatten.mp sorted).2.imp_of_mem ?_
  intro line other here there ordered
  obtain ⟨c, member, first⟩ := number_mem line (entry_ne_nil boards line here)
  obtain ⟨d, last, second⟩ := number_mem other (entry_ne_nil boards other there)
  rw [← first, ← second]
  exact ordered c member d last

theorem number_lt (boards : List BoardFile) (line : List (Nat × Char))
    (member : line ∈ entries boards) : number line < (visible boards).length := by
  obtain ⟨c, inside, first⟩ := number_mem line (entry_ne_nil boards line member)
  have marked := (entries_sublist boards).subset (List.mem_flatten.mpr ⟨line, member, inside⟩)
  have bounds := (marked_sorted 0 (visible boards)).2 c marked
  omega

/-- If every file has one line in the menu and shares none, the n-th entry is the
n-th file's. -/
theorem numbers_eq (boards : List BoardFile)
    (own : ∀ line ∈ entries boards, ∃ i, isFrom i line = true)
    (single : ∀ i < (visible boards).length, (entries boards).countP (isFrom i) = 1) :
    (entries boards).map number = List.range (visible boards).length := by
  apply eq_range _ _ (numbers_sorted boards)
  · intro n member
    obtain ⟨line, inside, rfl⟩ := List.mem_map.mp member
    exact number_lt boards line inside
  · intro n inside
    rw [List.count_eq_countP, List.countP_map, ← single n inside]
    apply List.countP_congr
    intro line member
    rw [isFrom_iff line (entry_ne_nil boards line member) (own line member) n]
    exact beq_iff_eq

theorem number_of_place (boards : List BoardFile)
    (own : ∀ line ∈ entries boards, ∃ i, isFrom i line = true)
    (single : ∀ i < (visible boards).length, (entries boards).countP (isFrom i) = 1) (n i : Nat)
    (line : List (Nat × Char)) (place : (entries boards)[n]? = some line) :
    isFrom i line = true ↔ i = n := by
  have member := List.mem_of_getElem? place
  have numbered : ((entries boards).map number)[n]? = some (number line) := by
    rw [List.getElem?_map, place]
    rfl
  rw [numbers_eq boards own single, List.getElem?_eq_some_iff] at numbered
  obtain ⟨_, same⟩ := numbered
  rw [List.getElem_range] at same
  rw [isFrom_iff line (entry_ne_nil boards line member) (own line member) i, ← same]
  exact eq_comm

theorem single_iff (boards : List BoardFile) (i : Nat) :
    (markedLines boards).countP (fun line => mentions (plainText line) && isFrom i line) =
      (entries boards).countP (isFrom i) := by
  rw [entries, List.countP_filter]
  apply List.countP_congr
  intro line _
  rw [Bool.and_comm]

theorem mem_visible_iff (boards : List BoardFile) (f : BoardFile) :
    f ∈ visible boards ↔ f ∈ boards ∧ f.name.head? ≠ some '.' := by
  rw [visible, List.mem_filter, bne_iff_ne]

theorem menu_place (boards : List BoardFile) (n : Nat) (shown : Text) :
    (menu boards)[n]? = some shown ↔
      ∃ line, (entries boards)[n]? = some line ∧ label (plainText line) = shown := by
  rw [menu_eq, List.getElem?_map, Option.map_eq_some_iff]

theorem lines_ls (files : List BoardFile) (single : ∀ f ∈ files, '\n' ∉ f.name) (rest : Text) :
    lines isNewline (files.flatMap (fun f => f.name ++ ['\n']) ++ rest) =
      files.map BoardFile.name ++ lines isNewline rest := by
  induction files with
  | nil => rfl
  | cons f files ih =>
      have inside : ∀ c ∈ f.name, isNewline c = false := by
        intro c member
        apply beq_false_of_ne
        rintro rfl
        exact single f List.mem_cons_self member
      rw [List.flatMap_cons, List.append_assoc,
        lines_append _ _ _ (terminated_line isNewline f.name '\n' rfl),
        lines_concat isNewline f.name '\n' rfl inside,
        ih fun g member => single g (List.mem_cons_of_mem f member)]
      rfl

theorem lines_first (name rest : Text) : ∃ others,
    lines isNewline (name ++ '\n' :: rest) = name.takeWhile (· != '\n') :: others := by
  induction name with
  | nil => exact ⟨_, lines_end isNewline '\n' rest rfl⟩
  | cons c name ih =>
      by_cases newline : c = '\n'
      · rw [newline]
        exact ⟨_, lines_end isNewline '\n' _ rfl⟩
      · obtain ⟨others, found⟩ := ih
        refine ⟨others, ?_⟩
        have more : (c != '\n') = true := bne_iff_ne.mpr newline
        rw [List.cons_append, lines, found, if_neg (by simpa [isNewline] using newline),
          List.takeWhile_cons, if_pos more]

/-- Behind names of one line each the menu starts the next name, up to its first newline. -/
theorem BOARD_eq (boards : List BoardFile) (i : Nat) (f : BoardFile)
    (place : (visible boards)[i]? = some f)
    (earlier : ∀ g ∈ (visible boards).take i, '\n' ∉ g.name) :
    BOARD boards (i + 1) = f.name.takeWhile (· != '\n') := by
  obtain ⟨inside, rfl⟩ := List.getElem?_eq_some_iff.mp place
  unfold BOARD ls
  generalize visible boards = files at *
  have split : files = files.take i ++ files[i] :: files.drop (i + 1) := by
    rw [List.getElem_cons_drop, List.take_append_drop]
  obtain ⟨others, found⟩ := lines_first files[i].name
    ((files.drop (i + 1)).flatMap fun f => f.name ++ ['\n'])
  have listing : lines isNewline (files.flatMap fun f => f.name ++ ['\n']) =
      (files.take i).map BoardFile.name ++ files[i].name.takeWhile (· != '\n') :: others := by
    conv_lhs => rw [split]
    rw [List.flatMap_append, List.flatMap_cons, List.append_assoc, List.singleton_append,
      lines_ls _ earlier, found]
  have long : ((files.take i).map BoardFile.name).length = i := by
    rw [List.length_map, List.length_take]
    omega
  rw [listing, List.getLast?_take, if_neg (Nat.succ_ne_zero i), Nat.add_sub_cancel,
    List.getElem?_append_right (Nat.le_of_eq long), long, Nat.sub_self]
  rfl

theorem takeWhile_line (name : Text) (line : '\n' ∉ name) :
    name.takeWhile (· != '\n') = name := by
  apply List.takeWhile_eq_self_iff.mpr
  intro c member
  apply bne_iff_ne.mpr
  rintro rfl
  exact line member

/-- With aligned files the menu runs what it shows. -/
theorem runs_of_aligned (glob : Text → List Text) (boards : List BoardFile)
    (aligned : Aligned glob boards) : RunsWhatItShows glob boards := by
  have own : ∀ line ∈ entries boards, ∃ i, isFrom i line = true := by
    intro line member
    obtain ⟨marked, found⟩ := List.mem_filter.mp member
    exact aligned.glued line marked found
  have single : ∀ i < (visible boards).length, (entries boards).countP (isFrom i) = 1 := by
    intro i inside
    rw [← single_iff]
    exact aligned.single i inside
  have earlier (n : Nat) : ∀ f ∈ (visible boards).take n, '\n' ∉ f.name :=
    fun f member => (aligned.names f (List.mem_of_mem_take member)).1
  have runs : ∀ (i : Nat) f, (visible boards)[i]? = some f →
      started glob boards (i + 1) = some f.name := by
    intro i f place
    obtain ⟨line, first⟩ := aligned.names f (List.mem_of_getElem? place)
    rw [started, BOARD_eq boards i f place (earlier i), takeWhile_line f.name line, first]
  constructor
  · intro n shown place
    obtain ⟨line, there, text⟩ := (menu_place boards n shown).mp place
    have member := List.mem_of_getElem? there
    have alone := (number_of_place boards own single n n line there).mpr rfl
    have first := (isFrom_iff line (entry_ne_nil boards line member) (own line member) n).mp alone
    have inside : n < (visible boards).length := by
      rw [← first]
      exact number_lt boards line member
    have file := List.getElem?_eq_getElem inside
    exact ⟨line, n, _, there, text.symm, alone, file, runs n _ file⟩
  · intro f member
    exact (mem_visible_iff boards f).mpr ⟨member, aligned.dots f member⟩
  · intro i inside
    exact (countP_eq_one_iff (isFrom i) (entries boards)).mp (single i inside)

/-- Board files for which the menu is right: a dot-free name that is one word and no
pattern, a last line that ends, and one line about the label. -/
structure Plain (glob : Text → List Text) (f : BoardFile) : Prop where
  dot : f.name.head? ≠ some '.'
  line : '\n' ∉ f.name
  word : IsWord f.name
  pattern : glob f.name = [f.name]
  terminated : Terminated isNewline f.contents
  single : (lines isNewline f.contents).countP mentions = 1

/-- Without shared lines the lines of the concatenation are those of the files. -/
theorem lines_marked (i : Nat) (f : BoardFile) (files : List BoardFile)
    (terminated : Terminated isNewline f.contents) :
    lines (fun c => isNewline c.2) (markedFrom i (f :: files)) =
      (lines isNewline f.contents).map (List.map fun c => (i, c)) ++
        lines (fun c => isNewline c.2) (markedFrom (i + 1) files) := by
  have own : Terminated (fun c : Nat × Char => isNewline c.2) (f.contents.map fun c => (i, c)) := by
    intro c last
    rw [List.getLast?_map, Option.map_eq_some_iff] at last
    obtain ⟨d, there, rfl⟩ := last
    exact terminated d there
  rw [markedFrom, lines_append _ _ _ own, lines_map]

theorem isFrom_block (i k : Nat) (line : Text) (nonempty : line ≠ []) :
    isFrom k (line.map fun c => (i, c)) = decide (i = k) := by
  obtain ⟨c, rest, rfl⟩ := List.exists_cons_of_ne_nil nonempty
  by_cases same : i = k <;> simp [isFrom, same]

theorem countP_block (i k : Nat) (text : List Text) :
    (text.map (List.map fun c => (i, c))).countP
        (fun line => mentions (plainText line) && isFrom k line) =
      if i = k then text.countP mentions else 0 := by
  have both (line : Text) : (mentions (plainText (line.map fun c => (i, c))) &&
      isFrom k (line.map fun c => (i, c))) = (mentions line && decide (i = k)) := by
    have plain : plainText (line.map fun c => (i, c)) = line := by
      rw [plainText, List.map_map]
      exact List.map_id line
    rw [plain]
    cases found : mentions line with
    | false => rfl
    | true =>
        have nonempty : line ≠ [] := by
          intro empty
          rw [empty] at found
          cases found
        rw [isFrom_block i k line nonempty]
  rw [List.countP_map]
  show text.countP (fun line => mentions (plainText (line.map fun c => (i, c))) &&
    isFrom k (line.map fun c => (i, c))) = _
  simp only [both]
  split
  · rename_i same
    simp only [same, decide_true, Bool.and_true]
  · rename_i other
    simp only [other, decide_false, Bool.and_false, List.countP_eq_zero]
    intro _ _
    decide

/-- Each file has its own lines, wherever it stands. -/
theorem countP_marked (i : Nat) (files : List BoardFile)
    (terminated : ∀ f ∈ files, Terminated isNewline f.contents) :
    (∀ k < i, (lines (fun c => isNewline c.2) (markedFrom i files)).countP
      (fun line => mentions (plainText line) && isFrom k line) = 0) ∧
    ∀ (j : Nat) f, files[j]? = some f →
      (lines (fun c => isNewline c.2) (markedFrom i files)).countP
          (fun line => mentions (plainText line) && isFrom (i + j) line) =
        (lines isNewline f.contents).countP mentions := by
  induction files generalizing i with
  | nil => exact ⟨fun _ _ => rfl, nofun⟩
  | cons f files ih =>
      obtain ⟨earlier, own⟩ := ih (i + 1) fun g member =>
        terminated g (List.mem_cons_of_mem f member)
      rw [lines_marked i f files (terminated f List.mem_cons_self)]
      constructor
      · intro k before
        rw [List.countP_append, countP_block, if_neg (by omega), earlier k (by omega)]
      · intro j g place
        rw [List.countP_append, countP_block]
        cases j with
        | zero =>
            cases place
            rw [if_pos (Nat.add_zero i).symm, earlier (i + 0) (by omega)]
            rfl
        | succ j =>
            have later := own j g place
            rw [if_neg (by omega), Nat.zero_add, ← later]
            have shifted : i + (j + 1) = i + 1 + j := by omega
            rw [shifted]

theorem marked_own (i : Nat) (files : List BoardFile)
    (terminated : ∀ f ∈ files, Terminated isNewline f.contents) (line : List (Nat × Char))
    (member : line ∈ lines (fun c => isNewline c.2) (markedFrom i files)) :
    ∃ k, isFrom k line = true := by
  induction files generalizing i with
  | nil => cases member
  | cons f files ih =>
      rw [lines_marked i f files (terminated f List.mem_cons_self)] at member
      rcases List.mem_append.mp member with own | later
      · obtain ⟨text, _, rfl⟩ := List.mem_map.mp own
        refine ⟨i, List.all_eq_true.mpr ?_⟩
        intro c inside
        obtain ⟨_, _, rfl⟩ := List.mem_map.mp inside
        exact beq_self_eq_true i
      · exact ih (i + 1) (fun g member => terminated g (List.mem_cons_of_mem f member)) later

/-- With plain files the menu runs what it shows. -/
theorem runsWhatItShows_of_plain (glob : Text → List Text) (boards : List BoardFile)
    (plain : ∀ f ∈ boards, Plain glob f) : RunsWhatItShows glob boards := by
  have shown (f : BoardFile) (member : f ∈ visible boards) : Plain glob f :=
    plain f ((mem_visible_iff boards f).mp member).1
  have terminated : ∀ f ∈ visible boards, Terminated isNewline f.contents :=
    fun f member => (shown f member).terminated
  apply runs_of_aligned
  constructor
  · exact fun f member => (plain f member).dot
  · exact fun line member _ => marked_own 0 (visible boards) terminated line member
  · intro i inside
    have file := List.getElem?_eq_getElem inside
    have counted := (countP_marked 0 (visible boards) terminated).2 i _ file
    rw [Nat.zero_add] at counted
    exact counted.trans (shown _ (List.getElem_mem inside)).single
  · intro f member
    have own := shown f member
    refine ⟨own.line, ?_⟩
    rw [words_word f.name own.word, List.flatMap_singleton, own.pattern]
    rfl

end ImageBuilder.Menu
