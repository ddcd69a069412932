import ImageBuilder.Growpart
import ImageBuilder.SingleMatch

set_option autoImplicit false

/- growpart's way through the dump of sfdisk: what it reads out of the lines, and
what it writes back. -/
namespace ImageBuilder.Growpart

open PlainText Numerals Extents SingleMatch QuotedText

section Script

/-- `s/,//g; s/start=/start /; s/size=/size /` -/
def dump_mod (line : Text) : Text :=
  replaceFirst (("size" : Text) ++ ['=']) (("size" : Text) ++ [' '])
    (replaceFirst (("start" : Text) ++ ['=']) (("start" : Text) ++ [' ']) (replaceAll [','] [] line))

/-- `$1 == pt { print $n }`, as a command substitution captures it. -/
def printed (pt : Text) (n : Nat) (lines : List Text) : Text :=
  ['\n'].intercalate ((lines.filter fun line => (words line)[0]? == some pt).map fun line =>
    (words line)[n - 1]?.getD [])

/-- The numbers behind `start` in the third column. -/
def starts (lines : List Text) : List Nat :=
  lines.filterMap fun line =>
    if (words line)[2]? == some ("start" : Text) then number? ((words line)[3]?.getD []) else none

/-- `/^last-lba:/d` for a GPT -/
def unbounded (format : Format) (dump_out : List Text) : List Text :=
  match format with
  | .gpt => dump_out.filter fun line => !("last-lba:" : Text).isPrefixOf line
  | .dos => dump_out

/-- `\|^\s*dpart |s/\(.*\)pt_size,/\1new_size,/` -/
def resizeLine (dpart pt_size new_size line : Text) : Text :=
  if (dpart ++ [' ']).isPrefixOf (line.dropWhile isBlank) then
    replaceLast (pt_size ++ [',']) (new_size ++ [',']) line
  else line

/-- What the script comes to before sfdisk writes: the new dump is its input. -/
inductive Script
  | fail (message : Text)
  | nochange (message : Text)
  | write (new_out : List Text) (change_info : Text)
  deriving DecidableEq

def resize_sfdisk_script (DISK dpart : Text) (format : Format) (geometry : Geometry)
    (options : Options) (PART : Nat) (dump_out : List Text) : Script :=
  let lines := dump_out.map dump_mod
  let pt_start := printed dpart 4 lines
  let pt_size := printed dpart 6 lines
  match number? pt_start, number? pt_size with
  | some start, some size =>
      match grown format geometry options (starts lines) PART start size with
      | .nochange message => .nochange message
      | .change new_size change_info =>
          .write ((unbounded format dump_out).map (resizeLine dpart pt_size (decimal new_size)))
            change_info
  | _, _ =>
      .fail (("failed to get start and end for " : Text) ++ dpart ++ (" in " : Text) ++ DISK)

end Script

section Dump

/-- What sfdisk prints of the name that a partition has, and of none. -/
structure Label where
  text : Text → Text
  unnamed : text [] = []

/-- How the tools call the partitions of a disk. -/
structure Naming where
  name : Nat → Text
  label : Label
  solid : ∀ n, ∀ c ∈ name n, isBlank c = false
  equals : ∀ n, '=' ∉ name n
  comma : ∀ n, ',' ∉ name n
  rooted : ∀ n, (name n).head? = some '/'
  injective : Function.Injective name

/-- A line of the dump that is about the disk: `key: value`, or nothing. -/
structure Header where
  line : Text
  equals : '=' ∉ line
  comma : ',' ∉ line
  short : (words line).length ≤ 2
  rootless : ∀ word ∈ (words line).head?, word.head? ≠ some '/'

/-- A line about a partition. Its numbers are padded with blanks. -/
structure Row where
  entry : Entry
  startBlanks : Nat
  sizeBlanks : Nat
  typed : (", " : Text) <+: entry.fields

def blanks (n : Nat) : Text := List.replicate n ' '

/-- A line up to the size. -/
def Row.front (naming : Naming) (row : Row) : Text :=
  naming.name row.entry.number ++ ((" : " : Text) ++ ((("start" : Text) ++ ['=']) ++
    (blanks row.startBlanks ++ (decimal row.entry.start ++ ((", " : Text) ++
      ((("size" : Text) ++ ['=']) ++ blanks row.sizeBlanks))))))

/-- A line behind its type and identifiers -/
def Row.rest (naming : Naming) (row : Row) : Text :=
  naming.label.text row.entry.name ++ row.entry.attrs

def Row.line (naming : Naming) (row : Row) : Text :=
  row.front naming ++ (decimal row.entry.size ++ (row.entry.fields ++ row.rest naming))

/-- What `sfdisk --dump` prints. -/
def dump (naming : Naming) (headers : List Header) (rows : List Row) : List Text :=
  headers.map Header.line ++ rows.map (Row.line naming)

variable {naming : Naming} {header : Header} {row : Row}

theorem words_blanks (n : Nat) (rest : Text) : words (blanks n ++ rest) = words rest := by
  induction n with
  | zero => rfl
  | succ n ih =>
    rw [← ih]
    exact words_append [] (blanks n ++ rest) ' ' rfl

theorem words_dropWhile (line : Text) : words (line.dropWhile isBlank) = words line := by
  induction line with
  | nil => rfl
  | cons c rest ih =>
    by_cases blank : isBlank c = true
    · rw [List.dropWhile_cons_of_pos blank, ih]
      exact (words_append [] rest c blank).symm
    · rw [List.dropWhile_cons_of_neg blank]

theorem words_decimal (n : Nat) : words (decimal n) = [decimal n] := by
  apply words_word
  have digits := isDigit_of_mem_decimal n
  refine ⟨decimal_ne_nil n, solid_of_not_mem _ ?_ ?_ ?_⟩ <;>
    exact not_mem_decimal n (by decide)

theorem Header.dump_mod (header : Header) : dump_mod header.line = header.line := by
  have equals (word : Text) : ¬ word ++ ['='] <:+: header.line := fun found =>
    header.equals (found.subset (by simp))
  have comma : ¬ [','] <:+: header.line := fun found => header.comma (found.subset (by simp))
  unfold Growpart.dump_mod
  rw [replaceAll_of_absent _ _ _ comma, replaceFirst_of_absent (equals _),
    replaceFirst_of_absent (equals _)]

theorem filter_comma (text : Text) (absent : ',' ∉ text) : text.filter (· != ',') = text := by
  rw [List.filter_eq_self]
  intro c member
  exact bne_iff_ne.mpr fun is => absent (is ▸ member)

/-- A partition's line without its commas and equal signs, up to the size. -/
theorem Row.dump_mod (naming : Naming) (row : Row) : ∃ more,
    Growpart.dump_mod (row.line naming) =
      naming.name row.entry.number ++ ' ' :: ((":" : Text) ++ ' ' :: (("start" : Text) ++
        ' ' :: (blanks row.startBlanks ++ decimal row.entry.start ++ ' ' :: (("size" : Text) ++
          ' ' :: (blanks row.sizeBlanks ++ decimal row.entry.size ++ ' ' :: more))))) := by
  obtain ⟨typed, fields⟩ := row.typed
  have digits (n : Nat) : ',' ∉ decimal n ∧ '=' ∉ decimal n :=
    ⟨not_mem_decimal n (by decide), not_mem_decimal n (by decide)⟩
  have spaces (n : Nat) : ',' ∉ blanks n ∧ '=' ∉ blanks n := by simp [blanks]
  have word : '=' ∉ ("start" : Text) ∧ '=' ∉ ("size" : Text) := by decide
  refine ⟨(typed ++ row.rest naming).filter (· != ','), ?_⟩
  -- the commas
  have commas : replaceAll [','] [] (row.line naming) =
      (naming.name row.entry.number ++ (" : " : Text)) ++ ((("start" : Text) ++ ['=']) ++
        (blanks row.startBlanks ++ (decimal row.entry.start ++ ([' '] ++
          ((("size" : Text) ++ ['=']) ++ (blanks row.sizeBlanks ++ (decimal row.entry.size ++
            ' ' :: (typed ++ row.rest naming).filter (· != ',')))))))) := by
    rw [replaceAll_delete, Row.line, Row.front, ← fields]
    simp only [List.filter_append, filter_comma _ (naming.comma _), filter_comma _ (digits _).1,
      filter_comma _ (spaces _).1, List.append_assoc]
    rfl
  have first : '=' ∉ naming.name row.entry.number ++ (" : " : Text) :=
    List.not_mem_append (naming.equals _) (by decide)
  have second : '=' ∉ naming.name row.entry.number ++ (" : " : Text) ++
      (("start" : Text) ++ [' '] ++ (blanks row.startBlanks ++ (decimal row.entry.start ++ [' ']))) := by
    apply List.not_mem_append first
    apply List.not_mem_append (by decide)
    exact List.not_mem_append (spaces _).2 (List.not_mem_append (digits _).2 (by decide))
  unfold Growpart.dump_mod
  rw [commas, replaceFirst_past first word.1]
  have past := @replaceFirst_past ("size" : Text) (("size" : Text) ++ [' ']) _
    (blanks row.sizeBlanks ++ (decimal row.entry.size ++
      ' ' :: (typed ++ row.rest naming).filter (· != ','))) '=' second word.2
  simp only [List.append_assoc, List.cons_append, List.nil_append] at past ⊢
  rw [past]
  rfl

theorem Naming.name_ne_nil (naming : Naming) (n : Nat) : naming.name n ≠ [] := by
  intro empty
  have root := naming.rooted n
  rw [empty] at root
  cases root

theorem Row.words_dump_mod (naming : Naming) (row : Row) :
    ∃ more, words (Growpart.dump_mod (row.line naming)) =
      naming.name row.entry.number :: (":" : Text) :: ("start" : Text) ::
        decimal row.entry.start :: ("size" : Text) :: decimal row.entry.size :: more := by
  obtain ⟨more, line⟩ := row.dump_mod naming
  have colon : words (":" : Text) = [(":" : Text)] := words_word _ (by decide)
  have start : words ("start" : Text) = [("start" : Text)] := words_word _ (by decide)
  have size : words ("size" : Text) = [("size" : Text)] := words_word _ (by decide)
  refine ⟨words more, ?_⟩
  rw [line, words_append _ _ ' ' rfl, words_append _ _ ' ' rfl, words_append _ _ ' ' rfl,
    words_append _ _ ' ' rfl, words_append _ _ ' ' rfl, words_append _ _ ' ' rfl, words_blanks,
    words_blanks, words_decimal, words_decimal, colon, start, size,
    words_word _ ⟨naming.name_ne_nil _, naming.solid _⟩]
  rfl

end Dump

section Written

variable {naming : Naming}

/-- The text behind the comma that ends the size. -/
def Entry.behind (naming : Naming) (entry : Entry) : Text :=
  (entry.fields ++ (naming.label.text entry.name ++ entry.attrs)).tail

/-- The size does not come again. -/
def Entry.Once (naming : Naming) (entry : Entry) : Prop :=
  ¬ decimal entry.size ++ [','] <:+: entry.behind naming

instance (naming : Naming) (entry : Entry) : Decidable (entry.Once naming) :=
  inferInstanceAs (Decidable (¬ decimal entry.size ++ [','] <:+: entry.behind naming))

theorem Row.line_eq (naming : Naming) (row : Row) : row.line naming =
    row.front naming ++ (decimal row.entry.size ++ ',' :: row.entry.behind naming) := by
  obtain ⟨typed, fields⟩ := row.typed
  rw [Row.line, Row.rest, Entry.behind, ← fields]
  rfl

/-- What starts with a partition's name and a blank. -/
theorem Naming.addressed_iff (naming : Naming) (n number : Nat) (rest : Text) :
    (naming.name n ++ [' ']).isPrefixOf
        ((naming.name number ++ ' ' :: rest).dropWhile isBlank) = true ↔ number = n := by
  have space (n : Nat) : ' ' ∉ naming.name n := fun member =>
    absurd (naming.solid n ' ' member) (by decide)
  have start : (naming.name number ++ ' ' :: rest).dropWhile isBlank =
      naming.name number ++ ' ' :: rest := by
    have root := naming.rooted number
    obtain ⟨c, tail, name⟩ := List.exists_cons_of_ne_nil (naming.name_ne_nil number)
    rw [name, List.head?_cons, Option.some_inj] at root
    rw [name, root]
    exact List.dropWhile_cons_of_neg (by decide)
  rw [start, List.isPrefixOf_iff_prefix]
  constructor
  · rintro ⟨more, whole⟩
    rw [List.append_assoc] at whole
    exact (naming.injective (cut_first (space n) (space number) whole).1).symm
  · rintro rfl
    exact ⟨rest, List.append_assoc _ _ _⟩

theorem resizeLine_other (row : Row) (n : Nat) (pt_size new_size : Text)
    (other : row.entry.number ≠ n) :
    resizeLine (naming.name n) pt_size new_size (row.line naming) = row.line naming := by
  apply if_neg
  rw [Row.line, Row.front, List.append_assoc]
  exact (naming.addressed_iff n row.entry.number _).not.mpr other

/-- In the partition's own line the last match counts. -/
theorem resizeLine_own (row : Row) (new_size : Text) :
    resizeLine (naming.name row.entry.number) (decimal row.entry.size) new_size
        (row.line naming) =
      replaceLast (decimal row.entry.size ++ [',']) (new_size ++ [',']) (row.line naming) := by
  apply if_pos
  rw [Row.line, Row.front, List.append_assoc]
  exact (naming.addressed_iff row.entry.number row.entry.number _).mpr rfl

theorem resizeLine_once (row : Row) (once : row.entry.Once naming) (new_size : Text) :
    resizeLine (naming.name row.entry.number) (decimal row.entry.size) new_size
        (row.line naming) = row.front naming ++ (new_size ++ ',' :: row.entry.behind naming) := by
  have digits : ',' ∉ decimal row.entry.size := not_mem_decimal row.entry.size (by decide)
  have here : decimal row.entry.size ++ [','] <:+:
      decimal row.entry.size ++ ',' :: row.entry.behind naming := ⟨[], row.entry.behind naming, by simp⟩
  rw [resizeLine_own, Row.line_eq, replaceLast_append here,
    replaceLast_here (decimal_ne_nil _) digits once, List.append_assoc]
  rfl

/-- Where the size comes again it stays, and what is behind it is changed. -/
theorem resizeLine_again (row : Row) (again : ¬ row.entry.Once naming) (new_size : Text) :
    resizeLine (naming.name row.entry.number) (decimal row.entry.size) new_size
        (row.line naming) = row.front naming ++ (decimal row.entry.size ++ ',' ::
      replaceLast (decimal row.entry.size ++ [',']) (new_size ++ [',']) (row.entry.behind naming)) := by
  have later : decimal row.entry.size ++ [','] <:+: row.entry.behind naming := not_not.mp again
  have split : row.line naming = (row.front naming ++ (decimal row.entry.size ++ [','])) ++
      row.entry.behind naming := by
    rw [Row.line_eq, List.append_assoc, List.append_assoc]
    rfl
  rw [resizeLine_own, split, replaceLast_append later, List.append_assoc, List.append_assoc]
  rfl

theorem resizeLine_header (header : Header) (n : Nat) (pt_size new_size : Text) :
    resizeLine (naming.name n) pt_size new_size header.line = header.line := by
  apply if_neg
  intro addressed
  obtain ⟨more, whole⟩ := List.isPrefixOf_iff_prefix.mp addressed
  rw [List.append_assoc] at whole
  have first : words header.line = naming.name n :: words more := by
    rw [← words_dropWhile, ← whole]
    exact (words_append _ more ' ' rfl).trans
      (congrArg (· ++ words more) (words_word _ ⟨naming.name_ne_nil n, naming.solid n⟩))
  exact header.rootless (naming.name n) (by rw [first]; rfl) (naming.rooted n)

end Written

section Lookup

variable {naming : Naming}

theorem Header.unnamed (header : Header) (n : Nat) :
    ((words (Growpart.dump_mod header.line))[0]? == some (naming.name n)) = false := by
  rw [header.dump_mod, beq_eq_false_iff_ne]
  intro first
  rw [← List.head?_eq_getElem?] at first
  exact header.rootless (naming.name n) first (naming.rooted n)

theorem Row.named (naming : Naming) (row : Row) (n : Nat) :
    ((words (Growpart.dump_mod (row.line naming)))[0]? == some (naming.name n)) =
      (row.entry.number == n) := by
  obtain ⟨more, columns⟩ := row.words_dump_mod naming
  rw [columns]
  by_cases same : row.entry.number = n
  · rw [same]
    simp
  · have other : naming.name row.entry.number ≠ naming.name n := fun is =>
      same (naming.injective is)
    simp [same, other]

theorem starts_dump (headers : List Header) (rows : List Row) :
    starts ((dump naming headers rows).map dump_mod) = rows.map fun row => row.entry.start := by
  have above : starts ((headers.map Header.line).map dump_mod) = [] := by
    rw [starts, List.filterMap_eq_nil_iff]
    intro line member
    rw [List.map_map, List.mem_map] at member
    obtain ⟨header, -, rfl⟩ := member
    have short := header.short
    have third : (words header.line)[2]? = none := List.getElem?_eq_none short
    rw [Function.comp_apply, header.dump_mod, third]
    rfl
  have below : starts ((rows.map (Row.line naming)).map dump_mod) =
      rows.map fun row => row.entry.start := by
    rw [starts, List.map_map, List.filterMap_map, ← List.filterMap_eq_map]
    apply List.filterMap_congr
    intro row _
    obtain ⟨more, columns⟩ := row.words_dump_mod naming
    rw [Function.comp_apply, Function.comp_apply, columns]
    exact number?_decimal row.entry.start
  unfold starts at above below ⊢
  rw [dump, List.map_append, List.filterMap_append, above, below]
  rfl

/-- The columns that are printed: of the rows with the number. -/
theorem printed_dump (headers : List Header) (rows : List Row) (n column : Nat) :
    printed (naming.name n) column ((dump naming headers rows).map dump_mod) =
      ['\n'].intercalate ((rows.filter fun row => row.entry.number == n).map fun row =>
        (words (dump_mod (row.line naming)))[column - 1]?.getD []) := by
  have above : ((headers.map Header.line).map dump_mod).filter
      (fun line => (words line)[0]? == some (naming.name n)) = [] := by
    rw [List.filter_eq_nil_iff]
    intro line member
    rw [List.map_map, List.mem_map] at member
    obtain ⟨header, -, rfl⟩ := member
    rw [Function.comp_apply, header.unnamed n]
    exact Bool.false_ne_true
  have below : ((rows.map (Row.line naming)).map dump_mod).filter
      (fun line => (words line)[0]? == some (naming.name n)) =
      (rows.filter fun row => row.entry.number == n).map fun row => dump_mod (row.line naming) := by
    rw [List.map_map, List.filter_map]
    apply congrArg
    apply List.filter_congr
    intro row _
    exact row.named naming n
  rw [printed, dump, List.map_append, List.filter_append, above, below, List.nil_append,
    List.map_map]
  rfl

/-- A number is given to one row. -/
theorem filter_number (rows : List Row)
    (separate : Separate Entry.number Entry.extent (rows.map Row.entry)) (row : Row)
    (member : row ∈ rows) :
    (rows.filter fun other => other.entry.number == row.entry.number) = [row] := by
  induction rows with
  | nil => cases member
  | cons first rows ih =>
    obtain ⟨others, rest⟩ := List.pairwise_cons.mp separate
    have different (other : Row) (later : other ∈ rows) :
        first.entry.number ≠ other.entry.number :=
      (others other.entry (List.mem_map_of_mem later)).1
    rcases List.mem_cons.mp member with rfl | later
    · rw [List.filter_cons_of_pos (by simp)]
      apply congrArg
      rw [List.filter_eq_nil_iff]
      intro other otherIn same
      exact different other otherIn (eq_of_beq same).symm
    · rw [List.filter_cons_of_neg (by simpa using different row later)]
      exact ih rest later

/-- The fourth and the sixth column are start and size of the one row. -/
theorem printed_own (headers : List Header) (rows : List Row)
    (separate : Separate Entry.number Entry.extent (rows.map Row.entry)) (row : Row)
    (member : row ∈ rows) :
    printed (naming.name row.entry.number) 4 ((dump naming headers rows).map dump_mod) =
        decimal row.entry.start ∧
      printed (naming.name row.entry.number) 6 ((dump naming headers rows).map dump_mod) =
        decimal row.entry.size := by
  obtain ⟨more, columns⟩ := row.words_dump_mod naming
  rw [printed_dump, printed_dump, filter_number rows separate row member, List.map_singleton,
    List.map_singleton, List.intercalate_singleton, List.intercalate_singleton, columns]
  exact ⟨rfl, rfl⟩

end Lookup

section Refinement

def Entry.place (entry : Entry) : Nat × Nat × Nat := (entry.number, entry.start, entry.size)

/-- The script does what the numbers say, if the size does not come again behind
itself; else the dump it writes moves and resizes nothing. -/
def Script.Does (disk : Disk) (naming : Naming) (headers : List Header) (script : Script) :
    Outcome → Prop
  | .fail message => script = .fail message
  | .nochange message => script = .nochange message
  | .changed old new keeps info => ∃ rows,
      script = .write (unbounded disk.format (dump naming headers rows)) info ∧
        (old.Once naming → rows.map Row.entry = (Outcome.changed old new keeps info).apply disk.table) ∧
        (¬ old.Once naming → rows.map (fun row => row.entry.place) = disk.table.map Entry.place)

variable {naming : Naming}

theorem not_prefix_space (n : Nat) (rest : Text) : ¬ decimal n ++ [','] <+: ' ' :: rest := by
  intro first
  have digits : ' ' ∉ decimal n := not_mem_decimal n (by decide)
  obtain ⟨c, tail, is⟩ := List.exists_cons_of_ne_nil (decimal_ne_nil n)
  rw [is] at first digits
  exact digits ((List.cons_prefix_cons.mp first).1 ▸ List.mem_cons_self)

theorem Row.resized_once (row : Row) (new : Entry) (keeps : Keeps row.entry new)
    (name : new.name = row.entry.name) (attrs : new.attrs = row.entry.attrs) (once : row.entry.Once naming) : ∃ after : Row,
    resizeLine (naming.name row.entry.number) (decimal row.entry.size) (decimal new.size)
        (row.line naming) = after.line naming ∧ after.entry = new := by
  have typed : (", " : Text) <+: new.fields := by
    rw [keeps.fields]
    exact row.typed
  refine ⟨⟨new, row.startBlanks, row.sizeBlanks, typed⟩, ?_, rfl⟩
  have behind : new.behind naming = row.entry.behind naming := by
    rw [Entry.behind, Entry.behind, keeps.fields, name, attrs]
  rw [resizeLine_once row once, Row.line_eq, Row.front, Row.front, behind, keeps.number, keeps.start]

/-- The substitution in the text behind the size leaves a row of the old size. -/
theorem Row.resized_again (row : Row) (new_size : Text) (again : ¬ row.entry.Once naming) :
    ∃ after : Row, resizeLine (naming.name row.entry.number) (decimal row.entry.size) new_size
        (row.line naming) = after.line naming ∧ after.entry.place = row.entry.place := by
  obtain ⟨typed, fields⟩ := row.typed
  have behind : row.entry.behind naming = [' '] ++ (typed ++ row.rest naming) := by
    rw [Entry.behind, Row.rest, ← fields]
    rfl
  have later : decimal row.entry.size ++ [','] <:+: typed ++ row.rest naming := by
    have occurs : decimal row.entry.size ++ [','] <:+: row.entry.behind naming := not_not.mp again
    rw [behind] at occurs
    rcases List.infix_cons_iff.mp occurs with first | later
    · exact absurd first (not_prefix_space _ _)
    · exact later
  refine ⟨⟨{ row.entry with
    fields := (", " : Text) ++ replaceLast (decimal row.entry.size ++ [',']) (new_size ++ [','])
      (typed ++ row.rest naming)
    name := []
    attrs := [] }, row.startBlanks, row.sizeBlanks, ⟨_, rfl⟩⟩, ?_, rfl⟩
  rw [resizeLine_again row again, Row.line_eq, Row.front, Row.front, behind, replaceLast_append later]
  simp only [Entry.behind, naming.label.unnamed, List.append_nil]
  rfl

theorem unbounded_dump (format : Format) (headers : List Header) (rows : List Row) :
    unbounded format (dump naming headers rows) =
      unbounded format (headers.map Header.line) ++ rows.map (Row.line naming) := by
  cases format with
  | dos => rfl
  | gpt =>
    have kept : (rows.map (Row.line naming)).filter
        (fun line => !("last-lba:" : Text).isPrefixOf line) = rows.map (Row.line naming) := by
      rw [List.filter_eq_self]
      intro line member
      obtain ⟨row, -, rfl⟩ := List.mem_map.mp member
      have root := naming.rooted row.entry.number
      obtain ⟨c, tail, name⟩ := List.exists_cons_of_ne_nil (naming.name_ne_nil row.entry.number)
      rw [name, List.head?_cons, Option.some_inj] at root
      rw [Row.line, Row.front, name, root]
      rfl
    rw [unbounded, dump, List.filter_append, kept]
    rfl

/-- The headers come through as they are. -/
theorem written_dump (format : Format) (headers : List Header) (rows : List Row) (n : Nat)
    (pt_size new_size : Text) :
    (unbounded format (dump naming headers rows)).map (resizeLine (naming.name n) pt_size new_size) =
      unbounded format (headers.map Header.line) ++
        rows.map fun row => resizeLine (naming.name n) pt_size new_size (row.line naming) := by
  have above : (unbounded format (headers.map Header.line)).map
      (resizeLine (naming.name n) pt_size new_size) =
      unbounded format (headers.map Header.line) := by
    rw [List.map_congr_left, List.map_id]
    intro line member
    have listed : line ∈ headers.map Header.line := by
      cases format with
      | dos => exact member
      | gpt => exact List.mem_of_mem_filter member
    obtain ⟨header, -, rfl⟩ := List.mem_map.mp listed
    exact resizeLine_header header n pt_size new_size
  rw [unbounded_dump, List.map_append, above, List.map_map]
  rfl

/-- Row by row: what the script makes of a dump whose one partition is to grow. -/
theorem rows_resized (disk : Disk) (rows : List Row) (listed : rows.map Row.entry = disk.table)
    (own : Row) (ownIn : own ∈ rows) (new : Entry) (keeps : Keeps own.entry new) (info : Text)
    (name : new.name = own.entry.name) (attrs : new.attrs = own.entry.attrs) :
    ∃ after : List Row,
    (rows.map fun row => resizeLine (naming.name own.entry.number) (decimal own.entry.size)
        (decimal new.size) (row.line naming)) = after.map (Row.line naming) ∧
      (own.entry.Once naming →
        after.map Row.entry = (Outcome.changed own.entry new keeps info).apply disk.table) ∧
      (¬ own.entry.Once naming → after.map (fun row => row.entry.place) = disk.table.map Entry.place) := by
  have unique (row : Row) (member : row ∈ rows) (same : row.entry.number = own.entry.number) :
      row.entry = own.entry := by
    apply disk.separate.eq_of_key _ _ same
    · rw [← listed]
      exact List.mem_map_of_mem member
    · rw [← listed]
      exact List.mem_map_of_mem ownIn
  have each (row : Row) : ∃ after : Row, row ∈ rows →
      resizeLine (naming.name own.entry.number) (decimal own.entry.size) (decimal new.size)
          (row.line naming) = after.line naming ∧
        (own.entry.Once naming →
          after.entry = if row.entry.number = own.entry.number then new else row.entry) ∧
        (¬ own.entry.Once naming → after.entry.place = row.entry.place) := by
    by_cases same : row.entry = own.entry
    · rw [← same] at keeps name attrs ⊢
      by_cases once : row.entry.Once naming
      · obtain ⟨after, line, entry⟩ := row.resized_once new keeps name attrs once
        exact ⟨after, fun _ => ⟨line, fun _ => by rw [if_pos rfl, entry], absurd once⟩⟩
      · obtain ⟨after, line, place⟩ := row.resized_again (decimal new.size) once
        exact ⟨after, fun _ => ⟨line, fun is => absurd is once, fun _ => place⟩⟩
    · refine ⟨row, fun member => ?_⟩
      have other : row.entry.number ≠ own.entry.number := fun is => same (unique row member is)
      exact ⟨resizeLine_other row _ _ _ other, fun _ => by rw [if_neg other], fun _ => rfl⟩
  choose after spec using each
  refine ⟨rows.map after, ?_, ?_, ?_⟩
  · rw [List.map_map]
    exact List.map_congr_left fun row member => (spec row member).1
  · intro once
    rw [Outcome.apply, ← listed, List.map_map, List.map_map]
    exact List.map_congr_left fun row member => (spec row member).2.1 once
  · intro again
    rw [← listed, List.map_map, List.map_map]
    exact List.map_congr_left fun row member => (spec row member).2.2 again

/-- On the dump of a disk the script does what `resize_sfdisk` says of its table. -/
theorem script_does (disk : Disk) (headers : List Header) (rows : List Row)
    (listed : rows.map Row.entry = disk.table) (DISK : Text) (options : Options) (PART : Nat) :
    Script.Does disk naming headers
      (resize_sfdisk_script DISK (naming.name PART) disk.format disk.geometry options PART
        (dump naming headers rows))
      (resize_sfdisk DISK (naming.name PART) disk.format disk.geometry options disk.table PART) := by
  unfold resize_sfdisk_script
  dsimp only
  cases found : disk.table.find? fun entry => entry.number == PART with
  | none =>
    have absent : (rows.filter fun row => row.entry.number == PART) = [] := by
      rw [List.filter_eq_nil_iff]
      intro row member
      rw [List.find?_eq_none, ← listed] at found
      exact found row.entry (List.mem_map_of_mem member)
    unfold resize_sfdisk
    rw [found, printed_dump, printed_dump, absent]
    rfl
  | some old =>
    have oldIn := List.mem_of_find?_eq_some found
    obtain rfl : old.number = PART := by simpa using List.find?_some found
    obtain ⟨own, ownIn, rfl⟩ : ∃ row ∈ rows, row.entry = old := by
      rw [← listed] at oldIn
      exact List.mem_map.mp oldIn
    have separate := disk.separate
    rw [← listed] at separate
    obtain ⟨pt_start, pt_size⟩ := @printed_own naming headers rows separate own ownIn
    have startsOf : (rows.map fun row => row.entry.start) = disk.table.map Entry.start := by
      rw [← listed, List.map_map]
      rfl
    rw [starts_dump, pt_start, pt_size, number?_decimal, number?_decimal, startsOf]
    dsimp only
    cases decided : grown disk.format disk.geometry options (disk.table.map Entry.start)
        own.entry.number own.entry.start own.entry.size with
    | nochange message =>
      rw [resize_sfdisk_nochange DISK _ disk options own.entry message oldIn decided]
      rfl
    | change new_size info =>
      obtain ⟨new, keeps, changed, size, name, attrs⟩ := resize_sfdisk_change DISK
        (naming.name own.entry.number) disk options own.entry new_size info oldIn decided
      obtain ⟨after, lines, once, again⟩ := @rows_resized naming disk rows listed own ownIn new
        keeps info name attrs
      rw [changed, ← size]
      refine ⟨after, ?_, once, again⟩
      dsimp only
      rw [written_dump, lines, ← unbounded_dump]

end Refinement

end ImageBuilder.Growpart
