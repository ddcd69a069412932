import ImageBuilder.ShellWords
import Mathlib.Data.List.DropRight

set_option autoImplicit false

/- userdata.txt, as the configuration form writes it and as the stages source it. -/
namespace ImageBuilder.Userdata

open PlainText Shell

/-- What can be typed into a field. -/
structure Field where
  text : Text
  printable : ∀ c ∈ text, ' ' ≤ c ∧ c ≠ '\x7f'

/-- The editable fields of the form. -/
structure Form where
  NAME : Field
  USERNAME : Field
  PASSWORD : Field
  HOSTNAME : Field
  DISTRO : Field
  DISTRO_VERSION : Field
  NETWORKMANAGER : Field
  UBOOT_VERSION : Field
  VERSION : Field
  BUILD_VERSION : Field
  MENUCONFIG : Field
  COMPILER : Field
  CCACHE : Field
  CUSTOM_DEFCONFIG : Field
  MYCONFIG : Field
  LOGGING : Field
  VERBOSE : Field
  COMPRESS_IMG : Field
  USCRIPTS : Field
  USERACCT : Field

/-- The lines that dialog prints. -/
def Form.printed (given : Form) : List Text :=
  [given.NAME.text, given.USERNAME.text, given.PASSWORD.text, given.HOSTNAME.text,
    given.DISTRO.text, given.DISTRO_VERSION.text, given.NETWORKMANAGER.text,
    given.UBOOT_VERSION.text, given.VERSION.text, given.BUILD_VERSION.text,
    given.MENUCONFIG.text, given.COMPILER.text, given.CCACHE.text, given.CUSTOM_DEFCONFIG.text,
    given.MYCONFIG.text, given.LOGGING.text, given.VERBOSE.text, given.COMPRESS_IMG.text,
    given.USCRIPTS.text, given.USERACCT.text]

/-- A command substitution loses the newlines at the end. -/
def VALUES (given : Form) : List Text := given.printed.rdropWhile (·.isEmpty)

/-- What echo takes for its options. -/
def isOption : Text → Bool
  | '-' :: c :: rest => (c :: rest).all (· ∈ ['n', 'e', 'E'])
  | _ => false

/-- `echo "$VALUES"`, for the lines of one argument. -/
def echo : List Text → List Text
  | [] => [[]]
  | [line] => if isOption line then if 'n' ∈ line then [] else [[]] else [line]
  | lines => lines

def tmp0 : List Text :=
  ["NAME=\"", "USERNAME=\"", "PASSWORD=\"", "HOSTNAME=\"", "DISTRO=\"", "DISTRO_VERSION=\"",
    "NETWORKMANAGER=", "UBOOT_VERSION=\"", "VERSION=\"", "BUILD_VERSION=\"", "MENUCONFIG=",
    "COMPILER=\"", "CCACHE=", "CUSTOM_DEFCONFIG=", "MYCONFIG=\"", "LOGGING=", "VERBOSE=",
    "COMPRESS_IMG=", "USCRIPTS=", "USERACCT=",
    "ROOTPASSWD=\"0\"", "USER_PKGS=\"htop libsensors-dev rsyslog\"", "CORES=`nproc`",
    "CFLAGS=\"\"", "KBUSER=\"foghorn\"", "KBHOST=\"leghorn\"", "LOCALE=\"en_US.UTF-8\"",
    "LOCALE_LC_ALL=\"C.UTF-8\"", "TIMEZONE=\"America/New_York\"", "NAMESERVER1=\"8.8.8.8\"",
    "NAMESERVER2=\"8.8.4.4\"", "BUILDER=7.11"]

def tmp1 (given : Form) : List Text := echo (VALUES given)

def tmp2 : List Text :=
  ["\"", "\"", "\"", "\"", "\"", "\"", "", "\"", "\"", "\"", "", "\"", "", "", "_defconfig\""]

/-- `paste -d '\0'` for two files: a file that has ended gives empty lines. -/
def paste : List Text → List Text → List Text
  | lines, [] => lines
  | [], lines => lines
  | line :: lines, other :: others => (line ++ other) :: paste lines others

/-- `sed -i Nitext`, for a line number N. -/
def insertAt (number : Nat) (text : Text) (lines : List Text) : List Text :=
  if number ≤ lines.length then lines.insertIdx (number - 1) text else lines

/-- The category lines, in the order of the script. -/
def categories (lines : List Text) : List Text :=
  insertAt 39 "### DO NOT EDIT BELOW THIS LINE"
    (insertAt 33 "### LOCALES TIMEZONE AND NAMESERVERS"
      (insertAt 30 "### WHOAMI AND HOST"
        (insertAt 27 "### COMPILER TUNING"
          (insertAt 17 "### CUSTOM"
            (insertAt 10 "### UBOOT AND LINUX KERNEL"
              (insertAt 6 "### DISTRIBUTION AND RELEASE"
                (insertAt 1 "### USER INFORMATION" lines)))))))

/-- The four quoting substitutions on one line. -/
def requote (line : Text) : Text :=
  quoteWord "true" (quoteWord "false" (quoteWord "1" (quoteWord "0" line)))

/-- `sed -i NG;..`: the hold space is empty. The first argument is the number of the
first line. -/
def blankBehind (numbers : List Nat) : Nat → List Text → List Text
  | _, [] => []
  | number, line :: rest =>
    if number ∈ numbers then line :: [] :: blankBehind numbers (number + 1) rest
    else line :: blankBehind numbers (number + 1) rest

/-- The finished userdata.txt, line by line. -/
def userdata (given : Form) : List Text :=
  blankBehind [5, 9, 16, 26, 29, 32, 38] 1
    ((categories (paste (paste tmp0 (tmp1 given)) tmp2)).map requote)

/-- The value as it was typed. -/
def typed (text : Text) : List Piece := text.map .lit

/-- A variable of the form, whether its value is written between quotes, and its value. -/
structure Entry where
  name : Text
  quoted : Bool
  value : Text

/-- What the form is meant to set. -/
def Form.entries (given : Form) : List Entry :=
  [⟨"NAME", true, given.NAME.text⟩,
    ⟨"USERNAME", true, given.USERNAME.text⟩,
    ⟨"PASSWORD", true, given.PASSWORD.text⟩,
    ⟨"HOSTNAME", true, given.HOSTNAME.text⟩,
    ⟨"DISTRO", true, given.DISTRO.text⟩,
    ⟨"DISTRO_VERSION", true, given.DISTRO_VERSION.text⟩,
    ⟨"NETWORKMANAGER", false, given.NETWORKMANAGER.text⟩,
    ⟨"UBOOT_VERSION", true, given.UBOOT_VERSION.text⟩,
    ⟨"VERSION", true, given.VERSION.text⟩,
    ⟨"BUILD_VERSION", true, given.BUILD_VERSION.text⟩,
    ⟨"MENUCONFIG", false, given.MENUCONFIG.text⟩,
    ⟨"COMPILER", true, given.COMPILER.text⟩,
    ⟨"CCACHE", false, given.CCACHE.text⟩,
    ⟨"CUSTOM_DEFCONFIG", false, given.CUSTOM_DEFCONFIG.text⟩,
    ⟨"MYCONFIG", true, given.MYCONFIG.text ++ "_defconfig".toList⟩,
    ⟨"LOGGING", false, given.LOGGING.text⟩,
    ⟨"VERBOSE", false, given.VERBOSE.text⟩,
    ⟨"COMPRESS_IMG", false, given.COMPRESS_IMG.text⟩,
    ⟨"USCRIPTS", false, given.USCRIPTS.text⟩,
    ⟨"USERACCT", false, given.USERACCT.text⟩]

/-- The lines that do not depend on the form. -/
def fixed : List Text := tmp0.drop 20

/-- What these set. -/
def fixedAssignments : List (Text × List Piece) :=
  [("ROOTPASSWD", typed "0"),
    ("USER_PKGS", typed "htop libsensors-dev rsyslog"),
    ("CORES", [.run "nproc"]),
    ("CFLAGS", typed ""),
    ("KBUSER", typed "foghorn"),
    ("KBHOST", typed "leghorn"),
    ("LOCALE", typed "en_US.UTF-8"),
    ("LOCALE_LC_ALL", typed "C.UTF-8"),
    ("TIMEZONE", typed "America/New_York"),
    ("NAMESERVER1", typed "8.8.8.8"),
    ("NAMESERVER2", typed "8.8.4.4"),
    ("BUILDER", typed "7.11")]

def Entry.assigned (entry : Entry) : Text × List Piece := (entry.name, typed entry.value)

/-- The assignments that the file is meant to be. -/
def assignments (given : Form) : List (Text × List Piece) :=
  given.entries.map Entry.assigned ++ fixedAssignments

/-- The shell takes the value literally where it is written. -/
def Entry.Literal (entry : Entry) : Prop :=
  if entry.quoted then quotable entry.value = true else bare true entry.value = true

/-- Nothing but a name, and echo takes it for an option. -/
def Form.Unprinted (given : Form) : Prop :=
  isOption given.NAME.text = true ∧ ∀ value ∈ given.printed.tail, value = []

section Columns

theorem paste_nil (lines : List Text) : paste lines [] = lines := by
  cases lines with
  | nil => rfl
  | cons line lines => rfl

/-- Empty lines at the end of a column make no difference. -/
theorem paste_append (lines front back : List Text) (empty : ∀ line ∈ back, line = [])
    (fits : (front ++ back).length ≤ lines.length) :
    paste lines (front ++ back) = paste lines front := by
  induction lines generalizing front back with
  | nil =>
    have none : front ++ back = [] := List.length_eq_zero_iff.mp (Nat.le_zero.mp fits)
    rw [List.append_eq_nil_iff.mp none |>.1, List.append_eq_nil_iff.mp none |>.2]
    rfl
  | cons line lines ih =>
    cases front with
    | cons other front =>
      show (line ++ other) :: paste lines (front ++ back) = (line ++ other) :: paste lines front
      rw [ih front back empty (Nat.le_of_succ_le_succ fits)]
    | nil =>
      cases back with
      | nil => rfl
      | cons other back =>
        rw [List.forall_mem_cons] at empty
        show (line ++ other) :: paste lines ([] ++ back) = line :: lines
        rw [empty.1, List.append_nil, ih [] back empty.2 (Nat.le_of_succ_le_succ fits), paste_nil]

/-- What is lost at the end. -/
theorem VALUES_append (given : Form) :
    ∃ back, (∀ line ∈ back, line = []) ∧ VALUES given ++ back = given.printed :=
  ⟨given.printed.rtakeWhile (·.isEmpty),
    fun _ member => List.isEmpty_iff.mp (List.mem_rtakeWhile_imp member),
    List.rdropWhile_append_rtakeWhile⟩

/-- The second column as if nothing were lost. -/
theorem paste_tmp1 (given : Form) (printed : ¬ given.Unprinted) :
    paste tmp0 (tmp1 given) = paste tmp0 given.printed := by
  obtain ⟨back, empty, whole⟩ := VALUES_append given
  have long : given.printed.length ≤ tmp0.length := by
    show 20 ≤ 32
    omega
  have kept : paste tmp0 given.printed = paste tmp0 (VALUES given) := by
    rw [← whole] at long ⊢
    exact paste_append tmp0 (VALUES given) back empty long
  rw [kept]
  unfold tmp1
  cases values : VALUES given with
  | nil => exact paste_append tmp0 [] [[]] (fun _ => List.mem_singleton.mp) (by decide)
  | cons line lines =>
    cases lines with
    | cons other lines => rfl
    | nil =>
      have shown : ¬ isOption line = true := by
        intro option
        apply printed
        rw [values, List.singleton_append] at whole
        have parts := List.cons.inj whole
        refine ⟨parts.1 ▸ option, ?_⟩
        show ∀ value ∈ given.printed.tail, value = []
        rw [← whole]
        exact empty
      rw [echo, if_neg shown]

/-- An option is not printed. -/
theorem paste_unprinted (given : Form) (lost : given.Unprinted) :
    paste tmp0 (tmp1 given) = tmp0 := by
  obtain ⟨option, empty⟩ := lost
  have shown : given.NAME.text.isEmpty = false := by
    rw [List.isEmpty_eq_false_iff]
    intro none
    rw [none] at option
    nomatch option
  have split : given.printed = [given.NAME.text] ++ given.printed.tail := rfl
  have values : VALUES given = [given.NAME.text] := by
    unfold VALUES
    rw [split, List.rdropWhile, List.reverse_append, List.dropWhile_append_of_pos,
      List.reverse_singleton, List.dropWhile_cons_of_neg (by rw [shown]; exact Bool.false_ne_true),
      List.reverse_singleton]
    intro value member
    exact List.isEmpty_iff.mpr (empty value (List.mem_reverse.mp member))
  rw [tmp1, values, echo, if_pos option]
  split
  · exact paste_nil tmp0
  · exact paste_append tmp0 [] [[]] (fun _ => List.mem_singleton.mp) (by decide)

end Columns

section Sourcing

theorem isIdle_requote (line : Text) : isIdle (requote line) = isIdle line := by
  have head : (requote line).head? = line.head? := by
    unfold requote
    rw [head?_quoteWord, head?_quoteWord, head?_quoteWord, head?_quoteWord]
  cases line with
  | nil => rw [List.head?_eq_none_iff.mp head]
  | cons c rest =>
    obtain ⟨others, is⟩ := List.head?_eq_some_iff.mp head
    rw [is]
    rfl

/-- The lines that matter to the shell. -/
def commands (lines : List Text) : List Text := lines.filter fun line => !isIdle line

theorem commands_cons (line : Text) (lines : List Text) :
    commands (line :: lines) = if isIdle line then commands lines else line :: commands lines := by
  unfold commands
  rw [List.filter_cons]
  cases isIdle line with
  | true => rfl
  | false => rfl

theorem commands_insertIdx (number : Nat) (text : Text) (lines : List Text)
    (idle : isIdle text = true) : commands (lines.insertIdx number text) = commands lines := by
  induction number generalizing lines with
  | zero => rw [List.insertIdx_zero, commands_cons, if_pos idle]
  | succ number ih =>
    cases lines with
    | nil => rfl
    | cons line lines => rw [List.insertIdx_succ_cons, commands_cons, commands_cons, ih]

theorem commands_insertAt (number : Nat) (text : Text) (lines : List Text)
    (idle : isIdle text = true) : commands (insertAt number text lines) = commands lines := by
  unfold insertAt
  split
  · exact commands_insertIdx _ text lines idle
  · rfl

theorem commands_categories (lines : List Text) : commands (categories lines) = commands lines := by
  unfold categories
  iterate 8 rw [commands_insertAt _ _ _ rfl]

theorem commands_requote (lines : List Text) :
    commands (lines.map requote) = (commands lines).map requote := by
  unfold commands
  rw [List.filter_map]
  congr 2
  funext line
  rw [Function.comp_apply, isIdle_requote]

theorem commands_blankBehind (numbers : List Nat) (number : Nat) (lines : List Text) :
    commands (blankBehind numbers number lines) = commands lines := by
  induction lines generalizing number with
  | nil => rfl
  | cons line lines ih =>
    rw [blankBehind]
    split
    · have blank : isIdle [] = true := rfl
      rw [commands_cons, commands_cons, if_pos blank, ih, commands_cons]
    · rw [commands_cons, ih, commands_cons]

theorem sourced_commands {lines others : List Text} (same : commands lines = commands others) :
    sourced lines = sourced others := by
  unfold sourced
  rw [commands, commands] at same
  rw [same]

/-- Categories and blank lines are nothing to the shell. -/
theorem sourced_userdata (given : Form) :
    sourced (userdata given) =
      sourced ((paste (paste tmp0 (tmp1 given)) tmp2).map requote) := by
  apply sourced_commands
  rw [userdata, commands_blankBehind, commands_requote, commands_categories, commands_requote]

end Sourcing

section Lines

/-- requote, behind the first equals sign. -/
def requoteBehind (rest : Text) : Text :=
  behindEquals "true" (behindEquals "false" (behindEquals "1" (behindEquals "0" rest)))

theorem requote_assignment (name rest : Text) (bare : '=' ∉ name) :
    requote (name ++ '=' :: rest) = name ++ '=' :: requoteBehind rest := by
  unfold requote
  rw [quoteWord_assignment _ name _ bare, quoteWord_assignment _ name _ bare,
    quoteWord_assignment _ name _ bare, quoteWord_assignment _ name _ bare]
  rfl

theorem literal_requoteBehind (quoted tilde : Bool) (rest : Text) :
    literal quoted tilde (requoteBehind rest) = literal quoted tilde rest := by
  unfold requoteBehind
  rw [literal_behindEquals (by decide) (by decide), literal_behindEquals (by decide) (by decide),
    literal_behindEquals (by decide) (by decide), literal_behindEquals (by decide) (by decide)]

theorem count_requoteBehind (rest : Text) (q : Char) (other : q ≠ '"') :
    (requoteBehind rest).count q = rest.count q := by
  unfold requoteBehind
  rw [count_behindEquals _ _ q other, count_behindEquals _ _ q other,
    count_behindEquals _ _ q other, count_behindEquals _ _ q other]

/-- A line gives its variable a typed value just when its word is literally that. -/
theorem assignment_iff (name rest value : Text) (named : isName name = true) (bare : '=' ∉ name)
    (single : value.count '\'' = rest.count '\'') (escape : value.count '\\' = rest.count '\\') :
    assignment (requote (name ++ '=' :: rest)) = some (name, typed value) ↔
      literal false true rest = some value := by
  have cut : cutAt '=' (name ++ '=' :: requoteBehind rest) = some (name, requoteBehind rest) :=
    (cutAt_eq_some_iff '=' _ _ _).mpr ⟨bare, rfl⟩
  rw [requote_assignment name rest bare, assignment, cut, Option.bind_some, if_pos named,
    ← literal_requoteBehind]
  have literally : word (mode false true) (requoteBehind rest) = some (value.map .lit) ↔
      literal false true (requoteBehind rest) = some value :=
    word_iff_literal (single.trans (count_requoteBehind rest '\'' (by decide)).symm)
      (escape.trans (count_requoteBehind rest '\\' (by decide)).symm)
  rw [← literally, Option.map_eq_some_iff]
  constructor
  · rintro ⟨pieces, found, is⟩
    rw [(Prod.mk.inj is).2] at found
    exact found
  · intro found
    exact ⟨_, found, rfl⟩

theorem bare_assignment (name value : Text) (named : isName name = true) (bare : '=' ∉ name) :
    assignment (requote (name ++ '=' :: value)) = some (name, typed value) ↔
      Shell.bare true value = true := by
  rw [assignment_iff name value value named bare rfl rfl, literal_bare]

theorem quoted_assignment (name value : Text) (named : isName name = true) (bare : '=' ∉ name) :
    assignment (requote (name ++ '=' :: '"' :: (value ++ ['"']))) = some (name, typed value) ↔
      quotable value = true := by
  have counts (q : Char) (other : q ≠ '"') :
      value.count q = ('"' :: (value ++ ['"'])).count q := by
    rw [List.count_cons_of_ne (Ne.symm other), List.count_append,
      List.count_cons_of_ne (Ne.symm other), List.count_nil, Nat.add_zero]
  rw [assignment_iff name _ value named bare (counts '\'' (by decide)) (counts '\\' (by decide)),
    literal_quote, Bool.not_false, literal_quotable]

end Lines

section Entries

/-- The line of an entry, if nothing is lost. -/
def Entry.line (entry : Entry) : Text :=
  entry.name ++ '=' :: if entry.quoted then '"' :: (entry.value ++ ['"']) else entry.value

def Entry.Named (entry : Entry) : Prop := isName entry.name = true ∧ '=' ∉ entry.name

theorem Entry.assignment_iff (entry : Entry) (named : entry.Named) :
    assignment (requote entry.line) = some entry.assigned ↔ entry.Literal := by
  unfold Entry.line Entry.Literal Entry.assigned
  cases entry.quoted with
  | true => exact quoted_assignment entry.name entry.value named.1 named.2
  | false => exact bare_assignment entry.name entry.value named.1 named.2

theorem Entry.active (entry : Entry) (named : entry.Named) : isIdle (requote entry.line) = false := by
  rw [isIdle_requote, Entry.line]
  cases name : entry.name with
  | nil =>
    have empty := named.1
    rw [name] at empty
    nomatch empty
  | cons c rest =>
    have first := named.1
    rw [name, isName, Bool.and_eq_true, Bool.or_eq_true] at first
    show (c == '#') = false
    rw [beq_eq_false_iff_ne]
    rintro rfl
    rcases first.1 with letter | underscore
    · nomatch letter
    · nomatch underscore

/-- Line by line. -/
theorem sourced_entries (entries : List Entry) (rest : List Text)
    (others : List (Text × List Piece)) (named : ∀ entry ∈ entries, entry.Named) :
    sourced ((entries.map Entry.line ++ rest).map requote) =
        some (entries.map Entry.assigned ++ others) ↔
      (∀ entry ∈ entries, entry.Literal) ∧ sourced (rest.map requote) = some others := by
  induction entries with
  | nil => exact (and_iff_right fun _ member => nomatch member).symm
  | cons entry entries ih =>
    rw [List.forall_mem_cons] at named
    rw [List.map_cons, List.cons_append, List.map_cons, List.map_cons, List.cons_append,
      sourced_cons_iff (entry.active named.1), entry.assignment_iff named.1, ih named.2,
      List.forall_mem_cons, and_assoc]

theorem fixed_sourced : sourced (fixed.map requote) = some fixedAssignments := by
  decide +kernel

/-- The variables of the form. -/
def names : List Text :=
  ["NAME", "USERNAME", "PASSWORD", "HOSTNAME", "DISTRO", "DISTRO_VERSION", "NETWORKMANAGER",
    "UBOOT_VERSION", "VERSION", "BUILD_VERSION", "MENUCONFIG", "COMPILER", "CCACHE",
    "CUSTOM_DEFCONFIG", "MYCONFIG", "LOGGING", "VERBOSE", "COMPRESS_IMG", "USCRIPTS", "USERACCT"]

theorem entries_named (given : Form) : ∀ entry ∈ given.entries, entry.Named := by
  have named : ∀ name ∈ names, isName name = true ∧ '=' ∉ name := by decide +kernel
  have listed : given.entries.map Entry.name = names := rfl
  intro entry member
  apply named entry.name
  rw [← listed]
  exact List.mem_map_of_mem member

theorem paste_entries (given : Form) :
    paste (paste tmp0 given.printed) tmp2 = given.entries.map Entry.line ++ fixed := by
  simp [paste, tmp0, tmp2, Form.printed, Form.entries, Entry.line, fixed]

/-- Without the form's column the name is empty. -/
theorem unprinted_sourced :
    (sourced ((paste tmp0 tmp2).map requote)).bind List.head? = some ("NAME".toList, []) := by
  decide +kernel

/-- userdata.txt sets every variable to the value it is meant to have, and nothing else,
just when the shell takes each value literally and the name is not lost. -/
theorem userdata_iff (given : Form) :
    sourced (userdata given) = some (assignments given) ↔
      (∀ entry ∈ given.entries, entry.Literal) ∧ ¬ given.Unprinted := by
  rw [sourced_userdata]
  by_cases lost : given.Unprinted
  · refine iff_of_false ?_ fun both => both.2 lost
    intro sets
    rw [paste_unprinted given lost] at sets
    have first := unprinted_sourced
    rw [sets] at first
    have empty : typed given.NAME.text = [] := (Prod.mk.inj (Option.some.inj first)).2
    have option := lost.1
    rw [List.map_eq_nil_iff.mp empty] at option
    nomatch option
  · rw [paste_tmp1 given lost, paste_entries, assignments,
      sourced_entries _ _ _ (entries_named given), and_iff_left fixed_sourced, and_iff_left lost]

/-- The form with its defaults and with quotes in the password. -/
def quotedPassword : Form where
  NAME := ⟨"Foghorn", by decide⟩
  USERNAME := ⟨"foghorn", by decide⟩
  PASSWORD := ⟨"say \"hi\"", by decide⟩
  HOSTNAME := ⟨"default", by decide⟩
  DISTRO := ⟨"debian", by decide⟩
  DISTRO_VERSION := ⟨"trixie", by decide⟩
  NETWORKMANAGER := ⟨"1", by decide⟩
  UBOOT_VERSION := ⟨"v2026.01", by decide⟩
  VERSION := ⟨"6.18.y", by decide⟩
  BUILD_VERSION := ⟨"1", by decide⟩
  MENUCONFIG := ⟨"0", by decide⟩
  COMPILER := ⟨"gcc", by decide⟩
  CCACHE := ⟨"1", by decide⟩
  CUSTOM_DEFCONFIG := ⟨"0", by decide⟩
  MYCONFIG := ⟨"", by decide⟩
  LOGGING := ⟨"1", by decide⟩
  VERBOSE := ⟨"0", by decide⟩
  COMPRESS_IMG := ⟨"0", by decide⟩
  USCRIPTS := ⟨"0", by decide⟩
  USERACCT := ⟨"0", by decide⟩

/-- The quotes are gone when the file is sourced. -/
theorem quotes_lost : ¬ ∀ given : Form, sourced (userdata given) = some (assignments given) := by
  intro sets
  have differs : sourced (userdata quotedPassword) ≠ some (assignments quotedPassword) := by
    decide +kernel
  exact differs (sets quotedPassword)

end Entries

end ImageBuilder.Userdata
