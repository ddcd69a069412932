import ImageBuilder.PlainText

set_option autoImplicit false

/- How a shell reads a line that is one assignment: quotes, escapes and command
substitution in its word. What would need more than the line (an open quote) or
more than the text (a parameter, a home directory), and lines with a further word,
are no such assignment. -/
namespace Shell

open PlainText

/-- A part of the value. -/
inductive Piece
  | lit (c : Char)
  | run (command : Text)
  deriving DecidableEq

inductive Mode
  | plain (tilde : Bool)
  | double
  | single
  | escape (quoted : Bool)
  | backquote (quoted : Bool) (command : Text)

/-- What ends an unquoted word. -/
def stops (c : Char) : Bool := isBlank c || c ∈ ['|', '&', ';', '(', ')', '<', '>']

/-- A dollar sign before this begins an expansion, inside double quotes too. -/
def expands (next : Option Char) : Bool :=
  next.any fun c => isWordChar c || c ∈ ['*', '@', '#', '?', '-', '$', '!', '{', '(', '[']

/-- Outside quotes it can also begin a quotation. -/
def quotes (next : Option Char) : Bool := next.any fun c => c ∈ ['"', '\'']

/-- A backslash in double quotes takes effect before this. -/
def escapable (c : Char) : Bool := c ∈ ['$', '`', '"', '\\']

/-- The value of the word. A tilde counts at the start and behind a colon. -/
def word : Mode → Text → Option (List Piece)
  | .plain _, [] => some []
  | .double, [] => none
  | .single, [] => none
  | .escape _, [] => none
  | .backquote _ _, [] => none
  | .plain tilde, c :: rest =>
    if c = '"' then word .double rest
    else if c = '\'' then word .single rest
    else if c = '`' then word (.backquote false []) rest
    else if c = '\\' then word (.escape false) rest
    else if stops c || c == '$' && (expands rest.head? || quotes rest.head?) || c == '~' && tilde then
      none
    else (word (.plain (c == ':')) rest).map (.lit c :: ·)
  | .double, c :: rest =>
    if c = '"' then word (.plain false) rest
    else if c = '`' then word (.backquote true []) rest
    else if c = '\\' then word (.escape true) rest
    else if c == '$' && expands rest.head? then none
    else (word .double rest).map (.lit c :: ·)
  | .single, c :: rest =>
    if c = '\'' then word (.plain false) rest else (word .single rest).map (.lit c :: ·)
  | .escape false, c :: rest => (word (.plain false) rest).map (.lit c :: ·)
  | .escape true, c :: rest =>
    if escapable c then (word .double rest).map (.lit c :: ·)
    else (word .double rest).map fun pieces => .lit '\\' :: .lit c :: pieces
  | .backquote quoted command, c :: rest =>
    if c = '`' then
      (word (if quoted then .double else .plain false) rest).map (.run command :: ·)
    else word (.backquote quoted (command ++ [c])) rest

/-- A name the shell takes for a variable. -/
def isName : Text → Bool
  | [] => false
  | c :: rest => (c.isAlpha || c == '_') && rest.all isWordChar

/-- The variable and the value that the line assigns. -/
def assignment (line : Text) : Option (Text × List Piece) :=
  (cutAt '=' line).bind fun parts =>
    if isName parts.1 then (word (.plain true) parts.2).map (parts.1, ·) else none

/-- A line without a command. -/
def isIdle : Text → Bool
  | [] => true
  | c :: _ => c == '#'

/-- The assignments of a file, if it has nothing else. -/
def sourced (lines : List Text) : Option (List (Text × List Piece)) :=
  (lines.filter fun line => !isIdle line).mapM assignment

theorem sourced_cons_iff {line : Text} {lines : List Text} {first : Text × List Piece}
    {others : List (Text × List Piece)} (active : isIdle line = false) :
    sourced (line :: lines) = some (first :: others) ↔
      assignment line = some first ∧ sourced lines = some others := by
  rw [sourced, List.filter_cons_of_pos (by rw [active]; rfl), List.mapM_cons]
  cases head : assignment line with
  | none => exact iff_of_false nofun nofun
  | some found =>
    show (sourced lines).bind _ = _ ↔ _
    cases sourced lines with
    | none => exact iff_of_false nofun nofun
    | some rest =>
      simp only [Option.bind_some, Option.pure_def, Option.some.injEq, List.cons.injEq]

/-- What an unquoted character must not be to stand for itself. -/
def haltsPlain (tilde : Bool) (c : Char) (next : Option Char) : Bool :=
  c ∈ ['\'', '`', '\\'] || stops c || c == '$' && (expands next || quotes next) || c == '~' && tilde

/-- The same inside double quotes. -/
def haltsDouble (c : Char) (next : Option Char) : Bool :=
  c == '`' || c == '\\' && next.any escapable || c == '$' && expands next

/-- The value of a word in which nothing but double quotes is special. -/
def literal : Bool → Bool → Text → Option Text
  | true, _, [] => none
  | false, _, [] => some []
  | true, _, c :: rest =>
    if c = '"' then literal false false rest
    else if haltsDouble c rest.head? then none
    else (literal true false rest).map (c :: ·)
  | false, tilde, c :: rest =>
    if c = '"' then literal true false rest
    else if haltsPlain tilde c rest.head? then none
    else (literal false (c == ':') rest).map (c :: ·)

def mode (quoted tilde : Bool) : Mode := if quoted then .double else .plain tilde

theorem word_plain_quote (tilde : Bool) (rest : Text) :
    word (.plain tilde) ('"' :: rest) = word .double rest := by
  rw [word, if_pos rfl]

theorem word_double_quote (rest : Text) :
    word .double ('"' :: rest) = word (.plain false) rest := by
  rw [word, if_pos rfl]

/-- An unquoted character that stands for itself. -/
theorem word_plain_lit {tilde : Bool} {c : Char} {rest : Text} (other : c ≠ '"')
    (passes : haltsPlain tilde c rest.head? = false) :
    word (.plain tilde) (c :: rest) = (word (.plain (c == ':')) rest).map (.lit c :: ·) := by
  simp only [haltsPlain, Bool.or_eq_false_iff, decide_eq_false_iff_not, List.mem_cons,
    List.not_mem_nil, or_false, not_or] at passes
  obtain ⟨⟨⟨⟨single, back, escape⟩, stop⟩, dollar⟩, home⟩ := passes
  have free : ¬ (stops c || c == '$' && (expands rest.head? || quotes rest.head?) ||
      c == '~' && tilde) = true := by
    rw [stop, dollar, home]
    exact Bool.false_ne_true
  rw [word, if_neg other, if_neg single, if_neg back, if_neg escape, if_neg free]

/-- A character that stands for itself inside double quotes. -/
theorem word_double_lit {c d : Char} {rest : Text} (other : c ≠ '"')
    (passes : haltsDouble c (some d) = false) :
    word .double (c :: d :: rest) = (word .double (d :: rest)).map (.lit c :: ·) := by
  simp only [haltsDouble, Bool.or_eq_false_iff, beq_eq_false_iff_ne] at passes
  obtain ⟨⟨back, escape⟩, dollar⟩ := passes
  rw [word, if_neg other, if_neg back]
  by_cases escaped : c = '\\'
  · rw [if_pos escaped, escaped]
    have kept : ¬ escapable d = true := by
      intro active
      rw [escaped, beq_self_eq_true, Bool.true_and, Option.any_some, active] at escape
      nomatch escape
    have consumed : word (.escape true) (d :: rest) =
        (word .double rest).map fun pieces => .lit '\\' :: .lit d :: pieces := by
      rw [word, if_neg kept]
    simp only [escapable, decide_eq_true_eq, List.mem_cons, List.not_mem_nil, or_false,
      not_or] at kept
    obtain ⟨dollarNot, backNot, quoteNot, escapeNot⟩ := kept
    have inner : word .double (d :: rest) = (word .double rest).map (.lit d :: ·) := by
      rw [word, if_neg quoteNot, if_neg backNot, if_neg escapeNot, if_neg]
      rw [beq_eq_false_iff_ne.mpr dollarNot]
      exact Bool.false_ne_true
    rw [consumed, inner, Option.map_map]
    rfl
  · rw [if_neg escaped, if_neg]
    rw [List.head?_cons, dollar]
    exact Bool.false_ne_true

/-- Such a word is read so. -/
theorem word_of_literal {quoted tilde : Bool} {text value : Text}
    (reads : literal quoted tilde text = some value) :
    word (mode quoted tilde) text = some (value.map .lit) := by
  fun_induction literal quoted tilde text generalizing value with
  | case1 => nomatch reads
  | case2 =>
    obtain rfl := Option.some.inj reads
    rfl
  | case3 tilde rest ih => exact (word_double_quote rest).trans (ih reads)
  | case4 => nomatch reads
  | case5 tilde c rest other passes ih =>
    obtain ⟨later, found, rfl⟩ := Option.map_eq_some_iff.mp reads
    cases rest with
    | nil => nomatch found
    | cons d rest =>
      have passed : word .double (c :: d :: rest) = (word .double (d :: rest)).map (.lit c :: ·) :=
        word_double_lit other (Bool.eq_false_iff.mpr passes)
      refine passed.trans ?_
      have next : word .double (d :: rest) = some (later.map .lit) := ih found
      rw [next]
      rfl
  | case6 tilde rest ih => exact (word_plain_quote tilde rest).trans (ih reads)
  | case7 => nomatch reads
  | case8 tilde c rest other passes ih =>
    obtain ⟨later, found, rfl⟩ := Option.map_eq_some_iff.mp reads
    refine (word_plain_lit other (Bool.eq_false_iff.mpr passes)).trans ?_
    have next : word (.plain (c == ':')) rest = some (later.map .lit) := ih found
    rw [next]
    rfl

/-- A backslash that has been read but not yet put. -/
def owed (q : Char) : Mode → Nat
  | .escape _ => if '\\' = q then 1 else 0
  | _ => 0

theorem count_lit_cons (q c : Char) (pieces : List Piece) :
    (Piece.lit c :: pieces).count (.lit q) = pieces.count (.lit q) + if c = q then 1 else 0 := by
  rw [List.count_cons]
  by_cases same : c = q
  · rw [if_pos same, if_pos (by rw [same]; exact beq_self_eq_true _)]
  · rw [if_neg same, if_neg (fun is => same (Piece.lit.inj (eq_of_beq is)))]

theorem count_char_cons (q c : Char) (text : Text) :
    (c :: text).count q = text.count q + if c = q then 1 else 0 := by
  rw [List.count_cons]
  by_cases same : c = q
  · rw [if_pos same, if_pos (beq_iff_eq.mpr same)]
  · rw [if_neg same, if_neg (fun is => same (eq_of_beq is))]

theorem count_passed {q c : Char} {pieces : List Piece} {rest : Text}
    (later : pieces.count (.lit q) ≤ rest.count q + 0) :
    pieces.count (.lit q) ≤ (c :: rest).count q + 0 := by
  rw [count_char_cons]
  omega

theorem count_put {q c : Char} {pieces : List Piece} {rest : Text}
    (later : pieces.count (.lit q) ≤ rest.count q + 0) :
    (Piece.lit c :: pieces).count (.lit q) ≤ (c :: rest).count q + 0 := by
  rw [count_char_cons, count_lit_cons]
  omega

theorem count_run (q : Char) (command : Text) (pieces : List Piece) :
    (Piece.run command :: pieces).count (.lit q) = pieces.count (.lit q) := by
  rw [List.count_cons_of_ne]
  exact nofun

/-- No character is put that has not been read. -/
theorem count_word (q : Char) {mode : Mode} {text : Text} {pieces : List Piece}
    (reads : word mode text = some pieces) :
    pieces.count (.lit q) ≤ text.count q + owed q mode := by
  fun_induction word mode text generalizing pieces with
  | case1 tilde =>
    obtain rfl := Option.some.inj reads
    exact Nat.zero_le _
  | case2 => nomatch reads
  | case3 => nomatch reads
  | case4 => nomatch reads
  | case5 => nomatch reads
  -- outside quotes
  | case6 tilde rest ih => exact count_passed (ih reads)
  | case7 tilde rest _ ih => exact count_passed (ih reads)
  | case8 tilde rest _ _ ih => exact count_passed (ih reads)
  | case9 tilde rest _ _ _ ih =>
    have later := ih reads
    rw [count_char_cons]
    exact later
  | case10 => nomatch reads
  | case11 tilde c rest _ _ _ _ _ ih =>
    obtain ⟨later, found, rfl⟩ := Option.map_eq_some_iff.mp reads
    exact count_put (ih found)
  -- inside double quotes
  | case12 rest ih => exact count_passed (ih reads)
  | case13 rest _ ih => exact count_passed (ih reads)
  | case14 rest _ _ ih =>
    have later := ih reads
    rw [count_char_cons]
    exact later
  | case15 => nomatch reads
  | case16 c rest _ _ _ _ ih =>
    obtain ⟨later, found, rfl⟩ := Option.map_eq_some_iff.mp reads
    exact count_put (ih found)
  -- inside single quotes
  | case17 rest ih => exact count_passed (ih reads)
  | case18 c rest _ ih =>
    obtain ⟨later, found, rfl⟩ := Option.map_eq_some_iff.mp reads
    exact count_put (ih found)
  -- behind a backslash
  | case19 c rest ih =>
    obtain ⟨later, found, rfl⟩ := Option.map_eq_some_iff.mp reads
    exact Nat.le_trans (count_put (ih found)) (Nat.le_add_right _ _)
  | case20 c rest _ ih =>
    obtain ⟨later, found, rfl⟩ := Option.map_eq_some_iff.mp reads
    exact Nat.le_trans (count_put (ih found)) (Nat.le_add_right _ _)
  | case21 c rest _ ih =>
    obtain ⟨later, found, rfl⟩ := Option.map_eq_some_iff.mp reads
    have put : (Piece.lit c :: later).count (.lit q) ≤ (c :: rest).count q + 0 :=
      count_put (ih found)
    rw [count_lit_cons]
    exact Nat.add_le_add_right put _
  -- inside backquotes
  | case22 quoted command rest ih =>
    obtain ⟨later, found, rfl⟩ := Option.map_eq_some_iff.mp reads
    rw [count_run]
    cases quoted with
    | true => exact count_passed (ih found)
    | false => exact count_passed (ih found)
  | case23 quoted command c rest _ ih => exact count_passed (ih reads)

/-- A quotation takes its last quote away. -/
theorem count_single {text : Text} {pieces : List Piece}
    (reads : word .single text = some pieces) :
    pieces.count (.lit '\'') < text.count '\'' := by
  induction text generalizing pieces with
  | nil => nomatch reads
  | cons c rest ih =>
    rw [word] at reads
    rw [count_char_cons]
    split at reads
    · rename_i closes
      have later := count_word '\'' reads
      simp only [owed] at later
      rw [if_pos closes]
      omega
    · obtain ⟨later, found, rfl⟩ := Option.map_eq_some_iff.mp reads
      have less := ih found
      rw [count_lit_cons]
      omega

theorem run_of_backquote {quoted : Bool} {command text : Text} {pieces : List Piece}
    (reads : word (.backquote quoted command) text = some pieces) :
    ∃ command, .run command ∈ pieces := by
  induction text generalizing command with
  | nil => nomatch reads
  | cons c rest ih =>
    rw [word] at reads
    split at reads
    · obtain ⟨later, _, rfl⟩ := Option.map_eq_some_iff.mp reads
      exact ⟨command, List.mem_cons_self⟩
    · exact ih reads

/-- The value lacks a single quote or a backslash of the text, or a command gives a part
of it. -/
def Lossy (text : Text) (pieces : List Piece) : Prop :=
  pieces.count (.lit '\'') < text.count '\'' ∨ pieces.count (.lit '\\') < text.count '\\' ∨
    ∃ command, .run command ∈ pieces

theorem Lossy.cons {text : Text} {pieces : List Piece} (c : Char) (lossy : Lossy text pieces) :
    Lossy (c :: text) pieces := by
  rcases lossy with single | escape | run
  · left
    rw [count_char_cons]
    omega
  · right; left
    rw [count_char_cons]
    omega
  · exact Or.inr (Or.inr run)

theorem Lossy.lit {text : Text} {pieces : List Piece} (c : Char) (lossy : Lossy text pieces) :
    Lossy (c :: text) (.lit c :: pieces) := by
  rcases lossy with single | escape | ⟨command, run⟩
  · left
    rw [count_char_cons, count_lit_cons]
    omega
  · right; left
    rw [count_char_cons, count_lit_cons]
    omega
  · exact Or.inr (Or.inr ⟨command, List.mem_cons_of_mem _ run⟩)

theorem lossy_escape {quoted : Bool} {rest : Text} {pieces : List Piece}
    (active : quoted = true → rest.head?.any escapable = true)
    (reads : word (.escape quoted) rest = some pieces) : Lossy ('\\' :: rest) pieces := by
  right; left
  cases rest with
  | nil => nomatch reads
  | cons d more =>
    have put : pieces.count (.lit '\\') ≤ (d :: more).count '\\' + 0 := by
      cases quoted with
      | false =>
        obtain ⟨later, found, rfl⟩ := Option.map_eq_some_iff.mp reads
        exact count_put (count_word _ found)
      | true =>
        have works : escapable d = true := active rfl
        rw [word, if_pos works] at reads
        obtain ⟨later, found, rfl⟩ := Option.map_eq_some_iff.mp reads
        exact count_put (count_word _ found)
    rw [count_char_cons, if_pos rfl]
    omega

/-- What is read without a loss is read literally. -/
theorem literal_or_lossy {quoted tilde : Bool} {text : Text} {pieces : List Piece}
    (reads : word (mode quoted tilde) text = some pieces) :
    (∃ value, literal quoted tilde text = some value ∧ pieces = value.map .lit) ∨
      Lossy text pieces := by
  fun_induction literal quoted tilde text generalizing pieces with
  | case1 => nomatch reads
  | case2 =>
    obtain rfl := Option.some.inj reads
    exact Or.inl ⟨[], rfl, rfl⟩
  | case3 tilde rest ih =>
    have later : word (mode false false) rest = some pieces := (word_double_quote rest).symm.trans reads
    rcases ih later with found | lossy
    · exact Or.inl found
    · exact Or.inr (lossy.cons _)
  | case4 tilde c rest other halts =>
    right
    have reads : word .double (c :: rest) = some pieces := reads
    rw [word, if_neg other] at reads
    split at reads
    · exact Or.inr (Or.inr (run_of_backquote reads))
    · rename_i back
      split at reads
      · rename_i escape
        rw [escape]
        refine lossy_escape (fun _ => ?_) reads
        simpa [haltsDouble, back, escape] using halts
      · rename_i escape
        split at reads
        · nomatch reads
        · rename_i dollar
          exact absurd halts (by simp [haltsDouble, back, escape]; simpa using dollar)
  | case5 tilde c rest other passes ih =>
    cases rest with
    | nil =>
      have reads : word .double [c] = some pieces := reads
      rw [word, if_neg other] at reads
      split at reads
      · nomatch reads
      · split at reads
        · nomatch reads
        · split at reads
          · nomatch reads
          · nomatch reads
    | cons d rest =>
      have reads : word .double (c :: d :: rest) = some pieces := reads
      rw [word_double_lit other (Bool.eq_false_iff.mpr passes)] at reads
      obtain ⟨later, found, rfl⟩ := Option.map_eq_some_iff.mp reads
      rcases ih found with ⟨value, is, rfl⟩ | lossy
      · exact Or.inl ⟨c :: value, by rw [is]; rfl, rfl⟩
      · exact Or.inr (lossy.lit c)
  | case6 tilde rest ih =>
    have later : word (mode true false) rest = some pieces :=
      (word_plain_quote tilde rest).symm.trans reads
    rcases ih later with found | lossy
    · exact Or.inl found
    · exact Or.inr (lossy.cons _)
  | case7 tilde c rest other halts =>
    right
    have reads : word (.plain tilde) (c :: rest) = some pieces := reads
    rw [word, if_neg other] at reads
    split at reads
    · rename_i single
      rw [single]
      left
      have less := count_single reads
      rw [count_char_cons]
      omega
    · rename_i single
      split at reads
      · exact Or.inr (Or.inr (run_of_backquote reads))
      · rename_i back
        split at reads
        · rename_i escape
          rw [escape]
          exact lossy_escape (fun is : false = true => nomatch is) reads
        · rename_i escape
          split at reads
          · nomatch reads
          · rename_i free
            exact absurd halts (by simp [haltsPlain, single, back, escape]; simpa using free)
  | case8 tilde c rest other passes ih =>
    have reads : word (.plain tilde) (c :: rest) = some pieces := reads
    rw [word_plain_lit other (Bool.eq_false_iff.mpr passes)] at reads
    obtain ⟨later, found, rfl⟩ := Option.map_eq_some_iff.mp reads
    rcases ih found with ⟨value, is, rfl⟩ | lossy
    · exact Or.inl ⟨c :: value, by rw [is]; rfl, rfl⟩
    · exact Or.inr (lossy.lit c)

def halts (quoted tilde : Bool) (c : Char) (next : Option Char) : Bool :=
  if quoted then haltsDouble c next else haltsPlain tilde c next

theorem literal_quote (quoted tilde : Bool) (rest : Text) :
    literal quoted tilde ('"' :: rest) = literal (!quoted) false rest := by
  cases quoted with
  | true => rw [literal, if_pos rfl]; rfl
  | false => rw [literal, if_pos rfl]; rfl

theorem literal_cons {quoted tilde : Bool} {c : Char} {rest : Text} (other : c ≠ '"') :
    literal quoted tilde (c :: rest) =
      if halts quoted tilde c rest.head? then none
      else (literal quoted (!quoted && c == ':') rest).map (c :: ·) := by
  cases quoted with
  | true => rw [literal, if_neg other]; rfl
  | false => rw [literal, if_neg other]; rfl

/-- Characters of words are never special. -/
theorem halts_wordChar {quoted tilde : Bool} {c : Char} {next : Option Char}
    (plain : isWordChar c = true) : halts quoted tilde c next = false := by
  have other (d : Char) (outside : isWordChar d = false) : c ≠ d := by
    rintro rfl
    exact Bool.false_ne_true (outside.symm.trans plain)
  cases quoted with
  | true =>
    simp [halts, haltsDouble, other '`' (by decide), other '\\' (by decide),
      other '$' (by decide)]
  | false =>
    simp [halts, haltsPlain, stops, isBlank, other '\'' (by decide), other '`' (by decide),
      other '\\' (by decide), other '$' (by decide), other '~' (by decide),
      other ' ' (by decide), other '\t' (by decide), other '\n' (by decide),
      other '|' (by decide), other '&' (by decide), other ';' (by decide),
      other '(' (by decide), other ')' (by decide), other '<' (by decide),
      other '>' (by decide)]

theorem literal_word {quoted tilde : Bool} {text rest : Text} (nonempty : text ≠ [])
    (plain : ∀ c ∈ text, isWordChar c = true) :
    literal quoted tilde (text ++ rest) = (literal quoted false rest).map (text ++ ·) := by
  induction text generalizing tilde with
  | nil => exact absurd rfl nonempty
  | cons c text ih =>
    rw [List.forall_mem_cons] at plain
    have unquoted : c ≠ '"' := by
      rintro rfl
      exact absurd plain.1 (by decide)
    have colon : (!quoted && c == ':') = false := by
      have differs : (c == ':') = false := by
        rw [beq_eq_false_iff_ne]
        rintro rfl
        exact absurd plain.1 (by decide)
      rw [differs, Bool.and_false]
    rw [List.cons_append, literal_cons unquoted, halts_wordChar plain.1,
      if_neg Bool.false_ne_true, colon]
    by_cases last : text = []
    · rw [last]
      rfl
    · rw [ih last plain.2, Option.map_map]
      rfl

/-- `s/=text/="text"/g` -/
def quoteWord (text line : Text) : Text :=
  replaceAll ('=' :: text) ('=' :: '"' :: (text ++ ['"'])) line

theorem head?_quoteWord (text line : Text) : (quoteWord text line).head? = line.head? := by
  cases line with
  | nil => rfl
  | cons c rest =>
    by_cases here : '=' :: text <+: c :: rest
    · obtain ⟨tail, whole⟩ := here
      rw [← whole, quoteWord, replaceAll_append _ _ _ (List.cons_ne_nil _ _)]
      rfl
    · rw [quoteWord, replaceAll_cons _ _ _ _ here]
      rfl

theorem literal_equals (quoted tilde : Bool) (rest : Text) :
    literal quoted tilde ('=' :: rest) = (literal quoted false rest).map ('=' :: ·) := by
  have free (next : Option Char) : halts quoted tilde '=' next = false := by
    cases quoted with
    | true => simp [halts, haltsDouble]
    | false => simp [halts, haltsPlain, stops, isBlank]
  rw [literal_cons (by decide), free, if_neg Bool.false_ne_true]
  cases quoted with
  | true => rfl
  | false => rfl

/-- Quotes around a word change nothing in what is read. -/
theorem literal_quotes {quoted tilde : Bool} {text rest : Text} (nonempty : text ≠ [])
    (plain : ∀ c ∈ text, isWordChar c = true) :
    literal quoted tilde ('"' :: (text ++ '"' :: rest)) =
      (literal quoted false rest).map (text ++ ·) := by
  rw [literal_quote, literal_word nonempty plain, literal_quote, Bool.not_not]

theorem literal_quoteWord {text : Text} (nonempty : text ≠ [])
    (plain : ∀ c ∈ text, isWordChar c = true) (quoted tilde : Bool) (line : Text) :
    literal quoted tilde (quoteWord text line) = literal quoted tilde line := by
  induction line using replaceAll_induction ('=' :: text) (List.cons_ne_nil _ _)
    generalizing quoted tilde with
  | nil => rfl
  | miss c rest other ih =>
    rw [quoteWord, replaceAll_cons _ _ _ _ other]
    show literal quoted tilde (c :: quoteWord text rest) = _
    by_cases quote : c = '"'
    · rw [quote, literal_quote, literal_quote, ih]
    · rw [literal_cons quote, literal_cons quote, head?_quoteWord, ih]
  | found rest ih =>
    rw [quoteWord, replaceAll_append _ _ _ (List.cons_ne_nil _ _)]
    have shape : ('=' :: '"' :: (text ++ ['"'])) ++ quoteWord text rest =
        '=' :: '"' :: (text ++ '"' :: quoteWord text rest) := by simp
    show literal quoted tilde (('=' :: '"' :: (text ++ ['"'])) ++ quoteWord text rest) =
      literal quoted tilde ('=' :: (text ++ rest))
    rw [shape, literal_equals, literal_equals, literal_quotes nonempty plain,
      literal_word nonempty plain, ih]

/-- The rest of the line behind the first equals sign. -/
def behindEquals (text rest : Text) : Text := (quoteWord text ('=' :: rest)).tail

theorem quoteWord_equals (text rest : Text) :
    quoteWord text ('=' :: rest) = '=' :: behindEquals text rest := by
  have head := head?_quoteWord text ('=' :: rest)
  unfold behindEquals
  cases whole : quoteWord text ('=' :: rest) with
  | nil =>
    rw [whole] at head
    nomatch head
  | cons c more =>
    rw [whole] at head
    rw [Option.some.inj head, List.tail_cons]

theorem quoteWord_assignment (text name rest : Text) (bare : '=' ∉ name) :
    quoteWord text (name ++ '=' :: rest) = name ++ '=' :: behindEquals text rest := by
  induction name with
  | nil => exact quoteWord_equals text rest
  | cons c name ih =>
    obtain ⟨other, later⟩ := List.ne_and_not_mem_of_not_mem_cons bare
    have missed : ¬ '=' :: text <+: c :: (name ++ '=' :: rest) := by
      rintro ⟨_, whole⟩
      exact other (List.cons.inj whole).1
    rw [List.cons_append, quoteWord, replaceAll_cons _ _ _ _ missed]
    exact congrArg (c :: ·) (ih later)

theorem literal_behindEquals {text : Text} (nonempty : text ≠ [])
    (plain : ∀ c ∈ text, isWordChar c = true) (quoted tilde : Bool) (rest : Text) :
    literal quoted tilde (behindEquals text rest) = literal quoted tilde rest := by
  by_cases here : '=' :: text <+: '=' :: rest
  · obtain ⟨more, whole⟩ := here
    have split : text ++ more = rest := (List.cons.inj whole).2
    have shape : behindEquals text rest = '"' :: (text ++ '"' :: quoteWord text more) := by
      rw [behindEquals, quoteWord, ← whole, replaceAll_append _ _ _ (List.cons_ne_nil _ _)]
      simp [quoteWord]
    rw [shape, ← split, literal_quotes nonempty plain, literal_word nonempty plain,
      literal_quoteWord nonempty plain]
  · have shape : behindEquals text rest = quoteWord text rest := by
      rw [behindEquals, quoteWord, replaceAll_cons _ _ _ _ here]
      rfl
    rw [shape, literal_quoteWord nonempty plain]

theorem count_behindEquals (text rest : Text) (q : Char) (other : q ≠ '"') :
    (behindEquals text rest).count q = rest.count q := by
  have same : ('=' :: '"' :: (text ++ ['"'])).count q = ('=' :: text).count q := by
    rw [List.count_cons, List.count_cons_of_ne (Ne.symm other), List.count_append,
      List.count_singleton, List.count_cons, if_neg (fun is => other (eq_of_beq is).symm),
      Nat.add_zero]
  have whole := count_replaceAll _ _ ('=' :: rest) (List.cons_ne_nil '=' text) q same
  have split := quoteWord_equals text rest
  rw [quoteWord] at split
  rw [split, List.count_cons, List.count_cons] at whole
  omega

/-- The word is its value, between two double quotes. -/
def quotable : Text → Bool
  | [] => true
  | c :: rest => c != '"' && !haltsDouble c (rest ++ ['"']).head? && quotable rest

/-- The word is its value. -/
def bare : Bool → Text → Bool
  | _, [] => true
  | tilde, c :: rest => c != '"' && !haltsPlain tilde c rest.head? && bare (c == ':') rest

theorem quote_not_mem_literal {quoted tilde : Bool} {text value : Text}
    (reads : literal quoted tilde text = some value) : '"' ∉ value := by
  fun_induction literal quoted tilde text generalizing value with
  | case1 => nomatch reads
  | case2 =>
    obtain rfl := Option.some.inj reads
    exact List.not_mem_nil
  | case3 tilde rest ih => exact ih reads
  | case4 => nomatch reads
  | case5 tilde c rest other _ ih =>
    obtain ⟨later, found, rfl⟩ := Option.map_eq_some_iff.mp reads
    exact List.not_mem_cons_of_ne_of_not_mem (Ne.symm other) (ih found)
  | case6 tilde rest ih => exact ih reads
  | case7 => nomatch reads
  | case8 tilde c rest other _ ih =>
    obtain ⟨later, found, rfl⟩ := Option.map_eq_some_iff.mp reads
    exact List.not_mem_cons_of_ne_of_not_mem (Ne.symm other) (ih found)

theorem literal_cons_iff {quoted tilde : Bool} {c : Char} {rest value : Text} :
    literal quoted tilde (c :: rest) = some (c :: value) ↔
      c ≠ '"' ∧ halts quoted tilde c rest.head? = false ∧
        literal quoted (!quoted && c == ':') rest = some value := by
  constructor
  · intro reads
    have other : c ≠ '"' := by
      rintro rfl
      exact quote_not_mem_literal reads List.mem_cons_self
    rw [literal_cons other] at reads
    split at reads
    · nomatch reads
    · rename_i passes
      obtain ⟨later, found, is⟩ := Option.map_eq_some_iff.mp reads
      rw [(List.cons.inj is).2] at found
      exact ⟨other, Bool.eq_false_iff.mpr passes, found⟩
  · rintro ⟨other, passes, found⟩
    rw [literal_cons other, passes, if_neg Bool.false_ne_true, found]
    rfl

theorem literal_quotable (value : Text) :
    literal true false (value ++ ['"']) = some value ↔ quotable value = true := by
  induction value with
  | nil => exact iff_of_true (by rw [List.nil_append, literal_quote]; rfl) rfl
  | cons c rest ih =>
    rw [List.cons_append, literal_cons_iff, quotable, Bool.and_eq_true, Bool.and_eq_true,
      bne_iff_ne, Bool.not_eq_true', and_assoc]
    exact and_congr_right' (and_congr_right' ih)

theorem literal_bare (tilde : Bool) (value : Text) :
    literal false tilde value = some value ↔ bare tilde value = true := by
  induction value generalizing tilde with
  | nil => exact iff_of_true rfl rfl
  | cons c rest ih =>
    rw [literal_cons_iff, bare, Bool.and_eq_true, Bool.and_eq_true, bne_iff_ne,
      Bool.not_eq_true', and_assoc]
    exact and_congr_right' (and_congr_right' (ih _))

/-- A value with every single quote and backslash of the word has been read literally. -/
theorem word_iff_literal {quoted tilde : Bool} {text value : Text}
    (single : value.count '\'' = text.count '\'') (escape : value.count '\\' = text.count '\\') :
    word (mode quoted tilde) text = some (value.map .lit) ↔
      literal quoted tilde text = some value := by
  have injective : Function.Injective Piece.lit := fun _ _ => Piece.lit.inj
  constructor
  · intro reads
    rcases literal_or_lossy reads with ⟨found, literal, same⟩ | lossy
    · rw [literal, List.map_injective_iff.mpr injective same]
    · rcases lossy with less | less | ⟨command, run⟩
      · have kept : value.count '\'' ≤ (value.map Piece.lit).count (.lit '\'') :=
          List.count_le_count_map
        omega
      · have kept : value.count '\\' ≤ (value.map Piece.lit).count (.lit '\\') :=
          List.count_le_count_map
        omega
      · obtain ⟨c, _, is⟩ := List.mem_map.mp run
        nomatch is
  · exact word_of_literal

end Shell
