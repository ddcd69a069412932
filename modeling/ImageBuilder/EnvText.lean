import ImageBuilder.Hush

set_option autoImplicit false

/- An environment text as `env import -t` reads it: a variable a line, comments
after #, and a backslash that stands for the character after it, even for the end
of the line. -/
namespace EnvText

open PlainText Hush

def textLines : Text → List Text
  | [] => []
  | c :: rest =>
      if c = '\n' then [] :: textLines rest
      else match textLines rest with
        | [] => [[c]]
        | line :: more => (c :: line) :: more

def unlines (lines : List Text) : Text := lines.flatMap (· ++ ['\n'])

/-- The value without its escapes, and whether a backslash is left at the end. -/
def unescape : Text → Text × Bool
  | [] => ([], false)
  | '\\' :: [] => ([], true)
  | '\\' :: c :: rest => (c :: (unescape rest).1, (unescape rest).2)
  | c :: rest => (c :: (unescape rest).1, (unescape rest).2)

def isSpace (c : Char) : Bool := c == ' ' || c == '\t'

/-- Name and value of a line; nothing for a comment. A line without = has no
value, which deletes the variable as an empty value does. -/
def parseLine (line : Text) : Option (Text × Text) :=
  let entry := line.dropWhile isSpace
  if entry.head? = some '#' then none
  else some (entry.takeWhile (· != '='), (entry.dropWhile (· != '=')).tail)

/-- The variables after the lines; `pending` is a value that goes on because its
line ended in a backslash. A value without a name ends the import. -/
def importLines : (pending : Option (Text × Text)) → List Text → Env → Env
  | none, [], env => env
  | some (name, value), [], env => env.set name (value ++ ['\\'])
  | none, line :: rest, env =>
      match parseLine line with
      | none => importLines none rest env
      | some (name, value) =>
          if name = [] ∧ value ≠ [] then env
          else if (unescape value).2 = true then
            importLines (some (name, (unescape value).1)) rest env
          else importLines none rest (env.set name (unescape value).1)
  | some (name, value), line :: rest, env =>
      if (unescape line).2 = true then
        importLines (some (name, value ++ '\n' :: (unescape line).1)) rest env
      else importLines none rest (env.set name (value ++ '\n' :: (unescape line).1))

def importText (text : Text) (env : Env) : Env := importLines none (textLines text) env

section Lines

theorem textLines_line (line rest : Text) (single : '\n' ∉ line) :
    textLines (line ++ '\n' :: rest) = line :: textLines rest := by
  induction line with
  | nil => simp only [List.nil_append, textLines, ↓reduceIte]
  | cons c line ih =>
      have head : c ≠ '\n' := fun is => single (is ▸ List.mem_cons_self)
      have tail := ih fun member => single (List.mem_cons_of_mem c member)
      rw [List.cons_append, textLines, if_neg head, tail]

theorem textLines_unlines (lines : List Text) (single : ∀ line ∈ lines, '\n' ∉ line) :
    textLines (unlines lines) = lines := by
  induction lines with
  | nil => rfl
  | cons line rest ih =>
      rw [List.forall_mem_cons] at single
      have head := textLines_line line (unlines rest) single.1
      unfold unlines at head ih ⊢
      rw [List.flatMap_cons, List.append_assoc]
      exact head.trans (congrArg (line :: ·) (ih single.2))

end Lines

section Values

theorem unescape_plain (value : Text) (plain : '\\' ∉ value) : unescape value = (value, false) := by
  induction value with
  | nil => rfl
  | cons c rest ih =>
      have head : c ≠ '\\' := fun is => plain (is ▸ List.mem_cons_self)
      rw [unescape, ih fun member => plain (List.mem_cons_of_mem c member)]
      · intro is
        exact absurd is head
      · intro _ _ is
        exact absurd is head

theorem unescape_length_le (value : Text) : (unescape value).1.length ≤ value.length := by
  fun_induction unescape value with
  | case1 => exact Nat.le_refl 0
  | case2 => exact Nat.zero_le 1
  | case3 c rest ih =>
      simp only [List.length_cons]
      omega
  | case4 c rest _ _ ih =>
      simp only [List.length_cons]
      omega

/-- Every backslash is lost. -/
theorem unescape_length_lt (value : Text) (escaped : '\\' ∈ value) :
    (unescape value).1.length < value.length := by
  fun_induction unescape value with
  | case1 => cases escaped
  | case2 => exact Nat.zero_lt_one
  | case3 c rest _ =>
      have shorter := unescape_length_le rest
      simp only [List.length_cons]
      omega
  | case4 c rest last other ih =>
      rcases List.mem_cons.mp escaped with head | tail
      · cases rest with
        | nil => exact (last head.symm rfl).elim
        | cons d rest => exact (other d rest head.symm rfl).elim
      · have shorter := ih tail
        simp only [List.length_cons]
        omega

/-- Only a value that ends in a backslash runs on. -/
theorem getLast_of_runs (value : Text) (runs : (unescape value).2 = true) :
    value.getLast? = some '\\' := by
  fun_induction unescape value with
  | case1 => cases runs
  | case2 => rfl
  | case3 c rest ih =>
      have last := ih runs
      rw [List.getLast?_cons, List.getLast?_cons, last]
      rfl
  | case4 c rest _ _ ih =>
      have last := ih runs
      rw [List.getLast?_cons, last]
      rfl

theorem unescape_subset (value : Text) : ∀ c ∈ (unescape value).1, c ∈ value := by
  fun_induction unescape value with
  | case1 => exact fun _ member => member
  | case2 => exact fun _ member => nomatch member
  | case3 d rest ih =>
      intro c member
      rcases List.mem_cons.mp member with here | later
      · exact List.mem_cons_of_mem _ (here ▸ List.mem_cons_self)
      · exact List.mem_cons_of_mem _ (List.mem_cons_of_mem _ (ih c later))
  | case4 d rest _ _ ih =>
      intro c member
      rcases List.mem_cons.mp member with here | later
      · exact here ▸ List.mem_cons_self
      · exact List.mem_cons_of_mem _ (ih c later)

end Values

/-- Letters, digits and underscores, at least one. -/
def isName (name : Text) : Bool := !name.isEmpty && name.all isWordChar

section Names

theorem isName_cons (c : Char) (rest : Text) (named : isName (c :: rest) = true) :
    isSpace c = false ∧ c ≠ '#' := by
  simp only [isName, List.isEmpty_cons, Bool.not_false, Bool.true_and, List.all_cons,
    Bool.and_eq_true] at named
  constructor
  · cases space : isSpace c with
    | false => rfl
    | true =>
        simp only [isSpace, Bool.or_eq_true, beq_iff_eq] at space
        rcases space with is | is <;> rw [is] at named <;> exact absurd named.1 (by decide)
  · intro is
    rw [is] at named
    exact absurd named.1 (by decide)

theorem equals_not_mem (name : Text) (named : isName name = true) : '=' ∉ name := by
  intro member
  simp only [isName, Bool.and_eq_true] at named
  exact absurd (List.all_eq_true.mp named.2 '=' member) (by decide)

theorem ne_nil_of_isName (name : Text) (named : isName name = true) : name ≠ [] := by
  intro is
  rw [is] at named
  exact absurd named (by decide)

theorem parseLine_assign (name value : Text) (named : isName name = true) :
    parseLine (name ++ '=' :: value) = some (name, value) := by
  have start : (name ++ '=' :: value).dropWhile isSpace = name ++ '=' :: value ∧
      (name ++ '=' :: value).head? ≠ some '#' := by
    cases name with
    | nil => exact absurd rfl (ne_nil_of_isName [] named)
    | cons c rest =>
        obtain ⟨space, comment⟩ := isName_cons c rest named
        refine ⟨?_, fun is => comment (Option.some.inj is)⟩
        rw [List.cons_append, List.dropWhile_cons, if_neg (by rw [space]; decide)]
  have outside : ∀ c ∈ name, (c != '=') = true := fun c member =>
    bne_iff_ne.mpr fun is => equals_not_mem name named (is ▸ member)
  simp only [parseLine, start.1, if_neg start.2]
  rw [List.takeWhile_append_of_pos outside, List.dropWhile_append_of_pos outside]
  simp

end Names

section Import

/-- A value that ends with its line is set without its escapes. -/
theorem importLines_unescape (name value : Text) (rest : List Text) (env : Env)
    (named : isName name = true) (ends : (unescape value).2 = false) :
    importLines none ((name ++ '=' :: value) :: rest) env =
      importLines none rest (env.set name (unescape value).1) := by
  have nonempty : ¬(name = [] ∧ value ≠ []) := fun both => ne_nil_of_isName name named both.1
  rw [importLines, parseLine_assign name value named]
  simp only [if_neg nonempty, ends, Bool.false_eq_true, ↓reduceIte]

theorem importLines_assign (name value : Text) (rest : List Text) (env : Env)
    (named : isName name = true) (plain : '\\' ∉ value) :
    importLines none ((name ++ '=' :: value) :: rest) env =
      importLines none rest (env.set name value) := by
  have unchanged := unescape_plain value plain
  rw [importLines_unescape name value rest env named (by rw [unchanged]), unchanged]

/-- A line that assigns to some other variable or to none. -/
def Spares (name line : Text) : Prop := ∀ key value, parseLine line = some (key, value) → key ≠ name

theorem spares_assign (name key value : Text) (named : isName key = true) (other : key ≠ name) :
    Spares name (key ++ '=' :: value) := by
  intro parsed text is
  rw [parseLine_assign key value named] at is
  cases is
  exact other

/-- Lines that spare a variable leave it as it is, however their values run on. -/
theorem importLines_frame (name : Text) (lines : List Text) (pending : Option (Text × Text))
    (env : Env) (spared : ∀ line ∈ lines, Spares name line)
    (elsewhere : ∀ key value, pending = some (key, value) → key ≠ name) :
    importLines pending lines env name = env name := by
  fun_induction importLines pending lines env with
  | case1 env => rfl
  | case2 key value env => exact Env.set_other _ _ _ _ (elsewhere key value rfl).symm
  | case3 line rest env _ ih =>
      rw [List.forall_mem_cons] at spared
      exact ih spared.2 elsewhere
  | case4 => rfl
  | case5 line rest env key value parsed _ _ ih =>
      rw [List.forall_mem_cons] at spared
      apply ih spared.2
      intro other text is
      cases is
      exact spared.1 key value parsed
  | case6 line rest env key value parsed _ _ ih =>
      rw [List.forall_mem_cons] at spared
      rw [ih spared.2 elsewhere]
      exact Env.set_other _ _ _ _ (spared.1 key value parsed).symm
  | case7 key value line rest env _ ih =>
      rw [List.forall_mem_cons] at spared
      apply ih spared.2
      intro other text is
      cases is
      exact elsewhere key value rfl
  | case8 key value line rest env _ ih =>
      rw [List.forall_mem_cons] at spared
      rw [ih spared.2 fun _ _ is => nomatch is]
      exact Env.set_other _ _ _ _ (elsewhere key value rfl).symm

theorem importLines_spared (name : Text) (lines : List Text) (env : Env)
    (spared : ∀ line ∈ lines, Spares name line) : importLines none lines env name = env name :=
  importLines_frame name lines none env spared fun _ _ is => nomatch is

/-- A value that runs on takes in the end of its line. -/
theorem newline_mem_importLines (name : Text) (lines : List Text) (value : Text) (env : Env)
    (spared : ∀ line ∈ lines, Spares name line) (runs : '\n' ∈ value ∨ lines ≠ []) :
    '\n' ∈ importLines (some (name, value)) lines env name := by
  induction lines generalizing value with
  | nil =>
      rw [importLines, Env.set_same]
      exact List.mem_append_left _ (runs.resolve_right fun wrong => wrong rfl)
  | cons line rest ih =>
      rw [List.forall_mem_cons] at spared
      have taken : '\n' ∈ value ++ '\n' :: (unescape line).1 :=
        List.mem_append_right _ List.mem_cons_self
      rw [importLines]
      split
      · exact ih _ spared.2 (Or.inl taken)
      · rw [importLines_spared name rest _ spared.2, Env.set_same]
        exact taken

/-- A value with a backslash does not come back. -/
theorem importLines_backslash (name value : Text) (rest : List Text) (env : Env)
    (named : isName name = true) (single : '\n' ∉ value) (escaped : '\\' ∈ value)
    (more : rest ≠ []) (spared : ∀ line ∈ rest, Spares name line) :
    importLines none ((name ++ '=' :: value) :: rest) env name ≠ value := by
  have nonempty : ¬(name = [] ∧ value ≠ []) := fun both => ne_nil_of_isName name named both.1
  rw [importLines, parseLine_assign name value named]
  simp only [if_neg nonempty]
  split
  · intro same
    have taken := newline_mem_importLines name rest (unescape value).1 env spared (Or.inr more)
    exact single (same ▸ taken)
  · rw [importLines_spared name rest _ spared, Env.set_same]
    intro same
    have shorter := unescape_length_lt value escaped
    rw [same] at shorter
    exact Nat.lt_irrefl _ shorter

end Import

section Settings

/-- The line that sets a variable. -/
def assignment (setting : Text × Text) : Text := setting.1 ++ '=' :: setting.2

theorem assignments_spare (name : Text) (settings : List (Text × Text))
    (named : ∀ setting ∈ settings, isName setting.1 = true)
    (others : name ∉ settings.map Prod.fst) :
    ∀ line ∈ settings.map assignment, Spares name line := by
  intro line member
  obtain ⟨setting, inside, rfl⟩ := List.mem_map.mp member
  apply spares_assign _ _ _ (named setting inside)
  intro is
  exact others (is ▸ List.mem_map_of_mem inside)

/-- Values without backslashes come back as they were written. -/
theorem importLines_value (settings : List (Text × Text)) (rest : List Text) (env : Env)
    (named : ∀ setting ∈ settings, isName setting.1 = true)
    (plain : ∀ setting ∈ settings, '\\' ∉ setting.2)
    (distinct : (settings.map Prod.fst).Nodup) (setting : Text × Text) (member : setting ∈ settings)
    (spared : ∀ line ∈ rest, Spares setting.1 line) :
    importLines none (settings.map assignment ++ rest) env setting.1 = setting.2 := by
  induction settings generalizing env with
  | nil => cases member
  | cons first others ih =>
      rw [List.forall_mem_cons] at named plain
      rw [List.map_cons, List.nodup_cons] at distinct
      rw [List.map_cons, List.cons_append, assignment,
        importLines_assign _ _ _ _ named.1 plain.1]
      rcases List.mem_cons.mp member with here | later
      · rw [here] at spared ⊢
        rw [importLines_spared, Env.set_same]
        intro line inside
        rcases List.mem_append.mp inside with one | two
        · exact assignments_spare first.1 others named.2 distinct.1 line one
        · exact spared line two
      · exact ih _ named.2 plain.2 distinct.2 later

/-- Past settings without backslashes. -/
theorem importLines_front (settings : List (Text × Text)) (rest : List Text) (env : Env)
    (named : ∀ setting ∈ settings, isName setting.1 = true)
    (plain : ∀ setting ∈ settings, '\\' ∉ setting.2) : ∃ env' : Env,
    importLines none (settings.map assignment ++ rest) env = importLines none rest env' := by
  induction settings generalizing env with
  | nil => exact ⟨env, rfl⟩
  | cons first others ih =>
      rw [List.forall_mem_cons] at named plain
      rw [List.map_cons, List.cons_append, assignment,
        importLines_assign _ _ _ _ named.1 plain.1]
      exact ih _ named.2 plain.2

/-- A value with a backslash does not, whatever follows. -/
theorem importLines_escaped (before after : List (Text × Text)) (name value : Text)
    (rest : List Text) (env : Env)
    (named : ∀ setting ∈ before ++ (name, value) :: after, isName setting.1 = true)
    (plain : ∀ setting ∈ before, '\\' ∉ setting.2)
    (single : '\n' ∉ value) (escaped : '\\' ∈ value) (last : rest ≠ [])
    (others : name ∉ after.map Prod.fst) (spared : ∀ line ∈ rest, Spares name line) :
    importLines none ((before ++ (name, value) :: after).map assignment ++ rest) env name ≠
      value := by
  rw [List.forall_mem_append, List.forall_mem_cons] at named
  obtain ⟨front, this, behind⟩ := named
  rw [List.map_append, List.map_cons, List.append_assoc, List.cons_append, assignment]
  obtain ⟨env', through⟩ := importLines_front before
    ((name ++ '=' :: value) :: (after.map assignment ++ rest)) env front plain
  rw [through]
  apply importLines_backslash name value _ env' this single escaped
  · exact fun is => last (List.append_eq_nil_iff.mp is).2
  · intro line inside
    rcases List.mem_append.mp inside with one | two
    · exact assignments_spare name after behind others line one
    · exact spared line two

/-- Up to one setting whose value ends with its line. -/
theorem importLines_through (before after : List (Text × Text)) (name value : Text)
    (rest : List Text) (env : Env)
    (named : ∀ setting ∈ before ++ (name, value) :: after, isName setting.1 = true)
    (plain : ∀ setting ∈ before, '\\' ∉ setting.2) (ends : (unescape value).2 = false) :
    ∃ env' : Env, importLines none
        ((before ++ (name, value) :: after).map assignment ++ rest) env =
      importLines none (after.map assignment ++ rest) (env'.set name (unescape value).1) := by
  rw [List.forall_mem_append, List.forall_mem_cons] at named
  obtain ⟨front, this, -⟩ := named
  rw [List.map_append, List.map_cons, List.append_assoc, List.cons_append, assignment]
  obtain ⟨env', through⟩ := importLines_front before
    ((name ++ '=' :: value) :: (after.map assignment ++ rest)) env front plain
  rw [through]
  exact ⟨env', importLines_unescape name value _ env' this ends⟩

end Settings

end EnvText
