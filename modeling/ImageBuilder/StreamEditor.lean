import ImageBuilder.PlainText

set_option autoImplicit false

/- `sed -i` with a whole line to replace. A replacement is plain when no character
of it means something to sed itself; about others nothing is said. -/
namespace StreamEditor

open PlainText

/-- The characters that sed reads in the replacement of s/../../. -/
def isPlain (c : Char) : Bool := c != '/' && c != '\\' && c != '&' && c != '\n'

def Plain (replacement : Text) : Prop := ∀ c ∈ replacement, isPlain c = true

instance (replacement : Text) : Decidable (Plain replacement) :=
  inferInstanceAs (Decidable (∀ c ∈ replacement, isPlain c = true))

/-- `s/^key=.*/replacement/` on one line. -/
def substituteLine (key replacement line : Text) : Text :=
  if (key ++ ['=']).isPrefixOf line then replacement else line

/-- `/pattern/c\text` on one line. -/
def changeLine (pattern text line : Text) : Text := if grepLine pattern line then text else line

/-- The two commands on a file; with no result sed fails and leaves the file. -/
structure Sed where
  substitute : (key replacement : Text) → List Text → Option (List Text)
  change : (pattern text : Text) → List Text → Option (List Text)
  substitute_plain : ∀ key replacement lines, Plain replacement →
    substitute key replacement lines = some (lines.map (substituteLine key replacement))
  change_plain : ∀ pattern text lines, '\\' ∉ text → '\n' ∉ text →
    change pattern text lines = some (lines.map (changeLine pattern text))

/-- An editor that knows plain replacements only. -/
def plainSed : Sed where
  substitute key replacement lines :=
    if Plain replacement then some (lines.map (substituteLine key replacement)) else none
  change pattern text lines :=
    if '\\' ∉ text ∧ '\n' ∉ text then some (lines.map (changeLine pattern text)) else none
  substitute_plain _ _ _ plain := if_pos plain
  change_plain _ _ _ one two := if_pos ⟨one, two⟩

theorem substituteLine_hit (key replacement value : Text) :
    substituteLine key replacement (key ++ '=' :: value) = replacement := by
  apply if_pos
  rw [List.isPrefixOf_iff_prefix]
  exact ⟨value, by rw [List.append_assoc, List.singleton_append]⟩

/-- Another key, or no key at all, is left alone. -/
theorem substituteLine_miss (key replacement line : Text) (other : ¬ key ++ ['='] <+: line) :
    substituteLine key replacement line = line := by
  apply if_neg
  rwa [List.isPrefixOf_iff_prefix]

theorem substituteLine_assign (key name replacement value : Text) (outside : '=' ∉ key)
    (inside : '=' ∉ name) (different : name ≠ key) :
    substituteLine key replacement (name ++ '=' :: value) = name ++ '=' :: value := by
  apply substituteLine_miss
  intro here
  obtain ⟨rest, same⟩ := here
  have cut := congrArg (List.takeWhile (· != '=')) same
  have all : ∀ text : Text, '=' ∉ text → ∀ c ∈ text, (c != '=') = true :=
    fun text missing c member => bne_iff_ne.mpr fun is => missing (is ▸ member)
  rw [List.append_assoc, List.singleton_append, List.takeWhile_append_of_pos (all key outside),
    List.takeWhile_append_of_pos (all name inside)] at cut
  apply different
  simpa using cut.symm

/-- The options of the command s, and what may end it. -/
def isOption (c : Char) : Bool := c ∈ "gpiImMew0123456789;#\x7d".toList

/-- What follows the first slash that no backslash stands before. -/
def pastSlash : Text → Option Text
  | [] => none
  | ['\\'] => none
  | '\\' :: _ :: rest => pastSlash rest
  | c :: rest => if c = '/' then some rest else pastSlash rest

/-- Replacements that end early: sed stops at what it takes for options. -/
def Rejected (replacement : Text) : Prop :=
  ∃ rest, pastSlash replacement = some rest ∧ ∀ c ∈ (rest ++ "/g".toList).head?, isOption c = false

instance (replacement : Text) : Decidable (Rejected replacement) :=
  match found : pastSlash replacement with
  | none => .isFalse fun ⟨_, is, _⟩ => nomatch found.symm.trans is
  | some rest =>
    if unknown : ∀ c ∈ (rest ++ "/g".toList).head?, isOption c = false then
      .isTrue ⟨rest, found, unknown⟩
    else .isFalse fun ⟨_, is, all⟩ => unknown (Option.some.inj (found.symm.trans is) ▸ all)

/-- Replacements that end early, with options behind: the program is another one. -/
def Odd (replacement : Text) : Prop := (pastSlash replacement).isSome ∧ ¬ Rejected replacement

instance (replacement : Text) : Decidable (Odd replacement) :=
  inferInstanceAs (Decidable (_ ∧ _))

/-- What an editor makes of replacements with a backslash: with what follows it, it
stands for one character at most, and only & brings in the text matched. -/
structure Replacer where
  unescape : (matched replacement : Text) → Option Text
  odd : (pattern replacement : Text) → List Text → List Text
  shorter : ∀ matched replacement out, '\\' ∈ replacement → '"' ∈ matched →
    unescape matched replacement = some out →
    out.length < replacement.length ∨ replacement.count '"' < out.count '"'

/-- & stands for the text matched. -/
def ampersands (matched replacement : Text) : Text :=
  replacement.flatMap fun c => if c = '&' then matched else [c]

/-- `sed -i s/pattern/replacement/g` for a literal pattern; a program that sed does not
accept changes nothing. -/
def Replacer.substitute (sed : Replacer) (pattern replacement : Text) (lines : List Text) :
    List Text :=
  if Odd replacement then sed.odd pattern replacement lines
  else if Rejected replacement then lines
  else if '\\' ∈ replacement then
    match sed.unescape pattern replacement with
    | some out => lines.map (replaceAll pattern out)
    | none => lines
  else lines.map (replaceAll pattern (ampersands pattern replacement))

/-- `sed -i 'number s/.*/replacement/'` -/
def Replacer.setLine (sed : Replacer) (number : Nat) (replacement : Text) (lines : List Text) :
    List Text :=
  if Plain replacement then lines.set (number - 1) replacement
  else sed.odd ".*" replacement lines

/-- An editor that drops the backslashes. -/
def droppingReplacer : Replacer where
  unescape _ replacement := some (replacement.filter (· ≠ '\\'))
  odd _ _ lines := lines
  shorter := by
    intro matched replacement out escaped _ is
    left
    obtain rfl := Option.some.inj is
    rw [List.length_filter_lt_length_iff_exists]
    exact ⟨'\\', escaped, by decide⟩

theorem pastSlash_of_absent (replacement : Text) (absent : '/' ∉ replacement) :
    pastSlash replacement = none := by
  fun_induction pastSlash replacement with
  | case1 => rfl
  | case2 => rfl
  | case3 c rest ih =>
    exact ih fun member => absent (List.mem_cons_of_mem _ (List.mem_cons_of_mem _ member))
  | case4 rest _ _ => exact absurd List.mem_cons_self absent
  | case5 c rest _ _ other ih => exact ih fun member => absent (List.mem_cons_of_mem _ member)

theorem ampersands_of_absent (matched replacement : Text) (absent : '&' ∉ replacement) :
    ampersands matched replacement = replacement := by
  unfold ampersands
  induction replacement with
  | nil => rfl
  | cons c rest ih =>
    obtain ⟨other, later⟩ := List.ne_and_not_mem_of_not_mem_cons absent
    rw [List.flatMap_cons, if_neg (Ne.symm other), ih later]
    rfl

theorem Plain.absent {replacement : Text} (plain : Plain replacement) :
    '/' ∉ replacement ∧ '\\' ∉ replacement ∧ '&' ∉ replacement := by
  refine ⟨fun member => ?_, fun member => ?_, fun member => ?_⟩
  · exact absurd (plain _ member) (by decide)
  · exact absurd (plain _ member) (by decide)
  · exact absurd (plain _ member) (by decide)

theorem Plain.not_rejected {replacement : Text} (plain : Plain replacement) :
    ¬ Rejected replacement := by
  rintro ⟨rest, found, _⟩
  exact nomatch (pastSlash_of_absent replacement plain.absent.1).symm.trans found

theorem Plain.not_odd {replacement : Text} (plain : Plain replacement) : ¬ Odd replacement := by
  rintro ⟨found, _⟩
  rw [pastSlash_of_absent replacement plain.absent.1] at found
  nomatch found

theorem Replacer.substitute_plain (sed : Replacer) (pattern replacement : Text)
    (lines : List Text) (plain : Plain replacement) :
    sed.substitute pattern replacement lines = lines.map (replaceAll pattern replacement) := by
  obtain ⟨_, escape, ampersand⟩ := plain.absent
  rw [Replacer.substitute, if_neg plain.not_odd, if_neg plain.not_rejected, if_neg escape,
    ampersands_of_absent pattern replacement ampersand]

theorem slash_absent_of_pastSlash (replacement : Text) (none : pastSlash replacement = none)
    (unescaped : '\\' ∉ replacement) : '/' ∉ replacement := by
  induction replacement with
  | nil => exact List.not_mem_nil
  | cons c rest ih =>
    obtain ⟨escape, later⟩ := List.ne_and_not_mem_of_not_mem_cons unescaped
    have step : pastSlash (c :: rest) = if c = '/' then some rest else pastSlash rest := by
      rw [pastSlash]
      · rintro rfl
        exact absurd rfl escape
      · rintro _ _ rfl
        exact absurd rfl escape
    rw [step] at none
    split at none
    · nomatch none
    · rename_i other
      exact List.not_mem_cons_of_ne_of_not_mem (Ne.symm other) (ih none later)

theorem count_ampersands (c : Char) (other : c ≠ '&') (matched replacement : Text) :
    (ampersands matched replacement).count c =
      replacement.count c + replacement.count '&' * matched.count c := by
  unfold ampersands
  induction replacement with
  | nil => rw [List.count_nil, List.count_nil, Nat.zero_mul]; rfl
  | cons d rest ih =>
    rw [List.flatMap_cons, List.count_append, ih]
    by_cases ampersand : d = '&'
    · rw [if_pos ampersand, ampersand, List.count_cons_self, List.count_cons_of_ne (Ne.symm other),
        Nat.succ_mul]
      omega
    · rw [if_neg ampersand, List.count_cons_of_ne ampersand, List.count_singleton, List.count_cons]
      omega

/-- A program that is the one meant puts one text in the place of the pattern; it is the
replacement as it is written exactly if that is plain. -/
theorem Replacer.substitute_eq_map (sed : Replacer) (pattern replacement : Text)
    (usual : ¬ Odd replacement) (single : '\n' ∉ replacement) (quoted : '"' ∈ pattern)
    (plain : Plain pattern) :
    ∃ out, (out = replacement ↔ Plain replacement) ∧
      ∀ lines, sed.substitute pattern replacement lines = lines.map (replaceAll pattern out) := by
  by_cases literal : Plain replacement
  · exact ⟨replacement, iff_of_true rfl literal,
      fun lines => sed.substitute_plain pattern replacement lines literal⟩
  have differs : pattern ≠ replacement := by
    rintro rfl
    exact literal plain
  have unchanged (lines : List Text) : lines = lines.map (replaceAll pattern pattern) := by
    have kept : lines.map (replaceAll pattern pattern) = lines.map id :=
      List.map_congr_left fun line _ => replaceAll_self pattern line (List.ne_nil_of_mem quoted)
    rw [kept, List.map_id]
  by_cases rejected : Rejected replacement
  · refine ⟨pattern, iff_of_false differs literal, fun lines => ?_⟩
    rw [Replacer.substitute, if_neg usual, if_pos rejected]
    exact unchanged lines
  have whole : pastSlash replacement = none := by
    cases found : pastSlash replacement with
    | none => rfl
    | some rest => exact absurd ⟨by rw [found]; rfl, rejected⟩ usual
  by_cases escaped : '\\' ∈ replacement
  · cases stands : sed.unescape pattern replacement with
    | none =>
      refine ⟨pattern, iff_of_false differs literal, fun lines => ?_⟩
      rw [Replacer.substitute, if_neg usual, if_neg rejected, if_pos escaped, stands]
      exact unchanged lines
    | some out =>
      refine ⟨out, iff_of_false ?_ literal, fun lines => ?_⟩
      · rintro rfl
        rcases sed.shorter pattern out out escaped quoted stands with less | less
        · exact Nat.lt_irrefl _ less
        · exact Nat.lt_irrefl _ less
      · rw [Replacer.substitute, if_neg usual, if_neg rejected, if_pos escaped, stands]
  · refine ⟨ampersands pattern replacement, iff_of_false ?_ literal, fun lines => ?_⟩
    · have ampersand : '&' ∈ replacement := by
        by_contra absent
        apply literal
        intro c member
        have slash := slash_absent_of_pastSlash replacement whole escaped
        simp only [isPlain, Bool.and_eq_true, bne_iff_ne]
        refine ⟨⟨⟨?_, ?_⟩, ?_⟩, ?_⟩
        · exact fun is => slash (is ▸ member)
        · exact fun is => escaped (is ▸ member)
        · exact fun is => absent (is ▸ member)
        · exact fun is => single (is ▸ member)
      intro same
      have quotes := count_ampersands '"' (by decide) pattern replacement
      rw [same] at quotes
      have some : 0 < replacement.count '&' * pattern.count '"' :=
        Nat.mul_pos (List.count_pos_iff.mpr ampersand) (List.count_pos_iff.mpr quoted)
      omega
    · rw [Replacer.substitute, if_neg usual, if_neg rejected, if_neg escaped]

end StreamEditor
