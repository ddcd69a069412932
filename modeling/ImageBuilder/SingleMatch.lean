import ImageBuilder.QuotedText

set_option autoImplicit false

/- A literal substitution of one match in a line: of the first one, or, behind a
greedy `.*`, of the last one. -/
namespace SingleMatch

open PlainText QuotedText

/-- `s/pattern/replacement/` -/
def replaceFirst (pattern replacement : Text) : Text → Text
  | [] => []
  | c :: rest =>
      if pattern.isPrefixOf (c :: rest) then replacement ++ (c :: rest).drop pattern.length
      else c :: replaceFirst pattern replacement rest

/-- `s/\(.*\)pattern/\1replacement/` -/
def replaceLast (pattern replacement : Text) : Text → Text
  | [] => []
  | c :: rest =>
      if grepLine pattern rest then c :: replaceLast pattern replacement rest
      else if pattern.isPrefixOf (c :: rest) then replacement ++ (c :: rest).drop pattern.length
      else c :: rest

variable {pattern replacement front rest : Text} {c : Char}

theorem replaceFirst_of_absent {line : Text} (absent : ¬ pattern <:+: line) :
    replaceFirst pattern replacement line = line := by
  induction line with
  | nil => rfl
  | cons c rest ih =>
    have notHere : ¬ pattern.isPrefixOf (c :: rest) = true := fun here =>
      absent (List.isPrefixOf_iff_prefix.mp here).isInfix
    rw [replaceFirst, if_neg notHere]
    exact congrArg (c :: ·) (ih fun later => absent (later.trans (List.suffix_cons c rest).isInfix))

theorem replaceFirst_here (nonempty : pattern ≠ []) :
    replaceFirst pattern replacement (pattern ++ rest) = replacement ++ rest := by
  obtain ⟨c, tail, rfl⟩ := List.exists_cons_of_ne_nil nonempty
  have here : (c :: tail).isPrefixOf (c :: (tail ++ rest)) = true :=
    List.isPrefixOf_iff_prefix.mpr ⟨rest, rfl⟩
  rw [List.cons_append, replaceFirst, if_pos here]
  exact congrArg (replacement ++ ·) List.drop_left

/-- The character a pattern ends in shows where its first match is. -/
theorem replaceFirst_past (absent : c ∉ front) (once : c ∉ pattern) :
    replaceFirst (pattern ++ [c]) replacement (front ++ ((pattern ++ [c]) ++ rest)) =
      front ++ (replacement ++ rest) := by
  induction front with
  | nil => exact replaceFirst_here (by simp)
  | cons d front ih =>
    have notHere : ¬ (pattern ++ [c]).isPrefixOf (d :: (front ++ ((pattern ++ [c]) ++ rest))) := by
      intro here
      obtain ⟨more, whole⟩ := List.isPrefixOf_iff_prefix.mp here
      have cut : pattern ++ c :: more = (d :: front ++ pattern) ++ c :: rest := by
        simpa using whole
      have longer := (cut_first once (List.not_mem_append absent once) cut).1
      have lengths := congrArg List.length longer
      simp only [List.length_append, List.length_cons] at lengths
      omega
    rw [List.cons_append, replaceFirst, if_neg notHere]
    exact congrArg (d :: ·) (ih fun member => absent (List.mem_cons_of_mem d member))

/-- Text in front of a match is not looked at. -/
theorem replaceLast_append (occurs : pattern <:+: rest) :
    replaceLast pattern replacement (front ++ rest) =
      front ++ replaceLast pattern replacement rest := by
  induction front with
  | nil => rfl
  | cons d front ih =>
    have later : grepLine pattern (front ++ rest) = true :=
      decide_eq_true (occurs.trans (List.suffix_append front rest).isInfix)
    rw [List.cons_append, replaceLast, if_pos later, ih, List.cons_append]

/-- What ends in a character is not found across a first one that comes too early. -/
theorem infix_behind (once : c ∉ front) (outside : c ∉ pattern)
    (short : front.length < pattern.length) (occurs : pattern ++ [c] <:+: front ++ c :: rest) :
    pattern ++ [c] <:+: rest := by
  obtain ⟨left, right, whole⟩ := occurs
  by_cases member : c ∈ left
  · obtain ⟨before, behind, rfl, first⟩ := List.eq_append_cons_of_mem member
    have cut : before ++ c :: (behind ++ (pattern ++ [c]) ++ right) = front ++ c :: rest := by
      simpa using whole
    exact ⟨behind, right, (cut_first first once cut).2⟩
  · have cut : (left ++ pattern) ++ c :: right = front ++ c :: rest := by
      simpa using whole
    have same := (cut_first (List.not_mem_append member outside) once cut).1
    have lengths := congrArg List.length same
    simp only [List.length_append] at lengths
    omega

/-- The last match. -/
theorem replaceLast_here (nonempty : pattern ≠ []) (outside : c ∉ pattern)
    (last : ¬ pattern ++ [c] <:+: rest) :
    replaceLast (pattern ++ [c]) replacement (pattern ++ c :: rest) = replacement ++ rest := by
  obtain ⟨d, tail, rfl⟩ := List.exists_cons_of_ne_nil nonempty
  have notLater : ¬ grepLine (d :: tail ++ [c]) (tail ++ c :: rest) = true := by
    intro later
    have once : c ∉ tail := fun member => outside (List.mem_cons_of_mem d member)
    exact last (infix_behind once outside (Nat.lt_succ_self _) (of_decide_eq_true later))
  have split : d :: (tail ++ c :: rest) = (d :: tail ++ [c]) ++ rest := by simp
  have here : (d :: tail ++ [c]).isPrefixOf (d :: (tail ++ c :: rest)) = true :=
    List.isPrefixOf_iff_prefix.mpr ⟨rest, split.symm⟩
  change replaceLast (d :: tail ++ [c]) replacement (d :: (tail ++ c :: rest)) = _
  rw [replaceLast, if_neg notLater, if_pos here, split, List.drop_left]

end SingleMatch
