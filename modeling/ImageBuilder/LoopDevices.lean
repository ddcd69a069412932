import ImageBuilder.Numerals
import ImageBuilder.Partitioning
import Mathlib.Data.List.Basic

set_option autoImplicit false

/- Which device mappings shrink takes for the partitions of its image: what kpartx
prints, and what the two patterns of grep find in it. -/
namespace ImageBuilder.Shrink

open PlainText Numerals

/-- The kernel's name for partition i of a loop device. -/
def loopName (loop i : Nat) : Text := "loop".toList ++ decimal loop ++ 'p' :: decimal i

/-- The numbers kpartx prints about a mapping. -/
structure Mapping where
  minor : Nat
  size : Nat
  start : Nat

/-- A line of `kpartx -av`. -/
def kpartxLine (loop i : Nat) (mapping : Mapping) : Text :=
  "add map ".toList ++ (loopName loop i ++
    (" (253:".toList ++ decimal mapping.minor ++ "): 0 ".toList ++ decimal mapping.size ++
      " linear 7:".toList ++ decimal loop ++ ' ' :: decimal mapping.start))

/-- `loop.p.`: how many characters a match has that begins here. -/
def loop_p (text : Text) : Option Nat :=
  (after "loop" text).bind fun rest =>
    match rest with
    | _ :: 'p' :: _ :: _ => some 7
    | _ => none

/-- `loop[0-9]\+p.` -/
def loop_digits_p (text : Text) : Option Nat :=
  (after "loop" text).bind fun rest =>
    match rest.takeWhile Char.isDigit, rest.dropWhile Char.isDigit with
    | _ :: more, 'p' :: _ :: _ => some (4 + (more.length + 1) + 2)
    | _, _ => none

/-- `grep -o`: the matches from left to right. The first argument counts the characters
of the last one that are still to come. -/
def grepO (pattern : Text → Option Nat) : Nat → Text → List Text
  | _, [] => []
  | skip + 1, _ :: rest => grepO pattern skip rest
  | 0, c :: rest =>
    match pattern (c :: rest) with
    | some length => (c :: rest).take length :: grepO pattern (length - 1) rest
    | none => grepO pattern 0 rest

/-- LOOP, line by line. A grep that finds nothing ends the script. -/
def LOOP (HOST_MACHINE : Text) (KPARTX : List Text) : Option (List Text) :=
  let pattern := if HOST_MACHINE = "Ubuntu".toList then loop_digits_p else loop_p
  match KPARTX.flatMap (grepO pattern 0) with
  | [] => none
  | lines => some lines

def mapper (name : Text) : Text := "/dev/mapper/".toList ++ name

/-- Lines as one value of a variable. -/
def joined : List Text → Text
  | [] => []
  | [line] => line
  | line :: rest => line ++ '\n' :: joined rest

/-- ROOTFS_LOOP, or BOOT_LOOP and ROOTFS_LOOP. -/
def selected (P_VALUE : Scheme) (LOOP : List Text) : List Text :=
  match P_VALUE with
  | .p1 => [mapper (joined LOOP)]
  | .p2 => [mapper (LOOP.getD 0 []), mapper (LOOP.getD 1 [])]

/-- A machine on which kpartx has mapped the partitions of shrink.img. -/
structure Host (P_VALUE : Scheme) where
  HOST_MACHINE : Text
  loop : Nat
  mappings : List Mapping
  partitions : mappings.length = match P_VALUE with | .p1 => 1 | .p2 => 2

/-- What kpartx prints on it. -/
def Host.KPARTX {P_VALUE : Scheme} (host : Host P_VALUE) : List Text :=
  host.mappings.mapIdx fun i mapping => kpartxLine host.loop (i + 1) mapping

/-- The partitions of the image. -/
def Host.own {P_VALUE : Scheme} (host : Host P_VALUE) : List Text :=
  match P_VALUE with
  | .p1 => [mapper (loopName host.loop 1)]
  | .p2 => [mapper (loopName host.loop 1), mapper (loopName host.loop 2)]

/-- The pattern matches nothing but text that begins with loop. -/
def Anchored (pattern : Text → Option Nat) : Prop :=
  ∀ text, ¬ "loop".toList <+: text → pattern text = none

theorem after_eq_none {marker line : Text} (other : ¬ marker <+: line) : after marker line = none := by
  rw [after, if_neg fun starts => other (List.isPrefixOf_iff_prefix.mp starts)]

theorem loop_p_anchored : Anchored loop_p := by
  intro text other
  rw [loop_p, after_eq_none other]
  rfl

theorem loop_digits_p_anchored : Anchored loop_digits_p := by
  intro text other
  rw [loop_digits_p, after_eq_none other]
  rfl

section Grep

variable {pattern : Text → Option Nat} (anchored : Anchored pattern)
include anchored

theorem grepO_miss {c : Char} {rest : Text} (other : ¬ "loop".toList <+: c :: rest) :
    grepO pattern 0 (c :: rest) = grepO pattern 0 rest := by
  rw [grepO, anchored _ other]

/-- Text without an o has no match. -/
theorem grepO_none {text : Text} (absent : 'o' ∉ text) : grepO pattern 0 text = [] := by
  induction text with
  | nil => rfl
  | cons c rest ih =>
    have other : ¬ "loop".toList <+: c :: rest := fun starts =>
      absent (starts.subset (by decide))
    rw [grepO_miss anchored other]
    exact ih fun later => absent (List.mem_cons_of_mem c later)

/-- In text without an l no match begins. -/
theorem grepO_append {front : Text} (rest : Text) (absent : 'l' ∉ front) :
    grepO pattern 0 (front ++ rest) = grepO pattern 0 rest := by
  induction front with
  | nil => rfl
  | cons c front ih =>
    obtain ⟨first, later⟩ := List.ne_and_not_mem_of_not_mem_cons absent
    have other : ¬ "loop".toList <+: c :: (front ++ rest) := by
      rintro ⟨_, whole⟩
      exact first (List.cons.inj whole).1
    rw [List.cons_append, grepO_miss anchored other]
    exact ih later

end Grep

theorem grepO_drop (pattern : Text → Option Nat) (skip : Nat) (text : Text) :
    grepO pattern skip text = grepO pattern 0 (text.drop skip) := by
  induction skip generalizing text with
  | zero => rfl
  | succ skip ih =>
    cases text with
    | nil => rfl
    | cons c rest => exact ih rest

theorem grepO_hit {pattern : Text → Option Nat} {front rest : Text} (nonempty : front ≠ [])
    (found : pattern (front ++ rest) = some front.length) :
    grepO pattern 0 (front ++ rest) = front :: grepO pattern 0 rest := by
  obtain ⟨c, more, rfl⟩ := List.exists_cons_of_ne_nil nonempty
  rw [List.cons_append] at found ⊢
  rw [grepO, found]
  show (c :: (more ++ rest)).take (more.length + 1) ::
    grepO pattern (more.length + 1 - 1) (more ++ rest) = _
  rw [List.take_succ_cons, List.take_left, Nat.add_sub_cancel, grepO_drop, List.drop_left]

section Line

variable (loop i : Nat) (mapping : Mapping)

/-- The line behind the name. -/
def numbers : Text :=
  " (253:".toList ++ decimal mapping.minor ++ "): 0 ".toList ++ decimal mapping.size ++
    " linear 7:".toList ++ decimal loop ++ ' ' :: decimal mapping.start

theorem kpartxLine_eq : kpartxLine loop i mapping =
    "add map ".toList ++ (loopName loop i ++ numbers loop mapping) := rfl

theorem o_not_mem_numbers : 'o' ∉ numbers loop mapping := by
  have absent (n : Nat) : 'o' ∉ decimal n := not_mem_decimal n (by decide)
  unfold numbers
  simp only [List.mem_append, List.mem_cons, not_or]
  exact ⟨⟨⟨⟨⟨⟨by decide, absent _⟩, by decide⟩, absent _⟩, by decide⟩, absent _⟩, by decide,
    absent _⟩

/-- The name, with its one digit for the partition, and what follows. -/
theorem loopName_append (rest : Text) (single : i < 10) :
    loopName loop i ++ rest =
      "loop".toList ++ (decimal loop ++ 'p' :: i.digitChar :: rest) := by
  rw [loopName, decimal_small i single, List.append_assoc, List.append_assoc]
  rfl

theorem loop_digits_p_loopName (rest : Text) (single : i < 10) :
    loop_digits_p (loopName loop i ++ rest) = some (loopName loop i).length := by
  have digits : ∀ c ∈ decimal loop, c.isDigit = true := fun c member =>
    Nat.isDigit_of_mem_toDigits (by decide) (by decide) member
  obtain ⟨first, more, shape⟩ := List.exists_cons_of_ne_nil (decimal_ne_nil loop)
  have long : (loopName loop i).length = 4 + (more.length + 1) + 2 := by
    rw [loopName, decimal_small i single, shape]
    simp only [List.length_append, List.length_cons, List.length_nil]
    rfl
  have behind : after "loop".toList (loopName loop i ++ rest) =
      some (decimal loop ++ 'p' :: i.digitChar :: rest) :=
    (after_eq_some_iff _ _ _).mpr (loopName_append loop i rest single)
  have taken : (decimal loop ++ 'p' :: i.digitChar :: rest).takeWhile Char.isDigit =
      decimal loop := by
    rw [List.takeWhile_append_of_pos digits, List.takeWhile_cons_of_neg (by decide),
      List.append_nil]
  have dropped : (decimal loop ++ 'p' :: i.digitChar :: rest).dropWhile Char.isDigit =
      'p' :: i.digitChar :: rest := by
    rw [List.dropWhile_append_of_pos digits, List.dropWhile_cons_of_neg (by decide)]
  rw [loop_digits_p, behind, Option.bind_some, taken, dropped, shape, long]
  rfl

theorem loop_p_loopName (rest : Text) (single : i < 10) (small : loop < 10) :
    loop_p (loopName loop i ++ rest) = some (loopName loop i).length := by
  have behind : after "loop".toList (loopName loop i ++ rest) =
      some (loop.digitChar :: 'p' :: i.digitChar :: rest) := by
    rw [after_eq_some_iff, loopName_append loop i rest single, decimal_small loop small]
    rfl
  have long : (loopName loop i).length = 7 := by
    rw [loopName, decimal_small i single, decimal_small loop small]
    rfl
  rw [loop_p, behind, long]
  rfl

/-- A second digit stands where the pattern wants the p. -/
theorem loop_p_large (rest : Text) (single : i < 10) (large : 10 ≤ loop) :
    loop_p (loopName loop i ++ rest) = none := by
  have digits : ∀ c ∈ decimal loop, c.isDigit = true := fun c member =>
    Nat.isDigit_of_mem_toDigits (by decide) (by decide) member
  have long : ∃ first second more, decimal loop = first :: second :: more := by
    obtain ⟨first, others, shape⟩ := List.exists_cons_of_ne_nil (decimal_ne_nil (loop / 10))
    rw [decimal_large loop large, shape]
    cases others with
    | nil => exact ⟨_, _, _, rfl⟩
    | cons second more => exact ⟨_, _, _, rfl⟩
  obtain ⟨first, second, more, shape⟩ := long
  have behind : after "loop".toList (loopName loop i ++ rest) =
      some (first :: second :: (more ++ 'p' :: i.digitChar :: rest)) := by
    rw [after_eq_some_iff, loopName_append loop i rest single, shape]
    rfl
  have digit : second ≠ 'p' := by
    rintro rfl
    have wrong := digits 'p' (by rw [shape]; exact List.mem_cons_of_mem _ List.mem_cons_self)
    exact absurd wrong (by decide)
  rw [loop_p, behind, Option.bind_some]
  split
  · rename_i is
    exact absurd (List.cons.inj (List.cons.inj is).2).1 digit
  · rfl

theorem grepO_line {pattern : Text → Option Nat} (anchored : Anchored pattern)
    (found : pattern (loopName loop i ++ numbers loop mapping) = some (loopName loop i).length) :
    grepO pattern 0 (kpartxLine loop i mapping) = [loopName loop i] := by
  have nonempty : loopName loop i ≠ [] := by
    intro none
    nomatch none
  rw [kpartxLine_eq, grepO_append anchored _ (by decide), grepO_hit nonempty found,
    grepO_none anchored (o_not_mem_numbers loop mapping)]

/-- The line of a loop device from ten on, for the short pattern. -/
theorem grepO_line_large (single : i < 10) (large : 10 ≤ loop) :
    grepO loop_p 0 (kpartxLine loop i mapping) = [] := by
  have missed : loop_p (loopName loop i ++ numbers loop mapping) = none :=
    loop_p_large loop i _ single large
  have letter : ∀ d < 10, 'l' ≠ Nat.digitChar d := by decide
  have digit : 'l' ≠ i.digitChar := letter i single
  have front : 'l' ∉ "oop".toList ++ (decimal loop ++ ['p', i.digitChar]) := by
    simp only [List.mem_append, List.mem_cons, List.not_mem_nil, or_false, not_or]
    exact ⟨by decide, not_mem_decimal loop (by decide), by decide, digit⟩
  have shape : loopName loop i ++ numbers loop mapping =
      'l' :: (("oop".toList ++ (decimal loop ++ ['p', i.digitChar])) ++ numbers loop mapping) := by
    rw [loopName_append loop i _ single]
    simp
  rw [kpartxLine_eq, grepO_append loop_p_anchored _ (by decide)]
  rw [shape] at missed ⊢
  rw [grepO, missed]
  show grepO loop_p 0 _ = []
  rw [grepO_append loop_p_anchored _ front]
  exact grepO_none loop_p_anchored (o_not_mem_numbers loop mapping)

end Line

/-- What is found in the lines of kpartx, one or two. -/
theorem flatMap_KPARTX {P_VALUE : Scheme} (host : Host P_VALUE) (pattern : Text → Option Nat)
    (found : Nat → List Text) (line : ∀ (i : Nat) (mapping : Mapping), i < 10 →
      grepO pattern 0 (kpartxLine host.loop i mapping) = found i) :
    host.KPARTX.flatMap (grepO pattern 0) =
      match P_VALUE with
      | .p1 => found 1
      | .p2 => found 1 ++ found 2 := by
  obtain ⟨machine, loop, mappings, partitions⟩ := host
  cases P_VALUE with
  | p1 =>
    obtain ⟨first, rfl⟩ := List.length_eq_one_iff.mp partitions
    have one := line 1 first (by decide)
    simp only [Host.KPARTX, List.mapIdx_cons, List.mapIdx_nil, List.flatMap_cons,
      List.flatMap_nil, List.append_nil, Nat.zero_add, one]
  | p2 =>
    obtain ⟨first, second, rfl⟩ := List.length_eq_two.mp partitions
    have one := line 1 first (by decide)
    have two := line 2 second (by decide)
    simp only [Host.KPARTX, List.mapIdx_cons, List.mapIdx_nil, List.flatMap_cons,
      List.flatMap_nil, List.append_nil, Nat.zero_add, Nat.reduceAdd, one, two]

/-- The number of partitions is a single digit. -/
theorem LOOP_found {P_VALUE : Scheme} (host : Host P_VALUE)
    (reached : host.HOST_MACHINE = "Ubuntu".toList ∨ host.loop < 10) :
    (LOOP host.HOST_MACHINE host.KPARTX).map (selected P_VALUE) = some host.own := by
  have line (i : Nat) (mapping : Mapping) (single : i < 10) :
      grepO (if host.HOST_MACHINE = "Ubuntu".toList then loop_digits_p else loop_p) 0
        (kpartxLine host.loop i mapping) = [loopName host.loop i] := by
    split
    · apply grepO_line _ _ _ loop_digits_p_anchored
      exact loop_digits_p_loopName host.loop i _ single
    · rename_i other
      apply grepO_line _ _ _ loop_p_anchored
      exact loop_p_loopName host.loop i _ single (reached.resolve_left other)
  rw [LOOP, flatMap_KPARTX host _ (fun i => [loopName host.loop i]) line]
  cases P_VALUE <;> rfl

/-- From loop10 on nothing is found, except on Ubuntu. -/
theorem LOOP_missed {P_VALUE : Scheme} (host : Host P_VALUE)
    (other : host.HOST_MACHINE ≠ "Ubuntu".toList) (large : 10 ≤ host.loop) :
    LOOP host.HOST_MACHINE host.KPARTX = none := by
  have line (i : Nat) (mapping : Mapping) (single : i < 10) :
      grepO loop_p 0 (kpartxLine host.loop i mapping) = [] :=
    grepO_line_large host.loop i mapping single large
  rw [LOOP, if_neg other, flatMap_KPARTX host loop_p (fun _ => []) line]
  cases P_VALUE <;> rfl

/-- shrink takes the partitions of its image just when the pattern fits the number. -/
theorem selected_own_iff {P_VALUE : Scheme} (host : Host P_VALUE) :
    (LOOP host.HOST_MACHINE host.KPARTX).map (selected P_VALUE) = some host.own ↔
      host.HOST_MACHINE = "Ubuntu".toList ∨ host.loop < 10 := by
  constructor
  · intro taken
    by_contra fails
    rw [not_or, Nat.not_lt] at fails
    rw [LOOP_missed host fails.1 fails.2] at taken
    nomatch taken
  · exact LOOP_found host

end ImageBuilder.Shrink
