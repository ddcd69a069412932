import ImageBuilder.PlainText
import Mathlib.Data.List.Forall2
import Mathlib.Tactic.Linarith

set_option autoImplicit false

/- A global substitution as a scan: from left to right, hits of one width do not
overlap, and each is replaced by what `put` gives for it. Hits and replacements may
depend on the text in front. -/
namespace Substitution

open PlainText

def scan (width : Nat) (hit : Text → Text → Bool) (put : Text → Text → Text) :
    Text → Nat → Text → Text
  | _, _, [] => []
  | before, skip + 1, c :: rest => scan width hit put (before ++ [c]) skip rest
  | before, 0, c :: rest =>
    if hit before (c :: rest) then
      put before (c :: rest) ++ scan width hit put (before ++ [c]) (width - 1) rest
    else c :: scan width hit put (before ++ [c]) 0 rest

/-- The places of the scan, each as the text before it and from it on. -/
def hits (width : Nat) (hit : Text → Text → Bool) : Text → Nat → Text → List (Text × Text)
  | _, _, [] => []
  | before, skip + 1, c :: rest => hits width hit (before ++ [c]) skip rest
  | before, 0, c :: rest =>
    if hit before (c :: rest) then
      (before, c :: rest) :: hits width hit (before ++ [c]) (width - 1) rest
    else hits width hit (before ++ [c]) 0 rest

section Rules

variable {width : Nat} {hit : Text → Text → Bool} {put put' : Text → Text → Text}

theorem scan_skip (before : Text) (skip : Nat) (text : Text) :
    scan width hit put before skip text =
      scan width hit put (before ++ text.take skip) 0 (text.drop skip) := by
  induction skip generalizing before text with
  | zero => rw [List.take_zero, List.drop_zero, List.append_nil]
  | succ skip ih =>
    cases text with
    | nil => rfl
    | cons c rest =>
      rw [scan, ih, List.take_succ_cons, List.drop_succ_cons, List.append_assoc]
      rfl

theorem hits_skip (before : Text) (skip : Nat) (text : Text) :
    hits width hit before skip text =
      hits width hit (before ++ text.take skip) 0 (text.drop skip) := by
  induction skip generalizing before text with
  | zero => rw [List.take_zero, List.drop_zero, List.append_nil]
  | succ skip ih =>
    cases text with
    | nil => rfl
    | cons c rest =>
      rw [hits, ih, List.take_succ_cons, List.drop_succ_cons, List.append_assoc]
      rfl

theorem scan_miss {before rest : Text} {c : Char} (missed : hit before (c :: rest) = false) :
    scan width hit put before 0 (c :: rest) = c :: scan width hit put (before ++ [c]) 0 rest := by
  rw [scan, missed, if_neg Bool.false_ne_true]

theorem hits_miss {before rest : Text} {c : Char} (missed : hit before (c :: rest) = false) :
    hits width hit before 0 (c :: rest) = hits width hit (before ++ [c]) 0 rest := by
  rw [hits, missed, if_neg Bool.false_ne_true]

theorem take_pred (positive : 0 < width) (c : Char) (rest : Text) :
    (c :: rest).take width = c :: rest.take (width - 1) := by
  obtain ⟨less, rfl⟩ := Nat.exists_eq_add_of_lt positive
  rw [Nat.zero_add, Nat.add_sub_cancel]
  rfl

theorem drop_pred (positive : 0 < width) (c : Char) (rest : Text) :
    (c :: rest).drop width = rest.drop (width - 1) := by
  obtain ⟨less, rfl⟩ := Nat.exists_eq_add_of_lt positive
  rw [Nat.zero_add, Nat.add_sub_cancel]
  rfl

theorem scan_hit (positive : 0 < width) {before rest : Text} {c : Char}
    (found : hit before (c :: rest) = true) :
    scan width hit put before 0 (c :: rest) = put before (c :: rest) ++
      scan width hit put (before ++ (c :: rest).take width) 0 ((c :: rest).drop width) := by
  rw [scan, if_pos found, scan_skip, take_pred positive, drop_pred positive, List.append_assoc]
  rfl

theorem hits_hit (positive : 0 < width) {before rest : Text} {c : Char}
    (found : hit before (c :: rest) = true) :
    hits width hit before 0 (c :: rest) = (before, c :: rest) ::
      hits width hit (before ++ (c :: rest).take width) 0 ((c :: rest).drop width) := by
  rw [hits, if_pos found, hits_skip, take_pred positive, drop_pred positive, List.append_assoc]
  rfl

/-- Induction along the scan. -/
theorem scan_induction (hit : Text → Text → Bool) (positive : 0 < width) {motive : Text → Text → Prop}
    (nil : ∀ before, motive before [])
    (miss : ∀ before c rest, hit before (c :: rest) = false →
      motive (before ++ [c]) rest → motive before (c :: rest))
    (found : ∀ before c rest, hit before (c :: rest) = true →
      motive (before ++ (c :: rest).take width) ((c :: rest).drop width) →
      motive before (c :: rest)) (before text : Text) : motive before text := by
  induction size : text.length using Nat.strongRecOn generalizing before text with
  | ind size' ih =>
    cases text with
    | nil => exact nil before
    | cons c rest =>
      rw [List.length_cons] at size
      cases here : hit before (c :: rest) with
      | false =>
        apply miss before c rest here
        exact ih rest.length (by omega) _ rest rfl
      | true =>
        apply found before c rest here
        refine ih ((c :: rest).drop width).length ?_ _ _ rfl
        rw [List.length_drop, List.length_cons]
        omega

/-- A text that is one hit. -/
theorem scan_one (positive : 0 < width) (before text : Text) (long : text.length = width)
    (found : hit before text = true) :
    scan width hit put before 0 text = put before text := by
  cases text with
  | nil => exact absurd long (Nat.ne_of_lt positive)
  | cons c rest =>
    rw [scan_hit positive found, ← long, List.drop_length]
    exact List.append_nil _

/-- Hits that are put back change nothing. -/
theorem scan_take (positive : 0 < width) (before text : Text) :
    scan width hit (fun _ rest => rest.take width) before 0 text = text := by
  induction before, text using scan_induction hit positive with
  | nil before => rfl
  | miss before c rest missed ih => rw [scan_miss missed, ih]
  | found before c rest found ih => rw [scan_hit positive found, ih, List.take_append_drop]

theorem hit_of_mem_hits (positive : 0 < width) (before text : Text) :
    ∀ place ∈ hits width hit before 0 text, hit place.1 place.2 = true := by
  induction before, text using scan_induction hit positive with
  | nil before =>
    intro place member
    nomatch member
  | miss before c rest missed ih =>
    rw [hits_miss missed]
    exact ih
  | found before c rest found ih =>
    rw [hits_hit positive found]
    intro place member
    rcases List.mem_cons.mp member with rfl | later
    · exact found
    · exact ih place later

/-- Characters of a kind: those of the hits go, those of the replacements come. -/
theorem countP_scan (hit : Text → Text → Bool) (put : Text → Text → Text) (positive : 0 < width)
    (kind : Char → Bool) (before text : Text) :
    (scan width hit put before 0 text).countP kind +
        ((hits width hit before 0 text).map fun place => (place.2.take width).countP kind).sum =
      text.countP kind +
        ((hits width hit before 0 text).map fun place => (put place.1 place.2).countP kind).sum := by
  induction before, text using scan_induction hit positive with
  | nil before => rfl
  | miss before c rest missed ih =>
    rw [scan_miss missed, hits_miss missed, List.countP_cons, List.countP_cons]
    omega
  | found before c rest found ih =>
    rw [scan_hit positive found, hits_hit positive found, List.map_cons, List.map_cons,
      List.sum_cons, List.sum_cons, List.countP_append]
    have parts : (c :: rest).countP kind =
        ((c :: rest).take width).countP kind + ((c :: rest).drop width).countP kind := by
      rw [← List.countP_append, List.take_append_drop]
    dsimp only
    omega

/-- Replacements without such characters bring none. -/
theorem countP_scan_absent (hit : Text → Text → Bool) (put : Text → Text → Text)
    (positive : 0 < width) (kind : Char → Bool) (before text : Text)
    (absent : ∀ before rest, (put before rest).countP kind = 0) :
    (scan width hit put before 0 text).countP kind +
        ((hits width hit before 0 text).map fun place => (place.2.take width).countP kind).sum =
      text.countP kind := by
  rw [countP_scan hit put positive kind before text, Nat.add_eq_left]
  rw [List.sum_eq_zero_iff_forall_eq_nat]
  intro count member
  obtain ⟨place, _, rfl⟩ := List.mem_map.mp member
  exact absent place.1 place.2

/-- The replacements that matter are those of the hits. -/
theorem scan_congr (positive : 0 < width) (before text : Text)
    (same : ∀ place ∈ hits width hit before 0 text, put place.1 place.2 = put' place.1 place.2) :
    scan width hit put before 0 text = scan width hit put' before 0 text := by
  induction before, text using scan_induction hit positive with
  | nil before => rfl
  | miss before c rest missed ih =>
    rw [hits_miss missed] at same
    rw [scan_miss missed, scan_miss missed, ih same]
  | found before c rest found ih =>
    rw [hits_hit positive found] at same
    rw [scan_hit positive found, scan_hit positive found, same _ List.mem_cons_self,
      ih fun place member => same place (List.mem_cons_of_mem _ member)]

/-- Where the replacement differs it has the width of the hit: the two scans drift apart
by one and the same number at each such place. -/
theorem drift (positive : 0 < width) (size : Nat) (before text : Text)
    (fixed : ∀ place ∈ hits width hit before 0 text, (put place.1 place.2).length = size)
    (kept : ∀ place ∈ hits width hit before 0 text,
      put' place.1 place.2 = put place.1 place.2 ∨ (put' place.1 place.2).length = width) :
    ∃ strays, (scan width hit put before 0 text).length + strays * width =
      (scan width hit put' before 0 text).length + strays * size := by
  induction before, text using scan_induction hit positive with
  | nil before =>
    exact ⟨0, by rw [Nat.zero_mul, Nat.zero_mul]; rfl⟩
  | miss before c rest missed ih =>
    rw [hits_miss missed] at fixed kept
    obtain ⟨strays, total⟩ := ih fixed kept
    refine ⟨strays, ?_⟩
    rw [scan_miss missed, scan_miss missed, List.length_cons, List.length_cons]
    omega
  | found before c rest found ih =>
    rw [hits_hit positive found] at fixed kept
    obtain ⟨strays, total⟩ := ih (fun place member => fixed place (List.mem_cons_of_mem _ member))
      fun place member => kept place (List.mem_cons_of_mem _ member)
    have own : (put before (c :: rest)).length = size := fixed _ List.mem_cons_self
    rw [scan_hit positive found, scan_hit positive found, List.length_append, List.length_append]
    rcases kept _ List.mem_cons_self with same | wide
    · have equal : put' before (c :: rest) = put before (c :: rest) := same
      exact ⟨strays, by rw [equal]; omega⟩
    · refine ⟨strays + 1, ?_⟩
      rw [own, wide, Nat.succ_mul, Nat.succ_mul]
      omega

/-- So the results agree only if the replacements do. -/
theorem put_eq_of_scan_eq (positive : 0 < width) (size : Nat) (before text : Text)
    (fixed : ∀ place ∈ hits width hit before 0 text, (put place.1 place.2).length = size)
    (kept : ∀ place ∈ hits width hit before 0 text,
      put' place.1 place.2 = put place.1 place.2 ∨ (put' place.1 place.2).length = width)
    (same : scan width hit put before 0 text = scan width hit put' before 0 text) :
    ∀ place ∈ hits width hit before 0 text, put' place.1 place.2 = put place.1 place.2 := by
  induction before, text using scan_induction hit positive with
  | nil before =>
    intro place member
    nomatch member
  | miss before c rest missed ih =>
    rw [hits_miss missed] at fixed kept ⊢
    rw [scan_miss missed, scan_miss missed] at same
    exact ih fixed kept (List.cons.inj same).2
  | found before c rest found ih =>
    rw [hits_hit positive found] at fixed kept ⊢
    rw [scan_hit positive found, scan_hit positive found] at same
    have later := fun place member => fixed place (List.mem_cons_of_mem (before, c :: rest) member)
    have laterKept := fun place member =>
      kept place (List.mem_cons_of_mem (before, c :: rest) member)
    have first : put' before (c :: rest) = put before (c :: rest) := by
      rcases kept _ List.mem_cons_self with equal | wide
      · exact equal
      · have own : (put before (c :: rest)).length = size := fixed _ List.mem_cons_self
        have wide : (put' before (c :: rest)).length = width := wide
        obtain ⟨strays, total⟩ := drift positive size _ _ later laterKept
        have lengths := congrArg List.length same
        rw [List.length_append, List.length_append, own, wide] at lengths
        have scaled : (strays + 1) * size = (strays + 1) * width := by linarith
        have sizes : size = width := Nat.eq_of_mul_eq_mul_left (Nat.succ_pos strays) scaled
        exact (List.append_inj same (by omega)).1.symm
    intro place member
    rcases List.mem_cons.mp member with rfl | after
    · exact first
    · rw [first] at same
      exact ih later laterKept (List.append_cancel_left same) place after

/-- Text without a hit passes as it is. -/
theorem scan_clear (count : Nat) (before text : Text)
    (clear : ∀ index < count, hit (before ++ text.take index) (text.drop index) = false) :
    scan width hit put before 0 text = text.take count ++
      scan width hit put (before ++ text.take count) 0 (text.drop count) := by
  induction count generalizing before text with
  | zero => rw [List.take_zero, List.drop_zero, List.append_nil, List.nil_append]
  | succ count ih =>
    cases text with
    | nil => rfl
    | cons c rest =>
      have missed : hit before (c :: rest) = false := by
        have first := clear 0 (Nat.succ_pos count)
        rwa [List.take_zero, List.drop_zero, List.append_nil] at first
      rw [scan_miss missed, ih (before ++ [c]) rest, List.take_succ_cons, List.drop_succ_cons,
        List.append_assoc]
      · rfl
      · intro index below
        have later := clear (index + 1) (Nat.succ_lt_succ below)
        rw [List.take_succ_cons, List.drop_succ_cons] at later
        rw [List.append_assoc]
        exact later

/-- A finer scan, if it finds nothing inside what only the coarser one hits: it is the
coarser scan that puts such places back. -/
theorem scan_refine {fine : Text → Text → Bool} (positive : 0 < width) (before text : Text)
    (finer : ∀ before text, fine before text = true → hit before text = true)
    (inside : ∀ place ∈ hits width hit before 0 text, fine place.1 place.2 = false →
      ∀ index, 0 < index → index < width →
        fine (place.1 ++ place.2.take index) (place.2.drop index) = false) :
    scan width fine put before 0 text =
      scan width hit (fun before text => if fine before text then put before text else text.take width)
        before 0 text := by
  induction before, text using scan_induction hit positive with
  | nil before => rfl
  | miss before c rest missed ih =>
    rw [hits_miss missed] at inside
    have unseen : fine before (c :: rest) = false := by
      rw [Bool.eq_false_iff]
      intro seen
      rw [finer _ _ seen] at missed
      nomatch missed
    rw [scan_miss missed, scan_miss unseen, ih inside]
  | found before c rest found ih =>
    rw [hits_hit positive found] at inside
    rw [scan_hit positive found]
    rw [← ih fun place member => inside place (List.mem_cons_of_mem _ member)]
    cases own : fine before (c :: rest) with
    | true => rw [scan_hit positive own, if_pos rfl]
    | false =>
      rw [if_neg Bool.false_ne_true]
      apply scan_clear width before (c :: rest)
      intro index below
      cases index with
      | zero =>
        rw [List.take_zero, List.drop_zero, List.append_nil]
        exact own
      | succ index => exact inside _ List.mem_cons_self own _ (Nat.succ_pos index) below

/-- Where the text before plays no part, it plays none in the result. -/
theorem scan_local {hit : Text → Bool} {put : Text → Text} (positive : 0 < width)
    (before other text : Text) :
    scan width (fun _ rest => hit rest) (fun _ rest => put rest) before 0 text =
      scan width (fun _ rest => hit rest) (fun _ rest => put rest) other 0 text := by
  let here (_ rest : Text) : Bool := hit rest
  induction before, text using scan_induction here positive generalizing other with
  | nil before => rfl
  | miss before c rest missed ih =>
    have missed : hit (c :: rest) = false := missed
    rw [scan_miss missed, scan_miss missed, ih (other ++ [c])]
  | found before c rest found ih =>
    have found : hit (c :: rest) = true := found
    rw [scan_hit positive found, scan_hit positive found, ih (other ++ (c :: rest).take width)]

end Rules

/-- A pattern whose only special character is the dot, from the start of the text. -/
def dotted : Text → Text → Bool
  | [], _ => true
  | _ :: _, [] => false
  | p :: pattern, c :: rest => (p == '.' || p == c) && dotted pattern rest

/-- Such a pattern matches itself. -/
theorem dotted_append (pattern rest : Text) : dotted pattern (pattern ++ rest) = true := by
  induction pattern with
  | nil => rfl
  | cons c pattern ih =>
    show ((c == '.' || c == c) && dotted pattern (pattern ++ rest)) = true
    rw [ih, beq_self_eq_true, Bool.or_true, Bool.and_true]

/-- The text reads like the pattern, a dot of which stands for any character. -/
def ReadsLike (pattern text : Text) : Prop :=
  List.Forall₂ (fun c d => c = '.' ∨ c = d) pattern text

theorem readsLike_self (pattern : Text) : ReadsLike pattern pattern :=
  List.forall₂_same.mpr fun _ _ => Or.inr rfl

theorem dotted_iff (pattern rest : Text) : dotted pattern rest = true ↔
    ∃ like back, rest = like ++ back ∧ ReadsLike pattern like := by
  induction pattern generalizing rest with
  | nil => exact ⟨fun _ => ⟨[], rest, rfl, List.Forall₂.nil⟩, fun _ => rfl⟩
  | cons p pattern ih =>
    cases rest with
    | nil =>
      constructor
      · intro found
        nomatch found
      · rintro ⟨like, back, whole, reads⟩
        obtain ⟨rfl, -⟩ := List.append_eq_nil_iff.mp whole.symm
        nomatch reads
    | cons c rest =>
      rw [dotted, Bool.and_eq_true, Bool.or_eq_true, beq_iff_eq, beq_iff_eq, ih]
      constructor
      · rintro ⟨here, like, back, rfl, reads⟩
        exact ⟨c :: like, back, rfl, List.Forall₂.cons here reads⟩
      · rintro ⟨like, back, whole, reads⟩
        cases reads with
        | cons here reads =>
          obtain ⟨rfl, rfl⟩ := List.cons.inj whole
          exact ⟨here, _, back, rfl, reads⟩

/-- In front of a pattern, text without a dot stands for itself. -/
theorem dotted_literal (front pattern rest : Text) (literal : '.' ∉ front) :
    dotted (front ++ pattern) rest = true ↔
      ∃ behind, rest = front ++ behind ∧ dotted pattern behind = true := by
  induction front generalizing rest with
  | nil => exact ⟨fun found => ⟨rest, rfl, found⟩, fun ⟨_, whole, found⟩ => whole ▸ found⟩
  | cons p front ih =>
    have other : p ≠ '.' := fun dot => literal (dot ▸ List.mem_cons_self)
    cases rest with
    | nil =>
      constructor
      · intro found
        nomatch found
      · rintro ⟨behind, whole, -⟩
        nomatch whole
    | cons c rest =>
      rw [List.cons_append, dotted, Bool.and_eq_true, Bool.or_eq_true, beq_iff_eq, beq_iff_eq,
        ih rest fun dot => literal (List.mem_cons_of_mem p dot)]
      constructor
      · rintro ⟨dot | rfl, behind, rfl, found⟩
        · exact absurd dot other
        · exact ⟨behind, rfl, found⟩
      · rintro ⟨behind, whole, found⟩
        obtain ⟨rfl, rfl⟩ := List.cons.inj whole
        exact ⟨Or.inr rfl, behind, rfl, found⟩

theorem length_of_dotted (pattern rest : Text) (found : dotted pattern rest = true) :
    (rest.take pattern.length).length = pattern.length := by
  induction pattern generalizing rest with
  | nil => rfl
  | cons p pattern ih =>
    cases rest with
    | nil => nomatch found
    | cons c rest =>
      have later := ih rest (Bool.and_eq_true_iff.mp found).2
      rw [List.length_cons, List.take_succ_cons, List.length_cons, later]

end Substitution
