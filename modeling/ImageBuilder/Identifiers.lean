import ImageBuilder.PlainText
import ImageBuilder.EnvText

set_option autoImplicit false

/- Identifiers of partitions and file systems, and texts that do not name them.
An identifier is one run of hexadecimal digits and hyphens, so whatever ends such a
run also ends an identifier. -/
namespace Identifiers

open PlainText EnvText

def isIdChar (c : Char) : Bool :=
  c.isDigit || ('a' ≤ c && c ≤ 'f') || ('A' ≤ c && c ≤ 'F') || c == '-'

/-- A UUID or a PARTUUID: a vfat volume has the shortest. -/
structure Id where
  text : Text
  usual : ∀ c ∈ text, isIdChar c = true
  long : 9 ≤ text.length

/-- The text names none of the identifiers. -/
def Free (ids : List Id) (text : Text) : Prop := ∀ id ∈ ids, ¬ id.text <:+: text

instance (ids : List Id) (text : Text) : Decidable (Free ids text) :=
  inferInstanceAs (Decidable (∀ id ∈ ids, ¬ id.text <:+: text))

/-- An infix without the separator lies on one side of it. -/
theorem infix_append_cons {part front back : Text} {c : Char} (other : c ∉ part)
    (inside : part <:+: front ++ c :: back) : part <:+: front ∨ part <:+: back := by
  obtain ⟨left, right, whole⟩ := inside
  rw [List.append_assoc] at whole
  rcases List.append_eq_append_iff.mp whole with ⟨more, isFront, isRest⟩ | ⟨more, isLeft, isRest⟩
  · rcases List.append_eq_append_iff.mp isRest with ⟨gap, same, _⟩ | ⟨gap, same, ends⟩
    · left
      exact ⟨left, gap, by rw [isFront, same, List.append_assoc]⟩
    · cases gap with
      | nil =>
        left
        refine ⟨left, [], ?_⟩
        rw [isFront, same, List.append_nil, List.append_nil]
      | cons d gap =>
        obtain ⟨rfl, _⟩ := List.cons.inj ends
        rw [same] at other
        exact absurd (List.mem_append_right _ List.mem_cons_self) other
  · right
    cases more with
    | nil =>
      rw [List.nil_append] at isRest
      cases part with
      | nil => exact List.nil_infix
      | cons d part =>
        obtain ⟨rfl, _⟩ := List.cons.inj isRest
        exact absurd List.mem_cons_self other
    | cons d more =>
      obtain ⟨_, rest⟩ := List.cons.inj isRest
      refine ⟨more, right, ?_⟩
      rw [rest, List.append_assoc]
      rfl

/-- No run of the text is as long as an identifier. -/
def brief (text : Text) : Bool :=
  text.tails.all fun rest => decide ((rest.takeWhile isIdChar).length ≤ 8)

/-- A separator at each end, and nothing long between. -/
def apart (text : Text) : Bool :=
  brief text && text.head?.any (!isIdChar ·) && text.getLast?.any (!isIdChar ·)

section Rules

variable {ids : List Id}

theorem Id.separator_not_mem (id : Id) {c : Char} (separator : isIdChar c = false) : c ∉ id.text :=
  fun member => Bool.false_ne_true (separator.symm.trans (id.usual c member))

theorem Free.cons_separator {front back : Text} {c : Char} (one : Free ids front)
    (two : Free ids back) (separator : isIdChar c = false) : Free ids (front ++ c :: back) := by
  intro id member inside
  rcases infix_append_cons (id.separator_not_mem separator) inside with first | second
  · exact one id member first
  · exact two id member second

theorem free_of_brief {text : Text} (short : brief text = true) : Free ids text := by
  intro id _ inside
  obtain ⟨rest, starts, ends⟩ := List.infix_iff_prefix_suffix.mp inside
  have run := List.all_eq_true.mp short rest ((List.mem_tails _ _).mpr ends)
  rw [decide_eq_true_eq] at run
  obtain ⟨more, rfl⟩ := starts
  rw [List.takeWhile_append_of_pos id.usual, List.length_append] at run
  have long := id.long
  omega

theorem free_nil : Free ids [] := free_of_brief (by decide)

/-- Part of a free text is free. -/
theorem Free.piece {part text : Text} (free : Free ids text) (inside : part <:+: text) :
    Free ids part :=
  fun id member found => free id member (found.trans inside)

theorem Free.append_last {front back : Text} (one : Free ids front) (two : Free ids back)
    (separator : front.getLast?.any (!isIdChar ·) = true) : Free ids (front ++ back) := by
  obtain ⟨c, last, ends⟩ := Option.any_eq_true _ _ |>.mp separator
  obtain ⟨start, rfl⟩ := List.getLast?_eq_some_iff.mp last
  rw [Bool.not_eq_true'] at ends
  rw [List.append_assoc, List.singleton_append]
  exact (one.piece (List.prefix_append _ _).isInfix).cons_separator two ends

theorem Free.append_head {front back : Text} (one : Free ids front) (two : Free ids back)
    (separator : back.head?.any (!isIdChar ·) = true) : Free ids (front ++ back) := by
  obtain ⟨c, first, starts⟩ := Option.any_eq_true _ _ |>.mp separator
  obtain ⟨rest, rfl⟩ := List.head?_eq_some_iff.mp first
  rw [Bool.not_eq_true'] at starts
  exact one.cons_separator (two.piece (List.suffix_cons _ _).isInfix) starts

/-- A literal with separators at both ends keeps what is around it apart. -/
theorem Free.around {front middle back : Text} (one : Free ids front) (two : Free ids back)
    (between : apart middle = true) : Free ids (front ++ middle ++ back) := by
  rw [apart, Bool.and_eq_true, Bool.and_eq_true] at between
  obtain ⟨⟨short, first⟩, last⟩ := between
  have left : Free ids (front ++ middle) := one.append_head (free_of_brief short) first
  apply left.append_last two
  cases middle with
  | nil => nomatch first
  | cons c middle =>
    rw [List.getLast?_append_of_ne_nil _ (List.cons_ne_nil c middle)]
    exact last

/-- Behind a literal that ends in a separator, and before one that begins with it. -/
theorem Free.behind {front back : Text} (two : Free ids back) (short : brief front = true)
    (last : front.getLast?.any (!isIdChar ·) = true) : Free ids (front ++ back) :=
  (free_of_brief short).append_last two last

theorem Free.before {front back : Text} (one : Free ids front) (short : brief back = true)
    (first : back.head?.any (!isIdChar ·) = true) : Free ids (front ++ back) :=
  one.append_head (free_of_brief short) first

/-- Line by line. -/
theorem free_unlines {lines : List Text} (each : ∀ line ∈ lines, Free ids line) :
    Free ids (unlines lines) := by
  induction lines with
  | nil => exact free_nil
  | cons line lines ih =>
    rw [List.forall_mem_cons] at each
    rw [unlines, List.flatMap_cons, List.append_assoc, List.singleton_append]
    exact each.1.cons_separator (ih each.2) (by decide)

end Rules

end Identifiers
