import Mathlib.Data.List.Basic
import Mathlib.Tactic.Common

set_option autoImplicit false

/- Files read and written in place: a read ends with the file, a write behind the end
fills the gap. Writes to places apart from each other leave each other alone. -/
namespace Splice

variable {α : Type}

def readAt (file : List α) (pos n : Nat) : List α := (file.drop pos).take n

structure Write (α : Type) where
  pos : Nat
  data : List α

def writeAt (zero : α) (file : List α) (write : Write α) : List α :=
  if write.data.isEmpty then file
  else (file ++ List.replicate (write.pos - file.length) zero).take write.pos ++
    (write.data ++ file.drop (write.pos + write.data.length))

def writeAll (zero : α) (file : List α) (writes : List (Write α)) : List α :=
  writes.foldl (writeAt zero) file

def Write.stop (write : Write α) : Nat := write.pos + write.data.length

def Write.Covers (write : Write α) (i : Nat) : Prop := write.pos ≤ i ∧ i < write.stop

def Write.Apart (first second : Write α) : Prop :=
  first.stop ≤ second.pos ∨ second.stop ≤ first.pos

variable {zero : α} {file : List α}

theorem getElem?_readAt (pos n i : Nat) (inside : i < n) :
    (readAt file pos n)[i]? = file[pos + i]? := by
  rw [readAt, List.getElem?_take_of_lt inside, List.getElem?_drop]

theorem length_readAt (pos n : Nat) (inside : pos + n ≤ file.length) :
    (readAt file pos n).length = n := by
  rw [readAt, List.length_take, List.length_drop]
  omega

theorem length_readAt_le (pos n : Nat) : (readAt file pos n).length ≤ n := by
  rw [readAt, List.length_take]
  exact Nat.min_le_left _ _

theorem getElem?_readAt_beyond (pos n i : Nat) (beyond : ¬ i < n) :
    (readAt file pos n)[i]? = none :=
  List.getElem?_eq_none (Nat.le_trans (length_readAt_le pos n) (Nat.le_of_not_lt beyond))

/-- What is read depends on no other place of the file. -/
theorem readAt_congr (other : List α) (pos n : Nat)
    (same : ∀ i, pos ≤ i → i < pos + n → file[i]? = other[i]?) :
    readAt file pos n = readAt other pos n := by
  apply List.ext_getElem?
  intro i
  by_cases inside : i < n
  · rw [getElem?_readAt pos n i inside, getElem?_readAt pos n i inside]
    exact same (pos + i) (Nat.le_add_right pos i) (Nat.add_lt_add_left inside pos)
  · rw [getElem?_readAt_beyond pos n i inside, getElem?_readAt_beyond pos n i inside]

section One

variable {write : Write α} (inside : write.stop ≤ file.length)

include inside

theorem writeAt_inside : writeAt zero file write =
    file.take write.pos ++ (write.data ++ file.drop (write.pos + write.data.length)) := by
  unfold Write.stop at inside
  unfold writeAt
  split
  · rename_i nothing
    rw [List.isEmpty_iff.mp nothing, List.length_nil, Nat.add_zero, List.nil_append,
      List.take_append_drop]
  · rw [Nat.sub_eq_zero_of_le (by omega), List.replicate_zero, List.append_nil]

theorem length_writeAt : (writeAt zero file write).length = file.length := by
  rw [writeAt_inside inside, List.length_append, List.length_append, List.length_take,
    List.length_drop]
  unfold Write.stop at inside
  omega

theorem getElem?_writeAt_in (i : Nat) (covers : write.Covers i) :
    (writeAt zero file write)[i]? = write.data[i - write.pos]? := by
  obtain ⟨low, high⟩ := covers
  unfold Write.stop at inside high
  have front : (file.take write.pos).length = write.pos := by
    rw [List.length_take]
    omega
  rw [writeAt_inside (by exact inside), List.getElem?_append_right (front.symm ▸ low), front,
    List.getElem?_append_left (by omega)]

theorem getElem?_writeAt_out (i : Nat) (outside : ¬ write.Covers i) :
    (writeAt zero file write)[i]? = file[i]? := by
  unfold Write.Covers at outside
  unfold Write.stop at inside outside
  have front : (file.take write.pos).length = write.pos := by
    rw [List.length_take]
    omega
  rw [writeAt_inside (by exact inside)]
  rcases Nat.lt_or_ge i write.pos with before | behind
  · rw [List.getElem?_append_left (front.symm ▸ before), List.getElem?_take_of_lt before]
  · rw [List.getElem?_append_right (front.symm ▸ behind), front,
      List.getElem?_append_right (by omega), List.getElem?_drop]
    congr 1
    omega

end One

section Many

variable {writes : List (Write α)}

theorem length_writeAll (inside : ∀ write ∈ writes, write.stop ≤ file.length) :
    (writeAll zero file writes).length = file.length := by
  induction writes generalizing file with
  | nil => rfl
  | cons write rest ih =>
      rw [List.forall_mem_cons] at inside
      have same : (writeAt zero file write).length = file.length := length_writeAt inside.1
      exact (ih fun later member => same.symm ▸ inside.2 later member).trans same

theorem getElem?_writeAll_out (inside : ∀ write ∈ writes, write.stop ≤ file.length) (i : Nat)
    (outside : ∀ write ∈ writes, ¬ write.Covers i) :
    (writeAll zero file writes)[i]? = file[i]? := by
  induction writes generalizing file with
  | nil => rfl
  | cons write rest ih =>
      rw [List.forall_mem_cons] at inside outside
      have same : (writeAt zero file write).length = file.length := length_writeAt inside.1
      exact (ih (fun later member => same.symm ▸ inside.2 later member) outside.2).trans
        (getElem?_writeAt_out inside.1 i outside.1)

/-- Of writes apart from each other, every one is there in the end. -/
theorem getElem?_writeAll_in (inside : ∀ write ∈ writes, write.stop ≤ file.length)
    (apart : writes.Pairwise Write.Apart) (write : Write α) (member : write ∈ writes) (i : Nat)
    (covers : write.Covers i) : (writeAll zero file writes)[i]? = write.data[i - write.pos]? := by
  induction writes generalizing file with
  | nil => cases member
  | cons first rest ih =>
      rw [List.forall_mem_cons] at inside
      rw [List.pairwise_cons] at apart
      have same : (writeAt zero file first).length = file.length := length_writeAt inside.1
      have rests : ∀ later ∈ rest, later.stop ≤ (writeAt zero file first).length :=
        fun later member => same.symm ▸ inside.2 later member
      rcases List.mem_cons.mp member with rfl | later
      · refine (getElem?_writeAll_out rests i ?_).trans (getElem?_writeAt_in inside.1 i covers)
        intro later listed both
        have away := apart.1 later listed
        unfold Write.Apart at away
        unfold Write.Covers at covers both
        omega
      · exact ih rests apart.2 later

theorem readAt_writeAll (inside : ∀ write ∈ writes, write.stop ≤ file.length)
    (apart : writes.Pairwise Write.Apart) (write : Write α) (member : write ∈ writes) :
    readAt (writeAll zero file writes) write.pos write.data.length = write.data := by
  apply List.ext_getElem?
  intro i
  by_cases within : i < write.data.length
  · have covers : write.Covers (write.pos + i) :=
      ⟨Nat.le_add_right _ _, Nat.add_lt_add_left within _⟩
    rw [getElem?_readAt _ _ i within, getElem?_writeAll_in inside apart write member _ covers,
      Nat.add_sub_cancel_left]
  · rw [getElem?_readAt_beyond _ _ i within, List.getElem?_eq_none (Nat.le_of_not_lt within)]

/-- Writes that fill a place bury what earlier ones have left inside it. -/
theorem writeAll_writeAll {earlier : List (Write α)}
    (inside : ∀ write ∈ writes, write.stop ≤ file.length)
    (earlierInside : ∀ write ∈ earlier, write.stop ≤ file.length)
    (apart : writes.Pairwise Write.Apart)
    (buried : ∀ before ∈ earlier, ∃ write ∈ writes, ∀ i, before.Covers i → write.Covers i) :
    writeAll zero (writeAll zero file earlier) writes = writeAll zero file writes := by
  have same : (writeAll zero file earlier).length = file.length :=
    length_writeAll earlierInside
  have inside' : ∀ write ∈ writes, write.stop ≤ (writeAll zero file earlier).length :=
    fun write member => same.symm ▸ inside write member
  apply List.ext_getElem?
  intro i
  by_cases covered : ∃ write ∈ writes, write.Covers i
  · obtain ⟨write, member, covers⟩ := covered
    rw [getElem?_writeAll_in inside' apart write member i covers,
      getElem?_writeAll_in inside apart write member i covers]
  · have outside : ∀ write ∈ writes, ¬ write.Covers i :=
      fun write member covers => covered ⟨write, member, covers⟩
    rw [getElem?_writeAll_out inside' i outside, getElem?_writeAll_out inside i outside]
    apply getElem?_writeAll_out earlierInside
    intro before listed covers
    obtain ⟨write, member, wider⟩ := buried before listed
    exact outside write member (wider i covers)

end Many

end Splice
