import Mathlib.Data.List.Basic
import Mathlib.Tactic.Common

set_option autoImplicit false

/- Media of one or more areas, writes to them, and the block copies of `dd` as
such writes. What a program leaves on a medium is compared cell by cell. -/
namespace Medium

variable {Area File : Type} [DecidableEq Area]

abbrev Bytes := List UInt8

/-- The byte at each offset of each area. -/
abbrev Contents (Area : Type) := Area → Nat → UInt8

structure Write (Area : Type) where
  area : Area
  offset : Nat
  bytes : Bytes

/-- The byte a write puts into a cell. -/
def Write.byteAt (write : Write Area) (area : Area) (i : Nat) : Option UInt8 :=
  if write.area = area ∧ write.offset ≤ i then write.bytes[i - write.offset]? else none

def applyWrite (before : Contents Area) (write : Write Area) : Contents Area :=
  fun area i => (write.byteAt area i).getD (before area i)

def applyAll (before : Contents Area) (writes : List (Write Area)) : Contents Area :=
  writes.foldl applyWrite before

/-- The byte the writes leave in a cell, when one of them reaches it. -/
def written : List (Write Area) → Area → Nat → Option UInt8
  | [], _, _ => none
  | write :: rest, area, i => (written rest area i).or (write.byteAt area i)

@[simp] theorem written_nil (area : Area) (i : Nat) :
    written ([] : List (Write Area)) area i = none := rfl

@[simp] theorem written_cons (write : Write Area) (rest : List (Write Area)) (area : Area)
    (i : Nat) : written (write :: rest) area i =
      (written rest area i).or (write.byteAt area i) := rfl

theorem byteAt_empty (area at' : Area) (offset i : Nat) :
    (Write.mk area offset []).byteAt at' i = none := by
  simp only [Write.byteAt, List.getElem?_nil, ite_self]

theorem byteAt_elsewhere (write : Write Area) (area : Area) (i : Nat)
    (elsewhere : write.area ≠ area) : write.byteAt area i = none := by
  simp only [Write.byteAt, elsewhere, false_and, ↓reduceIte]

theorem byteAt_below (write : Write Area) (area : Area) (i : Nat) (below : i < write.offset) :
    write.byteAt area i = none := by
  have outside : ¬ (write.area = area ∧ write.offset ≤ i) := by omega
  simp only [Write.byteAt, outside, ↓reduceIte]

theorem byteAt_beyond (write : Write Area) (area : Area) (i : Nat)
    (beyond : write.offset + write.bytes.length ≤ i) : write.byteAt area i = none := by
  unfold Write.byteAt
  split
  · exact List.getElem?_eq_none (by omega)
  · rfl

/-- The first byte of a write that has one. -/
theorem byteAt_first (area : Area) (offset : Nat) (byte : UInt8) (rest : Bytes) :
    (Write.mk area offset (byte :: rest)).byteAt area offset = some byte := by
  simp only [Write.byteAt, Nat.le_refl, and_self, ↓reduceIte, Nat.sub_self, List.getElem?_cons_zero]

/-- What a run of writes leaves is what it wrote last, or what was there. -/
theorem applyAll_cell (before : Contents Area) (writes : List (Write Area)) (area : Area)
    (i : Nat) : applyAll before writes area i = (written writes area i).getD (before area i) := by
  induction writes generalizing before with
  | nil => rfl
  | cons write rest ih =>
      rw [written_cons]
      refine (ih (applyWrite before write)).trans ?_
      cases written rest area i with
      | none => rfl
      | some byte => rfl

theorem written_eq_none_iff (writes : List (Write Area)) (area : Area) (i : Nat) :
    written writes area i = none ↔ ∀ write ∈ writes, write.byteAt area i = none := by
  induction writes with
  | nil => simp only [written_nil, List.not_mem_nil, false_implies, implies_true]
  | cons write rest ih =>
      rw [written_cons, Option.or_eq_none_iff, ih, List.forall_mem_cons, and_comm]

/-- A cell no write reaches keeps its byte. -/
theorem applyAll_frame (before : Contents Area) (writes : List (Write Area)) (area : Area)
    (i : Nat) (untouched : ∀ write ∈ writes, write.byteAt area i = none) :
    applyAll before writes area i = before area i := by
  rw [applyAll_cell, (written_eq_none_iff writes area i).mpr untouched, Option.getD_none]

theorem byteAt_inside (write : Write Area) (i : Nat) (inside : i < write.bytes.length) :
    write.byteAt write.area (write.offset + i) = some write.bytes[i] := by
  have reached : write.area = write.area ∧ write.offset ≤ write.offset + i :=
    ⟨rfl, Nat.le_add_right _ _⟩
  rw [Write.byteAt, if_pos reached, Nat.add_sub_cancel_left, List.getElem?_eq_getElem inside]

/-- Writes of which none reaches the start of a later one are all left whole. -/
theorem applyAll_ascending (before : Contents Area) (writes : List (Write Area))
    (ascending : writes.Pairwise fun write later => write.offset + write.bytes.length ≤ later.offset)
    (write : Write Area) (member : write ∈ writes) (i : Nat) (inside : i < write.bytes.length) :
    applyAll before writes write.area (write.offset + i) = write.bytes[i] := by
  induction writes generalizing before with
  | nil => nomatch member
  | cons first rest ih =>
      rw [List.pairwise_cons] at ascending
      show applyAll (applyWrite before first) rest write.area (write.offset + i) = _
      rcases List.mem_cons.mp member with here | later
      · have kept := applyAll_frame (applyWrite before first) rest write.area (write.offset + i)
          fun next listed => by
            have beyond := ascending.1 next listed
            rw [← here] at beyond
            exact byteAt_below next _ _ (by omega)
        rw [kept, ← here, applyWrite, byteAt_inside write i inside, Option.getD_some]
      · exact ih (applyWrite before first) ascending.2 later

/-- What is left in a cell comes from one of the writes. -/
theorem byteAt_of_written (writes : List (Write Area)) (area : Area) (i : Nat) (byte : UInt8)
    (left : written writes area i = some byte) : ∃ write ∈ writes, write.byteAt area i = some byte := by
  induction writes with
  | nil => cases left
  | cons write rest ih =>
      rw [written_cons, Option.or_eq_some_iff] at left
      rcases left with later | ⟨-, here⟩
      · obtain ⟨other, member, is⟩ := ih later
        exact ⟨other, List.mem_cons_of_mem write member, is⟩
      · exact ⟨write, List.mem_cons_self, here⟩

/-- Writes of what was there before, one at least wherever it is not there any more,
bring everything back, in any order. -/
theorem applyAll_restores (before changed : Contents Area) (writes : List (Write Area))
    (saved : ∀ write ∈ writes, ∀ area i byte, write.byteAt area i = some byte →
      byte = before area i)
    (covered : ∀ area i, changed area i ≠ before area i →
      ∃ write ∈ writes, write.byteAt area i ≠ none) : applyAll changed writes = before := by
  funext area i
  rw [applyAll_cell]
  cases left : written writes area i with
  | none =>
    rw [Option.getD_none]
    by_contra other
    obtain ⟨write, member, reached⟩ := covered area i other
    exact reached ((written_eq_none_iff writes area i).mp left write member)
  | some byte =>
    obtain ⟨write, member, is⟩ := byteAt_of_written writes area i byte left
    exact saved write member area i byte is

/-- Writing back some of what was there before leaves every byte as it was or as it is. -/
theorem applyAll_between (before changed : Contents Area) (writes : List (Write Area))
    (saved : ∀ write ∈ writes, ∀ area i byte, write.byteAt area i = some byte →
      byte = before area i) (area : Area) (i : Nat) :
    applyAll changed writes area i = before area i ∨
      applyAll changed writes area i = changed area i := by
  rw [applyAll_cell]
  cases left : written writes area i with
  | none => exact Or.inr rfl
  | some byte =>
    obtain ⟨write, member, is⟩ := byteAt_of_written writes area i byte left
    exact Or.inl (saved write member area i byte is)

/-- Two runs leave the same medium whatever was on it exactly when they leave
the same bytes in the same cells. -/
theorem applyAll_agree_iff (first second : List (Write Area)) :
    (∀ before, applyAll before first = applyAll before second) ↔
      ∀ area i, written first area i = written second area i := by
  constructor
  · intro agree area i
    have cell : ∀ byte : UInt8,
        (written first area i).getD byte = (written second area i).getD byte := by
      intro byte
      have same := congrFun (congrFun (agree fun _ _ => byte) area) i
      rwa [applyAll_cell, applyAll_cell] at same
    have differ : ∀ byte : UInt8, byte + 1 ≠ byte := by
      intro byte same
      have numbers := congrArg UInt8.toNat same
      rw [UInt8.toNat_add] at numbers
      have small := byte.toNat_lt
      change (byte.toNat + 1) % 256 = byte.toNat at numbers
      omega
    cases left : written first area i with
    | none =>
        cases right : written second area i with
        | none => rfl
        | some byte =>
            have same := cell (byte + 1)
            rw [left, right] at same
            exact absurd same (differ byte)
    | some byte =>
        cases right : written second area i with
        | none =>
            have same := cell (byte + 1)
            rw [left, right] at same
            exact absurd same.symm (differ byte)
        | some other =>
            have same := cell 0
            rw [left, right] at same
            exact congrArg some same
  · intro same before
    funext area i
    rw [applyAll_cell, applyAll_cell, same]

theorem written_empty (area at' : Area) (offset i : Nat) (rest : List (Write Area)) :
    written (⟨area, offset, []⟩ :: rest) at' i = written rest at' i := by
  rw [written_cons, byteAt_empty, Option.or_none]

/-- A write that starts before every other one has to be empty if the other run
leaves the same: nothing else reaches its first cell. -/
theorem first_empty (area : Area) (offset : Nat) (bytes : Bytes) (later other : List (Write Area))
    (agree : ∀ at' i, written (⟨area, offset, bytes⟩ :: later) at' i = written other at' i)
    (alone : ∀ write ∈ later, offset < write.offset)
    (apart : ∀ write ∈ other, offset < write.offset) : bytes = [] := by
  cases bytes with
  | nil => rfl
  | cons byte rest =>
      have cell := agree area offset
      have laterNone := (written_eq_none_iff later area offset).mpr fun write member =>
        byteAt_below write area offset (alone write member)
      have otherNone := (written_eq_none_iff other area offset).mpr fun write member =>
        byteAt_below write area offset (apart write member)
      rw [written_cons, byteAt_first, laterNone, otherNone, Option.none_or] at cell
      cases cell

/-- A `dd` command; without an input file it reads zeros. `fsync` and `notrunc`
change nothing on a block device and are left out. -/
structure Copy (File Area : Type) where
  infile : Option File
  area : Area
  bs : Nat := 512
  seek : Nat := 0
  skip : Nat := 0
  count : Option Nat := none
  /-- `conv=sync`: the last block is filled up with zeros. -/
  sync : Bool := false

/-- What `dd` reads: a file if there is one, or as many zeros as it asks for. -/
def Copy.input (dir : File → Option Bytes) (copy : Copy File Area) : Option Bytes :=
  match copy.infile with
  | some file => dir file
  | none => some (List.replicate ((copy.skip + copy.count.getD 0) * copy.bs) 0)

/-- The part of the input that is copied. -/
def Copy.part (copy : Copy File Area) (input : Bytes) : Bytes :=
  match copy.count with
  | none => input.drop (copy.skip * copy.bs)
  | some n => (input.drop (copy.skip * copy.bs)).take (n * copy.bs)

/-- The zeros that fill the last block. -/
def Copy.padding (copy : Copy File Area) (part : Bytes) : Bytes :=
  if copy.sync then List.replicate ((copy.bs - part.length % copy.bs) % copy.bs) 0 else []

def Copy.write? (dir : File → Option Bytes) (copy : Copy File Area) : Option (Write Area) :=
  (copy.input dir).map fun input =>
    ⟨copy.area, copy.seek * copy.bs, copy.part input ++ copy.padding (copy.part input)⟩

/-- The writes of a list of commands; one whose input is missing fails and
writes nothing. -/
def writes (dir : File → Option Bytes) (copies : List (Copy File Area)) : List (Write Area) :=
  copies.filterMap (Copy.write? dir)

def flash (dir : File → Option Bytes) (copies : List (Copy File Area)) (before : Contents Area) :
    Contents Area :=
  applyAll before (writes dir copies)

section Sizes

variable (copy : Copy File Area) (input : Bytes)

omit [DecidableEq Area]

theorem part_length_le : (copy.part input).length ≤ input.length - copy.skip * copy.bs := by
  unfold Copy.part
  split
  · exact Nat.le_of_eq List.length_drop
  · rw [List.length_take, List.length_drop]
    omega

theorem part_length_le_count (n : Nat) (counted : copy.count = some n) :
    (copy.part input).length ≤ n * copy.bs := by
  simp only [Copy.part, counted, List.length_take]
  omega

theorem part_all (whole : copy.count = none) (start : copy.skip = 0) : copy.part input = input := by
  simp only [Copy.part, whole, start, Nat.zero_mul, List.drop_zero]

theorem padding_none (plain : copy.sync = false) (part : Bytes) : copy.padding part = [] := by
  simp only [Copy.padding, plain, Bool.false_eq_true, ↓reduceIte]

/-- Filling up the last block stays below a limit of whole blocks. -/
theorem padded_le (part : Bytes) (blocks : Nat) (positive : 0 < copy.bs)
    (inside : part.length ≤ blocks * copy.bs) :
    part.length + (copy.padding part).length ≤ blocks * copy.bs := by
  unfold Copy.padding
  split
  · rw [List.length_replicate]
    have split := Nat.div_add_mod' part.length copy.bs
    have rest := Nat.mod_lt part.length positive
    by_cases exact' : part.length % copy.bs = 0
    · rw [exact', Nat.sub_zero, Nat.mod_self]
      exact inside
    · rw [Nat.mod_eq_of_lt (by omega)]
      have below : part.length / copy.bs < blocks := by
        by_contra above
        have product := Nat.mul_le_mul_right copy.bs (Nat.not_lt.mp above)
        omega
      have product := Nat.mul_le_mul_right copy.bs below
      rw [Nat.succ_mul] at product
      omega
  · rw [List.length_nil]
    exact inside

end Sizes

omit [DecidableEq Area] in
theorem mem_writes (dir : File → Option Bytes) (copies : List (Copy File Area))
    (write : Write Area) (member : write ∈ writes dir copies) :
    ∃ copy ∈ copies, ∃ input, copy.input dir = some input ∧
      write = ⟨copy.area, copy.seek * copy.bs,
        copy.part input ++ copy.padding (copy.part input)⟩ := by
  obtain ⟨copy, listed, made⟩ := List.mem_filterMap.mp member
  obtain ⟨input, read, same⟩ := Option.map_eq_some_iff.mp made
  exact ⟨copy, listed, input, read, same.symm⟩

/-- A cell outside the range of every command keeps its byte. -/
theorem flash_frame (dir : File → Option Bytes) (copies : List (Copy File Area))
    (before : Contents Area) (area : Area) (i : Nat)
    (outside : ∀ copy ∈ copies, ∀ input, copy.input dir = some input → copy.area = area →
      i < copy.seek * copy.bs ∨ copy.seek * copy.bs + (copy.part input).length +
        (copy.padding (copy.part input)).length ≤ i) :
    flash dir copies before area i = before area i := by
  refine applyAll_frame _ _ _ _ fun write member => ?_
  obtain ⟨copy, listed, input, read, rfl⟩ := mem_writes dir copies write member
  by_cases here : copy.area = area
  · rcases outside copy listed input read here with below | beyond
    · exact byteAt_below _ _ _ below
    · exact byteAt_beyond _ _ _ (by simp only [List.length_append]; omega)
  · exact byteAt_elsewhere _ _ _ here

theorem flash_cons (dir : File → Option Bytes) (copy : Copy File Area)
    (rest : List (Copy File Area)) (before : Contents Area) :
    flash dir (copy :: rest) before = flash dir rest (flash dir [copy] before) := by
  unfold flash writes
  cases made : copy.write? dir <;>
    simp only [List.filterMap_cons, List.filterMap_nil, made, applyAll, List.foldl_cons,
      List.foldl_nil]

omit [DecidableEq Area] in
theorem write_file (dir : File → Option Bytes) (copy : Copy File Area) (file : File)
    (bytes : Bytes) (source : copy.infile = some file) (whole : copy.count = none)
    (start : copy.skip = 0) (plain : copy.sync = false) (found : dir file = some bytes) :
    copy.write? dir = some ⟨copy.area, copy.seek * copy.bs, bytes⟩ := by
  simp only [Copy.write?, Copy.input, source, found, Option.map_some,
    part_all copy bytes whole start, padding_none copy plain, List.append_nil]

/-- A copy of a whole file. -/
theorem flash_file (dir : File → Option Bytes) (copy : Copy File Area) (before : Contents Area)
    (file : File) (source : copy.infile = some file) (whole : copy.count = none)
    (start : copy.skip = 0) (plain : copy.sync = false) (i : Nat)
    (lower : copy.seek * copy.bs ≤ i) :
    flash dir [copy] before copy.area i =
      ((dir file).bind fun bytes => bytes[i - copy.seek * copy.bs]?).getD (before copy.area i) := by
  have input : copy.input dir = dir file := by simp only [Copy.input, source]
  cases found : dir file with
  | none =>
      simp only [flash, writes, List.filterMap_cons, List.filterMap_nil, Copy.write?, input, found,
        Option.map_none, applyAll, List.foldl_nil, Option.bind_none, Option.getD_none]
  | some bytes =>
      simp only [flash, writes, List.filterMap_cons, List.filterMap_nil, Copy.write?, input, found,
        Option.map_some, applyAll, List.foldl_cons, List.foldl_nil, applyWrite, Write.byteAt,
        lower, and_self, ↓reduceIte, part_all copy bytes whole start, padding_none copy plain,
        List.append_nil, Option.bind_some]

end Medium
