import ImageBuilder.Medium
import ImageBuilder.Splice
import Mathlib.Logic.Function.Basic

set_option autoImplicit false

/- files/boot/amlogic-blx/gxl/acs_tool.py: the board's memory and clock settings put
into the first boot loader, at the places that the loader's own header names. -/
namespace ImageBuilder.AcsTool

open Splice
open Medium (Bytes)

def ENTRY_POINT_OFFSET : Nat := 4

def BL2_HEADER_OFFSET : Int := 4096

def ACS_TOOL_VERSION : Int := 1

/-- The three sets of settings. -/
inductive Sets
  | ddr
  | ddrt
  | pll
  deriving DecidableEq

inductive Magic
  | acs
  | set (s : Sets)
  deriving DecidableEq

inductive Number
  | chip_type
  | version
  | acs_set_length
  | set_version (s : Sets)
  | set_length (s : Sets)
  | set_addr (s : Sets)
  deriving DecidableEq

inductive Key
  | magic (m : Magic)
  | number (n : Number)

/-- The values of `acs_v1`: what a header begins its parts with, and how wide its numbers are. -/
def Magic.bytes : Magic → Bytes
  | .acs => [97, 99, 115, 95, 95]
  | .set .ddr => [100, 100, 114, 115, 95]
  | .set .ddrt => [100, 100, 114, 116, 95]
  | .set .pll => [112, 108, 108, 95, 95]

def Number.width : Number → Nat
  | .chip_type => 1
  | .version => 2
  | .acs_set_length => 8
  | .set_version _ => 1
  | .set_length _ => 2
  | .set_addr _ => 8

def check_excepts : List Sets := [.ddr, .ddrt, .pll]

/-- The keys of `acs_v1` in their order. -/
def keys : List Key :=
  [.magic .acs, .number .chip_type, .number .version, .number .acs_set_length] ++
    check_excepts.flatMap fun s =>
      [.magic (.set s), .number (.set_version s), .number (.set_length s), .number (.set_addr s)]

def key_versions : List Number := .version :: check_excepts.map Number.set_version

/-- A header as it was read. -/
structure Acs where
  magic : Magic → Bytes
  number : Number → Int

/-- `copy.deepcopy(acs_v1)` -/
def acs_v1 : Acs where
  magic := Magic.bytes
  number n := n.width

/-- `acs_struct[key] = value` -/
def Acs.setMagic (acs : Acs) (m : Magic) (value : Bytes) : Acs :=
  { acs with magic := Function.update acs.magic m value }

def Acs.setNumber (acs : Acs) (n : Number) (value : Int) : Acs :=
  { acs with number := Function.update acs.number n value }

section Init

def little (data : Bytes) : Nat := data.foldr (fun byte value => byte.toNat + 256 * value) 0

/-- `unpack('B', data)` and `unpack('H', data)`, which raise on another length. -/
def unpack (size : Nat) (data : Bytes) : Option Int :=
  if data.length = size then some (little data) else none

/-- The bytes that are read of a number: never more than two. -/
def Number.size (n : Number) : Nat := if n.width = 1 then 1 else 2

theorem Number.size_le_width (n : Number) : n.size ≤ n.width := by
  cases n <;> exact Nat.le_of_ble_eq_true rfl

/-- `acs_entry_point` -/
def entry_point (file : Bytes) (bl2 : Int) : Option Int :=
  (unpack 2 (readAt file ENTRY_POINT_OFFSET 2)).map (· - bl2 * BL2_HEADER_OFFSET)

def Number.shift (bl2 : Int) : Number → Int
  | .set_addr _ => bl2 * BL2_HEADER_OFFSET
  | _ => 0

/-- How far a key moves `seek_position`. -/
def Key.width : Key → Nat
  | .magic m => m.bytes.length
  | .number n => n.width

/-- One turn of the loop over the keys; `seek` raises on a negative position. -/
def init_key (file : Bytes) (bl2 : Int) (key : Key) (seek_position : Int) (acs : Acs) :
    Option Acs :=
  if seek_position < 0 then none
  else match key with
    | .magic m => some (acs.setMagic m (readAt file seek_position.toNat m.bytes.length))
    | .number n => (unpack n.size (readAt file seek_position.toNat n.size)).map fun value =>
        acs.setNumber n (value - n.shift bl2)

def init_keys (file : Bytes) (bl2 : Int) : List Key → Int → Acs → Option Acs
  | [], _, acs => some acs
  | key :: rest, seek_position, acs =>
      (init_key file bl2 key seek_position acs).bind
        (init_keys file bl2 rest (seek_position + key.width))

def init_acs (file : Bytes) (bl2 : Int) : Option Acs :=
  (entry_point file bl2).bind fun acs_entry_point => init_keys file bl2 keys acs_entry_point acs_v1

/-- How far the loop over some keys goes. -/
def totalWidth : List Key → Nat
  | [] => 0
  | key :: rest => key.width + totalWidth rest

/-- The length of a header. -/
def headerLength : Nat := totalWidth keys

variable (file other : Bytes) (bl2 : Int)

theorem init_key_congr (key : Key) (seek_position : Int) (acs : Acs)
    (same : ∀ i : Nat, seek_position ≤ i → (i : Int) < seek_position + key.width →
      file[i]? = other[i]?) :
    init_key file bl2 key seek_position acs = init_key other bl2 key seek_position acs := by
  have reads (n : Nat) (within : n ≤ key.width) (before : ¬ seek_position < 0) :
      readAt file seek_position.toNat n = readAt other seek_position.toNat n := by
    apply readAt_congr
    intro i low high
    exact same i (by omega) (by omega)
  unfold init_key
  split
  · rfl
  · rename_i before
    cases key with
    | magic m =>
      dsimp only
      rw [reads m.bytes.length (Nat.le_refl _) before]
    | number n =>
      dsimp only
      rw [reads n.size n.size_le_width before]

theorem init_keys_congr (list : List Key) (seek_position : Int) (acs : Acs)
    (same : ∀ i : Nat, seek_position ≤ i →
      (i : Int) < seek_position + (totalWidth list : Nat) → file[i]? = other[i]?) :
    init_keys file bl2 list seek_position acs = init_keys other bl2 list seek_position acs := by
  induction list generalizing seek_position acs with
  | nil => rfl
  | cons key rest ih =>
    rw [totalWidth] at same
    rw [init_keys, init_keys, init_key_congr file other bl2 key seek_position acs]
    · congr 1
      funext next
      apply ih
      intro i low high
      exact same i (by omega) (by omega)
    · intro i low high
      exact same i low (by omega)

theorem entry_point_congr (same : ∀ i, 4 ≤ i → i < 6 → file[i]? = other[i]?) :
    entry_point file bl2 = entry_point other bl2 := by
  rw [entry_point, entry_point, readAt_congr other ENTRY_POINT_OFFSET 2 same]

end Init

section Check

/-- A source that is older than the loader sets the loader's version down. -/
def lowered (acs_des acs_src : Acs) (n : Number) : Int :=
  if n ∈ key_versions ∧ acs_des.number n > acs_src.number n then acs_src.number n
  else acs_des.number n

/-- `err_counter`; other differences between the headers are only told. -/
def check_acs (acs_des acs_src : Acs) : Nat :=
  let wrong (acs : Acs) := (Magic.acs :: check_excepts.map Magic.set).countP fun m =>
    acs.magic m != m.bytes
  wrong acs_des + wrong acs_src +
    if lowered acs_des acs_src .version > ACS_TOOL_VERSION then 1 else 0

end Check

section Copy

/-- Where a set is in the file, and how long it is. -/
def Acs.addr (acs : Acs) (s : Sets) : Nat := (acs.number (.set_addr s)).toNat

def Acs.length (acs : Acs) (s : Sets) : Nat := (acs.number (.set_length s)).toNat

variable (acs_des acs_src : Acs) (file_src : Bytes)

/-- What is copied for one set: as much as the loader has room for. -/
def copied (s : Sets) : Write UInt8 where
  pos := acs_des.addr s
  data := readAt file_src (acs_src.addr s) (acs_des.length s)

/-- The file as it is left, and whether no `seek` has raised. -/
def copy_data : List Sets → Bytes → Bytes × Bool
  | [], file_des => (file_des, true)
  | s :: rest, file_des =>
      if acs_des.number (.set_addr s) < 0 ∨ acs_src.number (.set_addr s) < 0 then
        (file_des, false)
      else copy_data rest (writeAt 0 file_des (copied acs_des acs_src file_src s))

/-- The sets that are copied before one of them raises. -/
def reached : List Sets → List Sets :=
  List.takeWhile fun s =>
    decide (0 ≤ acs_des.number (.set_addr s) ∧ 0 ≤ acs_src.number (.set_addr s))

theorem copy_data_eq (list : List Sets) (file_des : Bytes) :
    copy_data acs_des acs_src file_src list file_des =
      (writeAll 0 file_des ((reached acs_des acs_src list).map (copied acs_des acs_src file_src)),
        decide (reached acs_des acs_src list = list)) := by
  induction list generalizing file_des with
  | nil => rfl
  | cons s rest ih =>
    rw [copy_data, reached, List.takeWhile_cons]
    by_cases raises : acs_des.number (.set_addr s) < 0 ∨ acs_src.number (.set_addr s) < 0
    · have stops : ¬ (0 ≤ acs_des.number (.set_addr s) ∧ 0 ≤ acs_src.number (.set_addr s)) := by
        omega
      rw [if_pos raises, if_neg (by simpa using stops)]
      rfl
    · have goes : 0 ≤ acs_des.number (.set_addr s) ∧ 0 ≤ acs_src.number (.set_addr s) := by
        omega
      rw [if_neg raises, if_pos (decide_eq_true goes), ih]
      simp [reached, writeAll]

end Copy

section Run

inductive Status
  | ended
  | aborted
  | raised
  deriving DecidableEq

/-- The file that the tool writes, and how it ends. -/
structure Result where
  bl2_tmp : Bytes
  status : Status

def run (bl2 acs : Bytes) : Result :=
  match init_acs bl2 1, init_acs acs 0 with
  | some acs_des, some acs_src =>
      if check_acs acs_des acs_src ≠ 0 then ⟨bl2, .aborted⟩
      else
        let (file_des, whole) := copy_data acs_des acs_src acs check_excepts bl2
        ⟨file_des, if whole then .ended else .raised⟩
  | _, _ => ⟨bl2, .raised⟩

end Run

section Installed

/-- What the boot loader finds as its settings. -/
def sets (file : Bytes) (bl2 : Int) : Option (Sets → Bytes) :=
  (init_acs file bl2).map fun acs s => readAt file (acs.addr s) (acs.length s)

/-- A place of the file that belongs to a set. -/
def Acs.Holds (acs : Acs) (s : Sets) (i : Nat) : Prop :=
  acs.addr s ≤ i ∧ i < acs.addr s + acs.length s

/-- A loader that has room for each set, away from the others and from its own header. -/
structure Laid (bl2 : Bytes) (acs_des : Acs) : Prop where
  parsed : init_acs bl2 1 = some acs_des
  inside : ∀ s, acs_des.addr s + acs_des.length s ≤ bl2.length
  apart : ∀ s other, s ≠ other → acs_des.addr s + acs_des.length s ≤ acs_des.addr other ∨
    acs_des.addr other + acs_des.length other ≤ acs_des.addr s
  entry : ∀ s i, acs_des.Holds s i → ¬ (4 ≤ i ∧ i < 6)
  header : ∀ acs_entry_point, entry_point bl2 1 = some acs_entry_point →
    ∀ s i, acs_des.Holds s i → ¬ (acs_entry_point ≤ i ∧ (i : Int) < acs_entry_point + headerLength)

variable {bl2 acs : Bytes} {acs_des : Acs}

theorem Covers.holds {acs_src : Acs} {s : Sets} {i : Nat}
    (covers : (copied acs_des acs_src acs s).Covers i) : acs_des.Holds s i := by
  have short := @length_readAt_le _ acs (acs_src.addr s) (acs_des.length s)
  obtain ⟨low, high⟩ := covers
  exact ⟨low, Nat.lt_of_lt_of_le high (Nat.add_le_add_left short _)⟩

/-- However the tool ends, it has copied some of the sets. -/
theorem run_copied (parsed : init_acs bl2 1 = some acs_des) :
    ∃ (acs_src : Acs) (list : List Sets), list.Sublist check_excepts ∧
      (run bl2 acs).bl2_tmp = writeAll 0 bl2 (list.map (copied acs_des acs_src acs)) := by
  unfold run
  rw [parsed]
  cases init_acs acs 0 with
  | none => exact ⟨acs_v1, [], List.nil_sublist _, rfl⟩
  | some acs_src =>
    dsimp only
    split
    · exact ⟨acs_src, [], List.nil_sublist _, rfl⟩
    · rw [copy_data_eq]
      exact ⟨acs_src, reached acs_des acs_src check_excepts, List.takeWhile_sublist _, rfl⟩

theorem run_ended (parsed : init_acs bl2 1 = some acs_des)
    (ended : (run bl2 acs).status = .ended) : ∃ acs_src, init_acs acs 0 = some acs_src ∧
      (run bl2 acs).bl2_tmp = writeAll 0 bl2 (check_excepts.map (copied acs_des acs_src acs)) := by
  unfold run at ended ⊢
  rw [parsed] at ended ⊢
  cases source : init_acs acs 0 with
  | none =>
    rw [source] at ended
    cases ended
  | some acs_src =>
    rw [source] at ended
    dsimp only at ended ⊢
    refine ⟨acs_src, rfl, ?_⟩
    split at ended
    · cases ended
    · rename_i passed
      rw [if_neg passed]
      rw [copy_data_eq] at ended ⊢
      dsimp only at ended ⊢
      split at ended
      · rename_i whole
        rw [of_decide_eq_true whole]
      · cases ended

/-- How the tool ends depends on the loader's header only. -/
theorem run_status_congr (file other : Bytes) (same : init_acs file 1 = init_acs other 1)
    (acs : Bytes) : (run file acs).status = (run other acs).status := by
  unfold run
  rw [same]
  cases init_acs other 1 with
  | none => rfl
  | some acs_des =>
    cases init_acs acs 0 with
    | none => rfl
    | some acs_src =>
      dsimp only
      split
      · rfl
      · rw [copy_data_eq, copy_data_eq]

section Laid

variable (laid : Laid bl2 acs_des)

include laid

theorem Laid.writes_inside (acs_src : Acs) (list : List Sets) :
    ∀ write ∈ list.map (copied acs_des acs_src acs), write.stop ≤ bl2.length := by
  intro write member
  obtain ⟨s, -, rfl⟩ := List.mem_map.mp member
  have short := @length_readAt_le _ acs (acs_src.addr s) (acs_des.length s)
  exact Nat.le_trans (Nat.add_le_add_left short _) (laid.inside s)

theorem Laid.writes_apart (acs_src : Acs) (list : List Sets)
    (sublist : list.Sublist check_excepts) :
    (list.map (copied acs_des acs_src acs)).Pairwise Write.Apart := by
  have distinct : list.Pairwise (· ≠ ·) := List.Pairwise.sublist sublist (by decide)
  rw [List.pairwise_map]
  refine distinct.imp fun {s other} different => ?_
  have short (s : Sets) := @length_readAt_le _ acs (acs_src.addr s) (acs_des.length s)
  have first := short s
  have second := short other
  have away := laid.apart s other different
  unfold Write.Apart Write.stop copied
  dsimp only
  omega

theorem Laid.run_length : (run bl2 acs).bl2_tmp.length = bl2.length := by
  obtain ⟨acs_src, list, -, is⟩ := @run_copied bl2 acs acs_des laid.parsed
  rw [is]
  exact length_writeAll (laid.writes_inside acs_src list)

/-- Nothing changes outside of the sets. -/
theorem Laid.run_outside (i : Nat) (outside : ∀ s, ¬ acs_des.Holds s i) :
    (run bl2 acs).bl2_tmp[i]? = bl2[i]? := by
  obtain ⟨acs_src, list, -, is⟩ := @run_copied bl2 acs acs_des laid.parsed
  rw [is]
  apply getElem?_writeAll_out (laid.writes_inside acs_src list)
  intro write member covers
  obtain ⟨s, -, rfl⟩ := List.mem_map.mp member
  exact outside s (Covers.holds covers)

/-- The loader keeps its header. -/
theorem Laid.run_header : init_acs (run bl2 acs).bl2_tmp 1 = init_acs bl2 1 := by
  have point : entry_point (run bl2 acs).bl2_tmp 1 = entry_point bl2 1 := by
    apply entry_point_congr
    intro i low high
    exact laid.run_outside i fun s holds => laid.entry s i holds ⟨low, high⟩
  unfold init_acs
  rw [point]
  cases entry : entry_point bl2 1 with
  | none => rw [Option.bind_none, Option.bind_none]
  | some acs_entry_point =>
    rw [Option.bind_some, Option.bind_some]
    apply init_keys_congr
    rw [← headerLength]
    intro i low high
    exact laid.run_outside i fun s holds => laid.header _ entry s i holds ⟨low, high⟩

end Laid

/-- A loader into which the tool has put a file of settings finds exactly these, and has
kept all of its other bytes. -/
theorem installs_sets (bl2 acs : Bytes) (acs_des acs_src : Acs) (laid : Laid bl2 acs_des)
    (source : init_acs acs 0 = some acs_src)
    (lengths : ∀ s, acs_des.length s = acs_src.length s)
    (whole : ∀ s, acs_src.addr s + acs_src.length s ≤ acs.length)
    (ended : (run bl2 acs).status = .ended) :
    sets (run bl2 acs).bl2_tmp 1 = sets acs 0 ∧
      (run bl2 acs).bl2_tmp.length = bl2.length ∧
      ∀ i, (∀ s, ¬ acs_des.Holds s i) → (run bl2 acs).bl2_tmp[i]? = bl2[i]? := by
  refine ⟨?_, laid.run_length, laid.run_outside⟩
  unfold sets
  rw [laid.run_header, laid.parsed, source, Option.map_some, Option.map_some]
  congr 1
  funext s
  obtain ⟨found, again, written⟩ := run_ended laid.parsed ended
  obtain rfl : acs_src = found := Option.some.inj (source.symm.trans again)
  have listed : copied acs_des acs_src acs s ∈
      check_excepts.map (copied acs_des acs_src acs) :=
    List.mem_map_of_mem (by cases s <;> decide)
  have full : (copied acs_des acs_src acs s).data.length = acs_des.length s := by
    apply length_readAt
    rw [lengths s]
    exact whole s
  have read := @readAt_writeAll _ 0 _ _ (laid.writes_inside acs_src check_excepts)
    (laid.writes_apart acs_src check_excepts (List.Sublist.refl _)) _ listed
  rw [← written, full] at read
  rw [← lengths s]
  exact read

/-- A file with its sets behind the header; `high` is the loader's own offset of 4096. -/
def sample (high : UInt8) (data : Bytes) : Bytes :=
  let setBytes (s : Sets) (length addr : UInt8) : Bytes :=
    Magic.bytes (.set s) ++ [1, length, 0, addr, high, 0, 0, 0, 0, 0, 0]
  [0, 0, 0, 0, 8, high, 0, 0] ++ Magic.bytes .acs ++ [1, 1, 0, 64, 0, 0, 0, 0, 0, 0, 0] ++
    setBytes .ddr 2 72 ++ setBytes .ddrt 1 74 ++ setBytes .pll 1 75 ++ data

def loader : Bytes := sample 16 [0, 0, 0, 0]

def settings (data : Bytes) : Bytes := sample 0 data

def loaderHeader : Acs := (init_acs loader 1).get rfl

def settingsHeader (data : Bytes) : Acs := (init_acs (settings data) 0).get rfl

theorem settings_parsed (data : Bytes) :
    init_acs (settings data) 0 = some (settingsHeader data) :=
  (Option.some_get rfl).symm

theorem loader_laid : Laid loader loaderHeader where
  parsed := (Option.some_get rfl).symm
  inside s := by cases s <;> decide +kernel
  apart s other different := by
    revert different
    cases s <;> cases other <;> decide +kernel
  entry s i holds := by
    obtain ⟨low, -⟩ := holds
    have late : 6 ≤ loaderHeader.addr s := by cases s <;> decide +kernel
    omega
  header point is s i holds := by
    obtain rfl : (8 : Int) = point := Option.some.inj is
    obtain ⟨low, -⟩ := holds
    have late : 8 + headerLength ≤ loaderHeader.addr s := by cases s <;> decide +kernel
    omega

theorem installs_sets_loader :
    sets (run loader (settings [1, 2, 3, 4])).bl2_tmp 1 = sets (settings [1, 2, 3, 4]) 0 :=
  (installs_sets loader (settings [1, 2, 3, 4]) loaderHeader _ loader_laid (settings_parsed _)
    (fun s => by cases s <;> decide +kernel) (fun s => by cases s <;> decide +kernel)
    (by decide +kernel)).1

/-- It does not matter what the tool has put into a loader before. -/
theorem installs_over (bl2 first second : Bytes) (acs_des : Acs) (laid : Laid bl2 acs_des)
    (whole : ∀ acs_src, init_acs second 0 = some acs_src →
      ∀ s, acs_src.addr s + acs_des.length s ≤ second.length) :
    (run (run bl2 first).bl2_tmp second).status = (run bl2 second).status ∧
      ((run bl2 second).status = .ended →
        (run (run bl2 first).bl2_tmp second).bl2_tmp = (run bl2 second).bl2_tmp) := by
  have header : init_acs (run bl2 first).bl2_tmp 1 = some acs_des :=
    laid.run_header.trans laid.parsed
  have status : (run (run bl2 first).bl2_tmp second).status = (run bl2 second).status :=
    run_status_congr _ _ laid.run_header second
  refine ⟨status, fun ended => ?_⟩
  obtain ⟨acs_src, source, plain⟩ := run_ended laid.parsed ended
  obtain ⟨again, source', written⟩ := run_ended header (status.trans ended)
  obtain rfl : acs_src = again := Option.some.inj (source.symm.trans source')
  obtain ⟨other, list, sublist, before⟩ := @run_copied bl2 first acs_des laid.parsed
  rw [written, plain, before]
  apply writeAll_writeAll (laid.writes_inside acs_src check_excepts)
    (laid.writes_inside other list)
    (laid.writes_apart acs_src check_excepts (List.Sublist.refl _))
  intro write member
  obtain ⟨s, -, rfl⟩ := List.mem_map.mp member
  refine ⟨copied acs_des acs_src second s, List.mem_map_of_mem (by cases s <;> decide), ?_⟩
  intro i covers
  obtain ⟨low, high⟩ := Covers.holds covers
  refine ⟨low, ?_⟩
  unfold Write.stop copied
  dsimp only
  rw [length_readAt _ _ (whole acs_src source s)]
  exact high

theorem installs_over_loader :
    (run (run loader (settings [1, 2, 3, 4])).bl2_tmp (settings [5, 6, 7, 8])).bl2_tmp =
      (run loader (settings [5, 6, 7, 8])).bl2_tmp :=
  (installs_over loader (settings [1, 2, 3, 4]) (settings [5, 6, 7, 8]) loaderHeader loader_laid
    (fun acs_src is s => by
      obtain rfl := Option.some.inj ((settings_parsed [5, 6, 7, 8]).symm.trans is)
      cases s <;> decide +kernel)).2 (by decide +kernel)

end Installed

end ImageBuilder.AcsTool
