import ImageBuilder.Extents
import ImageBuilder.Numerals
import ImageBuilder.Transition

set_option autoImplicit false

/- files/scripts/growpart: how far a partition can grow, by sfdisk and by
sgdisk, and what runs of it do to a disk. -/
namespace ImageBuilder.Growpart

open PlainText Numerals Extents

inductive Format
  | dos
  | gpt
  deriving DecidableEq

/-- What the script knows of the disk, in bytes and in sectors. -/
structure Geometry where
  disk_size : Nat
  sector_size : Nat
  sector_num : Nat
  deriving DecidableEq

/-- From the first line of `sfdisk --list`. -/
def Geometry.listed (disk_size sector_num : Nat) : Geometry where
  disk_size := disk_size
  sector_size := disk_size / sector_num
  sector_num := sector_num

/-- A partition as the tools list it: its type and identifiers in `fields`, its flags
in `attrs`. -/
structure Entry where
  number : Nat
  start : Nat
  size : Nat
  fields : Text
  name : Text
  attrs : Text
  used : 0 < size

def Entry.pt_end (entry : Entry) : Nat := entry.size + entry.start - 1

def Entry.extent (entry : Entry) : Extent Nat where
  start := entry.start
  stop := entry.start + entry.size
  ordered := Nat.lt_add_of_pos_right entry.used

/-- The options growpart takes that decide about the table; --fudge with a number that
is not negative. -/
structure Options where
  FUDGE : Nat := 1024 * 1024
  free_percent : Option Nat := none
  deriving DecidableEq

/-- Behind the present end there is room for one sector less. -/
theorem Entry.size_le_of_behind (entry : Entry) (last : Int) (behind : (entry.pt_end : Int) < last) :
    entry.size ≤ (last - 1 - entry.start + 1).toNat := by
  unfold Entry.pt_end at behind
  have used := entry.used
  omega

/-- A number as the shell prints it. -/
def shellNumber : Int → Text
  | .ofNat n => decimal n
  | .negSucc n => '-' :: decimal (n + 1)

/-- What starts with the first occurrence of a part. -/
def fromPart (part : Text) : Text → Text
  | [] => []
  | c :: rest => if part.isPrefixOf (c :: rest) then c :: rest else fromPart part rest

/-- The name that awk takes from the line `Partition name: 'name'`: it ends the line and
starts with the first occurrence of the third word; apostrophes are deleted. -/
def renamed (name : Text) : Text :=
  let line := ("Partition name: " : Text) ++ name.filter (· != '\'')
  match (words line)[2]? with
  | some third => fromPart third line
  | none => []

theorem fromPart_append (part front rest : Text) (c : Char) (absent : c ∉ front)
    (first : c :: part <+: rest) : fromPart (c :: part) (front ++ rest) = rest := by
  induction front with
  | nil =>
    obtain ⟨more, rfl⟩ := first
    exact if_pos (List.isPrefixOf_iff_prefix.mpr ⟨more, rfl⟩)
  | cons e front ih =>
    obtain ⟨other, absent⟩ := List.ne_and_not_mem_of_not_mem_cons absent
    have later : ¬ (c :: part).isPrefixOf (e :: (front ++ rest)) = true := fun here =>
      other (List.cons_prefix_cons.mp (List.isPrefixOf_iff_prefix.mp here)).1
    rw [List.cons_append, fromPart, if_neg later, ih absent]

/-- A name without apostrophes and without blanks in front that starts with none of the
letters of the line is taken as it is. -/
theorem renamed_self (c : Char) (rest : Text) (solid : isBlank c = false)
    (fresh : c ∉ ("Partition name: " : Text)) (plain : '\'' ∉ c :: rest) :
    renamed (c :: rest) = c :: rest := by
  obtain ⟨part, others, listed, first⟩ := words_first c rest solid
  have kept : (c :: rest).filter (· != '\'') = c :: rest := by
    rw [List.filter_eq_self]
    intro e member
    exact bne_iff_ne.mpr fun is => plain (is ▸ member)
  have split : words (("Partition name: " : Text) ++ c :: rest) =
      ("Partition" : Text) :: ("name:" : Text) :: (c :: part) :: others := by
    have front : ("Partition name: " : Text) ++ c :: rest =
        ("Partition" : Text) ++ ' ' :: (("name:" : Text) ++ ' ' :: c :: rest) := rfl
    rw [front, words_append _ _ ' ' rfl, words_append _ _ ' ' rfl, listed,
      words_word ("Partition" : Text) (by decide), words_word ("name:" : Text) (by decide)]
    rfl
  unfold renamed
  dsimp only
  rw [kept, split]
  exact fromPart_append part _ (c :: rest) c fresh first

/-- The partition keeps its number, its start and its fields, and loses nothing. -/
structure Keeps (before after : Entry) : Prop where
  number : after.number = before.number
  start : after.start = before.start
  fields : after.fields = before.fields
  size : before.size ≤ after.size

theorem Keeps.refl (entry : Entry) : Keeps entry entry := ⟨rfl, rfl, rfl, Nat.le_refl _⟩

theorem Keeps.trans {first second third : Entry} (early : Keeps first second)
    (late : Keeps second third) : Keeps first third where
  number := late.number.trans early.number
  start := late.start.trans early.start
  fields := late.fields.trans early.fields
  size := early.size.trans late.size

def Entry.resized (entry : Entry) (new_size : Nat) (grows : entry.size ≤ new_size)
    (name attrs : Text) : Entry where
  number := entry.number
  start := entry.start
  size := new_size
  fields := entry.fields
  name := name
  attrs := attrs
  used := Nat.lt_of_lt_of_le entry.used grows

theorem Entry.keeps_resized (entry : Entry) (new_size : Nat) (grows : entry.size ≤ new_size)
    (name attrs : Text) : Keeps entry (entry.resized new_size grows name attrs) :=
  ⟨rfl, rfl, rfl, grows⟩

/-- What a resizer comes to. -/
inductive Outcome
  | fail (message : Text)
  | nochange (message : Text)
  | changed (old new : Entry) (keeps : Keeps old new) (change_info : Text)

def change_info (PART pt_start pt_size new_size : Nat) (new_end : Int) : Text :=
  ("partition=" : Text) ++ decimal PART ++ (" start=" : Text) ++ decimal pt_start ++
    (" old: size=" : Text) ++ decimal pt_size ++ (" end=" : Text) ++
    decimal (pt_size + pt_start - 1) ++ (" new: size=" : Text) ++ decimal new_size ++
    (" end=" : Text) ++ shellNumber new_end

section Sfdisk

def mbr_max_512 : Nat := 4294967296

def gpt_second_size : Nat := 33

/-- The last sector the partition could have, with everything behind it used. -/
def max_end (format : Format) (geometry : Geometry) (starts : List Nat) (pt_end : Nat) : Int :=
  let max_end : Int := leastFrom geometry.sector_num pt_end starts - 1
  let mbr_max_sectors : Int := (mbr_max_512 * (geometry.sector_size / 512) : Nat)
  let max_end := if format = .dos ∧ mbr_max_sectors < max_end then mbr_max_sectors else max_end
  if (geometry.sector_num : Int) - gpt_second_size < max_end then
    (geometry.sector_num : Int) - gpt_second_size - 1
  else max_end

def free_percent_sectors (geometry : Geometry) (free_percent : Nat) : Nat :=
  geometry.sector_num / 100 * free_percent

/-- `max_end` with the sectors that are to stay free taken off it. -/
def reserved (format : Format) (geometry : Geometry) (free : Nat) (max_end : Int) : Int :=
  match format with
  | .gpt => max_end - free
  | .dos =>
      if mbr_max_512 + free ≤ geometry.disk_size / 512 then max_end
      else if mbr_max_512 < geometry.sector_num then
        let excess_sectors : Int := (geometry.sector_num : Int) - mbr_max_512
        let remaining_free_sectors := free - excess_sectors
        max_end - remaining_free_sectors
      else max_end - free

/-- What the arithmetic decides: why not, or the new size and what is said of it. -/
inductive Decision
  | nochange (message : Text)
  | change (new_size : Nat) (change_info : Text)
  deriving DecidableEq

/-- The comparison with the present end, and the new size. -/
def enlarge (geometry : Geometry) (FUDGE PART pt_start pt_size : Nat) (max_end : Int) :
    Decision :=
  let pt_end := pt_size + pt_start - 1
  let fudge := FUDGE / geometry.sector_size
  if (pt_end : Int) = max_end then
    .nochange (("partition " : Text) ++ decimal PART ++ (" size is " : Text) ++
      decimal (pt_size * geometry.sector_size) ++ (" bytes (" : Text) ++ decimal pt_size ++
      (" sectors of " : Text) ++ decimal geometry.sector_size ++
      ("). it cannot be grown" : Text))
  else if max_end < (pt_end : Int) + fudge then
    .nochange (("partition " : Text) ++ decimal PART ++
      (" could only be grown by " : Text) ++ shellNumber (max_end - pt_end) ++
      (" [fudge=" : Text) ++ decimal fudge ++ ("]" : Text))
  else
    let new_size := (max_end - pt_start + 1).toNat
    .change new_size (change_info PART pt_start pt_size new_size max_end)

/-- From the numbers in the dump to the new size. -/
def grown (format : Format) (geometry : Geometry) (options : Options) (starts : List Nat)
    (PART pt_start pt_size : Nat) : Decision :=
  let pt_end := pt_size + pt_start - 1
  let max_end := max_end format geometry starts pt_end
  match options.free_percent with
  | none => enlarge geometry options.FUDGE PART pt_start pt_size max_end
  | some free_percent =>
      let free := free_percent_sectors geometry free_percent
      let max_end := reserved format geometry free max_end
      if max_end < pt_end then
        .nochange (("partition " : Text) ++ decimal PART ++
          (" could not be grown while leaving " : Text) ++ decimal free_percent ++
          ("% (" : Text) ++ decimal free ++ (" sectors) free on device" : Text))
      else enlarge geometry options.FUDGE PART pt_start pt_size max_end

end Sfdisk

section Limit

variable (format : Format) (geometry : Geometry) (starts : List Nat) (pt_end : Nat)

/-- The last sector that is left to a partition. -/
def limit (free_percent : Option Nat) : Int :=
  match free_percent with
  | none => max_end format geometry starts pt_end
  | some free_percent =>
      reserved format geometry (free_percent_sectors geometry free_percent)
        (max_end format geometry starts pt_end)

theorem max_end_lt_least :
    max_end format geometry starts pt_end < leastFrom geometry.sector_num pt_end starts := by
  unfold max_end
  dsimp only
  split <;> split <;> omega

theorem max_end_le_tail :
    max_end format geometry starts pt_end ≤ (geometry.sector_num : Int) - gpt_second_size := by
  unfold max_end
  dsimp only
  split <;> split <;> omega

theorem max_end_le_mbr :
    max_end .dos geometry starts pt_end ≤ (mbr_max_512 * (geometry.sector_size / 512) : Nat) := by
  unfold max_end
  dsimp only
  simp only [true_and]
  split <;> split <;> omega

/-- On a GPT disk only the next start and the second header bound the end. -/
theorem max_end_gpt (least : Nat)
    (next : leastFrom geometry.sector_num pt_end starts = least) :
    max_end .gpt geometry starts pt_end =
      if (geometry.sector_num : Int) - gpt_second_size < (least : Int) - 1 then
        (geometry.sector_num : Int) - gpt_second_size - 1
      else (least : Int) - 1 := by
  simp [max_end, next]

theorem reserved_le (free : Nat) (last : Int)
    (sectors : 512 * geometry.sector_num ≤ geometry.disk_size) :
    reserved format geometry free last ≤ last := by
  unfold reserved
  cases format with
  | gpt => dsimp only; omega
  | dos =>
    dsimp only
    split
    · exact le_refl last
    · split <;> omega

theorem limit_le (free_percent : Option Nat)
    (sectors : 512 * geometry.sector_num ≤ geometry.disk_size) :
    limit format geometry starts pt_end free_percent ≤ max_end format geometry starts pt_end := by
  cases free_percent with
  | none => exact le_refl _
  | some percent => exact reserved_le format geometry _ _ sectors

end Limit

section Sfdisk

theorem enlarge_change (geometry : Geometry) (FUDGE PART pt_start pt_size new_size : Nat)
    (last : Int) (info : Text) (used : 0 < pt_size)
    (changed : enlarge geometry FUDGE PART pt_start pt_size last = .change new_size info) :
    (pt_start : Int) + new_size - 1 = last ∧ pt_size < new_size ∧
      pt_size + FUDGE / geometry.sector_size ≤ new_size := by
  unfold enlarge at changed
  dsimp only at changed
  generalize FUDGE / geometry.sector_size = fudge at changed ⊢
  split at changed
  · cases changed
  · split at changed
    · cases changed
    · obtain ⟨rfl, -⟩ := Decision.change.inj changed
      refine ⟨?_, ?_, ?_⟩ <;> omega

theorem grown_change (format : Format) (geometry : Geometry) (options : Options)
    (starts : List Nat) (PART pt_start pt_size new_size : Nat) (info : Text) (used : 0 < pt_size)
    (changed : grown format geometry options starts PART pt_start pt_size =
      .change new_size info) :
    (pt_start : Int) + new_size - 1 =
        limit format geometry starts (pt_size + pt_start - 1) options.free_percent ∧
      pt_size < new_size ∧ pt_size + options.FUDGE / geometry.sector_size ≤ new_size := by
  unfold grown at changed
  unfold limit
  cases percent : options.free_percent with
  | none =>
    rw [percent] at changed
    exact enlarge_change _ _ _ _ _ _ _ _ used changed
  | some free =>
    rw [percent] at changed
    dsimp only at changed
    split at changed
    · cases changed
    · exact enlarge_change _ _ _ _ _ _ _ _ used changed

def resize_sfdisk (DISK dpart : Text) (format : Format) (geometry : Geometry) (options : Options)
    (table : List Entry) (PART : Nat) : Outcome :=
  match table.find? fun entry => entry.number == PART with
  | none => .fail (("failed to get start and end for " : Text) ++ dpart ++ (" in " : Text) ++ DISK)
  | some entry =>
      match decided : grown format geometry options (table.map Entry.start) PART entry.start
        entry.size with
      | .nochange message => .nochange message
      | .change new_size change_info =>
          have larger := (grown_change _ _ _ _ _ _ _ _ _ entry.used decided).2.1
          .changed entry (entry.resized new_size larger.le entry.name entry.attrs)
            (entry.keeps_resized new_size larger.le entry.name entry.attrs) change_info

/-- What a change by sfdisk amounts to. -/
structure Enlarged (format : Format) (geometry : Geometry) (options : Options)
    (table : List Entry) (PART : Nat) (old new : Entry) : Prop where
  listed : old ∈ table
  named : old.number = PART
  name : new.name = old.name
  attrs : new.attrs = old.attrs
  last : (new.start : Int) + new.size - 1 =
    limit format geometry (table.map Entry.start) old.pt_end options.free_percent
  larger : old.size < new.size
  worthwhile : old.size + options.FUDGE / geometry.sector_size ≤ new.size

theorem resize_sfdisk_changed (DISK dpart : Text) (format : Format) (geometry : Geometry)
    (options : Options) (table : List Entry) (PART : Nat) (old new : Entry)
    (keeps : Keeps old new) (info : Text)
    (changed : resize_sfdisk DISK dpart format geometry options table PART =
      .changed old new keeps info) :
    Enlarged format geometry options table PART old new := by
  unfold resize_sfdisk at changed
  split at changed
  · cases changed
  · rename_i entry found
    have listed := List.mem_of_find?_eq_some found
    have named : entry.number = PART := by simpa using List.find?_some found
    split at changed
    · cases changed
    · rename_i new_size info' decided
      obtain ⟨last, larger, worthwhile⟩ := grown_change _ _ _ _ _ _ _ _ _ entry.used decided
      cases changed
      exact ⟨listed, named, rfl, rfl, last, larger, worthwhile⟩

end Sfdisk

section Sgdisk

/-- A new end that is not the present one and not short of it by the fudge. -/
theorem Entry.behind_of_far (entry : Entry) (fudge : Nat) (last : Int)
    (same : ¬ (entry.pt_end : Int) = last) (far : ¬ last < (entry.pt_end : Int) + fudge) :
    (entry.pt_end : Int) < last := by omega

/-- `last` is the last usable sector once the second header is at the end of
the disk. The partition is deleted and created again with its code, its GUID and
the name that awk takes; it is a sector smaller than the one reported. -/
def resize_sgdisk (DISK : Text) (last sector_size FUDGE : Nat) (table : List Entry) (PART : Nat) :
    Outcome :=
  let dev := ("disk=" : Text) ++ DISK ++ (" partition=" : Text) ++ decimal PART
  match table.find? fun entry => entry.number == PART with
  | none => .fail (dev ++ (": failed to get start sector" : Text))
  | some entry =>
      let pt_max : Int := leastFrom last entry.pt_end (table.map Entry.start) - 1
      let fudge := FUDGE / sector_size
      if same : (entry.pt_end : Int) = pt_max then
        .nochange (dev ++ (": size=" : Text) ++ decimal (entry.size * sector_size) ++
          (" bytes (" : Text) ++ decimal entry.size ++ (" sectors of " : Text) ++
          decimal sector_size ++ ("), it cannot be grown" : Text))
      else if far : pt_max < (entry.pt_end : Int) + fudge then
        .nochange (dev ++ (": could only be grown by " : Text) ++
          shellNumber (pt_max - entry.pt_end) ++ (" [fudge=" : Text) ++ decimal fudge ++
          ("]" : Text))
      else
        have behind := entry.behind_of_far fudge pt_max same far
        have grows := entry.size_le_of_behind pt_max behind
        .changed entry
          (entry.resized (pt_max - 1 - entry.start + 1).toNat grows (renamed entry.name) [])
          (entry.keeps_resized _ grows (renamed entry.name) [])
          (change_info PART entry.start entry.size (pt_max - entry.start + 1).toNat pt_max)

end Sgdisk

/-- The table with the line of the one partition replaced. -/
def Outcome.apply (outcome : Outcome) (table : List Entry) : List Entry :=
  match outcome with
  | .fail _ | .nochange _ => table
  | .changed old new _ _ => table.map fun entry => if entry.number = old.number then new else entry

/-- A disk label as the tools keep it: numbers and sectors are given once, and
no partition is larger than the disk. There is no extended partition. -/
@[ext] structure Disk where
  format : Format
  geometry : Geometry
  lastUsable : Nat
  table : List Entry
  sectors : 512 * geometry.sector_num ≤ geometry.disk_size
  usable : lastUsable < geometry.sector_num
  separate : Separate Entry.number Entry.extent table
  inside : ∀ entry ∈ table, entry.start + entry.size ≤ geometry.sector_num

inductive Resizer
  | sfdisk
  | sgdisk
  deriving DecidableEq

/-- A run of growpart for one partition. -/
structure Request where
  resizer : Resizer
  DISK : Text
  dpart : Text
  options : Options
  PART : Nat

/-- resize_sfdisk_dos, resize_sfdisk_gpt, resize_sgdisk_dos, resize_sgdisk_gpt -/
def resize (disk : Disk) (request : Request) : Outcome :=
  match request.resizer, disk.format with
  | .sfdisk, format =>
      resize_sfdisk request.DISK request.dpart format disk.geometry request.options disk.table
        request.PART
  | .sgdisk, .dos => .fail ("unable to resize dos label with sgdisk" : Text)
  | .sgdisk, .gpt =>
      resize_sgdisk request.DISK disk.lastUsable disk.geometry.sector_size request.options.FUDGE
        disk.table request.PART

/-- The change has room: before the end of the disk and before whatever starts
behind the partition. -/
def Outcome.Fits (disk : Disk) : Outcome → Prop
  | .fail _ | .nochange _ => True
  | .changed old new _ _ => old ∈ disk.table ∧
      new.start + new.size ≤ disk.geometry.sector_num ∧
      ∀ start ∈ disk.table.map Entry.start, old.pt_end ≤ start → new.start + new.size ≤ start

/-- A disk's entry is the one found by its number. -/
theorem Disk.find (disk : Disk) (entry : Entry) (listed : entry ∈ disk.table) :
    (disk.table.find? fun other => other.number == entry.number) = some entry := by
  cases found : disk.table.find? fun other => other.number == entry.number with
  | none =>
    have absent := List.find?_eq_none.mp found entry listed
    simp at absent
  | some other =>
    have same : other.number = entry.number := by simpa using List.find?_some found
    rw [disk.separate.eq_of_key (List.mem_of_find?_eq_some found) listed same]

section Sfdisk

theorem resize_sfdisk_nochange (DISK dpart : Text) (disk : Disk) (options : Options)
    (entry : Entry) (message : Text) (listed : entry ∈ disk.table)
    (decided : grown disk.format disk.geometry options (disk.table.map Entry.start) entry.number
      entry.start entry.size = .nochange message) :
    resize_sfdisk DISK dpart disk.format disk.geometry options disk.table entry.number =
      .nochange message := by
  unfold resize_sfdisk
  rw [disk.find entry listed]
  dsimp only
  split
  · rename_i message' decided'
    rw [decided] at decided'
    rw [Decision.nochange.inj decided']
  · rename_i decided'
    rw [decided] at decided'
    cases decided'

theorem resize_sfdisk_change (DISK dpart : Text) (disk : Disk) (options : Options)
    (entry : Entry) (new_size : Nat) (info : Text) (listed : entry ∈ disk.table)
    (decided : grown disk.format disk.geometry options (disk.table.map Entry.start) entry.number
      entry.start entry.size = .change new_size info) :
    ∃ new keeps, resize_sfdisk DISK dpart disk.format disk.geometry options disk.table
        entry.number = .changed entry new keeps info ∧
      new.size = new_size ∧ new.name = entry.name ∧ new.attrs = entry.attrs := by
  unfold resize_sfdisk
  rw [disk.find entry listed]
  dsimp only
  split
  · rename_i decided'
    rw [decided] at decided'
    cases decided'
  · rename_i decided'
    rw [decided] at decided'
    obtain ⟨rfl, rfl⟩ := Decision.change.inj decided'
    exact ⟨_, entry.keeps_resized _ _ entry.name entry.attrs, rfl, rfl, rfl, rfl⟩

theorem Enlarged.fits {disk : Disk} {options : Options} {PART : Nat} {old new : Entry}
    (enlarged : Enlarged disk.format disk.geometry options disk.table PART old new)
    (keeps : Keeps old new) (info : Text) : (Outcome.changed old new keeps info).Fits disk := by
  have last := enlarged.last
  have least := max_end_lt_least disk.format disk.geometry (disk.table.map Entry.start) old.pt_end
  have tail := max_end_le_tail disk.format disk.geometry (disk.table.map Entry.start) old.pt_end
  have most := limit_le disk.format disk.geometry (disk.table.map Entry.start) old.pt_end
    options.free_percent disk.sectors
  refine ⟨enlarged.listed, ?_, ?_⟩
  · unfold gpt_second_size at tail
    omega
  · intro start member behind
    have bound := leastFrom_le_of_mem disk.geometry.sector_num old.pt_end start _ member behind
    omega

end Sfdisk

section Sgdisk

theorem resize_sgdisk_changed (DISK : Text) (last sector_size FUDGE : Nat) (table : List Entry)
    (PART : Nat) (old new : Entry) (keeps : Keeps old new) (info : Text)
    (changed : resize_sgdisk DISK last sector_size FUDGE table PART =
      .changed old new keeps info) :
    old ∈ table ∧ old.number = PART ∧ new.name = renamed old.name ∧
      new.start + new.size + 1 = leastFrom last old.pt_end (table.map Entry.start) ∧
      old.pt_end + max 1 (FUDGE / sector_size) ≤ new.start + new.size := by
  unfold resize_sgdisk at changed
  dsimp only at changed
  cases found : table.find? fun entry => entry.number == PART with
  | none =>
    rw [found] at changed
    cases changed
  | some entry =>
    have listed := List.mem_of_find?_eq_some found
    have named : entry.number = PART := by simpa using List.find?_some found
    rw [found] at changed
    dsimp only at changed
    split at changed
    · cases changed
    · rename_i different
      split at changed
      · cases changed
      · rename_i far
        have used := entry.used
        cases changed
        unfold Entry.resized
        generalize leastFrom last old.pt_end (table.map Entry.start) = least at different far ⊢
        generalize FUDGE / sector_size = fudge at far ⊢
        unfold Entry.pt_end at different far ⊢
        refine ⟨listed, named, rfl, ?_, ?_⟩ <;> dsimp only <;> omega

end Sgdisk

section Changes

variable {disk : Disk} {request : Request} {old new : Entry} {keeps : Keeps old new} {info : Text}

theorem resize_enlarged (tool : request.resizer = .sfdisk)
    (changed : resize disk request = .changed old new keeps info) :
    Enlarged disk.format disk.geometry request.options disk.table request.PART old new := by
  unfold resize at changed
  rw [tool] at changed
  exact resize_sfdisk_changed _ _ _ _ _ _ _ _ _ _ _ changed

/-- What a change by sgdisk amounts to. -/
structure Recreated (disk : Disk) (request : Request) (old new : Entry) : Prop where
  format : disk.format = .gpt
  listed : old ∈ disk.table
  named : old.number = request.PART
  name : new.name = renamed old.name
  last : new.start + new.size + 1 =
    leastFrom disk.lastUsable old.pt_end (disk.table.map Entry.start)
  worthwhile : old.pt_end + max 1 (request.options.FUDGE / disk.geometry.sector_size) ≤
    new.start + new.size

theorem resize_recreated (tool : request.resizer = .sgdisk)
    (changed : resize disk request = .changed old new keeps info) :
    Recreated disk request old new := by
  unfold resize at changed
  rw [tool] at changed
  cases format : disk.format with
  | dos =>
    rw [format] at changed
    cases changed
  | gpt =>
    rw [format] at changed
    obtain ⟨listed, named, name, last, worthwhile⟩ :=
      resize_sgdisk_changed _ _ _ _ _ _ _ _ _ _ changed
    exact ⟨format, listed, named, name, last, worthwhile⟩

theorem Recreated.fits (recreated : Recreated disk request old new) (keeps : Keeps old new)
    (info : Text) : (Outcome.changed old new keeps info).Fits disk := by
  have usable := disk.usable
  have last := recreated.last
  have most := leastFrom_le disk.lastUsable old.pt_end (disk.table.map Entry.start)
  refine ⟨recreated.listed, by omega, ?_⟩
  intro start member behind
  have least := leastFrom_le_of_mem disk.lastUsable old.pt_end start _ member behind
  omega

theorem resize_fits (disk : Disk) (request : Request) : (resize disk request).Fits disk := by
  cases outcome : resize disk request with
  | fail message => exact trivial
  | nochange message => exact trivial
  | changed old new keeps info =>
    cases tool : request.resizer with
    | sfdisk => exact (resize_enlarged tool outcome).fits keeps info
    | sgdisk => exact (resize_recreated tool outcome).fits keeps info

end Changes

section Runs

/-- The table a change that fits leaves, entry by entry. -/
theorem Outcome.keeps {disk : Disk} {outcome : Outcome} (fits : outcome.Fits disk) :
    List.Forall₂ Keeps disk.table (outcome.apply disk.table) := by
  cases outcome with
  | fail message => exact List.forall₂_same.mpr fun entry _ => Keeps.refl entry
  | nochange message => exact List.forall₂_same.mpr fun entry _ => Keeps.refl entry
  | changed old new keeps info =>
    rw [Outcome.apply, List.forall₂_map_right_iff, List.forall₂_same]
    intro entry member
    split
    · rename_i same
      obtain rfl := disk.separate.eq_of_key member fits.1 same
      exact keeps
    · exact Keeps.refl entry

theorem Outcome.separate {disk : Disk} {outcome : Outcome} (fits : outcome.Fits disk) :
    Separate Entry.number Entry.extent (outcome.apply disk.table) := by
  cases outcome with
  | fail message => exact disk.separate
  | nochange message => exact disk.separate
  | changed old new keeps info =>
    obtain ⟨listed, -, clear⟩ := fits
    refine disk.separate.update _ old.number ?_ ?_ ?_
    · intro entry
      split
      · rename_i same
        exact keeps.number.trans same.symm
      · rfl
    · intro entry other
      exact if_neg other
    · intro own ownIn other otherIn named different
      obtain rfl := disk.separate.eq_of_key ownIn listed named
      have apart := disk.separate.apart ownIn otherIn (Ne.symm different)
      rw [if_pos rfl]
      refine apart.grown keeps.start ?_
      intro behind
      have used := own.used
      change own.start + own.size ≤ other.start at behind
      exact clear other.start (List.mem_map_of_mem otherIn) (by unfold Entry.pt_end; omega)

theorem Outcome.inside {disk : Disk} {outcome : Outcome} (fits : outcome.Fits disk) :
    ∀ entry ∈ outcome.apply disk.table, entry.start + entry.size ≤ disk.geometry.sector_num := by
  cases outcome with
  | fail message => exact disk.inside
  | nochange message => exact disk.inside
  | changed old new keeps info =>
    intro entry member
    obtain ⟨before, beforeIn, rfl⟩ := List.mem_map.mp member
    split
    · exact fits.2.1
    · exact disk.inside before beforeIn

/-- The disk behind a change that fits. -/
def Disk.after (disk : Disk) (outcome : Outcome) (fits : outcome.Fits disk) : Disk where
  format := disk.format
  geometry := disk.geometry
  lastUsable := disk.lastUsable
  table := outcome.apply disk.table
  sectors := disk.sectors
  usable := disk.usable
  separate := Outcome.separate fits
  inside := Outcome.inside fits

/-- One run of growpart whose tool does its work. -/
def growpart (disk : Disk) (request : Request) : Option Disk :=
  some (disk.after (resize disk request) (resize_fits disk request))

end Runs

end ImageBuilder.Growpart
