import ImageBuilder.DeviceSplit
import ImageBuilder.GrowpartDump

set_option autoImplicit false

/- From the mounted root to its line in the dump: what firstboot passes to growpart,
and the name growpart puts together from it. -/
namespace ImageBuilder.Growpart

open PlainText Numerals Device

def endsInDigit (disk : Text) : Bool := disk.getLast?.any Char.isDigit

/-- `isBlock` is `[ -b ]`. -/
def get_diskpart_path (isBlock : Text → Bool) (disk part : Text) : Text :=
  let dpart := disk ++ ('p' :: part)
  let loop := (after ("/dev/loop" : Text) disk).any fun rest => rest.head?.any Char.isDigit
  if isBlock disk then
    if isBlock dpart && endsInDigit disk then dpart
    else if loop then dpart
    else disk ++ part
  else if endsInDigit disk then dpart
  else disk ++ part

theorem isDigit_of_isLower (c : Char) (lower : c.isLower = true) : c.isDigit = false := by
  have low : 'a'.val ≤ c.val := of_decide_eq_true (Bool.and_eq_true_iff.mp lower).1
  rw [Bool.eq_false_iff]
  intro digit
  have high : c.val ≤ '9'.val := (Char.isDigit_iff_toNat.mp digit).2
  exact absurd (UInt32.le_trans low high) (by decide)

theorem endsInDigit_append (front text : Text) (nonempty : text ≠ []) :
    endsInDigit (front ++ text) = (text.getLast nonempty).isDigit := by
  rw [endsInDigit, List.getLast?_append_of_ne_nil _ nonempty,
    List.getLast?_eq_some_getLast nonempty, Option.any_some]

theorem endsInDigit_decimal (front : Text) (n : Nat) : endsInDigit (front ++ decimal n) = true := by
  rw [endsInDigit_append front _ (decimal_ne_nil n)]
  exact isDigit_of_mem_decimal n _ (List.getLast_mem _)

/-- A disk's name ends in a digit where its partitions have the separator. -/
theorem endsInDigit_name (disk : Device.Disk) :
    endsInDigit (devPath disk.name) = true ↔ disk.Separated := by
  cases disk with
  | sd letters =>
    have last := letters.lower _ (List.getLast_mem letters.nonempty)
    have name : devPath (Device.Disk.sd letters).name = ("/dev/sd" : Text) ++ letters.letters := rfl
    rw [name, endsInDigit_append _ _ letters.nonempty, isDigit_of_isLower _ last]
    exact ⟨fun is => absurd is Bool.false_ne_true, fun is => by cases is⟩
  | mmcblk index =>
    exact iff_of_true (endsInDigit_decimal ("/dev/mmcblk" : Text) index) rfl
  | nvme controller ns =>
    have name : devPath (Device.Disk.nvme controller ns).name =
        (("/dev/nvme" : Text) ++ (decimal controller ++ ['n'])) ++ decimal ns := by
      rw [Device.Disk.name_nvme, List.append_cons]
      rfl
    have digit := endsInDigit_decimal (("/dev/nvme" : Text) ++ (decimal controller ++ ['n'])) ns
    exact iff_of_true (name ▸ digit) rfl

theorem devPath_partition (disk : Device.Disk) (number : Nat) :
    devPath (Partition.name ⟨disk, number⟩) =
      devPath disk.name ++ (disk.separator ++ decimal number) := by
  rw [devPath, devPath, Partition.name, List.append_assoc, List.append_assoc]

/-- For the disks of the kernel it is the kernel's name. -/
theorem get_diskpart_path_eq (isBlock : Text → Bool) (disk : Device.Disk) (number : Nat)
    (whole : isBlock (devPath disk.name) = true)
    (node : isBlock (devPath (Partition.name ⟨disk, number⟩)) = true) :
    get_diskpart_path isBlock (devPath disk.name) (decimal number) =
      devPath (Partition.name ⟨disk, number⟩) := by
  rw [devPath_partition] at node ⊢
  unfold get_diskpart_path
  dsimp only
  rw [if_pos whole]
  rcases disk.separated_or with separated | ⟨letters, rfl⟩
  · rw [separated] at node ⊢
    have digit := (endsInDigit_name disk).mpr separated
    rw [digit, Bool.and_true]
    exact if_pos node
  · have digit : endsInDigit (devPath (Device.Disk.sd letters).name) = false := by
      rw [← Bool.not_eq_true, endsInDigit_name]
      intro separated
      cases separated
    rw [digit, Bool.and_false]
    rfl

/-- The characters device paths are made of. -/
def isPathChar (c : Char) : Bool := c.isLower || c.isDigit || c == '/'

theorem isPathChar_decimal (n : Nat) : (decimal n).all isPathChar = true := by
  rw [List.all_eq_true]
  intro c member
  simp [isPathChar, isDigit_of_mem_decimal n c member]

theorem isPathChar_devPath (disk : Device.Disk) (number : Nat) :
    (devPath (Partition.name ⟨disk, number⟩)).all isPathChar = true := by
  have dev : ("/dev/" : Text).all isPathChar = true := by decide
  have separator : disk.separator.all isPathChar = true := by
    cases disk <;> rfl
  have name : disk.name.all isPathChar = true := by
    cases disk with
    | sd letters =>
      have sd : ("sd" : Text).all isPathChar = true := by decide
      have lower : letters.letters.all isPathChar = true := by
        rw [List.all_eq_true]
        intro c member
        simp [isPathChar, letters.lower c member]
      rw [Device.Disk.name_sd, List.all_append, sd, lower, Bool.and_self]
    | mmcblk index =>
      have mmcblk : ("mmcblk" : Text).all isPathChar = true := by decide
      rw [Device.Disk.name_mmcblk, List.all_append, mmcblk, isPathChar_decimal, Bool.and_self]
    | nvme controller ns =>
      have nvme : ("nvme" : Text).all isPathChar = true := by decide
      have n : isPathChar 'n' = true := by decide
      rw [Device.Disk.name_nvme, List.all_append, List.all_append, List.all_cons, nvme, n,
        isPathChar_decimal, isPathChar_decimal, Bool.and_self, Bool.and_self]
  rw [devPath, Partition.name, List.all_append, List.all_append, List.all_append, dev, name,
    separator, isPathChar_decimal, Bool.and_self, Bool.and_self, Bool.and_self]

theorem not_mem_devPath (disk : Device.Disk) (number : Nat) (c : Char)
    (outside : isPathChar c = false) : c ∉ devPath (Partition.name ⟨disk, number⟩) := by
  intro member
  have inside := List.all_eq_true.mp (isPathChar_devPath disk number) c member
  rw [outside] at inside
  cases inside

/-- The kernel's names of the partitions of a disk. -/
def Naming.ofDisk (disk : Device.Disk) (label : Label) : Naming where
  name n := devPath (Partition.name ⟨disk, n⟩)
  label := label
  solid n := solid_of_not_mem _ (not_mem_devPath disk n ' ' (by decide))
    (not_mem_devPath disk n '\t' (by decide)) (not_mem_devPath disk n '\n' (by decide))
  equals n := not_mem_devPath disk n '=' (by decide)
  comma n := not_mem_devPath disk n ',' (by decide)
  rooted _ := rfl
  injective := by
    intro first second same
    dsimp only at same
    rw [devPath_partition, devPath_partition, ← List.append_assoc, ← List.append_assoc] at same
    exact decimal_injective first second (List.append_cancel_left same)

/-- growpart as firstboot runs it: on the dump of the disk that the root is on. -/
def firstboot_growpart (isBlock : Text → Bool) (SOURCE : Text) (format : Format)
    (geometry : Geometry) (dump_out : List Text) : Option Script :=
  let run := firstboot SOURCE
  (number? run.PART).map fun PART =>
    resize_sfdisk_script run.NODE (get_diskpart_path isBlock run.NODE run.PART) format geometry {}
      PART dump_out

/-- On whichever disk the root is, growpart started for it decides about the root's
line, and if it writes, the dump it writes is that of the table with the root grown:
no other partition is another one, unless the old size comes again in the root's own
line. -/
theorem firstboot_grows_root (isBlock : Text → Bool) (device : Device.Disk) (number : Nat)
    (single : number < 10) (whole : isBlock (devPath device.name) = true)
    (node : isBlock (devPath (Partition.name ⟨device, number⟩)) = true) (disk : Disk)
    (label : Label) (headers : List Header) (rows : List Row)
    (listed : rows.map Row.entry = disk.table) :
    ∃ script, firstboot_growpart isBlock (devPath (Partition.name ⟨device, number⟩)) disk.format
        disk.geometry (dump (Naming.ofDisk device label) headers rows) = some script ∧
      script.Does disk (Naming.ofDisk device label) headers
        (resize_sfdisk (devPath device.name) (devPath (Partition.name ⟨device, number⟩))
          disk.format disk.geometry {} disk.table number) := by
  unfold firstboot_growpart
  rw [firstboot_eq device number single]
  dsimp only
  rw [number?_decimal, get_diskpart_path_eq isBlock device number whole node]
  exact ⟨_, rfl, script_does disk headers rows listed _ {} number⟩

/-- The root partition of a card, as sfdisk lists it. -/
def rootRow : Row where
  entry := ⟨2, 67584, 300000, (", type=83" : Text), [], [], by decide⟩
  startBlanks := 7
  sizeBlanks := 6
  typed := by decide

def rootCard : Disk where
  format := .dos
  geometry := ⟨1024000000, 512, 2000000⟩
  lastUsable := 1999999
  table := [rootRow.entry]
  sectors := by decide
  usable := by decide
  separate := List.pairwise_singleton _ _
  inside := by simp [rootRow]

theorem firstboot_grows_root_card : ∃ rows info,
    firstboot_growpart (fun _ => true) ("/dev/mmcblk0p2" : Text) .dos ⟨1024000000, 512, 2000000⟩
        [("/dev/mmcblk0p2 : start=       67584, size=      300000, type=83" : Text)] =
      some (.write (dump (Naming.ofDisk (.mmcblk 0) ⟨id, rfl⟩) [] rows) info) ∧
      rows.map (fun row => row.entry.place) = [(2, 67584, 1932383)] := by
  obtain ⟨script, run, rows, rfl, once, -⟩ := firstboot_grows_root (fun _ => true) (.mmcblk 0) 2
    (by decide) rfl rfl rootCard ⟨id, rfl⟩ [] [rootRow] rfl
  refine ⟨rows, _, run, ?_⟩
  have entries := congrArg (List.map Entry.place) (once (by decide))
  rw [List.map_map] at entries
  exact entries

end ImageBuilder.Growpart
