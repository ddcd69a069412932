import ImageBuilder.Numerals

set_option autoImplicit false

/- Block devices and the names the kernel and udev give them below /dev. -/
namespace ImageBuilder.Device

open PlainText Numerals

/-- The letters of a SCSI disk name: `a` in `sda`, `aa` in `sdaa`. -/
structure DiskLetters where
  letters : Text
  nonempty : letters ≠ []
  lower : ∀ c ∈ letters, c.isLower = true
  deriving DecidableEq

inductive Disk
  | sd (letters : DiskLetters)
  | mmcblk (index : Nat)
  | nvme (controller ns : Nat)
  deriving DecidableEq

/-- The kernel's name of a whole disk. -/
def Disk.name : Disk → Text
  | .sd letters => ("sd" : Text) ++ letters.letters
  | .mmcblk index => ("mmcblk" : Text) ++ decimal index
  | .nvme controller ns => ("nvme" : Text) ++ decimal controller ++ 'n' :: decimal ns

theorem Disk.name_sd (letters : DiskLetters) :
    (Disk.sd letters).name = ("sd" : Text) ++ letters.letters := rfl

theorem Disk.name_mmcblk (index : Nat) :
    (Disk.mmcblk index).name = ("mmcblk" : Text) ++ decimal index := rfl

theorem Disk.name_nvme (controller ns : Nat) :
    (Disk.nvme controller ns).name =
      ("nvme" : Text) ++ decimal controller ++ 'n' :: decimal ns := rfl

/-- What stands between the disk's name and the partition number. -/
def Disk.separator : Disk → Text
  | .sd _ => []
  | .mmcblk _ | .nvme _ _ => ['p']

structure Partition where
  disk : Disk
  number : Nat
  deriving DecidableEq

/-- The kernel's name of a partition. -/
def Partition.name (part : Partition) : Text :=
  part.disk.name ++ part.disk.separator ++ decimal part.number

/-- The devices a node can stand for; `other` covers everything that is neither
a disk of the three schemes nor a partition of one. -/
inductive BlockDevice
  | whole (disk : Disk)
  | part (partition : Partition)
  | other (name : Text)
  deriving DecidableEq

/-- The disk whose contents a write to the device changes. -/
def BlockDevice.disk? : BlockDevice → Option Disk
  | .whole disk => some disk
  | .part partition => some partition.disk
  | .other _ => none

inductive Entry
  | directory
  | file
  | node (device : BlockDevice)
  | link (absolute : Bool) (target : List Text)
  deriving DecidableEq

/-- The file tree with the block-device nodes and symbolic links in it, by
absolute path and in the order `ls` prints them. -/
structure DevTree where
  entries : List (List Text × Entry)

def DevTree.find (tree : DevTree) (path : List Text) : Option Entry :=
  tree.entries.lookup path

/-- The components of a path. -/
def components (path : Text) : List Text := path.splitOn '/'

/-- Path resolution: `done` is resolved and a directory, the rest is still to be
walked. Links are followed wherever they stand; only a directory has a rest. -/
def DevTree.walk (tree : DevTree) : Nat → List Text → List Text → Option (List Text)
  | 0, _, _ => none
  | _ + 1, done, [] => some done
  | steps + 1, done, name :: rest =>
      if name = [] ∨ name = ['.'] then tree.walk steps done rest
      else if name = ['.', '.'] then tree.walk steps done.dropLast rest
      else
        match tree.find (done ++ [name]) with
        | none => none
        | some .directory => tree.walk steps (done ++ [name]) rest
        | some (.link true target) => tree.walk steps [] (target ++ rest)
        | some (.link false target) => tree.walk steps done (target ++ rest)
        | some _ => if rest = [] then some (done ++ [name]) else none

/-- The kernel takes paths of at most 4096 bytes and follows at most 40 links. -/
def walkLimit : Nat := 41 * 4096

def DevTree.resolve (tree : DevTree) (path : Text) : Option (List Text) :=
  tree.walk walkLimit [] (components path)

/-- The block device a path leads to. -/
def DevTree.device (tree : DevTree) (path : Text) : Option BlockDevice :=
  match (tree.resolve path).bind tree.find with
  | some (.node device) => some device
  | _ => none

/-- `[[ -e path ]]` -/
def DevTree.exists (tree : DevTree) (path : Text) : Bool := (tree.resolve path).isSome

/-- The names directly below /dev, as a shell pattern sees them. -/
def DevTree.devNames (tree : DevTree) : List Text :=
  tree.entries.filterMap fun entry =>
    match entry.1 with
    | [dev, name] => if dev = ("dev" : Text) then some name else none
    | _ => none

end ImageBuilder.Device
