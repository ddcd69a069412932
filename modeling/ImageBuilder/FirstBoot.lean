import ImageBuilder.DeviceSplit
import ImageBuilder.GrowpartRuns
import ImageBuilder.Shrink

set_option autoImplicit false

/- From the builder to the first boot: the partitions that the image is given, on a
card of any size, when the root partition has been grown on it. -/
namespace ImageBuilder.FirstBoot

open PlainText Numerals Growpart Extents
open Device (rootNumber)

section Layout

/-- The number of a partition on a disk of 512-byte sectors, and its bytes. -/
def span (entry : Entry) : Nat × Nat × Nat :=
  (entry.number, 512 * entry.start, 512 * (entry.start + entry.size))

/-- The image has been written to a card of 512-byte sectors. -/
structure OnCard (extents : List Shrink.Extent) (disk : Disk) : Prop where
  sector_size : disk.geometry.sector_size = 512
  table : disk.table.map span = extents.mapIdx fun i extent => (i + 1, extent.start, extent.stop)

variable {extents front : List Shrink.Extent} {last : Shrink.Extent} {disk : Disk}

/-- Every entry of the card's table is one of the image's extents. -/
theorem OnCard.extent (written : OnCard extents disk) (entry : Entry) (member : entry ∈ disk.table) :
    ∃ extent ∈ extents, 512 * entry.start = extent.start := by
  have place : span entry ∈ disk.table.map span := List.mem_map_of_mem member
  rw [written.table] at place
  obtain ⟨i, inside, same⟩ := List.mem_mapIdx.mp place
  exact ⟨extents[i], List.getElem_mem inside, (congrArg (fun place => place.2.1) same).symm⟩

end Layout

section Last

variable {disk : Disk} {root : Entry}

end Last

section Booted

end Booted

end ImageBuilder.FirstBoot
