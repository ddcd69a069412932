import ImageBuilder.Growpart
import Mathlib.Data.Finset.Card

set_option autoImplicit false

/- What growpart does to a disk over whole runs: what stays, what is left free,
when it stops changing anything, and how its two tools compare. -/
namespace ImageBuilder.Growpart

open PlainText Extents

section Runs

/-- An entry behind some requests: kept, and untouched where none of them names it; and
under its name, if that is none that awk takes for another one, or sgdisk is not asked. -/
structure Frame (requests : List Request) (before after : Entry) : Prop where
  keeps : Keeps before after
  name : (∀ request ∈ requests, request.PART = before.number →
    request.resizer = .sfdisk ∨ renamed before.name = before.name) → after.name = before.name
  untouched : (∀ request ∈ requests, request.PART ≠ before.number) → after = before

theorem Frame.refl (requests : List Request) (entry : Entry) : Frame requests entry entry :=
  ⟨Keeps.refl entry, fun _ => rfl, fun _ => rfl⟩

theorem changed_number (disk : Disk) (request : Request) (old new : Entry) (keeps : Keeps old new)
    (info : Text) (changed : resize disk request = .changed old new keeps info) :
    old.number = request.PART := by
  cases tool : request.resizer with
  | sfdisk => exact (resize_enlarged tool changed).named
  | sgdisk => exact (resize_recreated tool changed).named

theorem changed_name (disk : Disk) (request : Request) (old new : Entry) (keeps : Keeps old new)
    (info : Text) (changed : resize disk request = .changed old new keeps info)
    (spared : request.resizer = .sfdisk ∨ renamed old.name = old.name) : new.name = old.name := by
  cases tool : request.resizer with
  | sfdisk => exact (resize_enlarged tool changed).name
  | sgdisk =>
    rcases spared with other | same
    · rw [tool] at other
      cases other
    · exact (resize_recreated tool changed).name.trans same

theorem growpart_frame (disk next : Disk) (request : Request)
    (stepped : growpart disk request = some next) :
    List.Forall₂ (Frame [request]) disk.table next.table := by
  obtain rfl := Option.some.inj stepped
  have kept := Outcome.keeps (resize_fits disk request)
  change List.Forall₂ (Frame [request]) disk.table ((resize disk request).apply disk.table)
  cases outcome : resize disk request with
  | fail message => exact List.forall₂_same.mpr fun entry _ => Frame.refl _ entry
  | nochange message => exact List.forall₂_same.mpr fun entry _ => Frame.refl _ entry
  | changed old new keeps info =>
    have named := changed_number disk request old new keeps info outcome
    rw [outcome] at kept
    unfold Outcome.apply at kept ⊢
    rw [List.forall₂_map_right_iff, List.forall₂_same] at kept ⊢
    intro entry member
    refine ⟨kept entry member, ?_, ?_⟩
    · intro spared
      split
      · rename_i same
        have fits := resize_fits disk request
        rw [outcome] at fits
        obtain rfl := disk.separate.eq_of_key member fits.1 same
        exact changed_name disk request entry new keeps info outcome
          (spared request List.mem_cons_self named.symm)
      · rfl
    intro others
    have different : entry.number ≠ old.number := by
      rw [named]
      exact Ne.symm (others request List.mem_cons_self)
    exact if_neg different

theorem growpart_geometry (disk next : Disk) (request : Request)
    (stepped : growpart disk request = some next) : next.format = disk.format ∧
      next.geometry = disk.geometry ∧ next.lastUsable = disk.lastUsable := by
  obtain rfl := Option.some.inj stepped
  exact ⟨rfl, rfl, rfl⟩

theorem run_frame (requests : List Request) (disk reached : Disk)
    (arrives : Transition.run growpart disk requests = some reached) :
    List.Forall₂ (Frame requests) disk.table reached.table := by
  induction requests generalizing disk with
  | nil =>
    obtain rfl := Option.some.inj arrives
    exact List.forall₂_same.mpr fun entry _ => Frame.refl _ entry
  | cons request requests ih =>
    obtain ⟨next, stepped, rest⟩ := Option.bind_eq_some_iff.mp arrives
    have first := growpart_frame disk next request stepped
    have later := ih next rest
    -- entry by entry, the first step and then the rest of the run
    refine forall₂_compose ?_ first later
    intro before between after early late
    refine ⟨early.keeps.trans late.keeps, ?_, ?_⟩
    · intro spared
      have firstSame := early.name fun only member => by
        rw [List.mem_singleton.mp member]
        exact spared request List.mem_cons_self
      refine (late.name fun later member named => ?_).trans firstSame
      rw [firstSame]
      exact spared later (List.mem_cons_of_mem request member) (named.trans early.keeps.number)
    intro others
    have unnamed : ∀ later ∈ requests, later.PART ≠ between.number := by
      intro later member
      rw [early.keeps.number]
      exact others later (List.mem_cons_of_mem request member)
    have firstSame := early.untouched fun only member => by
      rw [List.mem_singleton.mp member]
      exact others request List.mem_cons_self
    exact (late.untouched unnamed).trans firstSame

/-- What every run of growpart preserves holds of every disk that runs lead to. -/
theorem run_invariant {invariant : Disk → Prop}
    (preserved : ∀ disk request next, invariant disk → growpart disk request = some next →
      invariant next)
    (requests : List Request) (disk reached : Disk) (initial : invariant disk)
    (arrives : Transition.run growpart disk requests = some reached) : invariant reached := by
  have always : Transition.Keeps growpart (fun _ _ => True) disk requests :=
    Transition.keeps_of_forall requests (fun _ _ _ => trivial) disk
  refine Transition.invariant_run ?_ initial always arrives
  intro before request next holds _ stepped
  exact preserved before request next holds stepped

/-- However often growpart runs, for whichever partitions and by whichever tool:
the partitions stay apart, none moves, shrinks or becomes another one, and those it was
not run for stay as they are. -/
theorem run_safe (requests : List Request) (disk reached : Disk)
    (arrives : Transition.run growpart disk requests = some reached) :
    List.Forall₂ (Frame requests) disk.table reached.table ∧
      (∀ first ∈ reached.table, ∀ second ∈ reached.table, first ≠ second →
        Disjoint first.extent.positions second.extent.positions) ∧
      ∀ entry ∈ reached.table, entry.start + entry.size ≤ disk.geometry.sector_num := by
  refine ⟨run_frame requests disk reached arrives, ?_, ?_⟩
  · intro first firstIn second secondIn different
    exact (apart_iff_disjoint _ _).mp (reached.separate.of_ne firstIn secondIn different).2
  · have same : reached.geometry = disk.geometry := by
      refine @run_invariant (fun after => after.geometry = disk.geometry) ?_ requests disk reached
        rfl arrives
      intro before request next holds stepped
      exact (growpart_geometry before next request stepped).2.1.trans holds
    intro entry member
    have inside := reached.inside entry member
    rwa [same] at inside

/-- A card with a boot and a root partition. -/
def card (format : Format) : Disk where
  format := format
  geometry := ⟨512000000, 512, 1000000⟩
  lastUsable := 999966
  table := [⟨1, 2048, 65536, [], [], [], by decide⟩,
    ⟨2, 67584, 400000, [], ("rootfs" : Text), [], by decide⟩]
  sectors := by decide
  usable := by decide
  separate := List.pairwise_pair.mpr ⟨by decide, Or.inl (by decide)⟩
  inside := List.forall_mem_cons.mpr ⟨by decide, List.forall_mem_singleton.mpr (by decide)⟩

def growRoot (resizer : Resizer) (free_percent : Option Nat) : Request where
  resizer := resizer
  DISK := ("/dev/sda" : Text)
  dpart := ("/dev/sda2" : Text)
  options := { free_percent := free_percent }
  PART := 2

theorem run_safe_card : ∃ reached,
    Transition.run growpart (card .gpt) [growRoot .sgdisk none, growRoot .sfdisk none] =
        some reached ∧
      reached.table.map Entry.size = [65536, 932381] ∧
      reached.table.map Entry.name = [[], ("rootfs" : Text)] ∧
      ∀ entry ∈ reached.table, entry.start + entry.size ≤ 1000000 :=
  ⟨_, rfl, by decide +kernel, by decide +kernel,
    (run_safe [growRoot .sgdisk none, growRoot .sfdisk none] (card .gpt) _ rfl).2.2⟩

end Runs

section Again

theorem starts_after (disk next : Disk) (request : Request)
    (stepped : growpart disk request = some next) :
    next.table.map Entry.start = disk.table.map Entry.start := by
  have kept := growpart_frame disk next request stepped
  generalize disk.table = before at kept
  generalize next.table = after at kept
  induction kept with
  | nil => rfl
  | cons here _ ih => rw [List.map_cons, List.map_cons, here.keeps.start, ih]

theorem growpart_nochange (disk : Disk) (request : Request) (message : Text)
    (refused : resize disk request = .nochange message) : growpart disk request = some disk := by
  have table : (resize disk request).apply disk.table = disk.table := by
    rw [refused]
    rfl
  exact congrArg some (Disk.ext rfl rfl rfl table)

/-- Seen from an end that is not behind the next start, the limit is the same. -/
theorem limit_later (format : Format) (geometry : Geometry) (starts : List Nat)
    (pt_end later : Nat) (percent : Option Nat) (forward : pt_end ≤ later)
    (before : later ≤ leastFrom geometry.sector_num pt_end starts) :
    limit format geometry starts later percent = limit format geometry starts pt_end percent := by
  have least := leastFrom_later geometry.sector_num pt_end later starts forward before
  have same : max_end format geometry starts later = max_end format geometry starts pt_end := by
    unfold max_end
    rw [least]
  unfold limit
  rw [same]

theorem mem_after (disk next : Disk) (request : Request) (old new : Entry) (keeps : Keeps old new)
    (info : Text) (changed : resize disk request = .changed old new keeps info)
    (stepped : growpart disk request = some next) : new ∈ next.table := by
  have fits := resize_fits disk request
  rw [changed] at fits
  obtain rfl := Option.some.inj stepped
  change new ∈ (resize disk request).apply disk.table
  rw [changed]
  refine List.mem_map.mpr ⟨old, fits.1, if_pos rfl⟩

/-- Where the end is the limit, nothing is decided. -/
theorem grown_at_limit (format : Format) (geometry : Geometry) (options : Options)
    (starts : List Nat) (PART pt_start pt_size : Nat)
    (reached : limit format geometry starts (pt_size + pt_start - 1) options.free_percent =
      (pt_size + pt_start - 1 : Nat)) :
    ∃ message, grown format geometry options starts PART pt_start pt_size = .nochange message := by
  unfold grown
  cases percent : options.free_percent with
  | none =>
    rw [percent] at reached
    change max_end _ _ _ _ = _ at reached
    exact ⟨_, if_pos reached.symm⟩
  | some free =>
    rw [percent] at reached
    change reserved _ _ _ _ = _ at reached
    dsimp only
    rw [reached, if_neg (lt_irrefl _)]
    exact ⟨_, if_pos rfl⟩

/-- A partition that sfdisk has grown is as large as it gets: asked again, with
whatever fudge, growpart leaves the disk as it is. -/
theorem growpart_again (disk next : Disk) (request again : Request) (old new : Entry)
    (keeps : Keeps old new) (info : Text) (first : request.resizer = .sfdisk)
    (second : again.resizer = .sfdisk) (part : again.PART = request.PART)
    (percent : again.options.free_percent = request.options.free_percent)
    (changed : resize disk request = .changed old new keeps info)
    (stepped : growpart disk request = some next) : growpart next again = some next := by
  have listed := mem_after disk next request old new keeps info changed stepped
  have starts := starts_after disk next request stepped
  obtain ⟨format, geometry, -⟩ := growpart_geometry disk next request stepped
  have enlarged := resize_enlarged first changed
  have last := enlarged.last
  have larger := enlarged.larger
  have used := new.used
  have least := max_end_lt_least disk.format disk.geometry (disk.table.map Entry.start) old.pt_end
  have most := limit_le disk.format disk.geometry (disk.table.map Entry.start) old.pt_end
    request.options.free_percent disk.sectors
  have forward : old.pt_end ≤ new.pt_end := by
    unfold Entry.pt_end
    have start := keeps.start
    omega
  have before : new.pt_end ≤
      leastFrom disk.geometry.sector_num old.pt_end (disk.table.map Entry.start) := by
    have new_end : new.pt_end = new.size + new.start - 1 := rfl
    omega
  have same := limit_later disk.format disk.geometry (disk.table.map Entry.start) old.pt_end
    new.pt_end request.options.free_percent forward before
  have reached : limit next.format next.geometry (next.table.map Entry.start) new.pt_end
      again.options.free_percent = new.pt_end := by
    rw [format, geometry, starts, percent, same, ← last]
    unfold Entry.pt_end
    omega
  obtain ⟨message, refused⟩ := grown_at_limit next.format next.geometry again.options
    (next.table.map Entry.start) new.number new.start new.size reached
  apply growpart_nochange next again message
  unfold resize
  rw [second, part, ← enlarged.named, ← keeps.number]
  exact resize_sfdisk_nochange again.DISK again.dpart next again.options new message listed refused

theorem growpart_again_card : ∃ next old new, ∃ keeps : Keeps old new, ∃ info,
    resize (card .gpt) (growRoot .sfdisk none) = .changed old new keeps info ∧
      growpart (card .gpt) (growRoot .sfdisk none) = some next ∧
      growpart next (growRoot .sfdisk none) = some next :=
  ⟨_, _, _, _, _, rfl, rfl, growpart_again (card .gpt) _ _ (growRoot .sfdisk none) _ _ _ _ rfl rfl
    rfl rfl rfl rfl⟩

end Again

section Free

variable {disk next : Disk} {request : Request} {old new : Entry} {keeps : Keeps old new}
  {info : Text}

/-- The entries behind a change: the new one, and the others as they were. -/
theorem mem_next (changed : resize disk request = .changed old new keeps info)
    (stepped : growpart disk request = some next) (entry : Entry) (member : entry ∈ next.table) :
    entry = new ∨ entry ∈ disk.table ∧ entry.number ≠ old.number := by
  obtain rfl := Option.some.inj stepped
  change entry ∈ (resize disk request).apply disk.table at member
  rw [changed] at member
  obtain ⟨before, beforeIn, rfl⟩ := List.mem_map.mp member
  split
  · exact Or.inl rfl
  · rename_i other
    exact Or.inr ⟨beforeIn, other⟩

/-- Every entry behind a run was there, or is the changed one. -/
theorem next_cases (stepped : growpart disk request = some next) (entry : Entry)
    (member : entry ∈ next.table) : entry ∈ disk.table ∨
      ∃ old keeps info, resize disk request = .changed old entry keeps info := by
  cases outcome : resize disk request with
  | fail message =>
    obtain rfl := Option.some.inj stepped
    change entry ∈ (resize disk request).apply disk.table at member
    rw [outcome] at member
    exact Or.inl member
  | nochange message =>
    rw [growpart_nochange disk request message outcome] at stepped
    obtain rfl := Option.some.inj stepped
    exact Or.inl member
  | changed old new keeps info =>
    rcases mem_next outcome stepped entry member with rfl | ⟨before, _⟩
    · exact Or.inr ⟨old, keeps, info, rfl⟩
    · exact Or.inl before

end Free

section Encodable

/-- An MBR has 32 bits for the start and 32 for the size. -/
def Entry.Encodable (entry : Entry) : Prop := entry.start < 2 ^ 32 ∧ entry.size < 2 ^ 32

/-- With the master boot record and a gap in front. -/
def Disk.Mbr (disk : Disk) : Prop :=
  disk.format = .dos ∧ disk.geometry.sector_size < 1024 ∧
    ∀ entry ∈ disk.table, 2 ≤ entry.start ∧ entry.Encodable

theorem growpart_mbr (disk next : Disk) (request : Request) (mbr : disk.Mbr)
    (stepped : growpart disk request = some next) : next.Mbr := by
  obtain ⟨dos, sector, fits⟩ := mbr
  obtain ⟨format, geometry, -⟩ := growpart_geometry disk next request stepped
  refine ⟨format.trans dos, by rw [geometry]; exact sector, ?_⟩
  intro entry member
  rcases next_cases stepped entry member with before | ⟨old, keeps, info, changed⟩
  · exact fits entry before
  · cases tool : request.resizer with
    | sgdisk =>
      have gpt := (resize_recreated tool changed).format
      rw [dos] at gpt
      cases gpt
    | sfdisk =>
      have enlarged := resize_enlarged tool changed
      obtain ⟨gap, start, -⟩ := fits old enlarged.listed
      have last := enlarged.last
      have same := keeps.start
      have most := limit_le disk.format disk.geometry (disk.table.map Entry.start) old.pt_end
        request.options.free_percent disk.sectors
      have cap := max_end_le_mbr disk.geometry (disk.table.map Entry.start) old.pt_end
      rw [← dos] at cap
      have one : disk.geometry.sector_size / 512 ≤ 1 := by omega
      have cap' := Nat.mul_le_mul_left mbr_max_512 one
      unfold mbr_max_512 at cap cap'
      unfold Entry.Encodable
      omega

/-- On an MBR disk of 512-byte sectors every size that growpart ever computes
fits into the table. -/
theorem run_mbr (requests : List Request) (disk reached : Disk) (mbr : disk.Mbr)
    (arrives : Transition.run growpart disk requests = some reached) : reached.Mbr := by
  apply run_invariant _ requests disk reached mbr arrives
  intro before request next holds stepped
  exact growpart_mbr before next request holds stepped

theorem run_mbr_card : ∃ reached,
    Transition.run growpart (card .dos) [growRoot .sfdisk (some 10), growRoot .sfdisk none] =
        some reached ∧
      reached.Mbr :=
  ⟨_, rfl, run_mbr [growRoot .sfdisk (some 10), growRoot .sfdisk none] (card .dos) _
    ⟨rfl, by decide, by simp [card, Entry.Encodable]⟩ rfl⟩

end Encodable

section Tools

/-- The partitions end within what the second header leaves usable. -/
def Disk.Gpt (disk : Disk) : Prop :=
  disk.format = .gpt ∧ disk.lastUsable + 34 = disk.geometry.sector_num ∧
    ∀ entry ∈ disk.table, entry.start + entry.size ≤ disk.lastUsable + 1

/-- The next start, looked for up to the end of the disk, against the one looked
for up to the last usable sector. -/
theorem Disk.Gpt.least {disk : Disk} (gpt : disk.Gpt) (pt_end : Nat) :
    leastFrom disk.lastUsable pt_end (disk.table.map Entry.start) =
        leastFrom disk.geometry.sector_num pt_end (disk.table.map Entry.start) ∨
      leastFrom disk.lastUsable pt_end (disk.table.map Entry.start) = disk.lastUsable ∧
        leastFrom disk.geometry.sector_num pt_end (disk.table.map Entry.start) =
          disk.geometry.sector_num := by
  obtain ⟨-, usable, inside⟩ := gpt
  rcases (isLeast_leastFrom disk.geometry.sector_num pt_end (disk.table.map Entry.start)).1 with
    whole | ⟨member, behind⟩
  · right
    refine ⟨?_, whole⟩
    rcases (isLeast_leastFrom disk.lastUsable pt_end (disk.table.map Entry.start)).1 with
      free | ⟨member, behind⟩
    · exact free
    · have bound := leastFrom_le_of_mem disk.geometry.sector_num pt_end _ _ member behind
      have least := leastFrom_le disk.lastUsable pt_end (disk.table.map Entry.start)
      omega
  · left
    obtain ⟨entry, listed, start⟩ := List.mem_map.mp member
    have ends := inside entry listed
    have used := entry.used
    apply le_antisymm
    · exact leastFrom_le_of_mem disk.lastUsable pt_end _ _ member behind
    · rcases (isLeast_leastFrom disk.lastUsable pt_end (disk.table.map Entry.start)).1 with
        free | ⟨member', behind'⟩
      · rw [free, ← start]
        omega
      · exact leastFrom_le_of_mem disk.geometry.sector_num pt_end _ _ member' behind'

theorem growpart_gpt (disk next : Disk) (request : Request) (gpt : disk.Gpt)
    (stepped : growpart disk request = some next) : next.Gpt := by
  have free := gpt.least
  obtain ⟨format, usable, inside⟩ := gpt
  obtain ⟨sameFormat, sameGeometry, sameUsable⟩ := growpart_geometry disk next request stepped
  refine ⟨sameFormat.trans format, by rw [sameUsable, sameGeometry]; exact usable, ?_⟩
  rw [sameUsable]
  intro entry member
  rcases next_cases stepped entry member with before | ⟨old, keeps, info, changed⟩
  · exact inside entry before
  · have bound := leastFrom_le disk.lastUsable old.pt_end (disk.table.map Entry.start)
    cases tool : request.resizer with
    | sgdisk =>
      have last := (resize_recreated tool changed).last
      omega
    | sfdisk =>
      have last := (resize_enlarged tool changed).last
      have most := limit_le disk.format disk.geometry (disk.table.map Entry.start) old.pt_end
        request.options.free_percent disk.sectors
      have cap := max_end_gpt disk.geometry (disk.table.map Entry.start) old.pt_end _ rfl
      rw [← format] at cap
      unfold gpt_second_size at cap
      rcases free old.pt_end with same | ⟨-, whole⟩
      · split at cap <;> omega
      · rw [if_pos (by omega)] at cap
        omega

/-- Neither tool ever lets a partition reach into the second header. -/
theorem run_gpt (requests : List Request) (disk reached : Disk) (gpt : disk.Gpt)
    (arrives : Transition.run growpart disk requests = some reached) : reached.Gpt := by
  apply run_invariant _ requests disk reached gpt arrives
  intro before request next holds stepped
  exact growpart_gpt before next request holds stepped

theorem run_gpt_card : ∃ reached,
    Transition.run growpart (card .gpt) [growRoot .sfdisk (some 10), growRoot .sgdisk none] =
        some reached ∧
      reached.Gpt :=
  ⟨_, rfl, run_gpt [growRoot .sfdisk (some 10), growRoot .sgdisk none] (card .gpt) _
    ⟨rfl, by decide, by simp [card]⟩ rfl⟩

end Tools

end ImageBuilder.Growpart
