import ImageBuilder.Medium
import ImageBuilder.Numerals
import ImageBuilder.Transition

set_option autoImplicit false

/- The SPI updates of the spacemit boards: k1-spi.cmd and k3-spi.cmd, boot after
boot, and the partition tables that are staged beside them. -/
namespace ImageBuilder.SpiUpdate

open PlainText Numerals Medium

inductive Series
  | k1
  | k3
  deriving DecidableEq

/-- A file of the medium and where `sf update` puts it. -/
structure Component where
  file : Text
  offset : Text
  deriving DecidableEq

def k1_spi : List Component :=
  [⟨"bootinfo_spinor.bin", "0x0"⟩,
    ⟨"FSBL.bin", "0x20000"⟩,
    ⟨"u-boot-env-default.bin", "0x60000"⟩,
    ⟨"fw_dynamic.bin", "0x70000"⟩,
    ⟨"u-boot.bin", "0xA0000"⟩]

def k3_spi : List Component :=
  [⟨"bootinfo_spinor.bin", "0x0"⟩,
    ⟨"FSBL.bin", "0x20000"⟩,
    ⟨"u-boot-env-default.bin", "0xA0000"⟩,
    ⟨"esos.bin", "0xB0000"⟩,
    ⟨"fw_dynamic.bin", "0x1B0000"⟩,
    ⟨"u-boot.bin", "0x210000"⟩]

/-- The components, in the order of the script. -/
def components : Series → List Component
  | .k1 => k1_spi
  | .k3 => k3_spi

/-- The number a numeral behind 0x stands for. -/
def Component.start (component : Component) : Nat :=
  unhex ((component.offset.drop 2).map Char.toLower)

section Script

/-- `${devtype} ${devnum}:${distro_bootpart}` -/
def device : Series → (product_name : Text) → Text
  | .k1, product_name => if product_name = ("k1-x_MUSE-Book" : Text) then "mmc 0:1" else "usb 0:1"
  | .k3, _ => "usb 0:1"

def flash_done : Text := "flash_done.txt"

/-- How an sf update ends; one that fails can leave anything where it was to write. -/
inductive Update
  | written
  | failed (left : Nat → UInt8)

/-- What one boot meets with. -/
structure Outcomes where
  readable : Text → Bool
  probe : Bool
  update : Text → Update
  fatwrite : Bool
  ext4write : Bool

/-- What one boot has done: the offsets that were written without a failure, whether it
left the marker, and whether it ended in the reset. -/
structure Report where
  updated : List Text
  marked : Bool
  reset : Bool

structure State where
  files : (device file : Text) → Option Bytes
  /-- The filesize bytes at loadaddr. -/
  memory : Bytes
  flash : Contents Unit
  /-- The offsets written in this boot. -/
  updated : List Text
  reports : List Report

/-- `load device ${loadaddr} file` -/
def load (met : Outcomes) (device file : Text) (s : State) : Bool × State :=
  match if met.readable file then s.files device file else none with
  | some image => (true, { s with memory := image })
  | none => (false, s)

/-- `sf update ${loadaddr} offset ${filesize}` -/
def sf_update (met : Outcomes) (component : Component) (s : State) : Bool × State :=
  match met.update component.offset with
  | .written =>
    (true, { s with
      flash := applyWrite s.flash ⟨(), component.start, s.memory⟩
      updated := s.updated ++ [component.offset] })
  | .failed left =>
    (false, { s with
      flash := fun area i =>
        if component.start ≤ i ∧ i < component.start + s.memory.length then left i
        else s.flash area i })

/-- `if load ..; then sf update ..; fi` -/
def flashComponent (met : Outcomes) (device : Text) (s : State) (component : Component) : State :=
  match load met device component.file s with
  | (true, loaded) => (sf_update met component loaded).2
  | (false, s) => s

/-- `mw.b ${loadaddr} 0x59 4` -/
def mw_b (s : State) : State :=
  { s with memory := [0x59, 0x59, 0x59, 0x59] ++ s.memory.drop 4 }

/-- fatwrite, or else ext4write, or else a warning. -/
def writeMarker (met : Outcomes) (device : Text) (s : State) : Bool × State :=
  let written : State :=
    { s with files := fun on file =>
        if on = device ∧ file = flash_done then some (s.memory.take 4) else s.files on file }
  if met.fatwrite then (true, written)
  else if met.ext4write then (true, written)
  else (false, s)

def report (marked reset : Bool) (s : State) : State :=
  { s with reports := s.reports ++ [⟨s.updated, marked, reset⟩] }

/-- One boot of the script. -/
def boot (series : Series) (product_name : Text) (met : Outcomes) (before : State) : State :=
  let device := device series product_name
  match load met device flash_done { before with updated := [] } with
  | (true, s) => report false false s
  | (false, s) =>
    if met.probe then
      match writeMarker met device (mw_b ((components series).foldl (flashComponent met device) s)) with
      | (marked, s) => report marked true s
    else report false false s

/-- Every boot ends somewhere. -/
def step (series : Series) (product_name : Text) (before : State) (met : Outcomes) : Option State :=
  some (boot series product_name met before)

end Script

section Marker

/-- The marker and the reset come only behind a complete sequence. -/
def Report.Honest (series : Series) (r : Report) : Prop :=
  r.marked = true ∨ r.reset = true → ∀ component ∈ components series, component.offset ∈ r.updated

/-- The image is in the flash. -/
def InFlash (s : State) (device : Text) (component : Component) : Prop :=
  ∃ image, s.files device component.file = some image ∧
    ∀ (i : Nat) (inside : i < image.length), s.flash () (component.start + i) = image[i]

/-- The marker is there only with all components in the flash, and no boot has set it or
ended in the reset without having written them. -/
structure Sound (series : Series) (device : Text) (s : State) : Prop where
  marker : (s.files device flash_done).isSome = true →
    ∀ component ∈ components series, InFlash s device component
  reports : ∀ r ∈ s.reports, r.Honest series

def Update.isWritten : Update → Bool
  | .written => true
  | .failed _ => false

/-- The file is there and can be read, and its update does not fail. -/
def Component.works (met : Outcomes) (device : Text) (s : State) (component : Component) : Bool :=
  met.readable component.file && (s.files device component.file).isSome &&
    (met.update component.offset).isWritten

/-- The boot gets to the first component. -/
def Attempts (device : Text) (s : State) (met : Outcomes) : Prop :=
  (met.readable flash_done && (s.files device flash_done).isSome) = false ∧ met.probe = true

instance (device : Text) (s : State) (met : Outcomes) : Decidable (Attempts device s met) :=
  inferInstanceAs (Decidable (_ ∧ _))

def image (s : State) (device : Text) (component : Component) : Bytes :=
  (s.files device component.file).getD []

/-- No image reaches the next component. -/
def Apart (series : Series) (device : Text) (s : State) : Prop :=
  (components series).Pairwise fun component later =>
    component.start + (image s device component).length ≤ later.start

instance (series : Series) (device : Text) (s : State) : Decidable (Apart series device s) :=
  inferInstanceAs (Decidable (List.Pairwise _ _))

/-- A boot that gets to flashing fails nowhere and lets no image eat another. -/
def Completes (series : Series) (device : Text) (s : State) (met : Outcomes) : Prop :=
  Attempts device s met →
    (∀ component ∈ components series, component.works met device s = true) ∧
      Apart series device s

instance (series : Series) (device : Text) (s : State) (met : Outcomes) :
    Decidable (Completes series device s met) :=
  inferInstanceAs (Decidable (_ → _))

theorem load_readable {met : Outcomes} {device file : Text} {s : State} {contents : Bytes}
    (readable : met.readable file = true) (there : s.files device file = some contents) :
    load met device file s = (true, { s with memory := contents }) := by
  rw [load, if_pos readable, there]

theorem load_unreadable {met : Outcomes} {device file : Text} {s : State}
    (missing : (met.readable file && (s.files device file).isSome) = false) :
    load met device file s = (false, s) := by
  unfold load
  cases readable : met.readable file with
  | false => rfl
  | true =>
    rw [readable, Bool.true_and, Option.isSome_eq_false_iff, Option.isNone_iff_eq_none] at missing
    rw [if_pos rfl, missing]

theorem sf_update_written {met : Outcomes} {component : Component} (s : State)
    (written : (met.update component.offset).isWritten = true) :
    sf_update met component s = (true, { s with
      flash := applyWrite s.flash ⟨(), component.start, s.memory⟩
      updated := s.updated ++ [component.offset] }) := by
  unfold sf_update
  cases update : met.update component.offset with
  | written => rfl
  | failed left =>
    rw [update] at written
    nomatch written

/-- A component that works is written, and recorded. -/
theorem flashComponent_works {met : Outcomes} {device : Text} {s : State} {component : Component}
    (works : component.works met device s = true) :
    flashComponent met device s component =
      { s with
        memory := image s device component
        flash := applyWrite s.flash ⟨(), component.start, image s device component⟩
        updated := s.updated ++ [component.offset] } := by
  rw [Component.works, Bool.and_eq_true, Bool.and_eq_true] at works
  obtain ⟨⟨readable, there⟩, written⟩ := works
  obtain ⟨contents, is⟩ := Option.isSome_iff_exists.mp there
  have loaded : image s device component = contents := by
    rw [image, is, Option.getD_some]
  rw [flashComponent, load_readable readable is, loaded]
  exact congrArg Prod.snd (sf_update_written _ written)

/-- No component changes the files or the reports. -/
theorem flashComponent_frame (met : Outcomes) (device : Text) (s : State) (component : Component) :
    (flashComponent met device s component).files = s.files ∧
      (flashComponent met device s component).reports = s.reports := by
  unfold flashComponent load
  cases if met.readable component.file then s.files device component.file else none with
  | none => exact ⟨rfl, rfl⟩
  | some contents =>
    unfold sf_update
    cases met.update component.offset with
    | written => exact ⟨rfl, rfl⟩
    | failed left => exact ⟨rfl, rfl⟩

/-- One that does not work is not recorded. -/
theorem flashComponent_fails {met : Outcomes} {device : Text} {s : State} {component : Component}
    (fails : component.works met device s = false) :
    (flashComponent met device s component).updated = s.updated := by
  unfold flashComponent
  cases readable : met.readable component.file && (s.files device component.file).isSome with
  | false =>
    rw [load_unreadable readable]
  | true =>
    have unwritten : (met.update component.offset).isWritten = false := by
      rw [Component.works, readable, Bool.true_and] at fails
      exact fails
    rw [Bool.and_eq_true] at readable
    obtain ⟨contents, is⟩ := Option.isSome_iff_exists.mp readable.2
    rw [load_readable readable.1 is]
    unfold sf_update
    cases update : met.update component.offset with
    | written =>
      rw [update] at unwritten
      nomatch unwritten
    | failed left => rfl

section Sequence

variable (met : Outcomes) (device : Text)

theorem works_congr (s other : State) (component : Component) (same : other.files = s.files) :
    component.works met device other = component.works met device s := by
  unfold Component.works
  rw [same]

theorem sequence_frame (sequence : List Component) (s : State) :
    (sequence.foldl (flashComponent met device) s).files = s.files ∧
      (sequence.foldl (flashComponent met device) s).reports = s.reports := by
  induction sequence generalizing s with
  | nil => exact ⟨rfl, rfl⟩
  | cons component rest ih =>
    obtain ⟨files, reports⟩ := flashComponent_frame met device s component
    rw [List.foldl_cons, (ih _).1, (ih _).2]
    exact ⟨files, reports⟩

/-- A sequence records the components that work. -/
theorem sequence_updated (sequence : List Component) (s : State) :
    (sequence.foldl (flashComponent met device) s).updated =
      s.updated ++ (sequence.filter (·.works met device s)).map Component.offset := by
  induction sequence generalizing s with
  | nil => exact (List.append_nil _).symm
  | cons component rest ih =>
    have files := (flashComponent_frame met device s component).1
    have same : rest.filter (·.works met device (flashComponent met device s component)) =
        rest.filter (·.works met device s) :=
      List.filter_congr fun each _ => works_congr met device s _ each files
    rw [List.foldl_cons, ih, same]
    cases works : component.works met device s with
    | true =>
      rw [flashComponent_works works, List.filter_cons_of_pos works, List.map_cons]
      exact List.append_assoc _ _ _
    | false =>
      rw [flashComponent_fails works, List.filter_cons_of_neg (by rw [works]; exact Bool.false_ne_true)]

/-- The writes of a sequence. -/
def updates (images : Component → Bytes) (sequence : List Component) : List (Write Unit) :=
  sequence.map fun component => ⟨(), component.start, images component⟩

/-- A sequence in which everything works writes every image. -/
theorem sequence_flash (sequence : List Component) (s : State)
    (works : ∀ component ∈ sequence, component.works met device s = true) :
    (sequence.foldl (flashComponent met device) s).flash =
      applyAll s.flash (updates (image s device) sequence) := by
  induction sequence generalizing s with
  | nil => rfl
  | cons component rest ih =>
    rw [List.forall_mem_cons] at works
    have files := (flashComponent_frame met device s component).1
    have images : image (flashComponent met device s component) device = image s device := by
      funext each
      rw [image, image, files]
    rw [List.foldl_cons, ih, images, flashComponent_works works.1]
    · rfl
    · intro each member
      rw [works_congr met device s _ each files]
      exact works.2 each member

end Sequence

/-- The images of a sequence in which none reaches the next are all left whole. -/
theorem intact_of_apart (before : Contents Unit) (images : Component → Bytes)
    (sequence : List Component)
    (apart : sequence.Pairwise fun component later =>
      component.start + (images component).length ≤ later.start)
    (component : Component) (member : component ∈ sequence) (i : Nat)
    (inside : i < (images component).length) :
    applyAll before (updates images sequence) () (component.start + i) =
      (images component)[i] := by
  have ascending : (updates images sequence).Pairwise fun write later =>
      write.offset + write.bytes.length ≤ later.offset := List.pairwise_map.mpr apart
  have listed : (⟨(), component.start, images component⟩ : Write Unit) ∈ updates images sequence :=
    List.mem_map.mpr ⟨component, member, rfl⟩
  exact applyAll_ascending before _ ascending _ listed i inside

section Boot

variable (series : Series) (product_name : Text) (met : Outcomes) (before : State)

/-- The state behind the last component. -/
def flashed : State :=
  (components series).foldl (flashComponent met (device series product_name))
    { before with updated := [] }

/-- A boot that does not get to the first component changes nothing. -/
theorem boot_skips (skips : ¬ Attempts (device series product_name) before met) :
    (boot series product_name met before).files = before.files ∧
      (boot series product_name met before).flash = before.flash ∧
      (boot series product_name met before).reports = before.reports ++ [⟨[], false, false⟩] := by
  unfold boot
  dsimp only
  cases marked : met.readable flash_done &&
      (before.files (device series product_name) flash_done).isSome with
  | true =>
    rw [Bool.and_eq_true] at marked
    obtain ⟨contents, is⟩ := Option.isSome_iff_exists.mp marked.2
    have found : load met (device series product_name) flash_done { before with updated := [] } =
        (true, { before with updated := [], memory := contents }) := load_readable marked.1 is
    rw [found]
    exact ⟨rfl, rfl, rfl⟩
  | false =>
    have unprobed : ¬ met.probe = true := fun probed => skips ⟨marked, probed⟩
    have missing : load met (device series product_name) flash_done { before with updated := [] } =
        (false, { before with updated := [] }) := load_unreadable marked
    rw [missing]
    dsimp only
    rw [if_neg unprobed]
    exact ⟨rfl, rfl, rfl⟩

/-- What a boot leaves that gets there. -/
theorem boot_attempts (attempts : Attempts (device series product_name) before met) :
    boot series product_name met before =
      report (met.fatwrite || met.ext4write) true
        (writeMarker met (device series product_name)
          (mw_b (flashed series product_name met before))).2 := by
  obtain ⟨unmarked, probed⟩ := attempts
  have missing : load met (device series product_name) flash_done { before with updated := [] } =
      (false, { before with updated := [] }) := load_unreadable unmarked
  unfold boot
  dsimp only
  rw [missing]
  dsimp only
  rw [if_pos probed]
  unfold writeMarker flashed
  cases met.fatwrite with
  | true => rfl
  | false =>
    cases met.ext4write with
    | true => rfl
    | false => rfl

theorem writeMarker_frame (on : Text) (s : State) :
    (writeMarker met on s).2.flash = s.flash ∧ (writeMarker met on s).2.reports = s.reports ∧
      (writeMarker met on s).2.updated = s.updated ∧
      ∀ other file, file ≠ flash_done → (writeMarker met on s).2.files other file = s.files other file := by
  unfold writeMarker
  have kept (other file : Text) (differs : file ≠ flash_done) :
      (if other = on ∧ file = flash_done then some (s.memory.take 4) else s.files other file) =
        s.files other file := if_neg fun both => differs both.2
  cases met.fatwrite with
  | true => exact ⟨rfl, rfl, rfl, kept⟩
  | false =>
    cases met.ext4write with
    | true => exact ⟨rfl, rfl, rfl, kept⟩
    | false => exact ⟨rfl, rfl, rfl, fun _ _ _ => rfl⟩

/-- The report of a boot that gets to the first component. -/
theorem boot_reports (attempts : Attempts (device series product_name) before met) :
    (boot series product_name met before).reports = before.reports ++
      [⟨((components series).filter (·.works met (device series product_name) before)).map
        Component.offset, met.fatwrite || met.ext4write, true⟩] := by
  obtain ⟨_, reports, updated, _⟩ := writeMarker_frame met (device series product_name)
    (mw_b (flashed series product_name met before))
  rw [boot_attempts series product_name met before attempts, report, reports, updated]
  have files := (sequence_frame met (device series product_name) (components series)
    { before with updated := [] }).2
  have recorded := sequence_updated met (device series product_name) (components series)
    { before with updated := [] }
  show (flashed series product_name met before).reports ++
    [⟨(flashed series product_name met before).updated, _, _⟩] = _
  rw [flashed, files, recorded, List.nil_append]
  rfl

theorem offset_injective : ∀ one ∈ components series, ∀ two ∈ components series,
    one.offset = two.offset → one = two := by
  cases series with
  | k1 => decide +kernel
  | k3 => decide +kernel

theorem file_ne_flash_done : ∀ component ∈ components series, component.file ≠ flash_done := by
  cases series with
  | k1 => decide +kernel
  | k3 => decide +kernel

/-- A boot sets the marker and resets without a complete sequence just when something of
the sequence has failed. -/
theorem boot_honest_iff (r : Report)
    (last : (boot series product_name met before).reports = before.reports ++ [r]) :
    r.Honest series ↔ (Attempts (device series product_name) before met →
      ∀ component ∈ components series,
        component.works met (device series product_name) before = true) := by
  by_cases attempts : Attempts (device series product_name) before met
  · rw [boot_reports series product_name met before attempts, List.append_cancel_left_eq,
      List.singleton_inj] at last
    rw [← last, forall_prop_of_true attempts]
    constructor
    · intro honest component member
      obtain ⟨other, listed, same⟩ := List.mem_map.mp (honest (Or.inr rfl) component member)
      obtain ⟨inside, works⟩ := List.mem_filter.mp listed
      rw [← offset_injective series other inside component member same]
      exact works
    · intro works _ component member
      exact List.mem_map.mpr ⟨component, List.mem_filter.mpr ⟨member, works component member⟩, rfl⟩
  · obtain ⟨_, _, reports⟩ := boot_skips series product_name met before attempts
    rw [reports, List.append_cancel_left_eq, List.singleton_inj] at last
    rw [← last]
    refine iff_of_true ?_ fun reached => absurd reached attempts
    intro ends
    rcases ends with marked | reset
    · nomatch marked
    · nomatch reset

/-- A complete boot makes every update of its sequence. -/
theorem boot_flash (attempts : Attempts (device series product_name) before met)
    (works : ∀ component ∈ components series,
      component.works met (device series product_name) before = true) :
    (boot series product_name met before).flash =
      applyAll before.flash
        (updates (image before (device series product_name)) (components series)) := by
  obtain ⟨flash, _, _, _⟩ := writeMarker_frame met (device series product_name)
    (mw_b (flashed series product_name met before))
  rw [boot_attempts series product_name met before attempts]
  show (writeMarker _ _ _).2.flash = _
  rw [flash]
  show (flashed series product_name met before).flash = _
  exact sequence_flash met (device series product_name) (components series)
    { before with updated := [] } works

/-- A complete boot leaves every component in the flash. -/
theorem boot_flashes (attempts : Attempts (device series product_name) before met)
    (works : ∀ component ∈ components series,
      component.works met (device series product_name) before = true)
    (apart : Apart series (device series product_name) before) :
    ∀ component ∈ components series,
      InFlash (boot series product_name met before) (device series product_name) component := by
  intro component member
  obtain ⟨_, _, _, files⟩ := writeMarker_frame met (device series product_name)
    (mw_b (flashed series product_name met before))
  have frame := (sequence_frame met (device series product_name) (components series)
    { before with updated := [] }).1
  have there := works component member
  rw [Component.works, Bool.and_eq_true, Bool.and_eq_true] at there
  obtain ⟨contents, is⟩ := Option.isSome_iff_exists.mp there.1.2
  refine ⟨contents, ?_, fun i inside => ?_⟩
  · rw [boot_attempts series product_name met before attempts]
    show (writeMarker _ _ _).2.files _ _ = _
    rw [files _ _ (file_ne_flash_done series component member)]
    show (flashed series product_name met before).files _ _ = _
    rw [flashed, frame]
    exact is
  · have images : image before (device series product_name) component = contents := by
      rw [image, is, Option.getD_some]
    have intact := intact_of_apart before.flash (image before (device series product_name))
      (components series) apart component member
    simp only [images] at intact
    rw [boot_flash series product_name met before attempts works]
    exact intact i inside

end Boot

/-- One boot keeps the marker true. -/
theorem boot_sound (series : Series) (product_name : Text) (met : Outcomes) (before : State)
    (sound : Sound series (device series product_name) before)
    (completes : Completes series (device series product_name) before met) :
    Sound series (device series product_name) (boot series product_name met before) := by
  have honest (r : Report)
      (last : (boot series product_name met before).reports = before.reports ++ [r]) :
      ∀ each ∈ (boot series product_name met before).reports, each.Honest series := by
    intro each member
    rw [last] at member
    rcases List.mem_append.mp member with earlier | this
    · exact sound.reports each earlier
    · rw [List.mem_singleton.mp this]
      exact (boot_honest_iff series product_name met before r last).mpr
        fun attempts => (completes attempts).1
  by_cases attempts : Attempts (device series product_name) before met
  · obtain ⟨works, apart⟩ := completes attempts
    exact ⟨fun _ => boot_flashes series product_name met before attempts works apart,
      honest _ (boot_reports series product_name met before attempts)⟩
  · obtain ⟨files, flash, reports⟩ := boot_skips series product_name met before attempts
    refine ⟨fun marked component member => ?_, honest _ reports⟩
    rw [files] at marked
    obtain ⟨contents, is, intact⟩ := sound.marker marked component member
    refine ⟨contents, ?_, ?_⟩
    · rw [files]
      exact is
    · rw [flash]
      exact intact

/-- A medium that has never been booted from. -/
structure Fresh (device : Text) (s : State) : Prop where
  unmarked : s.files device flash_done = none
  unused : s.reports = []

/-- Over any number of boots that fail nowhere once they have begun, the marker and the
reset come only behind a complete sequence, and the marker never stands beside a component
that is missing. -/
theorem marked_only_when_done (series : Series) (product_name : Text) (start reached : State)
    (boots : List Outcomes) (fresh : Fresh (device series product_name) start)
    (keeps : Transition.Keeps (step series product_name)
      (Completes series (device series product_name)) start boots)
    (arrives : Transition.run (step series product_name) start boots = some reached) :
    Sound series (device series product_name) reached := by
  have initial : Sound series (device series product_name) start := by
    refine ⟨fun marked => ?_, fun r member => ?_⟩
    · rw [fresh.unmarked] at marked
      nomatch marked
    · rw [fresh.unused] at member
      nomatch member
  refine Transition.invariant_run ?_ initial keeps arrives
  intro before met after sound completes steps
  rw [← Option.some.inj steps]
  exact boot_sound series product_name met before sound completes

/-- A medium with the five files. -/
def staged : State where
  files _ file := if file ∈ k1_spi.map Component.file then some [0x13] else none
  memory := []
  flash _ _ := 0xFF
  updated := []
  reports := []

def good : Outcomes := ⟨fun _ => true, true, fun _ => .written, true, false⟩

theorem marked_only_when_done_staged : ∃ reached,
    Transition.run (step .k1 "k1-x_deb1") staged [{ good with probe := false }, good] =
        some reached ∧
      (reached.files (device .k1 "k1-x_deb1") flash_done).isSome = true ∧
      Sound .k1 (device .k1 "k1-x_deb1") reached :=
  ⟨_, rfl, by decide +kernel,
    marked_only_when_done .k1 "k1-x_deb1" staged _ [{ good with probe := false }, good] ⟨rfl, rfl⟩
      (by decide +kernel) rfl⟩

/-- The last update fails, and the marker is set beside it. -/
theorem marked_without_uboot : ¬ ∀ (series : Series) (product_name : Text)
    (start reached : State) (boots : List Outcomes), Fresh (device series product_name) start →
    Transition.run (step series product_name) start boots = some reached →
    Sound series (device series product_name) reached := by
  intro always
  let met : Outcomes := { good with
    update := fun offset => if offset = "0xA0000".toList then .failed fun _ => 0xFF else .written }
  have sound : Sound .k1 (device .k1 "k1-x_deb1") (boot .k1 "k1-x_deb1" met staged) :=
    always .k1 "k1-x_deb1" staged _ [met] ⟨rfl, rfl⟩ rfl
  have marked : ((boot .k1 "k1-x_deb1" met staged).files (device .k1 "k1-x_deb1")
      flash_done).isSome = true := by
    decide +kernel
  have listed : (⟨"u-boot.bin", "0xA0000"⟩ : Component) ∈ components .k1 := by decide +kernel
  obtain ⟨contents, is, intact⟩ := sound.marker marked _ listed
  have there : (boot .k1 "k1-x_deb1" met staged).files (device .k1 "k1-x_deb1") "u-boot.bin" =
      some [0x13] := by
    decide +kernel
  obtain rfl := Option.some.inj (is.symm.trans there)
  have empty : (boot .k1 "k1-x_deb1" met staged).flash () (0xA0000 + 0) ≠ 0x13 := by
    decide +kernel
  exact empty (intact 0 Nat.one_pos)

end Marker

section Partitions

/-- A region of the table. -/
structure Partition where
  name : Text
  offset : Text
  size : Text
  image : Text

/-- partition_2M.json, as k1_spi_flash writes it. -/
def partition_2M : List Partition :=
  [⟨"bootinfo", "0", "128K", "bootinfo_spinor.bin"⟩,
    ⟨"fsbl", "128K", "256K", "FSBL.bin"⟩,
    ⟨"env", "384K", "64K", "u-boot-env-default.bin"⟩,
    ⟨"opensbi", "448K", "192K", "fw_dynamic.bin"⟩,
    ⟨"uboot", "640K", "-", "u-boot.bin"⟩]

/-- partition_4M.json, as k3_spi_flash writes it. -/
def partition_4M : List Partition :=
  [⟨"bootinfo", "0", "128K", "bootinfo_spinor.bin"⟩,
    ⟨"fsbl", "128K", "512K", "FSBL.bin"⟩,
    ⟨"env", "640K", "64K", "u-boot-env-default.bin"⟩,
    ⟨"esos", "704K", "1M", "esos.bin"⟩,
    ⟨"opensbi", "1728K", "384K", "fw_dynamic.bin"⟩,
    ⟨"uboot", "2112K", "3M", "u-boot.bin"⟩]

def partitions : Series → List Partition
  | .k1 => partition_2M
  | .k3 => partition_4M

/-- The size in the name of the table. -/
def named : Series → Text
  | .k1 => "2M"
  | .k3 => "4M"

/-- A size in bytes, with its unit. -/
def bytes (size : Text) : Nat :=
  let number (digits : Text) : Nat := Nat.ofDigitChars 10 digits 0
  match size.getLast? with
  | some 'K' => number size.dropLast * 1024
  | some 'M' => number size.dropLast * 1024 * 1024
  | _ => number size

/-- The flash that a table is for. -/
def flashSize (series : Series) : Nat := bytes (named series)

def Partition.start (partition : Partition) : Nat := bytes partition.offset

/-- A size of - is what is left of the flash. -/
def Partition.length (series : Series) (partition : Partition) : Nat :=
  if partition.size = ("-" : Text) then flashSize series - partition.start
  else bytes partition.size

/-- What the updates leave, and where the table puts it. -/
structure Placed (series : Series) (images : Component → Bytes) : Prop where
  intact : ∀ (before : Contents Unit), ∀ component ∈ components series,
    ∀ (i : Nat) (inside : i < (images component).length),
      applyAll before (updates images (components series)) () (component.start + i) =
        (images component)[i]
  region : ∀ component ∈ components series, ∃ partition ∈ partitions series,
    partition.image = component.file ∧ component.start = partition.start ∧
      (images component).length ≤ partition.length series
  table : ∀ partition ∈ partitions series,
    partition.start + partition.length series ≤ flashSize series

/-- No image is longer than its region. -/
def Fits (series : Series) (images : Component → Bytes) : Prop :=
  ∀ component ∈ components series, ∀ partition ∈ partitions series,
    partition.image = component.file → (images component).length ≤ partition.length series

/-- The script and the table put the components at the same places, one behind the other. -/
theorem regions_ascending (series : Series) :
    (components series).Pairwise fun component later => ∀ partition ∈ partitions series,
      partition.image = component.file →
        component.start = partition.start ∧
          partition.start + partition.length series ≤ later.start := by
  cases series with
  | k1 => decide +kernel
  | k3 => decide +kernel

/-- Every component has one region. -/
theorem region_of_component (series : Series) : ∀ component ∈ components series,
    ∃ partition ∈ partitions series, partition.image = component.file ∧
      component.start = partition.start ∧
      ∀ other ∈ partitions series, other.image = component.file →
        other.length series = partition.length series := by
  cases series with
  | k1 => decide +kernel
  | k3 => decide +kernel

/-- Images that fit do not reach one another. -/
theorem apart_of_fits {series : Series} {images : Component → Bytes} (fits : Fits series images) :
    (components series).Pairwise fun component later =>
      component.start + (images component).length ≤ later.start := by
  apply (regions_ascending series).imp_of_mem
  intro component later inside _ ascending
  obtain ⟨partition, listed, same, _⟩ := region_of_component series component inside
  obtain ⟨start, ends⟩ := ascending partition listed same
  have short := fits component inside partition listed same
  omega

theorem table_iff (series : Series) :
    (∀ partition ∈ partitions series,
      partition.start + partition.length series ≤ flashSize series) ↔ series = .k1 := by
  cases series with
  | k1 => decide +kernel
  | k3 => decide +kernel

theorem placed_iff_fits (series : Series) (images : Component → Bytes) :
    Placed series images ↔ series = .k1 ∧ Fits series images := by
  constructor
  · intro placed
    refine ⟨(table_iff series).mp placed.table, fun component member partition listed same => ?_⟩
    obtain ⟨region, inside, its, _, short⟩ := placed.region component member
    obtain ⟨first, _, _, _, only⟩ := region_of_component series component member
    rw [only partition listed same, ← only region inside its]
    exact short
  · rintro ⟨series', fits⟩
    refine ⟨fun before => ?_, fun component member => ?_, (table_iff series).mpr series'⟩
    · exact intact_of_apart before images (components series) (apart_of_fits fits)
    · obtain ⟨partition, listed, same, start, _⟩ := region_of_component series component member
      exact ⟨partition, listed, same, start, fits component member partition listed same⟩

/-- The most that the images of the k1 can have, in bytes. -/
def k1_limits : List (Component × Nat) :=
  k1_spi.zip [0x20000, 0x40000, 0x10000, 0x30000, 0x160000]

theorem fits_k1_iff (images : Component → Bytes) :
    Fits .k1 images ↔ ∀ entry ∈ k1_limits, (images entry.1).length ≤ entry.2 := by
  have limited : ∀ component ∈ components .k1, ∀ partition ∈ partitions .k1,
      partition.image = component.file → (component, partition.length .k1) ∈ k1_limits := by
    decide +kernel
  have listed : ∀ entry ∈ k1_limits, entry.1 ∈ components .k1 ∧ ∃ partition ∈ partitions .k1,
      partition.image = entry.1.file ∧ partition.length .k1 = entry.2 := by
    decide +kernel
  constructor
  · intro fits entry member
    obtain ⟨inside, partition, region, same, length⟩ := listed entry member
    rw [← length]
    exact fits entry.1 inside partition region same
  · intro short component member partition region same
    exact short (component, partition.length .k1) (limited component member partition region same)

/-- Only the table of the k1 lies within its flash, and there every component is intact and
in its region just when no image is longer than its limit. -/
theorem placed_iff (series : Series) (images : Component → Bytes) :
    Placed series images ↔
      series = .k1 ∧ ∀ entry ∈ k1_limits, (images entry.1).length ≤ entry.2 := by
  rw [placed_iff_fits]
  apply and_congr_right
  rintro rfl
  exact fits_k1_iff images

/-- The last region of the k3 ends behind the flash. -/
theorem region_beyond_flash : ¬ ∀ series images, Placed series images := by
  intro placed
  have table := (placed .k3 fun _ => []).table
  have beyond : ¬ ∀ partition ∈ partitions .k3,
      partition.start + partition.length .k3 ≤ flashSize .k3 := by
    decide +kernel
  exact beyond table

end Partitions

end ImageBuilder.SpiUpdate
