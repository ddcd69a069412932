import ImageBuilder.MountScript
import ImageBuilder.Partitioning

set_option autoImplicit false

/- What stage1, rootfs, usbboot and clean mount, unmount and delete in the directory
they are run in. -/
namespace ImageBuilder.BuildMounts

open MountTable

/-- The distributions that lib/function/release has a function for; with another one
`choose_release` ends the script. -/
inductive Distro
  | bianbu
  | debian
  | devuan
  | kali
  | ubuntu
  | other
  deriving DecidableEq

/-- The entries of the directory, and those below that something is mounted at.
`label` is ROOTFS_LABEL, the distribution in capitals. -/
inductive Entry
  | p1
  | p2
  | sysroot
  | img
  | BOOT
  | ROOTFS
  | EFI
  | label (DISTRO : Distro)
  | shrink_img
  | dev
  | pts
  | proc
  | sys
  | run
  | boot
  | efi
  | broadcom
  deriving DecidableEq

open Entry

/-- A command under `set -e`. -/
def strict (actions : List (Action Entry)) : Line Entry := ⟨actions, true⟩

def lenient (actions : List (Action Entry)) : Line Entry := ⟨actions, false⟩

/-- Commands that neither mount nor delete anything here. -/
def others : Line Entry := strict [.other]

def within (root : Entry) (below : List Entry) : Place Entry := ⟨root, below⟩

section Clean

/-- `BIANBU DEBIAN DEVUAN KALI UBUNTU` -/
def labels : List Entry :=
  [label .bianbu, label .debian, label .devuan, label .kali, label .ubuntu]

/-- The entries that `umount -l` and `rm -fdr` are called with. -/
def cleaned : List Entry := [p1, p2, sysroot, BOOT, ROOTFS] ++ labels ++ [EFI]

/-- scripts/clean -/
def clean : List (Line Entry) :=
  [lenient [.umount (within p1 [proc]), .umount (within p1 [sys]), .umount (within p1 [dev]),
      .umount (within p1 [run])],
    lenient [.umount (within p2 [proc]), .umount (within p2 [sys]), .umount (within p2 [dev]),
      .umount (within p2 [run])],
    lenient [.umount (within sysroot [proc]), .umount (within sysroot [sys]),
      .umount (within sysroot [dev, pts]), .umount (within sysroot [dev]),
      .umount (within sysroot [run])],
    lenient (cleaned.map .detach),
    lenient ([p1, p2, img, sysroot, BOOT, ROOTFS].map .remove ++ labels.map .remove ++
      [.remove EFI]),
    lenient [.other],
    lenient [.remove shrink_img]]

end Clean

section Stage1

/-- What decides about the mounts of a build. -/
structure Build where
  P_VALUE : Scheme
  broadcom : Bool
  EFI : Bool
  DISTRO : Distro
  ENABLE_SHRINK : Bool
  deriving DecidableEq

/-- `partition` takes EFI back for broadcom. -/
def Build.efi (build : Build) : Bool := build.EFI && !build.broadcom

def Build.rootfs (build : Build) : Entry :=
  match build.P_VALUE with
  | .p1 => p1
  | .p2 => p2

def single_partition : List (Line Entry) :=
  [others, strict [.make p1], others, strict [.mount (top p1)], others, strict [.umount (top p1)],
    strict [.mount (top p1)]]

def dual_partition : List (Line Entry) :=
  [others, strict [.make p1, .make p2], others, strict [.mount (top p1)], strict [.mount (top p2)],
    others, strict [.umount (top p2)], strict [.mount (top p2)]]

def partition (build : Build) : List (Line Entry) :=
  match build.P_VALUE with
  | .p1 => single_partition
  | .p2 => dual_partition

/-- A script in the chroot that mounts /proc and /sys under `set -o errexit`: stage2
and update_grub.sh. -/
def chrootScript (root : Entry) : List (Line Entry) :=
  [strict [.mount (within root [proc])], strict [.mount (within root [sys])], others,
    strict [.umount (within root [proc]), .umount (within root [sys])]]

/-- With /dev and /dev/pts around it. -/
def chrooted (root : Entry) : List (Line Entry) :=
  [strict [.mount (within root [dev])], strict [.mount (within root [dev, pts])]] ++
    chrootScript root ++
    [strict [.umount (within root [dev, pts])], strict [.umount (within root [dev])]]

/-- Where the boot partition is bound in the root partition. -/
def Build.P_BOOT (build : Build) : Place Entry :=
  if build.broadcom then within p2 [boot, Entry.broadcom]
  else if build.EFI then within p2 [boot, Entry.efi]
  else within p2 [boot]

/-- From `mkdir` to `choose_release`, as far as it goes, and the rest of `setup` and
`files`. -/
def setup (build : Build) : List (Line Entry) :=
  strict [.make img] :: (partition build ++ [others])

def shrink_p1 (build : Build) : List (Line Entry) :=
  [others, strict [.make (label build.DISTRO)], strict [.mount (top (label build.DISTRO))], others,
    strict [.make img]] ++ partition build ++
  [others, strict [.umount (top (label build.DISTRO))], strict [.remove (label build.DISTRO)], others,
    strict [.remove shrink_img], others, strict [.umount (top p1)], others, strict [.rmdir img],
    strict [.rmdir p1]]

/-- The directory for the old boot partition. -/
def Build.BOOT_DIR (build : Build) : Entry := if build.efi then .EFI else .BOOT

def shrink_p2 (build : Build) : List (Line Entry) :=
  [others, strict [.make build.BOOT_DIR], strict [.make (label build.DISTRO)],
    strict [.mount (top build.BOOT_DIR)], strict [.mount (top (label build.DISTRO))], others,
    strict [.make img]] ++ partition build ++
  [others, strict [.umount (top build.BOOT_DIR)], strict [.umount (top (label build.DISTRO))],
    strict [.remove BOOT, .remove EFI], strict [.remove (label build.DISTRO)], others,
    strict [.remove shrink_img], others] ++
  (if build.efi then strict [.mount (within p2 [boot, Entry.efi])] :: chrooted p2 ++
      [strict [.umount (within p2 [boot, Entry.efi])]]
    else []) ++
  [others, strict [.umount (top p2)], strict [.umount (top p1)], others, strict [.rmdir img],
    strict [.rmdir p1, .rmdir p2]]

def shrink (build : Build) : List (Line Entry) :=
  if build.ENABLE_SHRINK then
    strict [.make shrink_img] :: others :: match build.P_VALUE with
      | .p1 => shrink_p1 build
      | .p2 => shrink_p2 build
  else []

/-- Behind `setup`, for each scheme. -/
def finish (build : Build) : List (Line Entry) :=
  match build.P_VALUE with
  | .p1 => chrooted p1 ++ [others, strict [.umount (top p1)], others, strict [.rmdir img],
      strict [.rmdir p1]] ++ shrink build ++ [others]
  | .p2 => strict [.mount build.P_BOOT] :: chrooted p2 ++ [strict [.umount build.P_BOOT], others,
      strict [.umount (top p2)], strict [.umount (top p1)], others, strict [.rmdir img],
      strict [.rmdir p1, .rmdir p2]] ++ shrink build ++ [others]

/-- scripts/stage1 behind its guard -/
def stage1 (build : Build) : List (Line Entry) :=
  if build.DISTRO = .other then setup build else setup build ++ finish build

end Stage1

section Rootfs

def sysroot_partition : List (Line Entry) :=
  [others, strict [.make sysroot], strict [.mount (top sysroot)], others,
    strict [.umount (top sysroot)], strict [.mount (top sysroot)]]

/-- rootfs-extra runs on whatever fails, and ends as its last command does. -/
def rootfs_extra : List (Line Entry) :=
  [lenient [.mount (within sysroot [proc])], lenient [.mount (within sysroot [sys])],
    lenient [.other], lenient [.umount (within sysroot [proc])],
    strict [.umount (within sysroot [sys])]]

/-- scripts/rootfs behind its guard -/
def rootfs : List (Line Entry) :=
  strict [.make img] :: sysroot_partition ++
  [others, strict [.mount (within sysroot [dev])], strict [.mount (within sysroot [dev, pts])],
    others] ++ rootfs_extra ++
  [strict [.umount (within sysroot [dev, pts])], strict [.umount (within sysroot [dev])], others,
    strict [.rmdir img], strict [.umount (top sysroot)], strict [.remove sysroot], others]

end Rootfs

section Usbboot

/-- scripts/usbboot behind its guard; it does not stop at what fails. -/
def usbboot : List (Line Entry) :=
  [lenient [.make img], lenient [.other], lenient [.make p1], lenient [.other],
    lenient [.mount (top p1)], lenient [.other], lenient [.umount (top p1)], lenient [.other],
    lenient [.rmdir img], lenient [.rmdir p1], lenient [.other]]

end Usbboot

section Runs

/-- The scripts that someone may start in the directory. -/
inductive Script
  | clean
  | stage1 (build : Build)
  | rootfs
  | usbboot
  deriving DecidableEq

/-- What stage1 and rootfs look for, to clean up first, and what usbboot does. -/
def guard : List Entry := [sysroot, p1, BOOT, shrink_img]

def usbbootGuard : List Entry := [sysroot, p1]

def Script.lines : Script → List (Line Entry)
  | .clean => BuildMounts.clean
  | .stage1 build => BuildMounts.stage1 build
  | .rootfs => BuildMounts.rootfs
  | .usbboot => BuildMounts.usbboot

def Script.guard : Script → List Entry
  | .clean => []
  | .stage1 _ | .rootfs => BuildMounts.guard
  | .usbboot => usbbootGuard

/-- The commands of a script in a state, with those of `make clean` in front where its
guard finds something. -/
def Script.commands (script : Script) (state : State Entry) : List (Line Entry) :=
  if ∃ entry ∈ script.guard, entry ∈ state.present then BuildMounts.clean ++ script.lines
  else script.lines

/-- A script and what becomes of its commands, as far as they are run. -/
structure Run where
  script : Script
  fate : List (List Bool)

def runScript (state : State Entry) (run : Run) : State Entry :=
  (state.run (run.script.commands state) run.fate).1

/-- One script after the other, from a directory in which nothing is mounted. -/
def session (present : List Entry) (runs : List Run) : State Entry :=
  runs.foldl runScript ⟨[], present, false⟩

/-- The scripts that unmount at their end what they have mounted, or stop at what
they cannot unmount. -/
def Script.unmounts : Script → Bool
  | .clean | .rootfs => true
  | .stage1 build => build.DISTRO != .other
  | .usbboot => false

def convention : Convention Entry := ⟨cleaned, guard⟩

end Runs

section Checks

theorem clean_check : Known.check convention ⟨cleaned, []⟩ clean = some ⟨[], []⟩ := rfl

theorem stage1_check (build : Build) :
    ((Known.check convention ⟨[], []⟩ (stage1 build)).any fun atEnd =>
      !(Script.stage1 build).unmounts || atEnd.possible.isEmpty) = true := by
  obtain ⟨P_VALUE, broadcom, EFI, DISTRO, ENABLE_SHRINK⟩ := build
  cases P_VALUE <;> cases broadcom <;> cases EFI <;> cases DISTRO <;> cases ENABLE_SHRINK <;> rfl

theorem stage1_plan (build : Build) (unmounts : (Script.stage1 build).unmounts = true) :
    (plan [] [] ((stage1 build).flatMap Line.actions)).map Prod.fst = some [] := by
  obtain ⟨P_VALUE, broadcom, EFI, DISTRO, ENABLE_SHRINK⟩ := build
  cases DISTRO
  case other => cases unmounts
  all_goals cases P_VALUE <;> cases broadcom <;> cases EFI <;> cases ENABLE_SHRINK <;> rfl

theorem usbboot_check (guardian : Entry) (member : guardian ∈ [BOOT, shrink_img]) :
    (Known.check convention ⟨cleaned.filter (· ∉ usbbootGuard), [guardian]⟩ usbboot).isSome := by
  revert guardian
  decide

/-- Where nothing is mounted every script passes the check, to its end. -/
theorem Script.check (script : Script) : ∃ atEnd,
    Known.check convention ⟨[], []⟩ script.lines = some atEnd ∧
      (script.unmounts = true → atEnd.possible = []) := by
  cases script with
  | clean => exact ⟨⟨[], []⟩, rfl, fun _ => rfl⟩
  | stage1 build =>
    obtain ⟨atEnd, passes, possible⟩ := (Option.any_eq_true _ _).mp (stage1_check build)
    refine ⟨atEnd, passes, fun unmounts => ?_⟩
    rw [unmounts, Bool.not_true, Bool.false_or] at possible
    exact List.isEmpty_iff.mp possible
  | rootfs => exact ⟨_, rfl, fun _ => rfl⟩
  | usbboot => exact ⟨_, rfl, fun never => absurd never Bool.false_ne_true⟩

end Checks

section Safety

variable {state : State Entry}

theorem known_of_unmounted (unmounted : state.mounts = []) : (⟨[], []⟩ : Known Entry).Of state where
  possible place member := absurd member (by rw [unmounted]; exact List.not_mem_nil)
  sure _ member := absurd member List.not_mem_nil

/-- `make clean` knows all that can be mounted. -/
theorem known_of_sound (sound : state.Sound convention) : (⟨cleaned, []⟩ : Known Entry).Of state where
  possible := sound.inRoots
  sure _ member := absurd member List.not_mem_nil

/-- Where the whole guard finds nothing, nothing is mounted. -/
theorem unmounted_of_guard (sound : state.Sound convention)
    (none : ¬ ∃ entry ∈ guard, entry ∈ state.present) : state.mounts = [] := by
  by_contra some
  exact none (sound.guarded some)

/-- The guard of usbboot leaves out two entries, one of which then is there. -/
theorem known_of_usbbootGuard (sound : state.Sound convention) (some : state.mounts ≠ [])
    (none : ¬ ∃ entry ∈ usbbootGuard, entry ∈ state.present) : ∃ guardian ∈ [BOOT, shrink_img],
    (⟨cleaned.filter (· ∉ usbbootGuard), [guardian]⟩ : Known Entry).Of state := by
  obtain ⟨guardian, inGuard, there⟩ := sound.guarded some
  have absent (entry : Entry) (here : entry ∈ state.present) : entry ∉ usbbootGuard :=
    fun member => none ⟨entry, member, here⟩
  refine ⟨guardian, ?_, ?_, ?_⟩
  · have split : ∀ entry ∈ guard, entry ∈ usbbootGuard ∨ entry ∈ [BOOT, shrink_img] := by decide
    exact (split guardian inGuard).resolve_left (absent guardian there)
  · intro place member
    exact List.mem_filter.mpr ⟨sound.inRoots place member,
      decide_eq_true (absent place.root (sound.here place member))⟩
  · intro name member
    rw [List.mem_singleton.mp member]
    exact there

/-- What is known before a script passes the check, with the clean-up or without. -/
theorem Script.admitted (script : Script) (sound : state.Sound convention) :
    ∃ known atEnd : Known Entry, known.Of state ∧
      known.check convention (script.commands state) = some atEnd ∧
      (script.unmounts = true → atEnd.possible = []) := by
  obtain ⟨atEnd, passes, possible⟩ := script.check
  by_cases found : ∃ entry ∈ script.guard, entry ∈ state.present
  · refine ⟨⟨cleaned, []⟩, atEnd, known_of_sound sound, ?_, possible⟩
    rw [commands, if_pos found, Known.check_append, clean_check]
    exact passes
  · rw [commands, if_neg found]
    cases script with
    | clean => exact ⟨⟨cleaned, []⟩, _, known_of_sound sound, clean_check, fun _ => rfl⟩
    | stage1 build =>
      have unmounted := unmounted_of_guard sound found
      exact ⟨⟨[], []⟩, atEnd, known_of_unmounted unmounted, passes, possible⟩
    | rootfs =>
      have unmounted := unmounted_of_guard sound found
      exact ⟨⟨[], []⟩, atEnd, known_of_unmounted unmounted, passes, possible⟩
    | usbboot =>
      by_cases unmounted : state.mounts = []
      · exact ⟨⟨[], []⟩, atEnd, known_of_unmounted unmounted, passes, possible⟩
      · obtain ⟨guardian, member, of⟩ := known_of_usbbootGuard sound unmounted found
        obtain ⟨left, is⟩ := Option.isSome_iff_exists.mp (usbboot_check guardian member)
        exact ⟨_, left, of, is, fun never => absurd never Bool.false_ne_true⟩

/-- A script leaves a sound state sound, whatever fails and wherever it is broken
off. -/
theorem runScript_sound (sound : state.Sound convention) (run : Run) :
    (runScript state run).Sound convention := by
  obtain ⟨known, atEnd, of, passes, -⟩ := run.script.admitted sound
  exact (state.run_sound _ run.fate atEnd sound of passes).1

theorem session_sound (present : List Entry) (runs : List Run) :
    (session present runs).Sound convention := by
  have start : (⟨[], present, false⟩ : State Entry).Sound convention :=
    ⟨rfl, trivial, fun _ member => absurd member List.not_mem_nil,
      fun _ member => absurd member List.not_mem_nil, fun some => absurd rfl some⟩
  rw [session]
  generalize (⟨[], present, false⟩ : State Entry) = state at start
  induction runs generalizing state with
  | nil => exact start
  | cons run runs ih => exact ih (runScript state run) (runScript_sound start run)

theorem session_append (present : List Entry) (earlier : List Run) (run : Run) :
    session present (earlier ++ [run]) = runScript (session present earlier) run := by
  rw [session, List.foldl_append]
  rfl

/-- Behind a script that unmounts and comes to its end nothing is mounted. -/
theorem unmounted_of_ended (sound : state.Sound convention) (run : Run)
    (unmounts : run.script.unmounts = true)
    (ended : (state.run (run.script.commands state) run.fate).2 = true) :
    (runScript state run).mounts = [] := by
  obtain ⟨known, atEnd, of, passes, possible⟩ := run.script.admitted sound
  have left := (state.run_sound _ run.fate atEnd sound of passes).2 ended
  refine List.eq_nil_iff_forall_not_mem.mpr fun place member => ?_
  have mayBe := left.possible place member
  rw [possible unmounts] at mayBe
  cases mayBe

theorem clean_lenient : ∀ line ∈ clean, line.checked = false := by decide

/-- A script in which nothing fails by itself comes to its end, if it finds nothing
mounted; clean always does. -/
theorem Script.ends (script : Script) (unmounts : script.unmounts = true)
    (ready : script = .clean ∨ state.mounts = []) :
    (state.run script.lines (succeeding script.lines)).2 = true := by
  cases script with
  | clean =>
    have complete : Complete BuildMounts.clean (succeeding BuildMounts.clean) :=
      complete_map true BuildMounts.clean
    rw [← List.append_nil (succeeding _)]
    exact (state.run_append _ [] _ [] clean_lenient complete).1
  | stage1 build =>
    obtain ⟨planned, is, -⟩ := Option.map_eq_some_iff.mp (stage1_plan build unmounts)
    rw [← ready.resolve_left Script.noConfusion] at is
    exact (state.run_plan _ [] (fun _ member => absurd member List.not_mem_nil) planned is).1
  | rootfs =>
    have is : plan [] [] (BuildMounts.rootfs.flatMap Line.actions) = some ([], []) := rfl
    rw [← ready.resolve_left Script.noConfusion] at is
    exact (state.run_plan _ [] (fun _ member => absurd member List.not_mem_nil) _ is).1
  | usbboot => cases unmounts

/-- A script that unmounts and comes to its end leaves nothing mounted, also nothing
that earlier scripts have left. -/
theorem finished_unmounted (present : List Entry) (earlier : List Run) (run : Run)
    (unmounts : run.script.unmounts = true)
    (ended : ((session present earlier).run (run.script.commands (session present earlier))
      run.fate).2 = true) :
    (session present (earlier ++ [run])).mounts = [] := by
  rw [session_append]
  exact unmounted_of_ended (session_sound present earlier) run unmounts ended

/-- A build that is broken off in its chroot, and all that can fail in the clean-up. -/
def brokenOff : Run :=
  let build : Build := ⟨.p2, false, true, .debian, true⟩
  ⟨.stage1 build, (succeeding (stage1 build)).take 16⟩

def uncleaned : List (List Bool) := clean.map fun line => line.actions.map fun _ => false

example : (session [] [brokenOff]).mounts =
    [within p2 [sys], within p2 [proc], within p2 [dev, pts], within p2 [dev], within p2 [boot, efi],
      top p2, top p1] := by
  decide +kernel

theorem finished_unmounted_rootfs :
    (session [] ([brokenOff] ++ [⟨.rootfs, uncleaned ++ succeeding rootfs⟩])).mounts = [] :=
  finished_unmounted [] [brokenOff] ⟨.rootfs, uncleaned ++ succeeding rootfs⟩ rfl
    (by decide +kernel)

/-- What becomes of the commands, if the clean-up is needed and if not. -/
def Script.fate (script : Script) (state : State Entry) (cleanup rest : List (List Bool)) :
    List (List Bool) :=
  if ∃ entry ∈ script.guard, entry ∈ state.present then cleanup ++ rest else rest

/-- No mount that broken off scripts have left hinders the next one: if nothing fails
in it for another reason, as `rmdir` does where an image was left, it comes to its end with
nothing mounted, whatever fails in the clean-up but `umount -l`. -/
theorem next_run_ends (present : List Entry) (earlier : List Run) (script : Script)
    (unmounts : script.unmounts = true) (cleanup : List (List Bool))
    (complete : Complete clean cleanup) :
    ((session present earlier).run (script.commands (session present earlier))
        (script.fate (session present earlier) cleanup (succeeding script.lines))).2 = true ∧
      (session present (earlier ++ [⟨script, script.fate (session present earlier) cleanup
        (succeeding script.lines)⟩])).mounts = [] := by
  have sound := session_sound present earlier
  rw [session_append]
  generalize session present earlier = state at sound
  suffices ended : (state.run (script.commands state)
      (script.fate state cleanup (succeeding script.lines))).2 = true from
    ⟨ended, unmounted_of_ended sound ⟨script, _⟩ unmounts ended⟩
  rw [Script.commands, Script.fate]
  by_cases found : ∃ entry ∈ script.guard, entry ∈ state.present
  · rw [if_pos found, if_pos found]
    obtain ⟨ended, goes⟩ := state.run_append clean script.lines cleanup
      (succeeding script.lines) clean_lenient complete
    obtain ⟨-, left⟩ := state.run_sound clean cleanup _ sound (known_of_sound sound) clean_check
    rw [goes]
    apply script.ends unmounts
    refine Or.inr (List.eq_nil_iff_forall_not_mem.mpr fun place member => ?_)
    exact List.not_mem_nil ((left ended).possible place member)
  · rw [if_neg found, if_neg found]
    apply script.ends unmounts
    cases script with
    | clean => exact Or.inl rfl
    | stage1 build => exact Or.inr (unmounted_of_guard sound found)
    | rootfs => exact Or.inr (unmounted_of_guard sound found)
    | usbboot => cases unmounts

theorem next_run_ends_rootfs :
    ((session [] [brokenOff]).run (Script.rootfs.commands (session [] [brokenOff]))
        (Script.rootfs.fate (session [] [brokenOff]) uncleaned (succeeding rootfs))).2 = true ∧
      (session [] ([brokenOff] ++ [⟨.rootfs, Script.rootfs.fate (session [] [brokenOff]) uncleaned
        (succeeding rootfs)⟩])).mounts = [] :=
  next_run_ends [] [brokenOff] .rootfs rfl uncleaned (complete_map false clean)

end Safety

end ImageBuilder.BuildMounts
