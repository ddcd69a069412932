import ImageBuilder.Medium
import ImageBuilder.Numerals
import ImageBuilder.QuotedText

set_option autoImplicit false

/- How growpart ends once sfdisk has been started: the backup files, what is written
back from them, and what is left on the disk. -/
namespace ImageBuilder.Growpart

open PlainText Numerals Medium QuotedText

section Restore

/-- `${text##*-}` -/
def behindLastDash (text : Text) : Text := (text.reverse.takeWhile (· != '-')).reverse

/-- `${text%suffix}` -/
def stripEnd (ending text : Text) : Text :=
  if ending.isSuffixOf text then text.take (text.length - ending.length) else text

/-- `$((text))` for a constant without a leading zero. -/
def arithmetic (text : Text) : Option Nat :=
  match after ("0x" : Text) text with
  | some digits =>
      if !digits.isEmpty && digits.all isHexDigit then some (unhex digits) else none
  | none => number? text

/-- A file in growpart's directory. -/
structure Saved where
  name : Text
  bytes : Bytes

variable {Area : Type} [DecidableEq Area]

/-- `dd if=$f of=$DISK seek=$(($offset)) bs=1 conv=notrunc`, which writes less than the
file if it fails. -/
def Saved.write? (DISK : Area) (failed : Option Nat) (f : Saved) : Option (Write Area) :=
  (arithmetic (stripEnd (".bak" : Text) (behindLastDash f.name))).map fun offset =>
    ⟨DISK, offset, f.bytes.take (failed.getD f.bytes.length)⟩

/-- `"${MBR_BACKUP}"*.bak` -/
def backupFiles (MBR_BACKUP : Text) (dir : List Saved) : List Saved :=
  dir.filter fun f => MBR_BACKUP.isPrefixOf f.name && (".bak" : Text).isSuffixOf f.name

/-- `dd` tells how many bytes of a file have been written if that failed; what is counted
is how often it did. -/
def sfdisk_restore (DISK : Area) (MBR_BACKUP : Text) (dir : List Saved) (dd : Saved → Option Nat)
    (disk : Contents Area) : Contents Area × Nat :=
  (applyAll disk ((backupFiles MBR_BACKUP dir).filterMap fun f => f.write? DISK (dd f)),
    (backupFiles MBR_BACKUP dir).countP fun f => (dd f).isSome)

end Restore

section Backup

/-- What sfdisk saves before it writes. -/
structure Backup where
  device : Text
  offset : Nat
  bytes : Bytes

/-- sfdisk prints the offset with `%08x`. -/
theorem arithmetic_paddedHex (offset : Nat) :
    arithmetic (("0x" : Text) ++ paddedHex 8 offset) = some offset := by
  have digits : after ("0x" : Text) (("0x" : Text) ++ paddedHex 8 offset) =
      some (paddedHex 8 offset) := (after_eq_some_iff _ _ _).mpr rfl
  have nonempty : (paddedHex 8 offset).isEmpty = false := by
    simp [paddedHex, hexadecimal]
  rw [arithmetic, digits]
  dsimp only
  rw [nonempty, isHexDigit_paddedHex, unhex_paddedHex]
  rfl

theorem behindLastDash_append (front rest : Text) (last : '-' ∉ rest) :
    behindLastDash (front ++ '-' :: rest) = rest := by
  have solid : ∀ c ∈ rest.reverse, (c != '-') = true := by
    intro c member
    exact bne_iff_ne.mpr fun is => last (is ▸ List.mem_reverse.mp member)
  rw [behindLastDash, List.reverse_append, List.reverse_cons, List.append_assoc,
    List.takeWhile_append_of_pos solid]
  simp

theorem stripEnd_append (text ending : Text) : stripEnd ending (text ++ ending) = text := by
  have ends : ending.isSuffixOf (text ++ ending) = true :=
    List.isSuffixOf_iff_suffix.mpr (List.suffix_append text ending)
  rw [stripEnd, if_pos ends, List.length_append, Nat.add_sub_cancel, List.take_left]

/-- `sfdisk-<device>-<offset>.bak`, with the given name in front -/
def Backup.file (MBR_BACKUP : Text) (backup : Backup) : Saved where
  name := (MBR_BACKUP ++ '-' :: backup.device) ++
    '-' :: ((("0x" : Text) ++ paddedHex 8 backup.offset) ++ (".bak" : Text))
  bytes := backup.bytes

/-- The offset is read back from the name, whatever else is in front of it. -/
theorem Backup.write?_file {Area : Type} (DISK : Area) (MBR_BACKUP : Text) (failed : Option Nat)
    (backup : Backup) :
    (backup.file MBR_BACKUP).write? DISK failed =
      some ⟨DISK, backup.offset, backup.bytes.take (failed.getD backup.bytes.length)⟩ := by
  have digits : '-' ∉ paddedHex 8 backup.offset := not_mem_paddedHex 8 _ (by decide)
  have last : '-' ∉ (("0x" : Text) ++ paddedHex 8 backup.offset) ++ (".bak" : Text) :=
    List.not_mem_append (List.not_mem_append (by decide) digits) (by decide)
  rw [Saved.write?, Backup.file, behindLastDash_append _ _ last, stripEnd_append,
    arithmetic_paddedHex]
  rfl

end Backup

section Ending

/-- The text behind the first occurrence of a part. -/
def behindPart (part : Text) : Text → Option Text
  | [] => if part.isEmpty then some [] else none
  | c :: rest =>
      if part.isPrefixOf (c :: rest) then some ((c :: rest).drop part.length)
      else behindPart part rest

/-- `grep -i` for parts with `.*` between them. -/
def inOrder : List Text → Text → Bool
  | [], _ => true
  | part :: parts, line => (behindPart part line).any (inOrder parts)

def grepParts (parts : List Text) (output : List Text) : Bool :=
  output.any fun line => inOrder parts (line.map Char.toLower)

def sfdisk_worked_but_blkrrpart_failed (ret : Nat) (output : List Text) : Bool :=
  if grepParts ["success", " wrote", " new", " partition"] output then
    grepParts ["blkrrpart: device or resource busy"] output
  else if grepParts ["the", " part", " table", " has", " been", " altered"] output then
    grepParts ["re-reading", " partition", " table", " failed"] output
  else ret == 0

variable {Area : Type} [DecidableEq Area]

/-- What a call of sfdisk that writes comes to. -/
structure SfdiskRun (Area : Type) where
  ret : Nat
  change_out : List Text
  disk : Contents Area
  backups : List Backup

/-- One run from there: whether the kernel was told, and LVM, and what becomes of the
calls of dd if it comes to a restore. -/
structure Steps (Area : Type) where
  sfdisk : SfdiskRun Area
  PT_UPDATE : Bool
  pt_update : Bool
  maybe_lvm_resize : Bool
  dd : Saved → Option Nat

/-- `restored` is what cleanup says of the restore, if there was one. -/
structure Ending (Area : Type) where
  status : Nat
  disk : Contents Area
  restored : Option Bool

/-- sfdisk has written, though it may have been unable to have the table read again. -/
def Steps.written (steps : Steps Area) : Bool :=
  steps.sfdisk.ret == 0 || steps.PT_UPDATE &&
    sfdisk_worked_but_blkrrpart_failed steps.sfdisk.ret steps.sfdisk.change_out

/-- `RESTORE_FUNC` is set where sfdisk has not returned 0, and unset behind
`pt_update`; `fail` runs it. -/
def Steps.finish (steps : Steps Area) (DISK : Area) (MBR_BACKUP : Text) (dir : List Saved) :
    Ending Area :=
  let disk := steps.sfdisk.disk
  let fail : Ending Area :=
    if steps.sfdisk.ret ≠ 0 then
      let (restored, fails) := sfdisk_restore DISK MBR_BACKUP dir steps.dd disk
      ⟨2, restored, some (fails == 0)⟩
    else ⟨2, disk, none⟩
  if steps.written then
    if !steps.pt_update then fail
    else if !steps.maybe_lvm_resize then ⟨2, disk, none⟩
    else ⟨0, disk, none⟩
  else fail

/-- The disk is left to what sfdisk has written. -/
def Steps.kept (steps : Steps Area) : Prop :=
  steps.sfdisk.ret = 0 ∨ steps.written = true ∧ steps.pt_update = true

instance (steps : Steps Area) : Decidable steps.kept :=
  inferInstanceAs (Decidable (steps.sfdisk.ret = 0 ∨ steps.written = true ∧ steps.pt_update = true))

theorem finish_kept (steps : Steps Area) (kept : steps.kept) (DISK : Area) (MBR_BACKUP : Text)
    (dir : List Saved) : steps.finish DISK MBR_BACKUP dir =
      ⟨if steps.written ∧ steps.pt_update ∧ steps.maybe_lvm_resize then 0 else 2,
        steps.sfdisk.disk, none⟩ := by
  unfold Steps.finish
  rcases kept with ok | ⟨written, updated⟩
  · have written : steps.written = true := by simp [Steps.written, ok]
    cases steps.pt_update <;> cases steps.maybe_lvm_resize <;> simp [ok, written]
  · cases steps.maybe_lvm_resize <;> simp [written, updated]

theorem finish_restored (steps : Steps Area) (other : ¬ steps.kept) (DISK : Area)
    (MBR_BACKUP : Text) (dir : List Saved) : steps.finish DISK MBR_BACKUP dir =
      ⟨2, (sfdisk_restore DISK MBR_BACKUP dir steps.dd steps.sfdisk.disk).1,
        some ((sfdisk_restore DISK MBR_BACKUP dir steps.dd steps.sfdisk.disk).2 == 0)⟩ := by
  obtain ⟨failed, hindered⟩ := not_or.mp other
  unfold Steps.finish
  cases written : steps.written with
  | false => simp [failed]
  | true =>
    cases updated : steps.pt_update with
    | false => simp [failed]
    | true => exact absurd ⟨written, updated⟩ hindered

/-- sfdisk changes the one disk, and nothing that it has not saved. -/
structure SfdiskRun.Backed (run : SfdiskRun Area) (DISK : Area) (before : Contents Area) :
    Prop where
  elsewhere : ∀ area, area ≠ DISK → run.disk area = before area
  saved : ∀ backup ∈ run.backups, ∀ i byte, backup.bytes[i]? = some byte →
    byte = before DISK (backup.offset + i)
  covers : ∀ i, run.disk DISK i ≠ before DISK i → ∃ backup ∈ run.backups,
    backup.offset ≤ i ∧ i < backup.offset + backup.bytes.length

/-- The other files that a run puts into its directory. -/
def scratch : List Text :=
  ["recovery", "change.out", "dump.out", "new.out", "dump.mod", "tmp.out", "err.out",
    "sfd_list.err", "sfd_dump.err", "flock.err", "pt_update.err"]

def mbr_backup (TEMP_D : Text) : Text := TEMP_D ++ '/' :: ("orig.save" : Text)

/-- The directory, in whatever order its files are listed. -/
def InDir (TEMP_D : Text) (contents : Text → Bytes) (backups : List Backup) (dir : List Saved) :
    Prop :=
  dir.Perm ((scratch.map fun name => ⟨TEMP_D ++ '/' :: name, contents name⟩) ++
    backups.map (Backup.file (mbr_backup TEMP_D)))

theorem scratch_not_backup (TEMP_D name : Text) (listed : name ∈ scratch) :
    (mbr_backup TEMP_D).isPrefixOf (TEMP_D ++ '/' :: name) = false := by
  rw [← Bool.not_eq_true, List.isPrefixOf_iff_prefix, mbr_backup, List.prefix_append_right_inj,
    List.cons_prefix_cons]
  rintro ⟨-, found⟩
  revert found
  revert name
  decide

theorem Backup.listed (MBR_BACKUP : Text) (backup : Backup) :
    (MBR_BACKUP.isPrefixOf (backup.file MBR_BACKUP).name &&
      (".bak" : Text).isSuffixOf (backup.file MBR_BACKUP).name) = true := by
  rw [Bool.and_eq_true, List.isPrefixOf_iff_prefix, List.isSuffixOf_iff_suffix]
  constructor
  · rw [Backup.file, List.append_assoc]
    exact List.prefix_append _ _
  · exact ⟨(MBR_BACKUP ++ '-' :: backup.device) ++ '-' :: (("0x" : Text) ++
      paddedHex 8 backup.offset), by simp [Backup.file]⟩

/-- The files that are written back are the backups. -/
theorem mem_backupFiles (TEMP_D : Text) (contents : Text → Bytes) (backups : List Backup)
    (dir : List Saved) (inDir : InDir TEMP_D contents backups dir) (f : Saved) :
    f ∈ backupFiles (mbr_backup TEMP_D) dir ↔
      ∃ backup ∈ backups, f = backup.file (mbr_backup TEMP_D) := by
  rw [backupFiles, List.mem_filter, inDir.mem_iff, List.mem_append]
  constructor
  · rintro ⟨other | saved, chosen⟩
    · obtain ⟨name, listed, rfl⟩ := List.mem_map.mp other
      rw [scratch_not_backup TEMP_D name listed] at chosen
      cases chosen
    · obtain ⟨backup, listed, rfl⟩ := List.mem_map.mp saved
      exact ⟨backup, listed, rfl⟩
  · rintro ⟨backup, listed, rfl⟩
    exact ⟨Or.inr (List.mem_map_of_mem listed), backup.listed _⟩

section Written

variable (DISK : Area) (TEMP_D : Text) (contents : Text → Bytes) (before : Contents Area)
  (run : SfdiskRun Area) (backed : run.Backed DISK before) (dir : List Saved)
  (inDir : InDir TEMP_D contents run.backups dir) (dd : Saved → Option Nat)

include backed inDir

/-- What is written back, also by a dd that fails, was there before. -/
theorem restored_saved (write : Write Area)
    (member : write ∈ (backupFiles (mbr_backup TEMP_D) dir).filterMap fun f => f.write? DISK (dd f))
    (area : Area) (i : Nat) (byte : UInt8) (reached : write.byteAt area i = some byte) :
    byte = before area i := by
  obtain ⟨f, chosen, is⟩ := List.mem_filterMap.mp member
  obtain ⟨backup, listed, rfl⟩ := (mem_backupFiles TEMP_D contents _ dir inDir f).mp chosen
  rw [backup.write?_file] at is
  obtain rfl := Option.some.inj is
  unfold Write.byteAt at reached
  split at reached
  · rename_i here
    obtain ⟨rfl, behind⟩ := here
    dsimp only at behind reached
    have inside : backup.bytes[i - backup.offset]? = some byte := by
      rw [List.getElem?_take] at reached
      split at reached
      · exact reached
      · cases reached
    have same := backed.saved backup listed _ byte inside
    rwa [Nat.add_sub_cancel' behind] at same
  · cases reached

/-- A restore in which no dd fails brings everything back. -/
theorem sfdisk_restore_eq (good : ∀ backup ∈ run.backups, dd (backup.file (mbr_backup TEMP_D)) = none) :
    (sfdisk_restore DISK (mbr_backup TEMP_D) dir dd run.disk).1 = before := by
  apply applyAll_restores
  · exact restored_saved DISK TEMP_D contents before run backed dir inDir dd
  · intro area i changed
    have onDisk : area = DISK := by
      by_contra other
      exact changed (congrFun (backed.elsewhere area other) i)
    obtain rfl := onDisk
    obtain ⟨backup, listed, low, high⟩ := backed.covers i changed
    have chosen := (mem_backupFiles TEMP_D contents _ dir inDir _).mpr ⟨backup, listed, rfl⟩
    refine ⟨⟨area, backup.offset, backup.bytes⟩, List.mem_filterMap.mpr ⟨_, chosen, ?_⟩, ?_⟩
    · rw [good backup listed, backup.write?_file, Option.getD_none, List.take_length]
    · have here : area = area ∧ backup.offset ≤ i := ⟨rfl, low⟩
      have inside : i - backup.offset < backup.bytes.length := by omega
      rw [Write.byteAt, if_pos here, List.getElem?_eq_getElem inside]
      exact Option.some_ne_none _

omit [DecidableEq Area] backed in
theorem fails_eq_zero_iff :
    ((backupFiles (mbr_backup TEMP_D) dir).countP fun f => (dd f).isSome) = 0 ↔
      ∀ backup ∈ run.backups, dd (backup.file (mbr_backup TEMP_D)) = none := by
  have chosen := mem_backupFiles TEMP_D contents run.backups dir inDir
  rw [List.countP_eq_zero]
  constructor
  · intro none backup listed
    have fine := none _ ((chosen _).mpr ⟨backup, listed, rfl⟩)
    rwa [Bool.not_eq_true, Option.isSome_eq_false_iff, Option.isNone_iff_eq_none] at fine
  · intro good f member
    obtain ⟨backup, listed, rfl⟩ := (chosen f).mp member
    rw [good backup listed]
    exact Bool.false_ne_true

end Written

/-- A run that gets as far as sfdisk ends well exactly if sfdisk, the update and LVM did.
It leaves every byte as sfdisk wrote it or as it was: all of them as sfdisk wrote them where
sfdisk returned 0 or the kernel was told, else all of them as they were, unless cleanup says
that the restore has failed; which it says exactly if a backup could not be written back. -/
theorem finish_eq (DISK : Area) (TEMP_D : Text) (contents : Text → Bytes)
    (before : Contents Area) (steps : Steps Area) (backed : steps.sfdisk.Backed DISK before)
    (dir : List Saved) (inDir : InDir TEMP_D contents steps.sfdisk.backups dir) :
    let ending := steps.finish DISK (mbr_backup TEMP_D) dir
    (ending.status = 0 ↔ steps.written = true ∧ steps.pt_update = true ∧
        steps.maybe_lvm_resize = true) ∧
      (∀ area i, ending.disk area i = before area i ∨
        ending.disk area i = steps.sfdisk.disk area i) ∧
      (steps.kept → ending.restored = none ∧ ending.disk = steps.sfdisk.disk) ∧
      (¬ steps.kept → ending.restored ≠ none ∧
        (ending.restored = some false ↔ ∃ backup ∈ steps.sfdisk.backups,
          steps.dd (backup.file (mbr_backup TEMP_D)) ≠ none) ∧
        (ending.restored ≠ some false → ending.disk = before)) := by
  intro ending
  subst ending
  by_cases kept : steps.kept
  · rw [finish_kept steps kept]
    refine ⟨?_, fun _ _ => Or.inr rfl, fun _ => ⟨rfl, rfl⟩, fun other => absurd kept other⟩
    dsimp only
    split
    · rename_i all
      exact iff_of_true rfl all
    · rename_i some'
      exact iff_of_false (by decide) some'
  · have whole := sfdisk_restore_eq DISK TEMP_D contents before steps.sfdisk backed dir inDir steps.dd
    have fails := fails_eq_zero_iff TEMP_D contents steps.sfdisk dir inDir steps.dd
    rw [finish_restored steps kept]
    refine ⟨?_, ?_, fun is => absurd is kept, fun _ => ⟨Option.some_ne_none _, ?_, ?_⟩⟩
    · exact iff_of_false (Nat.succ_ne_zero 1) fun all => kept (Or.inr ⟨all.1, all.2.1⟩)
    · exact applyAll_between before steps.sfdisk.disk _
        (restored_saved DISK TEMP_D contents before steps.sfdisk backed dir inDir steps.dd)
    · rw [Option.some_inj, beq_eq_false_iff_ne, ne_eq, sfdisk_restore, fails]
      simp only [not_forall, exists_prop]
    · intro good
      rw [ne_eq, Option.some_inj, Bool.not_eq_false, beq_iff_eq] at good
      exact whole (fails.mp good)

/-- A run of sfdisk that breaks off in the table. -/
def brokenRun : SfdiskRun Unit where
  ret := 1
  change_out := [("sfdisk: failed to write" : Text)]
  disk := fun _ i => if i = 450 then 131 else 0
  backups := [⟨("mmcblk0" : Text), 0, List.replicate 512 0⟩]

theorem brokenRun_backed : brokenRun.Backed () fun _ _ => 0 where
  elsewhere area other := absurd rfl other
  saved backup listed i byte is := by
    rw [List.mem_singleton.mp listed] at is
    exact List.eq_of_mem_replicate (List.mem_of_getElem? is)
  covers i changed := by
    have here : i = 450 := by
      by_contra other
      exact changed (if_neg other)
    subst here
    refine ⟨_, List.mem_singleton_self _, Nat.zero_le _, ?_⟩
    rw [List.length_replicate]
    exact Nat.lt_of_sub_pos (by decide)

/-- The run and, in /tmp, the files of growpart. -/
def brokenSteps : Steps Unit := ⟨brokenRun, true, true, true, fun _ => none⟩

def brokenDir : List Saved :=
  (scratch.map fun name => ⟨("/tmp/growpart.x" : Text) ++ '/' :: name, []⟩) ++
    brokenRun.backups.map (Backup.file (mbr_backup ("/tmp/growpart.x" : Text)))

theorem finish_eq_broken :
    (brokenSteps.finish () (mbr_backup ("/tmp/growpart.x" : Text)) brokenDir).disk =
      fun _ _ => 0 := by
  have written : brokenSteps.written = false := by decide +kernel
  have lost : ¬ brokenSteps.kept := by
    unfold Steps.kept
    rw [written]
    decide
  have failed := (finish_eq () ("/tmp/growpart.x" : Text) (fun _ => []) (fun _ _ => 0) brokenSteps
    brokenRun_backed brokenDir (List.Perm.refl _)).2.2.2 lost
  refine failed.2.2 fun bad => ?_
  obtain ⟨backup, -, failing⟩ := failed.2.1.mp bad
  exact failing rfl

end Ending

end ImageBuilder.Growpart
