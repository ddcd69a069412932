import ImageBuilder.PlainText

set_option autoImplicit false

/- The initramfs post-update hook: what it leaves of the ramdisk names in /boot. -/
namespace ImageBuilder.Initrd

open PlainText

/-- A kernel release, the end of a file name. -/
@[ext] structure Release where
  text : Text
  nonempty : text ≠ []
  solid : ∀ c ∈ text, isBlank c = false ∧ c ∉ ['/', '*', '?', '[', '\\']

instance : DecidableEq Release := fun _ _ => decidable_of_iff _ Release.ext_iff.symm

/-- `initrd.img-*-bak` -/
def Release.isBak (release : Release) : Bool := ("-bak" : Text).isSuffixOf release.text

/-- The ramdisk of a release, as it was generated last. -/
structure Image where
  release : Release
  content : Text
  deriving DecidableEq

/-- /boot/initrd.img: a copy, or a link to a name. -/
inductive Link
  | copy (image : Image)
  | to (release : Release)
  | pattern
  deriving DecidableEq

/-- What of /boot the hook sees and changes. -/
structure Boot where
  broadcom : Bool
  vfat : Bool
  images : List Image
  initrd : Option Link
  uInitrd : Option Image
  INITRD_BRCM : Option Image
  deriving DecidableEq

/-- update-initramfs writes the file of the release. -/
def Boot.generate (boot : Boot) (image : Image) : Boot :=
  { boot with images := image :: boot.images.filter fun other => other.release ≠ image.release }

/-- `cp -f /boot/initrd.img-* name`: with two files or more, the name has to be a
directory, and it is not. -/
def copyGlob : List Image → Option Image
  | [image] => some image
  | _ => none

/-- `ln -s initrd.img-* initrd.img` -/
def linkGlob : List Image → Option Link
  | [] => some .pattern
  | [image] => some (.to image.release)
  | _ => none

/-- The first half of the hook. -/
def relink (boot : Boot) : Boot :=
  if boot.images.isEmpty then boot
  else
    let images := boot.images.filter fun image => !image.release.isBak
    if boot.broadcom then
      { boot with images := images, initrd := none, INITRD_BRCM := copyGlob images }
    else if boot.vfat then
      { boot with images := images, initrd := (copyGlob images).map .copy }
    else { boot with images := images, initrd := linkGlob images }

/-- The second half, for the release and the file it was called with. -/
def wrap (release : Release) (boot : Boot) : Boot :=
  if boot.broadcom then boot
  else
    match boot.images.find? fun image => image.release = release with
    | some image => { boot with uInitrd := some image }
    | none => boot

/-- update-initramfs and the hook after it. -/
def post_update (boot : Boot) (image : Image) : Boot :=
  wrap image.release (relink (boot.generate image))

/-- What is read under the name initrd.img. -/
def Boot.read (boot : Boot) : Option Image :=
  boot.initrd.bind fun
    | .copy image => some image
    | .to release => boot.images.find? fun image => image.release = release
    | .pattern => none

/-- The names that the boot configuration uses carry this image. -/
def Current (image : Image) (boot : Boot) : Prop :=
  if boot.broadcom then boot.INITRD_BRCM = some image
  else boot.read = some image ∧ boot.uInitrd = some image

/-- No other ramdisk outlasts the hook, and this one does. -/
def Alone (boot : Boot) (image : Image) : Prop :=
  image.release.isBak = false ∧
    ∀ other ∈ boot.images, other.release ≠ image.release → other.release.isBak = true

instance (boot : Boot) (image : Image) : Decidable (Alone boot image) :=
  inferInstanceAs (Decidable (_ ∧ _))

/-- The ramdisks that are left when the backups are gone. -/
def left (boot : Boot) (image : Image) : List Image :=
  (boot.generate image).images.filter fun other => !other.release.isBak

theorem left_eq (boot : Boot) (image : Image) : left boot image =
    (if image.release.isBak then [] else [image]) ++
      boot.images.filter fun other =>
        !other.release.isBak && decide (other.release ≠ image.release) := by
  unfold left Boot.generate
  rw [List.filter_cons, List.filter_filter]
  cases image.release.isBak with
  | true => rfl
  | false => rfl

theorem others_nil_iff (boot : Boot) (image : Image) :
    (boot.images.filter fun other =>
      !other.release.isBak && decide (other.release ≠ image.release)) = [] ↔
      ∀ other ∈ boot.images, other.release ≠ image.release → other.release.isBak = true := by
  rw [List.filter_eq_nil_iff]
  refine forall₂_congr fun other _ => ?_
  simp only [Bool.and_eq_true, Bool.not_eq_true', decide_eq_true_eq, not_and]
  cases other.release.isBak with
  | true => simp
  | false => simp

theorem left_alone (boot : Boot) (image : Image) : Alone boot image ↔ left boot image = [image] := by
  rw [left_eq]
  unfold Alone
  rw [← others_nil_iff]
  cases image.release.isBak with
  | false => simp
  | true =>
    refine iff_of_false (fun both => nomatch both.1) (fun only => ?_)
    have member : image ∈ boot.images.filter fun other =>
        !other.release.isBak && decide (other.release ≠ image.release) := by
      rw [if_pos rfl, List.nil_append] at only
      rw [only]
      exact List.mem_singleton_self image
    have holds := (List.mem_filter.mp member).2
    simp at holds

theorem copyGlob_iff (images : List Image) (image : Image) :
    copyGlob images = some image ↔ images = [image] := by
  unfold copyGlob
  split
  · rename_i only
    simp
  · rename_i several
    refine iff_of_false nofun ?_
    exact fun only => several image only

theorem relink_generate (boot : Boot) (image : Image) : relink (boot.generate image) =
    if boot.broadcom then
      { boot with
        images := left boot image, initrd := none, INITRD_BRCM := copyGlob (left boot image) }
    else if boot.vfat then
      { boot with images := left boot image, initrd := (copyGlob (left boot image)).map .copy }
    else { boot with images := left boot image, initrd := linkGlob (left boot image) } := rfl

theorem find_self (image : Image) :
    [image].find? (fun other => other.release = image.release) = some image := by
  rw [List.find?_cons_of_pos]
  exact decide_eq_true rfl

theorem wrap_images (release : Release) (boot : Boot) :
    (wrap release boot).images = boot.images := by
  unfold wrap
  split
  · rfl
  · split
    · rfl
    · rfl

theorem relink_images (boot : Boot) (image : Image) :
    (relink (boot.generate image)).images = left boot image := by
  rw [relink_generate]
  split
  · rfl
  · split
    · rfl
    · rfl

theorem post_update_images (boot : Boot) (image : Image) :
    (post_update boot image).images = left boot image :=
  (wrap_images _ _).trans (relink_images boot image)

/-- The link reads what the copy would have read. -/
theorem read_relink (boot : Boot) (image : Image) (mainline : boot.broadcom = false) :
    (relink (boot.generate image)).read = copyGlob (left boot image) := by
  rw [relink_generate, mainline, if_neg Bool.false_ne_true]
  cases boot.vfat with
  | true =>
    rw [if_pos rfl]
    unfold Boot.read copyGlob
    split
    · rfl
    · rfl
  | false =>
    rw [if_neg Bool.false_ne_true]
    match stocked : left boot image with
    | [] => rfl
    | [only] => exact find_self only
    | _ :: _ :: _ => rfl

theorem current_broadcom (boot : Boot) (image : Image) (broadcom : boot.broadcom = true) :
    Current image (post_update boot image) ↔ copyGlob (left boot image) = some image := by
  have hooked : post_update boot image =
      { boot with
        images := left boot image, initrd := none, INITRD_BRCM := copyGlob (left boot image) } := by
    unfold post_update wrap
    rw [relink_generate, if_pos broadcom]
    exact if_pos broadcom
  rw [hooked]
  unfold Current
  rw [if_pos broadcom]

/-- On the other boards the second half leaves what initrd.img reads alone. -/
theorem current_wrap (boot : Boot) (image : Image) (mainline : boot.broadcom = false) :
    Current image (wrap image.release boot) ↔
      boot.read = some image ∧
        (boot.images.find? (fun other => other.release = image.release) = some image ∨
          boot.images.find? (fun other => other.release = image.release) = none ∧
            boot.uInitrd = some image) := by
  have branch : ¬ boot.broadcom = true := by
    rw [mainline]
    exact Bool.false_ne_true
  unfold wrap
  rw [if_neg branch]
  cases found : boot.images.find? fun other => other.release = image.release with
  | none =>
    unfold Current
    rw [if_neg branch]
    simp
  | some other =>
    unfold Current
    rw [if_neg branch]
    simp [Boot.read]

/-- After one invocation the names are current exactly if its ramdisk is the only one. -/
theorem current_iff (boot : Boot) (image : Image) :
    Current image (post_update boot image) ↔ Alone boot image := by
  rw [left_alone, ← copyGlob_iff]
  cases board : boot.broadcom with
  | true => exact current_broadcom boot image board
  | false =>
    have hooked : (relink (boot.generate image)).broadcom = false := by
      rw [relink_generate, board, if_neg Bool.false_ne_true]
      split
      · rfl
      · rfl
    unfold post_update
    rw [current_wrap _ image hooked, read_relink boot image board, relink_images]
    refine ⟨fun both => both.1, fun read => ⟨read, Or.inl ?_⟩⟩
    rw [(copyGlob_iff _ image).mp read]
    exact find_self image

/-- The names are current after each of the invocations. -/
def CurrentThroughout (boot : Boot) : List Image → Prop
  | [] => True
  | image :: images =>
    Current image (post_update boot image) ∧ CurrentThroughout (post_update boot image) images

/-- Every invocation is for the one release of which a ramdisk stays. -/
def OneRelease (boot : Boot) (invocations : List Image) : Prop :=
  ∀ image ∈ invocations, image.release.isBak = false ∧
    (∀ other ∈ invocations, other.release = image.release) ∧
    ∀ other ∈ boot.images, other.release ≠ image.release → other.release.isBak = true

theorem oneRelease_cons (boot : Boot) (image : Image) (images : List Image)
    (alone : Alone boot image) :
    OneRelease boot (image :: images) ↔ OneRelease (post_update boot image) images := by
  have stocked : (post_update boot image).images = [image] := by
    rw [post_update_images]
    exact (left_alone boot image).mp alone
  unfold OneRelease
  rw [stocked]
  constructor
  · intro one next member
    obtain ⟨kept, same, _⟩ := one next (List.mem_cons_of_mem _ member)
    refine ⟨kept, fun other among => same other (List.mem_cons_of_mem _ among), ?_⟩
    intro other among differs
    obtain rfl := List.mem_singleton.mp among
    exact absurd (same other List.mem_cons_self) differs
  · intro one
    -- the ramdisk of this invocation is the other one of every later invocation
    have same : ∀ next ∈ images, next.release = image.release := by
      intro next member
      by_contra differs
      have removed := (one next member).2.2 image (List.mem_singleton_self image) (Ne.symm differs)
      rw [alone.1] at removed
      exact Bool.false_ne_true removed
    have named : ∀ next ∈ image :: images, next.release = image.release := by
      intro next member
      cases List.mem_cons.mp member with
      | inl first => rw [first]
      | inr later => exact same next later
    intro next member
    rw [named next member]
    exact ⟨alone.1, named, alone.2⟩

/-- The names are current throughout exactly if the invocations are all for one release
and nothing but backups lies beside it. -/
theorem currentThroughout_iff (boot : Boot) (invocations : List Image) :
    CurrentThroughout boot invocations ↔ OneRelease boot invocations := by
  induction invocations generalizing boot with
  | nil => exact iff_of_true trivial (fun _ member => nomatch member)
  | cons image images ih =>
    unfold CurrentThroughout
    rw [current_iff, ih]
    constructor
    · intro both
      exact (oneRelease_cons boot image images both.1).mpr both.2
    · intro one
      obtain ⟨kept, _, others⟩ := one image List.mem_cons_self
      exact ⟨⟨kept, others⟩, (oneRelease_cons boot image images ⟨kept, others⟩).mp one⟩

/-- A kernel upgrade on ext4: the new ramdisk beside the old one. -/
def upgraded : Boot where
  broadcom := false
  vfat := false
  images := [⟨⟨"6.6.8".toList, by decide, by decide⟩, "old".toList⟩]
  initrd := some (.to ⟨"6.6.8".toList, by decide, by decide⟩)
  uInitrd := some ⟨⟨"6.6.8".toList, by decide, by decide⟩, "old".toList⟩
  INITRD_BRCM := none

/-- The upgrade leaves no initrd.img. -/
theorem upgrade_unbootable :
    (post_update upgraded ⟨⟨"6.6.9".toList, by decide, by decide⟩, "new".toList⟩).initrd = none ∧
      ¬ CurrentThroughout upgraded [⟨⟨"6.6.9".toList, by decide, by decide⟩, "new".toList⟩] := by
  refine ⟨by decide, fun current => ?_⟩
  have alone := (current_iff _ _).mp current.1
  exact absurd alone (by decide)

end ImageBuilder.Initrd
