import ImageBuilder.CustomizeImage

set_option autoImplicit false

/- What customize_image leaves of a board.txt: when the file it writes still
assigns every variable once and asks for one way to boot. -/
namespace ImageBuilder.Customize

open PlainText QuotedText

/-- What may stand behind the closing quote: blanks, and a comment in which no
variable is assigned. -/
structure Tail where
  text : Text
  blank : ∀ c ∈ text.head?, isBlank c = true
  comment : ∀ c ∈ (text.dropWhile isBlank).head?, c = '#'
  quiet : ∀ name : Name, ¬ name.text ++ ['='] <:+: text

/-- A line that assigns one of the variables, or that contains none of their names. -/
inductive Line
  | setting (slot : Name) (tail : Tail)
  | other (text : Text) (quiet : ∀ name : Name, ¬ name.text <:+: text)

def Line.slot? : Line → Option Name
  | .setting slot _ => some slot
  | .other _ _ => none

@[simp] theorem Line.slot?_setting (slot : Name) (tail : Tail) :
    (Line.setting slot tail).slot? = some slot := rfl

@[simp] theorem Line.slot?_other (text : Text) (quiet : ∀ name : Name, ¬ name.text <:+: text) :
    (Line.other text quiet).slot? = none := rfl

def Line.text (settings : Settings) : Line → Text
  | .setting slot tail =>
    assignment (settings slot).1.text (settings slot).2 ++ tail.text
  | .other text _ => text

def lines (layout : List Line) (settings : Settings) : List Text := layout.map (Line.text settings)

/-- Every variable at its own line. -/
def atHome (value : Name → Text) : Settings := fun slot => (slot, value slot)

def methods : List Name := [.EXTLINUX, .PETITBOOT, .BOOTCMD, .BOOTINI]

/-- Exactly one of the four boot methods is switched on. -/
def OneMethod (value : Name → Text) : Prop :=
  (methods.filter fun name => value name = Literal.true.text).length = 1

instance (value : Name → Text) : Decidable (OneMethod value) :=
  inferInstanceAs (Decidable (_ = _))

/-- A board.txt as lib/boards has them. -/
structure BoardTxt where
  layout : List Line
  value : Name → Text
  once : ∀ name, (layout.filter fun line => line.slot? = some name).length = 1
  unquoted : ∀ name, '"' ∉ value name
  oneMethod : OneMethod value
  noEFI : value .EFI = Literal.false.text

def BoardTxt.text (board : BoardTxt) : List Text := lines board.layout (atHome board.value)

/-- Nothing in the values closes its quotes. -/
def Unquoted (settings : Settings) : Prop := ∀ slot, '"' ∉ (settings slot).2

theorem Name.unquoted (name : Name) : '"' ∉ name.text := by
  cases name <;> decide

theorem Literal.unquoted (value : Literal) : '"' ∉ value.text := by
  cases value <;> decide

theorem boundary_of_blank {c : Char} (blank : isBlank c = true) : boundary (some c) = true := by
  rcases (isBlank_iff c).mp blank with rfl | rfl | rfl <;> decide

theorem Tail.boundary (tail : Tail) : PlainText.boundary tail.text.head? = true := by
  cases head : tail.text.head? with
  | none => rfl
  | some c => exact boundary_of_blank (tail.blank c head)

theorem Unquoted.sed {settings : Settings} (unquoted : Unquoted settings) (name : Name)
    (old : Literal) (other : Name) (new : Literal) :
    Unquoted (Customize.settings.sed name old other new settings) := by
  intro slot
  show '"' ∉ (if settings slot = (name, old.text) then (other, new.text) else settings slot).2
  split
  · exact new.unquoted
  · exact unquoted slot

/-- Every slot has a line. -/
def Covers (layout : List Line) : Prop := ∀ slot, ∃ line ∈ layout, line.slot? = some slot

theorem BoardTxt.covers (board : BoardTxt) : Covers board.layout := by
  intro slot
  have once := board.once slot
  obtain ⟨line, member⟩ := List.exists_mem_of_length_pos (Nat.lt_of_sub_eq_succ once)
  rw [List.mem_filter] at member
  exact ⟨line, member.1, by simpa using member.2⟩

section Switches

variable (custom : Custom) (value : Name → Text)

/-- The switches of custom.txt that take effect on a board with these values. -/
def TakesFstype : Prop := custom.FSTYPE = "btrfs" ∨ custom.FSTYPE = "xfs"

def TakesBootcmd : Prop :=
  value .FAMILY ≠ Literal.broadcom.text ∧ custom.ENABLE_BOOTCMD = "true" ∧ custom.ENABLE_PETITBOOT = "false"

def TakesExt4 : Prop := custom.ENABLE_BOOT_EXT4 = "true"

def TakesVfat : Prop := custom.ENABLE_BOOT_VFAT = "true"

def TakesEfi : Prop := value .FAMILY ≠ Literal.broadcom.text ∧ custom.ENABLE_EFI = "true"

def TakesPetitboot : Prop := custom.ENABLE_PETITBOOT = "true" ∧ value .FAMILY_EXT = Literal.odroid.text

/-- A boot partition is asked for. -/
def Forces : Prop :=
  TakesFstype custom ∨ TakesExt4 custom ∨ TakesVfat custom ∨ TakesEfi custom value ∨
    TakesPetitboot custom value

instance : Decidable (TakesFstype custom) := inferInstanceAs (Decidable (_ ∨ _))
instance : Decidable (TakesBootcmd custom value) := inferInstanceAs (Decidable (_ ∧ _ ∧ _))
instance : Decidable (TakesExt4 custom) := inferInstanceAs (Decidable (_ = _))
instance : Decidable (TakesVfat custom) := inferInstanceAs (Decidable (_ = _))
instance : Decidable (TakesEfi custom value) := inferInstanceAs (Decidable (_ ∧ _))
instance : Decidable (TakesPetitboot custom value) := inferInstanceAs (Decidable (_ ∧ _))
instance : Decidable (Forces custom value) := inferInstanceAs (Decidable (_ ∨ _ ∨ _ ∨ _ ∨ _))

end Switches

/-- The value that a switch turns from `old` to `new`. -/
def turned (switch : Prop) [Decidable switch] (old new : Literal) (value : Text) : Text :=
  if switch ∧ value = old.text then new.text else value

/-- One value turned in place. -/
def turnAt (switch : Prop) [Decidable switch] (name : Name) (old new : Literal)
    (value : Name → Text) : Name → Text :=
  Function.update value name (turned switch old new (value name))

section Turning

variable {switch other : Prop} [Decidable switch] [Decidable other] {name : Name}
  {old new : Literal}

theorem turnAt_of_ne {slot : Name} (different : slot ≠ name) (value : Name → Text) :
    turnAt switch name old new value slot = value slot :=
  Function.update_of_ne different ..

end Turning

section Steps

variable (custom : Custom) (value : Name → Text)

end Steps

/-- What decides which switches take effect. -/
def Alike (one other : Name → Text) : Prop :=
  one .FAMILY = other .FAMILY ∧ one .FAMILY_EXT = other .FAMILY_EXT ∧
    one .BOOTINI = other .BOOTINI

theorem Alike.turnAt {one other : Name → Text} (alike : Alike one other) {switch : Prop}
    [Decidable switch] {name : Name} (old new : Literal)
    (outside : name ≠ .FAMILY ∧ name ≠ .FAMILY_EXT ∧ name ≠ .BOOTINI) :
    Alike (turnAt switch name old new one) other := by
  refine ⟨?_, ?_, ?_⟩
  · rw [turnAt_of_ne outside.1.symm, alike.1]
  · rw [turnAt_of_ne outside.2.1.symm, alike.2.1]
  · rw [turnAt_of_ne outside.2.2.symm, alike.2.2]

end ImageBuilder.Customize
