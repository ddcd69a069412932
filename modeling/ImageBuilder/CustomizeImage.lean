import ImageBuilder.QuotedText

set_option autoImplicit false

/- customize_image: board.txt rewritten by the switches of custom.txt before it is
sourced. The edits are written once, for the text and for the settings in it. -/
namespace ImageBuilder.Customize

open PlainText QuotedText

/-- The variables of board.txt that the edits know. -/
inductive Name
  | P_VALUE
  | EXTLINUX
  | PETITBOOT
  | BOOTCMD
  | BOOTINI
  | EFI
  | BOOT_EXT4
  | BOOT_VFAT
  | GPT
  | FAMILY
  | FAMILY_EXT
  deriving DecidableEq

def Name.text : Name → Text
  | .P_VALUE => "P_VALUE"
  | .EXTLINUX => "EXTLINUX"
  | .PETITBOOT => "PETITBOOT"
  | .BOOTCMD => "BOOTCMD"
  | .BOOTINI => "BOOTINI"
  | .EFI => "EFI"
  | .BOOT_EXT4 => "BOOT_EXT4"
  | .BOOT_VFAT => "BOOT_VFAT"
  | .GPT => "GPT"
  | .FAMILY => "FAMILY"
  | .FAMILY_EXT => "FAMILY_EXT"

def Name.all : List Name :=
  [.P_VALUE, .EXTLINUX, .PETITBOOT, .BOOTCMD, .BOOTINI, .EFI, .BOOT_EXT4, .BOOT_VFAT, .GPT,
   .FAMILY, .FAMILY_EXT]

/-- The values that the edits look for and set. -/
inductive Literal
  | true
  | false
  | p1
  | p2
  | broadcom
  | rockchip
  | odroid

def Literal.text : Literal → Text
  | .true => "true"
  | .false => "false"
  | .p1 => "p1"
  | .p2 => "p2"
  | .broadcom => "broadcom"
  | .rockchip => "rockchip"
  | .odroid => "odroid"

/-- custom.txt -/
structure Custom where
  FSTYPE : Text
  ENABLE_BOOTCMD : Text
  ENABLE_PETITBOOT : Text
  ENABLE_BOOT_EXT4 : Text
  ENABLE_BOOT_VFAT : Text
  ENABLE_EFI : Text

/-- `grep -w 'name="value"' board.txt` and
`sed -i 's/name="value"/name="value"/g' board.txt`. -/
structure Editor (File : Type) where
  grep : Name → Literal → File → Bool
  sed : Name → Literal → Name → Literal → File → File

section Edits

variable {File : Type} (editor : Editor File)

/-- The substitution behind its own grep. -/
def Editor.swap (name : Name) (old new : Literal) (board_txt : File) : File :=
  if editor.grep name old board_txt then editor.sed name old name new board_txt else board_txt

/-- U-Boot cannot boot from these file systems. -/
def Editor.fstype (custom : Custom) (board_txt : File) : File :=
  if custom.FSTYPE = "btrfs" ∨ custom.FSTYPE = "xfs" then
    editor.swap .P_VALUE .p1 .p2 board_txt
  else board_txt

def Editor.bootcmd (custom : Custom) (board_txt : File) : File :=
  if !editor.grep .FAMILY .broadcom board_txt then
    if custom.ENABLE_BOOTCMD = "true" ∧ custom.ENABLE_PETITBOOT = "false" then
      editor.swap .BOOTCMD .false .true (editor.swap .EXTLINUX .true .false board_txt)
    else board_txt
  else board_txt

def Editor.bootVfat (custom : Custom) (board_txt : File) : File :=
  if custom.ENABLE_BOOT_VFAT = "true" then
    editor.swap .P_VALUE .p1 .p2 (editor.swap .BOOT_VFAT .false .true board_txt)
  else board_txt

/-- The boot methods that EFI does without. The third substitution names another
variable than the grep before it. -/
def Editor.withoutMethod (board_txt : File) : File :=
  let board_txt := editor.swap .EXTLINUX .true .false board_txt
  let board_txt := editor.swap .BOOTCMD .true .false board_txt
  if editor.grep .BOOTINI .true board_txt then
    editor.sed .BOOTINI .true .BOOTCMD .false board_txt
  else board_txt

def Editor.efi (custom : Custom) (board_txt : File) : File :=
  if !editor.grep .FAMILY .broadcom board_txt then
    if custom.ENABLE_EFI = "true" then
      let board_txt := editor.sed .EFI .false .EFI .true board_txt
      let board_txt := editor.swap .BOOT_VFAT .false .true board_txt
      let board_txt := editor.swap .P_VALUE .p1 .p2 board_txt
      let board_txt := editor.withoutMethod board_txt
      if editor.grep .FAMILY .rockchip board_txt && editor.grep .GPT .false board_txt then
        editor.sed .GPT .false .GPT .true board_txt
      else board_txt
    else board_txt
  else board_txt

def Editor.petitboot (custom : Custom) (board_txt : File) : File :=
  if custom.ENABLE_PETITBOOT = "true" ∧ editor.grep .FAMILY_EXT .odroid board_txt = true then
    let board_txt := editor.sed .P_VALUE .p1 .P_VALUE .p2 board_txt
    let board_txt := editor.sed .EXTLINUX .true .EXTLINUX .false board_txt
    editor.sed .PETITBOOT .false .PETITBOOT .true board_txt
  else board_txt

end Edits

/-- The commands on the lines of the file. -/
def text : Editor (List Text) where
  grep name value board_txt := grepWord (assignment name.text value.text) board_txt
  sed name old other new board_txt :=
    board_txt.map (replaceAll (assignment name.text old.text) (assignment other.text new.text))

/-- The assignment that each of the lines makes now. -/
abbrev Settings := Name → Name × Text

/-- What the commands do to the assignments. -/
def settings : Editor Settings where
  grep name value settings := Name.all.any fun slot => settings slot = (name, value.text)
  sed name old other new settings := fun slot =>
    if settings slot = (name, old.text) then (other, new.text) else settings slot

section Simulation

variable {File Model : Type} {editor : Editor File} {model : Editor Model}
  {related : File → Model → Prop}

end Simulation

end ImageBuilder.Customize
