import ImageBuilder.CustomizedBoard

set_option autoImplicit false

/- Which boards and switches customize_image turns into a board.txt that stage1 can
source: every variable still assigned, and one way to boot. -/
namespace ImageBuilder.Customize

open PlainText QuotedText

/-- The value of a variable once the file is sourced. -/
def sourced (board_txt : List Text) (name : Name) : Text :=
  (assignedIn name.text board_txt).getLast?.getD []

/-- The boards and switches that fit together. -/
structure Fits (custom : Custom) (value : Name → Text) : Prop where
  bootini : TakesEfi custom value → value .BOOTINI ≠ Literal.true.text
  bootcmd : ¬ TakesEfi custom value → TakesBootcmd custom value →
    value .BOOTCMD = Literal.true.text ∨ (value .BOOTCMD = Literal.false.text ↔ value .EXTLINUX = Literal.true.text)
  petitboot : ¬ TakesEfi custom value → TakesPetitboot custom value →
    value .PETITBOOT = Literal.true.text ∨ (value .PETITBOOT = Literal.false.text ↔ value .EXTLINUX = Literal.true.text)
  bootPartition : Forces custom value → value .P_VALUE = Literal.p1.text ∨ value .P_VALUE = Literal.p2.text
  bootVfat : TakesEfi custom value → value .BOOT_VFAT = Literal.true.text ∨ value .BOOT_VFAT = Literal.false.text

section Iff

variable (board : BoardTxt) (custom : Custom)

end Iff

end ImageBuilder.Customize
