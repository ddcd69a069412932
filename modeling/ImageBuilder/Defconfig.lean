import ImageBuilder.PlainText

set_option autoImplicit false

/- Kconfig's reading of the lines of a configuration file: the value that the last
assignment of a symbol leaves. -/
namespace Kconfig

open PlainText

/-- The line without a carriage return at its end. -/
def chomp (line : Text) : Text := if line.getLast? = some '\r' then line.dropLast else line

def CONFIG_ : Text := "CONFIG_"

def comment : Text := "# CONFIG_"

def isNotSet : Text := "is not set"

def no : Text := "n"

/-- CONFIG_symbol=value -/
def assignment (symbol value : Text) : Text := CONFIG_ ++ (symbol ++ '=' :: value)

/-- The symbol a line sets, and its value; a line of any other form is passed over. -/
def setting (line : Text) : Option (Text × Text) :=
  match after CONFIG_ line with
  | some named => cutAt '=' named
  | none =>
    match (after comment line).bind (cutAt ' ') with
    | some (symbol, tail) => if tail = isNotSet then some (symbol, no) else none
    | none => none

def assigned (symbol line : Text) : Option Text :=
  (setting (chomp line)).bind fun set => if set.1 = symbol then some set.2 else none

/-- The last assignment of the symbol. -/
def effective (lines : List Text) (symbol : Text) : Option Text :=
  lines.reverse.findSome? (assigned symbol)

end Kconfig
