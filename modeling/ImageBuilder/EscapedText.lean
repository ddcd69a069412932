import ImageBuilder.PlainText

set_option autoImplicit false

/- `echo -e`: backslashes that stand for characters, and what they leave of words. -/
namespace EscapedText

open PlainText

def isOctalDigit (c : Char) : Bool := '0' ≤ c && c ≤ '7'

def isHexadecimal (c : Char) : Bool := c.isDigit || ('a' ≤ c && c ≤ 'f') || ('A' ≤ c && c ≤ 'F')

/-- The digits at the front, at most so many. -/
def digits (digit : Char → Bool) : Nat → Text → Text
  | most + 1, c :: rest => if digit c then c :: digits digit most rest else []
  | _, _ => []

def digitValue (c : Char) : Nat :=
  if c.isDigit then c.toNat - 48 else if 'a' ≤ c then c.toNat - 87 else c.toNat - 55

/-- The character with a number, a byte as well; the shell drops the character 0 from
what it reads. -/
def character (base limit : Nat) (digits : Text) : Text :=
  let code := digits.foldl (fun n c => base * n + digitValue c) 0 % limit
  if code = 0 then [] else [Char.ofNat code]

def single : List (Char × Char) :=
  [('a', '\x07'), ('b', '\x08'), ('e', '\x1b'), ('E', '\x1b'), ('f', '\x0c'), ('n', '\n'),
    ('r', '\r'), ('t', '\t'), ('v', '\x0b'), ('\\', '\\')]

/-- The most digits of a hexadecimal number. -/
def hexadecimals : List (Char × Nat) := [('x', 2), ('u', 4), ('U', 8)]

/-- What is printed for a backslash and the text behind it, and how much of the text that
takes; `\c` ends the output. -/
def escape : Text → Option (Text × Nat)
  | [] => some (['\\'], 0)
  | c :: rest =>
      if c = 'c' then none
      else if c = '0' then
        let found := digits isOctalDigit 3 rest
        some (character 8 256 found, found.length + 1)
      else
        match hexadecimals.lookup c with
        | some most =>
            let found := digits isHexadecimal most rest
            if found.isEmpty then some (['\\'], 0)
            else some (character 16 0x110000 found, found.length + 1)
        | none =>
            match single.lookup c with
            | some shown => some ([shown], 1)
            | none => some (['\\'], 0)

/-- The output for a text, of which some characters are already read. -/
def interpret : Nat → Text → Text
  | _, [] => ['\n']
  | skip + 1, _ :: rest => interpret skip rest
  | 0, c :: rest =>
      if c = '\\' then
        match escape rest with
        | some (shown, width) => shown ++ interpret width rest
        | none => []
      else c :: interpret 0 rest

/-- `echo -e`, for arguments that are no options. -/
def echo_e (arguments : List Text) : Text := interpret 0 (spaced arguments)

/-- Printed as it is. -/
def Untouched (word : Text) : Prop := echo_e [word] = word ++ ['\n']

instance (word : Text) : Decidable (Untouched word) :=
  inferInstanceAs (Decidable (echo_e [word] = word ++ ['\n']))

/-- A backslash and an n, which is how a list is broken into lines. -/
def lineBreak : Text := ['\\', 'n']

end EscapedText
