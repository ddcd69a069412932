import ImageBuilder.Defconfig
import ImageBuilder.EscapedText
import ImageBuilder.TextLines
import ImageBuilder.Transition

set_option autoImplicit false

/- The loops of linux_configs and broadcom_extra_modules that add options to the
defconfig, for any `grep -w` and any file names. -/
namespace ImageBuilder.Modules

open PlainText TextLines EscapedText Kconfig

/-- One word of a module list. -/
structure Request where
  symbol : Text
  value : Text
  named : ∀ c ∈ symbol, isWordChar c = true
  word : ∀ c ∈ value, isBlank c = false ∧ c ≠ '\r'

/-- CONFIG_symbol=value, which is both the pattern and the line. -/
def Request.line (request : Request) : Text := assignment request.symbol request.value

/-- A module list as a variable holds it, in lines that may end in a `\n` of their own. -/
structure ModuleList where
  text : Text
  requests : List Request
  distinct : (requests.map Request.symbol).Nodup
  listed : (words text).filter (· ≠ lineBreak) = requests.map Request.line

/-- What decides about a build here. -/
structure Build where
  CLANG : Bool
  LEGACY_PACKAGING : Bool
  arm64 : Bool

section Grep

/- `glob` is the expansion of a word to file names. -/
variable (grep : Text → Text → Bool) (glob : Text → List Text)

/-- `grep -w pattern file` prints a line. -/
def greps (pattern text : Text) : Bool := (lines isNewline text).any (grep pattern)

/-- One turn of either loop. -/
def insert (text MODLIST : Text) : Text :=
  if greps grep MODLIST text then text else text ++ (MODLIST ++ ['\n'])

/-- The value of a symbol in the text. -/
def setTo (text symbol : Text) : Option Text := effective (lines isNewline text) symbol

/-- `sed -i s/pattern/replacement/g` -/
def edit (pattern replacement text : Text) : Text :=
  (text.splitOn '\n').map (replaceAll pattern replacement) |> List.intercalate ['\n']

end Grep

/-- No word of the list is a pattern for a file name, and echo prints each request as it is. -/
def Kept (glob : Text → List Text) (MODULES : ModuleList) : Prop :=
  ∀ word ∈ words MODULES.text, glob word = [word] ∧ (word = lineBreak ∨ Untouched word)

/-- A request that is found in the defconfig, or in an earlier request, is what the defconfig
has already; one that is not in the defconfig finds itself, and the defconfig ends in a
newline. -/
structure Admits (grep : Text → Text → Bool) (text : Text) (before : List Request)
    (request : Request) : Prop where
  taken : greps grep request.line text = true ∨
    (∃ earlier ∈ before, grep request.line earlier.line = true) →
      setTo text request.symbol = some request.value
  free : ¬ greps grep request.line text = true →
    Terminated isNewline text ∧ grep request.line request.line = true

/-- No special character of a pattern: it finds each line that it is. -/
def Literal (grep : Text → Text → Bool) (request : Request) : Prop :=
  ∀ line, chomp line = request.line → grep request.line line = true

/-- And what finds a request is found where the request is. -/
def Nested (grep : Text → Text → Bool) (requests : List Request) : Prop :=
  ∀ first ∈ requests, ∀ second ∈ requests, ∀ line, grep first.line second.line = true →
    grep second.line line = true → grep first.line line = true

/-- The patterns of the requests have no special characters. -/
structure Plain (grep : Text → Text → Bool) (requests : List Request) : Prop where
  literal : ∀ request ∈ requests, Literal grep request
  nested : Nested grep requests

/-- At its turn the text has the value of a request where it has its words, or else it
ends in a newline and the words find themselves. -/
def Passes (grep : Text → Text → Bool) (text : Text) (request : Request) : Prop :=
  if greps grep request.line text then
    setTo text request.symbol = some request.value
  else Terminated isNewline text ∧ grep request.line request.line = true

/-- So at every turn. -/
def Ready (grep : Text → Text → Bool) (text : Text) (requests : List Request) : Prop :=
  Transition.Keeps (fun text request => some (insert grep text request.line)) (Passes grep) text
    requests

theorem Request.bare (request : Request) : '=' ∉ request.symbol := by
  intro inside
  exact absurd (request.named '=' inside) (by decide)

theorem Request.plain (request : Request) : '\r' ∉ request.value :=
  fun inside => (request.word '\r' inside).2 rfl

theorem Request.single (request : Request) : '\n' ∉ request.line := by
  unfold Request.line assignment
  intro inside
  rcases List.mem_append.mp inside with marker | inside
  · exact absurd marker (by decide)
  · rcases List.mem_append.mp inside with symbol | inside
    · exact absurd (request.named '\n' symbol) (by decide)
    · rcases List.mem_cons.mp inside with equals | value
      · exact absurd equals (by decide)
      · exact absurd (request.word '\n' value).1 (by decide)

theorem Request.inside (request : Request) : ∀ c ∈ request.line, isNewline c = false := by
  intro c member
  rw [isNewline, beq_eq_false_iff_ne]
  rintro rfl
  exact request.single member

section Loop

variable {grep : Text → Text → Bool} {text : Text}

/-- What the turns of some requests have made of a text. -/
structure Reached (grep : Text → Text → Bool) (start : Text) (before : List Request)
    (text : Text) : Prop where
  grows : ∀ pattern, greps grep pattern start = true → greps grep pattern text = true
  comes : ∀ pattern, greps grep pattern text = true →
    greps grep pattern start = true ∨ ∃ earlier ∈ before, grep pattern earlier.line = true
  found : ∀ earlier ∈ before, greps grep earlier.line text = true
  keeps : ∀ symbol, symbol ∉ before.map Request.symbol → setTo text symbol = setTo start symbol
  closed : Terminated isNewline start → Terminated isNewline text
  stays : ¬ Terminated isNewline start → text = start

/-- A request that the defconfig admits passes at its turn. -/
theorem Admits.passes {start : Text} {before : List Request} {request : Request}
    (admitted : Admits grep start before request) (reached : Reached grep start before text)
    (distinct : request.symbol ∉ before.map Request.symbol) : Passes grep text request := by
  unfold Passes
  split
  · rename_i found
    rw [reached.keeps request.symbol distinct]
    exact admitted.taken (reached.comes request.line found)
  · rename_i missing
    obtain ⟨closed, self⟩ := admitted.free fun found => missing (reached.grows _ found)
    exact ⟨reached.closed closed, self⟩

section Whole

variable {start : Text} (all : List Request) (distinct : (all.map Request.symbol).Nodup)

include distinct

end Whole

end Loop

section Modules

variable {grep : Text → Text → Bool} {glob : Text → List Text} {MODULES : ModuleList} {text : Text}

end Modules

/-- CONFIG_EFI=y -/
def efi : ModuleList where
  text := "CONFIG_EFI=y"
  requests := [⟨"EFI", "y", by decide, by decide⟩]
  distinct := by decide
  listed := by decide +kernel

end ImageBuilder.Modules
