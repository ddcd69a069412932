import ImageBuilder.EnvText

set_option autoImplicit false

/- The text of a script for the shell of U-Boot: its words, its commands, its control
flow, and the command that it all comes to. A text that uses more of the language than
is read here is none. -/
namespace Hush

open PlainText EnvText

section Words

/-- A word is between double quotes as a whole, or no part of it is. -/
structure Word where
  quoted : Bool
  pieces : List Piece
  deriving DecidableEq

inductive Token
  | word (word : Word)
  | andAnd
  | semicolon
  deriving DecidableEq

/-- Where in a line the lexer is: outside of quotes, between them, right behind them,
behind a `$`, in a name with or without braces, behind the first `&`, in a comment. -/
inductive Mode
  | bare
  | quote
  | closed
  | dollar (quoted : Bool)
  | braced (quoted : Bool) (name : Text)
  | named (quoted : Bool) (name : Text)
  | ampersand
  | comment
  | stuck
  deriving DecidableEq

/-- The word that has been begun has its newest piece first. -/
structure Lexer where
  mode : Mode
  word : Option (List Piece)
  tokens : List Token
  deriving DecidableEq

def isNameChar (c : Char) : Bool := c.isAlphanum || c == '_'

/-- Outside of quotes these have a meaning that is not read here. -/
def reserved : Text := ['|', '<', '>', '(', ')', '`', '\'', '\\', '*', '?', '[']

def Lexer.push (lexer : Lexer) (c : Char) : Lexer :=
  { lexer with
    word := some (match lexer.word with
      | some (.lit text :: older) => .lit (text ++ [c]) :: older
      | some older => .lit [c] :: older
      | none => [.lit [c]]) }

def Lexer.pushVar (lexer : Lexer) (name : Text) : Lexer :=
  { lexer with word := some (.var name :: lexer.word.getD []) }

def Lexer.emit (lexer : Lexer) (quoted : Bool) : Lexer :=
  match lexer.word with
  | some pieces =>
      { lexer with word := none, tokens := lexer.tokens ++ [.word ⟨quoted, pieces.reverse⟩] }
  | none => lexer

def Lexer.put (lexer : Lexer) (token : Token) : Lexer :=
  { lexer with tokens := lexer.tokens ++ [token] }

def Lexer.goto (lexer : Lexer) (mode : Mode) : Lexer := { lexer with mode := mode }

def Lexer.inBare (lexer : Lexer) (c : Char) : Lexer :=
  if isBlank c then (lexer.emit false).goto .bare
  else if c == '"' then
    if lexer.word = none then { lexer with mode := .quote, word := some [] }
    else lexer.goto .stuck
  else if c == '$' then lexer.goto (.dollar false)
  else if c == ';' then ((lexer.emit false).put .semicolon).goto .bare
  else if c == '&' then (lexer.emit false).goto .ampersand
  else if c == '#' && lexer.word.isNone then lexer.goto .comment
  else if reserved.contains c then lexer.goto .stuck
  else (lexer.push c).goto .bare

def Lexer.inQuote (lexer : Lexer) (c : Char) : Lexer :=
  if c == '"' then (lexer.emit true).goto .closed
  else if c == '$' then lexer.goto (.dollar true)
  else if c == '\\' || c == '`' then lexer.goto .stuck
  else (lexer.push c).goto .quote

/-- The rest of the word behind a variable. -/
def Lexer.inWord (lexer : Lexer) (quoted : Bool) : Char → Lexer :=
  if quoted then lexer.inQuote else lexer.inBare

def Lexer.step (lexer : Lexer) (c : Char) : Lexer :=
  match lexer.mode with
  | .bare => lexer.inBare c
  | .quote => lexer.inQuote c
  | .closed =>
      if isBlank c || c == ';' || c == '&' then lexer.inBare c else lexer.goto .stuck
  | .dollar quoted =>
      if c == '\x7b' then lexer.goto (.braced quoted [])
      else if isNameChar c then lexer.goto (.named quoted [c])
      else lexer.goto .stuck
  | .braced quoted name =>
      if c == '\x7d' then (lexer.pushVar name).goto (if quoted then .quote else .bare)
      else if isNameChar c then lexer.goto (.braced quoted (name ++ [c]))
      else lexer.goto .stuck
  | .named quoted name =>
      if isNameChar c then lexer.goto (.named quoted (name ++ [c]))
      else (lexer.pushVar name).inWord quoted c
  | .ampersand => if c == '&' then (lexer.put .andAnd).goto .bare else lexer.goto .stuck
  | .comment | .stuck => lexer

/-- What the line holds, if it does not end within quotes. -/
def Lexer.done (lexer : Lexer) : Option (List Token) :=
  match lexer.mode with
  | .bare | .closed | .comment => some (lexer.emit false).tokens
  | .named false name => some ((lexer.pushVar name).emit false).tokens
  | _ => none

def Lexer.start : Lexer := ⟨.bare, none, []⟩

def lex (line : Text) : Option (List Token) := (line.foldl Lexer.step Lexer.start).done

end Words

section Commands

/-- The commands of the boot scripts; `echo` and `fdt` are quiet ones. -/
inductive Simple
  | setenv (name : Text) (value : List Piece)
  | partUuid (device : List (List Piece)) (name : Text)
  | load (line : List (List Piece))
  | envImport (address size : List Piece)
  | quiet
  | boot (command : Text) (kernel ramdisk fdt : List Piece)
  deriving DecidableEq

inductive Condition
  | found (args : List (List Piece))
  | nonempty (args : List (List Piece))
  deriving DecidableEq

/-- What stands between two separators. -/
inductive Item
  | if_ (condition : Condition)
  | elif (condition : Condition)
  | then_
  | else_
  | fi
  | for_ (name : Text) (list : List (List Piece))
  | do_
  | done
  | commands (list : List Simple)
  deriving DecidableEq

def Token.asWord : Token → Option Word
  | .word single => some single
  | _ => none

def Word.literal : Word → Option Text
  | ⟨false, [.lit text]⟩ => some text
  | _ => none

def Word.unquoted : Word → Option (List Piece)
  | ⟨false, pieces⟩ => some pieces
  | _ => none

def Word.is (word : Word) (text : Text) : Bool := word.literal = some text

def quietCommands : List Text := [("echo" : Text), ("fdt" : Text)]

def bootCommands : List Text := [("booti" : Text), ("bootm" : Text)]

/-- A value has to be quoted: `setenv` joins what is not. -/
def Simple.of : List Word → Option Simple
  | [] => none
  | command :: args => do
      let name ← command.literal
      if name = ("setenv" : Text) then
        match args with
        | [variable', ⟨true, value⟩] => variable'.literal.map (.setenv · value)
        | _ => none
      else if name = ("part" : Text) then
        match args with
        | [subcommand, device, part, variable'] =>
            if subcommand.is ("uuid" : Text) then
              some (.partUuid [← device.unquoted, ← part.unquoted] (← variable'.literal))
            else none
        | _ => none
      else if name = ("env" : Text) then
        match args with
        | [subcommand, option, address, size] =>
            if subcommand.is ("import" : Text) ∧ option.is ("-t" : Text) then
              some (.envImport (← address.unquoted) (← size.unquoted))
            else none
        | _ => none
      else if name ∈ loaders then some (.load (← (command :: args).mapM Word.unquoted))
      else if name ∈ quietCommands then some .quiet
      else if name ∈ bootCommands then
        match args with
        | [kernel, ramdisk, fdt] =>
            some (.boot name (← kernel.unquoted) (← ramdisk.unquoted) (← fdt.unquoted))
        | _ => none
      else none

def Condition.of : List Word → Option Condition
  | command :: option :: args =>
      if command.is ("test" : Text) then
        if option.is ("-e" : Text) then (args.mapM Word.unquoted).map .found
        else if option.is ("-n" : Text) then (args.mapM Word.unquoted).map .nonempty
        else none
      else none
  | _ => none

/-- A word of the control flow, with what belongs to it. -/
def Item.control : List Word → Option Item
  | [word] =>
      if word.is ("then" : Text) then some .then_
      else if word.is ("else" : Text) then some .else_
      else if word.is ("fi" : Text) then some .fi
      else if word.is ("do" : Text) then some .do_
      else if word.is ("done" : Text) then some .done
      else none
  | word :: second :: rest =>
      if word.is ("if" : Text) then (Condition.of (second :: rest)).map .if_
      else if word.is ("elif" : Text) then (Condition.of (second :: rest)).map .elif
      else if word.is ("for" : Text) then
        match rest with
        | separator :: list =>
            if separator.is ("in" : Text) then
              second.literal.bind fun name => (list.mapM Word.unquoted).map (.for_ name)
            else none
        | [] => none
      else none
  | [] => none

/-- Commands with `&&` between them. -/
def Item.plain (tokens : List Token) : Option Item := do
  let words ← (tokens.splitOn .andAnd).mapM fun part => part.mapM Token.asWord
  some (.commands (← words.mapM Simple.of))

def Item.of (tokens : List Token) : Option (List Item) :=
  if tokens = [] then some []
  else (((tokens.mapM Token.asWord).bind Item.control).orElse fun _ => Item.plain tokens).map ([·])

def lineItems (line : Text) : Option (List Item) := do
  let tokens ← lex line
  some (← (tokens.splitOn .semicolon).mapM Item.of).flatten

def linesItems : List Text → Option (List Item)
  | [] => some []
  | line :: rest => do some ((← lineItems line) ++ (← linesItems rest))

end Commands

section Control

variable (world : World)

def Simple.command : Simple → Command
  | .setenv name value => Hush.setenv name value
  | .partUuid device name => Hush.partUuid world device name
  | .load line => Hush.load world line
  | .envImport address size => Hush.envImport world address size
  | .quiet => skip
  | .boot command kernel ramdisk fdt => Hush.boot command kernel ramdisk fdt

def Condition.test : Condition → Test
  | .found args => testE world args
  | .nonempty args => testN args

/-- `first && second` -/
def andList : List Command → Command
  | [] => skip
  | [command] => command
  | first :: second :: rest => andThen first (andList (second :: rest))

/-- `if` with the `elif` behind it, and what is done if none of them holds. -/
def alternatives : List (Test × Command) → Command → Command
  | [], otherwise => otherwise
  | (test, yes) :: rest, otherwise => ifThen test yes (alternatives rest otherwise)

/-- What is open, with the commands that stand in front of it and what of it has been
read. -/
inductive Frame
  | condition (before : List Command) (chain : List (Test × Command)) (test : Test)
  | branch (before : List Command) (chain : List (Test × Command)) (test : Test)
  | otherwise (before : List Command) (chain : List (Test × Command))
  | list (before : List Command) (name : Text) (words : List (List Piece))
  | loop (before : List Command) (name : Text) (words : List (List Piece))

structure Parser where
  frames : List Frame
  /-- Of the innermost that is open. -/
  commands : List Command

/-- Behind `if` and its condition only `then` can come, behind `for` only `do`. -/
def Parser.step (parser : Parser) (item : Item) : Option Parser :=
  match item, parser.frames with
  | .then_, .condition before chain test :: frames =>
      some ⟨.branch before chain test :: frames, []⟩
  | .do_, .list before name words :: frames => some ⟨.loop before name words :: frames, []⟩
  | _, .condition _ _ _ :: _ | _, .list _ _ _ :: _ => none
  | .if_ condition, frames =>
      some ⟨.condition parser.commands [] (condition.test world) :: frames, []⟩
  | .for_ name words, frames => some ⟨.list parser.commands name words :: frames, []⟩
  | .commands list, frames =>
      some ⟨frames, parser.commands ++ [andList (list.map (Simple.command world))]⟩
  | .elif condition, .branch before chain test :: frames =>
      some ⟨.condition before (chain ++ [(test, sequence parser.commands)])
        (condition.test world) :: frames, []⟩
  | .else_, .branch before chain test :: frames =>
      some ⟨.otherwise before (chain ++ [(test, sequence parser.commands)]) :: frames, []⟩
  | .fi, .branch before chain test :: frames =>
      some ⟨frames, before ++
        [alternatives (chain ++ [(test, sequence parser.commands)]) skip]⟩
  | .fi, .otherwise before chain :: frames =>
      some ⟨frames, before ++ [alternatives chain (sequence parser.commands)]⟩
  | .done, .loop before name words :: frames =>
      some ⟨frames, before ++ [forWords name words (sequence parser.commands)]⟩
  | _, _ => none

/-- Nothing may be left open at the end. -/
def Parser.whole (parser : Parser) : Option Command :=
  if parser.frames.isEmpty then some (sequence parser.commands) else none

def Parser.run (parser : Parser) (items : List Item) : Option Parser :=
  items.foldlM (Parser.step world) parser

def parse (items : List Item) : Option Command := (Parser.run world ⟨[], []⟩ items).bind Parser.whole

/-- A line that ends with a backslash goes on with the next one. -/
def joined : List Text → List Text
  | [] => []
  | line :: rest =>
      if line.getLast? = some '\\' then
        match joined rest with
        | next :: later => (line.dropLast ++ next) :: later
        | [] => [line.dropLast]
      else line :: joined rest

def scriptItems (text : Text) : Option (List Item) := linesItems (joined (textLines text))

/-- What `source` does with the text of a script. -/
def source (text : Text) : Option Command := (scriptItems text).bind (parse world)

end Control

section Loads

def Item.loads : Item → List (List (List Piece))
  | .commands list => list.filterMap fun
      | .load line => some line
      | _ => none
  | _ => []

/-- The load commands of a script, in their order. -/
def scriptLoads (text : Text) : List (List (List Piece)) :=
  ((scriptItems text).getD []).flatMap Item.loads

/-- Those among them that load to the address in a variable. -/
def loadsTo (address : String) (lines : List (List (List Piece))) : List (List (List Piece)) :=
  lines.filter fun words => words[3]? = some [v address]

end Loads

section Parsing

variable {world : World} {first second : List Item} {one two : List Command}

/-- Outside of all control flow the items come to these commands more. -/
def Adds (world : World) (items : List Item) (commands : List Command) : Prop :=
  ∀ before, Parser.run world ⟨[], before⟩ items = some ⟨[], before ++ commands⟩

theorem Adds.append (early : Adds world first one) (late : Adds world second two) :
    Adds world (first ++ second) (one ++ two) := by
  intro before
  have start := early before
  have rest := late (before ++ one)
  unfold Parser.run at start rest ⊢
  rw [List.foldlM_append, start, ← List.append_assoc]
  exact rest

theorem parse_of_adds (adds : Adds world first one) : parse world first = some (sequence one) := by
  rw [parse, adds []]
  rfl

end Parsing

section Reading

variable {first second : List Text} {one two : List Item}

theorem joined_ne_nil (line : Text) (rest : List Text) : joined (line :: rest) ≠ [] := by
  rw [joined]
  split
  · split <;> exact List.cons_ne_nil _ _
  · exact List.cons_ne_nil _ _

/-- What is joined stays within a stretch of lines whose last one ends for good. -/
theorem joined_append (first second : List Text)
    (ended : ∀ line ∈ first.getLast?, line.getLast? ≠ some '\\') :
    joined (first ++ second) = joined first ++ joined second := by
  induction first with
  | nil => rfl
  | cons line rest ih =>
      cases rest with
      | nil =>
          have last := ended line rfl
          rw [List.cons_append, joined, joined, if_neg last, if_neg last]
          rfl
      | cons next later =>
          have ih := ih ended
          rw [List.cons_append, joined, joined, ih]
          cases tail : joined (next :: later) with
          | nil => exact absurd tail (joined_ne_nil next later)
          | cons following others =>
              split <;> rfl

theorem linesItems_append (first second : List Text) (readFirst : linesItems first = some one)
    (readSecond : linesItems second = some two) :
    linesItems (first ++ second) = some (one ++ two) := by
  induction first generalizing one with
  | nil =>
      obtain rfl := Option.some.inj readFirst
      exact readSecond
  | cons line rest ih =>
      rw [linesItems] at readFirst
      cases head : lineItems line with
      | none =>
          rw [head] at readFirst
          cases readFirst
      | some items =>
          cases tail : linesItems rest with
          | none =>
              rw [head, tail] at readFirst
              cases readFirst
          | some later =>
              rw [head, tail] at readFirst
              obtain rfl := Option.some.inj readFirst
              rw [List.cons_append, linesItems, head, ih tail, List.append_assoc]
              rfl

/-- Two stretches of lines are read one after the other. -/
theorem joined_read (readFirst : linesItems (joined first) = some one)
    (readSecond : linesItems (joined second) = some two)
    (ended : ∀ line ∈ first.getLast?, line.getLast? ≠ some '\\') :
    linesItems (joined (first ++ second)) = some (one ++ two) := by
  rw [joined_append first second ended]
  exact linesItems_append _ _ readFirst readSecond

theorem line_read (line : Text) (read : lineItems line = some one)
    (ended : line.getLast? ≠ some '\\') : linesItems (joined [line]) = some one := by
  rw [joined, if_neg ended, joined, linesItems, read, linesItems]
  exact congrArg some (List.append_nil one)

theorem lex_comment (rest : Text) : lex ('#' :: rest) = some [] := by
  have stays : ∀ text : Text, text.foldl Lexer.step ⟨.comment, none, []⟩ =
      ⟨.comment, none, []⟩ := by
    intro text
    induction text with
    | nil => rfl
    | cons c text ih => exact ih
  rw [lex, List.foldl_cons]
  change (List.foldl Lexer.step ⟨.comment, none, []⟩ rest).done = some []
  rw [stays]
  rfl

/-- What has no meaning between quotes is taken as it is. -/
def Quotable (c : Char) : Prop := c ≠ '"' ∧ c ≠ '$' ∧ c ≠ '\\' ∧ c ≠ '`'

theorem quote_step (lexer : Lexer) (c : Char) (quoting : lexer.mode = .quote)
    (quotable : Quotable c) : lexer.step c = lexer.push c := by
  obtain ⟨close, dollar, escape, tick⟩ := quotable
  obtain ⟨mode, word, tokens⟩ := lexer
  obtain rfl : mode = .quote := quoting
  simp only [Lexer.step, Lexer.inQuote, beq_iff_eq, close, dollar, if_false, Bool.or_self,
    Bool.false_eq_true, beq_eq_false_iff_ne.mpr escape, beq_eq_false_iff_ne.mpr tick]
  rfl

theorem quote_more (text begun : Text) (older : List Piece) (tokens : List Token)
    (quotable : ∀ c ∈ text, Quotable c) :
    text.foldl Lexer.step ⟨.quote, some (.lit begun :: older), tokens⟩ =
      ⟨.quote, some (.lit (begun ++ text) :: older), tokens⟩ := by
  induction text generalizing begun with
  | nil => rw [List.append_nil]; rfl
  | cons c rest ih =>
      rw [List.forall_mem_cons] at quotable
      rw [List.foldl_cons, quote_step _ c rfl quotable.1]
      change List.foldl Lexer.step ⟨.quote, some (.lit (begun ++ [c]) :: older), tokens⟩ rest = _
      rw [ih (begun ++ [c]) quotable.2, List.append_assoc]
      rfl

/-- A text between quotes, begun and not yet ended. -/
theorem quote_text (text : Text) (tokens : List Token) (some' : text ≠ [])
    (quotable : ∀ c ∈ text, Quotable c) :
    text.foldl Lexer.step ⟨.quote, some [], tokens⟩ =
      ⟨.quote, some [.lit text], tokens⟩ := by
  cases text with
  | nil => exact absurd rfl some'
  | cons c rest =>
      rw [List.forall_mem_cons] at quotable
      rw [List.foldl_cons, quote_step _ c rfl quotable.1]
      exact quote_more rest [c] [] tokens quotable.2

/-- The line that gives a variable a quoted value. -/
theorem setenv_read (line name : Text) (value : List Piece)
    (words : lex line =
      some [.word ⟨false, ["setenv"]⟩, .word ⟨false, [.lit name]⟩, .word ⟨true, value⟩]) :
    lineItems line = some [.commands [.setenv name value]] := by
  generalize tokens : [Token.word ⟨false, ["setenv"]⟩, .word ⟨false, [.lit name]⟩,
    .word ⟨true, value⟩] = list at words
  have whole (separator : Token) (isSeparator : separator.asWord = none) :
      list.splitOn separator = [list] := by
    apply List.splitOn_eq_singleton
    rw [← tokens]
    intro member
    simp only [List.mem_cons, List.not_mem_nil, or_false] at member
    rcases member with is | is | is <;> rw [is] at isSeparator <;> cases isSeparator
  have given : list.mapM Token.asWord =
      some [⟨false, ["setenv"]⟩, ⟨false, [.lit name]⟩, ⟨true, value⟩] := by
    rw [← tokens]
    rfl
  have control : Item.control [⟨false, ["setenv"]⟩, ⟨false, [.lit name]⟩, ⟨true, value⟩] =
      none := by
    simp [Item.control, Word.is, Word.literal]
  have simple : Simple.of [⟨false, ["setenv"]⟩, ⟨false, [.lit name]⟩, ⟨true, value⟩] =
      some (.setenv name value) := by
    simp [Simple.of, Word.literal]
  have plain : Item.plain list = some (.commands [.setenv name value]) := by
    rw [Item.plain, whole .andAnd rfl]
    simp only [List.mapM_cons, List.mapM_nil, given, Option.pure_def, Option.bind_eq_bind,
      Option.bind_some, simple]
  have item : Item.of list = some [.commands [.setenv name value]] := by
    rw [Item.of, if_neg (by rw [← tokens]; exact List.cons_ne_nil _ _), given, Option.bind_some,
      control, plain]
    rfl
  rw [lineItems, words]
  simp only [Option.bind_eq_bind, Option.bind_some, whole .semicolon rfl, List.mapM_cons,
    List.mapM_nil, item, Option.pure_def]
  rfl

end Reading

end Hush
