import Gatehouse.Text.Blank
/-!
# Grammars of command lines

A command line is a list of words: commands inside one another, each with its options and operands.  A `Grammar`
describes one command and those inside it; `Grammar.parse` cuts a list of words into levels, one for each command,
with the values that its options and operands have.

An option is written `--name`, with its value after an equals sign or in the next word, or `-n` for those with a
letter; letters can be put together.  A word after `--` is an operand.  Words are looked at from left to right, and
the first that is out of place, or asks for the version or for help, decides.
-/
namespace Gatehouse
namespace CommandLine

/-- What an option takes. -/
inductive Takes where
  /-- Nothing, and it is given at most once. -/
  | nothing
  /-- Nothing, and it is given any number of times. -/
  | repeats
  /-- One value of a kind. -/
  | value (accepts : String → Bool)

/-- An option. -/
structure Switch where
  name : String
  letter : Option Char
  takes : Takes

/-- A place for an operand, which has to be given. -/
structure Operand where
  name : String
  accepts : String → Bool

/-- A command: its options and operands, the options that have to be given, pairs of options that exclude each other,
and the commands inside it, of which one has to be given if there are any. -/
structure Grammar where
  switches : List Switch
  operands : List Operand
  required : List String
  conflicts : List (String × String)
  commands : List (String × Grammar)

/-- What the words of one command say: the values of its options, empty for those that take none, and of its
operands. -/
structure Level where
  command : String
  options : List (String × String)
  operands : List (String × String)
  deriving DecidableEq, Repr

/-- Why a command line gives no levels. -/
inductive Stop where
  | misused
  | help
  /-- The version is asked for, at the command with the given full name. -/
  | version (command : String)
  deriving DecidableEq, Repr

namespace Level

/-- Whether an option is given. -/
def has (l : Level) (name : String) : Bool := l.options.any fun o => o.1 == name

/-- The value of an option. -/
def option? (l : Level) (name : String) : Option String := l.options.lookup name

/-- The value of an operand. -/
def operand? (l : Level) (name : String) : Option String := l.operands.lookup name

/-- The level with one more option. -/
def withOption (l : Level) (name value : String) : Level := { l with options := l.options ++ [(name, value)] }

end Level

namespace Switch

/-- The level after an option that takes nothing. -/
def mark (s : Switch) (l : Level) : Except Stop Level :=
  match s.takes with
  | .repeats => .ok (l.withOption s.name "")
  | _ => if l.has s.name then .error .misused else .ok (l.withOption s.name "")

/-- The level after an option with its value. -/
def fill (s : Switch) (l : Level) (value : String) : Except Stop Level :=
  match s.takes with
  | .value accepts =>
    if l.has s.name || !accepts value then .error .misused else .ok (l.withOption s.name value)
  | _ => .error .misused

end Switch

namespace Grammar

/-- What one word of options does: the level after it, and the option whose value is the next word. -/
abbrev Step := Except Stop (Level × Option Switch)

/-- The level after an option, or the option that waits for its value. -/
def give (s : Switch) (l : Level) : Step :=
  match s.takes with
  | .value _ => .ok (l, some s)
  | _ => (s.mark l).map fun l => (l, none)

/-- Reads a word after two dashes.  `full` is the full name of the command. -/
def long (g : Grammar) (full : String) (l : Level) (word : List Char) : Step :=
  let (name, value) := match Text.splitFirst? '=' word with
    | some (name, value) => (String.ofList name, some (String.ofList value))
    | none => (String.ofList word, none)
  match g.switches.find? fun s => s.name == name with
  | some s =>
    match value with
    | some value => (s.fill l value).map fun l => (l, none)
    | none => give s l
  | none =>
    if name = "help" && value.isNone then .error .help
    else if name = "version" && value.isNone then .error (.version full)
    else .error .misused

/-- Reads a word after one dash, letter by letter.  What follows the letter of an option with a value is the value. -/
def short (g : Grammar) (full : String) (l : Level) : List Char → Step
  | [] => .ok (l, none)
  | c :: rest =>
    match g.switches.find? fun s => s.letter == some c with
    | some s =>
      match s.takes, rest with
      | .value _, [] => .ok (l, some s)
      | .value _, '=' :: value => (s.fill l (String.ofList value)).map fun l => (l, none)
      | .value _, value => (s.fill l (String.ofList value)).map fun l => (l, none)
      | _, rest =>
        match s.mark l with
        | .ok l => short g full l rest
        | .error e => .error e
    | none =>
      if c = 'h' then .error .help
      else if c = 'V' then .error (.version full)
      else .error .misused

/-- The level after one more operand. -/
def place (g : Grammar) (l : Level) (word : String) : Except Stop Level :=
  match g.operands[l.operands.length]? with
  | some o =>
    if o.accepts word then .ok { l with operands := l.operands ++ [(o.name, word)] } else .error .misused
  | none => .error .misused

/-- Whether a level has what it must have and nothing that excludes each other. -/
def complete (g : Grammar) (l : Level) : Bool :=
  g.operands.all (fun o => (l.operand? o.name).isSome) && g.required.all l.has &&
    !g.conflicts.any (fun (a, b) => l.has a && l.has b)

/-- Whether words name commands inside one another, as those after `help` must. -/
def names (g : Grammar) : List String → Bool
  | [] => true
  | word :: rest =>
    match g.commands.lookup word with
    | some sub => sub.names rest
    | none => false

/-- Whether a word is one of options. -/
def isOption (word : List Char) : Bool :=
  match word with
  | '-' :: _ :: _ => true
  | _ => false

/-- Reads the words of a command and of those inside it.  `waiting` is the option whose value comes next, and `closed`
says that only operands are left. -/
def parseFrom (g : Grammar) (full : String) (l : Level) (waiting : Option Switch) (closed : Bool) :
    List String → Except Stop (List Level)
  | [] =>
    if waiting.isNone && g.commands.isEmpty && g.complete l then .ok [l] else .error .misused
  | word :: rest =>
    let cs := word.toList
    match waiting with
    | some s =>
      if isOption cs then .error .misused
      else match s.fill l word with
        | .error e => .error e
        | .ok l => g.parseFrom full l none closed rest
    | none =>
      match if closed then none else g.commands.lookup word with
      | some sub =>
        match sub.parseFrom (full ++ "-" ++ word) ⟨word, [], []⟩ none false rest with
        | .error e => .error e
        | .ok levels => if g.complete l then .ok (l :: levels) else .error .misused
      | none =>
        if closed || !isOption cs then
          if !closed && word = "help" && !g.commands.isEmpty then
            if g.names rest then .error .help else .error .misused
          else match g.place l word with
            | .error e => .error e
            | .ok l => g.parseFrom full l none closed rest
        else if word = "--" then g.parseFrom full l none true rest
        else
          match (match cs with
            | '-' :: '-' :: name => g.long full l name
            | cs => g.short full l (cs.drop 1)) with
          | .error e => .error e
          | .ok (l, waiting) => g.parseFrom full l waiting closed rest

/-- The levels of a command line, that of the program first. -/
def parse (g : Grammar) (program : String) (words : List String) : Except Stop (List Level) :=
  g.parseFrom program ⟨program, [], []⟩ none false words

end Grammar
end CommandLine
end Gatehouse
