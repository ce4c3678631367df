import Gatehouse.CommandLine.Grammar
import Gatehouse.Host.Basic
import Gatehouse.Number.Power
/-!
# The commands of the program

What can be asked of the program (`Command`), the grammar of its command line, and how the levels of a command line
become a command.
-/
namespace Gatehouse
namespace CommandLine

/-- How results are written. -/
inductive Format where
  /-- For people. -/
  | plain
  | json
  | yaml
  deriving DecidableEq, Repr

/-- Where the public key of a command comes from. -/
inductive KeySource where
  | given (key : String)
  | file (path : String)
  | missing
  deriving DecidableEq, Repr

/-- What is done with the settings. -/
inductive SettingsCommand where
  | view
  | path
  | reset
  deriving DecidableEq, Repr

/-- What is done with the registry. -/
inductive KeysCommand where
  | list
  | add (identity : String) (source : KeySource) (level : Nat)
  | update (identity : String) (source : KeySource) (level : Nat)
  | remove (identity : String)
  deriving DecidableEq, Repr

/-- What the program is asked to do. -/
inductive Command where
  | serve (host : Option String) (port : Option Nat)
  /-- Writes a settings file, over an existing one only when forced. -/
  | create (force : Bool)
  | settings (c : SettingsCommand)
  | keys (c : KeysCommand)
  /-- Completions for a shell. -/
  | completions (shell : String)
  deriving DecidableEq, Repr

/-- A command with what is said about all commands. -/
structure Invocation where
  /-- The settings file, if it is not the usual one. -/
  file : Option String
  format : Format
  command : Command
  deriving DecidableEq, Repr

/-! ## Values -/

/-- The natural number up to a limit that a word writes, possibly after a sign. -/
def number? (limit : Nat) (word : String) : Option Nat :=
  let (negative, ds) := match word.toList with
    | '-' :: ds => (true, ds)
    | '+' :: ds => (false, ds)
    | ds => (false, ds)
  let n := ds.foldl (fun n c => n * 10 + (c.toNat - 48)) 0
  if ds.isEmpty || !ds.all Char.isDigit || limit < n || (negative && n ≠ 0) then none else some n

def greatestPort : Nat := 2 ^ 16 - 1

def greatestLevel : Nat := 2 ^ 32 - 1

def anyWord (_ : String) : Bool := true

def isPath (word : String) : Bool := !word.isEmpty

/-! ## The grammar -/

/-- Options that every command has.  Those that concern the log or colours are read and have no other effect. -/
def commonSwitches : List Switch := [
  ⟨"config", none, .value isPath⟩,
  ⟨"quiet", some 'q', .nothing⟩,
  ⟨"verbose", some 'v', .repeats⟩,
  ⟨"debug", none, .nothing⟩,
  ⟨"trace", none, .nothing⟩,
  ⟨"json", none, .nothing⟩,
  ⟨"yaml", none, .nothing⟩,
  ⟨"no-color", none, .nothing⟩,
  ⟨"color", none, .value ["auto", "always", "never"].contains⟩]

def commonConflicts : List (String × String) := [("json", "yaml"), ("no-color", "color")]

/-- A command without commands inside it. -/
def leaf (switches : List Switch) (operands : List Operand) (required : List String)
    (conflicts : List (String × String)) : Grammar :=
  ⟨commonSwitches ++ switches, operands, required, commonConflicts ++ conflicts, []⟩

/-- A command that only holds others. -/
def group (commands : List (String × Grammar)) : Grammar := ⟨commonSwitches, [], [], commonConflicts, commands⟩

def identityOperand : Operand := ⟨"identity", anyWord⟩

/-- A command that gives an identity a key and a level. -/
def keyGrammar (required : List String) : Grammar :=
  leaf [⟨"key-file", none, .value isPath⟩, ⟨"key", none, .value anyWord⟩,
    ⟨"access-level", none, .value fun word => (number? greatestLevel word).isSome⟩] [identityOperand] required
    [("key-file", "key")]

/-- The shells that completions can be asked for. -/
def shells : List String := ["bash", "elvish", "fish", "powershell", "zsh"]

def grammar : Grammar := group [
  ("serve", leaf [⟨"host", none, .value anyWord⟩,
    ⟨"port", some 'p', .value fun word => (number? greatestPort word).isSome⟩] [] [] []),
  ("init", leaf [⟨"force", none, .nothing⟩] [] [] []),
  ("config", group [("show", leaf [] [] [] []), ("path", leaf [] [] [] []), ("reset", leaf [] [] [] [])]),
  ("keys", group [
    ("list", leaf [] [] [] []),
    ("add", keyGrammar []),
    ("update", keyGrammar ["access-level"]),
    ("remove", leaf [] [identityOperand] [] [])]),
  ("completions", leaf [] [⟨"shell", shells.contains⟩] [] [])]

/-! ## From levels to commands -/

namespace Level

/-- The number that an option has. -/
def number? (l : Level) (name : String) (limit : Nat) : Option Nat :=
  (l.option? name).bind (CommandLine.number? limit)

/-- Where a level says that the key comes from. -/
def keySource (l : Level) : KeySource :=
  match l.option? "key", l.option? "key-file" with
  | some key, _ => .given key
  | none, some path => .file path
  | none, none => .missing

/-- The identity that a level is about. -/
def identity (l : Level) : String := (l.operand? "identity").getD ""

/-- The level of access that is asked for. -/
def accessLevel (l : Level) : Nat := (l.number? "access-level" greatestLevel).getD 0

end Level

namespace Command

/-- The command of the levels below the program's. -/
def ofLevels? : List Level → Option Command
  | [l] =>
    match l.command with
    | "serve" => some (.serve (l.option? "host") (l.number? "port" greatestPort))
    | "init" => some (.create (l.has "force"))
    | "completions" => (l.operand? "shell").map .completions
    | _ => none
  | [outer, l] =>
    match outer.command, l.command with
    | "config", "show" => some (.settings .view)
    | "config", "path" => some (.settings .path)
    | "config", "reset" => some (.settings .reset)
    | "keys", "list" => some (.keys .list)
    | "keys", "add" => some (.keys (.add l.identity l.keySource l.accessLevel))
    | "keys", "update" => some (.keys (.update l.identity l.keySource l.accessLevel))
    | "keys", "remove" => some (.keys (.remove l.identity))
    | _, _ => none
  | _ => none

end Command

namespace Invocation

/-- The invocation of all levels.  A common option can be given at any level; of several values the innermost one
counts. -/
def ofLevels? (levels : List Level) : Option Invocation :=
  (Command.ofLevels? (levels.drop 1)).map fun command =>
    { file := levels.reverse.findSome? fun l => l.option? "config"
      format :=
        if levels.any fun l => l.has "json" then .json
        else if levels.any fun l => l.has "yaml" then .yaml
        else .plain
      command }

/-- The invocation that words write. -/
def read (words : List String) : Except Stop Invocation :=
  match grammar.parse Host.appName words with
  | .error e => .error e
  | .ok levels =>
    match ofLevels? levels with
    | some i => .ok i
    | none => .error .misused

end Invocation
end CommandLine
end Gatehouse
