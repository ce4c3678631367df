import Gatehouse.Host.Disk
import Gatehouse.Text.Letters
/-!
# The host

What a process finds around it: environment variables, a disk and the directory it runs in.  Paths in settings may
begin with a tilde for the home directory, and some may name variables.
-/
namespace Gatehouse

/-- The surroundings of a process. -/
structure Host where
  environment : SortedMap String
  disk : Disk
  directory : String

namespace Host

def lookup? (h : Host) (name : String) : Option String := h.environment.get? name

/-- A variable that is set and not empty. -/
def filled? (h : Host) (name : String) : Option String := (h.lookup? name).filter fun v => !v.isEmpty

/-- The home directory. -/
def home (h : Host) : String := (h.filled? "HOME").getD "/root"

/-- The text in a file. -/
def readText (h : Host) (path : String) : Except Disk.Fault String := h.disk.readText h.directory path

/-! ## Tildes and variables -/

/-- A path with the home directory in place of a leading tilde that stands alone or before a slash. -/
def expandTilde (h : Host) (path : String) : String :=
  match path.toList with
  | '~' :: rest => if rest.isEmpty || rest.head? == some '/' then h.home ++ String.ofList rest else path
  | _ => path

/-- A part of a text with references to variables. -/
inductive Piece where
  | plain (text : List Char)
  | reference (name : List Char) (default : Option (List Char))
  deriving DecidableEq, Repr

def isNameChar (c : Char) : Bool := Text.isWordChar c || c = '_'

/-- A name between braces, possibly with a default after `:-`. -/
def Piece.ofBraces (inside : List Char) : Piece :=
  let rec split (before : List Char) : List Char → Option (List Char × List Char)
    | ':' :: '-' :: rest => some (before.reverse, rest)
    | c :: rest => split (c :: before) rest
    | [] => none
  match split [] inside with
  | some (name, default) => if name.isEmpty then .reference inside none else .reference name (some default)
  | none => .reference inside none

/-- The pieces of a text.  A dollar sign before neither a name nor a closed brace stands for itself, two of them for
one. -/
def pieces (fuel : Nat) (text : List Char) : List Piece :=
  match fuel with
  | 0 => [.plain text]
  | fuel + 1 =>
    match text with
    | [] => []
    | '$' :: '{' :: rest =>
      if rest.contains '}' then
        .ofBraces (rest.takeWhile (· ≠ '}')) :: pieces fuel ((rest.dropWhile (· ≠ '}')).drop 1)
      else .plain ['$', '{'] :: pieces fuel rest
    | '$' :: rest =>
      let name := rest.takeWhile isNameChar
      if !name.isEmpty then .reference name none :: pieces fuel (rest.dropWhile isNameChar)
      else .plain ['$'] :: pieces fuel (if rest.head? == some '$' then rest.drop 1 else rest)
    | c :: rest => .plain [c] :: pieces fuel rest

/-- The text that a piece stands for; nothing when a variable without default is not set. -/
def value? (h : Host) : Piece → Option (List Char)
  | .plain text => some text
  | .reference name default =>
    match h.lookup? (String.ofList name) with
    | some v => some v.toList
    | none => default

/-- A path with its variables and its leading tilde expanded.  A tilde that comes out of a variable stays. -/
def expand? (h : Host) (path : String) : Option String := do
  let parts ← (pieces (path.length + 1) path.toList).mapM h.value?
  let text := String.ofList parts.flatten
  if path.toList.head? != some '~' && text.toList.head? == some '~' && path.toList.contains '$' then some text
  else some (h.expandTilde text)

/-! ## Directories of the program -/

/-- The name of the program, as its directories bear it. -/
def appName : String := "adsisto"

/-- What the names of variables that override settings begin with. -/
def variablePrefix : String :=
  String.ofList (appName.toList.map fun c => if c.isAlphanum then c.toUpper else '_')

/-- The directory of configuration files. -/
def configDirectory (h : Host) : String :=
  Disk.join ((h.filled? "XDG_CONFIG_HOME").getD (Disk.join h.home ".config")) appName

/-- The directory of files that the program writes. -/
def stateDirectory (h : Host) : String :=
  Disk.join ((h.filled? "XDG_STATE_HOME").getD (Disk.join (Disk.join h.home ".local") "state")) appName

end Host
end Gatehouse
