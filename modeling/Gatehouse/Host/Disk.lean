import Gatehouse.Sql.Table
import Gatehouse.Text.Blank
/-!
# Files and directories

A disk is what a process can see of one: a tree of directories, texts and databases, addressed by paths.  A path is
followed name by name, so every directory on the way has to exist, also one that `..` leaves again.
-/
namespace Gatehouse

/-- What a name on a disk stands for. -/
inductive Node where
  | directory
  | text (content : String)
  | database (content : Sql.Database)

/-- A disk as the nodes under their absolute paths.  The root is always a directory. -/
structure Disk where
  nodes : SortedMap Node

namespace Disk

/-- Why a file operation fails. -/
inductive Fault where
  | notFound
  | exists
  | notDirectory
  | isDirectory
  | notText
  deriving DecidableEq, Repr

def Fault.message : Fault → String
  | notFound => "No such file or directory (os error 2)"
  | .exists => "File exists (os error 17)"
  | notDirectory => "Not a directory (os error 20)"
  | isDirectory => "Is a directory (os error 21)"
  | notText => "stream did not contain valid UTF-8"

def empty : Disk := ⟨SortedMap.empty⟩

instance : Inhabited Disk := ⟨empty⟩

/-! ## Paths -/

/-- The names in a path. -/
def names (path : String) : List String :=
  ((Text.splitOn '/' path.toList).map String.ofList).filter fun name => !name.isEmpty

def isAbsolute (path : String) : Bool := path.toList.head? == some '/'

/-- Whether a path ends in a slash, so that only a directory can be meant. -/
def namesDirectory (path : String) : Bool := path.toList.getLast? == some '/'

/-- The path that names something inside a directory. -/
def join (directory name : String) : String :=
  if isAbsolute name || directory.isEmpty then name
  else if namesDirectory directory then directory ++ name
  else directory ++ "/" ++ name

/-- The directory that a path lies in, if it names anything. -/
def parent? (path : String) : Option String :=
  let slash (c : Char) : Bool := c = '/'
  let trimmed := Text.dropEnd slash path.toList
  if trimmed.isEmpty then none
  else
    let upTo := Text.dropEnd (fun c => !slash c) trimmed
    let above := Text.dropEnd slash upTo
    some (String.ofList (if above.isEmpty && !upTo.isEmpty then ['/'] else above))

/-- The absolute path of a list of names. -/
def address (place : List String) : String := String.join (place.map fun name => "/" ++ name)

/-! ## Nodes -/

/-- What a list of names leads to. -/
def node? (d : Disk) (place : List String) : Option Node :=
  if place.isEmpty then some .directory else d.nodes.get? (address place)

/-- Goes into a directory for the next name. -/
def enter (d : Disk) (place : List String) : Except Fault Unit :=
  match d.node? place with
  | some .directory => .ok ()
  | some _ => .error .notDirectory
  | none => .error .notFound

/-- Where names lead from a place; the last of them need not exist. -/
def follow (d : Disk) (place : List String) : List String → Except Fault (List String)
  | [] => .ok place
  | name :: rest =>
    match d.enter place with
    | .error fault => .error fault
    | .ok () =>
      if name = "." then d.follow place rest
      else if name = ".." then d.follow place.dropLast rest
      else d.follow (place ++ [name]) rest

/-- Where a path leads from a directory. -/
def resolve (d : Disk) (directory path : String) : Except Fault (List String) :=
  if path.isEmpty then .error .notFound
  else if isAbsolute path then d.follow [] (names path)
  else d.follow (names directory) (names path)

/-- What is at a path. -/
def look (d : Disk) (directory path : String) : Except Fault Node := do
  let place ← d.resolve directory path
  match d.node? place with
  | some node =>
    match node with
    | .directory => .ok node
    | _ => if namesDirectory path then .error .notDirectory else .ok node
  | none => .error .notFound

/-- Whether a path leads to a directory. -/
def isDirectory (d : Disk) (directory path : String) : Bool :=
  match d.look directory path with
  | .ok .directory => true
  | _ => false

/-- The disk with a node at a place. -/
def put (d : Disk) (place : List String) (node : Node) : Disk := ⟨d.nodes.insert (address place) node⟩

/-! ## Operations -/

/-- The text in a file. -/
def readText (d : Disk) (directory path : String) : Except Fault String := do
  match ← d.look directory path with
  | .text content => .ok content
  | .directory => .error .isDirectory
  | .database _ => .error .notText

/-- Creates the directories that a list of names leads through. -/
def createFrom (d : Disk) (place : List String) : List String → Except Fault Disk
  | [] => .ok d
  | name :: rest =>
    let next := if name = "." then place else if name = ".." then place.dropLast else place ++ [name]
    match d.node? next with
    | some .directory => d.createFrom next rest
    | some _ => .error (if rest.isEmpty then .exists else .notDirectory)
    | none => (d.put next .directory).createFrom next rest

/-- The disk with a directory and all that it lies in. -/
def createDirectories (d : Disk) (directory path : String) : Except Fault Disk :=
  if isAbsolute path then d.createFrom [] (names path) else d.createFrom (names directory) (names path)

/-- The disk with a text in a file, which may be new. -/
def writeText (d : Disk) (directory path content : String) : Except Fault Disk := do
  let place ← d.resolve directory path
  match d.node? place with
  | some .directory => .error .isDirectory
  | some _ => if namesDirectory path then .error .notDirectory else .ok (d.put place (.text content))
  | none =>
    match d.enter place.dropLast with
    | .ok () => if namesDirectory path then .error .isDirectory else .ok (d.put place (.text content))
    | .error fault => .error fault

end Disk
end Gatehouse
