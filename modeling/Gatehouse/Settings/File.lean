import Gatehouse.Settings.Layers
import Gatehouse.Text.Quoted
import Gatehouse.Toml.Reader
import Gatehouse.Toml.Writer
/-!
# The settings file

Where the file is, how the settings are loaded from it, and how it is written anew with the defaults.
-/
namespace Gatehouse
namespace Settings

/-- Why there are no settings, or no file of them. -/
inductive FileError where
  /-- A path names an unset variable. -/
  | expansion
  /-- A path that cannot be a file's. -/
  | badPath (path : String)
  /-- A file that is no TOML document. -/
  | load (path : String)
  /-- Values of wrong types. -/
  | decode (path : String)
  | createDirectory (path : String)
  | write (path : String)
  deriving DecidableEq, Repr

def FileError.message : FileError → String
  | expansion => "expanding path"
  | badPath path => "invalid config file path: " ++ Text.quoted path
  | load path => "loading config from " ++ path
  | decode path => "parsing config " ++ path
  | createDirectory path => "creating config directory " ++ Text.quoted path
  | write path => "writing config file to " ++ path

/-- The name of the file in its directory. -/
def fileName : String := "config.toml"

/-- The path of the file: the given one, or the one in a given directory, or else the one among the host's
configuration files. -/
def filePath (h : Host) (given : Option String) : Except FileError String :=
  let path := match given with
    | none => some (Disk.join h.configDirectory fileName)
    | some text =>
      (h.expand? text).map fun path => if h.disk.isDirectory h.directory path then Disk.join path fileName else path
  match path with
  | none => .error .expansion
  | some path => if (Disk.parent? path).isNone then .error (.badPath path) else .ok path

/-- The node of a file. -/
def fileNode? (h : Host) (path : String) : Option Node :=
  match h.disk.look h.directory path with
  | .ok .directory => none
  | .ok node => some node
  | .error _ => none

/-- The path with an ending, which is looked at where the path itself is no file. -/
def withEnding (path : String) : String := String.ofList (Text.dropEnd (· = '/') path.toList) ++ ".toml"

/-- The members that the file gives, none when there is no file. -/
def fileMembers (h : Host) (path : String) : Except FileError (List (String × Json)) :=
  match (fileNode? h path).or (fileNode? h (withEnding path)) with
  | some (.text content) =>
    match Toml.parse? content.toList with
    | some v => .ok (Layers.membersOf v)
    | none => .error (.load path)
  | some _ => .error (.load path)
  | none => .ok []

/-- The settings from all layers. -/
def load (h : Host) (path : String) : Except FileError Settings :=
  match fileMembers h path with
  | .error e => .error e
  | .ok members =>
    match (shape .lenient).decode (Layers.stack h members) with
    | .ok s => .ok s
    | .error _ => .error (.decode path)

/-- The lines before the defaults in a new file. -/
def fileHeader (path : String) : List Char :=
  ("# Configuration for " ++ Host.appName ++ "\n# File: " ++ path ++
    "\n#\n# Set auth.public_key_path and auth.private_key_path before serving.\n\n").toList

/-- The text of a new file. -/
def defaultText (path : String) : String := String.ofList (fileHeader path ++ Toml.write defaults.members)

/-- The disk with a new file of the defaults. -/
def writeDefaults (h : Host) (path : String) : Except FileError Disk :=
  let parent := (Disk.parent? path).getD ""
  match h.disk.createDirectories h.directory parent with
  | .error _ => .error (.createDirectory parent)
  | .ok disk =>
    match disk.writeText h.directory path (defaultText path) with
    | .ok disk => .ok disk
    | .error _ => .error (.write path)

end Settings
end Gatehouse
