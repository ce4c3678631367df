import Gatehouse.CommandLine.Command
import Gatehouse.Host.Address
import Gatehouse.Http.Service
import Gatehouse.Settings.File
import Gatehouse.Settings.Outline
import Gatehouse.Yaml.Writer
/-!
# Running a command

`run` takes a host and the words of a command line, and gives what is printed and the host after it.  Whatever the
command, the settings are loaded first, so a settings file that cannot be read stops every command.
-/
namespace Gatehouse
namespace CommandLine

/-- Why a command fails. -/
inductive Failure where
  | file (e : Settings.FileError)
  | fileExists (path : String)
  /-- The settings of authentication are bad. -/
  | validation (cause : StartupError)
  | registry (cause : StartupError)
  /-- The server cannot decide who gets in. -/
  | guard (cause : StartupError)
  | auditPath
  | auditDirectory (path : String)
  | auditFile (path : String)
  | address (text : String)
  | binding (place : Address)
  | noKey
  | keyFile (path : String)
  | call (e : RegistryError)
  deriving Repr

def Failure.message : Failure → String
  | file e => e.message
  | fileExists path => "config already exists at " ++ path ++ " (use --force to overwrite)"
  | validation _ => "validating auth configuration"
  | registry _ => "building key registry"
  | guard _ => "initializing authentication"
  | auditPath => "expanding path"
  | auditDirectory path => "creating audit log directory " ++ path
  | auditFile path => "opening audit log file " ++ path
  | address text => "invalid listen address " ++ text
  | binding place => "binding to " ++ place.text
  | noKey => "either --key or --key-file is required"
  | keyFile path => "reading public key " ++ path
  | call e => e.message

/-- How a command ends. -/
inductive Outcome where
  | printed (text : String)
  | failed (failure : Failure)
  /-- The words are no command line of the program. -/
  | misused
  | crashed (crash : Http.Crash)
  /-- The server is ready to listen. -/
  | listening (service : Http.Service) (store : Store) (address : Address)

namespace Outcome

def ofExcept : Except Failure String → Outcome
  | .ok text => printed text
  | .error failure => failed failure

/-- The outcome where nothing can listen. -/
def unbound : Outcome → Outcome
  | listening _ _ address => failed (.binding address)
  | o => o

/-- The exit code of a program that has not begun to listen. -/
def code : Outcome → Nat
  | failed _ => 1
  | misused => 2
  | crashed _ => 101
  | _ => 0

end Outcome

/-- A text as a line. -/
def line (text : String) : String := text ++ "\n"

/-- The host with another disk. -/
def withDisk (h : Host) (disk : Disk) : Host := { h with disk := disk }

/-! ## The settings file -/

/-- Writes the defaults over whatever is there. -/
def reset (h : Host) (path : String) : Except Failure String × Host :=
  match Settings.writeDefaults h path with
  | .ok disk => (.ok "", withDisk h disk)
  | .error e => (.error (.file e), h)

/-- Whether a path leads to anything. -/
def fileExists (h : Host) (path : String) : Bool := (h.disk.look h.directory path).isOk

/-- Writes the defaults where nothing is, or when forced. -/
def create (h : Host) (path : String) (force : Bool) : Except Failure String × Host :=
  if fileExists h path && !force then (.error (.fileExists path), h) else reset h path

/-- The settings in a format. -/
def settingsText (s : Settings) : Format → String
  | .json => line s.toJson.pretty
  | .yaml => line (Yaml.write s.toJson)
  | .plain => line s.outline.render

/-! ## Keys -/

/-- The registry of the settings. -/
def openRegistry (h : Host) (s : Settings) : Except Failure Store :=
  match s.auth.validate with
  | .error e => .error (.validation e)
  | .ok a =>
    match Backends.standard.build h s.registry a.family with
    | .error e => .error (.registry e)
    | .ok store => .ok store

/-- The text of a key. -/
def keyText (h : Host) : KeySource → Except Failure String
  | .given key => .ok key
  | .file path =>
    match h.readText path with
    | .ok text => .ok text
    | .error _ => .error (.keyFile path)
  | .missing => .error .noKey

/-- All records as JSON. -/
def recordsJson (records : SortedMap KeyRecord) : Json := .object (records.entries.map fun (k, r) => (k, r.toJson))

/-- All records in a format; for people, the identity and the level of each on a line. -/
def recordsText (records : SortedMap KeyRecord) : Format → String
  | .json => line (recordsJson records).pretty
  | .yaml => line (Yaml.write (recordsJson records))
  | .plain =>
    String.join (records.entries.map fun (_, r) => line (r.identity ++ "\t" ++ toString r.accessLevel))

/-- The result of a registry call with what is printed of it, and the host as the registry leaves it. -/
def called (h : Host) (print : α → String) (result : Reply α × Store) : Except Failure String × Host :=
  (match result.1.inTime with
    | .ok a => .ok (print a)
    | .error e => .error (.call e), result.2.hostAfter h)

/-- Prints nothing. -/
def silently (_ : Unit) : String := ""

/-- Runs a command on a registry. -/
def runKeys (h : Host) (store : Store) (format : Format) : KeysCommand → Except Failure String × Host
  | .list => called h (recordsText · format) (Registry.all store)
  | .add identity source level =>
    match keyText h source with
    | .error e => (.error e, h)
    | .ok key => called h silently (Registry.insert store identity key level)
  | .update identity source level =>
    match keyText h source with
    | .error e => (.error e, h)
    | .ok key => called h silently (Registry.update store identity key level)
  | .remove identity => called h silently (Registry.delete store identity)

/-! ## The server -/

/-- The host with an audit log that can be appended to. -/
def openAudit (h : Host) (s : AuditSettings) : Except Failure Host :=
  match s.file? h with
  | none => .ok h
  | some none => .error .auditPath
  | some (some path) =>
    match (match Disk.parent? path with
      | none => .ok h.disk
      | some parent => (h.disk.createDirectories h.directory parent).mapError fun _ => .auditDirectory parent :
        Except Failure Disk) with
    | .error e => .error e
    | .ok disk =>
      match disk.look h.directory path with
      | .ok .directory => .error (.auditFile path)
      | .ok _ => .ok (withDisk h disk)
      | .error _ =>
        match disk.writeText h.directory path "" with
        | .ok disk => .ok (withDisk h disk)
        | .error _ => .error (.auditFile path)

/-- Prepares the server up to listening. -/
def prepare (h : Host) (s : Settings) (host : Option String) (port : Option Nat) : Outcome × Host :=
  match Guard.start h s.auth s.registry Backends.standard with
  | .error e => (.failed (.guard e), h)
  | .ok (guard, store) =>
    match openAudit h s.audit with
    | .error e => (.failed e, h)
    | .ok h =>
      match Http.Service.create guard s.server.maxBody with
      | .error crash => (.crashed crash, h)
      | .ok service =>
        let text := host.getD s.server.host ++ ":" ++ toString (port.getD s.server.port)
        match Address.read? text with
        | none => (.failed (.address text), h)
        | some address => (.listening service store address, h)

/-! ## Commands -/

/-- Runs a command with the settings and the path of their file. -/
def runCommand (h : Host) (path : String) (s : Settings) (format : Format) : Command → Outcome × Host
  | .serve host port => prepare h s host port
  | .create force => (create h path force).map .ofExcept id
  | .settings .view => (.printed (settingsText s format), h)
  | .settings .path => (.printed (line path), h)
  | .settings .reset => (reset h path).map .ofExcept id
  | .keys c =>
    match openRegistry h s with
    | .error e => (.failed e, h)
    | .ok store => (runKeys h store format c).map .ofExcept id
  | .completions _ => (.printed "", h)

/-- Runs an invocation: finds the settings file, loads the settings, and runs the command. -/
def invoke (h : Host) (i : Invocation) : Outcome × Host :=
  match Settings.filePath h i.file with
  | .error e => (.failed (.file e), h)
  | .ok path =>
    match Settings.load h path with
    | .error e => (.failed (.file e), h)
    | .ok s => runCommand h path s i.format i.command

/-- What is printed on request of help. -/
def usage : String := line ("Usage: " ++ Host.appName ++ " [OPTIONS] <COMMAND>")

/-- Runs the words of a command line. -/
def run (h : Host) (words : List String) : Outcome × Host :=
  match Invocation.read words with
  | .ok i => invoke h i
  | .error .misused => (.misused, h)
  | .error .help => (.printed usage, h)
  | .error (.version command) => (.printed (line (command ++ " " ++ Http.version)), h)

end CommandLine
end Gatehouse
