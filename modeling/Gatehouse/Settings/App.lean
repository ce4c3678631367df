import Gatehouse.Settings.Auth
import Gatehouse.Settings.Registry
/-!
# Settings of the program

All settings, section by section: logging, the server, authentication, the registry and the audit log.  A section or
a setting that is left out has its default.
-/
namespace Gatehouse

/-- Settings of logging. -/
structure LoggingSettings where
  level : String
  deriving DecidableEq, Repr

namespace LoggingSettings

def defaults : LoggingSettings := ⟨"info"⟩

def shape (d : Json.Scalars) : Json.Record LoggingSettings where
  name := "LoggingConfig"
  blank := defaults
  fields := [Json.field "level" .defaulted d.text fun v s => { s with level := v }]

def toJson (s : LoggingSettings) : Json := .object [("level", .text s.level)]

end LoggingSettings

/-- Settings of the server. -/
structure ServerSettings where
  host : String
  port : Nat
  /-- The size limit of request bodies, in units of 1024 bytes. -/
  maxBody : Nat
  deriving DecidableEq, Repr

namespace ServerSettings

def defaults : ServerSettings := ⟨"0.0.0.0", 8080, 64⟩

def shape (d : Json.Scalars) : Json.Record ServerSettings where
  name := "ServerConfig"
  blank := defaults
  fields := [
    Json.field "host" .defaulted d.text fun v s => { s with host := v },
    Json.field "port" .defaulted (d.natural .u16) fun v s => { s with port := v },
    Json.field "max_body_kb" .defaulted (d.natural .usize) fun v s => { s with maxBody := v }]

def toJson (s : ServerSettings) : Json :=
  .object [("host", .text s.host), ("port", .int s.port), ("max_body_kb", .int s.maxBody)]

end ServerSettings

/-- Settings of the audit log. -/
structure AuditSettings where
  enabled : Bool
  path : Option String
  deriving DecidableEq, Repr

namespace AuditSettings

def defaults : AuditSettings := ⟨false, none⟩

def shape (d : Json.Scalars) : Json.Record AuditSettings where
  name := "AuditConfig"
  blank := defaults
  fields := [
    Json.field "enabled" .defaulted d.flag fun v s => { s with enabled := v },
    Json.field "path" .defaulted (Json.nullable d.text) fun v s => { s with path := v }]

def toJson (s : AuditSettings) : Json :=
  .object [("enabled", .bool s.enabled), ("path", Json.optional .text s.path)]

/-- The file of the log when it is enabled, `none` inside when its path names an unset variable.  Without a path the
file lies among those that the program writes. -/
def file? (s : AuditSettings) (h : Host) : Option (Option String) :=
  if s.enabled then some (match s.path with
    | some path => h.expand? path
    | none => some (Disk.join h.stateDirectory "audit.jsonl"))
  else none

end AuditSettings

/-- All settings. -/
structure Settings where
  logging : LoggingSettings
  server : ServerSettings
  auth : AuthSettings
  registry : RegistrySettings
  audit : AuditSettings

namespace Settings

def defaults : Settings where
  logging := LoggingSettings.defaults
  server := ServerSettings.defaults
  auth := AuthSettings.defaults
  registry := RegistrySettings.defaults
  audit := AuditSettings.defaults

def shape (d : Json.Scalars) : Json.Record Settings where
  name := "AppConfig"
  blank := defaults
  fields := [
    Json.field "logging" .defaulted (LoggingSettings.shape d).decode fun v s => { s with logging := v },
    Json.field "server" .defaulted (ServerSettings.shape d).decode fun v s => { s with server := v },
    Json.field "auth" .defaulted (AuthSettings.shape d).decode fun v s => { s with auth := v },
    Json.field "registry" .defaulted (RegistrySettings.shape d).decode fun v s => { s with registry := v },
    Json.field "audit" .defaulted (AuditSettings.shape d).decode fun v s => { s with audit := v }]

/-- The sections in order. -/
def members (s : Settings) : List (String × Json) := [
  ("logging", s.logging.toJson),
  ("server", s.server.toJson),
  ("auth", s.auth.toJson),
  ("registry", s.registry.toJson),
  ("audit", s.audit.toJson)]

def toJson (s : Settings) : Json := .object s.members

end Settings
end Gatehouse
