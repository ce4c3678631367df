import Gatehouse.Settings.App
import Gatehouse.Text.Outline
/-!
# Outlines of the settings

All settings in the order of their fields, under the names that their sections have in messages.
-/
namespace Gatehouse

def LoggingSettings.outline (s : LoggingSettings) : Outline :=
  .record (shape .strict).name [("level", .text s.level)]

def ServerSettings.outline (s : ServerSettings) : Outline :=
  .record (shape .strict).name [
    ("host", .text s.host),
    ("port", .number s.port),
    ("max_body_kb", .number s.maxBody)]

def AuthSettings.outline (s : AuthSettings) : Outline :=
  .record (shape .strict).name [
    ("algorithm", .text s.algorithm),
    ("public_key_path", .optional s.publicKeyPath),
    ("public_key", .optional s.publicKey),
    ("private_key_path", .optional s.privateKeyPath),
    ("private_key", .optional s.privateKey),
    ("authn_timeout_secs", .number s.assertionTimeout),
    ("session_timeout_secs", .number s.sessionTimeout),
    ("leeway_secs", .number s.leeway),
    ("cookie_name", .text s.cookieName),
    ("cookie_secure", .flag s.cookieSecure),
    ("login_path", .text s.loginPath),
    ("admin_access_level", .number s.adminLevel),
    ("registry_timeout_ms", .number s.registryTimeout)]

def SeedKey.outline (s : SeedKey) : Outline :=
  .record (shape .strict).name [
    ("public_key", .optional s.publicKey),
    ("public_key_path", .optional s.publicKeyPath),
    ("access_level", .number s.accessLevel)]

def MemorySettings.outline (s : MemorySettings) : Outline :=
  .record (shape .strict).name [
    ("read_only", .flag s.readOnly),
    ("keys", .map (s.keys.entries.map fun (identity, key) => (Text.quoted identity, key.outline)))]

def Queries.outline (s : Queries) : Outline :=
  .record (shape .strict).name [
    ("select", .text s.select),
    ("index", .text s.index),
    ("insert", .text s.insert),
    ("update", .text s.update),
    ("delete", .text s.delete)]

def DatabaseSettings.outline (s : DatabaseSettings) : Outline :=
  .record (shape .strict).name [
    ("url", .text s.url),
    ("create_schema", .flag s.createSchema),
    ("max_connections", .number s.maxConnections),
    ("acquire_timeout_ms", .number s.acquireTimeout),
    ("queries", s.queries.outline)]

def RegistrySettings.outline (s : RegistrySettings) : Outline :=
  .record (shape .strict).name [
    ("backend", .text s.backend),
    ("memory", s.memory.outline),
    ("sqlite", s.database.outline)]

def AuditSettings.outline (s : AuditSettings) : Outline :=
  .record (shape .strict).name [
    ("enabled", .flag s.enabled),
    ("path", .optional s.path)]

def Settings.outline (s : Settings) : Outline :=
  .record (shape .strict).name [
    ("logging", s.logging.outline),
    ("server", s.server.outline),
    ("auth", s.auth.outline),
    ("registry", s.registry.outline),
    ("audit", s.audit.outline)]

end Gatehouse
