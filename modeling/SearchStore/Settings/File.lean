import SearchStore.Json.Decode
import SearchStore.Settings.Basic
import SearchStore.Toml.Statement

/-!
Settings files. A file is a TOML text with a table for each group of settings; what it leaves out
has its default, and what it says beside is passed over.
-/

set_option autoImplicit false

namespace SearchStore

open Json (Draft)

def ServerSettings.ofDraft? (d : Draft) : Option ServerSettings := do
  match ← d.slots? ["host", "port", "max_body_size"] with
  | [host, port, size] =>
      some
        { host := ← host.withDefault default.host Draft.string?
          port := ← port.withDefault default.port (Draft.nat? Draft.greatest16)
          maxBodySize := ← size.withDefault default.maxBodySize (Draft.nat? Draft.greatest64) }
  | _ => none

def DatabaseSettings.ofDraft? (d : Draft) : Option DatabaseSettings := do
  match ← d.slots? ["address", "user", "password", "database", "max_connections"] with
  | [address, user, password, database, connections] =>
      some
        { address := ← address.withDefault default.address Draft.string?
          user := ← user.withDefault default.user Draft.string?
          password := ← password.withDefault default.password Draft.string?
          database := ← database.withDefault default.database Draft.string?
          maxConnections :=
            ← connections.withDefault default.maxConnections (Draft.nat? Draft.greatest32) }
  | _ => none

def LoggingSettings.ofDraft? (d : Draft) : Option LoggingSettings := do
  match ← d.slots? ["level", "format"] with
  | [level, format] =>
      some ⟨← level.withDefault default.level Draft.string?,
        ← format.withDefault default.format Draft.string?⟩
  | _ => none

def MetricsSettings.ofDraft? (d : Draft) : Option MetricsSettings := do
  match ← d.slots? ["enabled"] with
  | [enabled] => some ⟨← enabled.withDefault default.enabled Draft.bool?⟩
  | _ => none

namespace Settings

def ofDraft? (d : Draft) : Option Settings := do
  match ← d.slots? ["server", "postgres", "logging", "metrics"] with
  | [server, database, logging, metrics] =>
      some ⟨← server.withDefault .default ServerSettings.ofDraft?,
        ← database.withDefault .default DatabaseSettings.ofDraft?,
        ← logging.withDefault .default LoggingSettings.ofDraft?,
        ← metrics.withDefault .default MetricsSettings.ofDraft?⟩
  | _ => none

def parse? (text : String) : Option Settings := (Toml.parse? text).bind ofDraft?

def load? : Option String → Option Settings
  | some text => parse? text
  | none => some .default

def quoteChar (c : Char) : List Char :=
  if c = '"' ∨ c = '\\' then ['\\', c]
  else if c.toNat < 0x20 ∨ c.toNat = 0x7F then
    ['\\', 'u', '0', '0', Text.hexDigit (c.toNat / 16), Text.hexDigit (c.toNat % 16)]
  else [c]

def quote (s : String) : String := String.ofList ('"' :: s.toList.flatMap quoteChar ++ ['"'])

def header (name : String) : String := "[" ++ name ++ "]\n"

def line (key value : String) : String := key ++ " = " ++ value ++ "\n"

def text (s : Settings) : String :=
  header "server" ++ line "host" (quote s.server.host) ++ line "port" (toString s.server.port)
    ++ line "max_body_size" (toString s.server.maxBodySize)
    ++ header "postgres" ++ line "address" (quote s.database.address)
    ++ line "user" (quote s.database.user) ++ line "password" (quote s.database.password)
    ++ line "database" (quote s.database.database)
    ++ line "max_connections" (toString s.database.maxConnections)
    ++ header "logging" ++ line "level" (quote s.logging.level)
    ++ line "format" (quote s.logging.format)
    ++ header "metrics" ++ line "enabled" (if s.metrics.enabled then "true" else "false")

end Settings

end SearchStore
