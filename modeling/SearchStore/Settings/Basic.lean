/-!
The settings of a server, each with a default, and the database they lead to.
-/

set_option autoImplicit false

namespace SearchStore

structure ServerSettings where
  host : String
  port : Nat
  maxBodySize : Nat
deriving DecidableEq, Repr

structure DatabaseSettings where
  address : String
  user : String
  password : String
  database : String
  maxConnections : Nat
deriving DecidableEq, Repr

structure LoggingSettings where
  level : String
  format : String
deriving DecidableEq, Repr

structure MetricsSettings where
  enabled : Bool
deriving DecidableEq, Repr

structure Settings where
  server : ServerSettings
  database : DatabaseSettings
  logging : LoggingSettings
  metrics : MetricsSettings
deriving DecidableEq, Repr

namespace ServerSettings

def default : ServerSettings := ⟨"127.0.0.1", 9200, 100 * 1024 * 1024⟩

def bindAddress (s : ServerSettings) : String := s.host ++ ":" ++ toString s.port

end ServerSettings

def LoggingSettings.default : LoggingSettings := ⟨"info,pgelastic=debug", "pretty"⟩

def MetricsSettings.default : MetricsSettings := ⟨false⟩

inductive PortFault where
  | empty
  | notDigit
  | tooLarge
deriving DecidableEq, Repr

def PortFault.message : PortFault → String
  | .empty => "cannot parse integer from empty string"
  | .notDigit => "invalid digit found in string"
  | .tooLarge => "number too large to fit in target type"

def greatestPort : Nat := 65535

def readPort (n : Nat) : List Char → Except PortFault Nat
  | [] => .ok n
  | c :: rest =>
      if '0'.toNat ≤ c.toNat ∧ c.toNat ≤ '9'.toNat then
        let n := 10 * n + (c.toNat - '0'.toNat)
        if n ≤ greatestPort then readPort n rest else .error .tooLarge
      else .error .notDigit

def parsePort : List Char → Except PortFault Nat
  | [] => .error .empty
  | ['+'] => .error .notDigit
  | '+' :: digits => readPort 0 digits
  | digits => readPort 0 digits

structure Connection where
  host : String
  port : Nat
  user : String
  database : String
deriving DecidableEq, Repr

namespace DatabaseSettings

def defaultPort : Nat := 5432

def default : DatabaseSettings := ⟨"localhost:5432", "postgres", "", "postgres", 10⟩

def splitAddress (address : List Char) : Option (List Char × List Char) :=
  let port := (address.reverse.takeWhile (· != ':')).reverse
  if port.length < address.length then
    some (address.take (address.length - port.length - 1), port)
  else none

def connection (s : DatabaseSettings) : Except PortFault Connection := do
  match splitAddress s.address.toList with
  | some (host, port) => .ok ⟨String.ofList host, ← parsePort port, s.user, s.database⟩
  | none => .ok ⟨s.address, defaultPort, s.user, s.database⟩

def portMessage (s : DatabaseSettings) (fault : PortFault) : String :=
  "Invalid postgres port in '" ++ s.address ++ "': " ++ fault.message

end DatabaseSettings

def Settings.default : Settings := ⟨.default, .default, .default, .default⟩

end SearchStore
