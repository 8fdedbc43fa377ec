import SearchStore.Text.Percent
import SearchStore.Url.Host

/-!
URLs with a host: a scheme, perhaps credentials, the host, perhaps a port, a path, and perhaps a
query and a fragment. The port of the scheme is left out.
-/

set_option autoImplicit false

namespace SearchStore

structure Url where
  scheme : List Char
  user : List Char
  password : List Char
  host : Url.Host
  port : Option Nat
  path : List (List Char)
  query : Option (List Char)
  fragment : Option (List Char)
deriving DecidableEq, Repr

namespace Url

def defaultPorts : List (List Char × Nat) :=
  [("http".toList, 80), ("https".toList, 443), ("ws".toList, 80), ("wss".toList, 443),
   ("ftp".toList, 21)]

def defaultPort? (scheme : List Char) : Option Nat :=
  (defaultPorts.find? (·.1 == scheme)).map (·.2)

def isWeb (scheme : List Char) : Bool := (defaultPort? scheme).isSome

def encode (reserved : List Char) (s : List Char) : List Char :=
  s.flatMap fun c =>
    if c.toNat < 0x20 ∨ 0x7E < c.toNat ∨ c ∈ reserved then
      (Text.encodeChar c).flatMap Text.percentEscape
    else [c]

def fragmentReserved : List Char := " \"<>`".toList

def queryReserved : List Char := " \"#<>'".toList

def pathReserved : List Char := " \"#<>?`\x7b\x7d".toList

def userReserved : List Char := pathReserved ++ "/:;=@[\\]^|".toList

def credentials (u : Url) : List Char :=
  if u.user.isEmpty && u.password.isEmpty then []
  else u.user ++ (if u.password.isEmpty then [] else ':' :: u.password) ++ ['@']

def authority (u : Url) : List Char :=
  u.credentials ++ u.host.text
    ++ (match u.port with
      | some n => ':' :: Host.showDecimal n
      | none => [])

def pathText (u : Url) : List Char := u.path.flatMap ('/' :: ·)

def after (mark : Char) : Option (List Char) → List Char
  | some s => mark :: s
  | none => []

def target (u : Url) : String := String.ofList (u.pathText ++ after '?' u.query)

def text (u : Url) : String :=
  String.ofList (u.scheme ++ "://".toList ++ u.authority ++ u.pathText ++ after '?' u.query
    ++ after '#' u.fragment)

def withPair (u : Url) (key value : String) : Url :=
  let pair := key.toList ++ '=' :: value.toList
  let query :=
    match u.query with
    | some s => if s.isEmpty then pair else s ++ '&' :: pair
    | none => pair
  { u with query := some query }

end Url

end SearchStore
