import SearchStore.Url.Basic

/-!
Reading URLs and references. A reference is taken relative to a base: it replaces the last segment
of the base's path unless it starts with a slash or with a scheme of its own.
-/

set_option autoImplicit false

namespace SearchStore.Url

def isLetter (c : Char) : Bool :=
  ('a'.toNat ≤ c.toNat && c.toNat ≤ 'z'.toNat) || ('A'.toNat ≤ c.toNat && c.toNat ≤ 'Z'.toNat)

def isSchemeChar (c : Char) : Bool :=
  isLetter c || Host.isDecimal c || c == '+' || c == '-' || c == '.'

def clean (s : List Char) : List Char :=
  let isOuter (c : Char) : Bool := c.toNat ≤ 0x20
  let trimmed := ((s.dropWhile isOuter).reverse.dropWhile isOuter).reverse
  trimmed.filter fun c => c != '\t' && c != '\n' && c != '\r'

def splitScheme (s : List Char) : Option (List Char × List Char) :=
  match s with
  | [] => none
  | c :: _ =>
      match s.dropWhile isSchemeChar with
      | ':' :: rest =>
          if isLetter c then some ((s.takeWhile isSchemeChar).map Char.toLower, rest) else none
      | _ => none

def isSlash (web : Bool) (c : Char) : Bool := c == '/' || web && c == '\\'

def endsPath (c : Char) : Bool := c == '?' || c == '#'

def splitSegments (web : Bool) : List Char → List (List Char)
  | [] => [[]]
  | c :: rest =>
      if isSlash web c then [] :: splitSegments web rest
      else
        match splitSegments web rest with
        | segment :: later => (c :: segment) :: later
        | [] => [[c]]

def dropPoint : List Char → Option (List Char)
  | '.' :: rest => some rest
  | '%' :: '2' :: 'e' :: rest => some rest
  | '%' :: '2' :: 'E' :: rest => some rest
  | _ => none

def isSingleDot (s : List Char) : Bool := dropPoint s == some []

def isDoubleDot (s : List Char) : Bool := (dropPoint s).bind dropPoint == some []

-- Appends segments to a path: one point stays where it is, two go up, and either leaves an empty
-- segment at the end.
def resolve (before : List (List Char)) : List (List Char) → List (List Char)
  | [] => before
  | [s] =>
      if isDoubleDot s then before.dropLast ++ [[]]
      else if isSingleDot s then before ++ [[]]
      else before ++ [encode pathReserved s]
  | s :: rest =>
      if isDoubleDot s then resolve before.dropLast rest
      else if isSingleDot s then resolve before rest
      else resolve (before ++ [encode pathReserved s]) rest

def tail (s : List Char) : Option (List Char) × Option (List Char) :=
  let fragment (s : List Char) : Option (List Char) :=
    match s with
    | '#' :: rest => some (encode fragmentReserved rest)
    | _ => none
  match s with
  | '?' :: rest =>
      let isQuery (c : Char) : Bool := c != '#'
      (some (encode queryReserved (rest.takeWhile isQuery)), fragment (rest.dropWhile isQuery))
  | s => (none, fragment s)

def rootPath (web : Bool) (s : List Char) : List (List Char) :=
  match s with
  | [] => if web then [[]] else []
  | _ :: rest => resolve [] (splitSegments web rest)

def splitCredentials (s : List Char) : Option (List Char) × List Char :=
  let host := (s.reverse.takeWhile (· != '@')).reverse
  if host.length < s.length then (some (s.take (s.length - host.length - 1)), host) else (none, s)

def splitPort (s : List Char) : List Char × Option (List Char) :=
  match s with
  | '[' :: _ =>
      let inner := s.takeWhile (· != ']')
      match s.drop (inner.length + 1) with
      | ':' :: port => (inner ++ [']'], some port)
      | [] => (s, none)
      | _ => (s ++ ['['], none)
  | s =>
      match s.dropWhile (· != ':') with
      | ':' :: port => (s.takeWhile (· != ':'), some port)
      | _ => (s, none)

def greatestPort : Nat := 65535

-- The number of a port; none is given by no digits, or by those of the scheme.
def port? (scheme : List Char) : Option (List Char) → Option (Option Nat)
  | none => some none
  | some [] => some none
  | some digits => do
      if digits.all Host.isDecimal then
        let n ← Host.readBase 10 digits
        if greatestPort < n then none
        else some (if defaultPort? scheme = some n then none else some n)
      else none

def assemble (scheme authority rest : List Char) : Option Url := do
  let web := isWeb scheme
  let (given, hostAndPort) := splitCredentials authority
  let pair := given.getD []
  let (hostText, portText) := splitPort hostAndPort
  let host ← Host.parse? web hostText
  let port ← port? scheme portText
  -- credentials and ports belong to a host
  if hostText.isEmpty ∧ (given.isSome ∨ portText.isSome) then none
  else
    let (query, fragment) := tail (rest.dropWhile (!endsPath ·))
    some
      { scheme, host, port, query, fragment
        user := encode userReserved (pair.takeWhile (· != ':'))
        password := encode userReserved ((pair.dropWhile (· != ':')).drop 1)
        path := rootPath web (rest.takeWhile (!endsPath ·)) }

def afterSlashes (scheme s : List Char) : Option Url :=
  let inAuthority (c : Char) : Bool := !isSlash (isWeb scheme) c && !endsPath c
  assemble scheme (s.takeWhile inAuthority) (s.dropWhile inAuthority)

def afterScheme (scheme s : List Char) : Option Url :=
  if isWeb scheme then afterSlashes scheme (s.dropWhile (isSlash true))
  else
    match s with
    | '/' :: '/' :: rest => afterSlashes scheme rest
    | _ => none

def parseClean (s : List Char) : Option Url := do
  let (scheme, rest) ← splitScheme s
  afterScheme scheme rest

def parse? (s : String) : Option Url := parseClean (clean s.toList)

def relative (base : Url) (s : List Char) : Option Url :=
  let web := isWeb base.scheme
  let path := s.takeWhile (!endsPath ·)
  let (query, fragment) := tail (s.dropWhile (!endsPath ·))
  match path with
  | [] => some { base with query := query <|> base.query, fragment }
  | [c] =>
      if isSlash web c then some { base with path := rootPath web path, query, fragment }
      else some { base with path := resolve base.path.dropLast [path], query, fragment }
  | c :: d :: _ =>
      if isSlash web c && isSlash web d then
        afterSlashes base.scheme (if web then s.dropWhile (isSlash true) else s.drop 2)
      else if isSlash web c then some { base with path := rootPath web path, query, fragment }
      else
        let segments := splitSegments web path
        some { base with path := resolve base.path.dropLast segments, query, fragment }

-- The URL a reference leads to from a base. A scheme that is the web scheme of the base makes a
-- difference only before two slashes.
def join? (base : Url) (reference : String) : Option Url :=
  let s := clean reference.toList
  match splitScheme s with
  | none => relative base s
  | some (scheme, rest) =>
      if scheme = base.scheme ∧ isWeb scheme ∧ !"//".toList.isPrefixOf rest then relative base rest
      else parseClean s

end SearchStore.Url
