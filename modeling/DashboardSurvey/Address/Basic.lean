import DashboardSurvey.Address.HostName
import DashboardSurvey.Address.Numeric
import DashboardSurvey.Address.Percent
import DashboardSurvey.Value.Scalar

/-!
# Addresses

The settings give the address of the server; the path of a request is put after the path of that
address.  An address is cut at fixed characters into a scheme, an authority (a user, a host and a
port), a path, a query and a fragment.  Each part is brought into one written form, so two texts
that mean the same address have equal parts.

* `AddressError` — what is wrong with the text of an address, with its wording.
* `Address`, `Address.ofText` — addresses and how they are read.
* `Address.withTarget` — the address with another path and query.
* `Address.base`, `Address.extend` — an address to start requests from, and that of a request.
* `Address.text`, `Address.untold?` — the written form, and whether it tells how to get there.
-/

namespace DashboardSurvey

/-! ## Errors -/

/-- What is wrong with an address. -/
inductive AddressError where
  /-- values of this kind are no addresses -/
  | notText (kind : Kind)
  /-- the text is too long -/
  | long
  /-- a part of the text is too long -/
  | longPart (name : String)
  /-- an ASCII character that is not printed stands at this position -/
  | hidden (c : Char) (position : Nat)
  /-- such a character stands in a part of the address -/
  | hiddenPart (name : String) (c : Char) (position : Nat)
  /-- the host looks like the number of a machine, but is none -/
  | notFourNumbers (host : String)
  /-- what stands between brackets is not the number of a machine -/
  | notGroups (host : String)
  /-- the host is not a name -/
  | notName (host : String)
  /-- the port is not a number -/
  | port (text : String)
  /-- half of a surrogate pair stands without the other half -/
  | half (n : Nat)
  /-- a path after a host does not start with a slash -/
  | pathAfterHost
  /-- a path alone starts with two slashes -/
  | twoSlashes
  /-- a path alone starts with a colon -/
  | colon
  /-- the address does not tell how to get there -/
  | untold (text : String)
deriving DecidableEq, Repr

/-- The wording of an error. -/
def AddressError.message : AddressError → String
  | .notText kind => "An address must be a text, not a value of kind '" ++ kind.name ++ "'"
  | .long => "URL too long"
  | .longPart name => "URL component '" ++ name ++ "' too long"
  | .hidden c position =>
    "Invalid non-printable ASCII character in URL, " ++ quoted (String.singleton c)
      ++ " at position " ++ toString position ++ "."
  | .hiddenPart name c position =>
    "Invalid non-printable ASCII character in URL " ++ name ++ " component, "
      ++ quoted (String.singleton c) ++ " at position " ++ toString position ++ "."
  | .notFourNumbers host => "Invalid IPv4 address: " ++ quoted host
  | .notGroups host => "Invalid IPv6 address: " ++ quoted host
  | .notName host => "Invalid IDNA hostname: " ++ quoted host
  | .port text => "Invalid port: " ++ quoted text
  | .half n =>
    "'utf-8' codec can't encode character '" ++ String.ofList (escapeByCode n)
      ++ "' in position 0: surrogates not allowed"
  | .pathAfterHost => "For absolute URLs, path must be empty or begin with '/'"
  | .twoSlashes => "Relative URLs cannot have a path starting with '//'"
  | .colon => "Relative URLs cannot have a path starting with ':'"
  | .untold text => "unknown url type: " ++ quoted text

/-- An address, in parts.  The user, the path, the query and the fragment are percent-encoded; a
port that is usual for the scheme is left out. -/
structure Address where
  scheme : String
  user : List Char
  host : String
  port : Option Int
  path : List Char
  query : Option (List Char)
  fragment : Option (List Char)
deriving DecidableEq, Repr

namespace Address

/-! ## Characters -/

/-- How many code points an address, or one part of it, may have. -/
def longest : Nat := 65536

/-- Is this an ASCII character that is not printed? -/
def isHidden (c : Char) : Bool := c.toNat < 32 || c.toNat == 127

/-- May the character stand in a scheme after the first letter? -/
def isSchemeChar (c : Char) : Bool := c.isAlphanum || c == '+' || c == '.' || c == '-'

/-- May the character stand in a host as it is? -/
def isHostChar (c : Char) : Bool :=
  c.isAlphanum || "-._~!$&'()*+,;=\x22\x60\x7b\x7d%|\\".toList.contains c

/-- May the character stand in a query as it is? -/
def isQueryChar (c : Char) : Bool :=
  0x20 < c.toNat && c.toNat < 0x7f && !"\x22#<>".toList.contains c

/-- May the character stand in a fragment as it is? -/
def isFragmentChar (c : Char) : Bool :=
  0x20 < c.toNat && c.toNat < 0x7f && !"\x22<>\x60".toList.contains c

/-- May the character stand in a path as it is? -/
def isPathChar (c : Char) : Bool := isQueryChar c && !"?\x60\x7b\x7d".toList.contains c

/-- May the character stand in the name of a user as it is? -/
def isUserChar (c : Char) : Bool := isPathChar c && !"/;=@[\\]^|".toList.contains c

/-- The characters with those that may not stand written by their bytes; a half has none. -/
def encode (stands : Char → Bool) (cs : List Char) : Except AddressError (List Char) :=
  match (codes cs).find? isHalf with
  | some n => .error (.half n)
  | none => .ok (percentEncode stands (heldChars cs))

/-! ## Cutting -/

/-- The scheme, if there is one, and what is left.  A colon at the start ends a scheme without
characters. -/
def cutScheme (cs : List Char) : List Char × List Char :=
  match cs.dropWhile isSchemeChar with
  | ':' :: rest =>
    match cs.takeWhile isSchemeChar with
    | [] => ([], rest)
    | c :: name => if c.isAlpha then (c :: name, rest) else ([], cs)
  | _ => ([], cs)

/-- Does the character end an authority? -/
def endsAuthority (c : Char) : Bool := c == '/' || c == '?' || c == '#'

/-- The authority, which stands after two slashes, and what is left. -/
def cutAuthority (cs : List Char) : List Char × List Char :=
  match cs with
  | '/' :: '/' :: rest => (rest.takeWhile (!endsAuthority ·), rest.dropWhile (!endsAuthority ·))
  | cs => ([], cs)

/-- The characters before and after the last place of `sep`; without one, all are after. -/
def splitLast (sep : Char) (cs : List Char) : List Char × List Char :=
  let backwards := cs.reverse
  ((backwards.dropWhile (· ≠ sep)).tail.reverse, (backwards.takeWhile (· ≠ sep)).reverse)

/-- The host at the start of characters, and what is left.  Between brackets a colon belongs to the
host. -/
def cutHost (cs : List Char) : List Char × List Char :=
  if cs.head? = some '[' ∧ cs.contains ']' then
    let (inside, rest) := splitLast ']' cs
    (inside ++ [']'], rest)
  else (cs.takeWhile (· ≠ ':'), cs.dropWhile (· ≠ ':'))

/-! ## One written form -/

/-- The host in its written form. -/
def readHost (cs : List Char) : Except AddressError String :=
  let text := String.ofList cs
  if looksIPv4 cs then
    if isIPv4 cs then .ok text else .error (.notFourNumbers text)
  else if cs.head? = some '[' ∧ cs.getLast? = some ']' then
    let inside := cs.tail.dropLast
    if isIPv6 inside then .ok (String.ofList inside) else .error (.notGroups text)
  else if cs.all fun c => c.toNat < 128 then
    .ok (String.ofList ((percentEncode isHostChar cs).map Char.toLower))
  else
    match asciiName? (smallLetters text).toList with
    | some name => .ok (String.ofList name)
    | none => .error (.notName text)

/-- The port that is usual for a scheme. -/
def usualPort (scheme : String) : Option Int :=
  [("ftp", 21), ("http", 80), ("https", 443), ("ws", 80), ("wss", 443)].lookup scheme

/-- The port, unless it is the usual one. -/
def readPort (scheme : String) (cs : List Char) : Except AddressError (Option Int) :=
  match cs with
  | [] => .ok none
  | cs =>
    match wholeOfText? (String.ofList cs) with
    | none => .error (.port (String.ofList cs))
    | some n => .ok (if usualPort scheme = some n then none else some n)

/-- The pieces of a path without the steps that stay, and with each step up taken.  `before` are the
pieces so far, the last one first. -/
def takeSteps (before : List (List Char)) : List (List Char) → List (List Char)
  | [] => before.reverse
  | ['.'] :: rest => takeSteps before rest
  | ['.', '.'] :: rest => takeSteps (if before = [[]] then before else before.tail) rest
  | piece :: rest => takeSteps (piece :: before) rest

/-- A path without the steps that stay, and with each step up taken. -/
def straighten (path : List Char) : List Char := joinChars '/' (takeSteps [] (splitChars '/' path))

/-! ## Reading -/

/-- Is there a user, a host or a port? -/
def hasAuthority (a : Address) : Bool := !a.user.isEmpty || a.host != "" || a.port.isSome

/-- May the address have this path? -/
def checkPath (a : Address) (path : List Char) : Except AddressError Unit :=
  if a.hasAuthority then
    if path.isEmpty || path.head? = some '/' then .ok () else .error .pathAfterHost
  else if a.scheme ≠ "" then .ok ()
  else
    match path with
    | '/' :: '/' :: _ => .error .twoSlashes
    | ':' :: _ => .error .colon
    | _ => .ok ()

/-- The address with another path and query, which are brought into their written form. -/
def withTarget (a : Address) (path : List Char) (query : Option (List Char)) :
    Except AddressError Address := do
  a.checkPath path
  let path := if a.scheme ≠ "" ∨ a.hasAuthority then straighten path else path
  return { a with
    path := ← encode isPathChar path, query := ← query.mapM (encode isQueryChar) }

/-- The characters before and after the first place of a character, if there is one. -/
def splitFirst (sep : Char) (cs : List Char) : List Char × Option (List Char) :=
  match cs.dropWhile (· ≠ sep) with
  | [] => (cs.takeWhile (· ≠ sep), none)
  | _ :: rest => (cs.takeWhile (· ≠ sep), some rest)

/-- The parts of a text that is neither too long nor holds a hidden character. -/
def ofChars (cs : List Char) : Except AddressError Address := do
  let (scheme, rest) := cutScheme cs
  let (authority, rest) := cutAuthority rest
  let (rest, fragment) := splitFirst '#' rest
  let (path, query) := splitFirst '?' rest
  let (user, place) := splitLast '@' authority
  let (host, port) := cutHost place
  let scheme := String.ofList (scheme.map Char.toLower)
  let user ← encode isUserChar user
  let host ← readHost host
  let port ← readPort scheme (if port.head? = some ':' then port.tail else port)
  let a : Address := { scheme, user, host, port, path := [], query := none, fragment := none }
  let a ← a.withTarget path query
  return { a with fragment := ← fragment.mapM (encode isFragmentChar) }

/-- The address that a text writes. -/
def ofText (s : String) : Except AddressError Address :=
  let cs := s.toList
  if longest < (codes cs).length then .error .long
  else
    match cs.find? isHidden with
    | some c => .error (.hidden c ((codes cs).idxOf c.toNat))
    | none => ofChars cs

/-! ## Requests -/

/-- The host as it is shown: a name that starts with the mark of letters beyond ASCII is shown in
its own letters. -/
def shownHost (a : Address) : String :=
  if a.host.toList.take 4 = partMark then
    ((ofAsciiName? a.host.toList).map String.ofList).getD a.host
  else a.host

/-- The path, which is a slash if nothing is written, and the query. -/
def target (a : Address) : List Char :=
  (if a.path.isEmpty then ['/'] else a.path)
    ++ (match a.query with
      | some query => '?' :: query
      | none => [])

/-- The authority in its written form; a host with a colon stands between brackets. -/
def authority (a : Address) : String :=
  (if a.user.isEmpty then "" else String.ofList a.user ++ "@")
    ++ (if a.host.toList.contains ':' then "[" ++ a.host ++ "]" else a.host)
    ++ (a.port.elim "" fun n => ":" ++ toString n)

/-- The parts from which an address is put together anew, with their names. -/
def parts (a : Address) : List (String × List Char) := [
  ("authority", a.authority.toList), ("path", a.path), ("query", a.query.getD []),
  ("fragment", a.fragment.getD [])]

/-- None of the parts may be too long.  They are in their written form, so all is ASCII. -/
def checkParts (a : Address) : Except AddressError Unit :=
  match a.parts.find? fun part => longest < part.2.length with
  | some part => .error (.longPart part.1)
  | none => .ok ()

/-- The address with the path and the query that characters write. -/
def retarget (a : Address) (cs : List Char) : Except AddressError Address := do
  let (path, query) := splitFirst '?' cs
  ({ a with path, query } : Address).checkParts
  a.withTarget path query

/-- The address to start requests from: a slash ends it. -/
def base (a : Address) : Except AddressError Address :=
  if a.target.getLast? = some '/' then .ok a else a.retarget (a.target ++ ['/'])

/-- The address of a request to an address to start from; one slash stands between the two. -/
def extend (a : Address) (path : String) : Except AddressError Address := do
  let relative ← ofText path
  a.retarget (a.target ++ relative.target.dropWhile (· = '/'))

/-! ## The written form -/

/-- The written form without the fragment. -/
def textBefore (a : Address) : String :=
  (if a.scheme = "" then "" else a.scheme ++ ":")
    ++ (if a.authority = "" then "" else "//" ++ a.authority)
    ++ String.ofList a.path ++ (a.query.elim "" fun q => "?" ++ String.ofList q)

/-- The written form; a fragment without characters is left out. -/
def text (a : Address) : String :=
  a.textBefore ++ (a.fragment.elim "" fun f => if f.isEmpty then "" else "#" ++ String.ofList f)

/-- The characters of the written form, with the fragment even if that has none. -/
def fullText (a : Address) : List Char :=
  a.textBefore.toList ++ (a.fragment.elim [] fun f => '#' :: f)

/-- What is wrong with the address of a request if it does not tell how to get there: it has to
start with something other than a slash or a colon, and a colon after it. -/
def untold? (a : Address) : Option AddressError :=
  let beforeLastMark := match a.fragment with
    | some f => a.textBefore.toList ++ (if f.contains '#' then '#' :: (splitLast '#' f).1 else [])
    | none => a.textBefore.toList
  match beforeLastMark.takeWhile (fun c => c ≠ '/' && c ≠ ':'),
    beforeLastMark.dropWhile (fun c => c ≠ '/' && c ≠ ':') with
  | _ :: _, ':' :: _ => none
  | _, _ => some (.untold a.text)

end Address

end DashboardSurvey
