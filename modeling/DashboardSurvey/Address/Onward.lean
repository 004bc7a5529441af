import DashboardSurvey.Address.Basic

/-!
# Where an address sends on

Whoever asks at an address can be sent on to a place.  The place may be told relative to the address:
without the scheme and the host, which are then those of the address, and with a path that starts
where the path of the address ends.  The two are joined as texts, cut at fixed characters and put
together anew, and the text of the whole is read.

* `Reference`, `Reference.cut`, `Reference.written` — a text cut at fixed characters, and put
  together again.
* `Reference.resolve` — a path that starts where another one ends.
* `Reference.join`, `Address.join` — a place that is told relative to an address.
* `Address.onwardFault` — what is wrong with a place to which an address sends on.
-/

namespace DashboardSurvey

/-- A text cut at fixed characters.  A part without characters is like one that is not there. -/
structure Reference where
  scheme : List Char
  authority : List Char
  path : List Char
  /-- what stands after a semicolon in the last piece of the path -/
  parameters : List Char
  query : List Char
  fragment : List Char
deriving DecidableEq, Repr

namespace Reference

/-! ## Cutting -/

/-- The schemes with paths that can be told relative to one another. -/
def relativeSchemes : List String := [
  "", "ftp", "http", "gopher", "nntp", "imap", "wais", "file", "https", "shttp", "mms", "prospero",
  "rtsp", "rtsps", "rtspu", "sftp", "svn", "svn+ssh", "ws", "wss"]

/-- Those of the schemes with parameters after the path. -/
def parameterSchemes : List String := [
  "", "ftp", "http", "imap", "https", "shttp", "mms", "prospero", "rtsp", "rtsps", "rtspu", "sftp"]

/-- Is the scheme one of these? -/
def isAmong (schemes : List String) (scheme : List Char) : Bool :=
  schemes.contains (String.ofList scheme)

/-- The scheme, in small letters, and what is left; without one it is `usual`. -/
def cutScheme (usual cs : List Char) : List Char × List Char :=
  match cs.takeWhile (· ≠ ':'), cs.dropWhile (· ≠ ':') with
  | c :: name, _ :: rest =>
    if c.isAlpha ∧ name.all Address.isSchemeChar then ((c :: name).map Char.toLower, rest)
    else (usual, cs)
  | _, _ => (usual, cs)

/-- The path without its parameters, and the parameters. -/
def cutParameters (path : List Char) : List Char × List Char :=
  match Address.splitFirst ';' (Address.splitLast '/' path).2 with
  | (_, some parameters) => (path.take (path.length - parameters.length - 1), parameters)
  | (_, none) => (path, [])

/-- The parts of a text; without a scheme of its own it has the scheme `usual`. -/
def cut (usual cs : List Char) : Reference :=
  let (scheme, rest) := cutScheme usual cs
  let (authority, rest) := Address.cutAuthority rest
  let (rest, fragment) := Address.splitFirst '#' rest
  let (path, query) := Address.splitFirst '?' rest
  let (path, parameters) :=
    if isAmong parameterSchemes scheme then cutParameters path else (path, [])
  { scheme, authority, path, parameters, query := query.getD [], fragment := fragment.getD [] }

/-! ## Putting together -/

/-- A part with the character before it; nothing if it has no characters. -/
def marked (mark : Char) (part : List Char) : List Char := if part.isEmpty then [] else mark :: part

/-- The text of the parts. -/
def written (r : Reference) : List Char :=
  let path := r.path ++ marked ';' r.parameters
  let path :=
    if !r.authority.isEmpty || !r.scheme.isEmpty || path.take 2 == ['/', '/'] then
      '/' :: '/' :: r.authority
        ++ (if path.isEmpty || path.head? == some '/' then path else '/' :: path)
    else path
  (if r.scheme.isEmpty then [] else r.scheme ++ [':'])
    ++ path ++ marked '?' r.query ++ marked '#' r.fragment

/-- The pieces of a path after the steps in them are taken; `before` are those so far, the last one
first. -/
def walk (before : List (List Char)) : List (List Char) → List (List Char)
  | [] => before.reverse
  | ['.'] :: rest => walk before rest
  | ['.', '.'] :: rest => walk before.tail rest
  | piece :: rest => walk (piece :: before) rest

/-- The pieces of a path that starts where another one ends.  Between the first and the last piece
nothing stands twice. -/
def pieces (base path : List Char) : List (List Char) :=
  if path.head? = some '/' then splitChars '/' path
  else
    let before := splitChars '/' base
    let all := (if before.getLast? = some [] then before else before.dropLast) ++ splitChars '/' path
    match all with
    | [] => []
    | first :: rest => first :: rest.dropLast.filter (!·.isEmpty) ++ rest.getLast?.toList

/-- A path that starts where another one ends.  A step at its end leads into a folder. -/
def resolve (base path : List Char) : List Char :=
  let all := pieces base path
  let folder := all.getLast? = some ['.'] ∨ all.getLast? = some ['.', '.']
  match joinChars '/' (walk [] all ++ if folder then [[]] else []) with
  | [] => ['/']
  | path => path

/-- The text of a place that is told relative to a text. -/
def join (base place : List Char) : List Char :=
  if base.isEmpty then place
  else if place.isEmpty then base
  else
    let b := cut [] base
    let r := cut b.scheme place
    if r.scheme ≠ b.scheme ∨ !isAmong relativeSchemes r.scheme then place
    else if !r.authority.isEmpty then r.written
    else if r.path.isEmpty && r.parameters.isEmpty then
      { r with
        authority := b.authority, path := b.path, parameters := b.parameters
        query := if r.query.isEmpty then b.query else r.query }.written
    else { r with authority := b.authority, path := resolve b.path r.path }.written

end Reference

namespace Address

/-- The address of a place that is told relative to an address. -/
def join (a place : Address) : Except AddressError Address :=
  ofText (String.ofList (Reference.join a.fullText place.fullText))

/-! ## Sending on -/

/-- The address at another host. -/
def withHost (a : Address) (host : String) : Except AddressError Address := do
  a.checkParts
  ({ a with host } : Address).withTarget a.path a.query

/-- May a place without a fragment get that of an address?  The fragment is put there in characters
of its own, not percent-encoded. -/
def checkFragment (a place : Address) : Except AddressError Unit :=
  match a.fragment, place.fragment.getD [] with
  | some (c :: rest), [] => do
    let fragment := replaceFaults (percentDecode (c :: rest))
    place.checkParts
    if longest < (codes fragment).length then throw (.longPart "fragment")
    match fragment.find? isHidden with
    | some c => .error (.hiddenPart "fragment" c ((codes fragment).idxOf c.toNat))
    | none => .ok ()
  | _, _ => .ok ()

/-- What is wrong with the text of a place to which an address sends on, if anything is.  A text that
cannot be read at all is told with the place; everything else goes wrong at the address.  A scheme
alone is read with the host of the address, and without a scheme or a host the place is relative. -/
def onwardFault (a : Address) (text : String) : Except AddressError (Option AddressError) :=
  match ofText text with
  | .error e => .ok (some e)
  | .ok place => do
    let place ← if place.scheme ≠ "" ∧ place.host = "" then place.withHost a.host else .ok place
    let place ← if place.scheme = "" ∨ place.host = "" then a.join place else .ok place
    a.checkFragment place
    return none

end Address

end DashboardSurvey
