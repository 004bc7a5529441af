import DashboardSurvey.Address.Onward
import DashboardSurvey.Json.Decode
import DashboardSurvey.Text.Encoding

/-!
# The server

Everything is asked of the server by requests that change nothing there.  A request either fails on
the way or brings a response, and what it brings may depend on the requests before it.

* `Request`, `Response`, `Reply` — what is asked, what comes back, and whether anything does.
* `Response.json?` — the document in the body of a response.
* `Unpacker` — how bodies are unpacked that came packed.
* `Reply.received` — what of a reply reaches the one who asked.
* `Server`, `Server.ofRoutes` — what replies to requests, and such a thing made from a table.
-/

namespace DashboardSurvey

/-! ## Requests and replies -/

/-- A request. -/
structure Request where
  host : String
  path : String
  /-- the key with which one is let in -/
  key : String
  /-- how long to wait for the reply, as written in messages -/
  timeout : String
deriving DecidableEq, Repr

/-- A response. -/
structure Response where
  status : Int
  headers : List (String × String)
  body : List UInt8
deriving DecidableEq, Repr

/-- What a request brings. -/
inductive Reply where
  /-- the request fails on the way -/
  | broken (reason : String)
  | response (r : Response)
deriving DecidableEq, Repr

namespace Response

/-- Does the status say that the request was served? -/
def isSuccess (r : Response) : Bool := 200 ≤ r.status && r.status < 300

/-- Does the status say that the request was refused or that serving it failed? -/
def isRefusal (r : Response) : Bool := 400 ≤ r.status

/-- The values of a header, which may stand there more than once.  Large and small letters in its
name are the same. -/
def header (r : Response) (name : String) : List String :=
  (r.headers.filter fun h => h.1.map Char.toLower == name).map (·.2)

/-- The place to which the response sends on.  Nobody goes there, but it has to be an address. -/
def location? (r : Response) : Option String :=
  match [301, 302, 303, 307, 308].contains r.status, r.header "location" with
  | true, value :: rest => some (", ".intercalate (value :: rest))
  | _, _ => none

/-- The names of the codings in which the body is packed, in the order in which they were used. -/
def codings (r : Response) : List String :=
  (r.header "content-encoding").flatMap fun names =>
    (splitChars ',' names.toList).map fun name =>
      String.ofList ((trimBlank name).map Char.toLower)

/-- The document in the body, if there is one. -/
def json? (r : Response) : Option Json :=
  (decodeBody r.body).bind fun cs => (Json.decode cs).toOption

end Response

/-! ## What reaches the one who asked -/

/-- How bodies are unpacked: the bytes that are packed in the named codings, or what is wrong with
them.  Which codings are known, and what is done about others, is not said here. -/
abbrev Unpacker := List String → List UInt8 → Except String (List UInt8)

/-- What is told of a place that is no address. -/
def Reply.noAddress (e : AddressError) : Reply :=
  .broken ("Invalid URL in location header: " ++ e.message ++ ".")

/-- The unpacker that knows no coding and takes all bodies as they are. -/
def Unpacker.idle : Unpacker := fun _ bytes => .ok bytes

namespace Response

/-- The response with its body unpacked.  A body that cannot be unpacked is like a request that fails
on the way. -/
def unpacked (unpack : Unpacker) (r : Response) : Reply :=
  match r.codings with
  | [] => .response r
  | codings =>
    match unpack codings r.body with
    | .ok body => .response { r with body }
    | .error reason => .broken reason

/-- What is wrong with the place to which the response sends on from an address, if it does and
anything is. -/
def onwardFault (a : Address) (r : Response) : Except AddressError (Option AddressError) :=
  match r.location? with
  | none => .ok none
  | some location => a.onwardFault location

/-- What of a response reaches the one who asked at an address.  First the body has to be in order,
then the address, and then the place to which the response sends on. -/
def received (unpack : Unpacker) (a : Address) (r : Response) : Except AddressError Reply := do
  match r.unpacked unpack with
  | .broken reason => return .broken reason
  | .response content =>
    match a.untold? with
    | some e => throw e
    | none =>
      match ← r.onwardFault a with
      | none => return .response content
      | some e => return .noAddress e

end Response

/-- What of a reply reaches the one who asked at an address. -/
def Reply.received (unpack : Unpacker) (a : Address) : Reply → Except AddressError Reply
  | .broken reason => .ok (.broken reason)
  | .response r => r.received unpack a

/-! ## Servers -/

/-- A server, with the unpacker of those who ask it. -/
structure Server where
  /-- what is replied to a request after earlier ones, the oldest of them first -/
  reply : List Request → Request → Reply
  unpack : Unpacker

namespace Server

/-- What reaches the one who makes a request at an address after earlier requests. -/
def received (s : Server) (earlier : List Request) (a : Address) (r : Request) :
    Except AddressError Reply := (s.reply earlier r).received s.unpack a

/-- The response where nothing is. -/
def notFound : Reply := .response ⟨404, [], utf8Bytes "Not found."⟩

/-- What is replied by path, in turn; the last reply to a path is repeated. -/
def inTurn (routes : List (String × List Reply)) (earlier : List Request) (request : Request) :
    Reply :=
  match routes.lookup request.path with
  | none => notFound
  | some replies =>
    let turn := (earlier.filter fun r => r.path == request.path).length
    replies.getD turn (replies.getLastD notFound)

/-- The server that replies by path, in turn. -/
def ofRoutes (unpack : Unpacker) (routes : List (String × List Reply)) : Server :=
  ⟨inTurn routes, unpack⟩

/-- The server that always makes the same reply to a path. -/
def steady (unpack : Unpacker) (reply : String → Reply) : Server :=
  ⟨fun _ request => reply request.path, unpack⟩

/-- The server that cannot be reached. -/
def unreachable (reason : String) : Server := steady .idle fun _ => .broken reason

end Server

end DashboardSurvey
