import DashboardSurvey.Address.Basic
import DashboardSurvey.Config.Settings
import DashboardSurvey.Failure
import DashboardSurvey.Metabase.Server

/-!
# Connecting to the server

The settings say where the server is and with which key one is let in.  Whether these are usable
shows only when a connection is made; the first unusable one is told.

* `Endpoint`, `Settings.endpoint` — how the server is reached, and what the settings say of it.
* `Endpoint.connect` — the connection, or why there is none.
* `Connection.address`, `Connection.request` — where a request for a path goes, and the request.
-/

namespace DashboardSurvey

/-- How the server is reached (`MetabaseConfig`).  The values are as the settings give them. -/
structure Endpoint where
  url : Yaml
  key : Yaml
  timeout : Yaml

/-- A connection to the server. -/
structure Connection where
  /-- the address to start from -/
  base : Address
  key : String
  timeout : String
deriving DecidableEq, Repr

/-- What the settings say of the server. -/
def Settings.endpoint (s : Settings) : Endpoint := ⟨.str s.url, s.apiKey, .num s.timeout⟩

namespace Endpoint

/-- What is told when the settings name no server. -/
def notConfigured : SourceError :=
  .server "Metabase not configured. Set metabase.url in dashlens.yml or METABASE_URL." .null .null

/-- The address that a value is. -/
def address : Yaml → Except AddressError Address
  | .str s => Address.ofText s
  | v => .error (.notText v.kind)

/-- Bytes as text: in UTF-8, or if they are not, each byte as a character. -/
def textOfBytes (bs : List UInt8) : String :=
  String.ofList ((decodeUtf8 bs).toOption.getD (bs.map fun b => Char.ofNat b.toNat))

/-- The key that a value is: a text in ASCII, or any bytes. -/
def readKey : Yaml → Except KeyFault String
  | .str s => (asciiFault? s.toList).elim (.ok s) fun f => .error (.notAscii f)
  | .scalar (.bytes bs) => .ok (textOfBytes bs)
  | v => .error (.notText v.kind)

/-- The connection, or why there is none. -/
def connect (e : Endpoint) : Except Failure Connection :=
  if e.url.truthy then do
    let base ← ((address e.url).bind Address.base).mapError Failure.address
    let key ← (readKey e.key).mapError Failure.key
    return ⟨base, key, e.timeout.shown⟩
  else .error (.source notConfigured)

end Endpoint

/-- Where a request for a path goes. -/
def Connection.address (c : Connection) (path : String) : Except AddressError Address :=
  c.base.extend path

/-- The request that goes to an address. -/
def Connection.request (c : Connection) (a : Address) : Request :=
  ⟨a.shownHost, String.ofList a.target, c.key, c.timeout⟩

end DashboardSurvey
