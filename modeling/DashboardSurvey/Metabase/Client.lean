import DashboardSurvey.Log
import DashboardSurvey.Metabase.Endpoint

/-!
# The client

The client asks the server for dashboards and for the metadata of tables.  It connects when it is
first asked for something and keeps the connection until it is closed, whatever the server replies.

* `Client`, `Client.connect`, `Client.close` — the client and its connection.
* `Traffic`, `Traffic.ask` — a client at work, and one request.
* `dashboardOutcome`, `tableOutcome` — what a reply means for the one who wants a dashboard or the
  metadata of a table.
* `Traffic.dashboard`, `Traffic.table` — a dashboard and the metadata of a table, by id.
* `Errand`, `Traffic.perform` — all that a client can be asked to do, as data.
-/

namespace DashboardSurvey

/-! ## The connection -/

/-- A client, connected or not (`MetabaseClient`). -/
structure Client where
  endpoint : Endpoint
  connection : Option Connection

namespace Client

/-- A new client. -/
def ofEndpoint (e : Endpoint) : Client := ⟨e, none⟩

/-- The connection of the client, which is made if there is none yet (`MetabaseClient._connect`). -/
def connect (c : Client) : Except Failure Connection :=
  match c.connection with
  | some k => .ok k
  | none => c.endpoint.connect

/-- Is the client connected? -/
def isConnected (c : Client) : Bool := c.connection.isSome

/-- The client without its connection (`MetabaseClient.close`). -/
def close (c : Client) : Client := ofEndpoint c.endpoint

/-- A connected client goes on with its connection. -/
theorem connect_of_connected {c : Client} {k : Connection} (h : c.connection = some k) :
    c.connect = .ok k := by simp [connect, h]

/-- A client that was closed connects as a new one does. -/
@[simp] theorem connect_close (c : Client) : c.close.connect = c.endpoint.connect := rfl

end Client

/-! ## Requests -/

/-- A client at work, with the requests made so far, the oldest first, and what they add to the
log. -/
structure Traffic where
  client : Client
  requests : List Request
  entries : List Entry

namespace Traffic

/-- What the log says before a request for a path. -/
def sending (path : String) : Entry := ⟨.debug, "GET " ++ path⟩

/-- What the log says of the reply to a request for a path. -/
def receiving (path : String) : Reply → List Entry
  | .broken _ => []
  | .response r =>
    if r.isRefusal then [⟨.debug, "response " ++ toString r.status ++ " for " ++ path⟩] else []

/-- Ask the server for a path, connecting first if need be (`MetabaseClient._get`). -/
def ask (server : Server) (path : String) : StateM Traffic (Except Failure Reply) := fun t =>
  match t.client.connect with
  | .error f => (.error f, t)
  | .ok k =>
    let t := { t with
      client := { t.client with connection := some k }
      entries := t.entries ++ [sending path] }
    match k.address path with
    | .error e => (.error (.address e), t)
    | .ok a =>
      let r := k.request a
      let t' := { t with requests := t.requests ++ [r] }
      match server.received t.requests a r with
      | .error e => (.error (.address e), t')
      | .ok reply => (.ok reply, { t' with entries := t'.entries ++ receiving path reply })

/-- Close the client. -/
def close : StateM Traffic Unit := modify fun t => { t with client := t.client.close }

end Traffic

/-! ## What replies mean -/

/-- What is told of a request that failed on the way. -/
def failedOnTheWay (reason : String) : String := "Metabase request failed: " ++ reason

/-- What is told of a response with a status that is not wanted. -/
def unwantedStatus (r : Response) : String := "Metabase returned " ++ toString r.status

/-- A dashboard whose body, key or address is not in the wanted form. -/
def notDocument (id : Json) : Failure := .source (.server "Metabase response is not JSON" .null id)

/-- What the outcome of a request means for the one who wants the dashboard with an id.  Every
response without success, and every body that is no document, is a failure of the server. -/
def dashboardOutcome (id : Json) : Except Failure Reply → Except Failure Json
  | .error (.key (.notAscii _)) => .error (notDocument id)
  | .error (.address (.untold _)) => .error (notDocument id)
  | .error (.address (.half _)) => .error (notDocument id)
  | .error f => .error f
  | .ok (.broken reason) => .error (.source (.server (failedOnTheWay reason) .null id))
  | .ok (.response r) =>
    if r.isSuccess then
      match r.json? with
      | some v => .ok v
      | none => .error (notDocument id)
    else .error (.source (.server (unwantedStatus r) .null id))

/-- What the outcome of a request means for the one who wants the metadata of the table with an id.
Only a request that fails on the way is a failure of the server; a response without metadata
concerns this table alone. -/
def tableOutcome (id : Json) : Except Failure Reply → Except Failure Json
  | .error f => .error f
  | .ok (.broken reason) => .error (.source (.server (failedOnTheWay reason) id .null))
  | .ok (.response r) =>
    if r.status = 404 then .error (.source (.noTable id))
    else if r.isRefusal then .error (.source (.metadata id (unwantedStatus r)))
    else
      match r.json? with
      | some v => .ok v
      | none => .error (.source (.metadata id "response is not JSON"))

/-! ## Dashboards and tables -/

/-- The path of the dashboard with an id. -/
def dashboardPath (id : Json) : String := "/api/dashboard/" ++ id.text

/-- The path of the metadata of the table with an id. -/
def tablePath (id : Json) : String := "/api/table/" ++ id.text ++ "/query_metadata"

namespace Traffic

/-- The dashboard with an id (`MetabaseClient.get_dashboard`). -/
def dashboard (server : Server) (id : Json) : StateM Traffic (Except Failure Json) := do
  return dashboardOutcome id (← ask server (dashboardPath id))

/-- The metadata of the table with an id (`MetabaseClient.get_table_query_metadata`). -/
def table (server : Server) (id : Json) : StateM Traffic (Except Failure Json) := do
  return tableOutcome id (← ask server (tablePath id))

end Traffic

/-! ## Errands -/

/-- What a client can be asked to do. -/
inductive Errand where
  | dashboard (id : Json)
  | table (id : Json)
  | close

namespace Traffic

/-- Do what the client is asked to do.  Closing brings nothing and cannot fail. -/
def perform (server : Server) : Errand → StateM Traffic (Except Failure Json)
  | .dashboard id => dashboard server id
  | .table id => table server id
  | .close => do
    close
    return .ok .null

end Traffic

end DashboardSurvey
