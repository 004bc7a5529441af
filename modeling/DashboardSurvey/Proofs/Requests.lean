import DashboardSurvey.Proofs.Building
import DashboardSurvey.Proofs.Destination

/-!
# What a client asks for, and what it learns

A client at work changes its connection, the list of its requests and the log all at once.  For what
follows it is enough to know three things of any piece of work: the requests that it adds, that it
leaves the client as able to connect as before, and what it brings.

* `Client.asked`, `Client.outcome` — the requests for a path, at most one, and what asking for the
  path brings after earlier requests.
* `Client.outcome_congr`, `Client.outcome_steady` — what does not matter for it.
* `Client.Sound` — the connection of the client is that of its endpoint.
* `Traffic.Asks` — **what work leaves behind**: requests for the given paths, in this order.
* `run_ask` — one request; `asks_mapM` — one request for each item of a list.
* `asks_build` — building a catalog asks for every table once.
* `Client.source`, **`build_steady`** — at a server that always replies the same, building a catalog
  is building it from a source with fixed outcomes.
-/

namespace DashboardSurvey

/-! ## One request -/

namespace Connection

/-- The requests for a path: one, or none if there is no address for it. -/
def asked (k : Connection) (path : String) : List Request :=
  match k.address path with
  | .ok a => [k.request a]
  | .error _ => []

/-- What asking a server for a path brings after earlier requests. -/
def outcome (k : Connection) (server : Server) (earlier : List Request) (path : String) :
    Except Failure Reply :=
  match k.address path with
  | .ok a => (server.received earlier a (k.request a)).mapError Failure.address
  | .error e => .error (.address e)

variable {k : Connection} {path : String} {a : Address}

/-- The path of a request over a connection. -/
lemma path_request (k : Connection) (r : List Char) :
    (k.request (k.base.append r)).path = String.ofList (k.base.target ++ r) := by
  rw [request, Address.target_append]

lemma asked_of_address (h : k.address path = .ok a) : k.asked path = [k.request a] := by
  rw [asked, h]

lemma outcome_of_address (h : k.address path = .ok a) (server : Server) (earlier : List Request) :
    k.outcome server earlier path
      = (server.received earlier a (k.request a)).mapError Failure.address := by
  rw [outcome, h]

/-- Over a connection only addresses can be wrong before there is a reply. -/
lemma address_of_outcome_error {server : Server} {earlier : List Request} {f : Failure}
    (h : k.outcome server earlier path = .error f) : ∃ e, f = .address e := by
  rw [outcome] at h
  split at h
  · rename_i a _
    cases hreceived : server.received earlier a (k.request a) with
    | error e =>
        rw [hreceived] at h
        exact ⟨e, (Except.error.inj h).symm⟩
    | ok reply =>
        rw [hreceived] at h
        cases h
  · exact ⟨_, (Except.error.inj h).symm⟩

/-- **A request for a plain path** brings what reaches the one who asked of the reply to it, unless
that sends on to a place that does not go with the address. -/
lemma outcome_of_plain {e : Endpoint} (hk : e.connect = .ok k) (hweb : k.base.IsWeb)
    (hplain : Address.Plain path.toList) (ha : k.address path = .ok a) {server : Server}
    {earlier : List Request}
    (hstay : ∀ r e, server.reply earlier (k.request a) = .response r → r.onwardFault a ≠ .error e) :
    k.outcome server earlier path
      = .ok ((server.reply earlier (k.request a)).reaching server.unpack a) := by
  rw [outcome_of_address ha, Server.received,
    Reply.received_of_isWeb (isWeb_of_address hk hweb hplain ha) hstay]
  rfl

/-- **A plain path** is asked for once, after the target of the connection. -/
lemma asked_of_plain {e : Endpoint} (hk : e.connect = .ok k) (hweb : k.base.IsWeb)
    (hplain : Address.Plain path.toList) (hfits : k.Fits path) :
    k.asked path = [k.request (k.base.append path.toList.tail)] :=
  asked_of_address (address_of_plain hk hweb hplain hfits)

lemma asked_of_not_fits {e : Endpoint} (hk : e.connect = .ok k) (hweb : k.base.IsWeb)
    (hplain : Address.Plain path.toList) (hfits : ¬ k.Fits path) : k.asked path = [] := by
  obtain ⟨e, he⟩ := address_of_not_fits hk hweb hplain hfits
  rw [asked, he]

lemma length_asked_le_one (k : Connection) (path : String) : (k.asked path).length ≤ 1 := by
  rw [asked]
  split
  · exact le_rfl
  · exact Nat.zero_le 1

end Connection

namespace Client

/-- The requests of a client for a path: none if it cannot connect. -/
def asked (c : Client) (path : String) : List Request :=
  match c.connect with
  | .ok k => k.asked path
  | .error _ => []

/-- What asking a server for a path brings a client after earlier requests. -/
def outcome (c : Client) (server : Server) (earlier : List Request) (path : String) :
    Except Failure Reply :=
  match c.connect with
  | .ok k => k.outcome server earlier path
  | .error f => .error f

variable {c : Client} {k : Connection} {server : Server} {earlier : List Request} {path : String}

lemma asked_of_connect (h : c.connect = .ok k) : c.asked = k.asked := by
  funext path
  rw [asked, h]

lemma outcome_of_connect (h : c.connect = .ok k) : c.outcome = k.outcome := by
  funext server earlier path
  rw [outcome, h]

/-! ### Clients that connect alike -/

lemma asked_congr {c' : Client} (h : c'.connect = c.connect) : c'.asked = c.asked := by
  funext path
  rw [asked, asked, h]

lemma outcome_congr {c' : Client} (h : c'.connect = c.connect) : c'.outcome = c.outcome := by
  funext server earlier path
  rw [outcome, outcome, h]

/-- A server that always replies the same does not look at the requests before. -/
lemma outcome_steady {unpack : Unpacker} {reply : String → Reply} (c : Client)
    (earlier earlier' : List Request) :
    c.outcome (.steady unpack reply) earlier = c.outcome (.steady unpack reply) earlier' := by
  funext path
  rw [outcome, outcome]
  cases c.connect with
  | error f => rfl
  | ok k => rfl

/-! ### Without a server in the settings -/

/-- A client that is not connected, and whose settings name no server, cannot connect. -/
lemma connect_of_unset (hnone : c.connection = none) (hunset : c.endpoint.url.truthy = false) :
    c.connect = .error (.source Endpoint.notConfigured) := by
  simp [connect, hnone, Endpoint.connect, hunset]

/-- Nothing else is a failure of the server while a client connects. -/
lemma unset_of_connect {e : SourceError} (h : c.connect = .error (.source e)) :
    c.connection = none ∧ c.endpoint.url.truthy = false ∧ e = Endpoint.notConfigured := by
  cases hc : c.connection with
  | some k => simp [connect, hc] at h
  | none =>
      simp only [connect, hc, Endpoint.connect] at h
      split_ifs at h with hset
      · cases haddress : (Endpoint.address c.endpoint.url).bind Address.base with
        | error f => simp [haddress, Except.mapError] at h
        | ok base =>
            cases hkey : Endpoint.readKey c.endpoint.key with
            | error f => simp [haddress, hkey, Except.mapError] at h
            | ok key => simp [haddress, hkey, Except.mapError, pure, Except.pure] at h
      · simp only [Except.error.injEq, Failure.source.injEq] at h
        exact ⟨rfl, by simpa using hset, h.symm⟩

/-- Nor is there one before a reply. -/
lemma unset_of_outcome {e : SourceError} (h : c.outcome server earlier path = .error (.source e)) :
    c.connection = none ∧ c.endpoint.url.truthy = false ∧ e = Endpoint.notConfigured := by
  cases hconnect : c.connect with
  | error f =>
      rw [outcome, hconnect] at h
      exact unset_of_connect (hconnect.trans (congrArg Except.error (Except.error.inj h)))
  | ok k =>
      rw [outcome_of_connect hconnect] at h
      obtain ⟨f, hf⟩ := Connection.address_of_outcome_error h
      cases hf

/-! ### Over a connection to the web -/

/-- The connection of the client, if it has one, is that of its endpoint. -/
def Sound (c : Client) : Prop := c.connect = c.endpoint.connect

lemma sound_ofEndpoint (e : Endpoint) : (Client.ofEndpoint e).Sound := rfl

/-- The same for a client. -/
lemma outcome_of_plain (hsound : c.Sound) (hk : c.endpoint.connect = .ok k) (hweb : k.base.IsWeb)
    (hplain : Address.Plain path.toList) {a : Address} (ha : k.address path = .ok a)
    (hstay : ∀ r e, server.reply earlier (k.request a) = .response r → r.onwardFault a ≠ .error e) :
    c.outcome server earlier path
      = .ok ((server.reply earlier (k.request a)).reaching server.unpack a) := by
  rw [outcome_of_connect (hsound.trans hk), Connection.outcome_of_plain hk hweb hplain ha hstay]

end Client

/-! ### A small connection -/

/-- A way to reach a server on the web. -/
def Endpoint.sample : Endpoint := ⟨.str "http://metabase.test", .str "k", .num usualTimeout⟩

/-- The connection that it gives. -/
def Connection.sample : Connection :=
  ⟨⟨"http", [], "metabase.test", none, [], none, none⟩, "k", "30.0"⟩

lemma Endpoint.connect_sample : Endpoint.sample.connect = .ok Connection.sample := rfl

lemma Connection.isWeb_sample : Connection.sample.base.IsWeb := Or.inl rfl

/-- Nothing stands before a path there. -/
lemma Connection.target_sample {path : String} (hplain : Address.Plain path.toList) :
    String.ofList (Connection.sample.base.target ++ path.toList.tail) = path := by
  obtain ⟨-, c, rest, hchars, -⟩ := hplain
  have htarget : Connection.sample.base.target = ['/'] := rfl
  rw [htarget, hchars, List.tail_cons, List.singleton_append, ← hchars, String.ofList_toList]

lemma Connection.exists_address_sample {path : String} (hplain : Address.Plain path.toList)
    (hfits : Connection.sample.Fits path) :
    ∃ a, Connection.sample.address path = .ok a ∧ (Connection.sample.request a).path = path :=
  ⟨_, address_of_plain Endpoint.connect_sample isWeb_sample hplain hfits,
    (path_request _ _).trans (target_sample hplain)⟩

/-! ### Small responses -/

/-- A response where nothing is. -/
def Response.missing : Response := ⟨404, [], []⟩

/-- A response with a packed body. -/
def Response.gzip (body : List UInt8) : Response := ⟨200, [("Content-Encoding", "gzip")], body⟩

/-- How one body is unpacked; others cannot be. -/
def Unpacker.knowing (packed content : List UInt8) : Unpacker := fun codings bytes =>
  if codings = ["gzip"] ∧ bytes = packed then .ok content
  else .error "Error -3 while decompressing data: incorrect header check"

lemma Response.unpacked_gzip (packed content : List UInt8) :
    (gzip packed).unpacked (.knowing packed content)
      = .response { gzip packed with body := content } := by
  have hcodings : (gzip packed).codings = ["gzip"] := by
    have hempty : (gzip []).codings = ["gzip"] := by decide +kernel
    exact hempty
  rw [unpacked, hcodings]
  simp [Unpacker.knowing, gzip]

/-- An object without members, packed. -/
def packedObject : List UInt8 :=
  [0x1f, 0x8b, 0x08, 0x00, 0x00, 0x00, 0x00, 0x00, 0x02, 0x03, 0xab, 0xae, 0x05, 0x00, 0x43, 0xbf,
    0xa6, 0xa3, 0x02, 0x00, 0x00, 0x00]

/-- How it is unpacked. -/
def Unpacker.sample : Unpacker := .knowing packedObject [0x7b, 0x7d]

/-- A response with this body, when it was unpacked. -/
def Response.content : Response := { gzip packedObject with body := [0x7b, 0x7d] }

lemma Response.unpacked_packedObject :
    (gzip packedObject).unpacked .sample = .response .content := unpacked_gzip _ _

lemma Response.json?_content : Response.content.json? = some (.object []) := rfl

/-- A response that sends on to another path of the same host. -/
def Response.login : Response := ⟨302, [("Location", "/login")], []⟩

lemma Response.codings_login : Response.login.codings = [] := by decide +kernel

/-- A response that sends on to a place that cannot be read. -/
def Response.onward : Response := ⟨302, [("location", "http:elsewhere")], [0x7b, 0x7d]⟩

lemma Response.codings_onward : Response.onward.codings = [] := by decide +kernel

lemma Response.location?_onward : Response.onward.location? = some "http:elsewhere" := by
  decide +kernel

lemma Connection.outcome_onward {server : Server} {earlier : List Request} {path : String}
    (hplain : Address.Plain path.toList) (hfits : Connection.sample.Fits path)
    (h : ∀ request, server.reply earlier request = .response .onward) :
    Connection.sample.outcome server earlier path = .error (.address .pathAfterHost) := by
  have hplace : Address.ofText "http:elsewhere"
      = .ok ⟨"http", [], "", none, "elsewhere".toList, none, none⟩ := rfl
  -- a path without a slash cannot stand after the host, whatever the path of the request
  have hfault : ∀ r, (Connection.sample.base.append r).onwardFault "http:elsewhere"
      = .error .pathAfterHost := fun r => by
    simp only [Address.onwardFault, hplace, Address.host_append]
    rfl
  rw [outcome_of_address (address_of_plain Endpoint.connect_sample isWeb_sample hplain hfits),
    Server.received, h, Reply.received, Response.received_of_onwardFault (isWeb_sample.append _)
      (Response.unpacked_of_codings Response.codings_onward)
      (by rw [Response.onwardFault, Response.location?_onward]; exact hfault _)]
  rfl

namespace Traffic

variable {α β : Type} {t t' t'' : Traffic} {ps qs : List String}

/-- **What work leaves behind** if it asks for these paths, in this order.  The client can connect
afterwards exactly if it could before. -/
structure Asks (paths : List String) (t t' : Traffic) : Prop where
  requests : t'.requests = t.requests ++ paths.flatMap t.client.asked
  connect : t'.client.connect = t.client.connect
  endpoint : t'.client.endpoint = t.client.endpoint

namespace Asks

lemma refl (t : Traffic) : Asks [] t t := ⟨by simp, rfl, rfl⟩

lemma asked (h : Asks ps t t') : t'.client.asked = t.client.asked :=
  Client.asked_congr h.connect

lemma sound (h : Asks ps t t') (hsound : t.client.Sound) : t'.client.Sound :=
  h.connect.trans (hsound.trans (congrArg Endpoint.connect h.endpoint.symm))

/-- Work after work. -/
lemma trans (h : Asks ps t t') (h' : Asks qs t' t'') : Asks (ps ++ qs) t t'' where
  requests := by rw [h'.requests, h.requests, h.asked, List.flatMap_append, List.append_assoc]
  connect := h'.connect.trans h.connect
  endpoint := h'.endpoint.trans h.endpoint

end Asks

/-! ## What a request does -/

/-- One request: what it brings, and what it leaves behind. -/
lemma run_ask (server : Server) (path : String) (t : Traffic) :
    ((ask server path).run t).1 = t.client.outcome server t.requests path
      ∧ Asks [path] t ((ask server path).run t).2 := by
  have hrun : (ask server path).run t = ask server path t := rfl
  rw [hrun, ask]
  cases hconnect : t.client.connect with
  | error f =>
      have hasked : t.client.asked path = [] := by rw [Client.asked, hconnect]
      exact ⟨by rw [Client.outcome, hconnect], by simp [hasked], rfl, rfl⟩
  | ok k =>
      have hkept : ({ t.client with connection := some k } : Client).connect = t.client.connect := by
        rw [hconnect]
        rfl
      cases haddress : k.address path with
      | error e =>
          have hasked : t.client.asked path = [] := by
            rw [Client.asked_of_connect hconnect, Connection.asked, haddress]
          rw [Client.outcome_of_connect hconnect, Connection.outcome, haddress]
          simp only [haddress]
          exact ⟨trivial, by simp [hasked], hkept, rfl⟩
      | ok a =>
          have hasked : t.client.asked path = [k.request a] := by
            rw [Client.asked_of_connect hconnect, Connection.asked_of_address haddress]
          rw [Client.outcome_of_connect hconnect, Connection.outcome_of_address haddress]
          simp only [haddress]
          cases server.received t.requests a (k.request a) with
          | error e => exact ⟨rfl, by simp [hasked], hkept, rfl⟩
          | ok reply => exact ⟨rfl, by simp [hasked], hkept, rfl⟩

/-- The dashboard with an id: one request, and what its outcome means. -/
lemma run_dashboard (server : Server) (id : Json) (t : Traffic) :
    ((dashboard server id).run t).1
        = dashboardOutcome id (t.client.outcome server t.requests (dashboardPath id))
      ∧ Asks [dashboardPath id] t ((dashboard server id).run t).2 := by
  obtain ⟨hresult, hasks⟩ := run_ask server (dashboardPath id) t
  exact ⟨congrArg (dashboardOutcome id) hresult, hasks⟩

/-- The metadata of the table with an id: one request, and what its outcome means. -/
lemma run_table (server : Server) (id : Json) (t : Traffic) :
    ((table server id).run t).1
        = tableOutcome id (t.client.outcome server t.requests (tablePath id))
      ∧ Asks [tablePath id] t ((table server id).run t).2 := by
  obtain ⟨hresult, hasks⟩ := run_ask server (tablePath id) t
  exact ⟨congrArg (tableOutcome id) hresult, hasks⟩

/-! ## Many requests -/

section Many

variable {work : α → StateM Traffic β} {path : α → String}

/-- Work on every item of a list asks for the path of each, one after the other. -/
lemma asks_mapM (hasks : ∀ x t, Asks [path x] t ((work x).run t).2) (xs : List α) (t : Traffic) :
    Asks (xs.map path) t ((xs.mapM work).run t).2 := by
  -- the client changes from item to item, but asks for the same as before
  induction xs generalizing t with
  | nil => exact Asks.refl t
  | cons x rest ih =>
      rw [List.mapM_cons]
      exact (hasks x t).trans (ih ((work x).run t).2)

/-- If what the work brings for an item hangs only on whether the client can connect, the results
are known beforehand. -/
lemma run_mapM {able : Except Failure Connection} {bring : α → β}
    (hasks : ∀ x t, Asks [path x] t ((work x).run t).2)
    (hbring : ∀ x t, t.client.connect = able → ((work x).run t).1 = bring x)
    (xs : List α) {t : Traffic} (h : t.client.connect = able) :
    ((xs.mapM work).run t).1 = xs.map bring := by
  induction xs generalizing t with
  | nil => rfl
  | cons x rest ih =>
      have hrest := ih ((hasks x t).connect.trans h)
      rw [List.mapM_cons]
      exact congrArg₂ List.cons (hbring x t h) hrest

end Many

/-! ## The tables of a catalog -/

/-- The paths of the requests for tables. -/
def tablePaths (ts : List Int) : List String := ts.map fun t => tablePath (.int t)

variable {workers : Json}

lemma asks_arrival (server : Server) (id : Scalar) (t : Traffic) :
    Asks [tablePath (.scalar id)] t
      ((Catalog.arrival (fun id => table server (.scalar id)) id).run t).2 :=
  (run_table server (.scalar id) t).2

/-- **Building a catalog** asks for every table once, in ascending order. -/
theorem asks_build (server : Server) (arrange : List Arrival → List Arrival)
    (hworkers : checkWorkers workers = .ok ()) (ids : List Int) (t : Traffic) :
    Asks (tablePaths (ascending ids)) t ((Catalog.build (fun id => table server (.scalar id)) arrange
      workers (.list (ids.map Json.int))).run t).2 := by
  rw [Catalog.build, tableOrder_ints]
  cases hids : ascending ids with
  | nil => exact Asks.refl t
  | cons first rest =>
      simp only [List.map_cons, List.length_cons, startPool_succ, hworkers]
      have hasks := asks_mapM (asks_arrival server) ((first :: rest).map Scalar.int) t
      rw [List.map_map] at hasks
      exact hasks

end Traffic

/-! ## Servers that always reply the same -/

/-- The source that a client has in a server to which it has made no request yet. -/
def Client.source (c : Client) (server : Server) : Source := fun id =>
  tableOutcome (.scalar id) (c.outcome server [] (tablePath (.scalar id)))

/-- **Building at a server that always replies the same** is building from that source. -/
theorem build_steady (unpack : Unpacker) (reply : String → Reply)
    (arrange : List Arrival → List Arrival) (workers : Json) (ids : List Int) (t : Traffic) :
    ((Catalog.build (fun id => Traffic.table (.steady unpack reply) (.scalar id)) arrange workers
        (.list (ids.map Json.int))).run t).1
      = (t.client.source (.steady unpack reply)).assembly arrange workers ids := by
  generalize hserver : Server.steady unpack reply = server
  have hbring : ∀ (id : Scalar) (t' : Traffic), t'.client.connect = t.client.connect →
      ((Catalog.arrival (fun id => Traffic.table server (.scalar id)) id).run t').1
        = ⟨id, t.client.source server id⟩ := by
    intro id t' hconnect
    have hsource : t.client.source server id = tableOutcome (.scalar id)
        (t'.client.outcome server t'.requests (tablePath (.scalar id))) := by
      rw [Client.source, Client.outcome_congr hconnect, ← hserver,
        t.client.outcome_steady [] t'.requests]
    rw [hsource]
    exact congrArg (Arrival.mk id) (Traffic.run_table server (.scalar id) t').1
  rw [Source.assembly, Catalog.build, Catalog.build, tableOrder_ints]
  cases ascending ids with
  | nil => rfl
  | cons first rest =>
      simp only [List.map_cons, List.length_cons, startPool_succ]
      cases checkWorkers workers with
      | error f => rfl
      | ok u =>
          have harrivals := Traffic.run_mapM (Traffic.asks_arrival server) hbring
            ((first :: rest).map Scalar.int) (t := t) rfl
          have hsame : ((first :: rest).map Scalar.int).mapM
              (Catalog.arrival (m := Id) (t.client.source server))
              = ((first :: rest).map Scalar.int).map fun id => ⟨id, t.client.source server id⟩ :=
            List.mapM_pure (m := Id)
          simp only [List.map_cons] at harrivals hsame ⊢
          rw [hsame]
          exact congrArg (fun as => Catalog.assemble _ (arrange as)) harrivals

end DashboardSurvey
