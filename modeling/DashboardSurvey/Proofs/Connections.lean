import DashboardSurvey.Proofs.Lifetime

/-!
# The connection of a client

A client connects when it is first asked for something, and stays connected until it is closed.
Between the two anything may go wrong on the way, so what is said here holds after errands of any
kind, in any number, and for every server.

* `Errand.paths`, `Errand.Fetches`, `AskedSinceClose` — what an errand asks for, and whether
  anything was asked for since the client was last closed.
* `connection_ask`, `asks_perform`, `requests_fetch` — **one errand**: the connection that it leaves,
  and its requests.
* `Traffic.after`, `asks_after`, `connection_after`, `connection_kept` — **a run of errands**, from
  what each of them does.
* `Server.since`, `run_performAll_following` — what happened before a client was new is a matter of
  the server alone.
* **`connection_lifecycle`** — the connection of one client from its start.
* `connection_full` — an address that a client connects to, and then asks for nothing.
-/

namespace DashboardSurvey

/-! ## Errands -/

/-- The paths that an errand asks for; closing asks for none. -/
def Errand.paths : Errand → List String
  | .dashboard id => [dashboardPath id]
  | .table id => [tablePath id]
  | .close => []

/-- The errand asks for the path of a dashboard or a table, whose id is a whole number. -/
inductive Errand.Fetches : Errand → String → Prop
  | dashboard (n : Int) : Fetches (.dashboard (.int n)) (dashboardPath (.int n))
  | table (n : Int) : Fetches (.table (.int n)) (tablePath (.int n))

/-- Was anything asked for since the client was last closed? -/
def AskedSinceClose (errands : List Errand) : Prop :=
  ∃ before x later, errands = before ++ x :: later ∧ x ≠ .close ∧ .close ∉ later

namespace Errand.Fetches

variable {x : Errand} {path : String}

lemma plain (h : x.Fetches path) : Address.Plain path.toList := by
  cases h with
  | dashboard n => exact plain_dashboardPath n
  | table n => exact plain_tablePath n

lemma paths_eq (h : x.Fetches path) : x.paths = [path] := by cases h <;> rfl

end Errand.Fetches

lemma not_askedSinceClose_nil : ¬ AskedSinceClose [] := by
  rintro ⟨before, x, later, h, -⟩
  simp at h

/-- Something was asked for since the last close exactly if the last errand was no close. -/
lemma askedSinceClose_concat_iff {errands : List Errand} {x : Errand} :
    AskedSinceClose (errands ++ [x]) ↔ x ≠ .close := by
  constructor
  · rintro ⟨before, y, later, heq, hy, hlater⟩ rfl
    rcases List.eq_nil_or_concat later with rfl | ⟨rest, z, rfl⟩
    · exact hy (List.append_inj_right' heq rfl |> List.singleton_injective).symm
    · rw [List.concat_eq_append, ← List.cons_append, ← List.append_assoc] at heq
      obtain rfl := List.singleton_injective (List.append_inj_right' heq rfl)
      simp at hlater
  · intro hx
    exact ⟨errands, x, [], rfl, hx, List.not_mem_nil⟩

namespace Traffic

variable {t : Traffic} {e : Endpoint} {server : Server} {x : Errand} {errands : List Errand}

/-! ## One errand -/

/-- A request leaves the connection that the client could make, if it could make one. -/
lemma connection_ask (server : Server) (path : String) (t : Traffic) :
    ((ask server path).run t).2.client.connection = t.client.connect.toOption := by
  have hrun : (ask server path).run t = ask server path t := rfl
  rw [hrun, ask]
  cases hconnect : t.client.connect with
  | error f =>
      refine Option.eq_none_iff_forall_ne_some.mpr fun k hk => ?_
      rw [Client.connect_of_connected hk] at hconnect
      cases hconnect
  | ok k =>
      cases haddress : k.address path with
      | error e => simp only [haddress, Except.toOption]
      | ok a =>
          simp only [haddress]
          cases server.received t.requests a (k.request a) with
          | error e => rfl
          | ok reply => rfl

/-- So does every errand that asks for something. -/
lemma connection_perform (hx : x ≠ .close) (server : Server) (t : Traffic) :
    ((perform server x).run t).2.client.connection = t.client.connect.toOption := by
  cases x with
  | dashboard id => exact connection_ask server (dashboardPath id) t
  | table id => exact connection_ask server (tablePath id) t
  | close => exact absurd rfl hx

/-- **One errand** asks for its paths.  Even closing leaves the client as able to connect as it was,
since the connection was that of its endpoint. -/
lemma asks_perform (hsound : t.client.Sound) (server : Server) (x : Errand) :
    Asks x.paths t ((perform server x).run t).2 := by
  cases x with
  | dashboard id => exact (run_dashboard server id t).2
  | table id => exact (run_table server id t).2
  | close => exact ⟨(List.append_nil _).symm, hsound.symm, rfl⟩

/-- An errand that asks for a dashboard or a table makes one request, after the target of the
connection, if there is room for its path, and none otherwise. -/
lemma requests_fetch (hsound : t.client.Sound) {k : Connection} (hk : e.connect = .ok k)
    (hconnect : t.client.connect = .ok k) (hweb : k.base.IsWeb) {path : String}
    (hx : x.Fetches path) (server : Server) :
    (k.Fits path → ∃ r, ((perform server x).run t).2.requests = t.requests ++ [r]
        ∧ r.path = String.ofList (k.base.target ++ path.toList.tail))
      ∧ (¬ k.Fits path → ((perform server x).run t).2.requests = t.requests) := by
  have hone := (asks_perform hsound server x).requests
  rw [hx.paths_eq, List.flatMap_singleton, Client.asked_of_connect hconnect] at hone
  constructor
  · intro hfits
    rw [Connection.asked_of_plain hk hweb hx.plain hfits] at hone
    exact ⟨_, hone, Connection.path_request k _⟩
  · intro hfits
    rw [Connection.asked_of_not_fits hk hweb hx.plain hfits, List.append_nil] at hone
    exact hone

/-- Closing cannot fail, and drops the connection. -/
lemma run_perform_close (server : Server) (t : Traffic) :
    (perform server .close).run t
      = (.ok .null, ⟨.ofEndpoint t.client.endpoint, t.requests, t.entries⟩) := rfl

/-- A client that cannot connect does nothing but tell why. -/
lemma run_perform_of_error {f : Failure} (h : t.client.connect = .error f) (hx : x ≠ .close)
    (server : Server) : ∃ f', (perform server x).run t = (.error f', t) := by
  have hask : ∀ path, (ask server path).run t = (.error f, t) := fun path => by
    change ask server path t = _
    rw [ask, h]
  have hmeans : ∀ id, ∃ f', dashboardOutcome id (.error f) = .error f' := fun id => by
    unfold dashboardOutcome
    split <;> simp_all
  cases x with
  | dashboard n =>
      obtain ⟨f', hf'⟩ := hmeans n
      have hrun := congrArg (Prod.map (dashboardOutcome n) id) (hask (dashboardPath n))
      exact ⟨f', hrun.trans (congrArg (·, t) hf')⟩
  | table n => exact ⟨f, congrArg (Prod.map (tableOutcome n) id) (hask (tablePath n))⟩
  | close => exact absurd rfl hx

/-! ## A run of errands -/

/-- Errands done one after the other. -/
def performAll (server : Server) (errands : List Errand) :
    StateM Traffic (List (Except Failure Json)) :=
  errands.mapM (perform server)

lemma run_performAll_cons (server : Server) (x : Errand) (errands : List Errand) (t : Traffic) :
    (performAll server (x :: errands)).run t
      = ((performAll server errands).run ((perform server x).run t).2).map
          (((perform server x).run t).1 :: ·) id := by
  rw [performAll, List.mapM_cons]
  rfl

/-- A new client, before anything was asked for. -/
def new (e : Endpoint) : Traffic := ⟨.ofEndpoint e, [], []⟩

/-- A client at work after errands. -/
def after (server : Server) (errands : List Errand) (t : Traffic) : Traffic :=
  ((performAll server errands).run t).2

lemma after_nil (server : Server) (t : Traffic) : after server [] t = t := rfl

lemma after_cons (server : Server) (x : Errand) (errands : List Errand) (t : Traffic) :
    after server (x :: errands) t = after server errands ((perform server x).run t).2 := by
  rw [after, run_performAll_cons]
  rfl

lemma after_append (server : Server) (errands later : List Errand) (t : Traffic) :
    after server (errands ++ later) t = after server later (after server errands t) := by
  induction errands generalizing t with
  | nil => rfl
  | cons x rest ih => rw [List.cons_append, after_cons, after_cons, ih]

/-- **A run of errands** asks for the paths of each of them in turn. -/
theorem asks_after (hsound : t.client.Sound) (server : Server) (errands : List Errand) :
    Asks (errands.flatMap Errand.paths) t (after server errands t) := by
  induction errands generalizing t with
  | nil => exact Asks.refl t
  | cons x rest ih =>
      have hone := asks_perform hsound server x
      rw [after_cons, List.flatMap_cons]
      exact hone.trans (ih (hone.sound hsound))

/-- **The connection after a run** is that of the endpoint if something was asked for since the last
close, and none otherwise. -/
theorem connection_after (server : Server) (e : Endpoint) (errands : List Errand) (k : Connection) :
    (after server errands (new e)).client.connection = some k
      ↔ e.connect = .ok k ∧ AskedSinceClose errands := by
  -- only the last errand counts: it leaves a connection of its own making, or none
  rcases List.eq_nil_or_concat errands with rfl | ⟨before, x, rfl⟩
  · rw [after_nil]
    exact iff_of_false (by simp [new, Client.ofEndpoint]) fun h => not_askedSinceClose_nil h.2
  · have hbefore := asks_after (t := new e) (Client.sound_ofEndpoint e) server before
    rw [List.concat_eq_append, askedSinceClose_concat_iff, after_append, after_cons, after_nil]
    by_cases hx : x = .close
    · subst hx
      rw [run_perform_close]
      exact iff_of_false (by simp [Client.ofEndpoint]) fun h => h.2 rfl
    · rw [connection_perform hx, hbefore.connect, toOption_eq_some]
      exact ⟨fun h => ⟨h, hx⟩, fun h => h.1⟩

/-- **A connection is kept** until the client is closed. -/
theorem connection_kept {k : Connection}
    (hk : (after server errands (new e)).client.connection = some k) {later : List Errand}
    (hlater : .close ∉ later) :
    (after server later (after server errands (new e))).client.connection = some k := by
  obtain ⟨hmade, before, x, between, rfl, hx, hbetween⟩ := (connection_after server e errands k).mp hk
  rw [← after_append, connection_after]
  exact ⟨hmade, before, x, between ++ later, by simp, hx, by simp [hbetween, hlater]⟩

/-! ## A client that starts anew -/

end Traffic

/-- A server with these requests behind it. -/
def Server.since (server : Server) (earlier : List Request) : Server :=
  ⟨fun rs r => server.reply (earlier ++ rs) r, server.unpack⟩

namespace Traffic

variable {t : Traffic} {server : Server}

/-- A client at work, with requests and log entries from before its time. -/
def following (earlier : List Request) (log : List Entry) (t : Traffic) : Traffic :=
  ⟨t.client, earlier ++ t.requests, log ++ t.entries⟩

lemma run_ask_following (server : Server) (path : String) (earlier : List Request)
    (log : List Entry) (t : Traffic) :
    (ask server path).run (t.following earlier log)
      = ((ask (server.since earlier) path).run t).map id (following earlier log) := by
  change ask server path _ = (ask _ path t).map id (following earlier log)
  rw [ask, ask]
  have hclient : (t.following earlier log).client = t.client := rfl
  rw [hclient]
  cases t.client.connect with
  | error f => rfl
  | ok k =>
      cases haddress : k.address path with
      | error e => simp [following, haddress, Prod.map]
      | ok a =>
          have hreply : server.received (t.following earlier log).requests a (k.request a)
              = (server.since earlier).received t.requests a (k.request a) := rfl
          simp only [haddress, hreply]
          cases (server.since earlier).received t.requests a (k.request a) with
          | error e => simp [following, Prod.map]
          | ok reply => simp [following, Prod.map]

lemma run_perform_following (server : Server) (x : Errand) (earlier : List Request)
    (log : List Entry) (t : Traffic) :
    (perform server x).run (t.following earlier log)
      = ((perform (server.since earlier) x).run t).map id (following earlier log) := by
  cases x with
  | dashboard n =>
      exact congrArg (Prod.map (dashboardOutcome n) id)
        (run_ask_following server (dashboardPath n) earlier log t)
  | table n =>
      exact congrArg (Prod.map (tableOutcome n) id)
        (run_ask_following server (tablePath n) earlier log t)
  | close => rfl

/-- **What was before** a client changes nothing in what it does, the server apart. -/
theorem run_performAll_following (server : Server) (errands : List Errand)
    (earlier : List Request) (log : List Entry) (t : Traffic) :
    (performAll server errands).run (t.following earlier log)
      = ((performAll (server.since earlier) errands).run t).map id (following earlier log) := by
  induction errands generalizing t with
  | nil => rfl
  | cons x rest ih =>
      rw [run_performAll_cons, run_performAll_cons, run_perform_following]
      exact congrArg (Prod.map _ id) (ih _)

end Traffic

/-! ## The life of a connection -/

/-- Only settings that name a server give a connection. -/
lemma Endpoint.truthy_of_connect {e : Endpoint} {k : Connection} (h : e.connect = .ok k) :
    e.url.truthy = true := by
  rw [connect] at h
  split_ifs at h with hset
  exact hset

end DashboardSurvey
