import DashboardSurvey.Proofs.Fallback
import DashboardSurvey.Proofs.Footprint

/-!
# Which settings files are accepted, and what they guarantee

A settings file is accepted if the document in it has the right shape, if its log level can be
written, and if the names in its texts can be asked for.  What the settings then guarantee carries
over to every session: whatever the file says, there is a worker when tables are to be fetched.

* `YamlDocument.IsSettings` — the documents of the right shape.
* `YamlDocument.IsLegible` — the documents whose texts can be made use of in an environment.
* `Settings.exists_takenFrom_iff` — together these are the documents that settings are taken from.
* `Catalog.build_of_workers` — with settings that were read, the workers for tables can start.
* **`settings_file_exact`** — the files that are accepted, their settings, and the workers of every
  session.
* `settings_file_illegible` — documents of the right shape that are not accepted.
-/

namespace DashboardSurvey

variable {e : Environment} {d : YamlDocument}

/-! ## Documents that settings can be read from -/

/-- **The document of settings.**  It is empty or a mapping; what it says of the server is a mapping,
with a text for an address and a number for a timeout, and what it says of the tables is a mapping
with a whole number of workers.  Each of these may be left out. -/
structure YamlDocument.IsSettings (d : YamlDocument) : Prop where
  content : d.truthy d.root = false ∨ d.IsMap d.root
  server : ∀ v ∈ d.server, d.IsMap v
  url : ∀ v ∈ d.said d.server "url", ∃ s, d.value v = .str s
  timeout : ∀ v ∈ d.said d.server "timeout", ∃ x, (d.value v).toReal = .ok x
  tables : ∀ v ∈ d.tables, d.IsMap v
  workers : ∀ v ∈ d.said d.tables "max_workers", ∃ n, (d.value v).toWhole = .ok n

/-- What the document says, or the environment in its place, can be made use of: the log level holds
no whole number that is too long to be written, and the names in the address and in the key can be
asked for. -/
structure YamlDocument.IsLegible (d : YamlDocument) (e : Environment) : Prop where
  level : ∀ v ∈ d.said d.content "log_level", (d.value v).hasLongWhole = false
  url : ∀ s, d.given d.server "url" (.str (Settings.ofEnvironment e).url) = .str s →
    e.expandFault? s = none
  apiKey : ∀ s, d.given d.server "api_key" (Settings.ofEnvironment e).apiKey = .str s →
    e.expandFault? s = none

/-- A property that the usual value has is one of what is said instead, if anything is. -/
lemma YamlDocument.given_iff (d : YamlDocument) (P : Yaml → Prop) (part : Option Held)
    (name : String) (other : Yaml) (hother : P other) :
    P (d.given part name other) ↔ ∀ v ∈ d.said part name, P (d.value v) := by
  rw [given]
  cases d.said part name with
  | none => simpa using hother
  | some v => simp

lemma YamlDocument.content_isMap_iff :
    (∀ v ∈ d.content, d.IsMap v) ↔ d.truthy d.root = false ∨ d.IsMap d.root := by
  rw [content]
  by_cases h : d.truthy d.root = true
  · simp [h]
  · simp [h]

lemma Yaml.written_eq_ok_iff {v : Yaml} {s : String} :
    v.written = .ok s ↔ v.hasLongWhole = false ∧ v.text = s := by
  rw [written]
  split_ifs with h <;> simp [h]

/-- **When settings can be taken** from a document, in an environment. -/
lemma Settings.exists_takenFrom_iff : (∃ st, TakenFrom e d st)
    ↔ (∀ v ∈ d.said d.server "url", ∃ s, d.value v = .str s)
      ∧ (∀ v ∈ d.said d.server "timeout", ∃ x, (d.value v).toReal = .ok x)
      ∧ (∀ v ∈ d.said d.tables "max_workers", ∃ n, (d.value v).toWhole = .ok n)
      ∧ d.IsLegible e := by
  have hurl := d.given_iff (fun v => ∃ s, v = .str s) d.server "url"
    (.str (ofEnvironment e).url) ⟨_, rfl⟩
  have htimeout := d.given_iff (fun v => ∃ x, v.toReal = .ok x) d.server "timeout"
    (.num usualTimeout) ⟨_, rfl⟩
  have hworkers := d.given_iff (fun v => ∃ n, v.toWhole = .ok n) d.tables "max_workers"
    (.int usualWorkers) ⟨_, rfl⟩
  have hlevel := d.given_iff (fun v => v.hasLongWhole = false) d.content "log_level"
    (.str usualLevel) rfl
  rw [← hurl, ← htimeout, ← hworkers]
  constructor
  · rintro ⟨st, ⟨t, ht, hnames, -⟩, hkey, htimeout, ⟨n, hn, -⟩, s, hs, -⟩
    refine ⟨⟨t, ht⟩, ⟨_, htimeout⟩, ⟨n, hn⟩, hlevel.mp (Yaml.written_eq_ok_iff.mp hs).1,
      fun s hs => ?_, (Yaml.expanded_eq_ok_iff.mp hkey).2⟩
    obtain rfl : t = s := Scalar.str.inj (YamlScalar.basic.inj (Yaml.scalar.inj (ht.symm.trans hs)))
    exact hnames
  · rintro ⟨⟨t, ht⟩, ⟨x, hx⟩, ⟨n, hn⟩, hlegible⟩
    exact ⟨⟨e.address t, _, x, max 1 n, _⟩, ⟨t, ht, hlegible.url t ht, rfl⟩,
      Yaml.expanded_eq_ok_iff.mpr ⟨rfl, hlegible.apiKey⟩, hx, ⟨n, hn, rfl⟩, _,
      Yaml.written_eq_ok_iff.mpr ⟨hlevel.mpr hlegible.level, rfl⟩, rfl⟩

lemma Environment.getLast?_dropSlashes (cs : List Char) : (dropSlashes cs).getLast? ≠ some '/' := by
  rw [dropSlashes, List.getLast?_reverse]
  have hfirst := List.head?_dropWhile_not (· = '/') cs.reverse
  cases h : cs.reverse.dropWhile (· = '/') with
  | nil => simp
  | cons c rest =>
      rw [h] at hfirst
      simpa using hfirst

/-! ## Workers -/

namespace Catalog

variable {m : Type → Type} [Monad m]

/-- **The workers start.**  With a whole number of workers above zero, the metadata of all tables of
a dashboard is asked for. -/
lemma build_of_workers {workers : ℤ} (hworkers : 1 ≤ workers) {d : Dashboard} {ids : List ℤ}
    (hids : d.tableIds = .ok ids) (hne : ids ≠ []) (fetch : Scalar → m (Except Failure Json))
    (arrange : List Arrival → List Arrival) :
    build fetch arrange (.int workers) (.list (ids.map Json.int)) = do
      let arrivals ← (ids.map Scalar.int).mapM (arrival fetch)
      return assemble (ids.map Scalar.int) (arrange arrivals) := by
  have hsame : ascending ids = ids := (eq_ascending (pairwise_tableIds hids) fun _ => Iff.rfl).symm
  rw [build, tableOrder_ints, hsame]
  cases ids with
  | nil => exact absurd rfl hne
  | cons t rest =>
      simp only [List.map_cons, List.length_cons, startPool_succ, checkWorkers_int hworkers]

end Catalog

/-! ## Settings files -/

/-- **Settings files.**  Let a file hold a document.

* It is accepted exactly if the document is one of settings and legible.
* A null in place of the server, of its address or timeout, of the tables or of their workers is
  refused, though each of these may be left out.
* The settings that are read have an address that does not end in a slash; their number of workers
  is the one that is given, or else eight, but at least one; their level is the text of the one that
  is given, or else `INFO`, in capitals.
* Whatever files a session reads its settings from: when it fetches the tables of a dashboard that has
  any, the number of its workers lies between one and the number of tables, and they can start, so
  that all tables are asked for. -/
theorem settings_file_exact {h : Host} {path : String} {d : YamlDocument} (hfile : h.Holds path d) :
    ((∃ st, h.settings (some path) = .ok st) ↔ d.IsSettings ∧ d.IsLegible h.environment)
    ∧ (∀ place ∈ [d.server, d.said d.server "url", d.said d.server "timeout", d.tables,
        d.said d.tables "max_workers"], place = some (.scalar (.basic .null)) →
      ¬ ∃ st, h.settings (some path) = .ok st)
    ∧ (∀ st, h.settings (some path) = .ok st → st.url.toList.getLast? ≠ some '/'
      ∧ (∃ n, (d.given d.tables "max_workers" (.int 8)).toWhole = .ok n ∧ st.workers = max 1 n)
      ∧ st.level = capitals (d.given d.content "log_level" (.str "INFO")).text)
    ∧ ∀ s : Session, s.Reachable → ∀ (host : Host) (settings : Settings),
      s.settingsFor host = .ok settings → ∀ (d : Dashboard) (ids : List ℤ), d.tableIds = .ok ids →
      ids ≠ [] → (∃ size : ℤ, poolSize (.int settings.workers) ids.length = .ok (.whole size)
          ∧ 1 ≤ size ∧ size ≤ ids.length)
        ∧ startPool (.int settings.workers) ids.length = .ok ()
        ∧ ∀ (m : Type → Type) [Monad m] (fetch : Scalar → m (Except Failure Json))
          (arrange : List Arrival → List Arrival),
          Catalog.build fetch arrange (.int settings.workers) (.list (ids.map Json.int)) = do
            let arrivals ← (ids.map Scalar.int).mapM (Catalog.arrival fetch)
            return Catalog.assemble (ids.map Scalar.int) (arrange arrivals) := by
  have haccepted : (∃ st, h.settings (some path) = .ok st)
      ↔ d.IsSettings ∧ d.IsLegible h.environment := by
    simp only [hfile.settings_eq, Settings.ofDocument_eq_ok_iff, exists_and_left,
      Settings.exists_takenFrom_iff, YamlDocument.content_isMap_iff]
    constructor
    · rintro ⟨⟨hcontent, hserver, htables⟩, hurl, htimeout, hworkers, hlegible⟩
      exact ⟨⟨hcontent, hserver, hurl, htimeout, htables, hworkers⟩, hlegible⟩
    · rintro ⟨⟨hcontent, hserver, hurl, htimeout, htables, hworkers⟩, hlegible⟩
      exact ⟨⟨hcontent, hserver, htables⟩, hurl, htimeout, hworkers, hlegible⟩
  refine ⟨haccepted, ?_, fun st hst => ?_, fun s hs host settings hsettings d ids hids hne => ?_⟩
  · rw [haccepted]
    rintro place hplace rfl ⟨hsettings, -⟩
    simp only [List.mem_cons, List.not_mem_nil, or_false] at hplace
    rcases hplace with hnull | hnull | hnull | hnull | hnull
    · cases hsettings.server _ hnull.symm
    · obtain ⟨s, hs⟩ := hsettings.url _ hnull.symm
      cases hs
    · obtain ⟨x, hx⟩ := hsettings.timeout _ hnull.symm
      cases hx
    · cases hsettings.tables _ hnull.symm
    · obtain ⟨n, hn⟩ := hsettings.workers _ hnull.symm
      cases hn
  · rw [hfile.settings_eq] at hst
    obtain ⟨-, ⟨t, -, -, hurl⟩, -, -, ⟨n, hn, hworkers⟩, text, htext, hlevel⟩ :=
      Settings.ofDocument_eq_ok_iff.mp hst
    refine ⟨?_, ⟨n, hn, hworkers.symm⟩, ?_⟩
    · rw [← hurl, Environment.address, String.toList_ofList]
      exact Environment.getLast?_dropSlashes _
    · rw [← hlevel, ← (Yaml.written_eq_ok_iff.mp htext).2]
      rfl
  · have hworkers : 1 ≤ settings.workers := hs.sound.workers_of_settingsFor hsettings
    have hlength : 1 ≤ (ids.length : ℤ) := by
      exact_mod_cast List.length_pos_of_ne_nil hne
    refine ⟨⟨_, poolSize_int _ _, le_min hworkers hlength, min_le_right _ _⟩, ?_,
      fun m _ fetch arrange => Catalog.build_of_workers hworkers hids hne fetch arrange⟩
    obtain ⟨n, hn⟩ := Nat.exists_eq_succ_of_ne_zero (List.length_pos_of_ne_nil hne).ne'
    rw [hn, Nat.succ_eq_add_one, startPool_succ, checkWorkers_int hworkers]

/-- A file that allows three workers: two of them are put to work for the two tables of a card. -/
theorem settings_file_exact_sample :
    let h := Host.withWorkersFile "http://m.test/" "k"
    ∃ d st, h.Holds "dashlens.yml" d ∧ h.settings (some "dashlens.yml") = .ok st
      ∧ st.url.toList.getLast? ≠ some '/' ∧ st.workers = 3
      ∧ (Session.ofSettings st).Reachable ∧ (Session.ofSettings st).settingsFor h = .ok st
      ∧ ∃ board ids, Dashboard.tableIds board = .ok ids ∧ ids.length = 2
        ∧ startPool (.int st.workers) ids.length = .ok () := by
  intro h
  obtain ⟨d, hfile, -⟩ := Host.exists_holds_withWorkersFile "http://m.test/" "k"
  have hworkers : (h.settings (some "dashlens.yml")).toOption.map Settings.workers = some 3 := by
    decide +kernel
  obtain ⟨st, hst, hthree⟩ := Option.map_eq_some_iff.mp hworkers
  rw [toOption_eq_some] at hst
  have hchosen : h.chosenSettings ["--config", "dashlens.yml"] = .ok st := hst
  have hreachable := Session.Reachable.started hchosen
  let query : Json := .object [("source-table", .int 2),
    ("joins", .list [.object [("source-table", .int 1)]])]
  let card : Card := ⟨.null, .int 7, .object [("dataset_query", .object [("query", query)])], .null,
    [], Json.emptyObject⟩
  let board : Dashboard := ⟨.null, .null, [card], [], Keyed.empty⟩
  have hids : board.tableIds = .ok (ascending [2, 1]) := rfl
  have hascending : ascending [2, 1] = [1, 2] := (eq_ascending (by decide) (by simp [or_comm])).symm
  rw [hascending] at hids
  obtain ⟨-, -, hread, hsessions⟩ := settings_file_exact hfile
  obtain ⟨-, hstart, -⟩ := hsessions _ hreachable h st rfl board [1, 2] hids (by simp)
  exact ⟨d, st, hfile, hst, (hread st hst).1, hthree, hreachable, rfl, board, [1, 2], hids, rfl, hstart⟩

/-- A host with a settings file. -/
def Host.withSettings (text : String) : Host where
  tree := ⟨[(["work", "dashlens.yml"], text.toUTF8.toList)], []⟩
  environment := ⟨[], []⟩
  here := ["work"]

/-- Settings files whose address names a user with a zero, and whose key names a variable with half of
a surrogate pair. -/
def strangeFiles : List String :=
  ["metabase:\n  url: \"~\\0\"\n", "metabase:\n  api_key: \"$\x7b\\ud800\x7d\"\n"]

/-- The document says of the server no more than an address, which is a text, and a key, and it says
nothing of the tables. -/
def YamlDocument.namesServer (d : YamlDocument) : Bool :=
  d.kind d.root == .object && d.server.all (d.kind · == .object) && d.tables.isNone
    && (d.said d.server "timeout").isNone
    && (d.said d.server "url").all fun v => match v with
      | .scalar (.basic (.str _)) => true
      | _ => false

lemma YamlDocument.isSettings_of_namesServer (h : d.namesServer = true) : d.IsSettings := by
  simp only [namesServer, Bool.and_eq_true, beq_iff_eq, Option.isNone_iff_eq_none,
    Option.all_eq_true] at h
  obtain ⟨⟨⟨⟨hroot, hserver⟩, htables⟩, htimeout⟩, hurl⟩ := h
  refine ⟨Or.inr hroot, hserver, fun v hv => ?_, by simp [htimeout], by simp [htables],
    by simp [htables, said]⟩
  have htext := hurl v hv
  split at htext
  · exact ⟨_, rfl⟩
  · cases htext

/-- A document whose log level is a whole number with more than four thousand digits. -/
def YamlDocument.longLevel : YamlDocument :=
  ⟨#[.map [(.basic (.str "log_level"), .scalar (.basic (.int (Int.ofNat (16 ^ 3600)))))]], .stored 0⟩

lemma YamlDocument.isSettings_longLevel : longLevel.IsSettings where
  content := Or.inr rfl
  server := nofun
  url := nofun
  timeout := nofun
  tables := nofun
  workers := nofun

lemma YamlDocument.not_isLegible_longLevel (e : Environment) : ¬ longLevel.IsLegible e := by
  intro h
  have hlong : isLongWhole (Int.ofNat (16 ^ 3600)) = true := by decide +kernel
  have hlevel := h.level (.scalar (.basic (.int (Int.ofNat (16 ^ 3600))))) rfl
  exact absurd hlong (Bool.eq_false_iff.mp hlevel)

/-- A file that says no more than this holds a document of settings. -/
lemma Host.exists_holds_withSettings {text : String}
    (hread : (Yaml.decode text.toList).toOption.join.any YamlDocument.namesServer = true)
    (hnode : Host.text (Path.ofText "dashlens.yml") (.file text.toUTF8.toList) = .ok text.toList) :
    ∃ d, (withSettings text).Holds "dashlens.yml" d ∧ d.IsSettings := by
  obtain ⟨d, hd, hnames⟩ := (Option.any_eq_true _ _).mp hread
  rw [Option.join_eq_some_iff, toOption_eq_some] at hd
  exact ⟨d, ⟨_, _, some d, rfl, hnode, hd, rfl⟩, YamlDocument.isSettings_of_namesServer hnames⟩

/-- Documents of settings that are not accepted: the host cannot be asked for a user or a variable
that they name, or a log level cannot be written. -/
theorem settings_file_illegible :
    (∀ text ∈ strangeFiles, ∃ d, (Host.withSettings text).Holds "dashlens.yml" d ∧ d.IsSettings
      ∧ ¬ ∃ st, (Host.withSettings text).settings (some "dashlens.yml") = .ok st)
    ∧ YamlDocument.longLevel.IsSettings
    ∧ ∀ (h : Host) (path : String), h.Holds path .longLevel →
      ¬ ∃ st, h.settings (some path) = .ok st := by
  have hread : ∀ text ∈ strangeFiles,
      (Yaml.decode text.toList).toOption.join.any YamlDocument.namesServer = true
        ∧ Host.text (Path.ofText "dashlens.yml") (.file text.toUTF8.toList) = .ok text.toList
        ∧ ((Host.withSettings text).settings (some "dashlens.yml")).isOk = false := by
    decide +kernel
  refine ⟨fun text htext => ?_, YamlDocument.isSettings_longLevel, fun h path hfile => ?_⟩
  · obtain ⟨hdocument, hnode, hfailed⟩ := hread text htext
    obtain ⟨d, hfile, hsettings⟩ := Host.exists_holds_withSettings hdocument hnode
    refine ⟨d, hfile, hsettings, ?_⟩
    rintro ⟨st, hst⟩
    rw [hst] at hfailed
    cases hfailed
  · rintro ⟨st, hst⟩
    rw [hfile.settings_eq, Settings.ofDocument_eq_ok_iff] at hst
    exact YamlDocument.not_isLegible_longLevel h.environment
      (Settings.exists_takenFrom_iff.mp ⟨st, hst.2⟩).2.2.2

end DashboardSurvey
