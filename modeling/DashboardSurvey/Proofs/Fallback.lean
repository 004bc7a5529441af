import DashboardSurvey.Proofs.SettingsDocument

/-!
# A settings file that does not say where the server is

The address and the key of the server come from the environment unless the settings file has them.
There are two ways on which they come.  Without a file they are taken as they are.  With one they
stand in for an entry of the file, and are treated like it: what they name is replaced, and slashes
at the end of the address are dropped.

* `Environment.Unmarked` — texts in which nothing can be replaced; `Environment.expand_of_unmarked`.
* `YamlDocument.Silent` — the documents that name neither an address nor a key.
* `Host.Holds` — what the settings file at a path says.
* `Settings.ofDocument_silent` — the second way: what becomes of the texts.
* **`silent_settings`** — what a file with such a document changes, and when it changes nothing.
-/

namespace DashboardSurvey

/-! ## Texts that stay -/

namespace Environment

variable (e : Environment)

/-- Nothing in the text can be replaced: it does not start with a tilde, and holds no dollar sign. -/
def Unmarked (s : String) : Prop := s.toList.head? ≠ some '~' ∧ '$' ∉ s.toList

lemma expandTilde_of_head?_ne {cs : List Char} (h : cs.head? ≠ some '~') : e.expandTilde cs = cs := by
  unfold expandTilde
  split
  · exact absurd rfl h
  · rfl

lemma expandNames_of_not_mem {cs : List Char} (h : '$' ∉ cs) : e.expandNames cs = cs := by
  induction cs with
  | nil => rw [expandNames]
  | cons c rest ih =>
      rw [List.mem_cons, not_or] at h
      rw [expandNames, if_neg (Ne.symm h.1), ih h.2]

lemma expand_of_unmarked {s : String} (h : Unmarked s) : e.expand s = s := by
  rw [expand, e.expandTilde_of_head?_ne h.1, e.expandNames_of_not_mem h.2, String.ofList_toList]

lemma dropSlashes_of_getLast?_ne {cs : List Char} (h : cs.getLast? ≠ some '/') :
    dropSlashes cs = cs := by
  rw [List.getLast?_eq_head?_reverse] at h
  rw [dropSlashes]
  cases hrev : cs.reverse with
  | nil => rw [List.reverse_eq_nil_iff.mp hrev]; rfl
  | cons c rest =>
      rw [hrev, List.head?_cons, ne_eq, Option.some.injEq] at h
      rw [List.dropWhile_cons_of_neg (by simpa using h), ← hrev, List.reverse_reverse]

lemma address_of_unmarked {s : String} (h : Unmarked s) (hlast : s.toList.getLast? ≠ some '/') :
    e.address s = s := by
  rw [address, e.expand_of_unmarked h, dropSlashes_of_getLast?_ne hlast, String.ofList_toList]

end Environment

/-! ## Documents that do not say it -/

/-- The document names neither an address nor a key: it is empty, it is a mapping without an entry
for the server, or that entry is a mapping without these two. -/
inductive YamlDocument.Silent (d : YamlDocument) : Prop
  | empty (h : d.truthy d.root = false)
  | unnamed (h : d.member d.root "metabase" = .ok none)
  | bare {server : Held} (h : d.member d.root "metabase" = .ok (some server))
      (hurl : d.member server "url" = .ok none) (hkey : d.member server "api_key" = .ok none)

/-- What such a document says of the server is nothing of the two. -/
lemma YamlDocument.Silent.said_server {d : YamlDocument} (h : d.Silent) :
    d.said d.server "url" = none ∧ d.said d.server "api_key" = none := by
  rw [server, content]
  split_ifs with hroot
  · cases h with
    | empty hno => rw [hroot] at hno; cases hno
    | unnamed h => simp [said, h, Except.toOption]
    | bare h hurl hkey => simp [said, h, hurl, hkey, Except.toOption]
  · exact ⟨rfl, rfl⟩

/-- **What becomes of the texts** that stand in for the entries of a file. -/
theorem Settings.ofDocument_silent {e : Environment} {d : YamlDocument} {st : Settings}
    (hsilent : d.Silent) (h : ofDocument e d = .ok st) :
    st.url = e.address (ofEnvironment e).url
      ∧ st.apiKey = (ofEnvironment e).apiKey.expand e := by
  obtain ⟨-, htaken⟩ := ofDocument_eq_ok_iff.mp h
  obtain ⟨hurl, hkey⟩ := hsilent.said_server
  obtain ⟨t, ht, -, haddress⟩ := htaken.url
  have hexpanded := (Yaml.expanded_eq_ok_iff.mp htaken.apiKey).1
  rw [YamlDocument.given, hurl, Option.elim_none] at ht
  rw [YamlDocument.given, hkey, Option.elim_none] at hexpanded
  obtain rfl : (ofEnvironment e).url = t := Scalar.str.inj (YamlScalar.basic.inj (Yaml.scalar.inj ht))
  exact ⟨haddress.symm, hexpanded.symm⟩

/-! ## Settings files -/

/-- The settings file at a path holds a document; without any content it is the empty one. -/
def Host.Holds (h : Host) (s : String) (d : YamlDocument) : Prop :=
  ∃ node cs d?, h.find? (Path.ofText s) = some node ∧ Host.text (Path.ofText s) node = .ok cs
    ∧ Yaml.decode cs = .ok d? ∧ d?.getD .empty = d

lemma Host.Holds.settings_eq {h : Host} {s : String} {d : YamlDocument} (hfile : h.Holds s d) :
    h.settings (some s) = Settings.ofDocument h.environment d := by
  obtain ⟨node, cs, d?, hnode, hcs, hd, rfl⟩ := hfile
  simp only [Host.settings, hnode, hcs, hd, Except.mapError, ok_bind]
  cases d? <;> rfl

/-- **What a settings file without an address and a key changes.**  In the address and the key that
the environment has, what they name is replaced, and the address loses the slashes at its end.  So
nothing changes exactly if they are texts that this leaves alone; among these are all in which
nothing can be replaced, if the address does not end in a slash. -/
theorem silent_settings {h : Host} {s : String} {d : YamlDocument} {st st₀ : Settings}
    (hfile : h.Holds s d) (hsilent : d.Silent) (hst : h.settings (some s) = .ok st)
    (hst₀ : h.settings none = .ok st₀) :
    ∃ key, st₀.apiKey = .str key
      ∧ st.url = h.environment.address st₀.url ∧ st.apiKey = .str (h.environment.expand key)
      ∧ ((st.url = st₀.url ∧ st.apiKey = st₀.apiKey)
        ↔ h.environment.address st₀.url = st₀.url ∧ h.environment.expand key = key)
      ∧ (Environment.Unmarked st₀.url → st₀.url.toList.getLast? ≠ some '/' →
        Environment.Unmarked key → st.url = st₀.url ∧ st.apiKey = st₀.apiKey) := by
  obtain rfl : Settings.ofEnvironment h.environment = st₀ := Except.ok.inj hst₀
  rw [hfile.settings_eq] at hst
  obtain ⟨hurl, hkey⟩ := Settings.ofDocument_silent hsilent hst
  refine ⟨_, rfl, hurl, hkey, ?_, fun hplain hlast hkeyPlain => ⟨?_, ?_⟩⟩
  · rw [hurl, hkey]
    refine and_congr_right fun _ => ?_
    simp only [Settings.ofEnvironment, Yaml.expand, Yaml.scalar.injEq, YamlScalar.basic.injEq,
      Scalar.str.injEq]
  · rw [hurl, h.environment.address_of_unmarked hplain hlast]
  · rw [hkey]
    exact congrArg Yaml.str (h.environment.expand_of_unmarked hkeyPlain)

/-- A settings file that only says how many tables to ask for at once. -/
def workersFile : String := "resolver:\n  max_workers: 3\n"

/-- A host with this settings file. -/
def Host.withWorkersFile (url key : String) : Host where
  tree := ⟨[(["work", "dashlens.yml"], workersFile.toUTF8.toList)], []⟩
  environment := ⟨[("METABASE_URL", url), ("METABASE_API_KEY", key), ("REGION", "eu")], []⟩
  here := ["work"]

lemma Host.exists_holds_withWorkersFile (url key : String) :
    ∃ d, (withWorkersFile url key).Holds "dashlens.yml" d ∧ d.Silent := by
  have hsilent : (Yaml.decode workersFile.toList).toOption.join.any (fun d =>
      (d.member d.root "metabase").toOption.any Option.isNone) = true := by decide +kernel
  obtain ⟨d, hd, hmember⟩ := (Option.any_eq_true _ _).mp hsilent
  obtain ⟨server, hserver, hnone⟩ := (Option.any_eq_true _ _).mp hmember
  obtain rfl := Option.isNone_iff_eq_none.mp hnone
  rw [Option.join_eq_some_iff, toOption_eq_some] at hd
  rw [toOption_eq_some] at hserver
  refine ⟨d, ⟨.file workersFile.toUTF8.toList, _, some d, ?_, ?_, hd, rfl⟩, .unnamed hserver⟩
  · rfl
  · decide +kernel

/-- A plain address and a plain key come through such a file as they are. -/
theorem silent_settings_plain :
    let h := Host.withWorkersFile "http://m.test" "k"
    ∃ st st₀, h.settings (some "dashlens.yml") = .ok st ∧ h.settings none = .ok st₀
      ∧ st.url = st₀.url ∧ st.apiKey = st₀.apiKey := by
  intro h
  obtain ⟨d, hfile, hsilent⟩ := Host.exists_holds_withWorkersFile "http://m.test" "k"
  have hfinished : (h.settings (some "dashlens.yml")).isOk = true := by decide +kernel
  cases hst : h.settings (some "dashlens.yml") with
  | error f => rw [hst] at hfinished; cases hfinished
  | ok st =>
      obtain ⟨key, hkey, -, -, -, hsame⟩ := silent_settings hfile hsilent hst rfl
      obtain rfl : "k" = key := Scalar.str.inj (YamlScalar.basic.inj (Yaml.scalar.inj hkey))
      exact ⟨st, _, rfl, rfl, hsame ⟨by decide, by decide⟩ (by decide) ⟨by decide, by decide⟩⟩

/-- With the same file, an address that ends in a slash is another one than without, and so is a key
with a dollar sign before the name of a variable. -/
theorem silent_settings_changed :
    let h := Host.withWorkersFile "http://m.test/" "s3$REGION"
    ∃ d st st₀, h.Holds "dashlens.yml" d ∧ d.Silent
      ∧ h.settings (some "dashlens.yml") = .ok st ∧ h.settings none = .ok st₀
      ∧ (st.url = "http://m.test" ∧ st₀.url = "http://m.test/")
      ∧ st.apiKey = .str "s3eu" ∧ st₀.apiKey = .str "s3$REGION" := by
  intro h
  obtain ⟨d, hfile, hsilent⟩ := Host.exists_holds_withWorkersFile "http://m.test/" "s3$REGION"
  have hfinished : (h.settings (some "dashlens.yml")).isOk = true := by decide +kernel
  cases hst : h.settings (some "dashlens.yml") with
  | error f => rw [hst] at hfinished; cases hfinished
  | ok st =>
      have hdocument := hfile.settings_eq.symm.trans hst
      obtain ⟨hurl, hkey⟩ := Settings.ofDocument_silent hsilent hdocument
      have haddress : h.environment.address "http://m.test/" = "http://m.test" := by decide +kernel
      have hexpand : h.environment.expand "s3$REGION" = "s3eu" := by decide +kernel
      exact ⟨d, st, _, hfile, hsilent, rfl, rfl, ⟨hurl.trans haddress, rfl⟩,
        hkey.trans (congrArg Yaml.str hexpand), rfl⟩

end DashboardSurvey
