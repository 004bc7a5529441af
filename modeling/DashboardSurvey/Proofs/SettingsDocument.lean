import DashboardSurvey.Config.Find
import DashboardSurvey.Proofs.Steps

/-!
# What settings are made of

Settings are read from a document entry by entry, and each entry can stop the reading in a way of its
own.  Here the reading is taken apart once: which parts of the document are looked into, what each
says, and what becomes of it.

* `YamlDocument.said`, `YamlDocument.given` — what a part says under a name, and a default for it.
* `YamlDocument.content`, `server`, `tables` — the parts that are looked into.
* `Yaml.expanded_eq_ok_iff`, `Yaml.withoutSlashes_eq_ok_iff` — what becomes of texts.
* `Settings.TakenFrom`, **`Settings.ofDocument_eq_ok_iff`** — the settings of a document.
-/

namespace DashboardSurvey

variable {e : Environment} {d : YamlDocument} {st : Settings}

/-! ## Parts of a request -/

section Parts

variable {α : Type} {a : α}

lemma shaped_eq_ok {r : Shaped α} : shaped r = .ok a ↔ r = .ok a := mapError_eq_ok

lemma numeric_eq_ok {r : Except NumberError α} : numeric r = .ok a ↔ r = .ok a := mapError_eq_ok

lemma naming_eq_ok {r : Except NameFault α} : naming r = .ok a ↔ r = .ok a := mapError_eq_ok

end Parts

/-! ## Parts of a document -/

namespace YamlDocument

/-- The value is a mapping. -/
def IsMap (d : YamlDocument) (v : Held) : Prop := d.kind v = .object

/-- What a part of the document says under a name: nothing if it is left out, is no mapping, or has
no entry of that name. -/
def said (d : YamlDocument) (part : Option Held) (name : String) : Option Held :=
  part.bind fun v => (d.member v name).toOption.join

/-- The same, with a value for what is not said. -/
def given (d : YamlDocument) (part : Option Held) (name : String) (other : Yaml) : Yaml :=
  (d.said part name).elim other d.value

/-- What the document holds, if that counts as present. -/
def content (d : YamlDocument) : Option Held := if d.truthy d.root then some d.root else none

/-- What it says of the server. -/
def server (d : YamlDocument) : Option Held := d.said d.content "metabase"

/-- What it says of the tables. -/
def tables (d : YamlDocument) : Option Held := d.said d.content "resolver"

lemma exists_member_iff {v : Held} (name : String) :
    (∃ o, d.member v name = .ok o) ↔ d.IsMap v := by
  have hscalar : ∀ s : YamlScalar, s.kind ≠ .object := by
    rintro (s | _ | _ | _)
    · cases s <;> exact nofun
    all_goals exact nofun
  cases v with
  | scalar s => exact iff_of_false nofun (hscalar s)
  | pair first second => exact iff_of_false nofun nofun
  | stored place =>
      rw [IsMap, kind, member]
      cases d.part place with
      | map entries => exact iff_of_true ⟨_, rfl⟩ rfl
      | list items => exact iff_of_false nofun nofun
      | set members => exact iff_of_false nofun nofun

/-- Asking a part for an entry takes a mapping, if the part is there. -/
lemma setting_eq_ok_iff {part o : Option Held} {name : String} :
    d.setting part name = .ok o ↔ (∀ v ∈ part, d.IsMap v) ∧ d.said part name = o := by
  cases part with
  | none => simp [setting, said]
  | some v =>
      simp only [setting, said, Option.mem_def, Option.some.injEq, forall_eq', Option.bind_some]
      rw [← exists_member_iff name]
      cases d.member v name <;> simp [Except.toOption]

end YamlDocument

/-! ## Texts -/

/-- What becomes of the address of the server. -/
def Environment.address (e : Environment) (s : String) : String :=
  String.ofList (dropSlashes (e.expand s).toList)

namespace Yaml

variable {v w : Yaml} {s : String}

/-- A value is as good as expanded unless it is a text with a name that cannot be asked for. -/
lemma expanded_eq_ok_iff : v.expanded e = .ok w
    ↔ v.expand e = w ∧ ∀ t, v = .str t → e.expandFault? t = none := by
  unfold expanded expand
  split
  · rename_i t
    cases hfault : e.expandFault? t <;> simp [hfault]
  · rename_i hother
    simp only [Except.ok.injEq, iff_self_and]
    exact fun _ t ht => absurd ht (hother t)

lemma withoutSlashes_eq_ok_iff : v.withoutSlashes = .ok s
    ↔ ∃ t, v = .str t ∧ String.ofList (Environment.dropSlashes t.toList) = s := by
  unfold withoutSlashes
  split
  · simp
  · simp
  · rename_i hother _
    simp only [reduceCtorEq, false_iff, not_exists, not_and]
    exact fun t ht => absurd ht (hother t)

/-- **An address** has to be a text all of whose names can be asked for. -/
lemma address_eq_ok_iff : (∃ w, v.expanded e = .ok w ∧ w.withoutSlashes = .ok s)
    ↔ ∃ t, v = .str t ∧ e.expandFault? t = none ∧ e.address t = s := by
  simp only [expanded_eq_ok_iff, withoutSlashes_eq_ok_iff, and_assoc, exists_eq_left']
  constructor
  · rintro ⟨hnames, t, ht, rfl⟩
    unfold expand at ht
    split at ht
    · rename_i u
      obtain rfl : e.expand u = t := Scalar.str.inj (YamlScalar.basic.inj (scalar.inj ht))
      exact ⟨u, rfl, hnames u rfl, rfl⟩
    · rename_i hother
      exact absurd ht (hother t)
  · rintro ⟨t, rfl, hnames, rfl⟩
    refine ⟨fun u hu => ?_, e.expand t, rfl, rfl⟩
    obtain rfl : t = u := Scalar.str.inj (YamlScalar.basic.inj (scalar.inj hu))
    exact hnames

end Yaml

/-! ## Settings -/

/-- The settings are those that the document gives, with the usual ones for what it does not say. -/
structure Settings.TakenFrom (e : Environment) (d : YamlDocument) (st : Settings) : Prop where
  url : ∃ t, d.given d.server "url" (.str (ofEnvironment e).url) = .str t
    ∧ e.expandFault? t = none ∧ e.address t = st.url
  apiKey : (d.given d.server "api_key" (ofEnvironment e).apiKey).expanded e = .ok st.apiKey
  timeout : (d.given d.server "timeout" (.num usualTimeout)).toReal = .ok st.timeout
  workers : ∃ n, (d.given d.tables "max_workers" (.int usualWorkers)).toWhole = .ok n
    ∧ max 1 n = st.workers
  level : ∃ s, (d.given d.content "log_level" (.str usualLevel)).written = .ok s
    ∧ capitals s = st.level

/-- **The settings of a document.**  What is looked into must be a mapping, if it is there. -/
theorem Settings.ofDocument_eq_ok_iff : ofDocument e d = .ok st
    ↔ ((∀ v ∈ d.content, d.IsMap v) ∧ (∀ v ∈ d.server, d.IsMap v) ∧ ∀ v ∈ d.tables, d.IsMap v)
      ∧ st.TakenFrom e d := by
  have hcontent : (if d.truthy d.root then some d.root else none) = d.content := rfl
  simp only [ofDocument, hcontent, bind_eq_ok, pure_eq_ok, shaped_eq_ok, numeric_eq_ok, naming_eq_ok,
    YamlDocument.setting_eq_ok_iff, and_assoc, exists_and_left, exists_eq_left']
  constructor
  · rintro ⟨hcontent, hserver, w, hw, url, hurl, -, key, hkey, -, timeout, htimeout, -, htables, n, hn,
      -, s, hs, rfl⟩
    refine ⟨hcontent, hserver, htables, ?_, hkey, htimeout, ⟨n, hn, rfl⟩, ⟨s, hs, rfl⟩⟩
    exact Yaml.address_eq_ok_iff.mp ⟨w, hw, hurl⟩
  · rintro ⟨hcontent, hserver, htables, hurl, hkey, htimeout, ⟨n, hn, hworkers⟩, s, hs, hlevel⟩
    obtain ⟨w, hw, hurl⟩ := Yaml.address_eq_ok_iff.mpr hurl
    refine ⟨hcontent, hserver, w, hw, _, hurl, hserver, _, hkey, hserver, _, htimeout, hcontent,
      htables, n, hn, hcontent, s, hs, ?_⟩
    rw [hworkers, hlevel]

end DashboardSurvey
