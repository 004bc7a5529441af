import DashboardSurvey.Proofs.Answers
import DashboardSurvey.Proofs.StandardReading
import DashboardSurvey.Proofs.StandardWriting

/-!
# When answers are standard

A standard text may hold a numeral beyond the doubles.  It is read as an infinity, and this comes back
by its name, which the standard does not know.  Nothing else spoils an answer: the one that is not a
number comes from no standard text, and numerals in range are read as finite doubles.

* `Session.brings_standard` — what a tool brings when it reads standard texts.
* **`answer_standard`** — when the answer to a call is standard.
* **`answer_standard_overflow`** — a saved dashboard that is standard, and whose answer is not.
-/

namespace DashboardSurvey

/-! ## What tools bring -/

/-- A property of scalars that only doubles can fail is inherited by values from their parts. -/
lemma Json.inherited_each {P : Scalar → Prop} (hP : ∀ s : Scalar, s.NoDouble → P s) :
    Inherited fun v => v.Distinct ∧ v.Each P where
  null := ⟨.scalar _, .scalar (hP _ trivial)⟩
  bool _ := ⟨.scalar _, .scalar (hP _ trivial)⟩
  int _ := ⟨.scalar _, .scalar (hP _ trivial)⟩
  str _ := ⟨.scalar _, .scalar (hP _ trivial)⟩
  list_iff := by
    intro items
    rw [distinct_list_iff, each_list_iff, ← forall₂_and]
  object_iff := by
    intro members
    have hnames : ∀ s : String, P (.str s) := fun _ => hP _ trivial
    simp only [distinct_object_iff, each_object_iff, hnames, true_and, and_assoc, forall₂_and]

namespace Session

variable {w : Surroundings} {tool : Tool} {arguments : Json}

/-- **What a tool brings** from standard texts has what the condition on their numerals yields. -/
lemma brings_standard {N : Standard.Numeral → Prop} {P : Scalar → Prop}
    (hyields : Standard.Yields N P) (hw : w.Texts tool arguments (Standard.Document N))
    (harrange : ∀ as, (w.arrange as).Perm as) : (use w tool arguments).Brings (Json.Each P) := by
  have hbrings := brings_each (T := Standard.Document N) (Json.inherited_each hyields.plain)
    (fun _ _ h hread => ⟨distinct_of_decode hread, h.each_of_decode hyields hread⟩)
    (fun _ => Standard.Document.unifyNewlines) hw harrange
  exact fun s v s' hrun => (hbrings s v s' hrun).2

end Session

/-! ## Answers -/

lemma standard_errorDocument (message : String) :
    Standard ((errorDocument message).render inlineStyle 0) := by
  refine (Standard.render_iff spaced_inlineStyle _).mpr ?_
  simp [errorDocument, Scalar.IsFinite]

/-- **When answers are standard.**  In any session, the answer to a call of a tool that fails is a
standard text.  The answer to one that brings a value is standard exactly if all doubles in the value
are finite, and else it names one that is not outside its strings.  If all texts that the call may
read are standard, then every double in the value is a number; if moreover their numerals are in
range, then the answer is standard. -/
theorem answer_standard {w : Surroundings} (harrange : ∀ as, (w.arrange as).Perm as) (s : Session)
    {c : Call} {tool : Tool} (htool : Tool.ofName? c.name = some tool) :
    let arguments := c.arguments.orElse Json.emptyObject
    let text := ((Session.call w c).run s).1.text.toList
    let outcome := ((Session.use w tool arguments).on s).1
    (∀ f, outcome = .error f → Standard text)
      ∧ (∀ v, outcome = .ok v → (Standard text ↔ v.Each Scalar.IsFinite)
        ∧ ((∀ ch ∈ bare false text, ch ∉ nameStarts) ↔ v.Each Scalar.IsFinite))
      ∧ (w.Texts tool arguments Standard → ∀ v, outcome = .ok v → v.Each Scalar.IsDefined)
      ∧ (w.Texts tool arguments (Standard.Document Standard.Numeral.InRange) →
        Standard text ∧ ∀ ch ∈ bare false text, ch ∉ nameStarts) := by
  intro arguments text outcome
  have hfailed : ∀ f, outcome = .error f → Standard text := by
    intro f hf
    have hrender : text = (errorDocument f.message).render inlineStyle 0 :=
      Session.text_of_error htool hf
    exact hrender ▸ standard_errorDocument f.message
  have hbrought : ∀ v, outcome = .ok v → (Standard text ↔ v.Each Scalar.IsFinite)
      ∧ ((∀ ch ∈ bare false text, ch ∉ nameStarts) ↔ v.Each Scalar.IsFinite) := by
    intro v hv
    have hrender : text = v.render indentedStyle 0 := Session.text_of_ok htool hv
    rw [hrender]
    exact ⟨Standard.render_iff spaced_indentedStyle v, bare_render_iff spaced_indentedStyle v⟩
  refine ⟨hfailed, hbrought, fun htexts v hv => ?_, fun htexts => ?_⟩
  · exact Session.brings_standard Standard.yields_isDefined htexts harrange s v _ (Prod.ext hv rfl)
  · have hstandard : Standard text := by
      cases houtcome : outcome with
      | error f => exact hfailed f houtcome
      | ok v =>
          have hbrings := Session.brings_standard Standard.yields_isFinite htexts harrange
          exact (hbrought v houtcome).1.mpr (hbrings s v _ (Prod.ext houtcome rfl))
    exact ⟨hstandard, hstandard.bare⟩

/-! ### A dashboard with a number for its id -/

namespace Standard.Numeral

/-- A power of ten. -/
def powerOfTen (k : ℕ) : Numeral :=
  ⟨false, ['1'], [],
    some ⟨'e', [], Nat.toDigits 10 k, .inl rfl, .inl rfl, toDigits_ne_nil k,
      fun _ => isDigit_toDigits⟩,
    List.cons_ne_nil _ _, List.forall_mem_singleton.mpr rfl, fun h => absurd h (by decide),
    List.forall_mem_nil _⟩

/-- The double as which the numeral is read, if it is not whole. -/
def double (n : Numeral) : Binary64 := Binary64.ofDecimal n.negative n.decimal

/-- A dashboard, as a text, of which only the id is told. -/
def dashboard (n : Numeral) : List Char :=
  '\x7b' :: (jsonString "id" ++ ':' :: ' ' :: (n.chars ++ ['\x7d']))

variable {n : Numeral}

lemma document_dashboard {N : Numeral → Prop} (hn : N n) : Document N n.dashboard := by
  obtain ⟨cs, hcs, hquote⟩ := exists_quote_jsonString "id" (':' :: ' ' :: (n.chars ++ ['\x7d']))
  rw [dashboard, hcs]
  have hmember := Phrase.lastMember hquote .none (.blank rfl .none) (.number n hn) .none
  exact ⟨_, _, .none, .object .none hmember, .none⟩

/-- The text is ASCII, on one line. -/
lemma ascii_dashboard (n : Numeral) : Ascii n.dashboard ∧ '\r' ∉ n.dashboard := by
  have hchars : Ascii n.chars := by
    intro c hc
    rcases mem_chars hc with hdigit | hmark
    · exact isAscii_of_isDigit hdigit
    · exact List.all_eq_true.mp (by decide) c hmark
  have hline : '\r' ∉ n.chars := fun h => absurd (mem_chars h) (by decide)
  have hname : '\r' ∉ jsonString "id" := by decide
  exact ⟨by simp [dashboard, hchars, ascii_jsonString, isAscii],
    by simp [dashboard, hline, hname]⟩

lemma decode_dashboard (hn : ¬ n.IsWhole) :
    Json.decode n.dashboard = .ok (.object [("id", .num n.double)]) := by
  have hnumber : ∀ fuel, readValue (fuel + 1) (skipSpace (n.chars ++ ['\x7d']))
      = .ok (.num n.double, ['\x7d']) := by
    intro fuel
    have hphrase : Phrase (fun _ => True) .value (n.chars ++ ['\x7d']) ['\x7d'] :=
      .number n trivial
    rw [skipSpace_of_token hphrase.startsToken, readValue_chars,
      readNumber_chars n (.mark (by simp)), if_neg hn]
    rfl
  have hwhole : Whole "id" := by decide
  obtain ⟨body, hbody, hstring⟩ :=
    readString_escapeJson hwhole (':' :: ' ' :: (n.chars ++ ['\x7d']))
  have hmembers : ∀ fuel,
      readMembers (fuel + 2) (jsonString "id" ++ ':' :: ' ' :: (n.chars ++ ['\x7d']))
        = .ok ([("id", .num n.double)], []) := by
    intro fuel
    have hblank : ∀ cs, skipSpace (' ' :: cs) = skipSpace cs := fun _ => rfl
    rw [hbody, readMembers_member (fuel + 1) hstring rfl, hblank, hnumber]
    rfl
  obtain ⟨fuel, hfuel⟩ : ∃ fuel, 2 * n.dashboard.length + 2 = fuel + 2 + 1 :=
    ⟨2 * n.dashboard.length - 1, by simp [dashboard]; omega⟩
  have hskip : skipSpace n.dashboard = n.dashboard := rfl
  have htext : readText n.dashboard = readText.readWholeText n.dashboard := rfl
  rw [Json.decode, htext, readText.readWholeText, hfuel, hskip, dashboard,
    readValue_members (skipSpace_of_token (startsToken_jsonString _ _)), hmembers]
  rfl

end Standard.Numeral

/-- The report on the filters of a dashboard with this id alone. -/
def Json.idReport (x : Binary64) : Json := .object [
  ("dashboard_id", .num x), ("total_parameters", .int 0), ("parameter_ids", Json.emptyList),
  ("total_cards", .int 0), ("cards_with_issues", .int 0), ("all_cards", Json.emptyList),
  ("cards_needing_attention", Json.emptyList)]

lemma Json.each_idReport {x : Binary64} :
    (idReport x).Each Scalar.IsFinite ↔ x.isFinite = true := by
  simp [idReport, Json.emptyList, Scalar.IsFinite]

/-- The arguments of a call that name this file. -/
def Json.savedArguments : Json := .object [("dashboard_file", .str "d.json")]

/-- A host with a saved dashboard of which only the id is told, and no server. -/
def Surroundings.holding (n : Standard.Numeral) : Surroundings :=
  ⟨.holding n.dashboard, .unreachable "no connection", id⟩

section Holding

variable {n : Standard.Numeral}

lemma Surroundings.texts_holding {T : List Char → Prop} (hT : T n.dashboard) :
    (holding n).Texts .filters Json.savedArguments T where
  saved file p bytes cs hfile hp hnode hcs := by
    obtain rfl := Scalar.str.inj (Json.scalar.inj (Except.ok.inj hfile.1))
    obtain rfl : Path.ofText "d.json" = p := Except.ok.inj hp
    obtain rfl := FileNode.file.inj (Option.some.inj hnode)
    exact Except.ok.inj ((decodeUtf8_of_ascii n.ascii_dashboard.1).symm.trans hcs) ▸ hT
  tables := nofun
  dashboards hnone := absurd ⟨rfl, rfl⟩ (hnone (.str "d.json"))

lemma Session.use_holding (hwhole : ¬ n.IsWhole) (s : Session) :
    ((use (.holding n) .filters Json.savedArguments).on s).1 = .ok (Json.idReport n.double) := by
  obtain ⟨hascii, hline⟩ := n.ascii_dashboard
  obtain ⟨d, hd, r, hr, hreport⟩ : ∃ d, Dashboard.ofJson (.object [("id", .num n.double)]) = .ok d
      ∧ ∃ r, d.filterReport = .ok r ∧ r.toJson = Json.idReport n.double := ⟨_, rfl, _, rfl, rfl⟩
  have hdashboard : (Host.holding n.dashboard).dashboard (.str "d.json") = .ok d :=
    Host.dashboard_holding hascii hline (Standard.Numeral.decode_dashboard hwhole) hd
  exact hreport ▸ fst_use_of_file ⟨rfl, rfl⟩ hdashboard hr s

lemma Session.text_holding (hwhole : ¬ n.IsWhole) (s : Session) :
    ((call (.holding n) ⟨"dashlens_audit_filters", Json.savedArguments⟩).run s).1.text.toList
      = (Json.idReport n.double).render indentedStyle 0 :=
  text_of_ok (c := ⟨"dashlens_audit_filters", Json.savedArguments⟩) rfl (use_holding hwhole s)

end Holding

/-- The greatest power of ten that is a double is brought back by a call, and so the answer is
standard. -/
theorem answer_standard_greatest :
    let n := Standard.Numeral.powerOfTen 308
    let w : Surroundings := .holding n
    let c : Call := ⟨"dashlens_audit_filters", Json.savedArguments⟩
    let arguments := c.arguments.orElse Json.emptyObject
    (∀ as, (w.arrange as).Perm as) ∧ Tool.ofName? c.name = some .filters
      ∧ w.Texts .filters arguments (Standard.Document Standard.Numeral.InRange)
      ∧ ((Session.use w .filters arguments).on .fresh).1 = .ok (Json.idReport n.double)
      ∧ (Json.idReport n.double).Each Scalar.IsFinite
      ∧ Standard ((Session.call w c).run .fresh).1.text.toList := by
  intro n w c arguments
  have harrange : ∀ as, (w.arrange as).Perm as := List.Perm.refl
  have hrange : n.InRange := by decide +kernel
  have htexts : w.Texts .filters arguments (Standard.Document Standard.Numeral.InRange) :=
    Surroundings.texts_holding (Standard.Numeral.document_dashboard hrange)
  have hbrought := Session.use_holding (n := n) (by decide) .fresh
  obtain ⟨-, hstandard, -, hanswer⟩ := answer_standard harrange .fresh (c := c) rfl
  have htext := (hanswer htexts).1
  exact ⟨harrange, rfl, htexts, hbrought, (hstandard _ hbrought).1.mp htext, htext⟩

/-- The next power of ten is none: it comes back as an infinity, though the dashboard is standard, and
the answer is not. -/
theorem answer_standard_overflow :
    let n := Standard.Numeral.powerOfTen 309
    let w : Surroundings := .holding n
    let c : Call := ⟨"dashlens_audit_filters", Json.savedArguments⟩
    let text := ((Session.call w c).run .fresh).1.text.toList
    n.dashboard = "\x7b\x22id\x22: 1e309\x7d".toList
      ∧ w.Texts .filters (c.arguments.orElse Json.emptyObject) Standard
      ∧ ¬ Standard text ∧ ∃ ch ∈ bare false text, ch ∈ nameStarts := by
  intro n w c text
  have htexts : w.Texts .filters (c.arguments.orElse Json.emptyObject) Standard :=
    Surroundings.texts_holding (Standard.Numeral.document_dashboard trivial)
  have hrender : text = (Json.idReport n.double).render indentedStyle 0 :=
    Session.text_holding (by decide) .fresh
  have hinfinite : ¬ (Json.idReport n.double).Each Scalar.IsFinite := by
    rw [Json.each_idReport, Standard.Numeral.double, Binary64.isFinite_ofDecimal]
    decide +kernel
  refine ⟨by decide +kernel, htexts, ?_, ?_⟩
  · rw [hrender, Standard.render_iff spaced_indentedStyle]
    exact hinfinite
  · rw [hrender]
    have hbare := mt (bare_render_iff spaced_indentedStyle _).mp hinfinite
    simpa only [not_forall, not_not, exists_prop] using hbare

end DashboardSurvey
