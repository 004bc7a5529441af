import DashboardSurvey.Proofs.Ascii
import DashboardSurvey.Proofs.Bringing
import DashboardSurvey.Proofs.History

/-!
# Answers come back as what was found

The answer to a call is a text, and the one who called reads it as JSON.  It is ASCII, whatever the
documents and messages hold.  It is read as the value that the tool brought, member for member, and
as the document of its failure if the tool failed.

* `text_of_ok`, `text_of_error` — the text of a call.
* **`answer_decoded`** — what it is read as.
-/

namespace DashboardSurvey

/-! ## Answers -/

lemma Json.faithful_errorDocument {message : String} (h : Whole message) :
    (errorDocument message).Faithful where
  distinct := by simp [errorDocument]
  numbers := by simp [errorDocument, Scalar.NoDouble]
  texts := by
    have hname : Whole "error" := by decide
    simpa [errorDocument, Scalar.TextWhole] using ⟨hname, h⟩

namespace Session

variable {w : Surroundings} {s : Session} {c : Call} {tool : Tool}

lemma text_of_ok (htool : Tool.ofName? c.name = some tool) {v : Json}
    (h : ((use w tool (c.arguments.orElse Json.emptyObject)).on s).1 = .ok v) :
    ((call w c).run s).1.text.toList = v.render indentedStyle 0 := by
  have hanswer := fst_answer htool w s
  rw [h] at hanswer
  exact (congrArg String.toList hanswer).trans String.toList_ofList

lemma text_of_error (htool : Tool.ofName? c.name = some tool) {f : Failure}
    (h : ((use w tool (c.arguments.orElse Json.emptyObject)).on s).1 = .error f) :
    ((call w c).run s).1.text.toList = (errorDocument f.message).render inlineStyle 0 := by
  have hanswer := fst_answer htool w s
  rw [h] at hanswer
  exact (congrArg String.toList hanswer).trans String.toList_ofList

end Session

/-- **Answers come back.**  In any session, the answer to a call of a tool is a text in ASCII.  If
the tool brings a value without doubles whose texts are all of characters, then the text is read as
that value, with all members in their order; only a number with too many digits to be read keeps it
from being read at all.  If the tool fails with a message of characters, the text is read as an
object with the message alone. -/
theorem answer_decoded {w : Surroundings} (harrange : ∀ as, (w.arrange as).Perm as) (s : Session)
    {c : Call} {tool : Tool} (htool : Tool.ofName? c.name = some tool) :
    let text := ((Session.call w c).run s).1.text.toList
    let outcome := ((Session.use w tool (c.arguments.orElse Json.emptyObject)).on s).1
    (∀ ch ∈ text, isAscii ch = true)
      ∧ (∀ v, outcome = .ok v → v.Each Scalar.NoDouble → v.Each Scalar.TextWhole →
        (v.Each Scalar.NumberShort → Json.decode text = .ok v)
          ∧ (¬ v.Each Scalar.NumberShort →
            ∃ f, Json.decode text = .error f ∧ f.isLongWhole = true))
      ∧ ∀ f, outcome = .error f → Whole f.message →
        Json.decode text = .ok (.object [("error", .str f.message)]) := by
  intro text outcome
  cases houtcome : outcome with
  | ok v =>
      -- a member named twice would be read as one, so this has to come from the tools
      have hv : v.Distinct := Session.brings_use harrange tool _ s v _ (Prod.ext houtcome rfl)
      have hrender : text = v.render indentedStyle 0 := Session.text_of_ok htool houtcome
      rw [hrender]
      refine ⟨ascii_render ofAscii_indentedStyle v 0, fun v' h hnumbers htexts => ?_,
        fun _ h => (by cases h)⟩
      obtain rfl := Except.ok.inj h
      exact decode_render spaced_indentedStyle ⟨hv, hnumbers, htexts⟩
  | error f =>
      have hrender : text = (errorDocument f.message).render inlineStyle 0 :=
        Session.text_of_error htool houtcome
      rw [hrender]
      refine ⟨ascii_render ofAscii_inlineStyle _ 0, fun _ h => (by cases h),
        fun f' h hmessage => ?_⟩
      obtain rfl := Except.error.inj h
      refine (decode_render spaced_inlineStyle (Json.faithful_errorDocument hmessage)).1 ?_
      simp [errorDocument, Scalar.NumberShort]

/-! ### A saved dashboard -/

/-- The report on the filters of a saved dashboard. -/
lemma Session.fst_use_of_file {w : Surroundings} {arguments file : Json} {d : Dashboard}
    {r : FilterReport} (hfile : arguments.NamesFile file) (hd : w.host.dashboard file = .ok d)
    (hr : d.filterReport = .ok r) (s : Session) :
    ((use w .filters arguments).on s).1 = .ok r.toJson := by
  have hrun := run_chosenDashboard_of_file hfile w s
  rw [hd] at hrun
  rw [use, on_bind_ok hrun]
  change (Step.on (filterReport d) s).1 = _
  rw [filterReport, hr]
  rfl

/-- A host with a file in which a text is saved. -/
def Host.holding (text : List Char) : Host :=
  ⟨⟨[(["d.json"], utf8Bytes (String.ofList text))], []⟩, ⟨[], []⟩, []⟩

/-- The dashboard in this file, if the text is ASCII. -/
lemma Host.dashboard_holding {cs : List Char} (hascii : Ascii cs) (hline : '\r' ∉ cs) {v : Json}
    (hdecode : Json.decode cs = .ok v) {d : Dashboard} (hd : Dashboard.ofJson v = .ok d) :
    (holding cs).dashboard (.str "d.json") = .ok d := by
  have hfind : (holding cs).find? (Path.ofText "d.json")
      = some (.file (utf8Bytes (String.ofList cs))) := rfl
  have hhome : (holding cs).expandHome (Path.ofText "d.json") = .ok (Path.ofText "d.json") := rfl
  rw [Host.dashboard, hhome]
  simp only [Except.mapError, ok_bind, hfind, text_of_ascii _ hascii hline, hdecode]
  rw [hd]
  rfl

/-- A letter beyond ASCII, the mark of the halves, three characters beyond the first plane, a
quotation mark and a line feed. -/
def unwieldyText : String := String.ofList
  (holdChars ['é', halfMark, '😀', Char.ofNat 0x10f000, Char.ofNat 0x10f400, '\x22', '\n'])

/-- A dashboard without cards, whose id is a number of twenty digits.  The id of its only parameter
is that text. -/
def Json.unwieldy : Json := .object [
  ("id", .int (-36893488147419103232)), ("parameters", .list [.object [("id", .str unwieldyText)]])]

/-- The report on its filters. -/
def Json.unwieldyReport : Json := .object [
  ("dashboard_id", .int (-36893488147419103232)), ("total_parameters", .int 1),
  ("parameter_ids", .list [.str unwieldyText]), ("total_cards", .int 0),
  ("cards_with_issues", .int 0), ("all_cards", Json.emptyList),
  ("cards_needing_attention", Json.emptyList)]

/-- A host with a file in which this dashboard is saved. -/
def Host.saving (v : Json) : Host := ⟨⟨[(["d.json"], v.indented.toUTF8.toList)], []⟩, ⟨[], []⟩, []⟩

lemma Json.faithful_unwieldy : unwieldy.Faithful where
  distinct := by simp [unwieldy]
  numbers := by simp [unwieldy, Scalar.NoDouble]
  texts := by
    have hnames : Whole "id" ∧ Whole "parameters" ∧ Whole unwieldyText := by decide
    simp [unwieldy, Scalar.TextWhole, hnames]

lemma Json.short_unwieldy : unwieldy.Each Scalar.NumberShort
    ∧ unwieldyReport.Each Scalar.NumberShort := by
  have hlong : Short (-36893488147419103232) := by
    unfold Short
    decide +kernel
  have hdigit : Short 1 ∧ Short 0 := ⟨by unfold Short; decide, by unfold Short; decide⟩
  exact ⟨by simp [unwieldy, Scalar.NumberShort, hlong],
    by simp [unwieldyReport, Scalar.NumberShort, hlong, hdigit]⟩

lemma Json.texts_unwieldyReport : unwieldyReport.Each Scalar.TextWhole := by
  have hnames : Whole "dashboard_id" ∧ Whole "total_parameters" ∧ Whole "parameter_ids"
      ∧ Whole "total_cards" ∧ Whole "cards_with_issues" ∧ Whole "all_cards"
      ∧ Whole "cards_needing_attention" ∧ Whole unwieldyText := by
    decide
  simp [unwieldyReport, Scalar.TextWhole, hnames]

lemma Host.dashboard_saving : ∃ d r, (saving Json.unwieldy).dashboard (.str "d.json") = .ok d
    ∧ d.filterReport = .ok r ∧ r.toJson = Json.unwieldyReport := by
  have hline : '\r' ∉ Json.unwieldy.render indentedStyle 0 := by
    decide +kernel
  have hdecode :=
    (decode_render spaced_indentedStyle Json.faithful_unwieldy).1 Json.short_unwieldy.1
  obtain ⟨d, hd, r, hr, hreport⟩ : ∃ d, Dashboard.ofJson Json.unwieldy = .ok d
      ∧ ∃ r, d.filterReport = .ok r ∧ r.toJson = Json.unwieldyReport := ⟨_, rfl, _, rfl, rfl⟩
  exact ⟨d, r, dashboard_holding (ascii_render ofAscii_indentedStyle _ 0) hline hdecode hd, hr,
    hreport⟩

lemma whole_noHome : Whole (Failure.file .noHome).message := by
  have hwhole : Whole "Could not determine home directory." := by decide
  exact hwhole

/-- A saved dashboard is audited; and there is no home directory in which to look for another. -/
theorem answer_decoded_sample :
    let w : Surroundings := ⟨.saving .unwieldy, .unreachable "no connection", id⟩
    let text (file : String) := ((Session.call w ⟨"dashlens_audit_filters",
      .object [("dashboard_file", .str file)]⟩).run .fresh).1.text.toList
    (∀ as, (w.arrange as).Perm as) ∧ Tool.ofName? "dashlens_audit_filters" = some .filters
      ∧ Json.decode (text "d.json") = .ok .unwieldyReport
      ∧ Json.decode (text "~/d.json")
        = .ok (.object [("error", .str "Could not determine home directory.")]) := by
  intro w text
  have harrange : ∀ as, (w.arrange as).Perm as := List.Perm.refl
  have hfile : ∀ file, file ≠ "" →
      (Json.object [("dashboard_file", .str file)]).NamesFile (.str file) := fun file hne =>
    ⟨rfl, by simpa [Json.truthy, Scalar.truthy] using hne⟩
  refine ⟨harrange, rfl, ?_, ?_⟩
  · obtain ⟨d, r, hd, hr, hreported⟩ := Host.dashboard_saving
    obtain ⟨-, hreport, -⟩ := answer_decoded harrange .fresh
      (c := ⟨"dashlens_audit_filters", .object [("dashboard_file", .str "d.json")]⟩) rfl
    have hbrought := Session.fst_use_of_file (w := w) (hfile "d.json" (by decide)) hd hr .fresh
    rw [hreported] at hbrought
    have hnumbers : Json.unwieldyReport.Each Scalar.NoDouble := by
      simp [Json.unwieldyReport, Scalar.NoDouble]
    exact (hreport _ hbrought hnumbers Json.texts_unwieldyReport).1 Json.short_unwieldy.2
  · obtain ⟨-, -, hfailed⟩ := answer_decoded harrange .fresh
      (c := ⟨"dashlens_audit_filters", .object [("dashboard_file", .str "~/d.json")]⟩) rfl
    have hbrought : ((Session.use w .filters (.object [("dashboard_file", .str "~/d.json")])).on
        .fresh).1 = .error (.file .noHome) := rfl
    exact hfailed (.file .noHome) hbrought whole_noHome

end DashboardSurvey
