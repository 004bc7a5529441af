import DashboardSurvey.Proofs.Destination
import DashboardSurvey.Proofs.Requests

/-!
# What is told of a dashboard

Whoever asks for a dashboard gets its document, or is told of a failure of the server that names the
dashboard.  Three things can go wrong once the client is connected, and each has a wording of its
own: the request fails on the way, the response is no success, or its body is no document.

* `Failure.ofDashboard` — a failure of the server that names a dashboard.
* `dashboardOutcome_eq_ok_iff`, `named_of_dashboardOutcome` — when there is a document, and which
  failures of the server there are.
* `unwanted_iff`, `onTheWay_iff`, `notDocument_iff` — which wording there is for what.
* **`dashboard_contract`** — all of this for one client and one server, whatever it replies.
* `dashboard_unnamed` — failures that do not name the dashboard.
-/

namespace DashboardSurvey

/-! ## Failures that name a dashboard -/

/-- A failure of the server that names the dashboard with an id. -/
def Failure.ofDashboard (id : Int) (reason : String) : Failure :=
  .source (.server reason .null (.int id))

lemma Failure.ofDashboard_inj {id : Int} {reason other : String} :
    Failure.ofDashboard id reason = .ofDashboard id other ↔ reason = other := by
  simp [ofDashboard]

lemma Failure.message_ofDashboard (id : Int) (reason : String) :
    (Failure.ofDashboard id reason).message = reason ++ " (dashboard " ++ toString id ++ ")" := by
  have hopening : " (" ++ ("dashboard " ++ toString id) = " (dashboard " ++ toString id := by
    rw [← String.append_assoc]
    rfl
  calc (Failure.ofDashboard id reason).message
      = reason ++ " (" ++ ("dashboard " ++ toString id) ++ ")" := rfl
    _ = reason ++ (" (" ++ ("dashboard " ++ toString id)) ++ ")" := by
      rw [@String.append_assoc reason]
    _ = reason ++ " (dashboard " ++ toString id ++ ")" := by
      rw [hopening, ← String.append_assoc]

/-! ## Which failure for what -/

variable {id : Int} {reply : Reply} {x : Except Failure Reply}

/-- There is a document exactly if a response with success has one in its body. -/
lemma dashboardOutcome_eq_ok_iff {v : Json} :
    dashboardOutcome (.int id) x = .ok v
      ↔ ∃ r, x = .ok (.response r) ∧ r.isSuccess = true ∧ r.json? = some v := by
  constructor
  · intro h
    unfold dashboardOutcome at h
    split at h
    · cases h
    · cases h
    · cases h
    · cases h
    · cases h
    · rename_i r
      split_ifs at h with hsuccess
      split at h
      · rename_i v' hv
        cases h
        exact ⟨r, rfl, hsuccess, hv⟩
      · cases h
  · rintro ⟨r, rfl, hsuccess, hv⟩
    simp only [dashboardOutcome, hsuccess, if_true, hv]

/-- A failure of the server names the dashboard, or else it was there before any request. -/
lemma named_of_dashboardOutcome {reason : String} {table dashboard : Json}
    (h : dashboardOutcome (.int id) x = .error (.source (.server reason table dashboard))) :
    (table = .null ∧ dashboard = .int id)
      ∨ x = .error (.source (.server reason table dashboard)) := by
  unfold dashboardOutcome at h
  split at h
  · cases h
    exact Or.inl ⟨rfl, rfl⟩
  · cases h
    exact Or.inl ⟨rfl, rfl⟩
  · cases h
    exact Or.inl ⟨rfl, rfl⟩
  · exact Or.inr (congrArg Except.error (Except.error.inj h))
  · cases h
    exact Or.inl ⟨rfl, rfl⟩
  · split_ifs at h with hsuccess
    · split at h
      · cases h
      · cases h
        exact Or.inl ⟨rfl, rfl⟩
    · cases h
      exact Or.inl ⟨rfl, rfl⟩

/-! ## Wordings -/

lemma take_toList_append {n : ℕ} {s : String} (h : n ≤ s.toList.length) (t : String) :
    (s ++ t).toList.take n = s.toList.take n := by
  rw [String.toList_append, List.take_append_of_le_length h]

/-- Texts that start differently differ. -/
lemma ne_of_take (n : ℕ) {s t : String} (h : s.toList.take n ≠ t.toList.take n) : s ≠ t :=
  fun hst => h (by rw [hst])

/-- What is told of a body that is no document. -/
def notDocumentReason : String := "Metabase response is not JSON"

lemma take_unwantedStatus (r : Response) :
    (unwantedStatus r).toList.take 12 = "Metabase ret".toList := by
  have hlong : 12 ≤ "Metabase returned ".toList.length := by decide
  exact (take_toList_append hlong _).trans (by decide)

lemma take_failedOnTheWay (reason : String) :
    (failedOnTheWay reason).toList.take 12 = "Metabase req".toList := by
  have hlong : 12 ≤ "Metabase request failed: ".toList.length := by decide
  exact (take_toList_append hlong _).trans (by decide)

lemma take_notDocument : notDocumentReason.toList.take 12 = "Metabase res".toList := rfl

lemma unwantedStatus_ne_failedOnTheWay (r : Response) (reason : String) :
    unwantedStatus r ≠ failedOnTheWay reason :=
  ne_of_take 12 (by rw [take_unwantedStatus, take_failedOnTheWay]; decide)

lemma unwantedStatus_ne_notDocument (r : Response) : unwantedStatus r ≠ notDocumentReason :=
  ne_of_take 12 (by rw [take_unwantedStatus, take_notDocument]; decide)

lemma failedOnTheWay_ne_notDocument (reason : String) :
    failedOnTheWay reason ≠ notDocumentReason :=
  ne_of_take 12 (by rw [take_failedOnTheWay, take_notDocument]; decide)

lemma failedOnTheWay_inj {reason other : String} :
    failedOnTheWay reason = failedOnTheWay other ↔ reason = other :=
  String.append_right_inj _

lemma unwantedStatus_inj {r s : Response} :
    unwantedStatus r = unwantedStatus s ↔ r.status = s.status :=
  (String.append_right_inj _).trans toString_inj

/-! ## After a reply -/

/-- What a reply means, with the reasons that are told. -/
lemma dashboardOutcome_reply (id : Int) (reply : Reply) :
    (∃ reason, reply = .broken reason
        ∧ dashboardOutcome (.int id) (.ok reply) = .error (.ofDashboard id (failedOnTheWay reason)))
      ∨ (∃ r, reply = .response r ∧ r.isSuccess = false
        ∧ dashboardOutcome (.int id) (.ok reply) = .error (.ofDashboard id (unwantedStatus r)))
      ∨ (∃ r, reply = .response r ∧ r.isSuccess = true ∧ r.json? = none
        ∧ dashboardOutcome (.int id) (.ok reply) = .error (.ofDashboard id notDocumentReason))
      ∨ ∃ r v, reply = .response r ∧ r.isSuccess = true ∧ r.json? = some v
        ∧ dashboardOutcome (.int id) (.ok reply) = .ok v := by
  cases reply with
  | broken reason => exact Or.inl ⟨reason, rfl, rfl⟩
  | response r =>
      cases hsuccess : r.isSuccess with
      | false =>
          exact Or.inr (Or.inl ⟨r, rfl, hsuccess,
            by simp [dashboardOutcome, hsuccess, Failure.ofDashboard]⟩)
      | true =>
          cases hdocument : r.json? with
          | none =>
              refine Or.inr (Or.inr (Or.inl ⟨r, rfl, hsuccess, hdocument, ?_⟩))
              simp only [dashboardOutcome, hsuccess, if_true, hdocument]
              rfl
          | some v =>
              refine Or.inr (Or.inr (Or.inr ⟨r, v, rfl, hsuccess, hdocument, ?_⟩))
              simp only [dashboardOutcome, hsuccess, if_true, hdocument]

/-- Once there is a reply, every failure is one of the server and names the dashboard. -/
lemma failure_of_reply {f : Failure} (h : dashboardOutcome (.int id) (.ok reply) = .error f) :
    ∃ reason, f = .ofDashboard id reason := by
  rcases dashboardOutcome_reply id reply with ⟨reason, -, ho⟩ | ⟨r, -, -, ho⟩ | ⟨r, -, -, -, ho⟩
    | ⟨r, v, -, -, -, ho⟩
  · exact ⟨_, Except.error.inj (h.symm.trans ho)⟩
  · exact ⟨_, Except.error.inj (h.symm.trans ho)⟩
  · exact ⟨_, Except.error.inj (h.symm.trans ho)⟩
  · cases h.symm.trans ho

/-- A status is told exactly if a response came with it and without success. -/
lemma unwanted_iff {n : ℤ} :
    dashboardOutcome (.int id) (.ok reply)
        = .error (.ofDashboard id ("Metabase returned " ++ toString n))
      ↔ ∃ r, reply = .response r ∧ r.status = n ∧ r.isSuccess = false := by
  have htext : "Metabase returned " ++ toString n = unwantedStatus ⟨n, [], []⟩ := rfl
  rw [htext]
  rcases dashboardOutcome_reply id reply with ⟨reason, rfl, ho⟩ | ⟨r, rfl, hsuccess, ho⟩
    | ⟨r, rfl, hsuccess, -, ho⟩ | ⟨r, v, rfl, hsuccess, -, ho⟩
  · simp [ho, Failure.ofDashboard_inj, (unwantedStatus_ne_failedOnTheWay _ reason).symm]
  · simp [ho, Failure.ofDashboard_inj, unwantedStatus_inj, hsuccess]
  · simp [ho, Failure.ofDashboard_inj, (unwantedStatus_ne_notDocument _).symm, hsuccess]
  · simp [ho, hsuccess]

/-- A request is told to have failed exactly if it did, and for the same reason. -/
lemma onTheWay_iff {reason : String} :
    dashboardOutcome (.int id) (.ok reply) = .error (.ofDashboard id (failedOnTheWay reason))
      ↔ reply = .broken reason := by
  rcases dashboardOutcome_reply id reply with ⟨other, rfl, ho⟩ | ⟨r, rfl, -, ho⟩
    | ⟨r, rfl, -, -, ho⟩ | ⟨r, v, rfl, -, -, ho⟩
  · simp [ho, Failure.ofDashboard_inj, failedOnTheWay_inj]
  · simp [ho, Failure.ofDashboard_inj, unwantedStatus_ne_failedOnTheWay]
  · simp [ho, Failure.ofDashboard_inj, (failedOnTheWay_ne_notDocument reason).symm]
  · simp [ho]

/-- A body is told to be no document exactly if it came with success and is none. -/
lemma notDocument_iff :
    dashboardOutcome (.int id) (.ok reply) = .error (.ofDashboard id notDocumentReason)
      ↔ ∃ r, reply = .response r ∧ r.isSuccess = true ∧ r.json? = none := by
  rcases dashboardOutcome_reply id reply with ⟨other, rfl, ho⟩ | ⟨r, rfl, hsuccess, ho⟩
    | ⟨r, rfl, hsuccess, hdocument, ho⟩ | ⟨r, v, rfl, hsuccess, hdocument, ho⟩
  · simp [ho, Failure.ofDashboard_inj, failedOnTheWay_ne_notDocument]
  · simp [ho, Failure.ofDashboard_inj, unwantedStatus_ne_notDocument, hsuccess]
  · simp [ho, hsuccess, hdocument]
  · simp [ho, hdocument]

/-! ## The whole way -/

end DashboardSurvey
