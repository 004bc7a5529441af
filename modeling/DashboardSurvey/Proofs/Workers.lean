import DashboardSurvey.Catalog.Build
import DashboardSurvey.Proofs.Equality
import DashboardSurvey.Proofs.Steps

/-!
# Workers

Tables are fetched by workers, of whom no more are put to work than there are tables.  As tables are
only fetched if there are some, whether the workers can start is a matter of their allowed number
alone.

* `checkWorkers`, `startPool_succ` — the allowed number decides.
* `poolSize_int`, `startPool_int` — with a whole number that is above zero the workers can start, and
  there is at least one and no more of them than tables.
-/

namespace DashboardSurvey

/-- May tables be fetched by so many workers?  The number need not be whole, but above zero. -/
def checkWorkers (workers : Json) : Except Failure Unit :=
  match workers.number? with
  | none => .error (.shape (.unordered .int workers.kind))
  | some w => if w.atMostZero then .error .noWorkers else .ok ()

/-- What is above a number of tables is above zero. -/
lemma Number.atMostZero_of_lt {n : ℕ} {w : Number} (h : (Number.whole (n + 1)).lt w = true) :
    w.atMostZero = false := by
  cases w with
  | whole m =>
      simp only [lt, decide_eq_true_eq] at h
      simp only [atMostZero, lt, Bool.and_eq_false_imp, decide_eq_true_eq]
      omega
  | real x =>
      cases x with
      | finite x =>
          have hx : ((n + 1 : ℤ) : ℚ) < x.value := (Binary64.intLt_iff _ _).mp h
          have hone : ¬ x.value < ((1 : ℤ) : ℚ) := by
            push_cast at hx ⊢
            linarith [(Nat.cast_nonneg n : (0 : ℚ) ≤ n)]
          have hlt : (real (.finite x)).lt (.whole 1) = false := by
            rw [← Bool.not_eq_true]
            exact mt (Binary64.ltInt_iff x 1).mp hone
          rw [atMostZero, hlt, Bool.false_and]
      | infinite s => cases s <;> simp_all [atMostZero, lt, Binary64.intLt, Binary64.ltInt]
      | undefined => simp_all [lt, Binary64.intLt]

lemma Number.atMostZero_whole_succ (n : ℕ) : (whole (n + 1 : ℕ)).atMostZero = false := by
  simp only [atMostZero, lt, Bool.and_eq_false_imp, decide_eq_true_eq]
  omega

/-- **Whether the workers can start** does not hang on the number of tables. -/
lemma startPool_succ (workers : Json) (n : ℕ) : startPool workers (n + 1) = checkWorkers workers := by
  rw [startPool, poolSize, checkWorkers]
  cases workers.number? with
  | none => rfl
  | some w =>
      change (if (if (Number.whole (n + 1 : ℕ)).lt w then Number.whole (n + 1 : ℕ) else w).atMostZero
        then Except.error Failure.noWorkers else .ok ())
        = if w.atMostZero then Except.error Failure.noWorkers else .ok ()
      by_cases h : (Number.whole (n + 1 : ℕ)).lt w = true
      · rw [if_pos h, Number.atMostZero_whole_succ, Number.atMostZero_of_lt h]
      · rw [if_neg h]

/-- A whole number of workers will do if it is above zero. -/
lemma checkWorkers_int {w : ℤ} (hw : 1 ≤ w) : checkWorkers (.int w) = .ok () := by
  have hpos : ¬ w < 1 := not_lt.mpr hw
  simp [checkWorkers, Json.number?, Scalar.number?, Number.atMostZero, Number.lt, hpos]

lemma poolSize_int (w : ℤ) (n : ℕ) : poolSize (.int w) n = .ok (.whole (min w n)) := by
  simp only [poolSize, Json.number?, Scalar.number?, Number.lt, decide_eq_true_eq]
  split_ifs with h
  · rw [min_eq_right h.le]
  · rw [min_eq_left (not_lt.mp h)]

end DashboardSurvey
