import DashboardSurvey.Text.Quoted

/-!
# Text that must be ASCII

* `AsciiFault` — the first characters of a text that are not ASCII.
* `asciiFault?` — where a text is not ASCII, if it is not.
-/

namespace DashboardSurvey

/-- A run of `count` code points from `position` on that are not ASCII; `first` is the first. -/
structure AsciiFault where
  first : Nat
  position : Nat
  count : Nat
deriving DecidableEq, Repr

/-- Is the character ASCII? -/
def isAscii (c : Char) : Bool := c.toNat < 128

/-- The first run of characters that are not ASCII, if there is one. -/
def asciiFault? (cs : List Char) : Option AsciiFault :=
  match cs.dropWhile isAscii with
  | [] => none
  | c :: rest =>
    let run := codes ((c :: rest).takeWhile fun d => !isAscii d)
    some ⟨run.headD 0, (cs.takeWhile isAscii).length, run.length⟩

/-- The wording of a fault: one character is told, of several the first and the last position. -/
def AsciiFault.message (f : AsciiFault) : String :=
  let place :=
    if f.count = 1 then
      "character '" ++ String.ofList (escapeByCode f.first) ++ "' in position "
        ++ toString f.position
    else
      "characters in position " ++ toString f.position ++ "-" ++ toString (f.position + f.count - 1)
  "'ascii' codec can't encode " ++ place ++ ": ordinal not in range(128)"

/-- A text has no fault exactly if all of it is ASCII. -/
theorem asciiFault?_eq_none_iff {cs : List Char} :
    asciiFault? cs = none ↔ ∀ c ∈ cs, isAscii c = true := by
  induction cs with
  | nil => simp [asciiFault?]
  | cons c rest ih =>
    by_cases hc : isAscii c = true
    · simp only [asciiFault?, List.dropWhile_cons, hc, if_true, List.forall_mem_cons, true_and]
      rw [← ih]
      unfold asciiFault?
      split <;> simp [*]
    · simp [asciiFault?, hc]

end DashboardSurvey
