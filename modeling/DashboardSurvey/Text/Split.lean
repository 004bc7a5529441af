/-!
# Cutting text at a character

* `splitChars` — the pieces between the places where a character stands.
* `joinChars` — pieces put together again.
* `joinChars_splitChars` — nothing is lost.
-/

namespace DashboardSurvey

/-- The pieces between the places where `sep` stands; there is always one more than such places. -/
def splitChars (sep : Char) : List Char → List (List Char)
  | [] => [[]]
  | c :: rest =>
    if c = sep then [] :: splitChars sep rest
    else
      match splitChars sep rest with
      | [] => [[c]]
      | piece :: pieces => (c :: piece) :: pieces

/-- The pieces with `sep` between them. -/
def joinChars (sep : Char) : List (List Char) → List Char
  | [] => []
  | [piece] => piece
  | piece :: pieces => piece ++ sep :: joinChars sep pieces

theorem splitChars_ne_nil (sep : Char) (cs : List Char) : splitChars sep cs ≠ [] := by
  cases cs with
  | nil => simp [splitChars]
  | cons c rest =>
    simp only [splitChars]
    split
    · simp
    · split <;> simp

/-- Cutting loses nothing but the character at which it cuts. -/
theorem joinChars_splitChars (sep : Char) (cs : List Char) :
    joinChars sep (splitChars sep cs) = cs := by
  induction cs with
  | nil => rfl
  | cons c rest ih =>
    cases h : splitChars sep rest with
    | nil => exact absurd h (splitChars_ne_nil sep rest)
    | cons piece pieces =>
      rw [h] at ih
      by_cases hc : c = sep
      · simp [splitChars, hc, h, joinChars, ih]
      · cases pieces with
        | nil =>
          simp only [joinChars] at ih
          simp [splitChars, hc, h, joinChars, ih]
        | cons p ps =>
          simp only [joinChars] at ih
          simp [splitChars, hc, h, joinChars, ih]

end DashboardSurvey
