/-!
# Code points in texts

A text is made of code points, and not all of them are characters: an escape in a document may write
half of a surrogate pair without the other half, and such a half is escaped again when the text is
written.  A text is held in characters all the same.  A code point that is a character stands for
itself; a half is held as two characters, of which the first is a mark and the second tells the
half.  Since the mark is a character too, it is held in the same way when it is meant itself.  So no
two texts are held alike, and since the mark is the last character before the halves, texts are in
the order of their code points.

* `isHalf`, `halfMark`, `isMarked` — the halves, the mark, and the code points that are held after
  it.
* `charsOfCode`, `codes` — the characters that hold a code point, and the code points that
  characters hold.
* `holdChars`, `heldChars` — the same for texts of characters only.
-/

namespace DashboardSurvey

/-- Is the code point half of a surrogate pair? -/
def isHalf (n : Nat) : Bool := 0xd800 ≤ n && n < 0xe000

/-- The character that comes before one that tells a half. -/
def halfMark : Char := Char.ofNat 0xd7ff

/-- Is the code point held after a mark?  These are the halves and the mark itself. -/
def isMarked (n : Nat) : Bool := 0xd7ff ≤ n && n < 0xe000

/-- The characters that hold a code point. -/
def charsOfCode (n : Nat) : List Char :=
  if isMarked n then [halfMark, Char.ofNat (n + 0x801)] else [Char.ofNat n]

/-- Do the characters start with a mark and one that tells what is marked? -/
def startsMarked (c d : Char) : Bool := c == halfMark && 0xe000 ≤ d.toNat && d.toNat ≤ 0xe800

/-- The code points that characters hold. -/
def codes : List Char → List Nat
  | [] => []
  | [c] => [c.toNat]
  | c :: d :: rest =>
    if startsMarked c d then (d.toNat - 0x801) :: codes rest else c.toNat :: codes (d :: rest)

/-- A text of characters, as it is held. -/
def holdChars (cs : List Char) : List Char := cs.flatMap fun c => charsOfCode c.toNat

/-- The characters of a text without halves. -/
def heldChars (cs : List Char) : List Char := (codes cs).map Char.ofNat

theorem codes_eq_nil_iff {cs : List Char} : codes cs = [] ↔ cs = [] := by
  cases cs with
  | nil => simp [codes]
  | cons c rest =>
    cases rest with
    | nil => simp [codes]
    | cons d rest =>
      rw [codes]
      split <;> simp

/-- A character other than the mark stands for itself. -/
theorem codes_cons_of_ne {c : Char} (h : c ≠ halfMark) (cs : List Char) :
    codes (c :: cs) = c.toNat :: codes cs := by
  cases cs with
  | nil => rfl
  | cons d rest => simp [codes, startsMarked, h]

/-- Without a mark, every character stands for itself. -/
theorem codes_of_all {cs : List Char} (h : ∀ c ∈ cs, c ≠ halfMark) :
    codes cs = cs.map Char.toNat := by
  induction cs with
  | nil => rfl
  | cons c rest ih =>
    rw [codes_cons_of_ne (h c (by simp)), ih fun d hd => h d (List.mem_cons_of_mem c hd)]
    rfl

theorem heldChars_of_all {cs : List Char} (h : ∀ c ∈ cs, c ≠ halfMark) : heldChars cs = cs := by
  rw [heldChars, codes_of_all h, List.map_map]
  exact (List.map_congr_left fun c _ => Char.ofNat_toNat c).trans cs.map_id

end DashboardSurvey
