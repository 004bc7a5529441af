/-!
# Blank characters

The characters that may stand around a number in settings: the controls that move the cursor, and
every space and line separator.

* `isBlank` — is the character blank?
* `trimBlank` — the characters without the blank ones at both ends.
-/

namespace DashboardSurvey

/-- Is the character blank? -/
def isBlank (c : Char) : Bool :=
  let n := c.toNat
  (9 ≤ n && n ≤ 13) || n == 32 || n == 0x85 || n == 0xa0 || n == 0x1680
    || (0x2000 ≤ n && n ≤ 0x200a) || n == 0x2028 || n == 0x2029 || n == 0x202f || n == 0x205f
    || n == 0x3000

/-- The characters without those at the end that satisfy `p`. -/
def dropEnd (p : Char → Bool) (cs : List Char) : List Char :=
  (cs.reverse.dropWhile p).reverse

/-- The characters without the blank ones at both ends. -/
def trimBlank (cs : List Char) : List Char :=
  dropEnd isBlank (cs.dropWhile isBlank)

end DashboardSurvey
