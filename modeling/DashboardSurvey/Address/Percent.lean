import DashboardSurvey.Number.Reading
import DashboardSurvey.Text.Utf8

/-!
# Percent signs in addresses

A character that may not stand in a part of an address is written by its bytes in UTF-8, each as a
percent sign and two hexadecimal digits.

* `percentEncode` — the characters with those that may not stand written by their bytes.
* `percentDecode` — the bytes of such characters.
* `percentEncode_of_all` — characters that may all stand are written as they are.
-/

namespace DashboardSurvey

/-- A byte as a percent sign and two hexadecimal digits, capital letters. -/
def percentByte (b : UInt8) : List Char :=
  ['%', (Nat.digitChar (b.toNat / 16)).toUpper, (Nat.digitChar (b.toNat % 16)).toUpper]

/-- A character by its bytes. -/
def percentChar (c : Char) : List Char := (utf8Bytes (String.singleton c)).flatMap percentByte

/-- The characters with those that may not stand written by their bytes. -/
def percentEncode (stands : Char → Bool) (cs : List Char) : List Char :=
  cs.flatMap fun c => if stands c then [c] else percentChar c

/-- The bytes of ASCII characters, of which some are written by their bytes. -/
def percentDecode : List Char → List UInt8
  | [] => []
  | '%' :: a :: b :: rest =>
    match hexValue? a, hexValue? b with
    | some high, some low => UInt8.ofNat (high * 16 + low) :: percentDecode rest
    | _, _ => 0x25 :: percentDecode (a :: b :: rest)
  | c :: rest => UInt8.ofNat c.toNat :: percentDecode rest

/-- Characters that may all stand are written as they are. -/
theorem percentEncode_of_all {stands : Char → Bool} {cs : List Char}
    (h : ∀ c ∈ cs, stands c = true) : percentEncode stands cs = cs := by
  induction cs with
  | nil => rfl
  | cons c rest ih =>
    have hc : stands c = true := h c (by simp)
    have hr := ih fun d hd => h d (List.mem_cons_of_mem _ hd)
    simp only [percentEncode] at hr
    simp [percentEncode, hc, hr]

end DashboardSurvey
