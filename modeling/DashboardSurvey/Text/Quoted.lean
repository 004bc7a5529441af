import DashboardSurvey.Text.Half
import DashboardSurvey.Text.Printable

/-!
# Quoted text in messages

A text inside a message stands between quotes.  Single quotes are taken unless the text has a single
quote and no double one; the quote in use, the backslash and whatever cannot be shown are escaped.

* `hexDigits` — a number in base sixteen with a given width.
* `quoteMark` — which quote a text takes.
* `quoted` — the text between quotes.
* `quotedBytes` — bytes between quotes.
-/

namespace DashboardSurvey

/-- The number in base sixteen, small letters, with zeros before it up to `width` digits. -/
def hexDigits (width n : Nat) : List Char :=
  let ds := Nat.toDigits 16 n
  List.replicate (width - ds.length) '0' ++ ds

/-- A code point by its number, in the shortest of the three escapes. -/
def escapeByCode (n : Nat) : List Char :=
  if n < 0x100 then ['\\', 'x'] ++ hexDigits 2 n
  else if n < 0x10000 then ['\\', 'u'] ++ hexDigits 4 n
  else ['\\', 'U'] ++ hexDigits 8 n

/-- The quote that a text takes. -/
def quoteMark (cs : List Char) : Char :=
  if cs.contains '\x27' && !cs.contains '\x22' then '\x22' else '\x27'

/-- One code point between quotes. -/
def escapeQuoted (mark : Char) (n : Nat) : List Char :=
  let c := Char.ofNat n
  if c = mark ∨ c = '\\' then ['\\', c]
  else if c = '\t' then ['\\', 't']
  else if c = '\n' then ['\\', 'n']
  else if c = '\r' then ['\\', 'r']
  else if isShown n then [c]
  else escapeByCode n

/-- The text between quotes. -/
def quoted (s : String) : String :=
  let cs := s.toList
  let mark := quoteMark cs
  String.ofList (mark :: (codes cs).flatMap (escapeQuoted mark) ++ [mark])

/-- One byte between quotes. -/
def escapeQuotedByte (mark : Char) (b : UInt8) : List Char :=
  if b < 0x80 then escapeQuoted mark b.toNat else escapeByCode b.toNat

/-- Bytes between quotes: those that are ASCII as characters, the others by their values. -/
def quotedBytes (bytes : List UInt8) : String :=
  let mark := quoteMark (bytes.map fun b => Char.ofNat b.toNat)
  String.ofList ('b' :: mark :: bytes.flatMap (escapeQuotedByte mark) ++ [mark])

end DashboardSurvey
