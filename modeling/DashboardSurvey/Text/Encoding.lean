import DashboardSurvey.Text.Utf8

/-!
# Which encoding a body is in

The body of a response is JSON in one of the Unicode encodings.  Which one is read off a byte order
mark, or else off where the zero bytes stand among the first four, since the first two characters
of a JSON text are ASCII.

* `Encoding` — the encodings, with their byte order.
* `detectEncoding` — the encoding and how many bytes of mark come first.
* `decodeBody` — the text of a body, if it is well formed.
-/

namespace DashboardSurvey

/-- The Unicode encodings. -/
inductive Encoding where
  | utf8
  | utf16 (bigEndian : Bool)
  | utf32 (bigEndian : Bool)
deriving DecidableEq, Repr

/-- The encoding of a body, with the length of its byte order mark. -/
def detectEncoding : List UInt8 → Encoding × Nat
  | 0x00 :: 0x00 :: 0xfe :: 0xff :: _ => (.utf32 true, 4)
  | 0xff :: 0xfe :: 0x00 :: 0x00 :: _ => (.utf32 false, 4)
  | 0xfe :: 0xff :: _ => (.utf16 true, 2)
  | 0xff :: 0xfe :: _ => (.utf16 false, 2)
  | 0xef :: 0xbb :: 0xbf :: _ => (.utf8, 3)
  | a :: b :: c :: d :: _ =>
    if a = 0 then if b = 0 then (.utf32 true, 0) else (.utf16 true, 0)
    else if b = 0 then if c = 0 ∧ d = 0 then (.utf32 false, 0) else (.utf16 false, 0)
    else (.utf8, 0)
  | [a, b] => if a = 0 then (.utf16 true, 0) else if b = 0 then (.utf16 false, 0) else (.utf8, 0)
  | _ => (.utf8, 0)

/-- Bytes in twos as sixteen-bit units. -/
def units16 (bigEndian : Bool) : List UInt8 → Option (List Nat)
  | [] => some []
  | [_] => none
  | a :: b :: rest =>
    let unit := if bigEndian then a.toNat * 256 + b.toNat else b.toNat * 256 + a.toNat
    (units16 bigEndian rest).map (unit :: ·)

/-- Is the unit the first half of a surrogate pair? -/
def isHighSurrogate (n : Nat) : Bool := 0xd800 ≤ n && n < 0xdc00

/-- Is the unit the second half of a surrogate pair? -/
def isLowSurrogate (n : Nat) : Bool := 0xdc00 ≤ n && n < 0xe000

/-- The code point of a surrogate pair. -/
def joinSurrogates (high low : Nat) : Nat := 0x10000 + (high - 0xd800) * 1024 + (low - 0xdc00)

/-- The text of sixteen-bit units, of which two may be the pair of one character. -/
def charsOfUnits : List Nat → List Char
  | [] => []
  | [u] => charsOfCode u
  | u :: v :: rest =>
    if isHighSurrogate u && isLowSurrogate v then
      charsOfCode (joinSurrogates u v) ++ charsOfUnits rest
    else charsOfCode u ++ charsOfUnits (v :: rest)

/-- The text of bytes in fours; a code point beyond the last one is refused. -/
def charsOfWords (bigEndian : Bool) : List UInt8 → Option (List Char)
  | [] => some []
  | a :: b :: c :: d :: rest =>
    let n := if bigEndian then
        ((a.toNat * 256 + b.toNat) * 256 + c.toNat) * 256 + d.toNat
      else ((d.toNat * 256 + c.toNat) * 256 + b.toNat) * 256 + a.toNat
    if n < 0x110000 then (charsOfWords bigEndian rest).map (charsOfCode n ++ ·) else none
  | _ => none

/-- The text of a body, if it is well formed in its encoding. -/
def decodeBody (bytes : List UInt8) : Option (List Char) :=
  let (encoding, mark) := detectEncoding bytes
  let rest := bytes.drop mark
  match encoding with
  | .utf8 => (decodeUtf8From true 0 rest).toOption
  | .utf16 bigEndian => (units16 bigEndian rest).map charsOfUnits
  | .utf32 bigEndian => charsOfWords bigEndian rest

end DashboardSurvey
