import DashboardSurvey.Text.Split

/-!
# Names in ASCII

A part of the name of a host that is not ASCII is written in ASCII: first its ASCII characters, then
numbers that say which other characters stand where.  These come in ascending order, so each number
tells how far to go on from the last one, counting every place where a character could stand.

* `digitOf36`, `valueOf36?` — the digits in which the numbers are written.
* `writeGap`, `readGap` — one number, with as many digits as it needs.
* `toPunycode`, `ofPunycode?` — the two directions.
-/

namespace DashboardSurvey

/-! ## Numbers -/

/-- The digit of a value below thirty-six: first the letters, then the decimal digits. -/
def digitOf36 (d : Nat) : Char := Char.ofNat (if d < 26 then 97 + d else 22 + d)

/-- The value of a digit; capital letters count as small ones. -/
def valueOf36? (c : Char) : Option Nat :=
  if c.isLower then some (c.toNat - 97)
  else if c.isUpper then some (c.toNat - 65)
  else if c.isDigit then some (c.toNat - 22)
  else none

/-- From which value on a digit is not the last one of its number, where `k` is thirty-six times the
place of the digit. -/
def threshold (k bias : Nat) : Nat := if k ≤ bias then 1 else min 26 (k - bias)

/-- How often a number is divided by thirty-five until it is at most 455, times thirty-six, and what
is left. -/
def shrink (k n : Nat) : Nat → Nat × Nat
  | 0 => (k, n)
  | fuel + 1 => if n ≤ 455 then (k, n) else shrink (k + 36) (n / 35) fuel

/-- The bias after a number was written; `count` characters stand there by then. -/
def nextBias (gap count : Nat) (first : Bool) : Nat :=
  let n := if first then gap / 700 else gap / 2
  let (k, n) := shrink 0 (n + n / count) n
  k + 36 * n / (n + 38)

/-- The digits of a number, the lowest first. -/
def writeGap (bias k n : Nat) : Nat → List Char
  | 0 => []
  | fuel + 1 =>
    let t := threshold k bias
    if n < t then [digitOf36 n]
    else
      digitOf36 (t + (n - t) % (36 - t)) :: writeGap bias (k + 36) ((n - t) / (36 - t)) fuel

/-- The number at the start of digits, where a digit counts `weight`, and what is left. -/
def readGap (bias k weight : Nat) : List Char → Option (Nat × List Char)
  | [] => none
  | c :: rest => do
    let d ← valueOf36? c
    let t := threshold k bias
    if d < t then return (d * weight, rest)
    else
      let (n, rest) ← readGap bias (k + 36) (weight * (36 - t)) rest
      return (d * weight + n, rest)

/-! ## Writing -/

/-- What is known between two numbers: how many characters stand there, how far one has gone on
since the last one, and the bias. -/
structure PunycodeState where
  count : Nat
  gap : Nat
  bias : Nat

/-- Go past the places for one code point: each character below it is a place, and each that is it
is written. -/
def writePoint (basic point : Nat) (s : PunycodeState) : List Char → List Char × PunycodeState
  | [] => ([], s)
  | c :: rest =>
    if c.toNat < point then writePoint basic point { s with gap := s.gap + 1 } rest
    else if c.toNat = point then
      let digits := writeGap s.bias 36 s.gap (s.gap + 1)
      let bias := nextBias s.gap (s.count + 1) (s.count == basic)
      let (more, s) := writePoint basic point ⟨s.count + 1, 0, bias⟩ rest
      (digits ++ more, s)
    else writePoint basic point s rest

/-- Write the code points in ascending order; `next` is the least that may come. -/
def writePoints (cs : List Char) (basic next : Nat) (s : PunycodeState) : List Nat → List Char
  | [] => []
  | point :: rest =>
    let gap := s.gap + (point - next) * (s.count + 1)
    let (digits, s) := writePoint basic point { s with gap } cs
    digits ++ writePoints cs basic (point + 1) { s with gap := s.gap + 1 } rest

/-- Characters in ASCII. -/
def toPunycode (cs : List Char) : List Char :=
  let basic := cs.filter fun c => c.toNat < 128
  let points := ((cs.map Char.toNat).filter (128 ≤ ·)).mergeSort.eraseReps
  basic ++ (if basic.isEmpty then [] else ['-'])
    ++ writePoints cs basic.length 128 ⟨basic.length, 0, 72⟩ points

/-! ## Reading -/

/-- Put characters among `cs`, as numbers say. -/
def readPoints (cs : List Char) (point place bias : Nat) (first : Bool) (digits : List Char) :
    Nat → Option (List Char)
  | 0 => some cs
  | fuel + 1 =>
    if digits.isEmpty then some cs
    else do
      let (gap, rest) ← readGap bias 36 1 digits
      let count := cs.length + 1
      let point := point + (place + gap) / count
      let place := (place + gap) % count
      if point.isValidChar then
        let cs := cs.take place ++ Char.ofNat point :: cs.drop place
        readPoints cs point (place + 1) (nextBias gap count first) false rest fuel
      else none

/-- The characters that are written in ASCII. -/
def ofPunycode? (cs : List Char) : Option (List Char) :=
  let pieces := splitChars '-' cs
  let digits := pieces.getLastD []
  readPoints (joinChars '-' pieces.dropLast) 128 0 72 true digits (digits.length + 1)

end DashboardSurvey
