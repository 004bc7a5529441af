import DashboardSurvey.Number.Layout
import DashboardSurvey.Text.Blank
import DashboardSurvey.Text.Digit

/-!
# Numbers from text

A number written as text in the settings may have blanks around it, underscores between its digits,
and the digits of any script.  Bytes are read in the same way, but as ASCII.

* `digitsValue`, `hexValue?`, `readSign`, `readExponent` — the parts of a number.
* `plainText`, `plainBytes` — a text or bytes as ASCII, without blanks around it.
* `readReal`, `readWholeIn` — a double, and a whole number in a base.
* `realOfText?`, `wholeOfText?` — the number that a whole text is.
-/

namespace DashboardSurvey

/-! ## Parts -/

/-- The value of decimal digits. -/
def digitsValue (ds : List Char) : Nat := ds.foldl (fun n c => n * 10 + (c.toNat - 48)) 0

/-- The value of a digit in base sixteen. -/
def hexValue? (c : Char) : Option Nat :=
  if '0' ≤ c ∧ c ≤ '9' then some (c.toNat - 48)
  else if 'a' ≤ c ∧ c ≤ 'f' then some (c.toNat - 87)
  else if 'A' ≤ c ∧ c ≤ 'F' then some (c.toNat - 55)
  else none

/-- The sign before a number, if there is one, and what is left. -/
def readSign : List Char → Bool × List Char
  | '-' :: rest => (true, rest)
  | '+' :: rest => (false, rest)
  | rest => (false, rest)

/-- The exponent, if a mark and digits come next, and what is left. -/
def readExponent (cs : List Char) : Option (Int × List Char) :=
  match cs with
  | c :: rest =>
    if c = 'e' ∨ c = 'E' then
      let (negative, body) := readSign rest
      let ds := body.takeWhile Char.isDigit
      if ds.isEmpty then none
      else some (Binary64.signed negative (digitsValue ds), body.dropWhile Char.isDigit)
    else none
  | [] => none

/-! ## Whole texts -/

/-- A decimal digit of any script as an ASCII digit; other characters stay. -/
def plainDigit (c : Char) : Char :=
  match digitValue? c with
  | some d => Nat.digitChar d
  | none => c

/-- The text of a number with ASCII digits, without blanks around it. -/
def plainText (s : String) : List Char := (trimBlank s.toList).map plainDigit

/-- Is the character blank in ASCII? -/
def isAsciiBlank (c : Char) : Bool := c = ' ' || (9 ≤ c.toNat && c.toNat ≤ 13)

/-- Bytes as characters, without blanks around them. -/
def plainBytes (bytes : List UInt8) : List Char :=
  let cs := bytes.map fun b => Char.ofNat b.toNat
  dropEnd isAsciiBlank (cs.dropWhile isAsciiBlank)

/-- The characters after `before` without underscores, if each of these stands between digits. -/
def joinDigits (before : Char) : List Char → Option (List Char)
  | [] => some []
  | '_' :: d :: rest =>
    if before.isDigit && d.isDigit then (joinDigits d rest).map (d :: ·) else none
  | c :: rest => if c = '_' then none else (joinDigits c rest).map (c :: ·)

/-- The double that the characters write: digits with a point somewhere and an exponent after them,
or the name of a value that is not finite. -/
def readReal (cs : List Char) : Option Binary64 :=
  let (negative, body) := readSign cs
  let name := String.ofList (body.map Char.toLower)
  if name = "inf" ∨ name = "infinity" then some (.infinite negative)
  else if name = "nan" then some .undefined
  else
    let whole := body.takeWhile Char.isDigit
    let (fraction, rest) := match body.dropWhile Char.isDigit with
      | '.' :: rest => (rest.takeWhile Char.isDigit, rest.dropWhile Char.isDigit)
      | rest => ([], rest)
    let value (power : Int) :=
      Binary64.ofDecimal negative ⟨digitsValue (whole ++ fraction), power - fraction.length⟩
    if whole.isEmpty && fraction.isEmpty then none
    else if rest.isEmpty then some (value 0)
    else
      match readExponent rest with
      | some (power, []) => some (value power)
      | _ => none

/-- The double that characters with underscores between digits write. -/
def realOfChars? (cs : List Char) : Option Binary64 := (joinDigits ' ' cs).bind readReal

/-- The double that a text writes. -/
def realOfText? (s : String) : Option Binary64 := realOfChars? (plainText s)

/-! ## Whole numbers -/

/-- How many decimal digits a whole number may have where it is read or written. -/
def longestWhole : Nat := 4300

/-- Why characters are no whole number. -/
inductive WholeFault where
  /-- something other than digits stands there -/
  | notDigits
  /-- there are more digits than are read -/
  | long (digits : Nat)
deriving DecidableEq, Repr

/-- The value of a digit in a base up to sixteen. -/
def digitIn? (base : Nat) (c : Char) : Option Nat := (hexValue? c).filter (· < base)

/-- The value of digits in a base. -/
def valueIn (base : Nat) (ds : List Char) : Nat :=
  ds.foldl (fun n c => n * base + (digitIn? base c).getD 0) 0

/-- The letter that, after a zero, says in which base a number is written. -/
def baseLetter? (base : Nat) : Option Char := [(2, 'b'), (8, 'o'), (16, 'x')].lookup base

/-- The characters after the zero and the letter that tell the base, if these come first.  An
underscore after them is passed over as well. -/
def dropBase (base : Nat) (cs : List Char) : List Char :=
  match cs with
  | '0' :: c :: rest =>
    if baseLetter? base = some c.toLower then if rest.head? = some '_' then rest.tail else rest
    else cs
  | cs => cs

/-- Does each underscore stand between two digits?  The characters are digits and underscores. -/
def areJoined : List Char → Bool
  | [] => true
  | ['_'] => false
  | '_' :: '_' :: _ => false
  | _ :: rest => areJoined rest

/-- The whole number that characters write in a base.  Of decimal digits only so many are read. -/
def readWholeIn (base : Nat) (cs : List Char) : Except WholeFault Int :=
  let (negative, body) := readSign cs
  let body := dropBase base body
  let isPart (c : Char) : Bool := (digitIn? base c).isSome || c = '_'
  let run := body.takeWhile isPart
  let ds := run.filter (· ≠ '_')
  if run.head? = some '_' || !areJoined run then .error .notDigits
  else if base = 10 ∧ longestWhole < ds.length then .error (.long ds.length)
  else if ds.isEmpty || !(body.dropWhile isPart).isEmpty then .error .notDigits
  else .ok (Binary64.signed negative (if base = 10 then digitsValue ds else valueIn base ds))

/-- The whole number that a text writes. -/
def wholeOfText? (s : String) : Option Int := (readWholeIn 10 (plainText s)).toOption

/-- How it is told that a number has too many digits; how many is told where a text is read. -/
def longMessage (digits : Option Nat) : String :=
  let value := match digits with
    | some n => ": value has " ++ toString n ++ " digits"
    | none => ""
  "Exceeds the limit (" ++ toString longestWhole ++ " digits) for integer string conversion"
    ++ value ++ "; use sys.set_int_max_str_digits() to increase the limit"

/-- Has a whole number more decimal digits than are written? -/
def isLongWhole (n : Int) : Bool := Nat.pow 10 longestWhole ≤ n.natAbs

end DashboardSurvey
