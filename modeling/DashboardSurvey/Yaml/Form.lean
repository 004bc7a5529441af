import DashboardSurvey.Text.Lowercase
import DashboardSurvey.Yaml.Error
import DashboardSurvey.Yaml.Value

/-!
# What a scalar is, by its tag or by its form

A tag says what a value is.  A plain scalar without one is what it looks like: a truth value, a
number, null, a date, or else a text.

* `YamlTag`, `YamlTag.ofText`, `YamlTag.text` — the tags.
* `formTag` — the tag of a plain scalar by its form.
* `YamlTag.value` — the value of a scalar with a tag.
-/

namespace DashboardSurvey

/-! ## Tags -/

/-- What a node is, by its tag. -/
inductive YamlTag where
  | null
  | truth
  | whole
  | real
  | moment
  | bytes
  | text
  | list
  | mapping
  /-- a mapping of which only the keys count -/
  | set
  /-- a list of pairs, each a mapping of one entry -/
  | orderedMap
  | pairs
  /-- the key under which other mappings are merged into one -/
  | merge
  /-- the tag of an equals sign that stands alone -/
  | proxy
  | other (name : String)
deriving DecidableEq, Repr

namespace YamlTag

/-- The start of the tags that YAML itself defines. -/
def stem : String := "tag:yaml.org,2002:"

/-- The tags that YAML itself defines and that are known here. -/
def known : List (String × YamlTag) := [
  (stem ++ "null", null), (stem ++ "bool", truth), (stem ++ "int", whole), (stem ++ "float", real),
  (stem ++ "timestamp", moment), (stem ++ "binary", bytes), (stem ++ "str", text),
  (stem ++ "seq", list), (stem ++ "map", mapping), (stem ++ "set", set),
  (stem ++ "omap", orderedMap), (stem ++ "pairs", pairs), (stem ++ "merge", merge),
  (stem ++ "value", proxy)]

/-- The tag that is written so. -/
def ofText (s : String) : YamlTag := (known.lookup s).getD (other s)

/-- How a tag is written. -/
def written : YamlTag → String
  | other s => s
  | t => ((known.find? fun e => e.2 == t).map (·.1)).getD ""

end YamlTag

/-! ## Forms of plain scalars -/

/-- The words that are truth values, in small letters. -/
def truthWords : List (String × Bool) :=
  [("yes", true), ("no", false), ("true", true), ("false", false), ("on", true), ("off", false)]

/-- A word in small letters, with a capital first, or in capitals; no other mixture. -/
def casings (word : String) : List (List Char) :=
  let cs := word.toList
  [cs, (cs.take 1).map Char.toUpper ++ cs.drop 1, cs.map Char.toUpper]

/-- Is the text one of the casings of a word? -/
def isWord (words : List String) (cs : List Char) : Bool :=
  words.any fun w => (casings w).contains cs

/-- A digit, or the underscore that may stand between digits. -/
def isDigitOrBar (c : Char) : Bool := c.isDigit || c = '_'

/-- Do the characters start with a digit and go on with digits and underscores? -/
def isDigits : List Char → Bool
  | c :: rest => c.isDigit && rest.all isDigitOrBar
  | [] => false

/-- One digit, or two of which the first is at most five. -/
def isSixtieth : List Char → Bool
  | [a] => a.isDigit
  | [a, b] => '0' ≤ a && a ≤ '5' && b.isDigit
  | _ => false

/-- Is this nothing, or an exponent with a sign? -/
def isExponent : List Char → Bool
  | [] => true
  | e :: sign :: ds =>
    (e = 'e' || e = 'E') && (sign = '+' || sign = '-') && !ds.isEmpty && ds.all Char.isDigit
  | _ => false

/-- Digits and underscores with perhaps an exponent after them. -/
def isFraction (cs : List Char) : Bool := isExponent (cs.dropWhile isDigitOrBar)

/-- Does a plain scalar look like a double? -/
def looksReal (cs : List Char) : Bool :=
  let signed := cs.head? = some '-' || cs.head? = some '+'
  let body := if signed then cs.drop 1 else cs
  match body.takeWhile (· ≠ '.'), body.dropWhile (· ≠ '.') with
  | _, [] => false
  | [], _ :: rest =>
    isWord ["inf"] rest
      || (!signed && (["nan", "NaN", "NAN"].contains (String.ofList rest)
        || ((rest.head?.map Char.isDigit).getD false && isFraction rest)))
  | whole, _ :: rest =>
    match splitChars ':' whole with
    | [ds] => isDigits ds && isFraction rest
    | ds :: groups => isDigits ds && groups.all isSixtieth && rest.all isDigitOrBar
    | [] => false

/-- Does a plain scalar look like a whole number? -/
def looksWhole (cs : List Char) : Bool :=
  let body := (readSign cs).2
  match body with
  | ['0'] => true
  | '0' :: 'b' :: rest => !rest.isEmpty && rest.all fun c => c = '0' || c = '1' || c = '_'
  | '0' :: 'x' :: rest =>
    !rest.isEmpty && rest.all fun c => (hexValue? c).isSome || c = '_'
  | '0' :: rest => rest.all fun c => ('0' ≤ c && c ≤ '7') || c = '_'
  | _ =>
    match splitChars ':' body with
    | ds :: groups => isDigits ds && groups.all isSixtieth
    | [] => false

/-- Does a plain scalar look like a date? -/
def looksMoment (cs : List Char) : Bool := ((readMoment cs).map MomentParts.isPlain).getD false

/-- The characters without a line feed that ends them. -/
def withoutLineEnd (cs : List Char) : List Char :=
  if cs.getLast? = some '\n' then cs.dropLast else cs

/-- The tag of a scalar by its form.  A line feed at its end does not count. -/
def formTag (cs : List Char) : YamlTag :=
  let body := withoutLineEnd cs
  if isWord (truthWords.map (·.1)) body then .truth
  else if looksReal body then .real
  else if looksWhole body then .whole
  else if body = ['<', '<'] then .merge
  else if cs.isEmpty || body = ['~'] || isWord ["null"] body then .null
  else if looksMoment body then .moment
  else if body = ['='] then .proxy
  else if [['!'], ['&'], ['*']].contains body then .other (YamlTag.stem ++ "yaml")
  else .text

/-! ## Values -/

/-- A whole number as a text writes it in a base. -/
def wholeIn (base : Nat) (cs : List Char) : Except YamlError Int :=
  (wholeOfText base (String.ofList cs)).mapError .number

/-- A double as a text writes it. -/
def decimalReal (cs : List Char) : Except YamlError Binary64 :=
  (realOfText (String.ofList cs)).mapError .number

/-- The value of a whole number: binary, octal, hexadecimal, decimal, or in groups of base sixty. -/
def wholeValue (cs : List Char) : Except YamlError Int := do
  let cs := cs.filter (· ≠ '_')
  if cs.isEmpty then throw .noNumber
  let (negative, body) := readSign cs
  let sign (n : Int) : Int := if negative then -n else n
  match body with
  | [] => throw .noNumber
  | ['0'] => return 0
  | '0' :: 'b' :: rest => return sign (← wholeIn 2 rest)
  | '0' :: 'x' :: rest => return sign (← wholeIn 16 rest)
  | '0' :: _ => return sign (← wholeIn 8 body)
  | _ =>
    let groups ← (splitChars ':' body).mapM (wholeIn 10)
    return sign (groups.foldl (fun n g => n * 60 + g) 0)

/-- The sum of groups of base sixty, the last of which counts ones. -/
def sexagesimal (base : Int) (total : Binary64) : List Binary64 → Except YamlError Binary64
  | [] => .ok total
  | g :: groups => do
    let weight ← (realOfWhole base).mapError .number
    sexagesimal (base * 60) (total.add (g.mul weight)) groups

/-- The value of a double: decimal, in groups of base sixty, or one that is not finite. -/
def realValue (cs : List Char) : Except YamlError Binary64 := do
  let cs := smallFrom [] (cs.filter (· ≠ '_'))
  if cs.isEmpty then throw .noNumber
  let (negative, body) := readSign cs
  let sign (x : Binary64) : Binary64 := if negative then x.neg else x
  if body = ".inf".toList then return .infinite negative
  else if body = ".nan".toList then return .undefined
  else if body.contains ':' then
    let groups ← (splitChars ':' body).mapM decimalReal
    return sign (← sexagesimal 1 (Binary64.zero false) groups.reverse)
  else return sign (← decimalReal body)

/-- The truth value of a word. -/
def truthValue (s : String) : Except YamlError Bool :=
  let word := smallLetters s
  (truthWords.lookup word).elim (.error (.truth word)) .ok

/-- The date or moment of a text. -/
def momentValue (cs : List Char) : Except YamlError YamlScalar :=
  match readMoment (withoutLineEnd cs) with
  | none => .error .noDate
  | some p =>
    match p.clock with
    | none => p.date?.mapError .dateRange |>.map .date
    | some c => (p.moment? c).mapError .dateRange |>.map .moment

/-- The bytes that the letters of a scalar write; it starts at a place. -/
def bytesValue (start : Mark) (cs : List Char) : Except YamlError (List UInt8) :=
  let wrong (problem : YamlProblem) := YamlError.malformed ⟨none, problem, start⟩
  match asciiFault? cs with
  | some f => .error (wrong (.notLetters f))
  | none => (base64Bytes cs).mapError fun f => wrong (.notBytes f)

/-- The value of a scalar with a tag, which starts at a place; the tags of other values, and unknown
ones, give none. -/
def YamlTag.value (t : YamlTag) (start : Mark) (s : String) :
    Option (Except YamlError YamlScalar) :=
  match t with
  | .null => some (.ok (.basic .null))
  | .truth => some ((truthValue s).map fun b => .basic (.bool b))
  | .whole => some ((wholeValue s.toList).map fun n => .basic (.int n))
  | .real => some ((realValue s.toList).map fun x => .basic (.num x))
  | .moment => some (momentValue s.toList)
  | .bytes => some ((bytesValue start s.toList).map .bytes)
  | .text => some (.ok (.basic (.str s)))
  | _ => none

end DashboardSurvey
