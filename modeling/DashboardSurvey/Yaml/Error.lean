import DashboardSurvey.Value.Numeric
import DashboardSurvey.Yaml.Fault

/-!
# Why settings cannot be read

A settings file may be malformed; or it is well formed, but a scalar in it is not what its form or
its tag says.

* `YamlError`, `YamlError.message` — the causes, and their wording.
-/

namespace DashboardSurvey

/-- Why settings cannot be read. -/
inductive YamlError where
  /-- the text is not YAML -/
  | malformed (f : YamlFault)
  /-- a character may not occur in YAML -/
  | unprintable (c : Char) (position : Nat)
  /-- an escape writes a code point beyond the last one -/
  | beyondCodePoints (n : Nat)
  /-- a scalar is not the number that its form or its tag says -/
  | number (e : NumberError)
  /-- the text of a number is empty -/
  | noNumber
  /-- a scalar is not the truth value that its tag says -/
  | truth (text : String)
  /-- a scalar is not the date that its tag says -/
  | noDate
  /-- a date is a mapping that stands for its text -/
  | dateMapping
  /-- a part of a date or of a time of day is out of range -/
  | dateRange (reason : String)
  /-- a mapping that stands for a text stands for itself -/
  | endless
deriving DecidableEq, Repr

/-- The wording of a cause, for a file. -/
def YamlError.message (path : String) : YamlError → String
  | malformed f => f.message path
  | unprintable c position =>
    "unacceptable character #x" ++ String.ofList (hexDigits 4 c.toNat)
      ++ ": special characters are not allowed\n  in \x22" ++ path ++ "\x22, position "
      ++ toString position
  | beyondCodePoints n =>
    if n < twoTo 31 then "chr() arg not in range(0x110000)"
    else "Python int too large to convert to C int"
  | number e => e.message
  | noNumber => "string index out of range"
  | truth text => quoted text
  | noDate => "'NoneType' object has no attribute 'groupdict'"
  | dateMapping => "expected string or bytes-like object, got 'list'"
  | dateRange reason => reason
  | endless => "maximum recursion depth exceeded"

end DashboardSurvey
