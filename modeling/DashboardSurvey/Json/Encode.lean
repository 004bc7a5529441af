import DashboardSurvey.Json.Basic
import DashboardSurvey.Text.Half

/-!
# Writing JSON text

Answers are JSON in ASCII.  A report is written over several lines, each level two blanks deeper;
an error is written on one line.

* `Style` — what stands after a bracket and after a comma.
* `Json.render` — the characters of a value in a style.
* `Json.indented`, `Json.inline` — the two written forms.
-/

namespace DashboardSurvey

/-- What stands between the parts of a list or object: after the opening bracket and before the
closing one, and after a comma, at each depth. -/
structure Style where
  bracket : Nat → List Char
  comma : Nat → List Char

/-- A new line, indented by two blanks for each level. -/
def lineAt (depth : Nat) : List Char := '\n' :: List.replicate (2 * depth) ' '

/-- Everything on its own line. -/
def indentedStyle : Style := ⟨lineAt, lineAt⟩

/-- Everything on one line. -/
def inlineStyle : Style := ⟨fun _ => [], fun _ => [' ']⟩

/-- The characters of a sixteen-bit unit as an escape. -/
def escapeUnit (n : Nat) : List Char :=
  let digit (unit : Nat) := Nat.digitChar (n / unit % 16)
  ['\\', 'u', digit 4096, digit 256, digit 16, digit 1]

/-- A code point inside a JSON string.  What is not printable ASCII is written by its number, above
the first plane as a surrogate pair. -/
def escapeJson (n : Nat) : List Char :=
  let c := Char.ofNat n
  if c = '\x22' then ['\\', '\x22']
  else if c = '\\' then ['\\', '\\']
  else if c = '\n' then ['\\', 'n']
  else if c = '\r' then ['\\', 'r']
  else if c = '\t' then ['\\', 't']
  else if c = '\x0c' then ['\\', 'f']
  else if c = '\x08' then ['\\', 'b']
  else if 32 ≤ n ∧ n < 127 then [c]
  else if n < 0x10000 then escapeUnit n
  else
    escapeUnit (0xd800 + (n - 0x10000) / 1024) ++ escapeUnit (0xdc00 + (n - 0x10000) % 1024)

/-- A text as a JSON string. -/
def jsonString (s : String) : List Char :=
  '\x22' :: (codes s.toList).flatMap escapeJson ++ ['\x22']

/-- A whole number in decimal digits. -/
def intChars (n : Int) : List Char :=
  if n < 0 then '-' :: Nat.toDigits 10 n.natAbs else Nat.toDigits 10 n.natAbs

/-- Doubles in JSON text are laid out as in messages, but the values that are not finite have names
of their own. -/
def jsonLayout : Layout := { valueLayout with infinity := "Infinity", undefined := "NaN" }

/-- A scalar as JSON text. -/
def scalarChars : Scalar → List Char
  | .null => ['n', 'u', 'l', 'l']
  | .bool true => ['t', 'r', 'u', 'e']
  | .bool false => ['f', 'a', 'l', 's', 'e']
  | .int n => intChars n
  | .num x => (jsonLayout.text x).toList
  | .str s => jsonString s

namespace Json

mutual

/-- The characters of a value at a depth. -/
def render (style : Style) (depth : Nat) : Json → List Char
  | scalar s => scalarChars s
  | list [] => ['[', ']']
  | list (v :: rest) =>
    '[' :: style.bracket (depth + 1) ++ render style (depth + 1) v
      ++ renderItems style (depth + 1) rest ++ style.bracket depth ++ [']']
  | object [] => ['\x7b', '\x7d']
  | object ((name, v) :: rest) =>
    '\x7b' :: style.bracket (depth + 1) ++ jsonString name ++ [':', ' ']
      ++ render style (depth + 1) v ++ renderMembers style (depth + 1) rest
      ++ style.bracket depth ++ ['\x7d']

/-- The items of a list after the first. -/
def renderItems (style : Style) (depth : Nat) : List Json → List Char
  | [] => []
  | v :: rest => ',' :: style.comma depth ++ render style depth v ++ renderItems style depth rest

/-- The members of an object after the first. -/
def renderMembers (style : Style) (depth : Nat) : List (String × Json) → List Char
  | [] => []
  | (name, v) :: rest =>
    ',' :: style.comma depth ++ jsonString name ++ [':', ' '] ++ render style depth v
      ++ renderMembers style depth rest

end

/-- The value over several lines. -/
def indented (v : Json) : String := String.ofList (v.render indentedStyle 0)

/-- The value on one line. -/
def inline (v : Json) : String := String.ofList (v.render inlineStyle 0)

end Json

end DashboardSurvey
