import DashboardSurvey.Number.Reading
import DashboardSurvey.Text.Split

/-!
# Hosts that are numbers

A host in an address is a name, or the number of a machine in one of two notations.

* `looksIPv4`, `isIPv4` — four numbers with points between them.
* `isIPv6` — groups of hexadecimal digits with colons between them, a run of zero groups left out.
-/

namespace DashboardSurvey

/-! ## Four numbers -/

/-- Does a host look like four numbers with points between them, however large they are? -/
def looksIPv4 (cs : List Char) : Bool :=
  let parts := splitChars '.' cs
  parts.length == 4 && parts.all fun part => !part.isEmpty && part.all Char.isDigit

/-- Is this a number below 256, without zeros before it? -/
def isOctet (cs : List Char) : Bool :=
  !cs.isEmpty && cs.all Char.isDigit && cs.length ≤ 3 && digitsValue cs < 256
    && (cs.length == 1 || cs.head? != some '0')

/-- Is a host four numbers with points between them? -/
def isIPv4 (cs : List Char) : Bool :=
  let parts := splitChars '.' cs
  parts.length == 4 && parts.all isOctet

/-! ## Groups -/

/-- Is this a group of one to four hexadecimal digits? -/
def isGroup (cs : List Char) : Bool :=
  !cs.isEmpty && cs.length ≤ 4 && cs.all fun c => (hexValue? c).isSome

/-- How many groups the parts between colons stand for, if they are well formed; the last one may be
four numbers with points. -/
def countGroups : List (List Char) → Option Nat
  | [] => some 0
  | [last] => if isGroup last then some 1 else if isIPv4 last then some 2 else none
  | part :: rest => if isGroup part then (countGroups rest).map (· + 1) else none

/-- The parts before and after the first empty part that stands between two others. -/
def splitGap : List (List Char) → Option (List (List Char) × List (List Char))
  | [] => none
  | [_] => none
  | part :: [] :: rest => if rest.isEmpty then none else some ([part], rest)
  | part :: rest => (splitGap rest).map fun (before, after) => (part :: before, after)

/-- Parts before or after a gap: an empty one at the outer end stands for nothing. -/
def trimOuter : List (List Char) → List (List Char)
  | [[]] => []
  | parts => parts

/-- Is this the number of a machine in groups?  One run of groups may be left out. -/
def isGroups (cs : List Char) : Bool :=
  let parts := splitChars ':' cs
  match splitGap parts with
  | some (before, after) =>
    match countGroups (trimOuter before), countGroups (trimOuter after) with
    | some a, some b =>
      a + b < 8 && before.all (fun p => !p.any (· = '.'))
    | _, _ => false
  | none => countGroups parts == some 8

/-- Is this the number of a machine in groups, perhaps with the name of a zone after it? -/
def isIPv6 (cs : List Char) : Bool :=
  match splitChars '%' cs with
  | [address] => isGroups address
  | [address, zone] => !zone.isEmpty && isGroups address
  | _ => false

end DashboardSurvey
