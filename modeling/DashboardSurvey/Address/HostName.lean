import DashboardSurvey.Address.NameLetter
import DashboardSurvey.Address.Punycode

/-!
# Names of hosts

The name of a host has parts with full stops between them.  It is used in ASCII: a part that is not
ASCII is written in ASCII, with a mark at its start, so that it can be shown in its own letters
again.

* `isNamePart` — may the characters be a part of a name, in its own letters?
* `asciiPart?`, `ofAsciiPart?` — a part in ASCII, and its own letters.
* `asciiName?`, `ofAsciiName?` — the same for a whole name.
-/

namespace DashboardSurvey

/-! ## Parts -/

/-- What a part in ASCII starts with if its own letters are not ASCII. -/
def partMark : List Char := ['x', 'n', '-', '-']

/-- May the characters be a part of a name, in its own letters?  No hyphen stands at either end, nor
do two of them stand at the third and the fourth place. -/
def isNamePart (cs : List Char) : Bool :=
  cs.all isNameLetter && !cs.isEmpty && cs.head? != some '-' && cs.getLast? != some '-'
    && (cs.drop 2).take 2 != ['-', '-']

/-- The own letters of a part in ASCII. -/
def ofAsciiPart? (cs : List Char) : Option (List Char) :=
  if cs.take 4 = partMark then
    let written := cs.drop 4
    if written.isEmpty || written.getLast? == some '-' then none
    else (ofPunycode? written).filter isNamePart
  else some cs |>.filter isNamePart

/-- A part in ASCII. -/
def asciiPart? (cs : List Char) : Option (List Char) :=
  let part :=
    if cs.all fun c => c.toNat < 128 then (ofAsciiPart? cs).map fun _ => cs
    else if isNamePart cs then some (partMark ++ toPunycode cs) else none
  part.filter fun cs => cs.length ≤ 63

/-! ## Names -/

/-- Is the character a full stop? -/
def isFullStop (c : Char) : Bool := ['.', '。', '．', '｡'].contains c

/-- The parts of a name, and whether a full stop ends it. -/
def nameParts (cs : List Char) : List (List Char) × Bool :=
  let parts := splitChars '.' (cs.map fun c => if isFullStop c then '.' else c)
  if parts.getLast? = some [] then (parts.dropLast, true) else (parts, false)

/-- The name with each part changed; there has to be a part. -/
def eachPart? (change : List Char → Option (List Char)) (cs : List Char) : Option (List Char) := do
  let (parts, ended) := nameParts cs
  if parts.isEmpty then none
  else return joinChars '.' (← parts.mapM change) ++ (if ended then ['.'] else [])

/-- A name in ASCII. -/
def asciiName? (cs : List Char) : Option (List Char) :=
  (eachPart? asciiPart? cs).filter fun name =>
    name.length ≤ if name.getLast? = some '.' then 254 else 253

/-- The own letters of a name in ASCII. -/
def ofAsciiName? (cs : List Char) : Option (List Char) := eachPart? ofAsciiPart? cs

end DashboardSurvey
