import DashboardSurvey.Text.Quoted

/-!
# Names that the host is asked for

Users and variables are asked for by name, and a name is told to the host in bytes.  A half of a
surrogate pair has none, except those halves that stand for single bytes.  Names of users end at a
zero, so none may stand in them; names of variables are only compared.

* `NameFault` — why the host cannot be asked for a name.
* `halvesFault?`, `userFault?` — what is wrong with the name of a variable and with that of a user.
-/

namespace DashboardSurvey

/-- Why the host cannot be asked for a name. -/
inductive NameFault where
  /-- a run of `count` halves of surrogate pairs from `position` on; `first` is the first -/
  | halves (first position count : Nat)
  /-- a zero stands in the name -/
  | zero
deriving DecidableEq, Repr

/-- The wording of a fault: one half is told, of several the first and the last position. -/
def NameFault.message : NameFault → String
  | .halves first position count =>
    let place :=
      if count = 1 then
        "character '" ++ String.ofList (escapeByCode first) ++ "' in position " ++ toString position
      else
        "characters in position " ++ toString position ++ "-" ++ toString (position + count - 1)
    "'utf-8' codec can't encode " ++ place ++ ": surrogates not allowed"
  | .zero => "embedded null byte"

/-- Is the code point a half that has no bytes?  Those that stand for single bytes have one. -/
def isStray (n : Nat) : Bool := isHalf n && (n < 0xdc80 || 0xdcff < n)

/-- The first halves in a name that have no bytes, if there are any.  The run that starts there goes
on over halves of all sorts. -/
def halvesFault? (cs : List Char) : Option NameFault :=
  match (codes cs).dropWhile (!isStray ·) with
  | [] => none
  | n :: rest =>
    some (.halves n ((codes cs).takeWhile (!isStray ·)).length (1 + (rest.takeWhile isHalf).length))

/-- What is wrong with the name of a user, if anything is. -/
def userFault? (cs : List Char) : Option NameFault :=
  halvesFault? cs <|> if cs.contains '\x00' then some .zero else none

end DashboardSurvey
