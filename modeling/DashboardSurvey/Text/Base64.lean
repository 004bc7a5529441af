/-!
# Bytes written as letters

A setting may give bytes by letters, four for every three bytes.  Characters that are no digits of
base sixty-four are passed over; equals signs fill up the last four.

* `sixBits?` — the value of a digit.
* `Base64Fault` — why letters write no bytes.
* `base64Bytes` — the bytes that letters write.
-/

namespace DashboardSurvey

/-- The value of a digit in base sixty-four. -/
def sixBits? (c : Char) : Option Nat :=
  if c.isUpper then some (c.toNat - 65)
  else if c.isLower then some (c.toNat - 71)
  else if c.isDigit then some (c.toNat + 4)
  else if c = '+' then some 62
  else if c = '/' then some 63
  else none

/-- Why letters write no bytes. -/
inductive Base64Fault where
  /-- one digit is left over -/
  | lonely (digits : Nat)
  /-- the last digits are not filled up -/
  | unfilled
deriving DecidableEq, Repr

/-- The wording of a fault. -/
def Base64Fault.message : Base64Fault → String
  | lonely digits =>
    "Invalid base64-encoded string: number of data characters (" ++ toString digits
      ++ ") cannot be 1 more than a multiple of 4"
  | unfilled => "Incorrect padding"

/-- The bytes that the digits of one group of at most four write. -/
def groupBytes : List Nat → List UInt8
  | [a, b] => [UInt8.ofNat (a * 4 + b / 16)]
  | [a, b, c] => [UInt8.ofNat (a * 4 + b / 16), UInt8.ofNat (b % 16 * 16 + c / 4)]
  | [a, b, c, d] =>
    [UInt8.ofNat (a * 4 + b / 16), UInt8.ofNat (b % 16 * 16 + c / 4),
      UInt8.ofNat (c % 4 * 64 + d)]
  | _ => []

/-- The bytes that letters write after `full` whole groups and the digits `group`; `signs` equals
signs came right before.  Where these fill up a group, the rest is not read. -/
def base64From (full : Nat) (group : List Nat) (signs : Nat) :
    List Char → Except Base64Fault (List UInt8)
  | [] =>
    match group with
    | [] => .ok []
    | [_] => .error (.lonely (4 * full + 1))
    | _ => .error .unfilled
  | c :: rest =>
    if c = '=' then
      if 2 ≤ group.length then
        if 4 ≤ group.length + signs + 1 then .ok (groupBytes group)
        else base64From full group (signs + 1) rest
      else base64From full group signs rest
    else
      match sixBits? c with
      | none => base64From full group signs rest
      | some d =>
        let group := group ++ [d]
        if group.length = 4 then
          (base64From (full + 1) [] 0 rest).map (groupBytes group ++ ·)
        else base64From full group 0 rest

/-- The bytes that letters write. -/
def base64Bytes (cs : List Char) : Except Base64Fault (List UInt8) := base64From 0 [] 0 cs

end DashboardSurvey
