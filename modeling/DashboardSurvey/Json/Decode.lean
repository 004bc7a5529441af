import DashboardSurvey.Json.Basic
import DashboardSurvey.Number.Reading
import DashboardSurvey.Text.Encoding

/-!
# Reading JSON text

A text is read from left to right and refused at the first character that cannot continue it.  Two
liberties are taken with the standard: `NaN`, `Infinity` and `-Infinity` are numbers, and of members
with one name the last counts, in the place of the first.

* `JsonReason`, `JsonFault` — why and where a text is refused; a position counts code points.
* `readString`, `readNumber`, `readValue` — readers, which return what they leave unread.
* `Json.decode` — the value of a text.
-/

namespace DashboardSurvey

/-- Why a text is not JSON. -/
inductive JsonReason where
  | value
  | name
  | colon
  | comma
  | unterminated
  | escape
  | codeEscape
  | control
  | extra
  | byteOrderMark
  /-- a whole number has more digits than are read -/
  | longWhole (digits : Nat)
deriving DecidableEq, Repr

/-- The wording of a reason. -/
def JsonReason.message : JsonReason → String
  | .value => "Expecting value"
  | .name => "Expecting property name enclosed in double quotes"
  | .colon => "Expecting ':' delimiter"
  | .comma => "Expecting ',' delimiter"
  | .unterminated => "Unterminated string starting at"
  | .escape => "Invalid \\escape"
  | .codeEscape => "Invalid \\uXXXX escape"
  | .control => "Invalid control character at"
  | .extra => "Extra data"
  | .byteOrderMark => "Unexpected UTF-8 BOM (decode using utf-8-sig)"
  | .longWhole digits => longMessage (some digits)

/-- Where a text is refused: lines and columns count from one, the position from zero. -/
structure JsonFault where
  reason : JsonReason
  line : Nat
  column : Nat
  position : Nat
deriving DecidableEq, Repr

/-- Is the text JSON, but with a number that is not read? -/
def JsonFault.isLongWhole (f : JsonFault) : Bool :=
  match f.reason with
  | .longWhole _ => true
  | _ => false

/-- The wording of a fault.  Of a number that is not read the place is not told. -/
def JsonFault.message (f : JsonFault) : String :=
  let place := ": line " ++ toString f.line ++ " column " ++ toString f.column
    ++ " (char " ++ toString f.position ++ ")"
  f.reason.message ++ (if f.isLongWhole then "" else place)

/-- A reason with how many characters are left from the place it concerns. -/
structure Refusal where
  reason : JsonReason
  left : Nat
deriving DecidableEq, Repr

/-- Refuse at the first of the characters that are left. -/
def refuse {α : Type} (reason : JsonReason) (rest : List Char) : Except Refusal α :=
  .error ⟨reason, rest.length⟩

/-- The fault that a refusal is in a text. -/
def faultAt (text : List Char) (r : Refusal) : JsonFault :=
  let before := codes (text.take (text.length - r.left))
  { reason := r.reason
    line := before.count '\n'.toNat + 1
    column := (before.reverse.takeWhile (· ≠ '\n'.toNat)).length + 1
    position := before.length }

/-! ## Characters -/

/-- May the character stand between tokens? -/
def isJsonSpace (c : Char) : Bool := c = ' ' || c = '\t' || c = '\n' || c = '\r'

/-- The characters from the next token on. -/
def skipSpace (cs : List Char) : List Char := cs.dropWhile isJsonSpace

/-- The value of four digits in base sixteen. -/
def hexFour? (a b c d : Char) : Option Nat := do
  let a ← hexValue? a
  let b ← hexValue? b
  let c ← hexValue? c
  let d ← hexValue? d
  return ((a * 16 + b) * 16 + c) * 16 + d

/-- The character that a one-letter escape stands for. -/
def escapeLetter? (c : Char) : Option Char :=
  if c = '\x22' ∨ c = '\\' ∨ c = '/' then some c
  else if c = 'b' then some '\x08'
  else if c = 'f' then some '\x0c'
  else if c = 'n' then some '\n'
  else if c = 'r' then some '\r'
  else if c = 't' then some '\t'
  else none

/-- The code point of an escape, after its backslash and `u`.  Two escapes that are the halves of a
surrogate pair are one code point. -/
def readCodeEscape (cs : List Char) : Except Refusal (Nat × List Char) :=
  match cs with
  | h₁ :: h₂ :: h₃ :: h₄ :: next :: rest =>
    match hexFour? h₁ h₂ h₃ h₄ with
    | none => .error ⟨.codeEscape, cs.length + 1⟩
    | some n =>
      let alone := (n, next :: rest)
      match next, rest with
      | '\\', 'u' :: l₁ :: l₂ :: l₃ :: l₄ :: after :: rest' =>
        if isHighSurrogate n then
          match hexFour? l₁ l₂ l₃ l₄ with
          | none => .error ⟨.codeEscape, rest.length⟩
          | some m =>
            if isLowSurrogate m then
              .ok (joinSurrogates n m, after :: rest')
            else .ok alone
        else .ok alone
      | _, _ => .ok alone
  | _ => .error ⟨.codeEscape, cs.length + 1⟩

/-- What comes next in a string, or none at its closing quote.  The characters `start` follow its
opening quote. -/
def readElement (start : List Char) : List Char → Except Refusal (Option (List Char) × List Char)
  | [] => .error ⟨.unterminated, start.length + 1⟩
  | c :: rest =>
    if c = '\x22' then .ok (none, rest)
    else if c = '\\' then
      match rest with
      | [] => .error ⟨.unterminated, start.length + 1⟩
      | e :: rest =>
        if e = 'u' then
          match readCodeEscape rest with
          | .error r => .error r
          | .ok (n, rest) => .ok (some (charsOfCode n), rest)
        else
          match escapeLetter? e with
          | some d => .ok (some [d], rest)
          | none => .error ⟨.escape, rest.length + 2⟩
    else if c < ' ' then .error ⟨.control, rest.length + 1⟩
    else .ok (some [c], rest)

/-- An escape leaves less than it was given. -/
theorem length_readCodeEscape {cs rest : List Char} {n : Nat}
    (h : readCodeEscape cs = .ok (n, rest)) : rest.length < cs.length := by
  unfold readCodeEscape at h
  repeat' split at h
  all_goals simp only [reduceCtorEq, Except.ok.injEq, Prod.mk.injEq] at h
  all_goals obtain ⟨-, rfl⟩ := h
  all_goals simp only [List.length_cons]
  all_goals omega

/-- Each element of a string leaves less than it was given. -/
theorem length_readElement {start cs rest : List Char} {o : Option (List Char)}
    (h : readElement start cs = .ok (o, rest)) : rest.length < cs.length := by
  unfold readElement at h
  repeat' split at h
  all_goals simp only [reduceCtorEq, Except.ok.injEq, Prod.mk.injEq] at h
  case h_2 more _ _ _ _ hr =>
    have hlen := length_readCodeEscape hr
    simp only [List.length_cons, ← h.2]
    omega
  all_goals simp only [List.length_cons, ← h.2]
  all_goals omega

/-- The characters of a string up to its closing quote.  The characters `start` follow its opening
quote. -/
def readString (start cs : List Char) : Except Refusal (List Char × List Char) :=
  match _h : readElement start cs with
  | .error r => .error r
  | .ok (none, rest) => .ok ([], rest)
  | .ok (some ds, rest) => (readString start rest).map fun (es, rest) => (ds ++ es, rest)
  termination_by cs.length
  decreasing_by exact length_readElement _h

/-! ## Numbers -/

/-- The digits of the fraction, if a point and a digit come next, and what is left. -/
def readFraction (cs : List Char) : Option (List Char × List Char) :=
  match cs with
  | '.' :: d :: rest =>
    if d.isDigit then some (d :: rest.takeWhile Char.isDigit, rest.dropWhile Char.isDigit) else none
  | _ => none

/-- The digits of a whole part: a zero stands alone. -/
def readWhole (cs : List Char) : Option (List Char × List Char) :=
  match cs with
  | c :: rest =>
    if c = '0' then some ([c], rest)
    else if c.isDigit then some (c :: rest.takeWhile Char.isDigit, rest.dropWhile Char.isDigit)
    else none
  | [] => none

/-- A number.  It is a double if it has a fraction or an exponent; what looks like one but has no
digits is left unread.  A whole number with too many digits is refused. -/
def readNumber (cs : List Char) : Except Refusal (Scalar × List Char) :=
  let (negative, body) := match cs with
    | '-' :: body => (true, body)
    | body => (false, body)
  match readWhole body with
  | none => refuse .value cs
  | some (whole, rest) =>
    match readFraction rest, readExponent rest with
    | some (ds, rest), _ =>
      let (power, rest) := (readExponent rest).getD (0, rest)
      .ok (.num (Binary64.ofDecimal negative ⟨digitsValue (whole ++ ds), power - ds.length⟩), rest)
    | none, some (power, rest) =>
      .ok (.num (Binary64.ofDecimal negative ⟨digitsValue whole, power⟩), rest)
    | none, none =>
      if longestWhole < whole.length then .error ⟨.longWhole whole.length, cs.length⟩
      else .ok (.int (Binary64.signed negative (digitsValue whole)), rest)

/-! ## Values -/

/-- Write a member: at its name if that is present, else at the end. -/
def putMember (name : String) (v : Json) : List (String × Json) → List (String × Json)
  | [] => [(name, v)]
  | (n, w) :: rest => if n = name then (name, v) :: rest else (n, w) :: putMember name v rest

/-- The members in the order in which their names first occur, each with its last value. -/
def joinMembers (members : List (String × Json)) : List (String × Json) :=
  members.foldl (fun ms m => putMember m.1 m.2 ms) []

mutual

/-- A value; the first argument bounds how often readers call each other. -/
def readValue : Nat → List Char → Except Refusal (Json × List Char)
  | 0, cs => refuse .value cs
  | fuel + 1, cs =>
    match cs with
    | '\x22' :: rest =>
      (readString rest rest).map fun (s, rest) => (.str (String.ofList s), rest)
    | '\x7b' :: rest =>
      match skipSpace rest with
      | '\x7d' :: rest => .ok (.object [], rest)
      | rest => (readMembers fuel rest).map fun (ms, rest) => (.object (joinMembers ms), rest)
    | '[' :: rest =>
      match skipSpace rest with
      | ']' :: rest => .ok (.list [], rest)
      | rest => (readItems fuel rest).map fun (vs, rest) => (.list vs, rest)
    | 'n' :: 'u' :: 'l' :: 'l' :: rest => .ok (.null, rest)
    | 't' :: 'r' :: 'u' :: 'e' :: rest => .ok (.bool true, rest)
    | 'f' :: 'a' :: 'l' :: 's' :: 'e' :: rest => .ok (.bool false, rest)
    | 'N' :: 'a' :: 'N' :: rest => .ok (.num .undefined, rest)
    | 'I' :: 'n' :: 'f' :: 'i' :: 'n' :: 'i' :: 't' :: 'y' :: rest =>
      .ok (.num (.infinite false), rest)
    | '-' :: 'I' :: 'n' :: 'f' :: 'i' :: 'n' :: 'i' :: 't' :: 'y' :: rest =>
      .ok (.num (.infinite true), rest)
    | cs => (readNumber cs).map fun (n, rest) => (.scalar n, rest)

/-- The items of a list up to its closing bracket. -/
def readItems : Nat → List Char → Except Refusal (List Json × List Char)
  | 0, cs => refuse .value cs
  | fuel + 1, cs => do
    let (v, rest) ← readValue fuel cs
    match skipSpace rest with
    | ']' :: rest => .ok ([v], rest)
    | ',' :: rest =>
      let (vs, rest) ← readItems fuel (skipSpace rest)
      .ok (v :: vs, rest)
    | rest => refuse .comma rest

/-- The members of an object up to its closing bracket. -/
def readMembers : Nat → List Char → Except Refusal ((List (String × Json)) × List Char)
  | 0, cs => refuse .value cs
  | fuel + 1, cs =>
    match cs with
    | '\x22' :: rest => do
      let (name, rest) ← readString rest rest
      match skipSpace rest with
      | ':' :: rest =>
        let (v, rest) ← readValue fuel (skipSpace rest)
        match skipSpace rest with
        | '\x7d' :: rest => .ok ([(String.ofList name, v)], rest)
        | ',' :: rest =>
          let (ms, rest) ← readMembers fuel (skipSpace rest)
          .ok ((String.ofList name, v) :: ms, rest)
        | rest => refuse .comma rest
      | rest => refuse .colon rest
    | cs => refuse .name cs

end

/-- The value of a text that holds nothing else. -/
def readText (cs : List Char) : Except Refusal Json :=
  match cs with
  | c :: _ =>
    if c = Char.ofNat 0xfeff then .error ⟨.byteOrderMark, cs.length⟩
    else readWholeText cs
  | [] => readWholeText []
where
  readWholeText (cs : List Char) : Except Refusal Json := do
    let (v, rest) ← readValue (2 * cs.length + 2) (skipSpace cs)
    match skipSpace rest with
    | [] => .ok v
    | rest => .error ⟨.extra, rest.length⟩

/-- The value of a JSON text, or where and why it is refused. -/
def Json.decode (text : List Char) : Except JsonFault Json :=
  match readText text with
  | .ok v => .ok v
  | .error r => .error (faultAt text r)

end DashboardSurvey
