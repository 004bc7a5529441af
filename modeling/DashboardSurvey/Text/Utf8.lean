import DashboardSurvey.Text.Quoted

/-!
# Text from bytes

Files are read as UTF-8 and must be well formed throughout.  The first place where they are not is
reported with the bytes at fault, as far as they had been accepted.

* `Utf8Fault` — where the bytes stop being text, and why.
* `decodeUtf8` — the text, or the first fault.
* `replaceFaults` — the text, with a sign where there is a fault.
* `unifyNewlines` — carriage returns, with or without a line feed, become line feeds.
-/

namespace DashboardSurvey

/-- Why bytes are not text. -/
inductive Utf8Reason where
  | start
  | continuation
  | truncated
deriving DecidableEq, Repr

/-- The first fault: `count` bytes from `position` on; `byte` is the first of them. -/
structure Utf8Fault where
  byte : UInt8
  position : Nat
  count : Nat
  reason : Utf8Reason
deriving DecidableEq, Repr

/-- The wording of a reason. -/
def Utf8Reason.message : Utf8Reason → String
  | .start => "invalid start byte"
  | .continuation => "invalid continuation byte"
  | .truncated => "unexpected end of data"

/-- The wording of a fault: of several bytes the first and the last position are told, of one the
byte. -/
def Utf8Fault.message (f : Utf8Fault) : String :=
  let place :=
    if f.count = 1 then
      "byte 0x" ++ String.ofList (hexDigits 2 f.byte.toNat) ++ " in position "
        ++ toString f.position
    else
      "bytes in position " ++ toString f.position ++ "-" ++ toString (f.position + f.count - 1)
  "'utf-8' codec can't decode " ++ place ++ ": " ++ f.reason.message

/-- The fault as it is told when the bytes come piece by piece: of a character that the end cuts off
only the bytes that are left over are counted. -/
def Utf8Fault.piecewise (f : Utf8Fault) : Utf8Fault :=
  if f.reason = .truncated then { f with position := 0 } else f

/-- Is the byte a continuation byte? -/
def isContinuation (b : UInt8) : Bool := 0x80 ≤ b && b < 0xc0

/-- The six bits that a continuation byte carries. -/
def continuationBits (b : UInt8) : Nat := b.toNat % 64

/-- May `c` follow the leading byte `b` of three?  Overlong forms may not, nor, unless `loose`, the
halves of a surrogate pair. -/
def secondOfThree (loose : Bool) (b c : UInt8) : Bool :=
  isContinuation c && !(b == 0xe0 && c < 0xa0) && (loose || !(b == 0xed && 0xa0 ≤ c))

/-- May `c` follow the leading byte `b` of four?  Overlong forms may not, nor code points beyond the
last one. -/
def secondOfFour (b c : UInt8) : Bool :=
  isContinuation c && !(b == 0xf0 && c < 0x90) && !(b == 0xf4 && 0x90 ≤ c)

/-- Put a code point before what the rest decodes to. -/
def consChar (n : Nat) (rest : Except Utf8Fault (List Char)) : Except Utf8Fault (List Char) :=
  rest.map (charsOfCode n ++ ·)

/-- Decode bytes of which the first stands at `pos`. -/
def decodeUtf8From (loose : Bool) (pos : Nat) : List UInt8 → Except Utf8Fault (List Char)
  | [] => .ok []
  | b :: rest =>
    if b < 0x80 then consChar b.toNat (decodeUtf8From loose (pos + 1) rest)
    else if 0xc2 ≤ b && b < 0xe0 then
      match rest with
      | [] => .error ⟨b, pos, 1, .truncated⟩
      | c :: rest =>
        if isContinuation c then
          consChar (b.toNat % 32 * 64 + continuationBits c) (decodeUtf8From loose (pos + 2) rest)
        else .error ⟨b, pos, 1, .continuation⟩
    else if 0xe0 ≤ b && b < 0xf0 then
      match rest with
      | [] => .error ⟨b, pos, 1, .truncated⟩
      | c :: rest =>
        if secondOfThree loose b c then
          match rest with
          | [] => .error ⟨b, pos, 2, .truncated⟩
          | d :: rest =>
            if isContinuation d then
              consChar ((b.toNat % 16 * 64 + continuationBits c) * 64 + continuationBits d)
                (decodeUtf8From loose (pos + 3) rest)
            else .error ⟨b, pos, 2, .continuation⟩
        else .error ⟨b, pos, 1, .continuation⟩
    else if 0xf0 ≤ b && b < 0xf5 then
      match rest with
      | [] => .error ⟨b, pos, 1, .truncated⟩
      | c :: rest =>
        if secondOfFour b c then
          match rest with
          | [] => .error ⟨b, pos, 2, .truncated⟩
          | d :: rest =>
            if isContinuation d then
              match rest with
              | [] => .error ⟨b, pos, 3, .truncated⟩
              | e :: rest =>
                if isContinuation e then
                  consChar
                    (((b.toNat % 8 * 64 + continuationBits c) * 64 + continuationBits d) * 64
                      + continuationBits e)
                    (decodeUtf8From loose (pos + 4) rest)
                else .error ⟨b, pos, 3, .continuation⟩
            else .error ⟨b, pos, 2, .continuation⟩
        else .error ⟨b, pos, 1, .continuation⟩
    else .error ⟨b, pos, 1, .start⟩

/-- The text that the bytes encode, or the first fault. -/
def decodeUtf8 (bytes : List UInt8) : Except Utf8Fault (List Char) :=
  decodeUtf8From false 0 bytes

/-- The text of bytes, with a replacement character for each run of bytes that is no text. -/
def replaceFaults (bytes : List UInt8) : List Char :=
  match bytes with
  | [] => []
  | b :: rest =>
    match decodeUtf8 (b :: rest) with
    | .ok cs => cs
    | .error f =>
      ((decodeUtf8 ((b :: rest).take f.position)).toOption.getD [])
        ++ Char.ofNat 0xfffd :: replaceFaults (rest.drop (f.position + f.count - 1))
  termination_by bytes.length
  decreasing_by
    simp only [List.length_drop, List.length_cons]
    omega

/-- Carriage returns, with or without a line feed after them, become line feeds. -/
def unifyNewlines : List Char → List Char
  | [] => []
  | '\r' :: '\n' :: rest => '\n' :: unifyNewlines rest
  | c :: rest => (if c = '\r' then '\n' else c) :: unifyNewlines rest

theorem unifyNewlines_cons {c : Char} (hc : c ≠ '\r') (cs : List Char) :
    unifyNewlines (c :: cs) = c :: unifyNewlines cs := by
  rw [unifyNewlines.eq_def]
  split
  · simp_all
  · simp_all
  · simp_all

theorem unifyNewlines_append (cs : List Char) (hcs : '\r' ∉ cs) (rest : List Char) :
    unifyNewlines (cs ++ rest) = cs ++ unifyNewlines rest := by
  induction cs with
  | nil => rfl
  | cons c cs ih =>
    rw [List.mem_cons, not_or] at hcs
    rw [List.cons_append, unifyNewlines_cons (Ne.symm hcs.1), ih hcs.2, List.cons_append]

/-- Without carriage returns a text stays as it is. -/
theorem unifyNewlines_of_not_mem {cs : List Char} (h : '\r' ∉ cs) : unifyNewlines cs = cs := by
  simpa [unifyNewlines] using unifyNewlines_append cs h []

/-- The bytes of a text in UTF-8. -/
def utf8Bytes (s : String) : List UInt8 := s.toUTF8.toList

end DashboardSurvey
