import DashboardSurvey.Yaml.Scalar

/-!
# The order of sets

A set does not keep the order in which its members came.  Numbers lie in the slots of a table, each
in the slot of its remainder or, if that is taken, in another one that follows from it, and are
shown slot by slot.

* `slotNumber?` — by what a number is put into a slot.
* `freeSlot` — the slot for a number.
* `setOrder` — the members of a set in the order in which they are shown.
-/

namespace DashboardSurvey

/-- The number by which a number is put into a slot: its remainder modulo a prime, with its sign; of
a fraction the quotient in that field.  The number minus one is kept for another use. -/
def slotNumber? : YamlScalar → Option Int
  | .basic (.bool b) => some b.toInt
  | .basic (.int n) => some (settled (n.sign * (n.natAbs % slotPrime : Nat)))
  | .basic (.num (.finite x)) =>
    let (num, den) := Binary64.ratio x
    let halvings := 61 - Nat.log2 den % 61
    let r := num % slotPrime * (Nat.pow 2 halvings % slotPrime) % slotPrime
    some (settled (if x.negative then -r else r))
  | .basic (.num (.infinite negative)) => some (if negative then -314159 else 314159)
  | _ => none
where
  /-- the prime -/
  slotPrime : Nat := Nat.pow 2 61 - 1
  /-- the number, unless it is minus one -/
  settled (n : Int) : Int := if n = -1 then -2 else n

/-- The first free slot of those that are tried for a number: a run of ten from a slot on, if it
fits into the table, and after it a run somewhere else. -/
def freeSlot (table : Array (Option YamlScalar)) (slot perturb : Nat) : Nat → Nat
  | 0 => slot
  | fuel + 1 =>
    let run := if slot + 9 < table.size then 10 else 1
    match (List.range run).find? fun k => ((table[slot + k]?).getD none).isNone with
    | some k => slot + k
    | none =>
      let perturb := perturb / 32
      freeSlot table ((slot * 5 + 1 + perturb) % table.size) perturb fuel

/-- The order in which a set shows its members.  Numbers lie in the slots of a table; what else
there is stays in the order in which it came. -/
def setOrder (members : List YamlScalar) : List YamlScalar :=
  match members.mapM slotNumber? with
  | none => members
  | some numbers =>
    let size := if members.length ≤ 4 then 8 else Nat.pow 2 (Nat.log2 (2 * members.length) + 1)
    let empty : Array (Option YamlScalar) := Array.replicate size none
    let put (table : Array (Option YamlScalar)) (e : YamlScalar × Int) :=
      let n := (e.2.emod (Nat.pow 2 64 : Nat)).toNat
      table.setIfInBounds (freeSlot table (n % size) n (size + 16)) (some e.1)
    ((members.zip numbers).foldl put empty).toList.filterMap fun o => o

end DashboardSurvey
