import DashboardSurvey.Value.Order
import Mathlib.Algebra.Order.Field.Power
import Mathlib.Data.Rat.Cast.Order
import Mathlib.Tactic.FieldSimp
import Mathlib.Tactic.Linarith
import Mathlib.Tactic.NormNum
import Mathlib.Tactic.Ring

/-!
# When two scalars are equal

Tables find their entries by key, and a key is computed.  Whether two scalars are equal can also be
said without keys: texts by their characters, and numbers of any two kinds by their exact values,
neither of which is below the other.  The two notions agree, which rests on the normal form of
doubles: a double other than zero is known by its value.

* `Finite.value` — the value of a finite double, as a fraction.
* `lt_finite_iff`, `intLt_iff`, `ltInt_iff`, `toInt?_eq_some_iff` — comparisons and whole values.
* `Finite.eq_of_value_eq` — **the normal form**: doubles with one value are the same or zero.
* `Scalar.Equal`, **`Scalar.equal_iff_key_eq`** — equality, and that keys decide it.
-/

namespace DashboardSurvey

/-! ## Values of doubles -/

/-- The value of a finite double. -/
def Finite.value (x : Finite) : ℚ :=
  (if x.negative then -1 else 1) * x.mantissa * 2 ^ x.exponent

namespace Binary64

lemma ratio_den_pos (x : Finite) : 0 < (ratio x).2 := by
  rw [ratio, scaleTwo]
  split_ifs
  · exact Nat.one_pos
  · exact Nat.two_pow_pos _

lemma ratio_eq (x : Finite) : ((ratio x).1 : ℚ) / (ratio x).2 = x.mantissa * 2 ^ x.exponent := by
  rw [ratio, scaleTwo]
  split_ifs with h
  · obtain ⟨n, hn⟩ := Int.eq_ofNat_of_zero_le h
    simp [hn, twoTo]
  · obtain ⟨n, hn⟩ := Int.eq_ofNat_of_zero_le (show 0 ≤ -x.exponent by omega)
    have he : x.exponent = -(n : ℤ) := by omega
    simp [he, twoTo, div_eq_mul_inv]

lemma signed_ratio_eq (x : Finite) :
    (signed x.negative (ratio x).1 : ℚ) / (ratio x).2 = x.value := by
  have h := ratio_eq x
  rw [Finite.value, signed]
  split_ifs
  · push_cast
    rw [neg_div, h]
    ring
  · push_cast
    rw [h]
    ring

/-- The order of finite doubles is that of their values. -/
lemma lt_finite_iff (x y : Finite) :
    lt (.finite x) (.finite y) = true ↔ x.value < y.value := by
  have hx : (0 : ℚ) < (ratio x).2 := by exact_mod_cast ratio_den_pos x
  have hy : (0 : ℚ) < (ratio y).2 := by exact_mod_cast ratio_den_pos y
  rw [← signed_ratio_eq, ← signed_ratio_eq, div_lt_div_iff₀ hx hy]
  simp only [lt, decide_eq_true_eq]
  exact_mod_cast Iff.rfl

lemma intLt_iff (n : Int) (y : Finite) : intLt n (.finite y) = true ↔ (n : ℚ) < y.value := by
  have hy : (0 : ℚ) < (ratio y).2 := by exact_mod_cast ratio_den_pos y
  rw [← signed_ratio_eq, lt_div_iff₀ hy]
  simp only [intLt, decide_eq_true_eq]
  exact_mod_cast Iff.rfl

lemma ltInt_iff (x : Finite) (n : Int) : ltInt (.finite x) n = true ↔ x.value < n := by
  have hx : (0 : ℚ) < (ratio x).2 := by exact_mod_cast ratio_den_pos x
  rw [← signed_ratio_eq, div_lt_iff₀ hx]
  simp only [ltInt, decide_eq_true_eq]
  exact_mod_cast Iff.rfl

/-- A finite double is a whole number exactly if its value is. -/
lemma toInt?_eq_some_iff (x : Finite) (n : Int) :
    toInt? (.finite x) = some n ↔ x.value = n := by
  have hpos := ratio_den_pos x
  have hne : ((ratio x).2 : ℚ) ≠ 0 := by exact_mod_cast hpos.ne'
  have hsigned : ∀ a b : ℕ, signed x.negative (a * b) = signed x.negative a * b := by
    intro a b
    rw [signed, signed]
    split_ifs <;> push_cast <;> ring
  rw [← signed_ratio_eq, div_eq_iff hne]
  have hcast : (signed x.negative (ratio x).1 : ℚ) = n * (ratio x).2
      ↔ signed x.negative (ratio x).1 = n * (ratio x).2 := by exact_mod_cast Iff.rfl
  rw [hcast, toInt?]
  simp only [Option.ite_none_right_eq_some, Option.some.injEq]
  constructor
  · rintro ⟨hmod, rfl⟩
    rw [← hsigned, Nat.div_mul_cancel (Nat.dvd_of_mod_eq_zero hmod)]
  · intro h
    have hdvd : (ratio x).2 ∣ (ratio x).1 := by
      have habs : (signed x.negative (ratio x).1).natAbs = (ratio x).1 := by
        rw [signed]
        split_ifs <;> simp
      rw [← habs, h, Int.natAbs_mul, Int.natAbs_natCast]
      exact Nat.dvd_mul_left _ _
    refine ⟨Nat.mod_eq_zero_of_dvd hdvd, ?_⟩
    have hden : ((ratio x).2 : Int) ≠ 0 := by exact_mod_cast hpos.ne'
    refine Int.eq_of_mul_eq_mul_right hden ?_
    rw [← hsigned, Nat.div_mul_cancel hdvd, h]

end Binary64

/-! ## The normal form -/

namespace Finite

lemma value_eq_zero_iff (x : Finite) : x.value = 0 ↔ x.mantissa = 0 := by
  have hpow : (2 : ℚ) ^ x.exponent ≠ 0 := zpow_ne_zero _ (by norm_num)
  rw [value]
  split_ifs <;> simp [hpow]

/-- With one magnitude the exponents agree: otherwise the larger one would leave a bit unused. -/
lemma exponent_le_of_magnitude_eq {x y : Finite}
    (h : (x.mantissa : ℚ) * 2 ^ x.exponent = y.mantissa * 2 ^ y.exponent) :
    y.exponent ≤ x.exponent := by
  by_contra hlt
  obtain ⟨n, hn⟩ := Int.eq_ofNat_of_zero_le (show 0 ≤ y.exponent - x.exponent - 1 by omega)
  have he : y.exponent = x.exponent + (n + 1 : ℕ) := by push_cast; omega
  rw [he, zpow_add₀ (by norm_num), zpow_natCast, mul_comm ((2 : ℚ) ^ x.exponent), ← mul_assoc] at h
  have hmul := mul_right_cancel₀ (zpow_ne_zero _ (by norm_num)) h
  have hnat : x.mantissa = y.mantissa * 2 ^ (n + 1) := by exact_mod_cast hmul
  -- `y` is not at the least exponent, so it uses all 53 bits, and `x` would need another one
  have hx : x.mantissa < 2 ^ 53 := x.normal.1
  have hy : 2 ^ 52 ≤ y.mantissa := by
    rcases y.normal.2.2.2 with hbits | hleast
    · exact hbits
    · have := x.normal.2.1
      omega
  have hpow : 2 ≤ 2 ^ (n + 1) := by
    rw [pow_succ]
    have := Nat.one_le_two_pow (n := n)
    omega
  have := Nat.mul_le_mul hy hpow
  omega

/-- **The normal form.**  A finite double is known by its value, unless it is zero. -/
theorem eq_of_value_eq {x y : Finite} (h : x.value = y.value) (hne : x.value ≠ 0) : x = y := by
  have hx := mt (value_eq_zero_iff x).mpr hne
  have hy := mt (value_eq_zero_iff y).mpr (h ▸ hne)
  have hpow : ∀ e : ℤ, (0 : ℚ) < 2 ^ e := fun e => zpow_pos (by norm_num) e
  have hmx : (0 : ℚ) < x.mantissa * 2 ^ x.exponent :=
    mul_pos (by exact_mod_cast Nat.pos_of_ne_zero hx) (hpow _)
  have hmy : (0 : ℚ) < y.mantissa * 2 ^ y.exponent :=
    mul_pos (by exact_mod_cast Nat.pos_of_ne_zero hy) (hpow _)
  have hsign : x.negative = y.negative
      ∧ (x.mantissa : ℚ) * 2 ^ x.exponent = y.mantissa * 2 ^ y.exponent := by
    rw [value, value] at h
    cases hxs : x.negative <;> cases hys : y.negative <;>
      simp only [hxs, hys, if_true, Bool.false_eq_true, if_false, one_mul,
        neg_mul] at h
    · exact ⟨rfl, h⟩
    · linarith
    · linarith
    · exact ⟨rfl, neg_injective h⟩
  obtain ⟨hneg, hmag⟩ := hsign
  have hexp : x.exponent = y.exponent :=
    le_antisymm (exponent_le_of_magnitude_eq hmag.symm) (exponent_le_of_magnitude_eq hmag)
  have hman : x.mantissa = y.mantissa := by
    rw [hexp] at hmag
    exact_mod_cast mul_right_cancel₀ (hpow _).ne' hmag
  obtain ⟨xn, xm, xe, _⟩ := x
  obtain ⟨yn, ym, ye, _⟩ := y
  simp only at hneg hman hexp
  subst hneg hman hexp
  rfl

end Finite

/-! ## Equality -/

/-- Two numbers are equal if neither is below the other.  The double that is not a number equals
nothing. -/
def Number.Equal (x y : Number) : Prop :=
  x ≠ .real .undefined ∧ y ≠ .real .undefined ∧ x.lt y = false ∧ y.lt x = false

/-- Two scalars are equal if they are the same, or numbers of equal value; truth values are numbers
here. -/
def Scalar.Equal (a b : Scalar) : Prop :=
  (a.number? = none ∧ a = b) ∨ ∃ x ∈ a.number?, ∃ y ∈ b.number?, x.Equal y

instance (x y : Number) : Decidable (x.Equal y) :=
  inferInstanceAs (Decidable (_ ∧ _ ∧ _ ∧ _))

instance (a b : Scalar) : Decidable (a.Equal b) :=
  inferInstanceAs (Decidable ((_ ∧ _) ∨ ∃ x ∈ a.number?, ∃ y ∈ b.number?, x.Equal y))

namespace Number

lemma Equal.symm {x y : Number} (h : x.Equal y) : y.Equal x := ⟨h.2.1, h.1, h.2.2.2, h.2.2.1⟩

lemma equal_comm {x y : Number} : x.Equal y ↔ y.Equal x := ⟨Equal.symm, Equal.symm⟩

/-- What a number is as a key. -/
def key : Number → Key
  | .whole n => .whole n
  | .real x => Scalar.doubleKey x

lemma doubleKey_finite_eq_whole_iff (x : Finite) (n : Int) :
    Scalar.doubleKey (.finite x) = .whole n ↔ x.value = n := by
  rw [← Binary64.toInt?_eq_some_iff, Scalar.doubleKey]
  cases Binary64.toInt? (.finite x) <;> simp

lemma whole_equal_finite_iff (n : Int) (x : Finite) :
    (whole n).Equal (.real (.finite x)) ↔ x.value = n := by
  simp only [Equal, lt, ne_eq, reduceCtorEq, not_false_eq_true, true_and, real.injEq,
    ← Bool.not_eq_true, Binary64.intLt_iff, Binary64.ltInt_iff, not_lt]
  exact ⟨fun h => le_antisymm h.1 h.2, fun h => ⟨h.le, h.ge⟩⟩

lemma finite_equal_iff (x y : Finite) :
    (real (.finite x)).Equal (.real (.finite y)) ↔ x.value = y.value := by
  simp only [Equal, lt, ne_eq, reduceCtorEq, not_false_eq_true, true_and, real.injEq,
    ← Bool.not_eq_true, Binary64.lt_finite_iff, not_lt]
  exact ⟨fun h => le_antisymm h.2 h.1, fun h => ⟨h.ge, h.le⟩⟩

/-- Finite doubles are the same key exactly if they have one value. -/
lemma doubleKey_finite_eq_iff (x y : Finite) :
    Scalar.doubleKey (.finite x) = Scalar.doubleKey (.finite y) ↔ x.value = y.value := by
  by_cases hwhole : ∃ n : Int, x.value = n
  · obtain ⟨n, hn⟩ := hwhole
    rw [(doubleKey_finite_eq_whole_iff x n).mpr hn, eq_comm, doubleKey_finite_eq_whole_iff, hn]
    exact eq_comm
  · push Not at hwhole
    have hfraction : ∀ z : Finite, (∀ n : Int, z.value ≠ n) →
        Scalar.doubleKey (.finite z) = .fraction (.finite z) := by
      intro z hz
      have hnone : Binary64.toInt? (.finite z) = none :=
        Option.eq_none_iff_forall_ne_some.mpr fun n hn =>
          hz n ((Binary64.toInt?_eq_some_iff z n).mp hn)
      rw [Scalar.doubleKey, hnone]
    constructor
    · intro hkey
      rw [hfraction x hwhole] at hkey
      by_cases hy : ∃ n : Int, y.value = n
      · obtain ⟨n, hn⟩ := hy
        rw [(doubleKey_finite_eq_whole_iff y n).mpr hn] at hkey
        cases hkey
      · push Not at hy
        rw [hfraction y hy] at hkey
        cases hkey
        rfl
    · intro h
      rw [Finite.eq_of_value_eq h (by exact_mod_cast hwhole 0)]

/-- A finite number never has the key of one that is not. -/
lemma doubleKey_finite_ne {z : Finite} {w : Binary64} (hw : w.isFinite = false) :
    Scalar.doubleKey (.finite z) ≠ .fraction w := by
  intro hkey
  rw [Scalar.doubleKey] at hkey
  cases hz : Binary64.toInt? (.finite z) with
  | some n =>
      rw [hz] at hkey
      cases hkey
  | none =>
      rw [hz] at hkey
      cases hkey
      cases hw

/-- Numbers are equal exactly if they are the same key. -/
theorem equal_iff_key_eq {x y : Number} (hx : x ≠ .real .undefined) :
    x.Equal y ↔ x.key = y.key := by
  have hinfinite : ∀ s, Scalar.doubleKey (.infinite s) = .fraction (.infinite s) := fun s => rfl
  have hundefined : Scalar.doubleKey .undefined = .fraction .undefined := rfl
  cases x with
  | whole m =>
      cases y with
      | whole n =>
          simp only [Equal, lt, key, ne_eq, reduceCtorEq, not_false_eq_true, true_and,
            decide_eq_false_iff_not, not_lt, Key.whole.injEq]
          omega
      | real y =>
          cases y with
          | finite y =>
              rw [whole_equal_finite_iff, key, key, eq_comm (a := Key.whole m),
                doubleKey_finite_eq_whole_iff]
          | infinite s => cases s <;> simp [Equal, lt, key, hinfinite, Binary64.intLt, Binary64.ltInt]
          | undefined => simp [Equal, key, hundefined]
  | real x =>
      cases x with
      | finite x =>
          cases y with
          | whole n =>
              rw [equal_comm, whole_equal_finite_iff, key, key, doubleKey_finite_eq_whole_iff]
          | real y =>
              cases y with
              | finite y => rw [finite_equal_iff, key, key, doubleKey_finite_eq_iff]
              | infinite s =>
                  have hkey := doubleKey_finite_ne (z := x) (w := .infinite s) rfl
                  cases s <;> simp [Equal, lt, key, hinfinite, Binary64.lt, hkey]
              | undefined =>
                  have hkey := doubleKey_finite_ne (z := x) (w := .undefined) rfl
                  simp [Equal, key, hundefined, hkey]
      | infinite s =>
          cases y with
          | whole n => cases s <;> simp [Equal, lt, key, hinfinite, Binary64.intLt, Binary64.ltInt]
          | real y =>
              cases y with
              | finite y =>
                  have hkey := (doubleKey_finite_ne (z := y) (w := .infinite s) rfl).symm
                  cases s <;> simp [Equal, lt, key, hinfinite, Binary64.lt, hkey]
              | infinite r => cases s <;> cases r <;> simp [Equal, lt, key, hinfinite, Binary64.lt]
              | undefined => simp [Equal, key, hundefined, hinfinite]
      | undefined => exact absurd rfl hx

end Number

namespace Scalar

/-- The key of a number is that of its value. -/
lemma key_of_number? {a : Scalar} {x : Number} (h : a.number? = some x) : a.key = x.key := by
  cases a with
  | null => cases h
  | str s => cases h
  | bool b => cases h; rfl
  | int n => cases h; rfl
  | num y => cases h; rfl

/-- A scalar that is no number shares its key with nothing else. -/
lemma key_eq_iff_of_not_number {a b : Scalar} (ha : a.number? = none) :
    b.key = a.key ↔ b = a := by
  cases a with
  | null => exact key_eq_null_iff
  | str s => exact key_eq_text_iff
  | bool b => cases ha
  | int n => cases ha
  | num x => cases ha

/-- **Equality.**  A scalar that is not the undefined number is equal to another exactly if the two
are the same key. -/
theorem equal_iff_key_eq {a b : Scalar} (ha : a ≠ .num .undefined) :
    a.Equal b ↔ a.key = b.key := by
  cases hx : a.number? with
  | some x =>
      have hdefined : x ≠ .real .undefined := by
        rintro rfl
        cases a <;> cases hx
        exact ha rfl
      cases hy : b.number? with
      | some y =>
          rw [key_of_number? hx, key_of_number? hy, ← Number.equal_iff_key_eq hdefined]
          simp [Equal, hx, hy]
      | none =>
          rw [key_eq_iff_of_not_number hy]
          simp only [Equal, hx, hy, reduceCtorEq, false_and, Option.mem_def, and_false, exists_false,
            or_false, false_iff]
          rintro rfl
          rw [hx] at hy
          cases hy
  | none =>
      rw [eq_comm (a := a.key), key_eq_iff_of_not_number hx]
      simp [Equal, hx, eq_comm]

/-- One in each of its forms is one scalar; the undefined number equals nothing. -/
example : (int 1).Equal (bool true) ∧ (int 1).Equal (num (Binary64.ofInt 1))
    ∧ ¬ (int 1).Equal (str "1") ∧ ¬ (num .undefined).Equal (num .undefined) := by
  decide

end Scalar

end DashboardSurvey
