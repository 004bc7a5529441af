import DashboardSurvey.Value.Scalar
import Mathlib.Data.Nat.Log
import Mathlib.Data.Rat.Cast.Order
import Mathlib.Tactic.FieldSimp
import Mathlib.Tactic.Linarith
import Mathlib.Tactic.Positivity
import Mathlib.Tactic.Ring

/-!
# The range of the doubles

Rounding takes a number to a finite double as long as it lies below the point halfway between the
largest double and the power of two above it; that point itself and all beyond become infinite.  So
it is for the decimals that are read, whose order is looked at before any power is computed.

* `Binary64.overflow` — the point from which on numbers become infinite.
* `scaleTwo_lt_iff`, `leadingBit_spec`, `roundQuotient_lt_iff` — the steps of rounding.
* **`Binary64.isFinite_ofRatio`**, **`Binary64.isFinite_ofDecimal`** — what is read as finite.
* `Scalar.IsDefined`, `Scalar.IsFinite` — scalars with no double that is undefined, or not finite.
-/

namespace DashboardSurvey

namespace Binary64

/-- Halfway between the largest finite double, `(2 ^ 53 - 1) * 2 ^ 971`, and `2 ^ 1024`. -/
def overflow : ℕ := (2 ^ 54 - 1) * 2 ^ 970

/-! ## Powers of two -/

lemma scaleTwo_pos (e : Int) : 0 < (scaleTwo 1 e).1 ∧ 0 < (scaleTwo 1 e).2 := by
  unfold scaleTwo
  split_ifs <;> simp

lemma scaleTwo_one (e : Int) : ((scaleTwo 1 e).1 : ℚ) = 2 ^ e * (scaleTwo 1 e).2 := by
  unfold scaleTwo
  split_ifs with he
  · obtain ⟨n, rfl⟩ := Int.eq_ofNat_of_zero_le he
    simp
  · obtain ⟨n, hn⟩ := Int.eq_ofNat_of_zero_le (by omega : 0 ≤ -e)
    obtain rfl : e = -n := by omega
    simp

/-- A fraction and a power of two are compared by multiplying crosswise. -/
lemma scaleTwo_lt_iff (e : Int) (num : ℕ) {den : ℕ} (hden : 0 < den) (c k : ℕ) :
    c * (num * (scaleTwo 1 e).2) < k * (den * (scaleTwo 1 e).1)
      ↔ (c : ℚ) * (num / den) < k * 2 ^ e := by
  obtain ⟨-, hq⟩ := scaleTwo_pos e
  have hden' : (0 : ℚ) < den := by exact_mod_cast hden
  have hq' : (0 : ℚ) < (scaleTwo 1 e).2 := by exact_mod_cast hq
  rw [← @Nat.cast_lt ℚ]
  push_cast
  rw [scaleTwo_one, ← mul_div_assoc, div_lt_iff₀ hden']
  constructor
  · intro h
    refine lt_of_mul_lt_mul_right ?_ hq'.le
    linarith
  · intro h
    have := mul_lt_mul_of_pos_right h hq'
    linarith

/-- The exponent of the leading bit is the greatest one whose power is not above the fraction. -/
lemma leadingBit_spec {num den : ℕ} (hnum : 0 < num) (hden : 0 < den) :
    (2 : ℚ) ^ leadingBit num den ≤ num / den ∧ (num / den : ℚ) < 2 ^ (leadingBit num den + 1) := by
  have hden' : (0 : ℚ) < den := by exact_mod_cast hden
  have hlow : (2 : ℚ) ^ ((num.log2 : ℤ) - den.log2 - 1) < num / den := by
    have hn : (2 : ℚ) ^ num.log2 ≤ num := by exact_mod_cast Nat.log2_self_le hnum.ne'
    have hd : (den : ℚ) < 2 ^ (den.log2 + 1) := by exact_mod_cast Nat.lt_log2_self
    rw [lt_div_iff₀ hden', show (num.log2 : ℤ) - den.log2 - 1 = num.log2 - (den.log2 + 1 : ℕ) by
      push_cast; ring, zpow_sub₀ two_ne_zero, zpow_natCast, zpow_natCast, div_mul_eq_mul_div,
      div_lt_iff₀ (by positivity)]
    exact mul_lt_mul' hn hd hden'.le (by exact_mod_cast hnum)
  have hhigh : (num / den : ℚ) < 2 ^ ((num.log2 : ℤ) - den.log2 + 1) := by
    have hn : (num : ℚ) < 2 ^ (num.log2 + 1) := by exact_mod_cast Nat.lt_log2_self
    have hd : (2 : ℚ) ^ den.log2 ≤ den := by exact_mod_cast Nat.log2_self_le hden.ne'
    rw [div_lt_iff₀ hden', show (num.log2 : ℤ) - den.log2 + 1 = (num.log2 + 1 : ℕ) - den.log2 by
      push_cast; ring, zpow_sub₀ two_ne_zero, zpow_natCast, zpow_natCast, div_mul_eq_mul_div,
      lt_div_iff₀ (by positivity)]
    exact mul_lt_mul hn hd (by positivity) (by positivity)
  have hguess := scaleTwo_lt_iff (num.log2 - den.log2) num hden 1 1
  simp only [one_mul, Nat.cast_one] at hguess
  unfold leadingBit
  dsimp only
  split_ifs with h
  · rw [Nat.mul_comm, ← not_lt, hguess, not_lt] at h
    exact ⟨h, hhigh⟩
  · rw [Nat.mul_comm, ← not_lt, hguess, not_not] at h
    rw [sub_add_cancel]
    exact ⟨hlow.le, h⟩

/-! ## Rounding -/

/-- The quotient is rounded to a neighbour. -/
lemma roundQuotient_bounds (a b : ℕ) :
    a / b ≤ roundQuotient a b ∧ roundQuotient a b ≤ a / b + 1 := by
  unfold roundQuotient
  dsimp only
  split_ifs <;> omega

/-- A half goes to the even neighbour, so to stay below an even number half a unit is needed. -/
lemma roundQuotient_lt_iff {a b k : ℕ} (hb : 0 < b) :
    roundQuotient a b < 2 * (k + 1) ↔ 2 * a < (4 * k + 3) * b := by
  have hdiv := Nat.div_add_mod a b
  have hmod := Nat.mod_lt a hb
  have hproduct : (4 * k + 3) * b = 4 * (b * k) + 3 * b := by ring
  obtain ⟨hle, hge⟩ := roundQuotient_bounds a b
  rcases lt_trichotomy (a / b) (2 * k + 1) with hq | hq | hq
  · have hbound : b * (a / b) ≤ b * (2 * k) := Nat.mul_le_mul_left b (by omega)
    have hexpand : b * (2 * k) = 2 * (b * k) := by ring
    omega
  · -- the remainder decides, and exactly half a unit goes up
    have hexpand : b * (2 * k + 1) = 2 * (b * k) + b := by ring
    unfold roundQuotient
    dsimp only
    rw [hq] at hdiv ⊢
    split_ifs <;> omega
  · have hbound : b * (2 * k + 2) ≤ b * (a / b) := Nat.mul_le_mul_left b hq
    have hexpand : b * (2 * k + 2) = 2 * (b * k) + 2 * b := by ring
    omega

lemma isFinite_ofParts (negative : Bool) (m : ℕ) (e : Int) :
    (ofParts negative m e).isFinite = true ↔ Normal m e := by
  unfold ofParts
  split_ifs with h <;> simp [isFinite, h]

/-- The parts that rounding comes to, for a fraction between two powers of two. -/
structure Rounded (num den : ℕ) (e : Int) (m : ℕ) : Prop where
  least : -1074 ≤ e
  le : m ≤ 2 ^ 53
  lt_iff : m < 2 ^ 53 ↔ 2 * (num / den : ℚ) < (2 ^ 54 - 1) * 2 ^ e
  high : (num / den : ℚ) < 2 ^ (e + 53)
  full : e = -1074 ∨ 2 ^ 52 ≤ m ∧ (2 : ℚ) ^ (e + 52) ≤ num / den

lemma rounded_ofRatio {num den : ℕ} (hnum : 0 < num) (hden : 0 < den) {e : Int}
    (he : max (leadingBit num den - 52) (-1074) = e) :
    Rounded num den e (roundQuotient (num * (scaleTwo 1 e).2) (den * (scaleTwo 1 e).1)) := by
  obtain ⟨hlow, hhigh⟩ := leadingBit_spec hnum hden
  have hdenp : 0 < den * (scaleTwo 1 e).1 := Nat.mul_pos hden (scaleTwo_pos e).1
  have hscale := fun c k => scaleTwo_lt_iff e num hden c k
  have hbounds := roundQuotient_bounds (num * (scaleTwo 1 e).2) (den * (scaleTwo 1 e).1)
  have hpower : ∀ k : ℕ, ((2 ^ k : ℕ) : ℚ) * 2 ^ e = 2 ^ (e + k) := by
    intro k
    rw [zpow_add₀ two_ne_zero, zpow_natCast]
    push_cast
    ring
  have hhigh' : (num / den : ℚ) < 2 ^ (e + 53) :=
    hhigh.trans_le (zpow_le_zpow_right₀ one_le_two (by omega))
  refine ⟨by omega, ?_, ?_, hhigh', ?_⟩
  · have hfloor : num * (scaleTwo 1 e).2 / (den * (scaleTwo 1 e).1) < 2 ^ 53 := by
      have := hscale 1 (2 ^ 53)
      rw [one_mul, Nat.cast_one, one_mul, hpower] at this
      exact (Nat.div_lt_iff_lt_mul hdenp).mpr (this.mpr hhigh')
    omega
  · have := hscale 2 (4 * (2 ^ 52 - 1) + 3)
    rw [← roundQuotient_lt_iff hdenp] at this
    norm_num at this ⊢
    exact this
  · refine (em (e = -1074)).imp_right fun hne => ?_
    have hlow' : (2 : ℚ) ^ (e + 52) ≤ num / den := by
      rwa [show e + 52 = leadingBit num den by omega]
    refine ⟨le_trans ?_ hbounds.1, hlow'⟩
    have := hscale 1 (2 ^ 52)
    rw [one_mul, Nat.cast_one, one_mul, hpower] at this
    rw [Nat.le_div_iff_mul_le hdenp, ← not_lt]
    exact fun h => absurd (this.mp h) (not_lt.mpr hlow')

lemma overflow_pos : 0 < overflow := by
  unfold overflow
  positivity

lemma lt_overflow_iff {num den : ℕ} (hden : 0 < den) :
    num < overflow * den ↔ 2 * (num / den : ℚ) < (2 ^ 54 - 1) * 2 ^ (971 : ℤ) := by
  have hden' : (0 : ℚ) < den := by exact_mod_cast hden
  have hpower : ((overflow : ℕ) : ℚ) * 2 = (2 ^ 54 - 1) * 2 ^ (971 : ℤ) := by
    have h971 : (2 : ℚ) ^ (971 : ℤ) = 2 ^ 970 * 2 := by
      rw [← pow_succ, ← zpow_natCast]
      rfl
    have hodd : ((2 ^ 54 - 1 : ℕ) : ℚ) = 2 ^ 54 - 1 := by norm_num
    rw [overflow, h971, Nat.cast_mul, Nat.cast_pow, Nat.cast_ofNat, mul_assoc, hodd]
  rw [← hpower, mul_comm (2 : ℚ), mul_lt_mul_iff_left₀ two_pos, div_lt_iff₀ hden']
  exact_mod_cast Iff.rfl

/-- The format has an exponent for the parts up to 971, or 970 if the mantissa is carried over. -/
lemma isFinite_carried (negative : Bool) {m : ℕ} {e : Int} (hleast : -1074 ≤ e) (hle : m ≤ 2 ^ 53)
    (hfull : e = -1074 ∨ 2 ^ 52 ≤ m) :
    (if m = twoTo 53 then ofParts negative (twoTo 52) (e + 1)
      else ofParts negative m e).isFinite = true ↔ e ≤ 970 ∨ e = 971 ∧ m < 2 ^ 53 := by
  split_ifs with hm
  · rw [isFinite_ofParts, Normal]
    simp only [Nat.pow_eq] at hm ⊢
    omega
  · rw [isFinite_ofParts, Normal]
    simp only [Nat.pow_eq] at hm ⊢
    omega

/-- The parts have such an exponent exactly below the point of overflow. -/
lemma Rounded.exponent_iff {num den m : ℕ} {e : Int} (h : Rounded num den e m) :
    e ≤ 970 ∨ e = 971 ∧ m < 2 ^ 53 ↔ 2 * (num / den : ℚ) < (2 ^ 54 - 1) * 2 ^ (971 : ℤ) := by
  have hmono : ∀ {k l : ℤ}, k ≤ l → (2 : ℚ) ^ k ≤ 2 ^ l := zpow_le_zpow_right₀ one_le_two
  have hpos : (0 : ℚ) < 2 ^ (971 : ℤ) := zpow_pos two_pos 971
  rcases lt_trichotomy e 971 with he | rfl | he
  · have hbelow : (num / den : ℚ) < 2 ^ 52 * 2 ^ (971 : ℤ) :=
      calc (num / den : ℚ) < 2 ^ (e + 53) := h.high
        _ ≤ 2 ^ ((52 : ℕ) + 971 : ℤ) := hmono (by omega)
        _ = 2 ^ 52 * 2 ^ (971 : ℤ) := by rw [zpow_add₀ two_ne_zero, zpow_natCast]
    generalize (2 : ℚ) ^ (971 : ℤ) = w at hbelow hpos ⊢
    exact iff_of_true (Or.inl (by omega)) (by linarith)
  · rw [← h.lt_iff]
    omega
  · have habove : (2 : ℚ) ^ 53 * 2 ^ (971 : ℤ) ≤ num / den :=
      calc (2 : ℚ) ^ 53 * 2 ^ (971 : ℤ) = 2 ^ ((53 : ℕ) + 971 : ℤ) := by
            rw [zpow_add₀ two_ne_zero, zpow_natCast]
        _ ≤ 2 ^ (e + 52) := hmono (by omega)
        _ ≤ num / den := (h.full.resolve_left (by omega)).2
    generalize (2 : ℚ) ^ (971 : ℤ) = w at habove hpos ⊢
    exact iff_of_false (by omega) (by linarith)

/-- **Rounding a fraction** brings a finite double exactly below the point of overflow. -/
theorem isFinite_ofRatio (negative : Bool) {num den : ℕ} (hden : 0 < den) :
    (ofRatio negative num den).isFinite = true ↔ num < overflow * den := by
  rcases Nat.eq_zero_or_pos num with rfl | hnum
  · simpa [ofRatio, zero, isFinite] using Nat.mul_pos overflow_pos hden
  have hrounded := rounded_ofRatio hnum hden rfl
  unfold ofRatio
  rw [if_neg hnum.ne', lt_overflow_iff hden, ← hrounded.exponent_iff]
  exact isFinite_carried negative hrounded.least hrounded.le (hrounded.full.imp_right And.left)

end Binary64

/-! ## Decimals -/

namespace Decimal

/-- The decimal is below the point from which on numbers become infinite. -/
def InRange (d : Decimal) : Prop := d.ratio.1 < Binary64.overflow * d.ratio.2

instance (d : Decimal) : Decidable d.InRange := inferInstanceAs (Decidable (_ < _))

lemma ratio_pos (d : Decimal) : 0 < d.ratio.2 := by
  unfold ratio
  split_ifs
  · exact one_pos
  · exact Nat.pow_pos (by decide)

/-- Three bits are less than a decimal digit. -/
lemma two_pow_mul_two_pow_le {m n k : ℕ} (h : m + n ≤ 3 * k) : 2 ^ m * 2 ^ n ≤ 10 ^ k :=
  calc 2 ^ m * 2 ^ n = 2 ^ (m + n) := (pow_add 2 m n).symm
    _ ≤ 2 ^ (3 * k) := Nat.pow_le_pow_right two_pos h
    _ = 8 ^ k := pow_mul 2 3 k
    _ ≤ 10 ^ k := Nat.pow_le_pow_left (by decide) k

lemma overflow_le {k : ℕ} (hk : 342 ≤ k) : Binary64.overflow ≤ 10 ^ k :=
  (Nat.mul_le_mul_right _ (Nat.sub_le _ _)).trans (two_pow_mul_two_pow_le (by omega))

/-- The digits as a power of ten. -/
lemma decimalLength_spec {n : ℕ} (hn : n ≠ 0) :
    ∃ k, decimalLength n = k + 1 ∧ 10 ^ k ≤ n ∧ n < 10 ^ (k + 1) := by
  obtain ⟨k, hk⟩ : ∃ k, decimalLength n = k + 1 :=
    Nat.exists_eq_add_one.mpr Nat.length_toDigits_pos
  have hiff : ∀ {j}, 0 < j → (k + 1 ≤ j ↔ n < 10 ^ j) := fun hj =>
    hk ▸ Nat.length_toDigits_le_iff (by decide) hj
  refine ⟨k, hk, ?_, (hiff (by omega)).mp le_rfl⟩
  rcases Nat.eq_zero_or_pos k with rfl | hpos
  · omega
  · exact not_lt.mp fun h => absurd ((hiff hpos).mpr h) (by omega)

/-- A decimal of a great order is far beyond the doubles. -/
lemma not_inRange_of_order {d : Decimal} (hd : d.digits ≠ 0)
    (h : 400 < decimalLength d.digits + d.exponent) : ¬ d.InRange := by
  obtain ⟨k, hk, hlow, -⟩ := decimalLength_spec hd
  rw [InRange, not_lt, ratio]
  simp only [Nat.pow_eq]
  split_ifs with he
  · calc Binary64.overflow * 1 ≤ 10 ^ (k + d.exponent.toNat) := by
          rw [mul_one]
          exact overflow_le (by omega)
      _ = 10 ^ k * 10 ^ d.exponent.toNat := pow_add 10 k _
      _ ≤ d.digits * 10 ^ d.exponent.toNat := Nat.mul_le_mul_right _ hlow
  · obtain ⟨j, hj⟩ : ∃ j, k = j + (-d.exponent).toNat := ⟨k - (-d.exponent).toNat, by omega⟩
    calc Binary64.overflow * 10 ^ (-d.exponent).toNat ≤ 10 ^ j * 10 ^ (-d.exponent).toNat :=
          Nat.mul_le_mul_right _ (overflow_le (by omega))
      _ = 10 ^ k := by rw [← pow_add, hj]
      _ ≤ d.digits := hlow

/-- A decimal of a small order is far below one. -/
lemma inRange_of_order {d : Decimal} (hd : d.digits ≠ 0)
    (h : decimalLength d.digits + d.exponent < -400) : d.InRange := by
  obtain ⟨k, hk, -, hhigh⟩ := decimalLength_spec hd
  rw [InRange, ratio, if_neg (by omega)]
  simp only [Nat.pow_eq]
  calc d.digits < 10 ^ (k + 1) := hhigh
    _ ≤ 10 ^ (-d.exponent).toNat := Nat.pow_le_pow_right (by decide) (by omega)
    _ ≤ Binary64.overflow * 10 ^ (-d.exponent).toNat :=
        Nat.le_mul_of_pos_left _ Binary64.overflow_pos

end Decimal

/-- **A decimal** is read as a finite double exactly if it is in range. -/
theorem Binary64.isFinite_ofDecimal (negative : Bool) (d : Decimal) :
    (ofDecimal negative d).isFinite = true ↔ d.InRange := by
  unfold ofDecimal
  dsimp only
  split_ifs with hzero hhigh hlow
  · refine iff_of_true rfl ?_
    unfold Decimal.InRange Decimal.ratio
    split_ifs
    · simpa [hzero] using overflow_pos
    · simpa [hzero] using overflow_pos
  · exact iff_of_false (by simp [isFinite]) (Decimal.not_inRange_of_order hzero hhigh)
  · exact iff_of_true rfl (Decimal.inRange_of_order hzero hlow)
  · exact isFinite_ofRatio negative d.ratio_pos

/-- No decimal is read as the double that is not a number. -/
lemma Binary64.ofDecimal_ne_undefined (negative : Bool) (d : Decimal) :
    ofDecimal negative d ≠ .undefined := by
  have hparts : ∀ m e, ofParts negative m e ≠ .undefined := by
    intro m e
    unfold ofParts
    split_ifs <;> simp
  unfold ofDecimal ofRatio
  dsimp only
  split_ifs <;> simp [zero, hparts]

/-! ## Scalars -/

/-- The scalar is not the double that is not a number. -/
def Scalar.IsDefined (s : Scalar) : Prop := s ≠ .num .undefined

/-- If the scalar is a double, it is finite. -/
def Scalar.IsFinite : Scalar → Prop
  | .num x => x.isFinite = true
  | _ => True

end DashboardSurvey
