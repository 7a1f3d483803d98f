import Mathlib.Algebra.Order.Field.Power
import Mathlib.Data.Nat.Digits.Lemmas
import Mathlib.Tactic.Linarith
import Mathlib.Tactic.LinearCombination
import Mathlib.Tactic.NormNum
import Mathlib.Tactic.Ring
import RequestFilter.Number.Double

/-! # The double nearest to an integer

The number that a double stands for (`Double.number?`), and which of them is
nearest to a given number (`Double.IsNearest`).  The double of an integer is the
one nearest to it (`Double.isNearest_ofInteger`).
-/

namespace RequestFilter.Double

/-- The factor of a sign. -/
def signFactor (negative : Bool) : ℚ := if negative then -1 else 1

theorem abs_signFactor (negative : Bool) : |signFactor negative| = 1 := by
  cases negative
  · exact abs_one
  · exact (abs_neg 1).trans abs_one

/-- The number that a double stands for. -/
def number? (x : Double) : Option ℚ :=
  match x.magnitude with
  | .finite significand exponent => some (signFactor x.isNegative * (significand * 2 ^ exponent))
  | .infinite | .nan => none

/-- A double is nearer to a number than any that stands for another number, or as near and even. -/
def IsNearest (x : Double) (value : ℚ) : Prop :=
  ∃ number, x.number? = some number ∧
    ∀ (other : Double) (found : ℚ), other.number? = some found → found ≠ number →
      |value - number| < |value - found| ∨
        |value - number| = |value - found| ∧ x.fractionField % 2 = 0

/-- The rounded quotient is at most half a denominator off, and even where it is so much off. -/
theorem roundedQuotient_spec (numerator : Nat) {denominator : Nat} (positive : 0 < denominator) :
    2 * numerator ≤ 2 * (roundedQuotient numerator denominator * denominator) + denominator ∧
      2 * (roundedQuotient numerator denominator * denominator) ≤ 2 * numerator + denominator ∧
      (2 * numerator = 2 * (roundedQuotient numerator denominator * denominator) + denominator ∨
        2 * (roundedQuotient numerator denominator * denominator) = 2 * numerator + denominator →
          roundedQuotient numerator denominator % 2 = 0) := by
  have whole := Nat.div_add_mod' numerator denominator
  have small := Nat.mod_lt numerator positive
  unfold roundedQuotient
  dsimp only
  split
  · omega
  · split
    · rw [Nat.add_mul, Nat.one_mul]
      omega
    · rcases Nat.mod_two_eq_zero_or_one (numerator / denominator) with even | odd
      · rw [even, Nat.add_zero]
        omega
      · rw [odd, Nat.add_mul, Nat.one_mul]
        omega

/-- A multiple of a step that is at most half a step off a number is nearer to it than any other
multiple, or as near and half a step off. -/
theorem nearer_of_halfStep {value step : ℚ} (positive : 0 < step) {factor other : ℤ}
    (near : |value - factor * step| ≤ step / 2) (different : other ≠ factor) :
    |value - factor * step| < |value - other * step| ∨
      |value - factor * step| = |value - other * step| ∧ |value - factor * step| = step / 2 := by
  have apart : (1 : ℚ) ≤ |(other : ℚ) - factor| := by
    exact_mod_cast Int.one_le_abs (sub_ne_zero.mpr different)
  have spread : |(other : ℚ) * step - factor * step| = |(other : ℚ) - factor| * step := by
    rw [← sub_mul, abs_mul, abs_of_pos positive]
  have triangle := abs_sub_le ((other : ℚ) * step) value (factor * step)
  rw [spread, abs_sub_comm ((other : ℚ) * step) value] at triangle
  have farther : step ≤ |(other : ℚ) - factor| * step := le_mul_of_one_le_left positive.le apart
  rcases near.lt_or_eq with less | half
  · left
    linarith
  · rcases (show |value - factor * step| ≤ |value - other * step| by linarith).lt_or_eq with
      less | same
    · exact .inl less
    · exact .inr ⟨same, half⟩

theorem number?_of_normal {x : Double} (normal : x.exponentField ≠ 0)
    (finite : x.exponentField ≠ 2047) :
    x.number? = some (signFactor x.isNegative *
      ((fractionSize + x.fractionField : ℕ) * 2 ^ ((x.exponentField : ℤ) - 1075))) := by
  have shape : x.magnitude =
      .finite (fractionSize + x.fractionField) (x.exponentField - 1075) := by
    rw [magnitude, if_neg finite, if_neg normal]
  rw [number?, shape]

section Parts

variable (negative : Bool) {rest : Nat}

theorem toNat_bits_ofParts (bounded : rest < signBit) :
    (ofParts negative rest).bits.toNat = (if negative then signBit else 0) + rest := by
  unfold ofParts signBit at *
  rw [UInt64.toNat_ofNat']
  cases negative <;> simp only [if_true, Bool.false_eq_true, if_false] <;> omega

theorem isNegative_ofParts (bounded : rest < signBit) :
    (ofParts negative rest).isNegative = negative := by
  unfold isNegative
  rw [toNat_bits_ofParts negative bounded]
  cases negative
  · exact decide_eq_false (by simp only [Bool.false_eq_true, if_false]; omega)
  · exact decide_eq_true (by simp only [if_true]; omega)

theorem fractionField_ofParts (bounded : rest < signBit) :
    (ofParts negative rest).fractionField = rest % fractionSize := by
  unfold fractionField
  rw [toNat_bits_ofParts negative bounded]
  unfold signBit fractionSize
  cases negative <;> simp only [if_true, Bool.false_eq_true, if_false] <;> omega

theorem exponentField_ofParts (bounded : rest < signBit) :
    (ofParts negative rest).exponentField = rest / fractionSize := by
  unfold exponentField
  rw [toNat_bits_ofParts negative bounded]
  unfold signBit fractionSize at *
  cases negative <;> simp only [if_true, Bool.false_eq_true, if_false] <;> omega

theorem number?_ofParts_of_lt {exponent fraction : Nat} (small : exponent ≤ 2045)
    (inside : fraction < fractionSize) :
    (ofParts negative ((exponent + 1) * fractionSize + fraction)).number? =
      some (signFactor negative *
        ((fractionSize + fraction : ℕ) * 2 ^ ((exponent : ℤ) - 1074))) := by
  have bounded : (exponent + 1) * fractionSize + fraction < signBit := by
    unfold fractionSize signBit at *
    omega
  have exponent_eq := exponentField_ofParts negative bounded
  have fraction_eq := fractionField_ofParts negative bounded
  rw [Nat.mul_comm, Nat.mul_add_div (by decide), Nat.div_eq_of_lt inside, Nat.add_zero,
    Nat.mul_comm] at exponent_eq
  rw [Nat.mul_add_mod_self_right, Nat.mod_eq_of_lt inside] at fraction_eq
  rw [number?_of_normal (by omega) (by omega), isNegative_ofParts negative bounded, exponent_eq,
    fraction_eq]
  have shifted : ((exponent + 1 : ℕ) : ℤ) - 1075 = exponent - 1074 := by omega
  rw [shifted]

/-- The bits of an exponent and of a significand together are those of their product, also where the
significand has become too large for the fraction. -/
theorem number?_ofParts {exponent significand : Nat} (small : exponent ≤ 2044)
    (low : fractionSize ≤ significand) (high : significand ≤ 2 * fractionSize) :
    (ofParts negative (exponent * fractionSize + significand)).number? =
      some (signFactor negative * (significand * 2 ^ ((exponent : ℤ) - 1074))) := by
  rcases high.lt_or_eq with below | full
  · obtain ⟨fraction, rfl⟩ := Nat.exists_eq_add_of_le low
    have regrouped : exponent * fractionSize + (fractionSize + fraction) =
        (exponent + 1) * fractionSize + fraction := by
      rw [Nat.add_mul, Nat.one_mul, Nat.add_assoc]
    rw [regrouped]
    exact number?_ofParts_of_lt negative (by omega) (by omega)
  · have regrouped : exponent * fractionSize + significand =
        (exponent + 1 + 1) * fractionSize + 0 := by
      rw [full, ← Nat.add_mul]
      exact (Nat.add_zero _).symm
    have shifted : ((exponent + 1 : ℕ) : ℤ) - 1074 = exponent - 1074 + 1 := by omega
    rw [regrouped, number?_ofParts_of_lt negative (by omega) (by decide), shifted, full,
      zpow_add_one₀ two_ne_zero, Nat.add_zero, Nat.cast_mul, Nat.cast_ofNat]
    refine congrArg some ?_
    ring

end Parts

/-- The significand and the exponent of a finite double: the exponent has a range, and only at its
lower end is the highest bit of the significand missing. -/
structure HasParts (x : Double) (significand : ℕ) (exponent : ℤ) : Prop where
  few : significand < 2 * fractionSize
  least : -1074 ≤ exponent
  most : exponent ≤ 971
  full : -1074 < exponent → fractionSize ≤ significand
  parity : significand % 2 = x.fractionField % 2

theorem hasParts_of_magnitude {x : Double} {significand : ℕ} {exponent : ℤ}
    (shape : x.magnitude = .finite significand exponent) : x.HasParts significand exponent := by
  have fraction : x.fractionField < fractionSize := Nat.mod_lt _ (by decide)
  have exponents : x.exponentField < 2048 := Nat.mod_lt _ (by decide)
  have size : fractionSize = 4503599627370496 := rfl
  unfold magnitude at shape
  split at shape
  · split at shape <;> cases shape
  · split at shape
    · cases shape
      constructor <;> omega
    · cases shape
      constructor <;> omega

/-- A double stands for a whole number of steps of a power of two, or is below so many of them as
the fraction has values.  All doubles are whole numbers of the least steps. -/
theorem multiple_or_small {x : Double} {number : ℚ} (found : x.number? = some number) (scale : ℤ) :
    (∃ factor : ℤ, number = factor * 2 ^ scale) ∨
      -1074 < scale ∧ |number| < fractionSize * 2 ^ scale := by
  obtain ⟨significand, exponent, parts, same⟩ : ∃ (significand : ℕ) (exponent : ℤ),
      x.HasParts significand exponent ∧
        number = signFactor x.isNegative * (significand * 2 ^ exponent) := by
    unfold number? at found
    split at found
    · rename_i significand exponent shape
      exact ⟨significand, exponent, hasParts_of_magnitude shape, (Option.some.inj found).symm⟩
    · cases found
    · cases found
  by_cases coarse : scale ≤ exponent
  · left
    obtain ⟨more, rfl⟩ := Int.le.dest coarse
    refine ⟨(if x.isNegative then -1 else 1) * (significand * 2 ^ more), ?_⟩
    rw [same, signFactor, zpow_add₀ two_ne_zero, zpow_natCast]
    push_cast
    ring
  · right
    have size : (0 : ℚ) < 2 ^ exponent := by positivity
    have below : (2 : ℚ) ^ (exponent + 1) ≤ 2 ^ scale :=
      zpow_le_zpow_right₀ one_le_two (by omega)
    have few : (significand : ℚ) < 2 * fractionSize := by exact_mod_cast parts.few
    refine ⟨by have := parts.least; omega, ?_⟩
    calc |number| = significand * 2 ^ exponent := by
          rw [same, abs_mul, abs_signFactor, one_mul, abs_of_nonneg (by positivity)]
      _ < 2 * fractionSize * 2 ^ exponent := mul_lt_mul_of_pos_right few size
      _ = fractionSize * 2 ^ (exponent + 1) := by
          rw [zpow_add_one₀ two_ne_zero]
          ring
      _ ≤ fractionSize * 2 ^ scale := mul_le_mul_of_nonneg_left below (Nat.cast_nonneg _)

section Integers

variable {n : Nat}

/-- A number lies between the least and the largest significand when it is scaled by a power of
two. -/
theorem scaled_bounds (nonzero : n ≠ 0) :
    fractionSize * 2 ^ (n.log2 - 52) ≤ n * 2 ^ (52 - n.log2) ∧
      n * 2 ^ (52 - n.log2) < 2 * fractionSize * 2 ^ (n.log2 - 52) := by
  have low : 2 ^ n.log2 ≤ n := Nat.log2_self_le nonzero
  have high : n < 2 ^ (n.log2 + 1) := Nat.lt_log2_self
  have size : fractionSize = 2 ^ 52 := rfl
  rcases Nat.le_total n.log2 52 with short | long
  · have whole : 2 ^ n.log2 * 2 ^ (52 - n.log2) = 2 ^ 52 := by
      rw [← Nat.pow_add, Nat.add_sub_cancel' short]
    rw [Nat.sub_eq_zero_of_le short, Nat.pow_zero, Nat.mul_one, Nat.mul_one, size, ← whole]
    constructor
    · exact Nat.mul_le_mul_right _ low
    · rw [← Nat.mul_assoc, ← Nat.pow_succ']
      exact Nat.mul_lt_mul_of_pos_right high (Nat.two_pow_pos _)
  · have whole : 2 ^ 52 * 2 ^ (n.log2 - 52) = 2 ^ n.log2 := by
      rw [← Nat.pow_add, Nat.add_sub_cancel' long]
    rw [Nat.sub_eq_zero_of_le long, Nat.pow_zero, Nat.mul_one, size, Nat.mul_assoc, whole,
      ← Nat.pow_succ']
    exact ⟨low, high⟩

/-- The significand of the double nearest to a number. -/
def significandOf (n : Nat) : Nat :=
  roundedQuotient (n * 2 ^ (52 - n.log2)) (2 ^ (n.log2 - 52))

theorem significandOf_bounds (nonzero : n ≠ 0) :
    fractionSize ≤ significandOf n ∧ significandOf n ≤ 2 * fractionSize := by
  obtain ⟨low, high⟩ := scaled_bounds nonzero
  have positive := Nat.two_pow_pos (n.log2 - 52)
  obtain ⟨above, below, _⟩ := roundedQuotient_spec (n * 2 ^ (52 - n.log2)) positive
  rw [← significandOf] at above below
  constructor
  · by_contra less
    have fewer : (significandOf n + 1) * 2 ^ (n.log2 - 52) ≤ fractionSize * 2 ^ (n.log2 - 52) :=
      Nat.mul_le_mul_right _ (Nat.lt_of_not_le less)
    rw [Nat.succ_mul] at fewer
    omega
  · by_contra more
    have most : (2 * fractionSize + 1) * 2 ^ (n.log2 - 52) ≤ significandOf n * 2 ^ (n.log2 - 52) :=
      Nat.mul_le_mul_right _ (Nat.lt_of_not_le more)
    rw [Nat.succ_mul] at most
    omega

/-- The bits of a number, from the place of its highest bit and its rounded significand. -/
theorem bitsOfQuotient_one (nonzero : n ≠ 0) (bounded : n < 2 ^ 64) :
    bitsOfQuotient n 1 = (n.log2 + 1022) * fractionSize + significandOf n := by
  have place : n.log2 < 64 := (Nat.log2_lt nonzero).mpr bounded
  obtain ⟨low, _⟩ := scaled_bounds nonzero
  obtain ⟨_, most⟩ := significandOf_bounds nonzero
  have estimate : (n.log2 : ℤ) - ((1 : ℕ).log2 : ℤ) - 52 = n.log2 - 52 := by
    rw [show (1 : ℕ).log2 = 0 by decide, Nat.cast_zero, sub_zero]
  have up : (-((n.log2 : ℤ) - 52)).toNat = 52 - n.log2 := by omega
  have down : ((n.log2 : ℤ) - 52).toNat = n.log2 - 52 := by omega
  have offset : ((n.log2 : ℤ) - 52 + 1074).toNat = n.log2 + 1022 := by omega
  -- The estimate of the exponent is exact for a whole number.
  have fitted : ¬decide (n * Nat.pow 2 (-((n.log2 : ℤ) - 52)).toNat <
      fractionSize * 1 * Nat.pow 2 ((n.log2 : ℤ) - 52).toNat) = true := by
    rw [decide_eq_true_eq, up, down, Nat.mul_one]
    exact Nat.not_lt.mpr low
  unfold bitsOfQuotient
  dsimp only
  rw [estimate, if_neg fitted, max_eq_left (by omega), up, down, offset, Nat.one_mul]
  refine Nat.min_eq_right ?_
  change (n.log2 + 1022) * fractionSize + significandOf n ≤ infinityBits
  unfold fractionSize infinityBits at *
  omega

/-- The bits of an integer. -/
theorem ofInteger_eq {value : Int} (nonzero : value ≠ 0) (bounded : value.natAbs < 2 ^ 64) :
    ofInteger value =
      ofParts (value < 0) ((value.natAbs.log2 + 1022) * fractionSize +
        significandOf value.natAbs) := by
  have positive : value.natAbs ≠ 0 := Int.natAbs_ne_zero.mpr nonzero
  have digits : (Nat.toDigits 10 value.natAbs).length ≤ 20 :=
    Nat.toDigits_length 10 value.natAbs 20 (by decide) (by omega)
  rw [← bitsOfQuotient_one positive bounded]
  unfold ofInteger ofDecimal
  dsimp only
  rw [if_neg (by omega), if_neg (by omega)]
  change ofParts _ (bitsOfQuotient (value.natAbs * 1) 1) = _
  rw [Nat.mul_one]

/-- The significand of a number counts steps of the size that its highest bit allows. -/
theorem step_mul_pow (place : Nat) :
    (2 : ℚ) ^ ((place : ℤ) - 52) * 2 ^ (52 - place) = 2 ^ (place - 52) := by
  rw [← zpow_natCast, ← zpow_natCast, ← zpow_add₀ two_ne_zero]
  congr 1
  omega

theorem fractionSize_mul_step_le (nonzero : n ≠ 0) :
    (fractionSize : ℚ) * 2 ^ ((n.log2 : ℤ) - 52) ≤ n := by
  have positive : (0 : ℚ) < 2 ^ (52 - n.log2) := by positivity
  have low : (fractionSize : ℚ) * 2 ^ (n.log2 - 52) ≤ n * 2 ^ (52 - n.log2) := by
    exact_mod_cast (scaled_bounds nonzero).1
  rw [← step_mul_pow, ← mul_assoc] at low
  exact le_of_mul_le_mul_right low positive

/-- The rounded significand is at most half a step off, and even where it is so much off. -/
theorem significandOf_near (n : Nat) :
    |(n : ℚ) - significandOf n * 2 ^ ((n.log2 : ℤ) - 52)| ≤ 2 ^ ((n.log2 : ℤ) - 52) / 2 ∧
      (|(n : ℚ) - significandOf n * 2 ^ ((n.log2 : ℤ) - 52)| = 2 ^ ((n.log2 : ℤ) - 52) / 2 →
        significandOf n % 2 = 0) := by
  have positive : (0 : ℚ) < 2 ^ (52 - n.log2) := by positivity
  obtain ⟨above, below, tie⟩ :=
    roundedQuotient_spec (n * 2 ^ (52 - n.log2)) (Nat.two_pow_pos (n.log2 - 52))
  rw [← significandOf] at above below tie
  have scaled := step_mul_pow n.log2
  generalize (2 : ℚ) ^ ((n.log2 : ℤ) - 52) = step at scaled ⊢
  constructor
  · have above : 2 * (n * 2 ^ (52 - n.log2)) ≤
        2 * (significandOf n * (step * 2 ^ (52 - n.log2))) + step * 2 ^ (52 - n.log2) := by
      rw [scaled]
      exact_mod_cast above
    have below : 2 * (significandOf n * (step * 2 ^ (52 - n.log2))) ≤
        2 * (n * 2 ^ (52 - n.log2)) + step * 2 ^ (52 - n.log2) := by
      rw [scaled]
      exact_mod_cast below
    rw [abs_le]
    constructor
    · exact le_of_mul_le_mul_right (by linarith) positive
    · exact le_of_mul_le_mul_right (by linarith) positive
  · intro half
    apply tie
    rcases eq_or_eq_neg_of_abs_eq half with more | less
    · left
      have scaledUp : (2 : ℚ) * (n * 2 ^ (52 - n.log2)) =
          2 * (significandOf n * 2 ^ (n.log2 - 52)) + 2 ^ (n.log2 - 52) := by
        rw [← scaled]
        linear_combination 2 * 2 ^ (52 - n.log2) * more
      exact_mod_cast scaledUp
    · right
      have scaledUp : (2 : ℚ) * (significandOf n * 2 ^ (n.log2 - 52)) =
          2 * (n * 2 ^ (52 - n.log2)) + 2 ^ (n.log2 - 52) := by
        rw [← scaled]
        linear_combination -2 * 2 ^ (52 - n.log2) * less
      exact_mod_cast scaledUp

/-- No number that a double stands for is nearer to a natural number than the one with the rounded
significand. -/
theorem significandOf_nearest (nonzero : n ≠ 0) {other : ℚ}
    (shape : (∃ factor : ℤ, other = factor * 2 ^ ((n.log2 : ℤ) - 52)) ∨
      |other| < fractionSize * 2 ^ ((n.log2 : ℤ) - 52))
    (different : other ≠ significandOf n * 2 ^ ((n.log2 : ℤ) - 52)) :
    |(n : ℚ) - significandOf n * 2 ^ ((n.log2 : ℤ) - 52)| < |(n : ℚ) - other| ∨
      |(n : ℚ) - significandOf n * 2 ^ ((n.log2 : ℤ) - 52)| = |(n : ℚ) - other| ∧
        significandOf n % 2 = 0 := by
  obtain ⟨near, tie⟩ := significandOf_near n
  have low := fractionSize_mul_step_le nonzero
  have positive : (0 : ℚ) < 2 ^ ((n.log2 : ℤ) - 52) := by positivity
  generalize (2 : ℚ) ^ ((n.log2 : ℤ) - 52) = step at *
  have whole : |(n : ℚ) - (significandOf n : ℤ) * step| ≤ step / 2 := by
    rw [Int.cast_natCast]
    exact near
  have multiple (factor : ℤ) (apart : factor ≠ significandOf n) :=
    nearer_of_halfStep positive whole apart
  rw [Int.cast_natCast] at multiple
  rcases shape with ⟨factor, rfl⟩ | small
  · have apart : factor ≠ significandOf n := by
      intro same
      rw [same, Int.cast_natCast] at different
      exact different rfl
    rcases multiple factor apart with less | ⟨same, half⟩
    · exact .inl less
    · exact .inr ⟨same, tie half⟩
  · left
    have least : |(n : ℚ) - significandOf n * step| ≤ n - fractionSize * step := by
      rw [← abs_of_nonneg (sub_nonneg.mpr low)]
      by_cases same : (fractionSize : ℤ) = significandOf n
      · rw [Nat.cast_inj.mp same]
      · rw [← Int.cast_natCast fractionSize]
        rcases multiple fractionSize same with less | ⟨even, _⟩
        · exact less.le
        · exact even.le
    have above : other < fractionSize * step := lt_of_abs_lt small
    calc |(n : ℚ) - significandOf n * step| ≤ n - fractionSize * step := least
      _ < n - other := by linarith
      _ ≤ |(n : ℚ) - other| := le_abs_self _

end Integers

theorem fractionField_mod_two (negative : Bool) {exponent significand : Nat}
    (small : exponent ≤ 2044) (high : significand ≤ 2 * fractionSize) :
    (ofParts negative (exponent * fractionSize + significand)).fractionField % 2 =
      significand % 2 := by
  have bounded : exponent * fractionSize + significand < signBit := by
    unfold fractionSize signBit at *
    omega
  rw [fractionField_ofParts negative bounded]
  unfold fractionSize
  omega

theorem cast_eq_signFactor_mul (value : ℤ) :
    (value : ℚ) = signFactor (value < 0) * value.natAbs := by
  rw [signFactor, Nat.cast_natAbs]
  by_cases below : value < 0
  · rw [if_pos (decide_eq_true below), abs_of_neg below, Int.cast_neg]
    ring
  · rw [if_neg (by rwa [decide_eq_true_eq]), abs_of_nonneg (not_lt.mp below), one_mul]

/-- A sign moves numbers without changing how far they are from each other. -/
theorem abs_signFactor_mul_sub (negative : Bool) (first second : ℚ) :
    |signFactor negative * first - second| = |first - signFactor negative * second| := by
  cases negative
  · simp only [signFactor, Bool.false_eq_true, if_false, one_mul]
  · simp only [signFactor, if_true, neg_one_mul]
    rw [← abs_neg, neg_sub, sub_neg_eq_add, sub_neg_eq_add, add_comm]

theorem signFactor_mul_self (negative : Bool) (number : ℚ) :
    signFactor negative * (signFactor negative * number) = number := by
  cases negative
  · simp only [signFactor, Bool.false_eq_true, if_false, one_mul]
  · simp only [signFactor, if_true, neg_one_mul, neg_neg]

theorem multiple_or_small_signed {x : Double} {number : ℚ} (found : x.number? = some number)
    (negative : Bool) (scale : ℤ) :
    (∃ factor : ℤ, signFactor negative * number = factor * 2 ^ scale) ∨
      -1074 < scale ∧ |signFactor negative * number| < fractionSize * 2 ^ scale := by
  rcases multiple_or_small found scale with ⟨factor, rfl⟩ | ⟨finer, small⟩
  · left
    refine ⟨(if negative then -1 else 1) * factor, ?_⟩
    rw [signFactor]
    push_cast
    ring
  · right
    rw [abs_mul, abs_signFactor, one_mul]
    exact ⟨finer, small⟩

theorem number?_ofInteger_zero : (ofInteger 0).number? = some 0 := by
  have shape : (ofInteger 0).magnitude = .finite 0 (-1074) := by decide
  rw [number?, shape]
  simp only [Nat.cast_zero, zero_mul, mul_zero]

/-- An integer becomes the double nearest to it. -/
theorem isNearest_ofInteger {value : ℤ} (bounded : value.natAbs < 2 ^ 64) :
    (ofInteger value).IsNearest value := by
  by_cases zero : value = 0
  · subst zero
    refine ⟨0, number?_ofInteger_zero, ?_⟩
    intro other found _ different
    left
    rw [Int.cast_zero, sub_zero, abs_zero, zero_sub, abs_neg, abs_pos]
    exact different
  · have nonzero : value.natAbs ≠ 0 := Int.natAbs_ne_zero.mpr zero
    have place : value.natAbs.log2 < 64 := (Nat.log2_lt nonzero).mpr bounded
    obtain ⟨low, high⟩ := significandOf_bounds nonzero
    have small : value.natAbs.log2 + 1022 ≤ 2044 := by omega
    have stated := number?_ofParts (value < 0) small low high
    have scale : ((value.natAbs.log2 + 1022 : ℕ) : ℤ) - 1074 = value.natAbs.log2 - 52 := by omega
    rw [scale] at stated
    rw [ofInteger_eq zero bounded]
    refine ⟨_, stated, ?_⟩
    intro other found isFound different
    rw [fractionField_mod_two _ small high, cast_eq_signFactor_mul, abs_signFactor_mul_sub,
      abs_signFactor_mul_sub, signFactor_mul_self]
    apply significandOf_nearest nonzero
      ((multiple_or_small_signed isFound (value < 0) _).imp_right And.right)
    intro same
    rw [← same, signFactor_mul_self] at different
    exact different rfl

end RequestFilter.Double
