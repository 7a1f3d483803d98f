import RequestFilter.Number.Layout
import RequestFilter.Proofs.Counts
import RequestFilter.Proofs.NearestDouble

/-! # Texts of doubles

A finite double is written as a decimal number without an exponent to which no
other double is nearer, so the text stands for this double and no other
(`Double.shows_text`).  The digits are found on a grid of multiples of a power of
ten.  The search meets such a grid in time, because a power of ten below half a
step of the double is among those that it tries.
-/

namespace RequestFilter

/-- A text is a number in digits, with a point before those that count less than one. -/
inductive Number.ShowsDecimal (value : ℚ) : List Char → Prop
  | whole {digits : List Char} (nonempty : digits ≠ []) (decimal : ∀ c ∈ digits, c.isDigit = true)
      (same : (placeValue digits : ℚ) = value) : ShowsDecimal value digits
  | point {whole fraction : List Char} (nonempty : whole ≠ [] ∧ fraction ≠ [])
      (decimal : ∀ c ∈ whole ++ fraction, c.isDigit = true)
      (same : (placeValue (whole ++ fraction) : ℚ) / 10 ^ fraction.length = value) :
      ShowsDecimal value (whole ++ '.' :: fraction)

namespace Double

/-- A finite double is shown as a decimal number that no other double is nearer to. -/
inductive Shows (x : Double) : List Char → Prop
  | nan (no : x.magnitude = .nan) : Shows x ['N', 'a', 'N']
  | infinite {sign : List Char} (large : x.magnitude = .infinite)
      (signed : sign = if x.isNegative then ['-'] else []) : Shows x (sign ++ ['i', 'n', 'f'])
  | finite {sign digits : List Char} {value : ℚ}
      (signed : sign = if x.isNegative then ['-'] else [])
      (shows : Number.ShowsDecimal value digits)
      (nearest : x.IsNearest (signFactor x.isNegative * value)) : Shows x (sign ++ digits)

section Intervals

/-- A number lies in the interval around a double. -/
structure Neighbourhood.Holds (around : Neighbourhood) (value : ℚ) : Prop where
  within : around.lower * 2 ^ around.unitExponent ≤ value ∧
    value ≤ around.upper * 2 ^ around.unitExponent
  inside : around.closed = false → around.lower * 2 ^ around.unitExponent < value ∧
    value < around.upper * 2 ^ around.unitExponent

/-- A number within half a gap below another one is as near to it as to what is beyond the gap. -/
theorem nearer_of_below {value number other gap : ℚ} (positive : 0 < gap)
    (near : number - gap / 2 ≤ value) (beyond : other ≤ number - gap) :
    |value - number| < |value - other| ∨
      |value - number| = |value - other| ∧ value = number - gap / 2 := by
  have far : |value - other| = value - other := abs_of_nonneg (by linarith)
  rw [far]
  rcases le_total number value with above | below
  · left
    rw [abs_of_nonneg (sub_nonneg.mpr above)]
    linarith
  · rw [abs_sub_comm, abs_of_nonneg (sub_nonneg.mpr below)]
    rcases near.lt_or_eq with less | half
    · left
      linarith
    · rcases beyond.lt_or_eq with less | same
      · left
        linarith
      · exact .inr ⟨by linarith, half.symm⟩

variable {x : Double} {significand : ℕ} {exponent : ℤ} {value : ℚ}

/-- A number in the interval around a double is at most half a step off, and less than that if the
significand is odd.  Below a power of two it is at most a quarter of a step off. -/
theorem Neighbourhood.Holds.bounds (nonzero : significand ≠ 0)
    (holds : (neighbourhood significand exponent).Holds value) :
    |value - significand * 2 ^ exponent| ≤ 2 ^ exponent / 2 ∧
      (significand % 2 = 1 → |value - significand * 2 ^ exponent| < 2 ^ exponent / 2) ∧
      (significand = fractionSize ∧ -1074 < exponent →
        significand * 2 ^ exponent - 2 ^ exponent / 2 / 2 ≤ value) := by
  obtain ⟨⟨low, high⟩, inside⟩ := holds
  have positive : (0 : ℚ) < 2 ^ exponent := by positivity
  have unit : (2 : ℚ) ^ (exponent - 2) = 2 ^ exponent / 4 := by
    rw [zpow_sub₀ two_ne_zero]
    norm_num
  simp only [neighbourhood, unit, decide_eq_false_iff_not] at low high inside
  generalize (2 : ℚ) ^ exponent = step at *
  rw [abs_le, abs_lt]
  by_cases power : significand = fractionSize ∧ -1074 < exponent
  · rw [if_pos power, Nat.cast_sub (by omega)] at low
    push_cast at low high
    have even : significand % 2 = 0 := by
      rw [power.1]
      rfl
    refine ⟨⟨by linarith, by linarith⟩, fun odd => by omega, fun _ => by linarith⟩
  · rw [if_neg power, Nat.cast_sub (by omega)] at low inside
    push_cast at low high inside
    refine ⟨⟨by linarith, by linarith⟩, fun odd => ?_, fun isPower => absurd isPower power⟩
    obtain ⟨less, greater⟩ := inside (by omega)
    exact ⟨by linarith, by linarith⟩

/-- Below a power of two the doubles are half as far from each other. -/
theorem le_halfStep_below {beside step : ℚ} (positive : 0 < step)
    (shapes : (∃ factor : ℤ, beside = factor * (step / 2)) ∨ |beside| < fractionSize * (step / 2))
    (below : beside < fractionSize * step) : beside ≤ fractionSize * step - step / 2 := by
  have halfStep : 0 < step / 2 := by linarith
  rcases shapes with ⟨factor, rfl⟩ | smaller
  · have fewer : factor < 2 * fractionSize := by
      have halves : (factor : ℚ) * (step / 2) < (2 * fractionSize : ℤ) * (step / 2) := by
        push_cast
        linarith
      exact_mod_cast lt_of_mul_lt_mul_right halves halfStep.le
    have cast : (factor : ℚ) ≤ 2 * fractionSize - 1 := by
      exact_mod_cast Int.le_sub_one_of_lt fewer
    have := mul_le_mul_of_nonneg_right cast halfStep.le
    linarith
  · have less := lt_of_abs_lt smaller
    have some_steps : (1 : ℚ) ≤ fractionSize := by
      exact_mod_cast (by decide : 1 ≤ fractionSize)
    have := mul_le_mul_of_nonneg_right some_steps halfStep.le
    linarith

/-- No other double is nearer to a number in the interval around a double. -/
theorem isNearest_of_holds (shape : x.magnitude = .finite significand exponent)
    (nonzero : significand ≠ 0) (holds : (neighbourhood significand exponent).Holds value) :
    x.IsNearest (signFactor x.isNegative * value) := by
  have parts := hasParts_of_magnitude shape
  obtain ⟨near, odd, power⟩ := holds.bounds nonzero
  have positive : (0 : ℚ) < 2 ^ exponent := by positivity
  refine ⟨_, by rw [number?, shape], fun other found isFound different => ?_⟩
  rw [abs_signFactor_mul_sub, abs_signFactor_mul_sub, signFactor_mul_self, ← parts.parity]
  have shapes := multiple_or_small_signed isFound x.isNegative exponent
  have finerShapes := multiple_or_small_signed isFound x.isNegative (exponent - 1)
  have apart : signFactor x.isNegative * found ≠ significand * 2 ^ exponent := by
    intro same
    rw [← same, signFactor_mul_self] at different
    exact different rfl
  rw [zpow_sub_one₀ two_ne_zero, ← div_eq_mul_inv] at finerShapes
  generalize signFactor x.isNegative * found = beside at *
  generalize (2 : ℚ) ^ exponent = step at *
  have even (half : ¬|value - significand * step| < step / 2) : significand % 2 = 0 :=
    (Nat.mod_two_eq_zero_or_one significand).resolve_right (mt odd half)
  rcases shapes with ⟨factor, rfl⟩ | ⟨finer, small⟩
  · have different : factor ≠ (significand : ℤ) := by
      rintro rfl
      exact apart (by rw [Int.cast_natCast])
    rw [← Int.cast_natCast significand] at near even ⊢
    exact (nearer_of_halfStep positive near different).imp_right
      (And.imp_right fun half => even half.not_lt)
  · -- The other double is below all those with the exponent of this one.
    have below : beside < fractionSize * step := lt_of_abs_lt small
    by_cases least : significand = fractionSize
    · have beyond := le_halfStep_below positive (finerShapes.imp_right And.right) below
      rw [← least] at beyond
      refine (nearer_of_below (by linarith) (power ⟨least, finer⟩) beyond).imp_right
        (And.imp_right fun _ => ?_)
      rw [least]
      rfl
    · have more : fractionSize + 1 ≤ significand := by
        have := parts.full finer
        omega
      have beyond : beside ≤ significand * step - step := by
        have cast : (fractionSize + 1 : ℚ) ≤ significand := by exact_mod_cast more
        have := mul_le_mul_of_nonneg_right cast positive.le
        linarith
      have low : significand * step - step / 2 ≤ value := by
        have := (abs_le.mp near).1
        linarith
      refine (nearer_of_below positive low beyond).imp_right
        (And.imp_right fun half => even fun less => ?_)
      have := (abs_lt.mp less).1
      linarith

end Intervals

section Search

/-- The denominator of a power of two as a multiple of a power of ten. -/
def gridScale (unit grid : ℤ) : ℕ :=
  2 ^ unit.toNat * 10 ^ (-grid).toNat

/-- The denominator of a power of ten as a multiple of a power of two. -/
def gridStep (unit grid : ℤ) : ℕ :=
  2 ^ (-unit).toNat * 10 ^ grid.toNat

namespace Neighbourhood

variable (around : Neighbourhood) (tie : Tie) (grid : ℤ)

/-- A multiple of a power of ten is found to lie in an interval. -/
def covers (point : ℕ) : Bool :=
  let scale := gridScale around.unitExponent grid
  let step := gridStep around.unitExponent grid
  if around.closed then
    around.lower * scale ≤ point * step && point * step ≤ around.upper * scale
  else around.lower * scale < point * step && point * step < around.upper * scale

/-- The last multiple of a power of ten that is not above a double. -/
def below : ℕ :=
  around.value * gridScale around.unitExponent grid / gridStep around.unitExponent grid

/-- The candidates on a grid are the multiples next to the double on either side. -/
theorem nearestOnGrid_eq :
    ∃ isUpperNearer : Bool, around.nearestOnGrid tie grid =
      match around.covers grid (around.below grid),
          around.covers grid (around.below grid + 1) with
      | true, true => some (if isUpperNearer then around.below grid + 1 else around.below grid)
      | true, false => some (around.below grid)
      | false, true => some (around.below grid + 1)
      | false, false => none :=
  ⟨_, rfl⟩

variable {around tie grid}

theorem covers_of_nearestOnGrid {digits : ℕ}
    (found : around.nearestOnGrid tie grid = some digits) : around.covers grid digits = true := by
  obtain ⟨isUpperNearer, same⟩ := around.nearestOnGrid_eq tie grid
  rw [same] at found
  cases here : around.covers grid (around.below grid) <;>
    cases above : around.covers grid (around.below grid + 1) <;>
    simp only [here, above, Option.some.injEq, reduceCtorEq] at found
  · rwa [← found]
  · rwa [← found]
  · rw [← found]
    split
    · exact above
    · exact here

/-- On a grid with steps below half a step of the double, the next multiple lies in the interval. -/
theorem covers_succ_below (lower : around.lower < around.value)
    (upper : around.value + 2 ≤ around.upper)
    (fine : gridStep around.unitExponent grid < 2 * gridScale around.unitExponent grid) :
    around.covers grid (around.below grid + 1) = true := by
  have positive : 0 < gridStep around.unitExponent grid := by
    unfold gridStep
    positivity
  unfold covers below
  dsimp only
  generalize gridStep around.unitExponent grid = step at *
  generalize gridScale around.unitExponent grid = scale at *
  have exceeds : around.value * scale < (around.value * scale / step + 1) * step := by
    rw [Nat.mul_comm _ step]
    exact Nat.lt_mul_div_succ _ positive
  have low : around.lower * scale < (around.value * scale / step + 1) * step :=
    (Nat.mul_le_mul_right scale lower.le).trans_lt exceeds
  have high : (around.value * scale / step + 1) * step < around.upper * scale :=
    calc (around.value * scale / step + 1) * step
        ≤ around.value * scale + step := by
          rw [Nat.add_mul, Nat.one_mul]
          exact Nat.add_le_add_right (Nat.div_mul_le_self _ _) _
      _ < (around.value + 2) * scale := by
          rw [Nat.add_mul]
          exact Nat.add_lt_add_left fine _
      _ ≤ around.upper * scale := Nat.mul_le_mul_right scale upper
  simp only [low, low.le, high, high.le, decide_true, Bool.and_self, ite_self]

/-- Such a grid has a candidate. -/
theorem exists_nearestOnGrid (around : Neighbourhood) (tie : Tie) {grid : ℤ}
    (lower : around.lower < around.value) (upper : around.value + 2 ≤ around.upper)
    (fine : gridStep around.unitExponent grid < 2 * gridScale around.unitExponent grid) :
    ∃ digits, around.nearestOnGrid tie grid = some digits := by
  obtain ⟨isUpperNearer, same⟩ := around.nearestOnGrid_eq tie grid
  rw [same, covers_succ_below lower upper fine]
  cases around.covers grid (around.below grid) with
  | true => exact ⟨_, rfl⟩
  | false => exact ⟨_, rfl⟩

end Neighbourhood

/-- A power of ten and a power of two are to each other as the two scales. -/
theorem scales_eq (unit grid : ℤ) :
    (10 : ℚ) ^ grid * gridScale unit grid = 2 ^ unit * gridStep unit grid := by
  have tens : (10 : ℚ) ^ grid * 10 ^ (-grid).toNat = 10 ^ grid.toNat := by
    rw [← zpow_natCast, ← zpow_natCast, ← zpow_add₀ (by norm_num)]
    congr 1
    omega
  have twos : (2 : ℚ) ^ unit * 2 ^ (-unit).toNat = 2 ^ unit.toNat := by
    rw [← zpow_natCast, ← zpow_natCast, ← zpow_add₀ two_ne_zero]
    congr 1
    omega
  unfold gridScale gridStep
  push_cast
  rw [← tens, ← twos]
  ring

theorem Neighbourhood.holds_of_covers {around : Neighbourhood} {grid : ℤ} {point : ℕ}
    (covers : around.covers grid point = true) :
    around.Holds (point * 10 ^ grid) := by
  have scales := scales_eq around.unitExponent grid
  unfold Neighbourhood.covers at covers
  dsimp only at covers
  have scale : (0 : ℚ) < gridScale around.unitExponent grid := by
    unfold gridScale
    positivity
  have unit : (0 : ℚ) < 2 ^ around.unitExponent := by positivity
  generalize gridScale around.unitExponent grid = numerator at *
  generalize gridStep around.unitExponent grid = denominator at *
  -- Both sides are compared after a multiplication by the numerator.
  have le_iff (bound : ℕ) : (bound * 2 ^ around.unitExponent : ℚ) ≤ point * 10 ^ grid ↔
      bound * numerator ≤ point * denominator := by
    rw [← mul_le_mul_iff_left₀ scale, mul_assoc (point : ℚ), scales, mul_right_comm,
      mul_left_comm, mul_comm (2 ^ around.unitExponent : ℚ), mul_le_mul_iff_left₀ unit]
    exact_mod_cast Iff.rfl
  have ge_iff (bound : ℕ) : (point * 10 ^ grid : ℚ) ≤ bound * 2 ^ around.unitExponent ↔
      point * denominator ≤ bound * numerator := by
    rw [← mul_le_mul_iff_left₀ scale, mul_assoc (point : ℚ), scales, mul_right_comm (bound : ℚ),
      mul_left_comm, mul_comm (2 ^ around.unitExponent : ℚ), mul_le_mul_iff_left₀ unit]
    exact_mod_cast Iff.rfl
  split at covers
  · rename_i isClosed
    rw [Bool.and_eq_true, decide_eq_true_eq, decide_eq_true_eq] at covers
    refine ⟨⟨(le_iff _).mpr covers.1, (ge_iff _).mpr covers.2⟩, fun isOpen => ?_⟩
    rw [isClosed] at isOpen
    cases isOpen
  · rw [Bool.and_eq_true, decide_eq_true_eq, decide_eq_true_eq] at covers
    have low := lt_of_not_ge (mt (ge_iff _).mp (Nat.not_le_of_lt covers.1))
    have high := lt_of_not_ge (mt (le_iff _).mp (Nat.not_le_of_lt covers.2))
    exact ⟨⟨low.le, high.le⟩, fun _ => ⟨low, high⟩⟩

/-- Three decimal digits take no more than ten binary ones. -/
theorem ten_pow_le (n : ℕ) : 10 ^ n ≤ 2 ^ (10 * n / 3 + 1) := by
  have cubes : (10 ^ n) ^ 3 ≤ (2 ^ (10 * n / 3 + 1)) ^ 3 :=
    calc (10 ^ n) ^ 3 = (10 ^ 3) ^ n := by rw [← pow_mul, ← pow_mul, Nat.mul_comm]
      _ ≤ (2 ^ 10) ^ n := Nat.pow_le_pow_left (by decide) n
      _ = 2 ^ (10 * n) := (pow_mul 2 10 n).symm
      _ ≤ 2 ^ ((10 * n / 3 + 1) * 3) := Nat.pow_le_pow_right (by decide) (by omega)
      _ = (2 ^ (10 * n / 3 + 1)) ^ 3 := pow_mul 2 _ 3
  exact (Nat.pow_le_pow_iff_left (by decide)).mp cubes

/-- 93 binary digits take no more than 28 decimal ones. -/
theorem two_pow_le (n : ℕ) : 2 ^ n ≤ 10 ^ (28 * n / 93 + 1) := by
  have powers : (2 ^ n) ^ 93 ≤ (10 ^ (28 * n / 93 + 1)) ^ 93 :=
    calc (2 ^ n) ^ 93 = (2 ^ 93) ^ n := by rw [← pow_mul, ← pow_mul, Nat.mul_comm]
      _ ≤ (10 ^ 28) ^ n := Nat.pow_le_pow_left (by decide) n
      _ = 10 ^ (28 * n) := (pow_mul 10 28 n).symm
      _ ≤ 10 ^ ((28 * n / 93 + 1) * 93) := Nat.pow_le_pow_right (by decide) (by omega)
      _ = (10 ^ (28 * n / 93 + 1)) ^ 93 := pow_mul 10 _ 93
  exact (Nat.pow_le_pow_iff_left (by decide)).mp powers

variable {significand : ℕ} {exponent : ℤ}

/-- The finest grid that is searched has steps below half a step of the double. -/
theorem gridStep_finest_lt (nonzero : significand ≠ 0) (few : significand < 2 * fractionSize)
    (least : -1074 ≤ exponent) (most : exponent ≤ 971) :
    gridStep (exponent - 2) (coarsestGrid significand exponent - 23) <
      2 * gridScale (exponent - 2) (coarsestGrid significand exponent - 23) := by
  have bits : significand.log2 < 53 := (Nat.log2_lt nonzero).mpr few
  obtain ⟨grid, same⟩ : ∃ grid, coarsestGrid significand exponent - 23 = grid := ⟨_, rfl⟩
  rw [same]
  unfold coarsestGrid at same
  unfold gridStep gridScale
  by_cases positive : 0 ≤ grid
  · -- Steps above one need a double far above one, so no negative power is left on either side.
    have large : 10 * grid.toNat / 3 + 1 ≤ (exponent - 2).toNat := by omega
    have noTwos : (-(exponent - 2)).toNat = 0 := by omega
    have noTens : (-grid).toNat = 0 := by omega
    rw [noTwos, noTens, pow_zero, Nat.one_mul, pow_zero, Nat.mul_one]
    calc 10 ^ grid.toNat ≤ 2 ^ (10 * grid.toNat / 3 + 1) := ten_pow_le _
      _ ≤ 2 ^ (exponent - 2).toNat := Nat.pow_le_pow_right (by decide) large
      _ < 2 * 2 ^ (exponent - 2).toNat := by
        have := Nat.two_pow_pos (exponent - 2).toNat
        omega
  · have small : 28 * (-(exponent - 2)).toNat / 93 + 1 ≤ (-grid).toNat := by omega
    have noTens : grid.toNat = 0 := by omega
    rw [noTens, pow_zero, Nat.mul_one]
    calc 2 ^ (-(exponent - 2)).toNat
        ≤ 10 ^ (28 * (-(exponent - 2)).toNat / 93 + 1) := two_pow_le _
      _ ≤ 10 ^ (-grid).toNat := Nat.pow_le_pow_right (by decide) small
      _ ≤ 2 ^ (exponent - 2).toNat * 10 ^ (-grid).toNat :=
        Nat.le_mul_of_pos_left _ (Nat.two_pow_pos _)
      _ < 2 * (2 ^ (exponent - 2).toNat * 10 ^ (-grid).toNat) := by
        have : 0 < 2 ^ (exponent - 2).toNat * 10 ^ (-grid).toNat := by positivity
        omega

/-- The decimal of a double is found on one of the grids that are searched. -/
theorem exists_shortest {x : Double} (shape : x.magnitude = .finite significand exponent)
    (nonzero : significand ≠ 0) (tie : Tie) :
    ∃ digits grid, shortest tie significand exponent = (digits, grid) ∧
      (neighbourhood significand exponent).Holds (digits * 10 ^ grid) := by
  have parts := hasParts_of_magnitude shape
  have fine := gridStep_finest_lt nonzero parts.few parts.least parts.most
  have low : (neighbourhood significand exponent).lower <
      (neighbourhood significand exponent).value := by
    simp only [neighbourhood]
    split <;> omega
  obtain ⟨digits, last⟩ :=
    (neighbourhood significand exponent).exists_nearestOnGrid tie low (Nat.le_refl _) fine
  unfold shortest
  dsimp only
  generalize found : List.findSome? _ _ = result
  cases result with
  | none =>
      have missed := List.findSome?_eq_none_iff.mp found 23 (by decide)
      rw [Option.map_eq_none_iff] at missed
      cases missed.symm.trans last
  | some result =>
      obtain ⟨depth, -, here⟩ := List.exists_of_findSome?_eq_some found
      obtain ⟨digits, nearest, rfl⟩ := Option.map_eq_some_iff.mp here
      exact ⟨digits, _, rfl,
        Neighbourhood.holds_of_covers (Neighbourhood.covers_of_nearestOnGrid nearest)⟩

end Search

section Texts

/-- Digits with a point are a decimal number. -/
theorem showsDecimal_positionalText (decimal : ℕ) (power : ℤ) :
    Number.ShowsDecimal (decimal * 10 ^ power) (positionalText false (Nat.toDigits 10 decimal)
      ((Nat.toDigits 10 decimal).length + power)) := by
  have value := Number.placeValue_toDigits decimal
  have isDigit : ∀ c ∈ Nat.toDigits 10 decimal, c.isDigit = true := fun c member =>
    Nat.isDigit_of_mem_toDigits (by decide) (by decide) member
  have nonempty : Nat.toDigits 10 decimal ≠ [] := Nat.toDigits_ne_nil
  generalize Nat.toDigits 10 decimal = digits at *
  -- The places behind the point count down the power of ten.
  have behind {places : ℕ} (count : (places : ℤ) = -power) :
      (decimal : ℚ) / 10 ^ places = decimal * 10 ^ power := by
    rw [← zpow_natCast, count, zpow_neg, div_inv_eq_mul]
  have zeros (count : ℕ) : ∀ c ∈ List.replicate count '0', c.isDigit = true := fun c member => by
    rw [List.eq_of_mem_replicate member]
    rfl
  simp only [positionalText, Bool.false_eq_true, if_false, List.append_nil]
  split_ifs with low high
  · change Number.ShowsDecimal _
      (['0'] ++ '.' :: (List.replicate (-(digits.length + power)).toNat '0' ++ digits))
    refine .point ⟨List.cons_ne_nil _ _, List.append_ne_nil_of_right_ne_nil _ nonempty⟩ ?_ ?_
    · exact List.forall_mem_append.mpr
        ⟨zeros 1, List.forall_mem_append.mpr ⟨zeros _, isDigit⟩⟩
    · change (Number.placeValue (List.replicate 1 '0' ++ _) : ℚ) / _ = _
      rw [Number.placeValue_zeros_append, Number.placeValue_zeros_append, value, behind]
      rw [List.length_append, List.length_replicate]
      omega
  · refine .whole (List.append_ne_nil_of_left_ne_nil nonempty _) ?_ ?_
    · exact List.forall_mem_append.mpr ⟨isDigit, zeros _⟩
    · obtain ⟨places, rfl⟩ := Int.eq_ofNat_of_zero_le (show 0 ≤ power by omega)
      rw [Number.placeValue_append_zeros, value, zpow_natCast]
      push_cast
      congr 2
      omega
  · have front : 0 < (digits.length + power).toNat := by omega
    have shorter : (digits.length + power).toNat < digits.length := by omega
    generalize place : (digits.length + power).toNat = split at *
    rw [List.append_assoc, List.singleton_append]
    refine .point ⟨?_, ?_⟩ ?_ ?_
    · rw [Ne, List.take_eq_nil_iff, not_or]
      exact ⟨front.ne', nonempty⟩
    · rw [Ne, List.drop_eq_nil_iff]
      omega
    · rwa [List.take_append_drop]
    · rw [List.take_append_drop, value, behind]
      rw [List.length_drop]
      omega

theorem isNearest_zero {x : Double} {exponent : ℤ} (shape : x.magnitude = .finite 0 exponent) :
    x.IsNearest 0 := by
  refine ⟨0, ?_, fun other found _ different => .inl ?_⟩
  · rw [number?, shape]
    simp only [Nat.cast_zero, zero_mul, mul_zero]
  · rw [sub_zero, abs_zero, zero_sub, abs_neg, abs_pos]
    exact different

/-- The magnitude of a finite double is written as a decimal number that no other is nearer to. -/
theorem exists_showsDecimal {x : Double} {significand : ℕ} {exponent : ℤ}
    (shape : x.magnitude = .finite significand exponent) :
    ∃ value : ℚ, Number.ShowsDecimal value (magnitudeText .plain significand exponent) ∧
      x.IsNearest (signFactor x.isNegative * value) := by
  unfold magnitudeText
  by_cases zero : significand = 0
  · subst zero
    refine ⟨0, ?_, by rw [mul_zero]; exact isNearest_zero shape⟩
    change Number.ShowsDecimal 0 ['0']
    exact .whole (List.cons_ne_nil _ _) (List.forall_mem_singleton.mpr rfl) Nat.cast_zero
  · obtain ⟨digits, grid, found, holds⟩ := exists_shortest shape zero .away
    refine ⟨digits * 10 ^ grid, ?_, isNearest_of_holds shape zero holds⟩
    rw [if_neg zero]
    simp only [Layout.plain, found, if_true, sub_add_cancel]
    exact showsDecimal_positionalText digits grid

/-- **The text of a double shows it.**  It is a decimal number without an exponent, and no other
double is nearer to that number. -/
theorem shows_text (x : Double) : x.Shows (x.text .plain).toList := by
  have signed : (if x.isNegative then "-" else "").toList = if x.isNegative then ['-'] else [] := by
    split <;> rfl
  unfold text
  cases shape : x.magnitude with
  | nan =>
      change x.Shows "NaN".toList
      exact .nan shape
  | infinite =>
      simp only [String.toList_append, signed]
      exact .infinite shape rfl
  | finite significand exponent =>
      simp only [String.toList_append, signed, String.toList_ofList]
      obtain ⟨value, shows, nearest⟩ := exists_showsDecimal shape
      exact .finite rfl shows nearest

end Texts

end Double

end RequestFilter
