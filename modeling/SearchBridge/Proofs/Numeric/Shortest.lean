import Mathlib.Algebra.Order.Field.Basic
import Mathlib.Algebra.Order.Field.Power
import Mathlib.Data.Rat.Cast.Order
import Mathlib.Tactic.FieldSimp
import Mathlib.Tactic.Linarith
import Mathlib.Tactic.NormNum
import Mathlib.Tactic.Positivity
import Mathlib.Tactic.Qify
import Mathlib.Tactic.Ring
import SearchBridge.Numeric.Decimal

/-!
# Shortest decimals tell doubles apart

The numbers that round to a positive double form an interval around it. The intervals of different
doubles meet at most in an end point, half-way between neighbours, and of two neighbours one has an
odd significand, so that the point belongs to the other one alone. The shortest decimal of a double
lies in its interval: seventeen digits always suffice, because the grid of the multiples of the
seventeenth digit is finer than the interval is wide. Hence the shortest decimal determines the
magnitude of the double.

## Main definitions

* `Decimal.value` : the number that a decimal stands for.
* `Decimal.Interval.Contains` : the numbers in a rounding interval.

## Main results

* `Decimal.Interval.of_inj` : a number lies in the rounding interval of one magnitude at most.
* `Decimal.contains_shortest` : the shortest decimal lies in the rounding interval.
* `Decimal.shortest_inj` : the shortest decimal determines the magnitude.
-/

namespace SearchBridge

open Binary64 (Finite)

/-! ### Magnitudes -/

namespace Binary64.Finite

variable {x y : Finite}

theorem numerator_eq (x : Finite) : x.numerator = x.significand * 2 ^ x.scale :=
  Nat.shiftLeft_eq _ _

theorem significand_le (x : Finite) : x.significand ≤ 2 ^ 53 - 1 := by
  have h := x.significand_lt
  rw [Nat.shiftLeft_eq] at h
  omega

/-- A double on a coarser grid than the finest has a long significand. -/
theorem le_significand_of_scale_pos (h : 0 < x.scale) : 2 ^ 52 ≤ x.significand := by
  have hcanonical := x.canonical.resolve_left h.ne'
  rwa [Nat.shiftLeft_eq, Nat.one_mul] at hcanonical

/-- A grid that is coarser has at least twice the step. -/
theorem two_mul_two_pow_le {s t : Nat} (h : s < t) : 2 * 2 ^ s ≤ 2 ^ t := by
  rw [← Nat.pow_succ']
  exact Nat.pow_le_pow_right (by decide) h

/-- A double on a coarser grid has the greater magnitude. -/
theorem numerator_lt_of_scale_lt (h : x.scale < y.scale) : x.numerator < y.numerator := by
  have hstep := two_mul_two_pow_le h
  have hx := Nat.mul_le_mul_right (2 ^ x.scale) x.significand_le
  have hy := Nat.mul_le_mul (le_significand_of_scale_pos (Nat.zero_lt_of_lt h)) hstep
  have hpos : 0 < 2 ^ x.scale := Nat.two_pow_pos _
  rw [numerator_eq, numerator_eq]
  omega

/-- The magnitude determines the significand and the scale. -/
theorem eq_of_numerator_eq (h : x.numerator = y.numerator) :
    x.significand = y.significand ∧ x.scale = y.scale := by
  have hscale : x.scale = y.scale := by
    rcases Nat.lt_trichotomy x.scale y.scale with hlt | heq | hgt
    · exact absurd h (numerator_lt_of_scale_lt hlt).ne
    · exact heq
    · exact absurd h (numerator_lt_of_scale_lt hgt).ne'
  rw [numerator_eq, numerator_eq, hscale] at h
  exact ⟨Nat.eq_of_mul_eq_mul_right (Nat.two_pow_pos _) h, hscale⟩

theorem unit_pos : 0 < unit := by
  decide +kernel

end Binary64.Finite

/-! ### Rounding intervals -/

namespace Decimal

/-- The number that a decimal stands for. -/
def value (d : Decimal) : ℚ := d.digits * 10 ^ d.exponent

namespace Interval

/-- A number lies in an interval, the ends of which are numbers over `4 * unit`. -/
def Contains (i : Interval) (v : ℚ) : Prop :=
  if i.closed then i.lower ≤ v * (4 * Finite.unit) ∧ v * (4 * Finite.unit) ≤ i.upper
  else i.lower < v * (4 * Finite.unit) ∧ v * (4 * Finite.unit) < i.upper

theorem Contains.lower_le {i : Interval} {v : ℚ} (h : i.Contains v) :
    (i.lower : ℚ) ≤ v * (4 * Finite.unit) := by
  rw [Contains] at h
  split at h
  · exact h.1
  · exact h.1.le

theorem Contains.le_upper {i : Interval} {v : ℚ} (h : i.Contains v) :
    v * (4 * Finite.unit) ≤ i.upper := by
  rw [Contains] at h
  split at h
  · exact h.2
  · exact h.2.le

/-- The ends of an open interval do not lie in it. -/
theorem Contains.strict {i : Interval} {v : ℚ} (h : i.Contains v) (hopen : i.closed = false) :
    (i.lower : ℚ) < v * (4 * Finite.unit) ∧ v * (4 * Finite.unit) < i.upper := by
  rwa [Contains, if_neg (by rw [hopen]; exact Bool.false_ne_true)] at h

section Of

variable (x : Finite)

/-- How far the rounding interval reaches below its value. -/
def reachBelow : Nat :=
  if x.significand = 2 ^ 52 ∧ 0 < x.scale then 2 ^ x.scale else 2 * 2 ^ x.scale

theorem of_eq : Interval.of x = {
    lower := 4 * x.numerator - reachBelow x
    value := 4 * x.numerator
    upper := 4 * x.numerator + 2 * 2 ^ x.scale
    closed := x.significand % 2 == 0 } := by
  simp only [Interval.of, reachBelow, Nat.shiftLeft_eq, Nat.one_mul]

theorem reachBelow_le : reachBelow x ≤ 2 * 2 ^ x.scale := by
  rw [reachBelow]
  split
  · omega
  · exact Nat.le_refl _

theorem reachBelow_pos : 0 < reachBelow x := by
  have hpos : 0 < 2 ^ x.scale := Nat.two_pow_pos _
  rw [reachBelow]
  split <;> omega

end Of

variable {x y : Finite}

/-- A positive double is at least one step of its grid. -/
theorem two_pow_scale_le_numerator (h : x.significand ≠ 0) : 2 ^ x.scale ≤ x.numerator := by
  rw [Finite.numerator_eq]
  exact Nat.le_mul_of_pos_left _ (Nat.pos_of_ne_zero h)

theorem lower_of_lt_value (h : x.significand ≠ 0) :
    (Interval.of x).lower < (Interval.of x).value := by
  have hle := two_pow_scale_le_numerator h
  have hpos : 0 < 2 ^ x.scale := Nat.two_pow_pos _
  have hreach := reachBelow_pos x
  rw [of_eq]
  dsimp only
  omega

theorem lower_of_pos (h : x.significand ≠ 0) : 0 < (Interval.of x).lower := by
  have hle := two_pow_scale_le_numerator h
  have hpos : 0 < 2 ^ x.scale := Nat.two_pow_pos _
  have hreach := reachBelow_le x
  rw [of_eq]
  dsimp only
  omega

theorem value_lt_upper_of : (Interval.of x).value < (Interval.of x).upper := by
  have hpos : 0 < 2 ^ x.scale := Nat.two_pow_pos _
  rw [of_eq]
  dsimp only
  omega

/-- On one grid, the interval of a double ends before that of the next one begins, or there. -/
theorem upper_of_le_lower_of_scale_eq (hscale : x.scale = y.scale)
    (h : x.significand < y.significand) :
    (Interval.of x).upper ≤ (Interval.of y).lower ∧
      ((Interval.of x).upper = (Interval.of y).lower →
        x.significand % 2 ≠ 0 ∨ y.significand % 2 ≠ 0) := by
  have hpos : 0 < 2 ^ y.scale := Nat.two_pow_pos _
  have hreach := reachBelow_le y
  have hnext := Nat.mul_le_mul_right (2 ^ y.scale) (Nat.succ_le_of_lt h)
  rw [Nat.succ_mul] at hnext
  simp only [of_eq, Finite.numerator_eq, hscale]
  refine ⟨by omega, fun heq => ?_⟩
  by_contra! hboth
  -- Of two even significands the greater one is not the next one.
  have hafter := Nat.mul_le_mul_right (2 ^ y.scale)
    (show x.significand + 2 ≤ y.significand by omega)
  rw [Nat.add_mul] at hafter
  omega

/-- The interval of a double on a finer grid ends before that of one on a coarser grid begins, or
there: then the significand of the former is the longest of all. -/
theorem upper_of_le_lower_of_scale_lt (h : x.scale < y.scale) :
    (Interval.of x).upper ≤ (Interval.of y).lower ∧
      ((Interval.of x).upper = (Interval.of y).lower → x.significand % 2 ≠ 0) := by
  have hstep := Finite.two_mul_two_pow_le h
  have hpos : 0 < 2 ^ x.scale := Nat.two_pow_pos _
  have hscale : 0 < y.scale := Nat.zero_lt_of_lt h
  have hlong := Finite.le_significand_of_scale_pos hscale
  have hlongest := x.significand_le
  simp only [of_eq, Finite.numerator_eq, reachBelow]
  generalize 2 ^ x.scale = step at *
  generalize 2 ^ y.scale = step' at *
  have hx := Nat.mul_le_mul_right step hlongest
  by_cases hpower : y.significand = 2 ^ 52
  · have hshorter (heven : x.significand % 2 = 0) : x.significand ≤ 2 ^ 53 - 2 := by omega
    rw [if_pos ⟨hpower, hscale⟩, hpower]
    refine ⟨by omega, fun heq heven => Nat.ne_of_lt ?_ heq⟩
    have heven := Nat.mul_le_mul_right step (hshorter heven)
    clear heq hx
    omega
  · have hy := Nat.mul_le_mul_right step' (show 2 ^ 52 + 1 ≤ y.significand by omega)
    rw [if_neg fun hand => hpower hand.1]
    exact ⟨by omega, fun heq => by omega⟩

/-- **Rounding intervals do not overlap.** The interval of the smaller of two doubles ends before
that of the greater one begins, or where it begins, and then one of the two is open. -/
theorem upper_of_le_lower_of (h : x.numerator < y.numerator) :
    (Interval.of x).upper ≤ (Interval.of y).lower ∧
      ((Interval.of x).upper = (Interval.of y).lower →
        (Interval.of x).closed = false ∨ (Interval.of y).closed = false) := by
  have hopen (z : Finite) : (Interval.of z).closed = false ↔ z.significand % 2 ≠ 0 := by
    rw [of_eq, beq_eq_false_iff_ne]
  rw [hopen, hopen]
  rcases Nat.lt_trichotomy x.scale y.scale with hscale | hscale | hscale
  · obtain ⟨hle, hodd⟩ := upper_of_le_lower_of_scale_lt hscale
    exact ⟨hle, fun heq => Or.inl (hodd heq)⟩
  · refine upper_of_le_lower_of_scale_eq hscale ?_
    rw [Finite.numerator_eq, Finite.numerator_eq, hscale] at h
    exact Nat.lt_of_mul_lt_mul_right h
  · exact absurd (Finite.numerator_lt_of_scale_lt hscale) (Nat.lt_asymm h)

/-- A number in the intervals of two doubles lies half-way between them, where one is open. -/
theorem not_contains_of_lt {v : ℚ} (h : x.numerator < y.numerator)
    (hx : (Interval.of x).Contains v) (hy : (Interval.of y).Contains v) : False := by
  obtain ⟨hle, hopen⟩ := upper_of_le_lower_of h
  have hleq : ((Interval.of x).upper : ℚ) ≤ (Interval.of y).lower := Nat.cast_le.mpr hle
  have hend : ((Interval.of x).upper : ℚ) = (Interval.of y).lower :=
    hleq.antisymm (hy.lower_le.trans hx.le_upper)
  rcases hopen (Nat.cast_injective hend) with hopen | hopen
  · exact absurd ((hx.strict hopen).2.trans_le (hleq.trans hy.lower_le)) (lt_irrefl _)
  · exact absurd ((hx.le_upper.trans hleq).trans_lt (hy.strict hopen).1) (lt_irrefl _)

/-- **A number rounds to one magnitude.** Doubles whose rounding intervals share a number have the
same magnitude. -/
theorem of_inj {v : ℚ} (hx : (Interval.of x).Contains v) (hy : (Interval.of y).Contains v) :
    x.significand = y.significand ∧ x.scale = y.scale := by
  refine Finite.eq_of_numerator_eq ?_
  rcases Nat.lt_trichotomy x.numerator y.numerator with hlt | heq | hgt
  · exact (not_contains_of_lt hlt hx hy).elim
  · exact heq
  · exact (not_contains_of_lt hgt hy hx).elim

/-! ### Points of a grid -/

variable {i : Interval} {tie : Tie} {exponent : Int}

theorem tenTo_eq (n : Nat) : tenTo n = 10 ^ n := rfl

theorem tenTo_pos (n : Nat) : 0 < tenTo n := Nat.pow_pos (by decide)

/-- A power of ten as a quotient of two, one of which is one. -/
theorem zpow_ten_eq_div (e : Int) : (10 : ℚ) ^ e = tenTo e.toNat / tenTo (-e).toNat := by
  rcases Int.le_total 0 e with h | h
  · obtain ⟨n, rfl⟩ := Int.eq_ofNat_of_zero_le h
    simp [tenTo_eq]
  · obtain ⟨n, hn⟩ := Int.eq_ofNat_of_zero_le (Int.neg_nonneg_of_nonpos h)
    obtain rfl : e = -n := by omega
    simp [tenTo_eq]

/-- The points of a grid in common units: over `4 * unit` as the ends of intervals, and times the
power of ten in the denominator of the grid. -/
theorem value_mul_eq (n : Nat) (e : Int) :
    Decimal.value ⟨n, e⟩ * (4 * Finite.unit) * tenTo (-e).toNat =
      (n * (4 * Finite.unit * tenTo e.toNat) : ℕ) := by
  have hzoom : (tenTo (-e).toNat : ℚ) ≠ 0 := Nat.cast_ne_zero.mpr (tenTo_pos _).ne'
  rw [Decimal.value, zpow_ten_eq_div]
  push_cast
  field_simp

/-- A point of a grid lies in an interval if it does so in common units. -/
theorem contains_iff (n : Nat) (e : Int) : i.Contains (Decimal.value ⟨n, e⟩) ↔
    if i.closed then
      i.lower * tenTo (-e).toNat ≤ n * (4 * Finite.unit * tenTo e.toNat) ∧
        n * (4 * Finite.unit * tenTo e.toNat) ≤ i.upper * tenTo (-e).toNat
    else
      i.lower * tenTo (-e).toNat < n * (4 * Finite.unit * tenTo e.toNat) ∧
        n * (4 * Finite.unit * tenTo e.toNat) < i.upper * tenTo (-e).toNat := by
  have hzoom : (0 : ℚ) < tenTo (-e).toNat := Nat.cast_pos.mpr (tenTo_pos _)
  have hmul := value_mul_eq n e
  have hle (a : Nat) : a * tenTo (-e).toNat ≤ n * (4 * Finite.unit * tenTo e.toNat) ↔
      (a : ℚ) ≤ Decimal.value ⟨n, e⟩ * (4 * Finite.unit) := by
    rw [← Nat.cast_le (α := ℚ), ← hmul, Nat.cast_mul, mul_le_mul_iff_left₀ hzoom]
  have hge (a : Nat) : n * (4 * Finite.unit * tenTo e.toNat) ≤ a * tenTo (-e).toNat ↔
      Decimal.value ⟨n, e⟩ * (4 * Finite.unit) ≤ a := by
    rw [← Nat.cast_le (α := ℚ), ← hmul, Nat.cast_mul, mul_le_mul_iff_left₀ hzoom]
  simp only [Contains, ← not_le, hle, hge]

/-- The step of a grid in common units is positive. -/
theorem step_pos (e : Int) : 0 < 4 * Finite.unit * tenTo e.toNat :=
  Nat.mul_pos (Nat.mul_pos (by decide) Finite.unit_pos) (tenTo_pos _)

/-- The point of a grid that is chosen lies in the interval. -/
theorem contains_of_nearest? (hlower : i.lower < i.value) (hupper : i.value < i.upper) {n : Nat}
    (h : i.nearest? tie exponent = some n) : i.Contains (Decimal.value ⟨n, exponent⟩) := by
  have hzoom := tenTo_pos (-exponent).toNat
  have hlow := Nat.mul_lt_mul_of_pos_right hlower hzoom
  have hup := Nat.mul_lt_mul_of_pos_right hupper hzoom
  -- The value lies between its two neighbours: either of them is on the right side of one end.
  have hbelow := Nat.div_mul_le_self (i.value * tenTo (-exponent).toNat)
    (4 * Finite.unit * tenTo exponent.toNat)
  have habove := Nat.lt_div_mul_add (a := i.value * tenTo (-exponent).toNat) (step_pos exponent)
  rw [contains_iff]
  simp only [nearest?] at h
  generalize 4 * Finite.unit * tenTo exponent.toNat = step at *
  generalize i.value * tenTo (-exponent).toNat / step = below at *
  rw [← Nat.add_one_mul] at habove
  cases hclosed : i.closed <;>
    simp only [hclosed, Bool.false_eq_true, if_true, if_false] at h ⊢ <;>
    split at h <;> rename_i hfitsBelow hfitsAbove <;>
    simp only [decide_eq_true_eq, Option.some.injEq, reduceCtorEq] at hfitsBelow hfitsAbove h
  all_goals
    rw [← h]
    try split
  all_goals
    omega

/-- If the grid is finer than the interval is wide, one of the neighbours of the value on the grid
lies in the interval. -/
theorem isSome_nearest? (h : i.lower + 10 ^ exponent * (4 * Finite.unit) < (i.upper : ℚ)) :
    (i.nearest? tie exponent).isSome := by
  have hgap : i.lower * tenTo (-exponent).toNat + 4 * Finite.unit * tenTo exponent.toNat <
      i.upper * tenTo (-exponent).toNat := by
    have hzoom : (0 : ℚ) < tenTo (-exponent).toNat := Nat.cast_pos.mpr (tenTo_pos _)
    rw [zpow_ten_eq_div, ← mul_lt_mul_iff_left₀ hzoom] at h
    field_simp at h
    rw [← Nat.cast_lt (α := ℚ)]
    push_cast
    linarith
  clear h
  simp only [nearest?]
  generalize 4 * Finite.unit * tenTo exponent.toNat = step at *
  generalize i.value * tenTo (-exponent).toNat / step = below at *
  cases hclosed : i.closed <;>
    simp only [Bool.false_eq_true, if_true, if_false] <;>
    split <;> rename_i hfitsBelow hfitsAbove <;>
    simp only [decide_eq_false_iff_not, Option.isSome_some] at hfitsBelow hfitsAbove ⊢
  -- Were neither in the interval, both would lie outside, a step apart.
  all_goals
    rw [Nat.add_one_mul] at hfitsAbove
    omega

end Interval

/-! ### Trailing zeros -/

theorem value_trim_go (digits : Nat) (exponent : Int) (fuel : Nat) :
    (trim.go digits exponent fuel).value = value ⟨digits, exponent⟩ := by
  induction fuel generalizing digits exponent with
  | zero => rfl
  | succ fuel ih =>
    rw [trim.go]
    split
    · rename_i hzero
      obtain ⟨n, rfl⟩ := Nat.dvd_of_mod_eq_zero hzero
      rw [ih, value, value, Nat.mul_div_cancel_left n (by decide), zpow_add_one₀ (by norm_num)]
      push_cast
      ring
    · rfl

/-- Dropping trailing zeros leaves the number alone. -/
theorem value_trim (d : Decimal) : d.trim.value = d.value :=
  value_trim_go d.digits d.exponent (width d.digits)

/-! ### The count of digits -/

variable {x y : Finite} (tie tie' : Tie)

/-- A positive number is at least the power of ten that its first digit counts. -/
theorem ten_pow_width_le {n : Nat} (h : 0 < n) : 10 ^ (width n - 1) ≤ n := by
  rcases Nat.eq_zero_or_pos (width n - 1) with hone | hmore
  · rw [hone]
    exact h
  · have hwidth : 0 < width n := Nat.length_toDigits_pos
    rw [← Nat.not_lt, ← Nat.length_toDigits_le_iff (by decide) hmore]
    rw [width] at *
    omega

theorem unit_le_tenTo : Finite.unit ≤ tenTo 330 := by
  decide +kernel

/-- A bound by a quotient of powers of ten, from one without quotients. -/
theorem ten_zpow_sub_mul_le {a b n : Nat} {m : Nat} (h : 10 ^ a * m ≤ n * tenTo b) :
    (10 : ℚ) ^ ((a : ℤ) - b) * m ≤ n := by
  rw [zpow_sub₀ (by norm_num), zpow_natCast, zpow_natCast, div_mul_eq_mul_div,
    div_le_iff₀ (pow_pos (by norm_num) _)]
  exact_mod_cast h

/-- A positive double is at least the power of ten that its first digit counts. -/
theorem ten_zpow_leadingExponent_le (h : x.significand ≠ 0) :
    (10 : ℚ) ^ leadingExponent x * Finite.unit ≤ x.numerator := by
  have hunit : 0 < Finite.unit := Finite.unit_pos
  have hpos : 0 < x.numerator * tenTo 330 / Finite.unit := by
    have hone := Nat.mul_le_mul (Interval.two_pow_scale_le_numerator h) unit_le_tenTo
    exact Nat.div_pos ((Nat.le_mul_of_pos_left _ (Nat.two_pow_pos _)).trans hone) hunit
  have hlead := (Nat.le_div_iff_mul_le hunit).mp (ten_pow_width_le hpos)
  have hsplit : leadingExponent x =
      ((width (x.numerator * tenTo 330 / Finite.unit) - 1 : ℕ) : ℤ) - (330 : ℕ) := by
    have hwidth : 0 < width (x.numerator * tenTo 330 / Finite.unit) := Nat.length_toDigits_pos
    rw [leadingExponent]
    omega
  rw [hsplit]
  exact ten_zpow_sub_mul_le hlead

/-- Seventeen digits make a grid that is finer than a rounding interval is wide. -/
theorem lower_add_lt_upper (h : x.significand ≠ 0) :
    (Interval.of x).lower + 10 ^ (leadingExponent x - 16) * (4 * Finite.unit) <
      ((Interval.of x).upper : ℚ) := by
  have hwide : 4 * x.numerator < 10 ^ 16 * (Interval.reachBelow x + 2 * 2 ^ x.scale) := by
    have hpos : 0 < 2 ^ x.scale := Nat.two_pow_pos _
    have hlongest := Nat.mul_le_mul_right (2 ^ x.scale) x.significand_le
    rw [Finite.numerator_eq, Interval.reachBelow]
    split
    · rename_i hpower
      rw [hpower.1]
      omega
    · omega
  have hlower : (Interval.of x).lower + Interval.reachBelow x = 4 * x.numerator := by
    have hle := Interval.two_pow_scale_le_numerator h
    have hreach := Interval.reachBelow_le x
    rw [Interval.of_eq]
    dsimp only
    omega
  have hupper : (Interval.of x).upper = 4 * x.numerator + 2 * 2 ^ x.scale := by
    rw [Interval.of_eq]
  have hlead := ten_zpow_leadingExponent_le h
  rw [zpow_sub₀ (by norm_num), hupper]
  qify at hwide hlower
  push_cast
  linarith

/-- **The shortest decimal reads back.** It lies in the rounding interval of its double. -/
theorem contains_shortest (h : x.significand ≠ 0) :
    (Interval.of x).Contains (shortest tie x).value := by
  have hfound : ((List.range 17).findSome? fun (n : Nat) =>
      ((Interval.of x).nearest? tie (leadingExponent x - n)).map fun digits =>
        trim ⟨digits, leadingExponent x - n⟩).isSome := by
    rw [List.findSome?_isSome_iff]
    refine ⟨16, by decide, ?_⟩
    rw [Option.isSome_map]
    exact Interval.isSome_nearest? (lower_add_lt_upper h)
  obtain ⟨d, hd⟩ := Option.isSome_iff_exists.mp hfound
  obtain ⟨n, -, hn⟩ := List.exists_of_findSome?_eq_some hd
  obtain ⟨digits, hdigits, rfl⟩ := Option.map_eq_some_iff.mp hn
  rw [shortest, if_neg (by rwa [Finite.isZero, beq_iff_eq])]
  dsimp only
  rw [hd, Option.getD_some, value_trim]
  exact Interval.contains_of_nearest? (Interval.lower_of_lt_value h) Interval.value_lt_upper_of
    hdigits

/-- The shortest decimal of a double is zero for the zeros only. -/
theorem value_shortest_eq_zero_iff : (shortest tie x).value = 0 ↔ x.significand = 0 := by
  refine ⟨fun hvalue => ?_, fun h => ?_⟩
  · by_contra h
    have hle := (contains_shortest tie h).lower_le
    rw [hvalue, zero_mul, ← Nat.cast_zero, Nat.cast_le] at hle
    exact absurd (Interval.lower_of_pos h) (Nat.not_lt.mpr hle)
  · rw [shortest, if_pos (by rwa [Finite.isZero, beq_iff_eq]), value, Nat.cast_zero, zero_mul]

/-- **The shortest decimal determines the magnitude**, whichever way ties go. -/
theorem shortest_inj (h : (shortest tie x).value = (shortest tie' y).value) :
    x.significand = y.significand ∧ x.scale = y.scale := by
  by_cases hx : x.significand = 0
  · have hy : y.significand = 0 := by
      rwa [← value_shortest_eq_zero_iff tie', ← h, value_shortest_eq_zero_iff]
    have hscale (z : Finite) (hz : z.significand = 0) : z.scale = 0 :=
      z.canonical.resolve_right (by rw [hz]; decide)
    exact ⟨hx.trans hy.symm, (hscale x hx).trans (hscale y hy).symm⟩
  · have hy : y.significand ≠ 0 := by
      rwa [Ne, ← value_shortest_eq_zero_iff tie', ← h, value_shortest_eq_zero_iff]
    exact Interval.of_inj (contains_shortest tie hx) (h ▸ contains_shortest tie' hy)

end Decimal

end SearchBridge
