import GiapiGlue.Lib.Ieee754
import GiapiGlue.Lib.Numerals

set_option autoImplicit false

/-! # Fixed notation

Floating point values printed with a fixed number of digits after the point, as C's `%.nf` does: the exact
value is rounded to the nearest decimal of that many places, ties to even. How long the text is depends on
the size of the value only. -/

/-! ## Rounding a quotient -/

/-- `n / d` rounded to the nearest integer, ties to even. -/
def roundHalfEven (n d : Nat) : Nat :=
  if 2 * (n % d) < d ∨ (2 * (n % d) = d ∧ n / d % 2 = 0) then n / d else n / d + 1

/-- No integer is nearer. -/
theorem roundHalfEven_nearest (n : Nat) {d : Nat} (hd : 0 < d) :
    2 * n ≤ (2 * roundHalfEven n d + 1) * d ∧ 2 * roundHalfEven n d * d ≤ 2 * n + d := by
  have hdiv := Nat.div_add_mod n d
  have hmod := Nat.mod_lt n hd
  unfold roundHalfEven
  generalize n / d = q at *
  generalize n % d = r at *
  subst hdiv
  split_ifs with h
  · have hdown : 2 * r ≤ d := by omega
    exact ⟨by nlinarith, by nlinarith⟩
  · have hup : d ≤ 2 * r := by omega
    exact ⟨by nlinarith, by nlinarith⟩

namespace Ieee754

variable {e m : Nat}

/-! ## Decimals -/

/-- The absolute value of a finite number in units of `10 ^ -places`, rounded. -/
def scaled (places : Nat) (x : Ieee754 e m) : Nat :=
  if 0 ≤ x.shift then
    10 ^ places * x.significand * 2 ^ x.shift.toNat
  else
    roundHalfEven (10 ^ places * x.significand) (2 ^ (-x.shift).toNat)

theorem magnitude_of_shift_nonneg {x : Ieee754 e m} (h : 0 ≤ x.shift) :
    x.magnitude = ((x.significand * 2 ^ x.shift.toNat : Nat) : ℚ) := by
  rw [magnitude]
  conv_lhs => rw [← Int.toNat_of_nonneg h]
  rw [zpow_natCast]
  push_cast
  rfl

theorem magnitude_of_shift_neg {x : Ieee754 e m} (h : x.shift < 0) :
    x.magnitude = (x.significand : ℚ) / ((2 ^ (-x.shift).toNat : Nat) : ℚ) := by
  have hneg : x.shift = -((-x.shift).toNat : Int) := by omega
  rw [magnitude]
  conv_lhs => rw [hneg]
  rw [zpow_neg, zpow_natCast, div_eq_mul_inv]
  push_cast
  rfl

theorem magnitude_le_significand {x : Ieee754 e m} (h : x.shift < 0) :
    x.magnitude ≤ x.significand := by
  have hd : (1 : ℚ) ≤ ((2 ^ (-x.shift).toNat : Nat) : ℚ) := by
    exact_mod_cast Nat.two_pow_pos (-x.shift).toNat
  rw [magnitude_of_shift_neg h]
  exact div_le_self (by positivity) hd

/-- The decimal printed is the nearest one. -/
theorem scaled_nearest (places : Nat) (x : Ieee754 e m) :
    |10 ^ places * x.magnitude - x.scaled places| ≤ 1 / 2 := by
  unfold scaled
  split_ifs with h
  · rw [magnitude_of_shift_nonneg h]
    push_cast
    simp [mul_assoc]
  · have hd : 0 < 2 ^ (-x.shift).toNat := Nat.two_pow_pos _
    rw [magnitude_of_shift_neg (not_le.1 h)]
    obtain ⟨hup, hdown⟩ := roundHalfEven_nearest (10 ^ places * x.significand) hd
    generalize 2 ^ (-x.shift).toNat = d at *
    generalize roundHalfEven (10 ^ places * x.significand) d = r at *
    have hd' : (0 : ℚ) < d := by exact_mod_cast hd
    have hup' : 2 * (10 ^ places * (x.significand : ℚ)) ≤ (2 * r + 1) * d := by exact_mod_cast hup
    have hdown' : 2 * (r : ℚ) * d ≤ 2 * (10 ^ places * x.significand) + d := by exact_mod_cast hdown
    rw [abs_le, ← mul_div_assoc]
    refine ⟨?_, ?_⟩
    · rw [neg_le_sub_iff_le_add, ← sub_le_iff_le_add, le_div_iff₀ hd']
      nlinarith
    · rw [sub_le_iff_le_add, div_le_iff₀ hd']
      nlinarith

/-- From `2 ^ (m + 1)` on, where all values are integers, rounding carries no value to a larger bound. -/
theorem scaled_lt_iff (places : Nat) (x : Ieee754 e m) {bound : Nat} (hbound : 2 ^ (m + 1) ≤ bound) :
    x.scaled places < 10 ^ places * bound ↔ x.magnitude < bound := by
  have hten : 0 < 10 ^ places := Nat.pow_pos (by norm_num)
  by_cases h : 0 ≤ x.shift
  · rw [scaled, if_pos h, magnitude_of_shift_nonneg h, Nat.cast_lt, Nat.mul_assoc,
      Nat.mul_lt_mul_left hten]
  · -- A value with a fractional part is below the significand, and that is a whole unit short.
    have hsignificand : (x.significand : ℚ) + 1 ≤ bound := by
      have := x.significand_lt
      exact_mod_cast (by omega : x.significand + 1 ≤ bound)
    have hmagnitude := magnitude_le_significand (not_le.1 h)
    have hnear := (abs_le.1 (scaled_nearest places x)).1
    have hten' : (1 : ℚ) ≤ 10 ^ places := by exact_mod_cast hten
    refine iff_of_true ?_ (by linarith)
    have hscaled : (x.scaled places : ℚ) < 10 ^ places * bound := by nlinarith
    exact_mod_cast hscaled

/-! ## The text -/

/-- The last `k` decimal digits of `n`. -/
def lastDigits : Nat → Nat → List UInt8
  | 0, _ => []
  | k + 1, n => lastDigits k (n / 10) ++ [Numerals.digit (n % 10)]

@[simp] theorem length_lastDigits (k n : Nat) : (lastDigits k n).length = k := by
  induction k generalizing n with
  | zero => rfl
  | succ k ih => simp [lastDigits, ih]

/-- `%.nf`, for a number of places that is not zero. -/
def fixedNotation (places : Nat) (x : Ieee754 e m) : List UInt8 :=
  let sign := if x.negative then [Numerals.minus] else []
  if x.isFinite then
    let decimals := x.scaled places
    sign ++ Numerals.digitsOf (decimals / 10 ^ places) ++ [0x2E]
      ++ lastDigits places (decimals % 10 ^ places)
  else if x.isNaN then
    sign ++ [0x6E, 0x61, 0x6E]
  else
    sign ++ [0x69, 0x6E, 0x66]

/-- How much of the text the sign takes. -/
def signLength (x : Ieee754 e m) : Nat := if x.negative then 1 else 0

/-- A finite value leaves `k` digits before the point enough room precisely if it is below `10 ^ k`. -/
theorem length_fixedNotation_le_iff (places : Nat) {x : Ieee754 e m} (hfinite : x.isFinite) {k : Nat}
    (hk : 2 ^ (m + 1) ≤ 10 ^ k) (hpos : 0 < k) :
    (x.fixedNotation places).length ≤ x.signLength + k + 1 + places ↔ x.magnitude < 10 ^ k := by
  have hten : 0 < 10 ^ places := Nat.pow_pos (by norm_num)
  have hlength : (x.fixedNotation places).length
      = x.signLength + (Numerals.digitsOf (x.scaled places / 10 ^ places)).length + 1 + places := by
    have hsign : (if x.negative then [Numerals.minus] else []).length = x.signLength := by
      unfold signLength
      split_ifs <;> rfl
    rw [fixedNotation, if_pos hfinite]
    simp only [List.length_append, hsign, List.length_cons, List.length_nil, length_lastDigits]
  have hscaled := scaled_lt_iff places x hk
  rw [hlength]
  calc x.signLength + (Numerals.digitsOf (x.scaled places / 10 ^ places)).length + 1 + places
        ≤ x.signLength + k + 1 + places
      ↔ (Numerals.digitsOf (x.scaled places / 10 ^ places)).length ≤ k := by omega
    _ ↔ x.scaled places / 10 ^ places < 10 ^ k := Numerals.length_digitsOf_le_iff hpos
    _ ↔ x.scaled places < 10 ^ places * 10 ^ k := by
        rw [Nat.div_lt_iff_lt_mul hten, Nat.mul_comm]
    _ ↔ x.magnitude < 10 ^ k := by
        rw [hscaled]
        push_cast
        rfl

end Ieee754
