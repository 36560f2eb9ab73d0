import Mathlib

set_option autoImplicit false

/-! # Binary floating point values

An IEEE 754 interchange pattern with `e` exponent bits and `m` fraction bits, kept as its bits, and
the comparison `==` of two such values: a NaN differs from everything, the two zeros are equal. -/

/-- A binary floating point value with `e` exponent and `m` fraction bits. -/
structure Ieee754 (e m : Nat) where
  bits : BitVec (1 + e + m)
deriving DecidableEq, Repr

namespace Ieee754

variable {e m : Nat}

/-- The biased exponent. -/
def exponent (x : Ieee754 e m) : Nat := x.bits.toNat / 2 ^ m % 2 ^ e

/-- The fraction field. -/
def fraction (x : Ieee754 e m) : Nat := x.bits.toNat % 2 ^ m

/-- All exponent bits set and a non-zero fraction. -/
def isNaN (x : Ieee754 e m) : Bool := x.exponent = 2 ^ e - 1 && x.fraction ≠ 0

/-- Positive or negative zero. -/
def isZero (x : Ieee754 e m) : Bool := x.exponent = 0 && x.fraction = 0

/-- The sign bit. -/
def negative (x : Ieee754 e m) : Bool := 2 ^ (e + m) ≤ x.bits.toNat

/-- Neither an infinity nor a NaN. -/
def isFinite (x : Ieee754 e m) : Bool := x.exponent ≠ 2 ^ e - 1

/-- The fraction, with the hidden bit of a normal number. -/
def significand (x : Ieee754 e m) : Nat :=
  if x.exponent = 0 then x.fraction else 2 ^ m + x.fraction

/-- The power of two the significand is scaled by. -/
def shift (x : Ieee754 e m) : Int := max x.exponent 1 - (2 ^ (e - 1) - 1) - m

/-- The absolute value of a finite number. -/
def magnitude (x : Ieee754 e m) : ℚ := x.significand * 2 ^ x.shift

theorem significand_lt (x : Ieee754 e m) : x.significand < 2 ^ (m + 1) := by
  have hfraction : x.fraction < 2 ^ m := Nat.mod_lt _ (Nat.two_pow_pos m)
  rw [significand, pow_succ]
  split_ifs <;> omega

/-- Positive zero. -/
def zero : Ieee754 e m := ⟨0#(1 + e + m)⟩

/-- The comparison `x == y`. -/
def equal (x y : Ieee754 e m) : Bool :=
  !x.isNaN && !y.isNaN && (decide (x.bits = y.bits) || (x.isZero && y.isZero))

end Ieee754
