import Mathlib

set_option autoImplicit false

/-! # Machine words as byte strings

A `w`-bit word laid out in `k` bytes, least or most significant byte first, and read back. -/

namespace Words

/-- The `k` low bytes of `n`, least significant first. -/
def bytesLE : Nat → Nat → List UInt8
  | 0, _ => []
  | k + 1, n => UInt8.ofNat n :: bytesLE k (n / 256)

/-- The number a byte string stands for, least significant byte first. -/
def natLE : List UInt8 → Nat
  | [] => 0
  | b :: bs => b.toNat + 256 * natLE bs

@[simp] theorem length_bytesLE (k n : Nat) : (bytesLE k n).length = k := by
  induction k generalizing n with
  | zero => rfl
  | succ k ih => simp [bytesLE, ih]

theorem natLE_bytesLE (k n : Nat) : natLE (bytesLE k n) = n % 256 ^ k := by
  induction k generalizing n with
  | zero => simp [bytesLE, natLE, Nat.mod_one]
  | succ k ih =>
      have hlow : (UInt8.ofNat n).toNat = n % 256 := by simp [UInt8.toNat_ofNat']
      rw [bytesLE, natLE, ih, hlow, pow_succ, Nat.mul_comm (256 ^ k) 256, Nat.mod_mul]

/-- A word in `k` bytes of host memory, least significant byte first. -/
def toLE {w : Nat} (k : Nat) (x : BitVec w) : List UInt8 := bytesLE k x.toNat

/-- The word stored in host memory. -/
def ofLE (w : Nat) (bs : List UInt8) : BitVec w := BitVec.ofNat w (natLE bs)

/-- A word in `k` bytes of a stream, most significant byte first. -/
def toBE {w : Nat} (k : Nat) (x : BitVec w) : List UInt8 := (toLE k x).reverse

/-- The word read from a stream. -/
def ofBE (w : Nat) (bs : List UInt8) : BitVec w := ofLE w bs.reverse

@[simp] theorem length_toLE {w : Nat} (k : Nat) (x : BitVec w) : (toLE k x).length = k :=
  length_bytesLE k x.toNat

@[simp] theorem length_toBE {w : Nat} (k : Nat) (x : BitVec w) : (toBE k x).length = k := by
  simp [toBE]

/-- Host memory gives the stored word back. -/
theorem ofLE_toLE {w k : Nat} (hk : w ≤ 8 * k) (x : BitVec w) : ofLE w (toLE k x) = x := by
  have hpow : x.toNat < 256 ^ k :=
    calc x.toNat < 2 ^ w := x.isLt
      _ ≤ 2 ^ (8 * k) := Nat.pow_le_pow_right (by norm_num) hk
      _ = 256 ^ k := by rw [Nat.pow_mul]
  rw [ofLE, toLE, natLE_bytesLE, Nat.mod_eq_of_lt hpow, BitVec.ofNat_toNat, BitVec.setWidth_eq]

/-- A stream gives the written word back. -/
theorem ofBE_toBE {w k : Nat} (hk : w ≤ 8 * k) (x : BitVec w) : ofBE w (toBE k x) = x := by
  rw [ofBE, toBE, List.reverse_reverse, ofLE_toLE hk]

theorem bytesLE_natLE (bs : List UInt8) : bytesLE bs.length (natLE bs) = bs := by
  induction bs with
  | nil => rfl
  | cons b bs ih =>
      have hlow : UInt8.ofNat (b.toNat + 256 * natLE bs) = b := by
        apply UInt8.toNat_inj.1
        have := b.toNat_lt
        simp only [UInt8.toNat_ofNat']
        omega
      have hhigh : (b.toNat + 256 * natLE bs) / 256 = natLE bs := by
        have := b.toNat_lt
        omega
      rw [List.length_cons, natLE, bytesLE, hlow, hhigh, ih]

theorem natLE_lt (bs : List UInt8) : natLE bs < 256 ^ bs.length := by
  induction bs with
  | nil => simp [natLE]
  | cons b bs ih =>
      have := b.toNat_lt
      rw [natLE, List.length_cons, pow_succ]
      omega

/-- A stream holds the bytes of the word read from it. -/
theorem toBE_ofBE {w k : Nat} (hk : w = 8 * k) {bs : List UInt8} (hlen : bs.length = k) :
    toBE k (ofBE w bs) = bs := by
  have hlen' : bs.reverse.length = k := by rw [List.length_reverse, hlen]
  have hsmall : natLE bs.reverse < 2 ^ w := by
    rw [hk, Nat.pow_mul, ← hlen']
    exact natLE_lt bs.reverse
  rw [toBE, toLE, ofBE, ofLE, BitVec.toNat_ofNat, Nat.mod_eq_of_lt hsmall, ← hlen', bytesLE_natLE,
    List.reverse_reverse]

end Words
