import Mathlib

set_option autoImplicit false

/-! # Allocated memory

A block of allocated bytes, where `none` is a byte that was never written. Loads and stores are checked:
one that does not lie inside the block is the error `oob`. -/

/-- The bytes of an allocation. -/
abbrev Block : Type := List (Option UInt8)

namespace Block

universe u

variable {ε : Type u} (oob : ε)

/-- A new block of `n` bytes. -/
def alloc (n : Nat) : Block := List.replicate n none

/-- A block with the given contents. -/
def ofBytes (bytes : List UInt8) : Block := bytes.map some

/-- Copy `bytes` to `offset`. -/
def store (block : Block) (offset : Nat) (bytes : Block) : Except ε Block :=
  if offset + bytes.length ≤ block.length then
    .ok (block.take offset ++ bytes ++ block.drop (offset + bytes.length))
  else
    .error oob

/-- The `n` bytes from `offset` on. -/
def load (block : Block) (offset n : Nat) : Except ε Block :=
  if offset + n ≤ block.length then .ok ((block.drop offset).take n) else .error oob

/-- The block resized to `n` bytes: what fits is kept, what is added was never written. -/
def realloc (block : Block) (n : Nat) : Block :=
  block.take n ++ List.replicate (n - block.length) none

/-- The contents, when all of it was written. -/
def known (block : Block) : Option (List UInt8) := block.mapM id

@[simp] theorem length_alloc (n : Nat) : (alloc n).length = n := List.length_replicate

@[simp] theorem length_ofBytes (bytes : List UInt8) : (ofBytes bytes).length = bytes.length :=
  List.length_map some

theorem ofBytes_append (as bs : List UInt8) : ofBytes (as ++ bs) = ofBytes as ++ ofBytes bs :=
  List.map_append

theorem length_store {block block' : Block} {offset : Nat} {bytes : Block}
    (h : block.store oob offset bytes = .ok block') :
    block'.length = block.length ∧ offset + bytes.length ≤ block.length := by
  unfold store at h
  split at h
  · next hin =>
      refine ⟨?_, hin⟩
      rw [← Except.ok.inj h]
      simp only [List.length_append, List.length_take, List.length_drop]
      omega
  · exact absurd h (by simp)

theorem store_ok {block bytes : Block} {offset : Nat} (h : offset + bytes.length ≤ block.length) :
    ∃ block', block.store oob offset bytes = .ok block' ∧ block'.length = block.length := by
  cases hstore : block.store oob offset bytes with
  | error e => rw [store, if_pos h] at hstore; exact absurd hstore (by simp)
  | ok block' => exact ⟨block', rfl, (length_store oob hstore).1⟩

/-- Filling a whole block. -/
theorem store_all {block : Block} {bytes : Block} (h : bytes.length = block.length) :
    block.store oob 0 bytes = .ok bytes := by
  rw [store, if_pos (by omega), List.take_zero, List.nil_append, Nat.zero_add, h, List.drop_length,
    List.append_nil]

/-- Growing a block by what is then stored at its end. -/
theorem store_realloc (block bytes : Block) :
    (block.realloc (block.length + bytes.length)).store oob block.length bytes
      = .ok (block ++ bytes) := by
  have hlen : (block.realloc (block.length + bytes.length)).length
      = block.length + bytes.length := by
    rw [realloc, List.length_append, List.length_take, List.length_replicate]
    omega
  rw [store, if_pos (Nat.le_of_eq hlen.symm), List.drop_of_length_le (Nat.le_of_eq hlen),
    List.append_nil, realloc, List.take_of_length_le (Nat.le_add_right _ _), List.take_left]

theorem load_all (block : Block) : block.load oob 0 block.length = .ok block := by
  rw [load, if_pos (by omega), List.drop_zero, List.take_length]

end Block
