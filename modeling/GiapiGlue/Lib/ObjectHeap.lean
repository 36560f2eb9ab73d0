import Mathlib

set_option autoImplicit false

/-! # Objects on a heap

Objects of one type that are created, updated in place and referred to by address, never freed: a list
indexed by the address. What reading gives after an allocation and after an update, in `if` form. -/

/-- The objects allocated so far; the address of an object is its index. -/
abbrev ObjectHeap (α : Type) : Type := List α

namespace ObjectHeap

variable {α : Type} {heap : ObjectHeap α}

theorem lt_of_getElem? {p : Nat} {x : α} (hp : heap[p]? = some x) : p < heap.length :=
  (List.getElem?_eq_some_iff.1 hp).1

/-- After an allocation: the new object at the first free address, the others where they were. -/
theorem getElem?_alloc (heap : ObjectHeap α) (x : α) (p : Nat) :
    (heap ++ [x])[p]? = if p = heap.length then some x else heap[p]? := by
  rcases Nat.lt_trichotomy p heap.length with h | h | h
  · rw [List.getElem?_append_left h, if_neg (Nat.ne_of_lt h)]
  · subst h; simp
  · rw [if_neg (Nat.ne_of_gt h), List.getElem?_eq_none (by simp; omega),
      List.getElem?_eq_none (Nat.le_of_lt h)]

theorem getElem?_alloc_of_some {p : Nat} {x : α} (hp : heap[p]? = some x) (y : α) :
    (heap ++ [y])[p]? = some x := by
  rw [getElem?_alloc, if_neg (Nat.ne_of_lt (lt_of_getElem? hp)), hp]

/-- After an update: the new object at its address, the others what they were. -/
theorem getElem?_set_of_some {p : Nat} {x : α} (hp : heap[p]? = some x) (y : α) (q : Nat) :
    (heap.set p y)[q]? = if q = p then some y else heap[q]? := by
  have hlt : p < heap.length := lt_of_getElem? hp
  rw [List.getElem?_set]
  by_cases hq : p = q
  · rw [if_pos hq, if_pos hlt, if_pos hq.symm]
  · rw [if_neg hq, if_neg (fun h => hq h.symm)]

end ObjectHeap
