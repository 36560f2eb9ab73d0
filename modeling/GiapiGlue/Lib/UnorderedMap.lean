import Mathlib

set_option autoImplicit false

/-! # Hash maps as association lists with unique keys

Mathlib's `AList` is the map; this adds the `operator[]` that inserts what it does not find, and
reading a stored value back after an update in `if` form. No result depends on the entry order. -/

/-- A finite map with one entry for each key. -/
abbrev UnorderedMap (κ ν : Type) : Type := AList (fun _ : κ => ν)

namespace UnorderedMap

variable {κ ν : Type} [DecidableEq κ]

theorem lookup_insert_if (m : UnorderedMap κ ν) (k : κ) (v : ν) (j : κ) :
    (m.insert k v).lookup j = if j = k then some v else m.lookup j := by
  by_cases h : j = k
  · subst h; simp [AList.lookup_insert]
  · rw [if_neg h]; exact AList.lookup_insert_ne h

theorem lookup_insert_eq_some_iff (m : UnorderedMap κ ν) (k : κ) (v : ν) (j : κ) (w : ν) :
    (m.insert k v).lookup j = some w ↔ (j = k ∧ w = v) ∨ (j ≠ k ∧ m.lookup j = some w) := by
  rw [lookup_insert_if]
  split_ifs with h
  · simp [h, eq_comm]
  · simp [h]

theorem lookup_erase_if (m : UnorderedMap κ ν) (k j : κ) :
    (m.erase k).lookup j = if j = k then none else m.lookup j := by
  by_cases h : j = k
  · subst h; simp [AList.lookup_erase]
  · rw [if_neg h]; exact AList.lookup_erase_ne h

/-- `m[k]` read as a value: an absent key is first inserted with the default value. -/
def subscript (m : UnorderedMap κ ν) (dflt : ν) (k : κ) : ν × UnorderedMap κ ν :=
  match m.lookup k with
  | some v => (v, m)
  | none => (dflt, m.insert k dflt)

theorem subscript_fst (m : UnorderedMap κ ν) (dflt : ν) (k : κ) :
    (m.subscript dflt k).1 = (m.lookup k).getD dflt := by
  unfold subscript
  cases h : m.lookup k <;> simp

/-- Reading `m[k]` leaves every key mapped to what it was mapped to, up to the default. -/
theorem lookup_subscript_getD (m : UnorderedMap κ ν) (dflt : ν) (k j : κ) :
    ((m.subscript dflt k).2.lookup j).getD dflt = (m.lookup j).getD dflt := by
  unfold subscript
  cases h : m.lookup k with
  | some v => rfl
  | none =>
      rw [lookup_insert_if]
      by_cases hj : j = k
      · subst hj; simp [h]
      · simp [hj]

/-- Reading `m[k]` changes no other entry. -/
theorem lookup_subscript_ne (m : UnorderedMap κ ν) (dflt : ν) {k j : κ} (h : j ≠ k) :
    (m.subscript dflt k).2.lookup j = m.lookup j := by
  unfold subscript
  cases m.lookup k with
  | some v => rfl
  | none => rw [lookup_insert_if, if_neg h]

/-- Reading `m[k]` leaves every stored value in place. -/
theorem lookup_subscript_of_some (m : UnorderedMap κ ν) (dflt : ν) (k : κ) {j : κ} {v : ν}
    (h : m.lookup j = some v) : (m.subscript dflt k).2.lookup j = some v := by
  unfold subscript
  cases hk : m.lookup k with
  | some w => exact h
  | none =>
      have hne : j ≠ k := by
        rintro rfl
        rw [hk] at h
        exact absurd h (by simp)
      rw [lookup_insert_if, if_neg hne, h]

/-- The values the map holds. -/
def values (m : UnorderedMap κ ν) : List ν := m.entries.map Sigma.snd

theorem mem_values_iff (m : UnorderedMap κ ν) (v : ν) :
    v ∈ m.values ↔ ∃ k, m.lookup k = some v := by
  simp only [values, List.mem_map]
  constructor
  · rintro ⟨⟨k, w⟩, hmem, rfl⟩
    exact ⟨k, AList.mem_lookup_iff.2 hmem⟩
  · rintro ⟨k, hk⟩
    exact ⟨⟨k, v⟩, AList.mem_lookup_iff.1 hk, rfl⟩

theorem map_snd_filter_key (k : κ) {entries : List (Sigma fun _ : κ => ν)} (h : entries.NodupKeys) :
    (entries.filter (fun entry => entry.1 = k)).map Sigma.snd = (entries.dlookup k).toList := by
  induction entries with
  | nil => rfl
  | cons entry entries ih =>
      obtain ⟨hfresh, hrest⟩ := List.nodupKeys_cons.1 h
      obtain ⟨j, v⟩ := entry
      by_cases hj : j = k
      · subst hj
        have hnone : entries.filter (fun entry => entry.1 = j) = [] := by
          rw [List.filter_eq_nil_iff]
          intro other hother heq
          have hkey : other.1 = j := of_decide_eq_true heq
          have hmem : other.1 ∈ entries.keys := List.mem_keys_of_mem hother
          exact hfresh (hkey ▸ hmem)
        rw [List.filter_cons_of_pos (by simp), hnone, List.dlookup_cons_eq]
        rfl
      · have hlookup : List.dlookup k ((⟨j, v⟩ : Sigma fun _ : κ => ν) :: entries)
            = List.dlookup k entries :=
          List.dlookup_cons_ne entries _ (Ne.symm hj)
        rw [List.filter_cons_of_neg (by simpa using hj), hlookup]
        exact ih hrest

/-- The values that meet a test only the value of `k` can meet. -/
theorem values_filter_eq {m : UnorderedMap κ ν} {k : κ} {p : ν → Bool}
    (h : ∀ j v, m.lookup j = some v → (p v ↔ j = k)) :
    m.values.filter p = (m.lookup k).toList := by
  have hentries : m.entries.filter (p ∘ Sigma.snd) = m.entries.filter (fun entry => entry.1 = k) := by
    refine List.filter_congr fun entry hentry => ?_
    rw [Bool.eq_iff_iff, decide_eq_true_iff]
    exact h entry.1 entry.2 (AList.mem_lookup_iff.2 hentry)
  rw [values, List.filter_map, hentries]
  exact map_snd_filter_key k m.nodupKeys

/-- An overwritten slot refers to its new value, and to its old one no more. -/
theorem count_values_insert [DecidableEq ν] (m : UnorderedMap κ ν) (k : κ) (v w : ν) :
    (values (m.insert k v)).count w + (m.lookup k).toList.count w
      = m.values.count w + [v].count w := by
  unfold values
  rw [AList.entries_insert, List.map_cons]
  by_cases hk : k ∈ m.entries.keys
  · obtain ⟨old, before, later, -, heq, herase⟩ := List.exists_of_kerase hk
    have hlookup : m.lookup k = some old := AList.mem_lookup_iff.2 (by simp [heq])
    rw [herase, hlookup, heq]
    simp only [List.map_append, List.map_cons, List.count_append, List.count_cons, List.count_nil,
      Option.toList_some]
    omega
  · have hlookup : m.lookup k = none := AList.lookup_eq_none.2 hk
    rw [List.kerase_of_notMem_keys hk, hlookup]
    simp only [List.count_cons, List.count_nil, Option.toList_none]
    omega

end UnorderedMap
