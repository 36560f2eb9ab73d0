import GiapiGlue.Lib.UnorderedMap

set_option autoImplicit false

/-! # A map of shared pointers

Objects owned by reference-counting pointers, some of them the values of a map and the others local to
the calls in progress. Every copy of a pointer is counted and every end of one is uncounted; the object
is destroyed when its count falls to zero. The invariant `WellCounted` says that the counts are those of
the pointers there are, and that exactly the objects no pointer refers to any more have been destroyed,
once each. -/

/-- How many pointers refer to each object, and the objects destroyed so far, in order. -/
structure SharedCounts (ρ : Type) where
  useCount : ρ → Nat
  destroyed : List ρ

namespace SharedCounts

variable {ρ : Type} [DecidableEq ρ]

/-- One more pointer to `p`: a new object's first one, or a copy. -/
def acquire (p : ρ) (s : SharedCounts ρ) : SharedCounts ρ :=
  { s with useCount := fun q => if q = p then s.useCount q + 1 else s.useCount q }

/-- A pointer to `p` ends. The last one destroys the object. -/
def release (p : ρ) (s : SharedCounts ρ) : SharedCounts ρ :=
  { useCount := fun q => if q = p then s.useCount q - 1 else s.useCount q
    destroyed := if s.useCount p = 1 then s.destroyed ++ [p] else s.destroyed }

@[simp] theorem destroyed_acquire (p : ρ) (s : SharedCounts ρ) :
    (s.acquire p).destroyed = s.destroyed := rfl

theorem destroyed_prefix_release (p : ρ) (s : SharedCounts ρ) :
    s.destroyed <+: (s.release p).destroyed := by
  unfold release
  split_ifs
  · exact List.prefix_append _ _
  · exact List.prefix_refl _

/-- Exactly the created objects without a pointer have been destroyed, once each. -/
structure Sound (created : List ρ) (s : SharedCounts ρ) : Prop where
  nodup : s.destroyed.Nodup
  mem_destroyed : ∀ p, p ∈ s.destroyed ↔ p ∈ created ∧ s.useCount p = 0
  mem_created : ∀ p, 0 < s.useCount p → p ∈ created

theorem Sound.acquire {created : List ρ} {s : SharedCounts ρ} (h : s.Sound created) {p : ρ}
    (hp : 0 < s.useCount p) : (s.acquire p).Sound created := by
  refine { nodup := h.nodup, mem_destroyed := fun q => ?_, mem_created := fun q hq => ?_ }
  · rw [destroyed_acquire, h.mem_destroyed]
    by_cases hqp : q = p
    · subst hqp
      simp [SharedCounts.acquire, hp.ne']
    · simp [SharedCounts.acquire, hqp]
  · by_cases hqp : q = p
    · subst hqp
      exact h.mem_created q hp
    · simp only [SharedCounts.acquire, if_neg hqp] at hq
      exact h.mem_created q hq

/-- The first pointer to a new object. -/
theorem Sound.create {created : List ρ} {s : SharedCounts ρ} (h : s.Sound created) {p : ρ}
    (hp : p ∉ created) : (s.acquire p).Sound (p :: created) := by
  have hnot : p ∉ s.destroyed := fun hd => hp ((h.mem_destroyed p).1 hd).1
  refine { nodup := h.nodup, mem_destroyed := fun q => ?_, mem_created := fun q hq => ?_ }
  · rw [destroyed_acquire]
    by_cases hqp : q = p
    · subst hqp
      simp [SharedCounts.acquire, hnot]
    · simp [SharedCounts.acquire, hqp, h.mem_destroyed]
  · by_cases hqp : q = p
    · simp [hqp]
    · simp only [SharedCounts.acquire, if_neg hqp] at hq
      exact List.mem_cons_of_mem _ (h.mem_created q hq)

theorem Sound.release {created : List ρ} {s : SharedCounts ρ} (h : s.Sound created) {p : ρ}
    (hp : 0 < s.useCount p) : (s.release p).Sound created := by
  have hnot : p ∉ s.destroyed := fun hd => hp.ne' ((h.mem_destroyed p).1 hd).2
  have hcreated : p ∈ created := h.mem_created p hp
  refine { nodup := ?_, mem_destroyed := fun q => ?_, mem_created := fun q hq => ?_ }
  · unfold SharedCounts.release
    split_ifs
    · exact h.nodup.append (List.nodup_singleton p) (by simpa using hnot)
    · exact h.nodup
  · by_cases hqp : q = p
    · subst hqp
      by_cases hone : s.useCount q = 1
      · simp [SharedCounts.release, hone, hcreated]
      · have hmore : s.useCount q - 1 ≠ 0 := by omega
        simp [SharedCounts.release, hone, hnot, hmore]
    · simp only [SharedCounts.release, if_neg hqp, ← h.mem_destroyed q]
      split_ifs <;> simp [hqp]
  · by_cases hqp : q = p
    · exact hqp ▸ hcreated
    · simp only [SharedCounts.release, if_neg hqp] at hq
      exact h.mem_created q hq

end SharedCounts

/-- A map whose values are shared pointers. -/
structure SharedMap (κ ρ : Type) where
  slots : UnorderedMap κ ρ
  counts : SharedCounts ρ

namespace SharedMap

variable {κ ρ : Type}

def empty : SharedMap κ ρ :=
  { slots := ∅
    counts := { useCount := fun _ => 0, destroyed := [] } }

variable [DecidableEq ρ]

/-- A pointer outside the map begins. -/
def acquire (p : ρ) (m : SharedMap κ ρ) : SharedMap κ ρ :=
  { m with counts := m.counts.acquire p }

/-- A pointer outside the map ends. -/
def release (p : ρ) (m : SharedMap κ ρ) : SharedMap κ ρ :=
  { m with counts := m.counts.release p }

/-- The pointers there are: those of the slots, and the `held` ones outside the map. -/
structure WellCounted (held created : List ρ) (m : SharedMap κ ρ) : Prop where
  sound : m.counts.Sound created
  useCount_eq : ∀ p, m.counts.useCount p = m.slots.values.count p + held.count p

theorem wellCounted_empty : WellCounted [] [] (empty : SharedMap κ ρ) :=
  { sound :=
      { nodup := List.nodup_nil
        mem_destroyed := fun p => by simp [empty]
        mem_created := fun p hp => absurd hp (by simp [empty]) }
    useCount_eq := fun p => by simp [empty, UnorderedMap.values] }

theorem WellCounted.useCount_pos {held created : List ρ} {m : SharedMap κ ρ}
    (h : m.WellCounted held created) {p : ρ} (hp : p ∈ held) : 0 < m.counts.useCount p := by
  have := List.count_pos_iff.2 hp
  rw [h.useCount_eq]
  omega

theorem WellCounted.create {held created : List ρ} {m : SharedMap κ ρ}
    (h : m.WellCounted held created) {p : ρ} (hp : p ∉ created) :
    (m.acquire p).WellCounted (p :: held) (p :: created) := by
  refine { sound := h.sound.create hp, useCount_eq := fun q => ?_ }
  have hq := h.useCount_eq q
  by_cases hqp : q = p
  · subst hqp
    simp only [acquire, SharedCounts.acquire, if_pos, List.count_cons_self]
    omega
  · simp [acquire, SharedCounts.acquire, hqp, Ne.symm hqp, hq]

theorem WellCounted.acquire {held created : List ρ} {m : SharedMap κ ρ}
    (h : m.WellCounted held created) {p : ρ} (hp : p ∈ held) :
    (m.acquire p).WellCounted (p :: held) created := by
  refine { sound := h.sound.acquire (h.useCount_pos hp), useCount_eq := fun q => ?_ }
  have hq := h.useCount_eq q
  by_cases hqp : q = p
  · subst hqp
    simp only [SharedMap.acquire, SharedCounts.acquire, if_pos, List.count_cons_self]
    omega
  · simp [SharedMap.acquire, SharedCounts.acquire, hqp, Ne.symm hqp, hq]

theorem WellCounted.release {held created : List ρ} {p : ρ} {m : SharedMap κ ρ}
    (h : m.WellCounted (p :: held) created) : (m.release p).WellCounted held created := by
  refine { sound := h.sound.release (h.useCount_pos List.mem_cons_self), useCount_eq := fun q => ?_ }
  have hq := h.useCount_eq q
  by_cases hqp : q = p
  · subst hqp
    rw [List.count_cons_self] at hq
    simp only [SharedMap.release, SharedCounts.release, if_pos]
    omega
  · rw [List.count_cons_of_ne (Ne.symm hqp)] at hq
    simp [SharedMap.release, SharedCounts.release, hqp, hq]

variable [DecidableEq κ]

/-- `m[k] = p`: the slot takes a copy of the pointer, and the one it held ends. -/
def assign (k : κ) (p : ρ) (m : SharedMap κ ρ) : SharedMap κ ρ :=
  let counts := m.counts.acquire p
  { slots := m.slots.insert k p
    counts := match m.slots.lookup k with
      | none => counts
      | some old => counts.release old }

theorem WellCounted.assign {held created : List ρ} {m : SharedMap κ ρ}
    (h : m.WellCounted held created) {p : ρ} (hp : p ∈ held) (k : κ) :
    (m.assign k p).WellCounted held created := by
  -- The copy first, so that a slot that already held `p` never lets its count fall to zero.
  have hcopy := h.acquire hp
  have hinsert := UnorderedMap.count_values_insert m.slots k p
  have hcons : ∀ q, (p :: held).count q = held.count q + [p].count q := by
    intro q
    simp [List.count_cons]
  unfold SharedMap.assign
  cases hold : m.slots.lookup k with
  | none =>
      refine { sound := hcopy.sound, useCount_eq := fun q => ?_ }
      have hq := (hcopy.useCount_eq q).trans (by rw [hcons q])
      have hslots := hinsert q
      rw [hold, Option.toList_none, List.count_nil] at hslots
      simp only [SharedMap.acquire] at hq
      simp only [hq]
      omega
  | some old =>
      have hstored : old ∈ m.slots.values := (UnorderedMap.mem_values_iff _ _).2 ⟨k, hold⟩
      have hused : 0 < (m.counts.acquire p).useCount old := by
        have hcount := hcopy.useCount_eq old
        have := List.count_pos_iff.2 hstored
        simp only [SharedMap.acquire] at hcount
        omega
      refine { sound := hcopy.sound.release hused, useCount_eq := fun q => ?_ }
      have hq := (hcopy.useCount_eq q).trans (by rw [hcons q])
      have hslots := hinsert q
      rw [hold, Option.toList_some] at hslots
      simp only [SharedMap.acquire] at hq
      by_cases hqo : q = old
      · subst hqo
        rw [List.count_singleton_self] at hslots
        simp only [SharedCounts.release, if_pos, hq]
        omega
      · rw [List.count_singleton, beq_eq_false_iff_ne.2 (Ne.symm hqo)] at hslots
        simp only [SharedCounts.release, if_neg hqo, hq]
        simp only [Bool.false_eq_true, if_false] at hslots
        omega

theorem destroyed_prefix_assign (k : κ) (p : ρ) (m : SharedMap κ ρ) :
    m.counts.destroyed <+: (m.assign k p).counts.destroyed := by
  unfold assign
  cases m.slots.lookup k with
  | none => exact List.prefix_refl _
  | some old => exact SharedCounts.destroyed_prefix_release old (m.counts.acquire p)

/-! ## What is destroyed between two states -/

section

omit [DecidableEq κ]

theorem WellCounted.mem_created_of_values {created : List ρ} {m : SharedMap κ ρ}
    (h : m.WellCounted [] created) {p : ρ} (hp : p ∈ m.slots.values) : p ∈ created := by
  refine h.sound.mem_created p ?_
  rw [h.useCount_eq]
  have := List.count_pos_iff.2 hp
  omega

/-- With no pointers outside the map, the objects that are left are those of its slots. -/
theorem WellCounted.mem_destroyed_iff {created : List ρ} {m : SharedMap κ ρ}
    (h : m.WellCounted [] created) (p : ρ) :
    p ∈ m.counts.destroyed ↔ p ∈ created ∧ p ∉ m.slots.values := by
  rw [h.sound.mem_destroyed, h.useCount_eq, List.count_nil, add_zero, List.count_eq_zero]

omit [DecidableEq ρ] in
/-- The objects destroyed since `m`, where it is followed by `m'`. -/
def gone (m m' : SharedMap κ ρ) : List ρ := m'.counts.destroyed.drop m.counts.destroyed.length

theorem gone_spec {created' : List ρ} {m m' : SharedMap κ ρ} (h' : m'.WellCounted [] created')
    (hlater : m.counts.destroyed <+: m'.counts.destroyed) :
    (gone m m').Nodup ∧ ∀ p, p ∈ gone m m' ↔ p ∈ m'.counts.destroyed ∧ p ∉ m.counts.destroyed := by
  obtain ⟨released, hreleased⟩ := hlater
  have hgone : gone m m' = released := by
    rw [gone, ← hreleased, List.drop_left]
  have hnodup := h'.sound.nodup
  rw [← hreleased, List.nodup_append'] at hnodup
  obtain ⟨-, hnew, hapart⟩ := hnodup
  rw [hgone, ← hreleased]
  refine ⟨hnew, fun p => ?_⟩
  rw [List.mem_append]
  constructor
  · intro hp
    exact ⟨Or.inr hp, fun hold => hapart hold hp⟩
  · rintro ⟨hp, hnot⟩
    exact hp.resolve_left hnot

/-- `clear()`: the pointers of all slots end. -/
def clear (m : SharedMap κ ρ) : SharedMap κ ρ :=
  m.slots.values.foldl (fun m p => m.release p) { m with slots := ∅ }

theorem WellCounted.releaseAll {held created ps : List ρ} {m : SharedMap κ ρ}
    (h : m.WellCounted (ps ++ held) created) :
    (ps.foldl (fun m p => m.release p) m).WellCounted held created := by
  induction ps generalizing m with
  | nil => exact h
  | cons p ps ih => exact ih h.release

theorem WellCounted.clear {held created : List ρ} {m : SharedMap κ ρ}
    (h : m.WellCounted held created) : m.clear.WellCounted held created := by
  refine WellCounted.releaseAll { sound := h.sound, useCount_eq := fun p => ?_ }
  have hp := h.useCount_eq p
  simp only [UnorderedMap.values, EmptyCollection.emptyCollection, List.map_nil,
    List.count_nil, List.count_append] at hp ⊢
  omega

theorem slots_clear (m : SharedMap κ ρ) : m.clear.slots = ∅ := by
  have hkept : ∀ (ps : List ρ) (m : SharedMap κ ρ),
      (ps.foldl (fun m p => m.release p) m).slots = m.slots := by
    intro ps
    induction ps with
    | nil => exact fun m => rfl
    | cons p ps ih => exact fun m => ih (m.release p)
  exact hkept _ _

theorem destroyed_prefix_clear (m : SharedMap κ ρ) : m.counts.destroyed <+: m.clear.counts.destroyed := by
  have hgrows : ∀ (ps : List ρ) (m : SharedMap κ ρ),
      m.counts.destroyed <+: (ps.foldl (fun m p => m.release p) m).counts.destroyed := by
    intro ps
    induction ps with
    | nil => exact fun m => List.prefix_refl _
    | cons p ps ih => exact fun m => (SharedCounts.destroyed_prefix_release p m.counts).trans (ih (m.release p))
  exact hgrows _ { m with slots := ∅ }

/-- Clearing a map destroys the objects of its slots, each once. -/
theorem WellCounted.gone_clear {created : List ρ} {m : SharedMap κ ρ} (h : m.WellCounted [] created) :
    (gone m m.clear).Nodup ∧ ∀ p, p ∈ gone m m.clear ↔ p ∈ m.slots.values := by
  obtain ⟨hnodup, hmem⟩ := gone_spec h.clear (destroyed_prefix_clear m)
  refine ⟨hnodup, fun p => ?_⟩
  have hempty : p ∉ m.clear.slots.values := by
    rw [slots_clear]
    exact List.not_mem_nil
  rw [hmem, h.clear.mem_destroyed_iff, h.mem_destroyed_iff]
  constructor
  · rintro ⟨⟨hcreated, -⟩, hleft⟩
    by_contra hp
    exact hleft ⟨hcreated, hp⟩
  · intro hp
    exact ⟨⟨h.mem_created_of_values hp, hempty⟩, fun hdestroyed => hdestroyed.2 hp⟩

end

end SharedMap
