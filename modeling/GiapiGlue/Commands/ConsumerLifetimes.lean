import GiapiGlue.Commands.JmsCommandUtil
import GiapiGlue.Lib.SharedMap

set_option autoImplicit false

/-! # How long the consumers of an activity holder live

An `ActivityHolder` keeps consumers alive through shared pointers only, and destroying a consumer is what
closes its JMS resources. Here the holder is the same, with the reference counts written out: every
parameter passed by value is one more pointer for as long as the call lasts. -/

namespace Giapi

/-- An `ActivityHolder` with the counts of the pointers to its consumers. `destroyed` lists the consumers
    whose destructor, and with it `cleanup()`, has run. -/
abbrev CountedHolder : Type := SharedMap Activity Ptr

namespace CountedHolder

/-- The holder without the counts. -/
def holder (s : CountedHolder) : ActivityHolder := { activityConsumerMap := s.slots }

/-- `registerConsumer(activity, consumer)`. -/
def registerActivity (activity : Activity) (consumer : Ptr) (s : CountedHolder) : CountedHolder :=
  ((s.acquire consumer).assign activity consumer).release consumer

/-- `registerConsumer(set, consumer)`. -/
def registerConsumer (set : ActivitySet) (consumer : Ptr) (s : CountedHolder) : CountedHolder :=
  let s := s.acquire consumer
  let s := match set with
    | .setPreset => registerActivity .preset consumer s
    | .setStart => registerActivity .start consumer s
    | .setPresetStart => registerActivity .presetStart consumer s
    | .setCancel => registerActivity .cancel consumer s
    | .setPresetCancel => registerActivity .cancel consumer (registerActivity .preset consumer s)
    | .setStartCancel => registerActivity .cancel consumer (registerActivity .start consumer s)
    | .setPresetStartCancel =>
      registerActivity .start consumer
        (registerActivity .cancel consumer (registerActivity .preset consumer s))
  s.release consumer

/-- A new consumer, registered. The subscribing call holds it in a local variable meanwhile. -/
def register (s : CountedHolder) (call : ActivitySet × Ptr) : CountedHolder :=
  (registerConsumer call.1 call.2 (s.acquire call.2)).release call.2

/-- The holder after a sequence of registrations. -/
abbrev after (calls : List (ActivitySet × Ptr)) : CountedHolder :=
  Run.after register SharedMap.empty calls

/-- Some activity refers to the consumer. -/
def Refers (s : CountedHolder) (consumer : Ptr) : Prop :=
  ∃ activity, s.holder.activityConsumerMap.lookup activity = some consumer

/-- The consumer of the last registration that stores it under the activity. -/
def lastFor (activity : Activity) (calls : List (ActivitySet × Ptr)) : Option Ptr :=
  (calls.filter (fun call => activity ∈ ActivityHolder.storedUnder call.1)).getLast?.map Prod.snd

/-! ## Erasing the counts -/

theorem holder_registerConsumer (set : ActivitySet) (consumer : Ptr) (s : CountedHolder) :
    (registerConsumer set consumer s).holder = s.holder.registerConsumer set consumer := by
  cases set <;> rfl

theorem holder_register (s : CountedHolder) (call : ActivitySet × Ptr) :
    (register s call).holder = s.holder.registerConsumer call.1 call.2 :=
  holder_registerConsumer call.1 call.2 (s.acquire call.2)

/-- Without the counts, a run registers the same consumers in the plain holder. -/
theorem holder_after (calls : List (ActivitySet × Ptr)) :
    (after calls).holder
      = Run.after (fun (holder : ActivityHolder) call => holder.registerConsumer call.1 call.2)
          ActivityHolder.empty calls := by
  induction calls using List.reverseRecOn with
  | nil => rfl
  | append_singleton calls call ih => rw [after, Run.after_concat, holder_register, ih, Run.after_concat]

/-! ## The counts -/

section WellCounted

variable {held created : List Ptr} {s : CountedHolder}

theorem wellCounted_registerActivity (h : s.WellCounted held created) {consumer : Ptr}
    (hc : consumer ∈ held) (activity : Activity) :
    (registerActivity activity consumer s).WellCounted held created :=
  ((h.acquire hc).assign List.mem_cons_self activity).release

theorem wellCounted_registerConsumer (h : s.WellCounted held created) {consumer : Ptr}
    (hc : consumer ∈ held) (set : ActivitySet) :
    (registerConsumer set consumer s).WellCounted held created := by
  have hparameter := h.acquire hc
  have one := fun {s : CountedHolder} (h : s.WellCounted (consumer :: held) created) activity =>
    wellCounted_registerActivity h List.mem_cons_self activity
  cases set with
  | setPreset => exact (one hparameter .preset).release
  | setStart => exact (one hparameter .start).release
  | setPresetStart => exact (one hparameter .presetStart).release
  | setCancel => exact (one hparameter .cancel).release
  | setPresetCancel => exact (one (one hparameter .preset) .cancel).release
  | setStartCancel => exact (one (one hparameter .start) .cancel).release
  | setPresetStartCancel => exact (one (one (one hparameter .preset) .cancel) .start).release

theorem wellCounted_register (h : s.WellCounted [] created) {call : ActivitySet × Ptr}
    (hfresh : call.2 ∉ created) : (register s call).WellCounted [] (call.2 :: created) :=
  (wellCounted_registerConsumer (h.create hfresh) List.mem_cons_self call.1).release

end WellCounted

/-- Between calls, the holder's entries are the only pointers to the consumers. -/
theorem wellCounted_after (calls : List (ActivitySet × Ptr)) (hfresh : (calls.map Prod.snd).Nodup) :
    (after calls).WellCounted [] (calls.map Prod.snd).reverse := by
  induction calls using List.reverseRecOn with
  | nil => exact SharedMap.wellCounted_empty
  | append_singleton calls call ih =>
      simp only [List.map_append, List.map_cons, List.map_nil, List.nodup_append'] at hfresh
      have hnew : call.2 ∉ (calls.map Prod.snd).reverse := by
        rw [List.mem_reverse]
        exact fun hmem => hfresh.2.2 hmem (by simp)
      rw [after, Run.after_concat]
      simpa using wellCounted_register (ih hfresh.1) hnew

theorem destroyed_prefix_registerActivity (activity : Activity) (consumer : Ptr) (s : CountedHolder) :
    s.counts.destroyed <+: (registerActivity activity consumer s).counts.destroyed :=
  (SharedMap.destroyed_prefix_assign activity consumer (s.acquire consumer)).trans
    (SharedCounts.destroyed_prefix_release consumer _)

theorem destroyed_prefix_registerConsumer (set : ActivitySet) (consumer : Ptr) (s : CountedHolder) :
    s.counts.destroyed <+: (registerConsumer set consumer s).counts.destroyed := by
  refine List.IsPrefix.trans ?_ (SharedCounts.destroyed_prefix_release consumer _)
  have one := fun activity (s : CountedHolder) =>
    destroyed_prefix_registerActivity activity consumer s
  cases set with
  | setPreset => exact one _ (s.acquire consumer)
  | setStart => exact one _ (s.acquire consumer)
  | setPresetStart => exact one _ (s.acquire consumer)
  | setCancel => exact one _ (s.acquire consumer)
  | setPresetCancel => exact (one _ (s.acquire consumer)).trans (one _ _)
  | setStartCancel => exact (one _ (s.acquire consumer)).trans (one _ _)
  | setPresetStartCancel =>
      exact ((one _ (s.acquire consumer)).trans (one _ _)).trans (one _ _)

/-- A registration destroys consumers, and brings none back. -/
theorem destroyed_prefix_register (s : CountedHolder) (call : ActivitySet × Ptr) :
    s.counts.destroyed <+: (register s call).counts.destroyed :=
  (destroyed_prefix_registerConsumer call.1 call.2 (s.acquire call.2)).trans
    (SharedCounts.destroyed_prefix_release call.2 _)

/-! ## The last registration of an activity -/

theorem lastFor_append (activity : Activity) (xs ys : List (ActivitySet × Ptr)) :
    lastFor activity (xs ++ ys) = (lastFor activity ys).or (lastFor activity xs) := by
  unfold lastFor
  rw [List.filter_append, List.getLast?_append]
  cases (ys.filter _).getLast? <;> simp

theorem lastFor_singleton (activity : Activity) (call : ActivitySet × Ptr) :
    lastFor activity [call]
      = if activity ∈ ActivityHolder.storedUnder call.1 then some call.2 else none := by
  unfold lastFor
  by_cases h : activity ∈ ActivityHolder.storedUnder call.1 <;> simp [h]

theorem lastFor_eq_none_iff (activity : Activity) (calls : List (ActivitySet × Ptr)) :
    lastFor activity calls = none
      ↔ ∀ call ∈ calls, activity ∉ ActivityHolder.storedUnder call.1 := by
  simp [lastFor]

theorem mem_of_lastFor {activity : Activity} {calls : List (ActivitySet × Ptr)} {consumer : Ptr}
    (h : lastFor activity calls = some consumer) : consumer ∈ calls.map Prod.snd := by
  obtain ⟨call, hlast, rfl⟩ := Option.map_eq_some_iff.1 h
  exact List.mem_map_of_mem (List.mem_of_mem_filter (List.mem_of_getLast? hlast))

theorem lookup_after (calls : List (ActivitySet × Ptr)) (activity : Activity) :
    (after calls).holder.activityConsumerMap.lookup activity = lastFor activity calls := by
  induction calls using List.reverseRecOn with
  | nil => rfl
  | append_singleton calls call ih =>
      rw [after, Run.after_concat, holder_register, ActivityHolder.registerConsumer_lookup, ih,
        lastFor_append, lastFor_singleton]
      split_ifs <;> simp

/-- A consumer is referred to as long as some activity it was stored under has not been taken over. -/
theorem refers_after_iff {earlier later : List (ActivitySet × Ptr)} {set : ActivitySet} {consumer : Ptr}
    (hfresh : ((earlier ++ (set, consumer) :: later).map Prod.snd).Nodup) :
    Refers (after (earlier ++ (set, consumer) :: later)) consumer
      ↔ ∃ activity ∈ ActivityHolder.storedUnder set,
          ∀ call ∈ later, activity ∉ ActivityHolder.storedUnder call.1 := by
  have hsplit : ∀ activity, lastFor activity (earlier ++ (set, consumer) :: later)
      = (lastFor activity later).or
          ((lastFor activity [(set, consumer)]).or (lastFor activity earlier)) := by
    intro activity
    rw [List.append_cons, lastFor_append, lastFor_append]
  simp only [List.map_append, List.map_cons, List.nodup_append', List.nodup_cons] at hfresh
  obtain ⟨-, ⟨hlater, -⟩, hearlier⟩ := hfresh
  simp only [Refers, lookup_after, hsplit, lastFor_singleton]
  constructor
  · intro h
    obtain ⟨activity, hlast⟩ := h
    cases hl : lastFor activity later with
    | some taken =>
        -- A later call took the activity over, and its consumer is another one.
        rw [hl, Option.some_or] at hlast
        obtain rfl := Option.some.inj hlast
        exact absurd (mem_of_lastFor hl) hlater
    | none =>
        rw [hl, Option.none_or] at hlast
        split_ifs at hlast with hset
        · exact ⟨activity, hset, (lastFor_eq_none_iff activity later).1 hl⟩
        · rw [Option.none_or] at hlast
          exact absurd List.mem_cons_self (hearlier (mem_of_lastFor hlast))
  · intro h
    obtain ⟨activity, hset, hkept⟩ := h
    refine ⟨activity, ?_⟩
    rw [(lastFor_eq_none_iff activity later).2 hkept, if_pos hset]
    rfl

/-- The consumer just registered is referred to. -/
theorem refers_registered {calls : List (ActivitySet × Ptr)} {call : ActivitySet × Ptr}
    (hfresh : ((calls ++ [call]).map Prod.snd).Nodup) : Refers (after (calls ++ [call])) call.2 := by
  obtain ⟨activity, hset⟩ := List.exists_mem_of_ne_nil _ (ActivityHolder.storedUnder_ne_nil call.1)
  exact (@refers_after_iff _ _ call.1 call.2 hfresh).2 ⟨activity, hset, by simp⟩

theorem refers_iff_mem_values (s : CountedHolder) (consumer : Ptr) :
    Refers s consumer ↔ consumer ∈ s.slots.values :=
  (UnorderedMap.mem_values_iff s.slots consumer).symm

/-- Exactly the registered consumers no activity refers to any more have been destroyed. -/
theorem mem_destroyed_after_iff {calls : List (ActivitySet × Ptr)}
    (hfresh : (calls.map Prod.snd).Nodup) (consumer : Ptr) :
    consumer ∈ (after calls).counts.destroyed
      ↔ consumer ∈ calls.map Prod.snd ∧ ¬ Refers (after calls) consumer := by
  have hcounted := wellCounted_after calls hfresh
  have hcount : (after calls).counts.useCount consumer = 0 ↔ ¬ Refers (after calls) consumer := by
    rw [hcounted.useCount_eq, refers_iff_mem_values, ← List.count_eq_zero]
    simp
  rw [hcounted.sound.mem_destroyed, hcount, List.mem_reverse]

/-- What one more registration destroys: the consumers that lose their last entry to it. -/
theorem destroyed_by_register {calls : List (ActivitySet × Ptr)} {call : ActivitySet × Ptr}
    (hfresh : ((calls ++ [call]).map Prod.snd).Nodup) :
    ∃ released, (after (calls ++ [call])).counts.destroyed
        = (after calls).counts.destroyed ++ released
      ∧ released.Nodup
      ∧ ∀ consumer, consumer ∈ released
          ↔ Refers (after calls) consumer ∧ ¬ Refers (after (calls ++ [call])) consumer := by
  have hfresh' := hfresh
  simp only [List.map_append, List.nodup_append'] at hfresh'
  obtain ⟨hbefore, -, hnew⟩ := hfresh'
  have hgrows : (after calls).counts.destroyed <+: (after (calls ++ [call])).counts.destroyed := by
    rw [after, after, Run.after_concat]
    exact destroyed_prefix_register _ call
  obtain ⟨released, hreleased⟩ := hgrows
  have hnodup : ((after calls).counts.destroyed ++ released).Nodup :=
    hreleased ▸ (wellCounted_after _ hfresh).sound.nodup
  obtain ⟨-, hreleasedNodup, hdisjoint⟩ := List.nodup_append'.1 hnodup
  refine ⟨released, hreleased.symm, hreleasedNodup, fun consumer => ?_⟩
  have hnow := mem_destroyed_after_iff hfresh consumer
  have hthen := mem_destroyed_after_iff hbefore consumer
  rw [← hreleased, List.mem_append] at hnow
  constructor
  · intro hmem
    have hdead := hnow.1 (Or.inr hmem)
    have hnot : consumer ∉ (after calls).counts.destroyed := fun hold => hdisjoint hold hmem
    -- The consumer of this very call is alive, so the destroyed one was registered before it.
    have hold : consumer ∈ calls.map Prod.snd := by
      rcases List.mem_append.1 (List.map_append ▸ hdead.1) with hold | hself
      · exact hold
      · have heq : consumer = call.2 := by simpa using hself
        exact absurd (refers_registered hfresh) (heq ▸ hdead.2)
    exact ⟨by_contra fun hgone => hnot (hthen.2 ⟨hold, hgone⟩), hdead.2⟩
  · intro h
    have hold : consumer ∈ calls.map Prod.snd := by
      obtain ⟨activity, hlookup⟩ := h.1
      rw [lookup_after] at hlookup
      exact mem_of_lastFor hlookup
    have hnot : consumer ∉ (after calls).counts.destroyed := fun hdead => (hthen.1 hdead).2 h.1
    exact (hnow.2 ⟨by simp [hold], h.2⟩).resolve_left hnot

/-- **Bookkeeping of an activity holder.** Every activity refers to the consumer of the last call whose
    set includes it, a consumer stays referred to precisely until the last activity of its set has been
    registered again, the counts are those of the entries, and a consumer is destroyed once, by the call
    that takes its last entry. -/
theorem registerConsumer_bookkeeping (calls : List (ActivitySet × Ptr))
    (hfresh : (calls.map Prod.snd).Nodup) :
    (∀ activity, (after calls).holder.activityConsumerMap.lookup activity = lastFor activity calls)
    ∧ (∀ earlier set consumer later, calls = earlier ++ (set, consumer) :: later →
        (Refers (after calls) consumer
          ↔ ∃ activity ∈ ActivityHolder.storedUnder set,
              ∀ call ∈ later, activity ∉ ActivityHolder.storedUnder call.1))
    ∧ (∀ consumer, (after calls).counts.useCount consumer
        = (after calls).holder.activityConsumerMap.values.count consumer)
    ∧ (∀ earlier call later, calls = earlier ++ call :: later →
        ∃ released, (after (earlier ++ [call])).counts.destroyed
            = (after earlier).counts.destroyed ++ released
          ∧ released.Nodup
          ∧ ∀ consumer, consumer ∈ released
              ↔ Refers (after earlier) consumer ∧ ¬ Refers (after (earlier ++ [call])) consumer)
    ∧ (after calls).counts.destroyed.Nodup := by
  have hcounted := wellCounted_after calls hfresh
  refine ⟨lookup_after calls, ?_, fun consumer => ?_, ?_, hcounted.sound.nodup⟩
  · intro earlier set consumer later hcalls
    subst hcalls
    exact refers_after_iff hfresh
  · rw [hcounted.useCount_eq]
    rfl
  · intro earlier call later hcalls
    have hpre : earlier ++ [call] <+: calls := ⟨later, by rw [hcalls]; simp⟩
    exact destroyed_by_register (hfresh.sublist (hpre.sublist.map Prod.snd))

theorem registerConsumer_bookkeeping_run :
    (after [(.setPresetStart, 0), (.setPresetCancel, 1), (.setCancel, 2), (.setPreset, 3)]).counts.destroyed
        = [1]
      ∧ (after [(.setPresetStart, 0), (.setPresetCancel, 1), (.setCancel, 2),
          (.setPreset, 3)]).counts.destroyed.Nodup :=
  ⟨by decide, (registerConsumer_bookkeeping [(.setPresetStart, 0), (.setPresetCancel, 1), (.setCancel, 2),
    (.setPreset, 3)] (by decide)).2.2.2.2⟩

end CountedHolder

end Giapi
