import GiapiGlue.Endpoints.Standing

set_option autoImplicit false

/-! # Subscriptions keep the invariant

A consumer that takes over the last activity of another one, or its channel, ends it. -/

namespace Giapi

namespace CountedHolder

variable {holder : CountedHolder} {created : List Ptr} {activities : ActivitySet} {consumer : Ptr}

theorem lookup_register (holder : CountedHolder) (activities : ActivitySet) (consumer : Ptr)
    (activity : Activity) : (holder.register (activities, consumer)).slots.lookup activity
      = if activity ∈ ActivityHolder.storedUnder activities then some consumer
        else holder.slots.lookup activity := by
  have hholder := holder_register holder (activities, consumer)
  have hlookup := ActivityHolder.registerConsumer_lookup activities consumer holder.holder activity
  rw [← hholder] at hlookup
  exact hlookup

theorem registered_mem (holder : CountedHolder) (activities : ActivitySet) (consumer : Ptr) :
    consumer ∈ (holder.register (activities, consumer)).slots.values := by
  obtain ⟨activity, hstored⟩ := List.exists_mem_of_ne_nil _ (ActivityHolder.storedUnder_ne_nil activities)
  exact (UnorderedMap.mem_values_iff _ _).2 ⟨activity, by rw [lookup_register, if_pos hstored]⟩

theorem mem_registered {p : Ptr} (hp : p ∈ (holder.register (activities, consumer)).slots.values) :
    p = consumer ∨ p ∈ holder.slots.values := by
  obtain ⟨activity, hlookup⟩ := (UnorderedMap.mem_values_iff _ _).1 hp
  rw [lookup_register] at hlookup
  split_ifs at hlookup
  · exact Or.inl (Option.some.inj hlookup).symm
  · exact Or.inr ((UnorderedMap.mem_values_iff _ _).2 ⟨activity, hlookup⟩)

/-- A registration destroys the consumers that lose their last activity to it, each once. -/
theorem gone_register (h : holder.WellCounted [] created) (hfresh : consumer ∉ created) :
    (SharedMap.gone holder (holder.register (activities, consumer))).Nodup ∧
      ∀ p, p ∈ SharedMap.gone holder (holder.register (activities, consumer)) ↔
        p ∈ holder.slots.values ∧ p ∉ (holder.register (activities, consumer)).slots.values := by
  have hcounted := @wellCounted_register created holder h (activities, consumer) hfresh
  obtain ⟨hnodup, hmem⟩ :=
    SharedMap.gone_spec hcounted (destroyed_prefix_register holder (activities, consumer))
  refine ⟨hnodup, fun p => ?_⟩
  rw [hmem, hcounted.mem_destroyed_iff, h.mem_destroyed_iff]
  constructor
  · rintro ⟨⟨hcreated, hlost⟩, hstood⟩
    have hother : p ≠ consumer := fun heq => hlost (heq ▸ registered_mem holder activities consumer)
    have hold := List.mem_of_ne_of_mem hother hcreated
    exact ⟨by_contra fun hp => hstood ⟨hold, hp⟩, hlost⟩
  · rintro ⟨hp, hlost⟩
    have hold := h.mem_created_of_values hp
    exact ⟨⟨List.mem_cons_of_mem _ hold, hlost⟩, fun hdestroyed => hdestroyed.2 hp⟩

end CountedHolder

namespace Library

variable {library : Library} {leaked lost : Set Nat}

/-! ## What the singletons refer to -/

/-- The holder of a topic, one without consumers if there is none. -/
def holderOf (library : Library) (topic : CxxString) : CountedHolder :=
  (library.commandHolderMap.lookup topic).getD SharedMap.empty

theorem refers_of_holderOf {topic : CxxString} {n : Nat}
    (hn : n ∈ (library.holderOf topic).slots.values) : library.Refers .commandUtil n := by
  unfold holderOf at hn
  cases hholder : library.commandHolderMap.lookup topic with
  | none =>
      rw [hholder] at hn
      exact absurd hn List.not_mem_nil
  | some holder =>
      rw [hholder] at hn
      exact .commandConsumer hholder hn

theorem Indexed.holderOf (h : library.Indexed leaked) (topic : CxxString) :
    ∃ created, (library.holderOf topic).WellCounted [] created ∧
      ∀ n ∈ created, library.kind n = some (.sequenceCommandConsumer topic) := by
  unfold Library.holderOf
  cases hholder : library.commandHolderMap.lookup topic with
  | none => exact ⟨[], SharedMap.wellCounted_empty, fun n hn => absurd hn List.not_mem_nil⟩
  | some holder => exact h.holders topic holder hholder

/-- The consumers of a topic are what refers to endpoints of their kind. -/
theorem Indexed.mem_holderOf (h : library.Indexed leaked) {topic : CxxString} {n : Nat}
    (hkind : library.kind n = some (.sequenceCommandConsumer topic)) (hn : n ∈ library.standing ∪ leaked) :
    n ∈ (library.holderOf topic).slots.values := by
  rcases hn with ⟨service, hn⟩ | hn
  · cases hn with
    | member hns hn =>
        obtain ⟨kind, hmem, hkind'⟩ := h.kind_of_mem hns hn
        obtain rfl := Option.some.inj (hkind.symm.trans hkind')
        exact absurd rfl ((Service.not_consumer_of_members hmem).1 topic)
    | commandConsumer hholder hn =>
        have hkind' := h.kind_of_holder hholder hn
        obtain rfl := EndpointKind.sequenceCommandConsumer.inj (Option.some.inj (hkind.symm.trans hkind'))
        unfold Library.holderOf
        rw [hholder]
        exact hn
    | epicsConsumer hn => cases Option.some.inj (hkind.symm.trans (h.consumers _ _ hn))
  · obtain ⟨kind, hmem, hkind'⟩ := h.leaks n hn
    obtain rfl := Option.some.inj (hkind.symm.trans hkind')
    exact absurd rfl ((Service.not_consumer_of_members hmem).1 topic)

/-- The consumer of a channel is what refers to endpoints of its kind. -/
theorem Indexed.lookup_of_kind (h : library.Indexed leaked) {name : CxxString} {n : Nat}
    (hkind : library.kind n = some (.epicsConsumer name)) (hn : n ∈ library.standing ∪ leaked) :
    library.epicsConsumersMap.lookup name = some n := by
  rcases hn with ⟨service, hn⟩ | hn
  · cases hn with
    | member hns hn =>
        obtain ⟨kind, hmem, hkind'⟩ := h.kind_of_mem hns hn
        obtain rfl := Option.some.inj (hkind.symm.trans hkind')
        exact absurd rfl ((Service.not_consumer_of_members hmem).2 name)
    | commandConsumer hholder hn =>
        cases Option.some.inj (hkind.symm.trans (h.kind_of_holder hholder hn))
    | epicsConsumer hn =>
        obtain rfl := EndpointKind.epicsConsumer.inj
          (Option.some.inj (hkind.symm.trans (h.consumers _ _ hn)))
        exact hn
  · obtain ⟨kind, hmem, hkind'⟩ := h.leaks n hn
    obtain rfl := Option.some.inj (hkind.symm.trans hkind')
    exact absurd rfl ((Service.not_consumer_of_members hmem).2 name)

/-! ## Command consumers -/

section Commands

variable {topic : CxxString} {activities : ActivitySet}

theorem lookup_commandHolderMap_register (library : Library) (topic : CxxString)
    (activities : ActivitySet) (consumer : Nat) (topic' : CxxString) :
    (library.register topic activities consumer).commandHolderMap.lookup topic'
      = if topic' = topic then some ((library.holderOf topic).register (activities, consumer))
        else library.commandHolderMap.lookup topic' :=
  UnorderedMap.lookup_insert_if ..

/-- What is referred to after a registration: all but the consumers of the topic, and its new ones. -/
theorem Indexed.refers_register_iff (h : library.Indexed leaked) (consumer : Nat) (service : Service) (n : Nat) :
    (library.register topic activities consumer).Refers service n
      ↔ (library.Refers service n ∧ library.kind n ≠ some (.sequenceCommandConsumer topic))
        ∨ (service = .commandUtil
          ∧ n ∈ ((library.holderOf topic).register (activities, consumer)).slots.values) := by
  constructor
  · intro hn
    cases hn with
    | member hns hn =>
        obtain ⟨kind, hmem, hkind⟩ := h.kind_of_mem hns hn
        refine Or.inl ⟨.member hns hn, fun hother => ?_⟩
        obtain rfl := Option.some.inj (hother.symm.trans hkind)
        exact (Service.not_consumer_of_members hmem).1 topic rfl
    | commandConsumer hholder hn =>
        rw [lookup_commandHolderMap_register] at hholder
        split_ifs at hholder with htopic
        · obtain rfl := Option.some.inj hholder
          exact Or.inr ⟨rfl, hn⟩
        · refine Or.inl ⟨.commandConsumer hholder hn, fun hother => htopic ?_⟩
          exact EndpointKind.sequenceCommandConsumer.inj
            (Option.some.inj ((h.kind_of_holder hholder hn).symm.trans hother))
    | epicsConsumer hn =>
        refine Or.inl ⟨.epicsConsumer hn, fun hother => ?_⟩
        cases Option.some.inj ((h.consumers _ _ hn).symm.trans hother)
  · rintro (⟨hn, hkind⟩ | ⟨rfl, hn⟩)
    · cases hn with
      | member hns hn => exact .member hns hn
      | @commandConsumer topic' holder _ hholder hn =>
          have htopic : topic' ≠ topic := by
            rintro rfl
            exact hkind (h.kind_of_holder hholder hn)
          exact .commandConsumer (by rw [lookup_commandHolderMap_register, if_neg htopic, hholder]) hn
      | epicsConsumer hn => exact .epicsConsumer hn
    · exact .commandConsumer (by rw [lookup_commandHolderMap_register, if_pos rfl]) hn

theorem Indexed.register (h : library.Indexed leaked) (hcreated : library.members .commandUtil ≠ none)
    {consumer : Nat} {created : List Ptr} (hcounted : (library.holderOf topic).WellCounted [] created)
    (hkinds : ∀ n ∈ consumer :: created, library.kind n = some (.sequenceCommandConsumer topic))
    (hfresh : consumer ∉ created) : (library.register topic activities consumer).Indexed leaked := by
  have hlater := @Indexed.withEstate library leaked h (library.register topic activities consumer).estate
    (by rw [Library.register, demolish, Estate.objects_extendAll])
  constructor
  · exact hlater.members
  · intro topic' holder hholder
    rw [lookup_commandHolderMap_register] at hholder
    split_ifs at hholder with htopic
    · obtain rfl := Option.some.inj hholder
      refine ⟨consumer :: created,
        @CountedHolder.wellCounted_register _ _ hcounted (activities, consumer) hfresh, fun n hn => ?_⟩
      rw [htopic]
      exact kind_of_prefix (by rw [Library.register, demolish, Estate.objects_extendAll]) (hkinds n hn)
    · exact hlater.holders topic' holder hholder
  · exact hlater.consumers
  · exact fun hnone => absurd hnone hcreated
  · exact hlater.idleGeminiUtil
  · exact hlater.leaks

/-- A registration ends what it takes the last activity from. -/
theorem Indexed.register_kept (h : library.Indexed leaked) {consumer : Nat} {created : List Ptr}
    (hcounted : (library.holderOf topic).WellCounted [] created)
    (hkinds : ∀ n ∈ consumer :: created, library.kind n = some (.sequenceCommandConsumer topic))
    (hfresh : consumer ∉ created)
    (hkept : library.estate.Kept (EndpointKind.lives lost) (insert consumer (library.standing ∪ leaked))) :
    (library.register topic activities consumer).estate.Kept (EndpointKind.lives lost)
      ((library.register topic activities consumer).standing ∪ leaked) := by
  obtain ⟨hnodup, hgone⟩ := @CountedHolder.gone_register _ _ activities _ hcounted hfresh
  have hkindOf : ∀ n ∈ (library.holderOf topic).slots.values,
      library.kind n = some (.sequenceCommandConsumer topic) := fun n hn =>
    hkinds n (List.mem_cons_of_mem _ (hcounted.mem_created_of_values hn))
  have hends := hkept.extendAll_ending hnodup fun n hn =>
    Or.inr (Or.inl ⟨_, refers_of_holderOf ((hgone n).1 hn).1⟩)
  have hset : (library.register topic activities consumer).standing ∪ leaked
      = insert consumer (library.standing ∪ leaked)
        \ {n | n ∈ SharedMap.gone (library.holderOf topic)
            ((library.holderOf topic).register (activities, consumer))} := by
    ext n
    simp only [standing, Set.mem_union, Set.mem_sdiff, Set.mem_insert_iff, Set.mem_ofPred_eq, hgone,
      h.refers_register_iff]
    constructor
    · rintro (⟨service, ⟨hn, hkind⟩ | ⟨rfl, hn⟩⟩ | hn)
      · exact ⟨Or.inr (Or.inl ⟨service, hn⟩), fun hlost => hkind (hkindOf n hlost.1)⟩
      · refine ⟨?_, fun hlost => hlost.2 hn⟩
        rcases CountedHolder.mem_registered hn with rfl | hold
        · exact Or.inl rfl
        · exact Or.inr (Or.inl ⟨_, refers_of_holderOf hold⟩)
      · exact ⟨Or.inr (Or.inr hn), fun hlost =>
          h.not_leaked (refers_of_holderOf hlost.1) (by decide) hn⟩
    · rintro ⟨rfl | hn, hkeeps⟩
      · exact Or.inl ⟨_, Or.inr ⟨rfl, CountedHolder.registered_mem _ _ _⟩⟩
      · -- a consumer of the topic that was not lost is registered still
        by_cases hkind : library.kind n = some (.sequenceCommandConsumer topic)
        · have hold := h.mem_holderOf hkind hn
          exact Or.inl ⟨_, Or.inr ⟨rfl, by_contra fun hlost => hkeeps ⟨hold, hlost⟩⟩⟩
        · rcases hn with ⟨service, hn⟩ | hn
          · exact Or.inl ⟨service, Or.inl ⟨hn, hkind⟩⟩
          · exact Or.inr hn
  rw [hset]
  exact hends

/-- A new consumer is built and registered. -/
theorem Sound.register (h : library.Sound leaked lost) (hcreated : library.members .commandUtil ≠ none)
    (activities : ActivitySet) {lines : Ledger EndpointResource}
    (hlines : lines = (EndpointKind.sequenceCommandConsumer topic).born) :
    ((library.build (.sequenceCommandConsumer topic) lines).register topic activities
      library.estate.objects.length).Sound leaked lost := by
  obtain ⟨created, hcounted, hkinds⟩ := h.toIndexed.holderOf topic
  have hfresh : library.estate.objects.length ∉ created := fun hn =>
    lt_irrefl _ (List.getElem?_eq_some_iff.1 (hkinds _ hn)).1
  have hkept := h.kept.build_begun (h.begun_born le_rfl hlines)
  have hindexed : (library.build (.sequenceCommandConsumer topic) lines).Indexed leaked :=
    h.toIndexed.withEstate (List.prefix_append _ _)
  have hstanding : (library.build (.sequenceCommandConsumer topic) lines).standing = library.standing :=
    standing_withEstate _ _
  have hkinds' : ∀ n ∈ library.estate.objects.length :: created,
      (library.build (.sequenceCommandConsumer topic) lines).kind n
        = some (.sequenceCommandConsumer topic) := by
    intro n hn
    rcases List.mem_cons.1 hn with rfl | hn
    · exact List.getElem?_concat_length
    · exact kind_of_prefix (List.prefix_append _ _) (hkinds n hn)
  exact { hindexed.register hcreated hcounted hkinds' hfresh with
    kept := hindexed.register_kept hcounted hkinds' hfresh (hstanding ▸ hkept)
    lost_lt := fun n hn => by
      have := h.lost_lt n hn
      rw [Library.register, demolish, Estate.objects_extendAll]
      simp only [Library.build, Estate.objects_build, List.length_append]
      omega }

end Commands

/-! ## EPICS consumers -/

section Channels

variable {name : CxxString} {consumers : UnorderedMap CxxString Nat} {new : Option Nat}

/-- What is referred to after a change at a name: all but the consumer of the channel, and the new one. -/
theorem Indexed.refers_replaceConsumer_iff (h : library.Indexed leaked)
    (hnew : ∀ name', consumers.lookup name'
      = if name' = name then new else library.epicsConsumersMap.lookup name') (service : Service) (n : Nat) :
    (library.replaceConsumer name consumers).Refers service n
      ↔ (library.Refers service n ∧ library.kind n ≠ some (.epicsConsumer name))
        ∨ (service = .geminiUtil ∧ new = some n) := by
  constructor
  · intro hn
    cases hn with
    | member hns hn =>
        obtain ⟨kind, hmem, hkind⟩ := h.kind_of_mem hns hn
        refine Or.inl ⟨.member hns hn, fun hother => ?_⟩
        obtain rfl := Option.some.inj (hother.symm.trans hkind)
        exact (Service.not_consumer_of_members hmem).2 name rfl
    | commandConsumer hholder hn =>
        refine Or.inl ⟨.commandConsumer hholder hn, fun hother => ?_⟩
        cases Option.some.inj ((h.kind_of_holder hholder hn).symm.trans hother)
    | epicsConsumer hn =>
        have hlookup := (hnew _).symm.trans hn
        split_ifs at hlookup with hname
        · exact Or.inr ⟨rfl, hlookup⟩
        · refine Or.inl ⟨.epicsConsumer hlookup, fun hother => hname ?_⟩
          exact EndpointKind.epicsConsumer.inj
            (Option.some.inj ((h.consumers _ _ hlookup).symm.trans hother))
  · rintro (⟨hn, hkind⟩ | ⟨rfl, hn⟩)
    · cases hn with
      | member hns hn => exact .member hns hn
      | commandConsumer hholder hn => exact .commandConsumer hholder hn
      | @epicsConsumer name' _ hn =>
          have hname : name' ≠ name := by
            rintro rfl
            exact hkind (h.consumers _ _ hn)
          exact .epicsConsumer ((hnew name').trans (by rw [if_neg hname, hn]))
    · exact .epicsConsumer ((hnew name).trans (by rw [if_pos rfl, hn]))

/-- A change at a name ends the consumer that was there. -/
theorem Indexed.replaceConsumer (h : library.Indexed leaked)
    (hlost : ∀ n ∈ lost, n < library.estate.objects.length) (hcreated : library.members .geminiUtil ≠ none)
    (hnew : ∀ name', consumers.lookup name'
      = if name' = name then new else library.epicsConsumersMap.lookup name')
    (hkind : ∀ n, new = some n → library.kind n = some (.epicsConsumer name))
    (hfresh : ∀ n, new = some n → n ∉ library.standing)
    (hkept : library.estate.Kept (EndpointKind.lives lost) (library.standing ∪ leaked ∪ {n | new = some n})) :
    (library.replaceConsumer name consumers).Sound leaked lost := by
  have hobjects : library.estate.objects
      <+: (library.replaceConsumer name consumers).estate.objects := by
    rw [Library.replaceConsumer, demolish, Estate.objects_extendAll]
  have hlater := @Indexed.withEstate library leaked h _ hobjects
  refine { members := hlater.members, holders := hlater.holders, consumers := ?_,
           idleCommandUtil := hlater.idleCommandUtil, idleGeminiUtil := fun hnone => absurd hnone hcreated,
           leaks := hlater.leaks, kept := ?_,
           lost_lt := fun n hn => (hlost n hn).trans_le hobjects.length_le }
  · intro name' n hn
    have hlookup := (hnew name').symm.trans hn
    split_ifs at hlookup with hname
    · exact kind_of_prefix hobjects (hname ▸ hkind n hlookup)
    · exact hlater.consumers name' n hlookup
  · have hends := @Estate.Kept.extendAll_ending _ _ _ _ _ hkept (library.epicsConsumersMap.lookup name).toList
      (by cases library.epicsConsumersMap.lookup name <;> simp)
      fun n hn => Or.inl (Or.inl ⟨_, .epicsConsumer (Option.mem_toList.1 hn)⟩)
    have hset : (library.replaceConsumer name consumers).standing ∪ leaked
        = (library.standing ∪ leaked ∪ {n | new = some n})
          \ {n | n ∈ (library.epicsConsumersMap.lookup name).toList} := by
      ext n
      simp only [standing, Set.mem_union, Set.mem_sdiff, Set.mem_ofPred_eq, Option.mem_toList,
        h.refers_replaceConsumer_iff hnew]
      constructor
      · rintro (⟨service, ⟨hn, hother⟩ | ⟨rfl, hn⟩⟩ | hn)
        · exact ⟨Or.inl (Or.inl ⟨service, hn⟩), fun hlost => hother (h.consumers _ _ hlost)⟩
        · exact ⟨Or.inr hn, fun hlost => hfresh n hn ⟨_, .epicsConsumer hlost⟩⟩
        · exact ⟨Or.inl (Or.inr hn), fun hlost => h.not_leaked (.epicsConsumer hlost) (by decide) hn⟩
      · rintro ⟨(⟨service, hn⟩ | hn) | hn, hkeeps⟩
        · refine Or.inl ⟨service, Or.inl ⟨hn, fun hsame => hkeeps ?_⟩⟩
          exact h.lookup_of_kind hsame (Or.inl ⟨service, hn⟩)
        · exact Or.inr hn
        · exact Or.inl ⟨_, Or.inr ⟨rfl, hn⟩⟩
    rw [hset]
    exact hends

/-- A new consumer is built and stored. -/
theorem Sound.store (h : library.Sound leaked lost) (hcreated : library.members .geminiUtil ≠ none)
    (name : CxxString) {lines : Ledger EndpointResource}
    (hlines : lines = (EndpointKind.epicsConsumer name).born) :
    ((library.build (.epicsConsumer name) lines).store name library.estate.objects.length).Sound leaked
      lost := by
  have hkept := h.kept.build_begun (h.begun_born le_rfl hlines)
  have hindexed : (library.build (.epicsConsumer name) lines).Indexed leaked :=
    h.toIndexed.withEstate (List.prefix_append _ _)
  have hstanding : (library.build (.epicsConsumer name) lines).standing = library.standing :=
    standing_withEstate _ _
  have hlost : ∀ n ∈ lost, n < (library.build (.epicsConsumer name) lines).estate.objects.length := by
    intro n hn
    have := h.lost_lt n hn
    simp only [Library.build, Estate.objects_build, List.length_append]
    omega
  refine @Indexed.replaceConsumer _ _ _ _ _ (some library.estate.objects.length) hindexed hlost hcreated
    (fun name' => UnorderedMap.lookup_insert_if ..) (fun n hn => ?_) (fun n hn => ?_) ?_
  · obtain rfl := Option.some.inj hn
    exact List.getElem?_concat_length
  · obtain rfl := Option.some.inj hn
    rw [hstanding]
    exact fun hmem => lt_irrefl _ (h.kept.known _ (Or.inl hmem))
  · have hset : insert library.estate.objects.length (library.standing ∪ leaked)
        = (library.build (.epicsConsumer name) lines).standing ∪ leaked
          ∪ {n | some library.estate.objects.length = some n} := by
      rw [hstanding]
      ext n
      simp [eq_comm, or_comm]
    exact hset ▸ hkept

theorem Sound.erase (h : library.Sound leaked lost) (hcreated : library.members .geminiUtil ≠ none)
    (name : CxxString) : (library.erase name).Sound leaked lost := by
  refine @Indexed.replaceConsumer _ _ _ _ _ none h.toIndexed h.lost_lt hcreated
    (fun name' => UnorderedMap.lookup_erase_if ..) nofun nofun ?_
  have hset : library.standing ∪ leaked
      = library.standing ∪ leaked ∪ {n | (none : Option Nat) = some n} := by
    ext n
    simp
  exact hset ▸ h.kept

end Channels

end Library

end Giapi
