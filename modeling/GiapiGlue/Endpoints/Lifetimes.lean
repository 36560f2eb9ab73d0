import GiapiGlue.Endpoints.Subscribed

set_option autoImplicit false

/-! # How long endpoints live

Over whole runs, with any pattern of failures and any losses of the connection, and to the end of the process:
what each endpoint has acquired and released, and which of them are never deleted. -/

namespace Giapi

namespace Library

variable {library : Library} {leaked lost : Set Nat} {service : Service}

/-! ## A step -/

theorem sound_subscribeCommand (h : library.Sound leaked lost) (env : EndpointKind → EndpointEnv)
    (topic : CxxString) (activities : ActivitySet) :
    (library.subscribeCommand env topic activities).2.Sound leaked lost := by
  unfold subscribeCommand
  obtain ⟨hsound, hcreated⟩ := h.getInstance .commandUtil env
  split
  · next e library' heq =>
      rw [heq] at hsound
      exact hsound
  · next library' heq =>
      rw [heq] at hsound hcreated
      dsimp only
      split
      · next e lines hconstruct => exact hsound.build hconstruct
      · next lines hconstruct =>
          exact hsound.register (hcreated rfl) activities (EndpointKind.construct_ok hconstruct)

theorem sound_subscribeEpicsStatus (h : library.Sound leaked lost) (env : EndpointKind → EndpointEnv)
    (authorised : Except Exn Bool) (name : CxxString) :
    (library.subscribeEpicsStatus env authorised name).2.Sound leaked lost := by
  unfold subscribeEpicsStatus
  obtain ⟨hsound, hcreated⟩ := h.getInstance .geminiUtil env
  split
  · next e library' heq =>
      rw [heq] at hsound
      exact hsound
  · next library' heq =>
      rw [heq] at hsound hcreated
      split
      · exact hsound
      · exact hsound
      · dsimp only
        split
        · next e lines hconstruct => exact hsound.build hconstruct
        · next lines hconstruct =>
            exact hsound.store (hcreated rfl) name (EndpointKind.construct_ok hconstruct)

theorem sound_unsubscribeEpicsStatus (h : library.Sound leaked lost) (env : EndpointKind → EndpointEnv)
    (authorised : Bool) (name : CxxString) :
    (library.unsubscribeEpicsStatus env authorised name).2.Sound leaked lost := by
  unfold unsubscribeEpicsStatus
  obtain ⟨hsound, hcreated⟩ := h.getInstance .geminiUtil env
  split
  · next e library' heq =>
      rw [heq] at hsound
      exact hsound
  · next library' heq =>
      rw [heq] at hsound hcreated
      split_ifs
      · exact hsound.erase (hcreated rfl) name
      · exact hsound

/-- What a lost connection closes, it closes once, and of the endpoints that are there. -/
theorem Sound.connectionLost (h : library.Sound leaked lost) :
    library.connectionLost.Sound leaked {n | n < library.estate.objects.length} := by
  have hobjects : library.estate.objects <+: library.connectionLost.estate.objects := by
    rw [Library.connectionLost, Estate.objects_extendAll]
  have hstanding : library.connectionLost.standing = library.standing := standing_withEstate library _
  refine { h.toIndexed.withEstate hobjects with
           kept := ?_, lost_lt := fun n hn => lt_of_lt_of_le hn hobjects.length_le }
  rw [hstanding]
  refine h.kept.extendAll (fun n hn kind lines hbegun => ?_) fun kind lines htidy => ?_
  · refine ⟨fun hnot => absurd hn hnot, fun _ => ?_⟩
    by_cases hlost : n ∈ lost
    · rw [hbegun.2 hlost, kind.disposed_cut, List.append_nil]
    · rw [hbegun.1 hlost]
      rfl
  · have hclosed := EndpointResource.disposed_of_balanced htidy.1
    rw [hclosed, List.append_nil]
    exact htidy

theorem step_sound (h : library.Sound leaked lost) {op : LibraryOp} (hop : op ≠ .connectionLost) :
    (step library op).Sound leaked lost := by
  cases op with
  | getInstance service env => exact (h.getInstance service env).1
  | subscribeCommand env topic activities => exact sound_subscribeCommand h env topic activities
  | subscribeEpicsStatus env authorised name => exact sound_subscribeEpicsStatus h env authorised name
  | unsubscribeEpicsStatus env authorised name => exact sound_unsubscribeEpicsStatus h env authorised name
  | connectionLost => exact absurd rfl hop

/-! ## Runs -/

theorem lost_concat_of_ne (ops : List LibraryOp) {op : LibraryOp} (hop : op ≠ .connectionLost) :
    Library.lost (ops ++ [op]) = Library.lost ops := by
  ext n
  constructor
  · rintro ⟨pre, hpre, hn⟩
    rcases List.prefix_concat_iff.1 hpre with heq | hpre
    · exact absurd (List.append_inj_right' heq rfl) (by simpa using hop.symm)
    · exact ⟨pre, hpre, hn⟩
  · rintro ⟨pre, hpre, hn⟩
    exact ⟨pre, hpre.trans (List.prefix_append _ _), hn⟩

theorem lost_concat_connectionLost (ops : List LibraryOp) :
    Library.lost (ops ++ [.connectionLost])
      = Library.lost ops ∪ {n | n < (after ops).estate.objects.length} := by
  ext n
  have hkind : (after ops).kind n ≠ none ↔ n < (after ops).estate.objects.length := by
    simp [Library.kind]
  constructor
  · rintro ⟨pre, hpre, hn⟩
    rcases List.prefix_concat_iff.1 hpre with heq | hpre
    · obtain rfl := List.append_cancel_right heq
      exact Or.inr (hkind.1 hn)
    · exact Or.inl ⟨pre, hpre, hn⟩
  · rintro (⟨pre, hpre, hn⟩ | hn)
    · exact ⟨pre, hpre.trans (List.prefix_append _ _), hn⟩
    · exact ⟨ops, List.prefix_refl _, hkind.2 hn⟩

/-- Nothing is leaked while the process runs. -/
theorem after_sound (ops : List LibraryOp) : (after ops).Sound ∅ (Library.lost ops) := by
  induction ops using List.reverseRecOn with
  | nil =>
      have hnone : Library.lost [] = ∅ := by
        ext n
        simp [Library.lost]
      rw [hnone]
      exact sound_initial
  | append_singleton ops op ih =>
      rw [after, Run.after_concat]
      by_cases hop : op = .connectionLost
      · subst hop
        have hthere : Library.lost ops ⊆ {n | n < (after ops).estate.objects.length} := ih.lost_lt
        rw [lost_concat_connectionLost, Set.union_eq_right.2 hthere]
        exact ih.connectionLost
      · rw [lost_concat_of_ne ops hop]
        exact step_sound ih hop

/-! ## The destructors -/

theorem Indexed.members_nodup (h : library.Indexed leaked) {ns : List Nat}
    (hns : library.members service = some ns) : ns.Nodup := by
  refine List.Nodup.of_map library.kind ?_
  rw [h.members service ns hns]
  exact service.members_nodup

theorem Indexed.mem_commandConsumers_iff (h : library.Indexed leaked) (n : Nat) :
    n ∈ library.commandConsumers
      ↔ ∃ topic holder, library.commandHolderMap.lookup topic = some holder
        ∧ n ∈ holder.slots.values := by
  simp only [commandConsumers, List.mem_flatMap]
  constructor
  · rintro ⟨⟨topic, holder⟩, hentry, hn⟩
    have hholder : library.commandHolderMap.lookup topic = some holder := AList.mem_lookup_iff.2 hentry
    obtain ⟨created, hcounted, -⟩ := h.holders topic holder hholder
    exact ⟨topic, holder, hholder, (hcounted.gone_clear.2 n).1 hn⟩
  · rintro ⟨topic, holder, hholder, hn⟩
    obtain ⟨created, hcounted, -⟩ := h.holders topic holder hholder
    exact ⟨⟨topic, holder⟩, AList.mem_lookup_iff.1 hholder, (hcounted.gone_clear.2 n).2 hn⟩

/-- No consumer is in the holders of two topics, or destroyed twice with one. -/
theorem Indexed.commandConsumers_nodup (h : library.Indexed leaked) : library.commandConsumers.Nodup := by
  have hkind : ∀ entry ∈ library.commandHolderMap.entries, ∀ n ∈ SharedMap.gone entry.2 entry.2.clear,
      library.kind n = some (.sequenceCommandConsumer entry.1) := by
    rintro ⟨topic, holder⟩ hentry n hn
    have hholder : library.commandHolderMap.lookup topic = some holder := AList.mem_lookup_iff.2 hentry
    obtain ⟨created, hcounted, hcreated⟩ := h.holders topic holder hholder
    exact hcreated n (hcounted.mem_created_of_values ((hcounted.gone_clear.2 n).1 hn))
  refine List.nodup_flatMap.2 ⟨?_, ?_⟩
  · rintro ⟨topic, holder⟩ hentry
    have hholder : library.commandHolderMap.lookup topic = some holder := AList.mem_lookup_iff.2 hentry
    obtain ⟨created, hcounted, -⟩ := h.holders topic holder hholder
    exact hcounted.gone_clear.1
  · have hkeys := List.nodupKeys_iff_pairwise.1 library.commandHolderMap.nodupKeys
    refine hkeys.imp_of_mem fun {x y} hx hy hne n hnx hny => hne ?_
    exact EndpointKind.sequenceCommandConsumer.inj
      (Option.some.inj ((hkind x hx n hnx).symm.trans (hkind y hy n hny)))

theorem Indexed.epicsConsumers_nodup (h : library.Indexed leaked) : library.epicsConsumersMap.values.Nodup := by
  have hkind : ∀ entry ∈ library.epicsConsumersMap.entries,
      library.kind entry.2 = some (.epicsConsumer entry.1) := by
    rintro ⟨name, n⟩ hentry
    exact h.consumers name n (AList.mem_lookup_iff.2 hentry)
  have hkeys := List.nodupKeys_iff_pairwise.1 library.epicsConsumersMap.nodupKeys
  refine List.pairwise_map.2 (hkeys.imp_of_mem fun {x y} hx hy hne heq => hne ?_)
  refine EndpointKind.epicsConsumer.inj (Option.some.inj ((hkind x hx).symm.trans ?_))
  rw [heq]
  exact hkind y hy

theorem perm_lastFourth (ns : List Nat) : (ns.eraseIdx 3 ++ (ns[3]?).toList).Perm ns := by
  by_cases h : 3 < ns.length
  · rw [List.getElem?_eq_getElem h, Option.toList_some]
    exact List.perm_append_comm.trans (List.getElem_cons_eraseIdx_perm h)
  · rw [List.getElem?_eq_none (by omega), Option.toList_none, List.append_nil,
      List.eraseIdx_of_length_le (by omega)]

/-- A destructor destroys what its singleton refers to, each once, apart from that of `DataUtilImpl`. -/
theorem Indexed.ending_spec (h : library.Indexed leaked) {ns : List Nat}
    (hns : library.members service = some ns) (hservice : service ≠ .dataUtil) :
    (library.ending ns service).Nodup ∧ ∀ n, n ∈ library.ending ns service ↔ library.Refers service n := by
  have hmembers := h.members_nodup hns
  have hreverse : ns.reverse.Nodup := List.nodup_reverse.2 hmembers
  have hmember : ∀ n ∈ ns, ∃ kind ∈ service.members, library.kind n = some kind := fun n hn =>
    h.kind_of_mem hns hn
  cases service with
  | dataUtil => exact absurd rfl hservice
  | statusSenderFactory =>
      refine ⟨hreverse, fun n => ⟨fun hn => .member hns (List.mem_reverse.1 hn), fun hn => ?_⟩⟩
      cases hn with
      | member hns' hn =>
          obtain rfl := Option.some.inj (hns.symm.trans hns')
          exact List.mem_reverse.2 hn
  | servicesUtil =>
      refine ⟨hreverse, fun n => ⟨fun hn => .member hns (List.mem_reverse.1 hn), fun hn => ?_⟩⟩
      cases hn with
      | member hns' hn =>
          obtain rfl := Option.some.inj (hns.symm.trans hns')
          exact List.mem_reverse.2 hn
  | commandUtil =>
      refine ⟨h.commandConsumers_nodup.append hreverse fun n hconsumer hn => ?_, fun n => ?_⟩
      · obtain ⟨topic, holder, hholder, hvalue⟩ := (h.mem_commandConsumers_iff n).1 hconsumer
        obtain ⟨kind, hmem, hkind⟩ := hmember n (List.mem_reverse.1 hn)
        obtain rfl := Option.some.inj ((h.kind_of_holder hholder hvalue).symm.trans hkind)
        exact (Service.not_consumer_of_members hmem).1 topic rfl
      · rw [ending, List.mem_append, h.mem_commandConsumers_iff, List.mem_reverse]
        constructor
        · rintro (⟨topic, holder, hholder, hvalue⟩ | hn)
          · exact .commandConsumer hholder hvalue
          · exact .member hns hn
        · intro hn
          cases hn with
          | member hns' hn =>
              obtain rfl := Option.some.inj (hns.symm.trans hns')
              exact Or.inr hn
          | commandConsumer hholder hvalue => exact Or.inl ⟨_, _, hholder, hvalue⟩
  | geminiUtil =>
      have hperm := perm_lastFourth ns
      refine ⟨h.epicsConsumers_nodup.append (hperm.nodup_iff.2 hmembers) fun n hconsumer hn => ?_,
        fun n => ?_⟩
      · obtain ⟨name, hlookup⟩ := (UnorderedMap.mem_values_iff _ n).1 hconsumer
        obtain ⟨kind, hmem, hkind⟩ := hmember n (hperm.mem_iff.1 hn)
        obtain rfl := Option.some.inj ((h.consumers name n hlookup).symm.trans hkind)
        exact (Service.not_consumer_of_members hmem).2 name rfl
      · rw [ending, List.mem_append, UnorderedMap.mem_values_iff, hperm.mem_iff]
        constructor
        · rintro (⟨name, hlookup⟩ | hn)
          · exact .epicsConsumer hlookup
          · exact .member hns hn
        · intro hn
          cases hn with
          | member hns' hn =>
              obtain rfl := Option.some.inj (hns.symm.trans hns')
              exact Or.inr hn
          | epicsConsumer hlookup => exact Or.inl ⟨_, hlookup⟩

theorem destroy_of_none (hmembers : library.members service = none) :
    library.destroy service = library := by
  rw [destroy, hmembers]

theorem members_destroy (library : Library) (service service' : Service) :
    (library.destroy service).members service'
      = if service' = service then none else library.members service' := by
  cases hmembers : library.members service with
  | none =>
      rw [destroy_of_none hmembers]
      by_cases heq : service' = service
      · rw [if_pos heq, heq, hmembers]
      · rw [if_neg heq]
  | some ns =>
      rw [destroy, hmembers]
      exact Function.update_apply ..

theorem refers_destroy_iff {ns : List Nat} (hns : library.members service = some ns) (service' : Service)
    (n : Nat) : (library.destroy service).Refers service' n
      ↔ library.Refers service' n ∧ service' ≠ service := by
  have hmembers := members_destroy library service
  have hdestroy : library.destroy service = demolish (library.ending ns service)
      { library with
        members := Function.update library.members service none
        commandHolderMap := if service = .commandUtil then ∅ else library.commandHolderMap
        epicsConsumersMap := if service = .geminiUtil then ∅ else library.epicsConsumersMap } := by
    rw [destroy, hns]
  have hholders : (library.destroy service).commandHolderMap
      = if service = .commandUtil then ∅ else library.commandHolderMap := by
    rw [hdestroy]
    rfl
  have hconsumers : (library.destroy service).epicsConsumersMap
      = if service = .geminiUtil then ∅ else library.epicsConsumersMap := by
    rw [hdestroy]
    rfl
  constructor
  · intro hn
    cases hn with
    | member hns' hn =>
        rw [hmembers] at hns'
        split_ifs at hns' with heq
        exact ⟨.member hns' hn, heq⟩
    | commandConsumer hholder hn =>
        rw [hholders] at hholder
        split_ifs at hholder with heq
        · simp at hholder
        · exact ⟨.commandConsumer hholder hn, Ne.symm heq⟩
    | epicsConsumer hn =>
        rw [hconsumers] at hn
        split_ifs at hn with heq
        · simp at hn
        · exact ⟨.epicsConsumer hn, Ne.symm heq⟩
  · rintro ⟨hn, hne⟩
    cases hn with
    | member hns' hn => exact .member (by rw [hmembers, if_neg hne, hns']) hn
    | commandConsumer hholder hn =>
        exact .commandConsumer (by rw [hholders, if_neg (Ne.symm hne), hholder]) hn
    | epicsConsumer hn => exact .epicsConsumer (by rw [hconsumers, if_neg (Ne.symm hne), hn])

/-- The members of `DataUtilImpl`, if it exists. -/
def dataMembers (library : Library) : Set Nat :=
  {n | ∃ ns, library.members .dataUtil = some ns ∧ n ∈ ns}

/-- What the end of a singleton leaks. -/
def leakedBy (library : Library) (service : Service) : Set Nat :=
  {n | service = .dataUtil ∧ n ∈ library.dataMembers}

theorem Indexed.destroy (h : library.Indexed leaked) (service : Service) :
    (library.destroy service).Indexed (leaked ∪ library.leakedBy service) := by
  have hleaks : ∀ n ∈ leaked ∪ library.leakedBy service,
      ∃ kind ∈ Service.dataUtil.members, library.kind n = some kind := by
    rintro n (hn | ⟨rfl, ns, hns, hn⟩)
    · exact h.leaks n hn
    · exact h.kind_of_mem hns hn
  cases hmembers : library.members service with
  | none =>
      rw [destroy_of_none hmembers]
      exact { h with leaks := hleaks }
  | some ns =>
      rw [Library.destroy, hmembers]
      have hobjects : library.estate.objects
          <+: (library.estate.extendAll EndpointKind.destroy (library.ending ns service)).objects := by
        rw [Estate.objects_extendAll]
      have hlater := h.withEstate hobjects
      refine { members := ?_, holders := ?_, consumers := ?_, idleCommandUtil := ?_, idleGeminiUtil := ?_,
               leaks := ?_ }
      · intro service' ns' hns'
        have hother := (Function.update_apply library.members service none service').symm.trans hns'
        split_ifs at hother
        exact hlater.members service' ns' hother
      · intro topic holder hholder
        have hlookup : (if service = .commandUtil then ∅ else library.commandHolderMap).lookup topic
            = some holder := hholder
        split_ifs at hlookup
        · simp at hlookup
        · exact hlater.holders topic holder hlookup
      · intro name n hn
        have hlookup : (if service = .geminiUtil then ∅ else library.epicsConsumersMap).lookup name
            = some n := hn
        split_ifs at hlookup
        · simp at hlookup
        · exact hlater.consumers name n hlookup
      · intro hnone
        have hother := (Function.update_apply library.members service none .commandUtil).symm.trans hnone
        show (if service = .commandUtil then ∅ else library.commandHolderMap) = ∅
        by_cases heq : service = .commandUtil
        · rw [if_pos heq]
        · rw [if_neg (Ne.symm heq)] at hother
          rw [if_neg heq, h.idleCommandUtil hother]
      · intro hnone
        have hother := (Function.update_apply library.members service none .geminiUtil).symm.trans hnone
        show (if service = .geminiUtil then ∅ else library.epicsConsumersMap) = ∅
        by_cases heq : service = .geminiUtil
        · rw [if_pos heq]
        · rw [if_neg (Ne.symm heq)] at hother
          rw [if_neg heq, h.idleGeminiUtil hother]
      · intro n hn
        obtain ⟨kind, hmem, hkind⟩ := hleaks n hn
        exact ⟨kind, hmem, kind_of_prefix hobjects hkind⟩

theorem objects_destroy (library : Library) (service : Service) :
    (library.destroy service).estate.objects = library.estate.objects := by
  unfold destroy
  split
  · rfl
  · exact Estate.objects_extendAll ..

/-- A singleton that is destroyed leaves its endpoints ended, or leaked. -/
theorem Sound.destroy (h : library.Sound leaked lost) (service : Service) :
    (library.destroy service).Sound (leaked ∪ library.leakedBy service) lost := by
  have hlost : ∀ n ∈ lost, n < (library.destroy service).estate.objects.length := by
    intro n hn
    rw [objects_destroy]
    exact h.lost_lt n hn
  refine { h.toIndexed.destroy service with kept := ?_, lost_lt := hlost }
  cases hmembers : library.members service with
  | none =>
      have hnothing : leaked ∪ library.leakedBy service = leaked := by
        refine Set.union_eq_left.2 ?_
        rintro n ⟨rfl, ns, hns, -⟩
        rw [hmembers] at hns
        cases hns
      rw [destroy_of_none hmembers, hnothing]
      exact h.kept
  | some ns =>
      have hestate : (library.destroy service).estate
          = library.estate.extendAll EndpointKind.destroy (library.ending ns service) := by
        rw [Library.destroy, hmembers]
        rfl
      have hstanding : ∀ n, n ∈ (library.destroy service).standing
          ↔ ∃ service', library.Refers service' n ∧ service' ≠ service := fun n => by
        simp only [standing, Set.mem_ofPred_eq, refers_destroy_iff hmembers]
      rw [hestate]
      by_cases hservice : service = .dataUtil
      · subst hservice
        -- nothing is destroyed, and what was referred to is leaked
        have hset : (library.destroy .dataUtil).standing ∪ (leaked ∪ library.leakedBy .dataUtil)
            = library.standing ∪ leaked := by
          ext n
          simp only [Set.mem_union, hstanding]
          constructor
          · rintro (⟨service', hn, -⟩ | hn | ⟨-, ns', hns', hn⟩)
            · exact Or.inl ⟨service', hn⟩
            · exact Or.inr hn
            · exact Or.inl ⟨_, .member hns' hn⟩
          · rintro (⟨service', hn⟩ | hn)
            · by_cases heq : service' = .dataUtil
              · subst heq
                cases hn with
                | member hns' hn => exact Or.inr (Or.inr ⟨rfl, _, hns', hn⟩)
              · exact Or.inl ⟨service', hn, heq⟩
            · exact Or.inr (Or.inl hn)
        rw [hset]
        exact h.kept
      · obtain ⟨hnodup, hmem⟩ := h.ending_spec hmembers hservice
        have hends := h.kept.extendAll_ending hnodup fun n hn => Or.inl ⟨service, (hmem n).1 hn⟩
        have hset : (library.destroy service).standing ∪ (leaked ∪ library.leakedBy service)
            = (library.standing ∪ leaked) \ {n | n ∈ library.ending ns service} := by
          ext n
          simp only [Set.mem_union, Set.mem_sdiff, Set.mem_ofPred_eq, hstanding, hmem]
          constructor
          · rintro (⟨service', hn, hne⟩ | hn | ⟨heq, -⟩)
            · exact ⟨Or.inl ⟨service', hn⟩, fun hends => hne (h.home_unique hn hends)⟩
            · exact ⟨Or.inr hn, fun hends => h.not_leaked hends hservice hn⟩
            · exact absurd heq hservice
          · rintro ⟨⟨service', hn⟩ | hn, hkeeps⟩
            · exact Or.inl ⟨service', hn, fun heq => hkeeps (heq ▸ hn)⟩
            · exact Or.inr (Or.inl hn)
        rw [hset]
        exact hends

/-! ## The end of the process -/

theorem members_exit (order : List Service) (library : Library) (service : Service) :
    (library.exit order).members service
      = if service ∈ order then none else library.members service := by
  induction order generalizing library with
  | nil => simp [exit]
  | cons first order ih =>
      show ((library.destroy first).exit order).members service = _
      rw [ih, members_destroy]
      by_cases heq : service = first
      · simp [heq]
      · simp [heq]

/-- The endpoints that are leaked in the end are the members `DataUtilImpl` had. -/
theorem Sound.exit (h : library.Sound leaked lost) (order : List Service) :
    (library.exit order).Sound (leaked ∪ {n | .dataUtil ∈ order ∧ n ∈ library.dataMembers}) lost := by
  induction order generalizing library leaked with
  | nil => simpa [Library.exit] using h
  | cons first order ih =>
      have hrest := ih (h.destroy first)
      have hset : leaked ∪ library.leakedBy first
            ∪ {n | .dataUtil ∈ order ∧ n ∈ (library.destroy first).dataMembers}
          = leaked ∪ {n | .dataUtil ∈ first :: order ∧ n ∈ library.dataMembers} := by
        ext n
        simp only [leakedBy, dataMembers, Set.mem_union, Set.mem_ofPred_eq, List.mem_cons, members_destroy]
        by_cases heq : Service.dataUtil = first
        · simp [← heq]
        · simp [heq, Ne.symm heq]
      rw [hset] at hrest
      exact hrest

/-- Without singletons, nothing stands. -/
theorem Indexed.standing_eq_empty (h : library.Indexed leaked)
    (hnone : ∀ service, library.members service = none) : library.standing = ∅ := by
  ext n
  refine iff_of_false ?_ id
  rintro ⟨service, hn⟩
  cases hn with
  | member hns hn =>
      rw [hnone] at hns
      cases hns
  | commandConsumer hholder hn =>
      rw [h.idleCommandUtil (hnone _)] at hholder
      simp at hholder
  | epicsConsumer hn =>
      rw [h.idleGeminiUtil (hnone _)] at hn
      simp at hn

/-- Two endpoints that are referred to are of different kinds, unless they are command consumers. -/
theorem Indexed.eq_of_kind (h : library.Indexed leaked) {kind : EndpointKind}
    (hkind : ∀ topic, kind ≠ .sequenceCommandConsumer topic) {m n : Nat} (hm : m ∈ library.standing)
    (hn : n ∈ library.standing) (hkm : library.kind m = some kind) (hkn : library.kind n = some kind) :
    m = n := by
  by_cases hname : ∃ name, kind = .epicsConsumer name
  · obtain ⟨name, rfl⟩ := hname
    have hlookup := h.lookup_of_kind hkm (Or.inl hm)
    rw [h.lookup_of_kind hkn (Or.inl hn)] at hlookup
    exact (Option.some.inj hlookup).symm
  · rw [not_exists] at hname
    -- both are members of the singleton the kind belongs to
    have hmember : ∀ p ∈ library.standing, library.kind p = some kind →
        ∃ ns, library.members kind.home = some ns ∧ p ∈ ns := by
      rintro p ⟨service, hp⟩ hkp
      obtain ⟨kind', hkind', rfl⟩ := h.home hp
      obtain rfl : kind = kind' := Option.some.inj (hkp.symm.trans hkind')
      generalize kind.home = service at hp
      cases hp with
      | member hns hp => exact ⟨_, hns, hp⟩
      | commandConsumer hholder hp =>
          exact absurd (Option.some.inj (hkp.symm.trans (h.kind_of_holder hholder hp))) (hkind _)
      | epicsConsumer hp => exact absurd (Option.some.inj (hkp.symm.trans (h.consumers _ _ hp))) (hname _)
    obtain ⟨ns, hns, hmem⟩ := hmember m hm hkm
    obtain ⟨ns', hns', hmem'⟩ := hmember n hn hkn
    obtain rfl := Option.some.inj (hns.symm.trans hns')
    have hnodup : (ns.map library.kind).Nodup := by
      rw [h.members _ ns hns]
      exact Service.members_nodup _
    exact List.inj_on_of_nodup_map hnodup hmem hmem' (hkm.trans hkn.symm)

/-- **Endpoints while the process runs.** Whatever fails, however often it is tried again and however often the
    connection is lost: an endpoint that a singleton refers to has what its constructor acquires, apart from
    what was closed if the connection has been lost since then; there is one of each kind at most, one of each
    channel among them, where the consumers of commands are not counted; and every other endpoint has released
    all it acquired, in order. -/
theorem endpoints_standing (ops : List LibraryOp) {n : Nat} {kind : EndpointKind}
    (hkind : (after ops).kind n = some kind) :
    (n ∈ (after ops).standing →
      (n ∉ Library.lost ops → (after ops).lines n = kind.born)
        ∧ (n ∈ Library.lost ops → (after ops).lines n = kind.cut))
    ∧ (n ∉ (after ops).standing → Tidy ((after ops).lines n))
    ∧ ((∀ topic, kind ≠ .sequenceCommandConsumer topic) → ∀ m, (after ops).kind m = some kind →
        m ∈ (after ops).standing → n ∈ (after ops).standing → m = n) := by
  have hsound := after_sound ops
  refine ⟨fun hn => hsound.kept.begun n kind hkind (Or.inl hn), fun hn => ?_, fun hother m hm hsm hsn => ?_⟩
  · exact hsound.kept.ended n kind hkind fun hmem => hn (hmem.resolve_right id)
  · exact hsound.eq_of_kind hother hsm hsn hm hkind

/-- **Endpoints at the end of the process.** In whatever order the singletons are destroyed: an endpoint has
    released all it acquired, in order, precisely if it was not a member of `DataUtilImpl`, which releases
    nothing. -/
theorem endpoints_at_exit (ops : List LibraryOp) {order : List Service}
    (hall : ∀ service, service ∈ order) {n : Nat} {kind : EndpointKind}
    (hkind : ((after ops).exit order).kind n = some kind) :
    Tidy (((after ops).exit order).lines n) ↔ n ∉ (after ops).dataMembers := by
  have hsound := (after_sound ops).exit order
  have hstanding : ((after ops).exit order).standing = ∅ :=
    hsound.standing_eq_empty fun service => by rw [members_exit, if_pos (hall service)]
  constructor
  · intro htidy hn
    have hbegun := hsound.kept.begun n kind hkind (Or.inr (Or.inr ⟨hall _, hn⟩))
    exact EndpointKind.not_tidy_of_begun hbegun htidy
  · intro hn
    refine hsound.kept.ended n kind hkind ?_
    rw [hstanding]
    rintro (hmem | hmem | ⟨-, hmem⟩)
    · exact hmem
    · exact hmem
    · exact hn hmem

/-- Nothing fails. -/
def workingEnv : EndpointEnv :=
  { connectionManager := .ok ()
    createSession := .ok ()
    createDestination := .ok ()
    createWorker := .ok ()
    configure := .ok ()
    channels := .timeout }

/-- The connection is lost once. The first attempt at `ServicesUtilImpl` fails at its second member, and one of
    `GeminiUtilImpl` at the request for the valid channels; a consumer takes over from another one. -/
def failingRun : List LibraryOp :=
  [.getInstance .dataUtil fun _ => workingEnv,
    .connectionLost,
    .getInstance .servicesUtil fun kind =>
      if kind = .logProducer then { workingEnv with createWorker := .error (str "down") } else workingEnv,
    .getInstance .geminiUtil fun _ => { workingEnv with channels := .cmsException (str "down") },
    .getInstance .servicesUtil fun _ => workingEnv,
    .subscribeCommand (fun _ => workingEnv) (str "gmp.sc.PARK") .setPresetCancel,
    .subscribeCommand (fun _ => workingEnv) (str "gmp.sc.PARK") .setPresetStartCancel]

/-- Only what was there before the second operation has lost its connection. -/
theorem lost_failingRun {n : Nat} (h : n ∈ Library.lost failingRun) :
    (after (failingRun.take 1)).kind n ≠ none := by
  obtain ⟨pre, ⟨rest, heq⟩, hn⟩ := h
  match pre with
  | [] => cases (List.cons.inj heq).1
  | [op] =>
      obtain rfl := (List.cons.inj heq).1
      exact hn
  | op :: op' :: pre =>
      -- there is no second loss
      have hlater : .connectionLost ∈ failingRun.drop 2 := by
        have htail := (List.cons.inj (List.cons.inj heq).2).2
        rw [← show pre ++ [.connectionLost] ++ rest = failingRun.drop 2 from htail]
        simp
      simp [failingRun] at hlater

/-- The producers from before the loss are closed, the request producer of the second attempt stands, and that of
    the first one has ended. -/
theorem failingRun_standing :
    (after failingRun).lines 0 = EndpointKind.obsEventProducer.cut
      ∧ (after failingRun).lines 5 = EndpointKind.requestProducer.born
      ∧ Tidy ((after failingRun).lines 2) := by
  have hold := @endpoints_standing failingRun 0 .obsEventProducer rfl
  have hsecond := @endpoints_standing failingRun 5 .requestProducer rfl
  have hfirst := @endpoints_standing failingRun 2 .requestProducer rfl
  have hstands : 5 ∈ (after failingRun).standing := ⟨.servicesUtil, .member rfl (by decide)⟩
  have hopen : 0 ∈ (after failingRun).standing := ⟨.dataUtil, .member rfl (by decide)⟩
  refine ⟨(hold.1 hopen).2 ?_, (hsecond.1 hstands).1 ?_, hfirst.2.1 fun hn => ?_⟩
  · exact ⟨failingRun.take 1, ⟨failingRun.drop 2, rfl⟩, Option.some_ne_none EndpointKind.obsEventProducer⟩
  · exact fun hlost => lost_failingRun hlost rfl
  · exact absurd (hsecond.2.2 nofun 2 rfl hn hstands) (by decide)

/-- In the end the producers of `DataUtilImpl` are not deleted; the EPICS manager that failed and the command
    consumer that was taken over from have released all they had. -/
theorem failingRun_at_exit :
    let library := (after failingRun).exit
      [.geminiUtil, .dataUtil, .commandUtil, .servicesUtil, .statusSenderFactory]
    ¬ Tidy (library.lines 0) ∧ Tidy (library.lines 4) ∧ Tidy (library.lines 8) := by
  have hall : ∀ service : Service, service ∈ [Service.geminiUtil, .dataUtil, .commandUtil, .servicesUtil,
      .statusSenderFactory] := fun service => by cases service <;> decide
  have hdata : ∀ n, n ∈ (after failingRun).dataMembers ↔ n = 0 ∨ n = 1 := fun n =>
    ⟨fun ⟨ns, hns, hn⟩ => by
      obtain rfl := Option.some.inj ((rfl : some [0, 1] = _).trans hns)
      simpa using hn, fun hn => ⟨[0, 1], rfl, by simpa using hn⟩⟩
  refine ⟨fun h => ?_, ?_, ?_⟩
  · exact (@endpoints_at_exit failingRun _ hall 0 .obsEventProducer rfl).1 h ((hdata 0).2 (Or.inl rfl))
  · refine (@endpoints_at_exit failingRun _ hall 4 .epicsManager rfl).2 fun hn => ?_
    exact absurd ((hdata 4).1 hn) (by decide)
  · refine (@endpoints_at_exit failingRun _ hall 8 (.sequenceCommandConsumer (str "gmp.sc.PARK")) rfl).2
      fun hn => ?_
    exact absurd ((hdata 8).1 hn) (by decide)

end Library

end Giapi
