import GiapiGlue.Commands.JmsCommandUtil

set_option autoImplicit false

/-! # Subscriptions along a run

What a successful subscription changes, what every other call leaves alone (`step_cases`), and the two
things that can go wrong over a run: an older consumer that keeps receiving what a newer one was
subscribed to, and an activity that no consumer receives any more. Both come from the difference
between the activities a selector lists and the activities the consumer is stored under. -/

namespace Giapi

namespace CommandService

/-- The map of holders. It is empty as long as there is no singleton. -/
def holderMap (s : CommandService) : UnorderedMap CxxString (Option ActivityHolder) :=
  match s.commandUtil with
  | some commandUtil => commandUtil.commandHolderMap
  | none => ∅

theorem holder_eq (s : CommandService) (topic : CxxString) :
    s.holder topic = ((s.holderMap.lookup topic).getD none).getD .empty := by
  unfold holder holderMap
  cases s.commandUtil <;> rfl

theorem referenced_eq (s : CommandService) :
    s.referenced = s.holderMap.values.flatMap (fun holder =>
      (holder.getD .empty).activityConsumerMap.values) := by
  unfold referenced holderMap
  cases s.commandUtil <;> rfl

/-- The consumer the holder of a topic has for an activity. -/
def entry (s : CommandService) (topic : CxxString) (activity : Activity) : Option Ptr :=
  (s.holder topic).activityConsumerMap.lookup activity

/-- Some entry of some holder refers to the consumer. -/
def Live (s : CommandService) (p : Ptr) : Prop := ∃ topic activity, s.entry topic activity = some p

/-- The consumer is on the topic and its selector lists the activity. -/
def Accepts (s : CommandService) (topic : CxxString) (activity : Activity) (p : Ptr) : Prop :=
  ∃ consumer, s.consumers[p]? = some consumer ∧ consumer.topic = topic ∧
    consumer.receives activity = true

/-- The broker delivers messages for the activity on the topic to the consumer. -/
def Receives (s : CommandService) (topic : CxxString) (activity : Activity) (p : Ptr) : Prop :=
  s.Live p ∧ s.Accepts topic activity p

/-- At most one consumer on a topic receives an activity, and that one is of the most recent
    subscription whose selector lists it. -/
def MostRecentWins (s : CommandService) : Prop :=
  ∀ topic activity,
    (∀ p q, s.Receives topic activity p → s.Receives topic activity q → p = q) ∧
    (∀ p, s.Receives topic activity p → ∀ q, s.Accepts topic activity q → q ≤ p)

/-- An activity some subscription on a topic listed is received by some consumer. -/
def Covered (s : CommandService) : Prop :=
  ∀ topic activity, (∃ p, s.Accepts topic activity p) → ∃ p, s.Receives topic activity p

/-- The consumer is referred to by an entry of the topic that a subscription to `set` leaves alone. -/
def Keeps (s : CommandService) (topic : CxxString) (set : ActivitySet) (p : Ptr) : Prop :=
  ∃ activity, activity ∉ ActivityHolder.storedUnder set ∧ s.entry topic activity = some p

theorem mem_referenced_iff (s : CommandService) (p : Ptr) : p ∈ s.referenced ↔ s.Live p := by
  rw [referenced_eq, List.mem_flatMap]
  simp only [UnorderedMap.mem_values_iff, Live, entry, holder_eq]
  constructor
  · rintro ⟨holder, ⟨topic, htopic⟩, activity, hactivity⟩
    exact ⟨topic, activity, by rw [htopic]; exact hactivity⟩
  · rintro ⟨topic, activity, hactivity⟩
    cases htopic : s.holderMap.lookup topic with
    | none =>
        rw [htopic] at hactivity
        exact absurd hactivity (by simp [ActivityHolder.empty])
    | some holder =>
        rw [htopic] at hactivity
        exact ⟨holder, ⟨topic, htopic⟩, activity, hactivity⟩

/-- Every entry refers to a consumer on the topic of its holder. -/
structure WellFormed (s : CommandService) : Prop where
  entries : ∀ topic activity p, s.entry topic activity = some p →
    ∃ consumer, s.consumers[p]? = some consumer ∧ consumer.topic = topic
  dictionary : s.jmsUtil.Faithful

end CommandService

namespace CommandUtil

open CommandService
open ActivityHolder (storedUnder)
open SequenceCommandConsumer (buildSelector listed)

/-! ## What a call can do -/

/-- The consumer a call subscribes, with its set, when it succeeds. -/
def subscribed (s : CommandService) : CommandOp → Option (ActivitySet × SequenceCommandConsumer)
  | .subscribeSequenceCommand env id activities (some handler) =>
    match JmsCommandUtil.getInstance env.completionInfoProducer s,
        SequenceCommandConsumer.create env.init id (JmsUtil.getTopic id) activities handler with
    | .ok _, .ok consumer => some (activities, consumer)
    | _, _ => none
  | .subscribeApply env applyPrefix activities (some handler) =>
    match JmsCommandUtil.getInstance env.completionInfoProducer s,
        SequenceCommandConsumer.create env.init .apply (JmsUtil.getApplyTopic applyPrefix) activities
          handler with
    | .ok _, .ok consumer => some (activities, consumer)
    | _, _ => none
  | _ => none

/-- A call that subscribes nothing. -/
structure Unchanged (s s' : CommandService) : Prop where
  consumers : s'.consumers = s.consumers
  entry : ∀ topic activity, s'.entry topic activity = s.entry topic activity
  dictionary : s.jmsUtil.Faithful → s'.jmsUtil.Faithful

/-- A call that subscribes `consumer` for `set`. -/
structure Subscribed (s : CommandService) (set : ActivitySet) (consumer : SequenceCommandConsumer)
    (s' : CommandService) : Prop where
  consumers : s'.consumers = s.consumers ++ [consumer]
  entry : ∀ topic activity, s'.entry topic activity
    = if topic = consumer.topic ∧ activity ∈ storedUnder set then some s.consumers.length
      else s.entry topic activity
  dictionary : s'.jmsUtil = s.jmsUtil
  selector : consumer.selector = buildSelector set

theorem connect_ok {resources : SequenceCommandConsumer.InitResources} {topic : CxxString}
    {set : ActivitySet} {selector : CxxString}
    (h : SequenceCommandConsumer.connect resources topic set = .ok selector) :
    selector = buildSelector set := by
  obtain ⟨_, -, h⟩ := except_bind_ok h
  obtain ⟨_, -, h⟩ := except_bind_ok h
  obtain ⟨_, -, h⟩ := except_bind_ok h
  obtain ⟨_, -, h⟩ := except_bind_ok h
  obtain ⟨_, -, h⟩ := except_bind_ok h
  exact (Except.ok.inj h).symm

theorem create_ok {resources : SequenceCommandConsumer.InitResources} {id : SequenceCommand}
    {topic : CxxString} {set : ActivitySet} {handler : Ptr} {consumer : SequenceCommandConsumer}
    (h : SequenceCommandConsumer.create resources id topic set handler = .ok consumer) :
    consumer = { sequenceCommand := id, topic, selector := buildSelector set, handler } := by
  unfold SequenceCommandConsumer.create at h
  split at h
  · next selector hconnect =>
      rw [connect_ok hconnect] at h
      exact (Except.ok.inj h).symm
  · exact absurd h (by simp)
  · exact absurd h (by simp)

/-- A new singleton has no holders. -/
theorem getInstance_holderMap {completionInfoProducer : Except Exn Unit} {s : CommandService}
    {commandUtil : JmsCommandUtil}
    (h : JmsCommandUtil.getInstance completionInfoProducer s = .ok commandUtil) :
    commandUtil.commandHolderMap = s.holderMap := by
  unfold JmsCommandUtil.getInstance at h
  unfold holderMap
  cases hutil : s.commandUtil with
  | some existing =>
      rw [hutil] at h
      rw [Except.ok.inj h]
  | none =>
      rw [hutil] at h
      obtain ⟨_, -, h⟩ := except_bind_ok h
      rw [← Except.ok.inj h]

theorem entry_of_instance {completionInfoProducer : Except Exn Unit} {s : CommandService}
    {commandUtil : JmsCommandUtil}
    (h : JmsCommandUtil.getInstance completionInfoProducer s = .ok commandUtil) (topic : CxxString) :
    s.holder topic = ((commandUtil.commandHolderMap.lookup topic).getD none).getD .empty := by
  rw [holder_eq, getInstance_holderMap h]

theorem register_holder (commandUtil : JmsCommandUtil) (topic : CxxString) (set : ActivitySet)
    (p : Ptr) (t : CxxString) :
    (((commandUtil.register topic set p).commandHolderMap.lookup t).getD none).getD .empty
      = if t = topic then
          (((commandUtil.commandHolderMap.lookup topic).getD none).getD .empty).registerConsumer set p
        else ((commandUtil.commandHolderMap.lookup t).getD none).getD .empty := by
  unfold JmsCommandUtil.register
  simp only [UnorderedMap.lookup_insert_if, UnorderedMap.subscript_fst]
  by_cases ht : t = topic
  · rw [if_pos ht, if_pos ht, Option.getD_some, Option.getD_some]
  · rw [if_neg ht, if_neg ht, UnorderedMap.lookup_subscript_getD]

theorem subscribe_error {env : SubscribeEnv} {id : SequenceCommand} {topic : CxxString}
    {set : ActivitySet} {handler : Ptr} {s : CommandService}
    (h : ∀ commandUtil consumer,
      JmsCommandUtil.getInstance env.completionInfoProducer s = .ok commandUtil →
      SequenceCommandConsumer.create env.init id topic set handler ≠ .ok consumer) :
    Unchanged s (JmsCommandUtil.subscribe env id topic set handler s).2 := by
  unfold JmsCommandUtil.subscribe
  split
  · exact ⟨rfl, fun _ _ => rfl, fun h => h⟩
  · next commandUtil hinstance =>
      split
      · refine ⟨rfl, fun t a => ?_, fun h => h⟩
        unfold CommandService.entry
        rw [entry_of_instance hinstance t]
        rfl
      · next consumer hcreate => exact absurd hcreate (h commandUtil consumer hinstance)

theorem subscribe_ok {env : SubscribeEnv} {id : SequenceCommand} {topic : CxxString}
    {set : ActivitySet} {handler : Ptr} {s : CommandService} {commandUtil : JmsCommandUtil}
    {consumer : SequenceCommandConsumer}
    (hinstance : JmsCommandUtil.getInstance env.completionInfoProducer s = .ok commandUtil)
    (hcreate : SequenceCommandConsumer.create env.init id topic set handler = .ok consumer) :
    (JmsCommandUtil.subscribe env id topic set handler s).1 = .ok .ok ∧
      Subscribed s set consumer (JmsCommandUtil.subscribe env id topic set handler s).2 := by
  have hconsumer := create_ok hcreate
  unfold JmsCommandUtil.subscribe
  simp only [hinstance, hcreate]
  refine ⟨trivial, rfl, fun t a => ?_, rfl, by rw [hconsumer]⟩
  show (((commandUtil.register topic set s.consumers.length).commandHolderMap.lookup t).getD
    none |>.getD .empty).activityConsumerMap.lookup a = _
  have htopic : consumer.topic = topic := by rw [hconsumer]
  rw [register_holder, htopic]
  unfold CommandService.entry
  rw [entry_of_instance hinstance t]
  by_cases ht : t = topic
  · rw [if_pos ht, ActivityHolder.registerConsumer_lookup, ht]
    simp only [true_and]
  · rw [if_neg ht, if_neg (fun h => ht h.1)]

section

/-! A message changes the dictionary only through `getActivity`, so what `getActivity` keeps is kept. -/

variable {P : JmsUtil → Prop} (hP : ∀ {jmsUtil}, P jmsUtil → ∀ id, P (jmsUtil.getActivity id).2)

include hP

theorem onMessage_dictionary (handle : Invocation → HandlerResponse) (resources : ReplyResources)
    (consumer : SequenceCommandConsumer) (message : MapMessage) {jmsUtil : JmsUtil} (h : P jmsUtil) :
    P (SequenceCommandConsumer.onMessage handle resources consumer message jmsUtil).2 := by
  unfold SequenceCommandConsumer.onMessage
  split
  · next id _ _ =>
      have hactivity := hP h id
      dsimp only
      split <;> exact hactivity
  · exact h

theorem dispatch_dictionary (env : DispatchEnv) (message : MapMessage)
    (consumers : ObjectHeap SequenceCommandConsumer) (ps : List Ptr) {jmsUtil : JmsUtil}
    (h : P jmsUtil) : P (dispatch env message consumers ps jmsUtil).2 := by
  induction ps generalizing jmsUtil with
  | nil => exact h
  | cons p ps ih =>
      unfold dispatch
      split
      · exact ih h
      · next consumer _ =>
          exact ih (onMessage_dictionary hP env.handle (env.resources p) consumer message h)

end

/-- Posting creates the singleton if need be, and may add to what has been done. -/
theorem postCompletionInfo_snd (resources : CompletionResources) (id : CInt)
    (response : Option HandlerResponse) (s : CommandService) :
    (postCompletionInfo resources id response s).2 = s ∨
      ∃ commandUtil events,
        JmsCommandUtil.getInstance resources.completionInfoProducer s = .ok commandUtil ∧
        (postCompletionInfo resources id response s).2
          = { s with commandUtil := some commandUtil, events } := by
  unfold postCompletionInfo
  split
  · exact Or.inl rfl
  · split
    · exact Or.inl rfl
    · split
      · exact Or.inl rfl
      · next commandUtil hinstance =>
          dsimp only
          split
          · exact Or.inr ⟨commandUtil, s.events, hinstance, rfl⟩
          · exact Or.inr ⟨commandUtil, _, hinstance, rfl⟩

theorem postCompletionInfo_unchanged (resources : CompletionResources) (id : CInt)
    (response : Option HandlerResponse) (s : CommandService) :
    Unchanged s (postCompletionInfo resources id response s).2 := by
  rcases postCompletionInfo_snd resources id response s with
    hsame | ⟨commandUtil, events, hinstance, hpost⟩
  · rw [hsame]
    exact ⟨rfl, fun _ _ => rfl, fun h => h⟩
  · rw [hpost]
    refine ⟨rfl, fun topic activity => ?_, fun h => h⟩
    unfold CommandService.entry
    rw [entry_of_instance hinstance topic]
    rfl

/-- **The calls.** Each subscribes one consumer or leaves the subscriptions as they are. -/
theorem step_cases (s : CommandService) (op : CommandOp) :
    (∃ set consumer, subscribed s op = some (set, consumer) ∧
      Subscribed s set consumer (step s op)) ∨
    (subscribed s op = none ∧ Unchanged s (step s op)) := by
  have hsame : Unchanged s s := ⟨rfl, fun _ _ => rfl, fun h => h⟩
  cases op with
  | subscribeSequenceCommand env id activities handler =>
      cases handler with
      | none => exact Or.inr ⟨rfl, hsame⟩
      | some handler =>
          simp only [subscribed, step, subscribeSequenceCommand]
          split
          · next commandUtil consumer hinstance hcreate =>
              exact Or.inl ⟨_, _, rfl, (subscribe_ok hinstance hcreate).2⟩
          · next hfails => exact Or.inr ⟨rfl, subscribe_error hfails⟩
  | subscribeApply env applyPrefix activities handler =>
      cases handler with
      | none => exact Or.inr ⟨rfl, hsame⟩
      | some handler =>
          simp only [subscribed, step, subscribeApply]
          split
          · next commandUtil consumer hinstance hcreate =>
              exact Or.inl ⟨_, _, rfl, (subscribe_ok hinstance hcreate).2⟩
          · next hfails => exact Or.inr ⟨rfl, subscribe_error hfails⟩
  | postCompletionInfo resources id response =>
      exact Or.inr ⟨rfl, postCompletionInfo_unchanged resources id response s⟩
  | deliver env topic message =>
      exact Or.inr ⟨rfl, rfl, fun _ _ => rfl, fun h =>
        dispatch_dictionary JmsUtil.getActivity_faithful env message s.consumers _ h⟩

/-- What is said of whatever a call subscribes is said of the one consumer it does. -/
theorem forall_subscribed_iff {s : CommandService} {op : CommandOp} {set : ActivitySet}
    {new : SequenceCommandConsumer} (hop : subscribed s op = some (set, new))
    {P : ActivitySet → SequenceCommandConsumer → Prop} :
    (∀ set' new', subscribed s op = some (set', new') → P set' new') ↔ P set new := by
  constructor
  · intro h
    exact h set new hop
  · intro h set' new' hop'
    obtain ⟨rfl, rfl⟩ : set = set' ∧ new = new' := by simpa [hop] using hop'
    exact h

/-! ## Well-formed states -/

theorem Subscribed.consumers_old {s s' : CommandService} {set : ActivitySet}
    {new : SequenceCommandConsumer} (h : Subscribed s set new s') {p : Ptr}
    {consumer : SequenceCommandConsumer} (hp : s.consumers[p]? = some consumer) :
    s'.consumers[p]? = some consumer := by
  rw [h.consumers]
  exact ObjectHeap.getElem?_alloc_of_some hp new

theorem Subscribed.consumers_new {s s' : CommandService} {set : ActivitySet}
    {new : SequenceCommandConsumer} (h : Subscribed s set new s') :
    s'.consumers[s.consumers.length]? = some new := by
  rw [h.consumers, ObjectHeap.getElem?_alloc, if_pos rfl]

theorem Subscribed.wellFormed {s s' : CommandService} {set : ActivitySet}
    {new : SequenceCommandConsumer} (h : Subscribed s set new s') (hwf : s.WellFormed) :
    s'.WellFormed := by
  refine ⟨fun topic activity p hentry => ?_, by rw [h.dictionary]; exact hwf.dictionary⟩
  rw [h.entry] at hentry
  split at hentry
  · next hnew =>
      obtain rfl := Option.some.inj hentry
      exact ⟨new, h.consumers_new, hnew.1.symm⟩
  · obtain ⟨consumer, hp, htopic⟩ := hwf.entries topic activity p hentry
    exact ⟨consumer, h.consumers_old hp, htopic⟩

theorem wellFormed_step (s : CommandService) (op : CommandOp) (h : s.WellFormed) :
    (step s op).WellFormed := by
  rcases step_cases s op with ⟨set, new, -, hsub⟩ | ⟨-, hsame⟩
  · exact hsub.wellFormed h
  · refine ⟨fun topic activity p hentry => ?_, hsame.dictionary h.dictionary⟩
    rw [hsame.entry] at hentry
    rw [hsame.consumers]
    exact h.entries topic activity p hentry

theorem wellFormed_after (ops : List CommandOp) : (after ops).WellFormed :=
  Run.invariant (I := CommandService.WellFormed)
    ⟨fun topic activity p h => absurd h (by simp [CommandService.entry, holder, initial,
      ActivityHolder.empty]), JmsUtil.initial_faithful⟩ wellFormed_step ops

/-! ## Who receives what after a subscription -/

theorem receives_iff_listed {consumer : SequenceCommandConsumer} {set : ActivitySet}
    (h : consumer.selector = buildSelector set) (activity : Activity) :
    consumer.receives activity = true ↔ activity ∈ listed set := by
  rw [SequenceCommandConsumer.receives, h, SequenceCommandConsumer.selects_buildSelector,
    decide_eq_true_iff]

theorem accepts_lt {s : CommandService} {topic : CxxString} {activity : Activity} {p : Ptr}
    (h : s.Accepts topic activity p) : p < s.consumers.length := by
  obtain ⟨consumer, hp, -⟩ := h
  exact ObjectHeap.lt_of_getElem? hp

section Subscribed

variable {s s' : CommandService} {set : ActivitySet} {new : SequenceCommandConsumer}

theorem Subscribed.accepts_iff (h : Subscribed s set new s') (topic : CxxString)
    (activity : Activity) (p : Ptr) :
    s'.Accepts topic activity p ↔ s.Accepts topic activity p ∨
      (p = s.consumers.length ∧ topic = new.topic ∧ activity ∈ listed set) := by
  constructor
  · rintro ⟨consumer, hp, htopic, hreceives⟩
    rw [h.consumers, ObjectHeap.getElem?_alloc] at hp
    split at hp
    · next hnew =>
        obtain rfl : new = consumer := Option.some.inj hp
        exact Or.inr ⟨hnew, htopic.symm, (receives_iff_listed h.selector activity).1 hreceives⟩
    · exact Or.inl ⟨consumer, hp, htopic, hreceives⟩
  · rintro (⟨consumer, hp, hconsumer⟩ | ⟨rfl, htopic, hlisted⟩)
    · exact ⟨consumer, h.consumers_old hp, hconsumer⟩
    · exact ⟨new, h.consumers_new, htopic.symm,
        (receives_iff_listed h.selector activity).2 hlisted⟩

theorem Subscribed.live_iff (h : Subscribed s set new s') (p : Ptr) :
    s'.Live p ↔ p = s.consumers.length ∨ s.Keeps new.topic set p ∨
      ∃ topic activity, topic ≠ new.topic ∧ s.entry topic activity = some p := by
  constructor
  · rintro ⟨topic, activity, hentry⟩
    rw [h.entry] at hentry
    split at hentry
    · exact Or.inl (Option.some.inj hentry).symm
    · next hnot =>
        by_cases htopic : topic = new.topic
        · exact Or.inr (Or.inl ⟨activity, fun hmem => hnot ⟨htopic, hmem⟩, htopic ▸ hentry⟩)
        · exact Or.inr (Or.inr ⟨topic, activity, htopic, hentry⟩)
  · rintro (rfl | ⟨activity, hkept, hentry⟩ | ⟨topic, activity, hother, hentry⟩)
    · obtain ⟨activity, hmem⟩ := List.exists_mem_of_ne_nil _ (ActivityHolder.storedUnder_ne_nil set)
      exact ⟨new.topic, activity, by rw [h.entry, if_pos ⟨rfl, hmem⟩]⟩
    · exact ⟨new.topic, activity, by rw [h.entry, if_neg (fun hn => hkept hn.2), hentry]⟩
    · exact ⟨topic, activity, by rw [h.entry, if_neg (fun hn => hother hn.1), hentry]⟩

/-- A consumer is referred to from its own topic only. -/
theorem entry_topic (hwf : s.WellFormed) {topic topic' : CxxString} {a b : Activity} {p : Ptr}
    (haccepts : s.Accepts topic a p) (hentry : s.entry topic' b = some p) : topic' = topic := by
  obtain ⟨consumer, hp, htopic, -⟩ := haccepts
  obtain ⟨consumer', hp', htopic'⟩ := hwf.entries topic' b p hentry
  rw [hp] at hp'
  rw [← htopic, ← htopic', Option.some.inj hp']

/-- The new consumer receives what its selector lists; on its topic, the older ones that are kept
    receive what they did; on the other topics, nothing changes. -/
theorem Subscribed.receives_iff (h : Subscribed s set new s') (hwf : s.WellFormed)
    (topic : CxxString) (activity : Activity) (p : Ptr) :
    s'.Receives topic activity p ↔
      (p = s.consumers.length ∧ topic = new.topic ∧ activity ∈ listed set) ∨
      (s.Accepts topic activity p ∧
        if topic = new.topic then s.Keeps new.topic set p else s.Live p) := by
  unfold CommandService.Receives
  rw [h.accepts_iff, h.live_iff]
  constructor
  · rintro ⟨hlive, hold | hnew⟩
    · refine Or.inr ⟨hold, ?_⟩
      rcases hlive with rfl | hkept | ⟨topic', activity', hother, hentry⟩
      · exact absurd (accepts_lt hold) (Nat.lt_irrefl _)
      · obtain ⟨activity', hout, hentry⟩ := hkept
        have htopic : new.topic = topic := entry_topic hwf hold hentry
        rw [if_pos htopic.symm]
        exact ⟨activity', hout, hentry⟩
      · have htopic : topic' = topic := entry_topic hwf hold hentry
        rw [if_neg (htopic ▸ hother)]
        exact ⟨topic', activity', hentry⟩
    · exact Or.inl hnew
  · rintro (hnew | ⟨hold, hkept⟩)
    · exact ⟨Or.inl hnew.1, Or.inr hnew⟩
    · refine ⟨?_, Or.inl hold⟩
      split at hkept
      · exact Or.inr (Or.inl hkept)
      · next htopic =>
          obtain ⟨topic', activity', hentry⟩ := hkept
          have hsame : topic' = topic := entry_topic hwf hold hentry
          exact Or.inr (Or.inr ⟨topic', activity', hsame ▸ htopic, hentry⟩)

end Subscribed

section Unchanged

variable {s s' : CommandService}

theorem Unchanged.accepts_iff (h : Unchanged s s') (topic : CxxString) (activity : Activity)
    (p : Ptr) : s'.Accepts topic activity p ↔ s.Accepts topic activity p := by
  unfold CommandService.Accepts
  rw [h.consumers]

theorem Unchanged.receives_iff (h : Unchanged s s') (topic : CxxString) (activity : Activity)
    (p : Ptr) : s'.Receives topic activity p ↔ s.Receives topic activity p := by
  unfold CommandService.Receives CommandService.Live
  simp only [h.accepts_iff, h.entry]

end Unchanged

/-! ## The most recent subscription wins -/

/-- No consumer the topic keeps receives an activity the new selector lists. -/
def TakesOver (s : CommandService) (op : CommandOp) : Prop :=
  ∀ set new, subscribed s op = some (set, new) → ∀ p, s.Keeps new.topic set p →
    ∀ activity ∈ listed set, ¬ s.Accepts new.topic activity p

theorem mostRecentWins_subscribed_iff {s s' : CommandService} {set : ActivitySet}
    {new : SequenceCommandConsumer} (h : Subscribed s set new s') (hwf : s.WellFormed)
    (hgood : s.MostRecentWins) :
    s'.MostRecentWins ↔ ∀ p, s.Keeps new.topic set p →
      ∀ activity ∈ listed set, ¬ s.Accepts new.topic activity p := by
  constructor
  · intro hwins p hkept activity hlisted haccepts
    have hnew : s'.Receives new.topic activity s.consumers.length :=
      (h.receives_iff hwf _ _ _).2 (Or.inl ⟨rfl, rfl, hlisted⟩)
    have hold : s'.Receives new.topic activity p :=
      (h.receives_iff hwf _ _ _).2 (Or.inr ⟨haccepts, by rw [if_pos rfl]; exact hkept⟩)
    have hsame := (hwins new.topic activity).1 _ _ hold hnew
    exact absurd (accepts_lt haccepts) (by rw [hsame]; exact Nat.lt_irrefl _)
  · intro hguard topic activity
    -- who receives the activity now: the new consumer alone, or the one that did before
    have hreceives : ∀ p, s'.Receives topic activity p →
        (p = s.consumers.length ∧ topic = new.topic ∧ activity ∈ listed set) ∨
        (s.Receives topic activity p ∧ ¬ (topic = new.topic ∧ activity ∈ listed set)) := by
      intro p hp
      rcases (h.receives_iff hwf _ _ _).1 hp with hnew | ⟨haccepts, hkept⟩
      · exact Or.inl hnew
      · by_cases htopic : topic = new.topic
        · subst htopic
          rw [if_pos rfl] at hkept
          obtain ⟨a, hout, hentry⟩ := hkept
          exact Or.inr ⟨⟨⟨new.topic, a, hentry⟩, haccepts⟩,
            fun hn => hguard p ⟨a, hout, hentry⟩ activity hn.2 haccepts⟩
        · rw [if_neg htopic] at hkept
          exact Or.inr ⟨⟨hkept, haccepts⟩, fun hn => htopic hn.1⟩
    constructor
    · intro p q hp hq
      rcases hreceives p hp with ⟨rfl, htopic, hlisted⟩ | ⟨hp', hnot⟩
      · rcases hreceives q hq with ⟨rfl, -⟩ | ⟨-, hnot⟩
        · rfl
        · exact absurd ⟨htopic, hlisted⟩ hnot
      · rcases hreceives q hq with ⟨-, hnew⟩ | ⟨hq', -⟩
        · exact absurd hnew hnot
        · exact (hgood topic activity).1 p q hp' hq'
    · intro p hp q hq
      rcases (h.accepts_iff _ _ _).1 hq with hold | ⟨rfl, hnew⟩
      · rcases hreceives p hp with ⟨rfl, -⟩ | ⟨hp', -⟩
        · exact Nat.le_of_lt (accepts_lt hold)
        · exact (hgood topic activity).2 p hp' q hold
      · rcases hreceives p hp with ⟨rfl, -⟩ | ⟨-, hnot⟩
        · exact Nat.le_refl _
        · exact absurd hnew hnot

theorem mostRecentWins_step_iff (s : CommandService) (op : CommandOp) (hwf : s.WellFormed)
    (hgood : s.MostRecentWins) : (step s op).MostRecentWins ↔ TakesOver s op := by
  rcases step_cases s op with ⟨set, new, hop, hsub⟩ | ⟨hop, hsame⟩
  · rw [TakesOver, forall_subscribed_iff hop]
    exact mostRecentWins_subscribed_iff hsub hwf hgood
  · refine iff_of_true ?_ (fun set new h => by simp [hop] at h)
    intro topic activity
    simp only [hsame.receives_iff, hsame.accepts_iff]
    exact hgood topic activity

/-- **The most recent handler wins**, in every state of a run, precisely if every subscription of the
    run takes over all consumers that share an activity with its selector. -/
theorem mostRecentWins_iff (ops : List CommandOp) :
    Run.Always step MostRecentWins initial ops ↔ Run.Guarded step TakesOver initial ops :=
  Run.always_iff_guarded wellFormed_after
    (fun _ _ => ⟨fun p _ hp => absurd (accepts_lt hp.2) (Nat.not_lt_zero p),
      fun p hp => absurd (accepts_lt hp.2) (Nat.not_lt_zero p)⟩)
    (fun s op hwf hgood => mostRecentWins_step_iff s op hwf hgood) ops

/-- A successful subscription of `handler` to the `PARK` command. -/
def subscribePark (set : ActivitySet) (handler : Ptr) : CommandOp :=
  .subscribeSequenceCommand (workingBroker fun _ => []) .park set (some handler)

/-- The older consumer is kept for `CANCEL`, and its selector still lists `PRESET`. -/
theorem preset_delivered_twice : ¬ Run.Always step MostRecentWins initial
    [subscribePark .setPresetCancel 1, subscribePark .setPreset 2] := by
  intro h
  have hold := (h.final (JmsUtil.getTopic .park) .preset).1 0 1
    ⟨⟨JmsUtil.getTopic .park, .cancel, by rfl⟩, _, by rfl, by rfl, by rfl⟩
    ⟨⟨JmsUtil.getTopic .park, .preset, by rfl⟩, _, by rfl, by rfl, by rfl⟩
  exact absurd hold (by decide)

/-! ## Coverage -/

/-- What a consumer on the topic receives is listed by the new selector, or received by a consumer
    the topic keeps. -/
def KeepsCoverage (s : CommandService) (op : CommandOp) : Prop :=
  ∀ set new, subscribed s op = some (set, new) → ∀ activity,
    (∃ p, s.Receives new.topic activity p) → activity ∈ listed set ∨
      ∃ p, s.Keeps new.topic set p ∧ s.Accepts new.topic activity p

theorem covered_subscribed_iff {s s' : CommandService} {set : ActivitySet}
    {new : SequenceCommandConsumer} (h : Subscribed s set new s') (hwf : s.WellFormed)
    (hgood : s.Covered) :
    s'.Covered ↔ ∀ activity, (∃ p, s.Receives new.topic activity p) → activity ∈ listed set ∨
      ∃ p, s.Keeps new.topic set p ∧ s.Accepts new.topic activity p := by
  constructor
  · rintro hcovered activity ⟨p, -, haccepts⟩
    obtain ⟨q, hq⟩ := hcovered new.topic activity ⟨p, (h.accepts_iff _ _ _).2 (Or.inl haccepts)⟩
    rcases (h.receives_iff hwf _ _ _).1 hq with ⟨-, -, hlisted⟩ | ⟨hq', hkept⟩
    · exact Or.inl hlisted
    · rw [if_pos rfl] at hkept
      exact Or.inr ⟨q, hkept, hq'⟩
  · rintro hguard topic activity ⟨p, hp⟩
    by_cases hnew : topic = new.topic ∧ activity ∈ listed set
    · exact ⟨s.consumers.length, (h.receives_iff hwf _ _ _).2 (Or.inl ⟨rfl, hnew⟩)⟩
    · have hold : s.Accepts topic activity p :=
        ((h.accepts_iff _ _ _).1 hp).resolve_right (fun hn => hnew hn.2)
      obtain ⟨q, hq⟩ := hgood topic activity ⟨p, hold⟩
      by_cases htopic : topic = new.topic
      · subst htopic
        obtain ⟨r, hkept, haccepts⟩ :=
          (hguard activity ⟨q, hq⟩).resolve_left (fun hlisted => hnew ⟨rfl, hlisted⟩)
        exact ⟨r, (h.receives_iff hwf _ _ _).2
          (Or.inr ⟨haccepts, by rw [if_pos rfl]; exact hkept⟩)⟩
      · exact ⟨q, (h.receives_iff hwf _ _ _).2
          (Or.inr ⟨hq.2, by rw [if_neg htopic]; exact hq.1⟩)⟩

theorem covered_step_iff (s : CommandService) (op : CommandOp) (hwf : s.WellFormed)
    (hgood : s.Covered) : (step s op).Covered ↔ KeepsCoverage s op := by
  rcases step_cases s op with ⟨set, new, hop, hsub⟩ | ⟨hop, hsame⟩
  · rw [KeepsCoverage, forall_subscribed_iff hop]
    exact covered_subscribed_iff hsub hwf hgood
  · refine iff_of_true ?_ (fun set new h => by simp [hop] at h)
    intro topic activity
    simp only [hsame.receives_iff, hsame.accepts_iff]
    exact hgood topic activity

/-- **Coverage is never lost** in a run, precisely if no subscription of the run takes over the last
    entries of a consumer that alone receives an activity the new selector does not list. -/
theorem covered_iff (ops : List CommandOp) :
    Run.Always step Covered initial ops ↔ Run.Guarded step KeepsCoverage initial ops :=
  Run.always_iff_guarded wellFormed_after
    (fun _ _ ⟨p, hp⟩ => absurd (accepts_lt hp) (Nat.not_lt_zero p))
    (fun s op hwf hgood => covered_step_iff s op hwf hgood) ops

/-- The first consumer is stored under `PRESET`, `CANCEL` and `START` only: with these taken over,
    nobody receives `PRESET_START`, which its selector listed. -/
theorem presetStart_uncovered : ¬ Run.Always step Covered initial
    [subscribePark .setPresetStartCancel 1, subscribePark .setPresetCancel 2,
      subscribePark .setStartCancel 3] := by
  intro h
  obtain ⟨p, hlive, consumer, hp, -, hreceives⟩ :=
    h.final (JmsUtil.getTopic .park) .presetStart ⟨0, _, by rfl, by rfl, by rfl⟩
  have hlt : p < 3 := ObjectHeap.lt_of_getElem? hp
  match p, hlt with
  | 0, _ =>
      rw [← mem_referenced_iff] at hlive
      exact absurd hlive (by decide)
  | 1, _ => cases hp; exact absurd hreceives (by decide)
  | 2, _ => cases hp; exact absurd hreceives (by decide)

end CommandUtil

end Giapi
