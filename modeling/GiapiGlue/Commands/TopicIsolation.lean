import GiapiGlue.Commands.Subscriptions

set_option autoImplicit false

/-! # Subscriptions and their topics

All subscriptions share one map of holders, whose keys are the topics. The topic of a sequence command
is a fixed name, that of an apply prefix is built from the prefix. No two of them are equal, so a
subscription has a holder to itself, and it changes that holder only, at the very end: a subscription
that fails has changed nothing. -/

namespace Giapi

namespace JmsUtil

open GMPKeys

/-! ## Topics -/

def sequenceCommands : List SequenceCommand :=
  [.test, .reboot, .init, .datum, .park, .verify, .endVerify, .guide, .endGuide, .apply, .observe,
    .endObserve, .pause, .continue, .stop, .stopCycle, .abort, .engineering]

/-- The sequence command of a topic. -/
def ofTopic (topic : CxxString) : Option SequenceCommand :=
  sequenceCommands.find? (fun id => getTopic id = topic)

theorem ofTopic_getTopic (id : SequenceCommand) : ofTopic (getTopic id) = some id := by
  cases id <;> rfl

theorem getTopic_injective : Function.Injective getTopic := by
  intro id id' h
  have hback := ofTopic_getTopic id
  rw [h, ofTopic_getTopic] at hback
  exact (Option.some.inj hback).symm

theorem getApplyTopic_injective : Function.Injective getApplyTopic :=
  fun _ _ h => List.append_cancel_left h

/-- The topic of a prefix goes on with a separator after `APPLY`, and no command is named so. -/
theorem getTopic_ne_getApplyTopic (id : SequenceCommand) (applyPrefix : CxxString) :
    getTopic id ≠ getApplyTopic applyPrefix := by
  intro h
  have htake := congrArg (List.take (gmpSequenceCommand .apply ++ gmpSeparator).length) h
  rw [getApplyTopic, List.take_left] at htake
  cases id <;> exact absurd htake (by decide)

end JmsUtil

/-! ## The calls -/

/-- A call that subscribes a handler. -/
inductive Subscription
  | sequenceCommand (env : SubscribeEnv) (id : SequenceCommand) (activities : ActivitySet)
      (handler : Option Ptr)
  | apply (env : SubscribeEnv) (applyPrefix : CxxString) (activities : ActivitySet)
      (handler : Option Ptr)

namespace Subscription

def topic : Subscription → CxxString
  | .sequenceCommand _ id _ _ => JmsUtil.getTopic id
  | .apply _ applyPrefix _ _ => JmsUtil.getApplyTopic applyPrefix

def op : Subscription → CommandOp
  | .sequenceCommand env id activities handler =>
    .subscribeSequenceCommand env id activities handler
  | .apply env applyPrefix activities handler => .subscribeApply env applyPrefix activities handler

/-- What the call returns and the state it leaves behind. -/
def call : Subscription → CommandService → Except Exn Status × CommandService
  | .sequenceCommand env id activities handler, s =>
    CommandUtil.subscribeSequenceCommand env id activities handler s
  | .apply env applyPrefix activities handler, s =>
    CommandUtil.subscribeApply env applyPrefix activities handler s

theorem step_op (sub : Subscription) (s : CommandService) :
    CommandUtil.step s sub.op = (sub.call s).2 := by
  cases sub <;> rfl

end Subscription

namespace CommandService

/-- The holders, the activity maps and the consumers that are alive are what they were, and so is who
    receives a message. -/
structure Untouched (s s' : CommandService) : Prop where
  holderMap : s'.holderMap = s.holderMap
  activityMap : ∀ topic, (s'.holder topic).activityConsumerMap = (s.holder topic).activityConsumerMap
  consumers : s'.consumers = s.consumers
  referenced : s'.referenced = s.referenced
  recipients : ∀ topic message, s'.recipients topic message = s.recipients topic message

theorem untouched_of_holderMap {s s' : CommandService} (hholders : s'.holderMap = s.holderMap)
    (hconsumers : s'.consumers = s.consumers) : Untouched s s' := by
  have hreferenced : s'.referenced = s.referenced := by
    rw [referenced_eq, referenced_eq, hholders]
  refine ⟨hholders, fun topic => ?_, hconsumers, hreferenced, fun topic message => ?_⟩
  · rw [holder_eq, holder_eq, hholders]
  · have hdelivers : s'.delivers topic message = s.delivers topic message := by
      funext p
      unfold delivers
      rw [hreferenced, hconsumers]
    rw [recipients, recipients, hdelivers, hconsumers]

end CommandService

namespace CommandUtil

open CommandService

/-- What a subscription may do: on `OK`, change the holder of its own topic; else, nothing. -/
structure Confined (s : CommandService) (topic : CxxString)
    (outcome : Except Exn Status × CommandService) : Prop where
  other : ∀ topic', topic' ≠ topic →
    outcome.2.holderMap.lookup topic' = s.holderMap.lookup topic' ∧
      (outcome.2.holder topic').activityConsumerMap = (s.holder topic').activityConsumerMap
  failed : outcome.1 ≠ .ok .ok → Untouched s outcome.2

theorem Confined.of_lookup {s : CommandService} {topic : CxxString}
    {outcome : Except Exn Status × CommandService}
    (hlookup : ∀ topic', topic' ≠ topic →
      outcome.2.holderMap.lookup topic' = s.holderMap.lookup topic')
    (hfailed : outcome.1 ≠ .ok .ok → Untouched s outcome.2) : Confined s topic outcome := by
  refine ⟨fun topic' hother => ⟨hlookup topic' hother, ?_⟩, hfailed⟩
  rw [holder_eq, holder_eq, hlookup topic' hother]

theorem Confined.of_untouched {s s' : CommandService} {topic : CxxString}
    {result : Except Exn Status} (h : Untouched s s') : Confined s topic (result, s') :=
  .of_lookup (fun _ _ => by rw [h.holderMap]) (fun _ => h)

theorem register_lookup_ne (commandUtil : JmsCommandUtil) {topic topic' : CxxString}
    (h : topic' ≠ topic) (set : ActivitySet) (p : Ptr) :
    (commandUtil.register topic set p).commandHolderMap.lookup topic'
      = commandUtil.commandHolderMap.lookup topic' := by
  unfold JmsCommandUtil.register
  rw [UnorderedMap.lookup_insert_if, if_neg h, UnorderedMap.lookup_subscript_ne _ _ h]

/-- The consumer is created first, and the map of holders is only touched once it exists. -/
theorem subscribe_confined (env : SubscribeEnv) (id : SequenceCommand) (topic : CxxString)
    (activities : ActivitySet) (handler : Ptr) (s : CommandService) :
    Confined s topic (JmsCommandUtil.subscribe env id topic activities handler s) := by
  unfold JmsCommandUtil.subscribe
  split
  · exact .of_untouched (untouched_of_holderMap rfl rfl)
  · next commandUtil hinstance =>
      have hholders := getInstance_holderMap hinstance
      split
      · exact .of_untouched (untouched_of_holderMap hholders rfl)
      · refine .of_lookup (fun topic' hother => ?_) (fun h => absurd rfl h)
        rw [← hholders]
        exact register_lookup_ne commandUtil hother activities s.consumers.length

theorem call_confined (sub : Subscription) (s : CommandService) :
    Confined s sub.topic (sub.call s) := by
  cases sub with
  | sequenceCommand env id activities handler =>
      cases handler with
      | none => exact .of_untouched (untouched_of_holderMap rfl rfl)
      | some handler => exact subscribe_confined env id (JmsUtil.getTopic id) activities handler s
  | apply env applyPrefix activities handler =>
      cases handler with
      | none => exact .of_untouched (untouched_of_holderMap rfl rfl)
      | some handler =>
          exact subscribe_confined env .apply (JmsUtil.getApplyTopic applyPrefix) activities handler s

/-- No run of subscriptions to other topics changes the holder of a topic. -/
theorem holder_after_others {topic : CxxString} (s : CommandService) (subs : List Subscription)
    (h : ∀ sub ∈ subs, sub.topic ≠ topic) :
    (Run.after step s (subs.map Subscription.op)).holderMap.lookup topic
      = s.holderMap.lookup topic := by
  induction subs generalizing s with
  | nil => rfl
  | cons sub subs ih =>
      rw [List.map_cons, Run.after_cons, ih _ (fun sub' hmem => h sub' (List.mem_cons_of_mem _ hmem)),
        Subscription.step_op]
      exact ((call_confined sub s).other topic (Ne.symm (h sub List.mem_cons_self))).1

/-- Topics are distinct; after every run a subscription is confined to its own, and no number of
    subscriptions to other topics changes the holder of a topic. -/
theorem subscriptions_confined :
    Function.Injective JmsUtil.getTopic ∧ Function.Injective JmsUtil.getApplyTopic ∧
      (∀ id applyPrefix, JmsUtil.getTopic id ≠ JmsUtil.getApplyTopic applyPrefix) ∧
      (∀ ops (sub : Subscription), Confined (after ops) sub.topic (sub.call (after ops))) ∧
      ∀ ops topic (subs : List Subscription), (∀ sub ∈ subs, sub.topic ≠ topic) →
        (after (ops ++ subs.map Subscription.op)).holderMap.lookup topic
          = (after ops).holderMap.lookup topic := by
  refine ⟨JmsUtil.getTopic_injective, JmsUtil.getApplyTopic_injective,
    JmsUtil.getTopic_ne_getApplyTopic, fun ops sub => call_confined sub (after ops),
    fun ops topic subs hothers => ?_⟩
  rw [after, Run.after_append]
  exact holder_after_others (after ops) subs hothers

end CommandUtil

end Giapi
