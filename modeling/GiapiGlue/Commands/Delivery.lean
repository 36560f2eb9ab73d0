import GiapiGlue.Commands.Subscriptions

set_option autoImplicit false

/-! # From a subscription to the handler

A request crosses the selector that `buildSelector` writes, the reading of it by the broker, the
activities the consumer is stored under and the dictionary `getActivity` reads. Here the four are put
together: which handlers a message reaches, and with which activity. -/

namespace Giapi

/-- A command message for the activity, all of whose parts can be read. -/
structure MapMessage.IsCommand (message : MapMessage) (activity : Activity) : Prop where
  actionId : ∃ actionId, message.getIntProperty GMPKeys.gmpActionidProp = .ok actionId
  activity : message.getStringProperty GMPKeys.gmpActivityProp
    = .ok (JmsUtil.activityName activity)
  entries : ∀ name ∈ message.mapNames, ∃ value, message.getString name = .ok value

namespace CommandUtil

open CommandService
open SequenceCommandConsumer (requested listed)

/-- Among what is done, `handler` is called with `activity`. -/
def CallsHandler (events : List CommandEvent) (handler : Ptr) (activity : Activity) : Prop :=
  ∃ invocation, CommandEvent.handled invocation ∈ events ∧ invocation.handler = handler ∧
    invocation.activity = activity

/-! ## One consumer -/

theorem configuration_ok {message : MapMessage} (names : List CxxString)
    (h : ∀ name ∈ names, ∃ value, message.getString name = .ok value) (config : Configuration) :
    ∃ config', SequenceCommandConsumer.configuration message names config = .ok config' := by
  induction names generalizing config with
  | nil => exact ⟨config, rfl⟩
  | cons name names ih =>
      obtain ⟨value, hvalue⟩ := h name List.mem_cons_self
      obtain ⟨config', hconfig⟩ :=
        ih (fun n hn => h n (List.mem_cons_of_mem name hn)) (config.setValue name value)
      refine ⟨config', ?_⟩
      rw [SequenceCommandConsumer.configuration, hvalue]
      exact hconfig

theorem handled_not_mem_reply (resources : ReplyResources) (message : MapMessage)
    (response : HandlerResponse) (invocation : Invocation) :
    CommandEvent.handled invocation ∉ SequenceCommandConsumer.reply resources message response := by
  unfold SequenceCommandConsumer.reply
  split
  · simp
  · dsimp only
    split <;> simp

/-- A consumer calls its handler once, with the activity the message names. -/
theorem callsHandler_onMessage_iff (env : DispatchEnv) (resources : ReplyResources)
    (consumer : SequenceCommandConsumer) {message : MapMessage} {activity : Activity}
    (hcommand : message.IsCommand activity) {jmsUtil : JmsUtil} (hfaithful : jmsUtil.Faithful)
    (handler : Ptr) (b : Activity) :
    CallsHandler (SequenceCommandConsumer.onMessage env.handle resources consumer message jmsUtil).1
      handler b ↔ consumer.handler = handler ∧ activity = b := by
  obtain ⟨actionId, hactionId⟩ := hcommand.actionId
  obtain ⟨config, hconfig⟩ := configuration_ok message.mapNames hcommand.entries .empty
  have hactivity := JmsUtil.getActivity_activityName hfaithful activity
  unfold SequenceCommandConsumer.onMessage CallsHandler
  simp only [hactionId, hcommand.activity, hconfig, List.mem_cons]
  constructor
  · rintro ⟨invocation, hmem | hmem, hhandler, hb⟩
    · rw [CommandEvent.handled.injEq] at hmem
      rw [hmem] at hhandler hb
      exact ⟨hhandler, hactivity.symm.trans hb⟩
    · exact absurd hmem (handled_not_mem_reply _ _ _ _)
  · rintro ⟨hhandler, hb⟩
    exact ⟨_, Or.inl rfl, hhandler, hactivity.trans hb⟩

/-! ## All recipients -/

/-- The message reaches the handlers of the recipients, with the activity it names. -/
theorem callsHandler_dispatch_iff (env : DispatchEnv) {message : MapMessage} {activity : Activity}
    (hcommand : message.IsCommand activity) (consumers : ObjectHeap SequenceCommandConsumer)
    (ps : List Ptr) {jmsUtil : JmsUtil} (hfaithful : jmsUtil.Faithful) (handler : Ptr)
    (b : Activity) :
    CallsHandler (dispatch env message consumers ps jmsUtil).1 handler b ↔
      activity = b ∧ ∃ p ∈ ps, ∃ consumer, consumers[p]? = some consumer ∧
        consumer.handler = handler := by
  induction ps generalizing jmsUtil with
  | nil => simp [dispatch, CallsHandler]
  | cons p ps ih =>
      unfold dispatch
      cases hp : consumers[p]? with
      | none =>
          dsimp only
          rw [ih hfaithful]
          simp [hp]
      | some consumer =>
          have hone := callsHandler_onMessage_iff env (env.resources p) consumer hcommand hfaithful
            handler b
          have hrest := ih (onMessage_dictionary JmsUtil.getActivity_faithful env.handle (env.resources p)
            consumer message hfaithful)
          have happend : ∀ xs ys, CallsHandler (xs ++ ys) handler b ↔
              CallsHandler xs handler b ∨ CallsHandler ys handler b := by
            intro xs ys
            simp only [CallsHandler, List.mem_append, or_and_right, exists_or]
          dsimp only
          rw [happend, hone, hrest]
          constructor
          · rintro (⟨hhandler, hb⟩ | ⟨hb, q, hq, hconsumer⟩)
            · exact ⟨hb, p, List.mem_cons_self, consumer, hp, hhandler⟩
            · exact ⟨hb, q, List.mem_cons_of_mem p hq, hconsumer⟩
          · rintro ⟨hb, q, hq, consumer', hq', hhandler⟩
            rcases List.mem_cons.1 hq with rfl | hmem
            · rw [hp, Option.some.injEq] at hq'
              exact Or.inl ⟨hq' ▸ hhandler, hb⟩
            · exact Or.inr ⟨hb, q, hmem, consumer', hq', hhandler⟩

/-- The recipients of a command message are the consumers that receive its activity. -/
theorem mem_recipients_iff (s : CommandService) (topic : CxxString) {message : MapMessage}
    {activity : Activity} (hcommand : message.IsCommand activity) (p : Ptr) :
    p ∈ s.recipients topic message ↔ s.Receives topic activity p := by
  unfold recipients delivers Receives Accepts
  rw [List.mem_filter, List.mem_range, hcommand.activity, ← mem_referenced_iff]
  constructor
  · rintro ⟨-, hdelivers⟩
    cases hp : s.consumers[p]? with
    | none => simp [hp] at hdelivers
    | some consumer =>
        simp only [hp, Bool.and_eq_true, List.contains_eq_mem, decide_eq_true_eq] at hdelivers
        exact ⟨hdelivers.1.1, consumer, rfl, hdelivers.1.2, hdelivers.2⟩
  · rintro ⟨hlive, consumer, hp, htopic, hreceives⟩
    refine ⟨ObjectHeap.lt_of_getElem? hp, ?_⟩
    simp only [hp, Bool.and_eq_true, List.contains_eq_mem, decide_eq_true_eq]
    exact ⟨⟨hlive, htopic⟩, hreceives⟩

/-- The events of the delivery of a message. -/
def delivery (env : DispatchEnv) (topic : CxxString) (message : MapMessage) (s : CommandService) :
    List CommandEvent :=
  (dispatch env message s.consumers (s.recipients topic message) s.jmsUtil).1

theorem callsHandler_delivery_iff (env : DispatchEnv) (topic : CxxString) {message : MapMessage}
    {activity : Activity} (hcommand : message.IsCommand activity) {s : CommandService}
    (hwf : s.WellFormed) (handler : Ptr) (b : Activity) :
    CallsHandler (delivery env topic message s) handler b ↔
      activity = b ∧ ∃ p consumer, s.Receives topic activity p ∧ s.consumers[p]? = some consumer ∧
        consumer.handler = handler := by
  rw [delivery, callsHandler_dispatch_iff env hcommand s.consumers _ hwf.dictionary handler b]
  simp only [mem_recipients_iff s topic hcommand]
  constructor
  · rintro ⟨hb, p, hreceives, consumer, hp, hhandler⟩
    exact ⟨hb, p, consumer, hreceives, hp, hhandler⟩
  · rintro ⟨hb, p, consumer, hreceives, hp, hhandler⟩
    exact ⟨hb, p, hreceives, consumer, hp, hhandler⟩

/-! ## A subscription -/

/-- What a handler is subscribed to. -/
inductive Target
  | sequenceCommand (id : SequenceCommand)
  | apply (applyPrefix : CxxString)
deriving DecidableEq, Repr

namespace Target

def topic : Target → CxxString
  | sequenceCommand id => JmsUtil.getTopic id
  | apply applyPrefix => JmsUtil.getApplyTopic applyPrefix

def id : Target → SequenceCommand
  | sequenceCommand id => id
  | apply _ => .apply

/-- `subscribeSequenceCommand` or `subscribeApply`. -/
def subscribe (env : SubscribeEnv) (target : Target) (set : ActivitySet) (handler : Option Ptr)
    (s : CommandService) : Except Exn Status × CommandService :=
  match target with
  | sequenceCommand id => CommandUtil.subscribeSequenceCommand env id set handler s
  | apply applyPrefix => CommandUtil.subscribeApply env applyPrefix set handler s

theorem subscribe_some (env : SubscribeEnv) (target : Target) (set : ActivitySet) (handler : Ptr)
    (s : CommandService) : target.subscribe env set (some handler) s
      = JmsCommandUtil.subscribe env target.id target.topic set handler s := by
  cases target <;> rfl

end Target

/-- The subscription answers `OK`, and the handler is then called for exactly the activities of the
    set, with the activity a message names. -/
def TakesEffect (env : SubscribeEnv) (target : Target) (set : ActivitySet) (handler : Ptr)
    (s : CommandService) : Prop :=
  let (result, s') := target.subscribe env set (some handler) s
  result = .ok .ok ∧
    ∀ (dispatchEnv : DispatchEnv) (message : MapMessage) (activity : Activity),
      message.IsCommand activity → ∀ b,
        (CallsHandler (delivery dispatchEnv target.topic message s') handler b ↔
          activity = b ∧ activity ∈ requested set)

/-- An earlier consumer of the handler lists the activity, and a subscription to `set` leaves it in
    place. -/
def KeptFor (s : CommandService) (topic : CxxString) (set : ActivitySet) (handler : Ptr)
    (activity : Activity) : Prop :=
  ∃ p consumer, s.consumers[p]? = some consumer ∧ consumer.handler = handler ∧
    s.Keeps topic set p ∧ s.Accepts topic activity p

section TakesEffect

variable {s s' : CommandService} {set : ActivitySet} {new : SequenceCommandConsumer}

/-- The handler of the new consumer is reached by what its selector lists and by what the topic keeps
    for it. -/
theorem Subscribed.callsHandler_iff (h : Subscribed s set new s') (hwf : s.WellFormed)
    (env : DispatchEnv) {message : MapMessage} {activity : Activity}
    (hcommand : message.IsCommand activity) (b : Activity) :
    CallsHandler (delivery env new.topic message s') new.handler b ↔
      activity = b ∧ (activity ∈ listed set ∨ KeptFor s new.topic set new.handler activity) := by
  rw [callsHandler_delivery_iff env new.topic hcommand (h.wellFormed hwf)]
  refine and_congr_right (fun _ => ?_)
  constructor
  · rintro ⟨p, consumer, hreceives, hp, hhandler⟩
    rcases (h.receives_iff hwf _ _ _).1 hreceives with ⟨-, -, hlisted⟩ | ⟨haccepts, hkept⟩
    · exact Or.inl hlisted
    · -- an older consumer, which is still where it was
      rw [if_pos rfl] at hkept
      rw [h.consumers, ObjectHeap.getElem?_alloc, if_neg (Nat.ne_of_lt (accepts_lt haccepts))] at hp
      exact Or.inr ⟨p, consumer, hp, hhandler, hkept, haccepts⟩
  · rintro (hlisted | ⟨p, consumer, hp, hhandler, hkept, haccepts⟩)
    · exact ⟨s.consumers.length, new, (h.receives_iff hwf _ _ _).2 (Or.inl ⟨rfl, rfl, hlisted⟩),
        h.consumers_new, rfl⟩
    · exact ⟨p, consumer, (h.receives_iff hwf _ _ _).2 (Or.inr ⟨haccepts, by rwa [if_pos rfl]⟩),
        h.consumers_old hp, hhandler⟩

end TakesEffect

/-- A command message without entries. -/
def commandFor (activity : Activity) : MapMessage :=
  { mapNames := []
    getString := fun _ => .ok []
    getIntProperty := fun _ => .ok 0
    getStringProperty := fun _ => .ok (JmsUtil.activityName activity)
    replyTo := none }

theorem commandFor_isCommand (activity : Activity) : (commandFor activity).IsCommand activity :=
  ⟨⟨0, rfl⟩, rfl, fun _ h => absurd h List.not_mem_nil⟩

/-- A handler that completes at once, on sessions where nothing fails. -/
def promptHandler : DispatchEnv :=
  { handle := fun _ => .create .completed
    resources := fun _ =>
      { createProducer := fun _ => .ok (), createMapMessage := .ok (), send := fun _ => .ok () } }

/-- The working broker refuses the selector of `SET_START` and no other. -/
theorem create_workingBroker (refusal : CxxString → CxxString) (id : SequenceCommand)
    (topic : CxxString) (set : ActivitySet) (handler : Ptr) :
    SequenceCommandConsumer.create (workingBroker refusal).init id topic set handler
      = if set = .setStart then .error (.communicationException
          (str "Trouble initializing sequence command producer: " ++
            refusal (SequenceCommandConsumer.buildSelector set)))
        else .ok { sequenceCommand := id
                   topic
                   selector := SequenceCommandConsumer.buildSelector set
                   handler } := by
  have haccepted := SequenceCommandConsumer.accepted_buildSelector set
  by_cases hstart : set = .setStart
  · subst hstart
    simp [SequenceCommandConsumer.create, SequenceCommandConsumer.connect, workingBroker, haccepted,
      bind, Except.bind]
  · simp [SequenceCommandConsumer.create, SequenceCommandConsumer.connect, workingBroker, haccepted,
      hstart, bind, Except.bind, pure, Except.pure]

theorem getInstance_workingBroker (refusal : CxxString → CxxString) (s : CommandService) :
    ∃ commandUtil, JmsCommandUtil.getInstance (workingBroker refusal).completionInfoProducer s
      = .ok commandUtil := by
  unfold JmsCommandUtil.getInstance
  cases s.commandUtil with
  | some commandUtil => exact ⟨commandUtil, rfl⟩
  | none => exact ⟨_, rfl⟩

/-- **A subscription takes effect** for exactly what was asked, in any state reached and with a
    working broker, precisely if it does not ask for `START` alone and all that the topic keeps for the
    handler is asked for again. -/
theorem takesEffect_iff (ops : List CommandOp) (refusal : CxxString → CxxString) (target : Target)
    (set : ActivitySet) (handler : Ptr) :
    TakesEffect (workingBroker refusal) target set handler (after ops) ↔
      set ≠ .setStart ∧
        ∀ activity, KeptFor (after ops) target.topic set handler activity →
          activity ∈ requested set := by
  obtain ⟨commandUtil, hinstance⟩ := getInstance_workingBroker refusal (after ops)
  have hcreate := create_workingBroker refusal target.id target.topic set handler
  unfold TakesEffect
  rw [Target.subscribe_some]
  by_cases hstart : set = .setStart
  · rw [if_pos hstart] at hcreate
    constructor
    · rintro ⟨hok, -⟩
      simp only [hinstance, hcreate] at hok
      exact absurd hok (by simp)
    · rintro ⟨hother, -⟩
      exact absurd hstart hother
  · rw [if_neg hstart] at hcreate
    obtain ⟨hok, hsub⟩ := subscribe_ok hinstance hcreate
    have hcalls := fun env message activity (hcommand : MapMessage.IsCommand message activity) b =>
      hsub.callsHandler_iff (wellFormed_after ops) env hcommand b
    simp only [listed, if_neg hstart] at hcalls
    constructor
    · rintro ⟨-, hexact⟩
      refine ⟨hstart, fun activity hkept => ?_⟩
      -- a message for what is kept reaches the handler
      have hcommand := commandFor_isCommand activity
      have hcall := (hcalls promptHandler _ activity hcommand activity).2 ⟨rfl, Or.inr hkept⟩
      exact ((hexact promptHandler _ activity hcommand activity).1 hcall).2
    · rintro ⟨-, hkept⟩
      refine ⟨hok, fun env message activity hcommand b => ?_⟩
      refine (hcalls env message activity hcommand b).trans ?_
      constructor
      · rintro ⟨hb, hrequested | hold⟩
        · exact ⟨hb, hrequested⟩
        · exact ⟨hb, hkept activity hold⟩
      · rintro ⟨hb, hrequested⟩
        exact ⟨hb, Or.inl hrequested⟩

/-- `buildSelector` has no case for `SET_START`: what it writes is not a selector. -/
theorem start_alone_refused : ¬ TakesEffect (workingBroker fun _ => str "Invalid selector")
    (.sequenceCommand .observe) .setStart 1 initial := by
  rintro ⟨hok, -⟩
  exact absurd hok (by rintro ⟨⟩)

end CommandUtil

end Giapi
