import GiapiGlue.Commands.Subscriptions

set_option autoImplicit false

/-! # What a handler is called with

`onMessage` turns a message into one call of the handler: the action id as it is, the activity as the
dictionary reads it, the entries copied into a configuration. The dictionary answers for every name,
also for those that are not the name of an activity. -/

namespace Giapi

/-- The message has these properties and these entries. -/
structure MapMessage.Carries (message : MapMessage) (actionId : CInt) (activity : CxxString)
    (entries : UnorderedMap CxxString CxxString) : Prop where
  actionId : message.getIntProperty GMPKeys.gmpActionidProp = .ok actionId
  activity : message.getStringProperty GMPKeys.gmpActivityProp = .ok activity
  names : ∀ name, name ∈ message.mapNames ↔ name ∈ entries
  values : ∀ name value, entries.lookup name = some value → message.getString name = .ok value

/-- The configuration has these entries, and no others. -/
structure Configuration.Holds (config : Configuration) (entries : UnorderedMap CxxString CxxString) :
    Prop where
  nodup : config.getKeys.Nodup
  keys : ∀ name, name ∈ config.getKeys ↔ name ∈ entries
  values : ∀ name value, entries.lookup name = some value → (config.getValue name).1 = value

namespace CommandUtil

/-! ## The dictionary along a run -/

/-- What `getActivity` keeps, every call keeps. -/
theorem step_dictionary {P : JmsUtil → Prop}
    (hP : ∀ {jmsUtil}, P jmsUtil → ∀ id, P (jmsUtil.getActivity id).2) (s : CommandService)
    (op : CommandOp) (h : P s.jmsUtil) : P (step s op).jmsUtil := by
  -- a subscription never looks an activity up
  have hsubscribe : ∀ env id topic activities handler,
      (JmsCommandUtil.subscribe env id topic activities handler s).2.jmsUtil = s.jmsUtil := by
    intro env id topic activities handler
    unfold JmsCommandUtil.subscribe
    split
    · rfl
    · split <;> rfl
  cases op with
  | subscribeSequenceCommand env id activities handler =>
      cases handler with
      | none => exact h
      | some handler => exact (hsubscribe env id _ activities handler).symm ▸ h
  | subscribeApply env applyPrefix activities handler =>
      cases handler with
      | none => exact h
      | some handler => exact (hsubscribe env .apply _ activities handler).symm ▸ h
  | postCompletionInfo resources id response =>
      rw [step]
      rcases postCompletionInfo_snd resources id response s with hsame | ⟨_, _, _, hpost⟩
      · rwa [hsame]
      · rwa [hpost]
  | deliver env topic message =>
      exact dispatch_dictionary hP env message s.consumers _ h

end CommandUtil

/-- A call of the command API, or a message that is given to a consumer's listener as it is: the
    listener does not look at the selector itself. -/
inductive DispatchOp
  | call (op : CommandOp)
  | onMessage (handle : Invocation → HandlerResponse) (resources : ReplyResources)
      (consumer : SequenceCommandConsumer) (message : MapMessage)

namespace DispatchOp

def step (s : CommandService) : DispatchOp → CommandService
  | .call op => CommandUtil.step s op
  | .onMessage handle resources consumer message =>
    let (events, jmsUtil) := consumer.onMessage handle resources message s.jmsUtil
    { s with
      jmsUtil
      events := s.events ++ events }

/-- The state after any calls and any messages. -/
abbrev after (ops : List DispatchOp) : CommandService := Run.after step CommandUtil.initial ops

theorem step_settled (s : CommandService) (op : DispatchOp) (h : s.jmsUtil.Settled) :
    (step s op).jmsUtil.Settled := by
  cases op with
  | call op => exact CommandUtil.step_dictionary JmsUtil.getActivity_settled s op h
  | onMessage handle resources consumer message =>
      exact CommandUtil.onMessage_dictionary JmsUtil.getActivity_settled handle resources consumer
        message h

theorem after_settled (ops : List DispatchOp) : (after ops).jmsUtil.Settled :=
  Run.invariant (I := fun s : CommandService => s.jmsUtil.Settled) (fun _ => rfl) step_settled ops

end DispatchOp

namespace SequenceCommandConsumer

/-! ## The configuration -/

/-- Each name that is read is set to its value, and every other name stays what it was. -/
theorem configuration_lookup {message : MapMessage} {entries : UnorderedMap CxxString CxxString}
    (hvalues : ∀ name value, entries.lookup name = some value → message.getString name = .ok value)
    (names : List CxxString) (hnames : ∀ name ∈ names, name ∈ entries) (config : Configuration) :
    ∃ config', configuration message names config = .ok config' ∧ ∀ key,
      config'.configMap.lookup key
        = if key ∈ names then entries.lookup key else config.configMap.lookup key := by
  induction names generalizing config with
  | nil => exact ⟨config, rfl, fun key => by simp⟩
  | cons name names ih =>
      obtain ⟨value, hvalue⟩ := Option.isSome_iff_exists.1
        (AList.lookup_isSome.2 (hnames name List.mem_cons_self))
      obtain ⟨config', hconfig, hlookup⟩ := ih
        (fun n hn => hnames n (List.mem_cons_of_mem name hn)) (config.setValue name value)
      refine ⟨config', ?_, fun key => ?_⟩
      · rw [configuration, hvalues name value hvalue]
        exact hconfig
      · rw [hlookup key, Configuration.setValue, UnorderedMap.lookup_insert_if]
        by_cases hkey : key = name
        · -- a later occurrence of the name reads the same value again
          subst hkey
          simp [hvalue]
        · simp [hkey]

theorem configuration_holds {message : MapMessage} {actionId : CInt} {activity : CxxString}
    {entries : UnorderedMap CxxString CxxString} (h : message.Carries actionId activity entries) :
    ∃ config, configuration message message.mapNames .empty = .ok config ∧ config.Holds entries := by
  obtain ⟨config, hconfig, hlookup⟩ := configuration_lookup h.values message.mapNames
    (fun name hname => (h.names name).1 hname) .empty
  have hentries : ∀ key, config.configMap.lookup key = entries.lookup key := by
    -- what is not named is in neither: the configuration starts empty
    intro key
    rw [hlookup key]
    by_cases hkey : key ∈ message.mapNames
    · rw [if_pos hkey]
    · rw [if_neg hkey, AList.lookup_eq_none.2 (fun hmem => hkey ((h.names key).2 hmem))]
      exact AList.lookup_empty key
  refine ⟨config, hconfig, config.configMap.nodupKeys, fun name => ?_, fun name value hvalue => ?_⟩
  · show name ∈ config.configMap ↔ name ∈ entries
    rw [← AList.lookup_isSome, ← AList.lookup_isSome, hentries name]
  · show (config.configMap.subscript [] name).1 = value
    rw [UnorderedMap.subscript_fst, hentries name, hvalue, Option.getD_some]

/-! ## The call -/

/-- The handler is called once, with the activity and what the message carries, and a reply that can be
    sent is sent once. -/
def HandledOnce (handle : Invocation → HandlerResponse) (resources : ReplyResources)
    (consumer : SequenceCommandConsumer) (message : MapMessage) (actionId : CInt) (activity : Activity)
    (entries : UnorderedMap CxxString CxxString) (events : List CommandEvent) : Prop :=
  ∃ call replies, events = .handled call :: replies ∧
    call.handler = consumer.handler ∧ call.actionId = actionId ∧
    call.sequenceCommand = consumer.sequenceCommand ∧ call.activity = activity ∧
    call.config.Holds entries ∧ (∀ other, .handled other ∉ replies) ∧
    ∀ destination, Answers resources message (handle call) destination →
      replies = [.replied destination (JmsUtil.makeHandlerResponseMsg (handle call))]

/-- What a message is to lead to, by the name it has for its activity. -/
def DispatchedFaithfully (handle : Invocation → HandlerResponse) (resources : ReplyResources)
    (consumer : SequenceCommandConsumer) (message : MapMessage) (actionId : CInt) (name : CxxString)
    (entries : UnorderedMap CxxString CxxString) (events : List CommandEvent) : Prop :=
  (∀ activity, name = JmsUtil.activityName activity →
    HandledOnce handle resources consumer message actionId activity entries events) ∧
  ((∀ activity, name ≠ JmsUtil.activityName activity) → ∀ call, .handled call ∉ events)

theorem reply_calls_none (resources : ReplyResources) (message : MapMessage)
    (response : HandlerResponse) (call : Invocation) :
    .handled call ∉ reply resources message response := by
  rcases reply_cases resources message response with ⟨destination, -, hreply⟩ | ⟨-, hreply⟩
  · rw [hreply]
    simp
  · rw [hreply]
    exact List.not_mem_nil

/-- Every message is handled once, with the activity the dictionary has for its name at the start. -/
theorem onMessage_handledOnce (handle : Invocation → HandlerResponse) (resources : ReplyResources)
    (consumer : SequenceCommandConsumer) {message : MapMessage} {actionId : CInt} {name : CxxString}
    {entries : UnorderedMap CxxString CxxString} (hcarries : message.Carries actionId name entries)
    {jmsUtil : JmsUtil} (hsettled : jmsUtil.Settled) :
    HandledOnce handle resources consumer message actionId (JmsUtil.initial.getActivity name).1 entries
      (onMessage handle resources consumer message jmsUtil).1 := by
  obtain ⟨config, hconfig, hholds⟩ := configuration_holds hcarries
  have hinvocation : (consumer.invocation message jmsUtil).1
      = some { handler := consumer.handler, actionId, sequenceCommand := consumer.sequenceCommand,
               activity := (jmsUtil.getActivity name).1, config } := by
    unfold invocation
    simp only [hcarries.actionId, hcarries.activity, hconfig]
  rw [onMessage_eq, hinvocation]
  refine ⟨_, _, rfl, rfl, rfl, rfl, JmsUtil.getActivity_eq hsettled name, hholds, fun other => ?_,
    fun destination hanswers => ?_⟩
  · exact reply_calls_none _ _ _ other
  · rcases reply_cases resources message (handle _) with ⟨other, hother, hreply⟩ | ⟨hnone, -⟩
    · obtain rfl : destination = other := Option.some.inj (hanswers.1.symm.trans hother.1)
      exact hreply
    · exact absurd hanswers (hnone destination)

/-- A name that is no activity's is dispatched as `PRESET`, however often it comes. -/
theorem onMessage_unknown (handle : Invocation → HandlerResponse) (resources : ReplyResources)
    (consumer : SequenceCommandConsumer) {message : MapMessage} {actionId : CInt} {name : CxxString}
    {entries : UnorderedMap CxxString CxxString} (hcarries : message.Carries actionId name entries)
    (hname : ∀ activity, name ≠ JmsUtil.activityName activity) {jmsUtil : JmsUtil}
    (hsettled : jmsUtil.Settled) :
    HandledOnce handle resources consumer message actionId .preset entries
      (onMessage handle resources consumer message jmsUtil).1 := by
  rw [← JmsUtil.getActivity_unknown hname]
  exact onMessage_handledOnce handle resources consumer hcarries hsettled

/-- **Faithful dispatch.** After any calls, and any messages to any consumers, a message is dispatched
    as it is to be precisely if its activity has one of the four names. -/
theorem dispatchedFaithfully_iff_named (ops : List DispatchOp) (handle : Invocation → HandlerResponse)
    (resources : ReplyResources) (consumer : SequenceCommandConsumer) {message : MapMessage}
    {actionId : CInt} {name : CxxString} {entries : UnorderedMap CxxString CxxString}
    (hcarries : message.Carries actionId name entries) :
    DispatchedFaithfully handle resources consumer message actionId name entries
        (onMessage handle resources consumer message (DispatchOp.after ops).jmsUtil).1 ↔
      ∃ activity, name = JmsUtil.activityName activity := by
  have hsettled := DispatchOp.after_settled ops
  constructor
  · intro h
    -- otherwise the handler was called with `PRESET`
    by_contra hname
    have hunknown : ∀ activity, name ≠ JmsUtil.activityName activity := fun activity heq =>
      hname ⟨activity, heq⟩
    obtain ⟨call, replies, hevents, -⟩ :=
      onMessage_unknown handle resources consumer hcarries hunknown hsettled
    refine h.2 hunknown call ?_
    rw [hevents]
    exact List.mem_cons_self
  · intro h
    obtain ⟨activity, rfl⟩ := h
    refine ⟨fun activity' heq => ?_, fun hunknown => absurd rfl (hunknown activity)⟩
    obtain rfl := activityName_injective heq
    have hone := onMessage_handledOnce handle resources consumer hcarries hsettled
    rwa [JmsUtil.getActivity_activityName JmsUtil.initial_faithful] at hone

/-- A session on which every reply can be sent. -/
def workingReply : ReplyResources :=
  { createProducer := fun _ => .ok ()
    createMapMessage := .ok ()
    send := fun _ => .ok () }

def testEntries : UnorderedMap CxxString CxxString := AList.insert (str "x") (str "1") ∅

/-- The message asks for `activity`, with one entry. -/
def testMessage (activity : CxxString) : MapMessage :=
  { mapNames := [str "x"]
    getString := fun _ => .ok (str "1")
    getIntProperty := fun _ => .ok 7
    getStringProperty := fun _ => .ok activity
    replyTo := some (str "replies") }

theorem testMessage_carries (activity : CxxString) :
    (testMessage activity).Carries 7 activity testEntries := by
  refine ⟨rfl, rfl, fun name => ?_, fun name value hvalue => ?_⟩
  · rw [testEntries, AList.mem_insert]
    simp [testMessage]
  · rw [testEntries, UnorderedMap.lookup_insert_if] at hvalue
    by_cases hname : name = str "x"
    · rw [if_pos hname] at hvalue
      rw [← Option.some.inj hvalue]
      rfl
    · rw [if_neg hname, AList.lookup_empty] at hvalue
      exact absurd hvalue (by simp)

/-- The consumer of `PARK`. -/
def parkConsumer : SequenceCommandConsumer :=
  { sequenceCommand := .park
    topic := JmsUtil.getTopic .park
    selector := buildSelector .setPresetStartCancel
    handler := 3 }

/-- The message is given to the consumer, and its handler starts whatever it is asked to. -/
def testOp (activity : CxxString) : DispatchOp :=
  .onMessage (fun _ => .create .started) workingReply parkConsumer (testMessage activity)

/-- What the message leads to after the operations. -/
def testDispatch (ops : List DispatchOp) (activity : CxxString) : List CommandEvent :=
  (onMessage (fun _ => .create .started) workingReply parkConsumer (testMessage activity)
    (DispatchOp.after ops).jmsUtil).1

/-- A name that is no activity's stays in the dictionary. -/
example : (DispatchOp.after [testOp (str "RESUME")]).jmsUtil.activityMap.lookup (str "RESUME")
    = some 0 := by decide

theorem startMessage_dispatched :
    DispatchedFaithfully (fun _ => .create .started) workingReply parkConsumer
      (testMessage GMPKeys.gmpActivityStart) 7 GMPKeys.gmpActivityStart testEntries
      (testDispatch [testOp (str "RESUME")] GMPKeys.gmpActivityStart) :=
  (dispatchedFaithfully_iff_named [testOp (str "RESUME")] _ workingReply parkConsumer
    (testMessage_carries _)).2 ⟨.start, rfl⟩

/-- There is no activity `RESUME`, and yet the handler is called. -/
theorem resumeMessage_handled :
    ¬ DispatchedFaithfully (fun _ => .create .started) workingReply parkConsumer
      (testMessage (str "RESUME")) 7 (str "RESUME") testEntries (testDispatch [] (str "RESUME")) := by
  intro h
  have hunknown : ∀ activity, str "RESUME" ≠ JmsUtil.activityName activity := by
    intro activity
    cases activity <;> decide
  obtain ⟨call, replies, hevents, -⟩ := onMessage_unknown (fun _ => .create .started) workingReply
    parkConsumer (testMessage_carries (str "RESUME")) hunknown (DispatchOp.after_settled [])
  refine h.2 hunknown call ?_
  rw [testDispatch, hevents]
  exact List.mem_cons_self

end SequenceCommandConsumer

end Giapi
