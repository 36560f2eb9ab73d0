import GiapiGlue.Epics.JmsEpicsManager

set_option autoImplicit false

/-! # Isolation of EPICS channels

An update of a channel is for the handler subscribed to the channel. Consumers are kept by the name of
their channel but listen to its topic, which is the name in upper case: two channels may share a
topic. -/

namespace Giapi

namespace GeminiUtil

/-! ## Who is subscribed -/

/-- The calls with what they returned. -/
def history : GeminiUtil → List EpicsOp → List (EpicsOp × Except Exn Status)
  | _, [] => []
  | s, op :: ops => (op, (call op s).1) :: history (step s op) ops

/-- What a call that returned `OK` changes about the subscriber of a channel. -/
def subscriberStep (channel : CxxString) (subscriber : Option Ptr) :
    EpicsOp × Except Exn Status → Option Ptr
  | (.subscribeEpicsStatus _ name handler, .ok .ok) =>
    if channel = name then some handler else subscriber
  | (.unsubscribeEpicsStatus _ name, .ok .ok) => if channel = name then none else subscriber
  | _ => subscriber

/-- The handler most recently subscribed to a channel and not unsubscribed since. -/
def subscriber (channel : CxxString) (ops : List EpicsOp) : Option Ptr :=
  (history initial ops).foldl (subscriberStep channel) none

/-- An update of the channel is passed to its subscriber, once, and to nobody else. -/
def Isolated (ops : List EpicsOp) (channel : CxxString) (message : BytesMessage) : Prop :=
  ((after ops).deliver channel message).1.map ChannelChanged.handler
    = (subscriber channel ops).toList

/-- The updates that reach the right handlers. One that is parsed does when no other channel with a
    subscriber has the same name up to case; one that makes the parser throw ends the process, so it
    does when there is nobody to call. -/
def Undisturbed (ops : List EpicsOp) (channel : CxxString) (message : BytesMessage) : Prop :=
  match JmsEpicsFactory.buildEpicsStatusItem message with
  | .ok _ => ∀ other, (subscriber other ops).isSome →
    other.map JmsUtil.upper = channel.map JmsUtil.upper → other = channel
  | .error _ => subscriber channel ops = none

/-! ## The consumers and the subscribers -/

/-- The handler of the consumer kept for a channel. -/
def handlerOf (channel : CxxString) (s : GeminiUtil) : Option Ptr :=
  s.epicsMgr.bind (fun epicsMgr =>
    (epicsMgr.epicsConsumersMap.lookup channel).map EpicsConsumer.handler)

theorem history_append (s : GeminiUtil) (ops ops' : List EpicsOp) :
    history s (ops ++ ops') = history s ops ++ history (Run.after step s ops) ops' := by
  induction ops generalizing s with
  | nil => rfl
  | cons op ops ih => rw [List.cons_append, history, ih, history]; rfl

theorem subscriber_concat (channel : CxxString) (ops : List EpicsOp) (op : EpicsOp) :
    subscriber channel (ops ++ [op])
      = subscriberStep channel (subscriber channel ops) (op, (call op (after ops)).1) := by
  rw [subscriber, history_append, List.foldl_append]
  rfl

/-- The consumer kept for a channel. -/
def consumerOf (channel : CxxString) (s : GeminiUtil) : Option EpicsConsumer :=
  s.epicsMgr.bind (fun epicsMgr => epicsMgr.epicsConsumersMap.lookup channel)

/-- The manager a call works on: the one there is, or a new one without consumers. -/
theorem getInstance_ok {env : GeminiEnv} {s : GeminiUtil} {epicsMgr : JmsEpicsManager}
    (h : s.getInstance env = .ok epicsMgr) :
    (∀ channel, epicsMgr.epicsConsumersMap.lookup channel = consumerOf channel s) ∧
      ∀ channel, s.hasChannel channel = true →
        epicsMgr.epicsConfiguration.hasChannel channel = true := by
  unfold getInstance at h
  split at h
  · next existing heq =>
      rw [← Except.ok.inj h]
      refine ⟨fun channel => ?_, fun channel hchannel => ?_⟩
      · rw [consumerOf, heq, Option.bind_some]
      · rwa [hasChannel, heq] at hchannel
  · next hnone =>
      obtain ⟨created, hcreate, h⟩ := except_bind_ok h
      obtain ⟨_, -, h⟩ := except_bind_ok h
      obtain rfl : created = epicsMgr := Except.ok.inj h
      rw [JmsEpicsManager.create_consumers hcreate]
      refine ⟨fun channel => ?_, fun channel hchannel => ?_⟩
      · rw [consumerOf, hnone]
        rfl
      · exact absurd hchannel (by simp [hasChannel, hnone])

theorem handlerOf_eq (channel : CxxString) (s : GeminiUtil) :
    handlerOf channel s = (consumerOf channel s).map EpicsConsumer.handler := by
  unfold handlerOf consumerOf
  cases s.epicsMgr <;> rfl

theorem handlerOf_getInstance {env : GeminiEnv} {s : GeminiUtil} {epicsMgr : JmsEpicsManager}
    (h : s.getInstance env = .ok epicsMgr) (channel : CxxString) :
    handlerOf channel { epicsMgr := some epicsMgr } = handlerOf channel s := by
  rw [handlerOf_eq channel s, ← (getInstance_ok h).1 channel]
  rfl

theorem handlerOf_subscribe (env : GeminiEnv) (name : CxxString) (handler : Ptr)
    (epicsMgr : JmsEpicsManager) (channel : CxxString) :
    handlerOf channel { epicsMgr := some (epicsMgr.subscribeEpicsStatus env name handler).2 }
      = subscriberStep channel (handlerOf channel { epicsMgr := some epicsMgr })
          (.subscribeEpicsStatus env name handler,
            (epicsMgr.subscribeEpicsStatus env name handler).1) := by
  have hsubscribed := epicsMgr.subscribe_subscribed env name handler
  generalize epicsMgr.subscribeEpicsStatus env name handler = outcome at hsubscribed ⊢
  cases hsubscribed with
  | @refused result ready hresult hconsumers _ =>
      have hsame : handlerOf channel { epicsMgr := some ready }
          = handlerOf channel { epicsMgr := some epicsMgr } := by
        simp only [handlerOf, Option.bind_some, hconsumers]
      rw [hsame]
      rcases result with e | status
      · rfl
      · cases status with
        | ok => exact absurd rfl hresult
        | error => rfl
  | stored consumer hname hhandler _ hconsumers _ =>
      rw [handlerOf, Option.bind_some, JmsEpicsManager.lookup_store,
        apply_ite (Option.map EpicsConsumer.handler), Option.map_some, hhandler, hconsumers]
      rfl

theorem handlerOf_unsubscribe (env : GeminiEnv) (name : CxxString) (epicsMgr : JmsEpicsManager)
    (channel : CxxString) :
    handlerOf channel { epicsMgr := some (epicsMgr.unsubscribeEpicsStatus name).2 }
      = subscriberStep channel (handlerOf channel { epicsMgr := some epicsMgr })
          (.unsubscribeEpicsStatus env name, (epicsMgr.unsubscribeEpicsStatus name).1) := by
  unfold JmsEpicsManager.unsubscribeEpicsStatus
  split
  · rw [handlerOf, Option.bind_some, JmsEpicsManager.lookup_erase,
      apply_ite (Option.map EpicsConsumer.handler)]
    rfl
  · rfl

/-- Without a manager a call fails and leaves everything as it was. -/
theorem call_subscribe_error {env : GeminiEnv} {s : GeminiUtil} {e : Exn}
    (h : s.getInstance env = .error e) (name : CxxString) (handler : Ptr) :
    call (.subscribeEpicsStatus env name handler) s = (.error e, s) := by
  rw [call, subscribeEpicsStatus, h]

theorem call_unsubscribe_error {env : GeminiEnv} {s : GeminiUtil} {e : Exn}
    (h : s.getInstance env = .error e) (name : CxxString) :
    call (.unsubscribeEpicsStatus env name) s = (.error e, s) := by
  rw [call, unsubscribeEpicsStatus, h]

theorem call_subscribe {env : GeminiEnv} {s : GeminiUtil} {epicsMgr : JmsEpicsManager}
    (h : s.getInstance env = .ok epicsMgr) (name : CxxString) (handler : Ptr) :
    call (.subscribeEpicsStatus env name handler) s
      = ((epicsMgr.subscribeEpicsStatus env name handler).1,
        { epicsMgr := some (epicsMgr.subscribeEpicsStatus env name handler).2 }) := by
  rw [call, subscribeEpicsStatus, h]

theorem call_unsubscribe {env : GeminiEnv} {s : GeminiUtil} {epicsMgr : JmsEpicsManager}
    (h : s.getInstance env = .ok epicsMgr) (name : CxxString) :
    call (.unsubscribeEpicsStatus env name) s
      = ((epicsMgr.unsubscribeEpicsStatus name).1,
        { epicsMgr := some (epicsMgr.unsubscribeEpicsStatus name).2 }) := by
  rw [call, unsubscribeEpicsStatus, h]

/-- A call changes the consumer of a channel as it changes its subscriber. -/
theorem handlerOf_step (s : GeminiUtil) (op : EpicsOp) (channel : CxxString) :
    handlerOf channel (step s op)
      = subscriberStep channel (handlerOf channel s) (op, (call op s).1) := by
  cases op with
  | subscribeEpicsStatus env name handler =>
      cases hinstance : s.getInstance env with
      | error e =>
          rw [step, call_subscribe_error hinstance]
          rfl
      | ok epicsMgr =>
          rw [step, call_subscribe hinstance, ← handlerOf_getInstance hinstance channel]
          exact handlerOf_subscribe env name handler epicsMgr channel
  | unsubscribeEpicsStatus env name =>
      cases hinstance : s.getInstance env with
      | error e =>
          rw [step, call_unsubscribe_error hinstance]
          rfl
      | ok epicsMgr =>
          rw [step, call_unsubscribe hinstance, ← handlerOf_getInstance hinstance channel]
          exact handlerOf_unsubscribe env name epicsMgr channel

/-- After any run, each channel has the consumer of its subscriber. -/
theorem handlerOf_after (channel : CxxString) (ops : List EpicsOp) :
    handlerOf channel (after ops) = subscriber channel ops := by
  induction ops using List.reverseRecOn with
  | nil => rfl
  | append_singleton ops op ih =>
      rw [subscriber_concat, ← ih, after, Run.after_concat]
      exact handlerOf_step (after ops) op channel

/-! ## What is delivered -/

theorem dispatch_ok {message : BytesMessage} {item : Option EpicsStatusItem}
    (h : JmsEpicsFactory.buildEpicsStatusItem message = .ok item) (consumers : List EpicsConsumer) :
    (dispatch message consumers).1.map ChannelChanged.handler
      = consumers.map EpicsConsumer.handler := by
  induction consumers with
  | nil => rfl
  | cons consumer consumers ih =>
      have honMessage : consumer.onMessage message = .ok { handler := consumer.handler, item } := by
        rw [EpicsConsumer.onMessage, h]
      rw [dispatch, honMessage]
      exact congrArg (consumer.handler :: ·) ih

theorem dispatch_error {message : BytesMessage} {e : Exn}
    (h : JmsEpicsFactory.buildEpicsStatusItem message = .error e) (consumers : List EpicsConsumer) :
    (dispatch message consumers).1 = [] := by
  cases consumers with
  | nil => rfl
  | cons consumer consumers =>
      have honMessage : consumer.onMessage message = .error e := by
        rw [EpicsConsumer.onMessage, h]
      rw [dispatch, honMessage]

end GeminiUtil

namespace JmsEpicsManager

/-- Topics are equal when the names are equal up to case. -/
theorem mem_recipients {manager : JmsEpicsManager} {channel : CxxString} {consumer : EpicsConsumer} :
    consumer ∈ manager.recipients (JmsUtil.getEpicsChannelTopic channel) ↔
      manager.epicsConsumersMap.lookup consumer.channelName = some consumer ∧
        consumer.channelName.map JmsUtil.upper = channel.map JmsUtil.upper := by
  rw [recipients, List.mem_filter, UnorderedMap.mem_values_iff, decide_eq_true_iff, consumer.listens,
    JmsUtil.getEpicsChannelTopic, JmsUtil.getEpicsChannelTopic, List.append_cancel_left_eq]
  constructor
  · rintro ⟨⟨name, hname⟩, htopic⟩
    obtain rfl := manager.keyed name consumer hname
    exact ⟨hname, htopic⟩
  · rintro ⟨hlookup, htopic⟩
    exact ⟨⟨_, hlookup⟩, htopic⟩

/-- Only the consumer of the channel is on its topic when no other consumer has the same name up to
    case. -/
theorem recipients_eq {manager : JmsEpicsManager} {channel : CxxString}
    (h : ∀ other, (manager.epicsConsumersMap.lookup other).isSome →
      other.map JmsUtil.upper = channel.map JmsUtil.upper → other = channel) :
    manager.recipients (JmsUtil.getEpicsChannelTopic channel)
      = (manager.epicsConsumersMap.lookup channel).toList := by
  refine UnorderedMap.values_filter_eq fun name consumer hname => ?_
  rw [decide_eq_true_iff, consumer.listens, manager.keyed name consumer hname]
  constructor
  · intro htopic
    exact h name (by rw [hname]; rfl) (List.append_cancel_left htopic)
  · rintro rfl
    rfl

end JmsEpicsManager

namespace GeminiUtil

/-- An update that can be parsed is passed to whoever listens to the topic. -/
theorem invoked_of_ok {message : BytesMessage} {item : Option EpicsStatusItem}
    (h : JmsEpicsFactory.buildEpicsStatusItem message = .ok item) (epicsMgr : JmsEpicsManager)
    (channel : CxxString) :
    (deliver channel message { epicsMgr := some epicsMgr }).1.map ChannelChanged.handler
      = (epicsMgr.recipients (JmsUtil.getEpicsChannelTopic channel)).map EpicsConsumer.handler :=
  dispatch_ok h _

theorem invoked_of_error {message : BytesMessage} {e : Exn}
    (h : JmsEpicsFactory.buildEpicsStatusItem message = .error e) (s : GeminiUtil)
    (channel : CxxString) : (deliver channel message s).1 = [] := by
  rw [deliver]
  split
  · rfl
  · exact dispatch_error h _

/-- Which channels the consumers on a topic belong to. -/
theorem isolated_of_parsed (epicsMgr : JmsEpicsManager) (channel : CxxString) :
    (epicsMgr.recipients (JmsUtil.getEpicsChannelTopic channel)).map EpicsConsumer.handler
        = ((epicsMgr.epicsConsumersMap.lookup channel).map EpicsConsumer.handler).toList ↔
      ∀ other, (epicsMgr.epicsConsumersMap.lookup other).isSome →
        other.map JmsUtil.upper = channel.map JmsUtil.upper → other = channel := by
  constructor
  · intro heq other hother hupper
    obtain ⟨consumer, hconsumer⟩ := Option.isSome_iff_exists.1 hother
    have hname := epicsMgr.keyed other consumer hconsumer
    have hmem : consumer ∈ epicsMgr.recipients (JmsUtil.getEpicsChannelTopic channel) := by
      rw [JmsEpicsManager.mem_recipients, hname]
      exact ⟨hconsumer, hupper⟩
    have hlength := congrArg List.length heq
    rw [List.length_map] at hlength
    cases hown : epicsMgr.epicsConsumersMap.lookup channel with
    | none =>
        rw [hown] at hlength
        rw [List.eq_nil_of_length_eq_zero hlength] at hmem
        exact absurd hmem List.not_mem_nil
    | some own =>
        rw [hown] at hlength
        have hownName := epicsMgr.keyed channel own hown
        have hownMem : own ∈ epicsMgr.recipients (JmsUtil.getEpicsChannelTopic channel) := by
          rw [JmsEpicsManager.mem_recipients, hownName]
          exact ⟨hown, rfl⟩
        -- one consumer only is on the topic, so the two are the same
        obtain ⟨single, hsingle⟩ := List.length_eq_one_iff.1 hlength
        rw [hsingle, List.mem_singleton] at hmem hownMem
        rw [← hname, ← hownName, hmem, hownMem]
  · intro h
    rw [JmsEpicsManager.recipients_eq h]
    cases epicsMgr.epicsConsumersMap.lookup channel <;> rfl

/-- After a run, an update reaches its subscriber and nobody else exactly when it is undisturbed. -/
theorem isolated_iff (ops : List EpicsOp) (channel : CxxString) (message : BytesMessage) :
    Isolated ops channel message ↔ Undisturbed ops channel message := by
  rw [Isolated, Undisturbed]
  cases hbuild : JmsEpicsFactory.buildEpicsStatusItem message with
  | error e =>
      rw [invoked_of_error hbuild]
      cases subscriber channel ops <;> simp
  | ok item =>
      have hsubscriber : ∀ other, subscriber other ops = handlerOf other (after ops) :=
        fun other => (handlerOf_after other ops).symm
      simp only [hsubscriber]
      obtain ⟨epicsMgr⟩ := after ops
      cases epicsMgr with
      | none => exact ⟨fun _ other h => absurd h (by simp [handlerOf]), fun _ => rfl⟩
      | some epicsMgr =>
          rw [invoked_of_ok hbuild]
          simpa only [handlerOf, Option.bind_some, Option.isSome_map]
            using isolated_of_parsed epicsMgr channel

/-- A GMP that knows the channels `a` and `A`. -/
def twoChannels : GeminiEnv :=
  { connectionManager := .ok ()
    createSession := .ok ()
    constructReply := .names [str "a", str "A"]
    otherMembers := .ok ()
    subscribeReply := .timeout
    consumer :=
      { connectionManager := .ok ()
        createSession := .ok ()
        createTopic := fun _ => .ok ()
        createConsumer := fun _ => .ok ()
        setMessageListener := .ok () } }

/-- An update of `A` without elements is passed to the handler of `a`. -/
theorem update_crosses_channels :
    (after [.subscribeEpicsStatus twoChannels (str "a") 1]).hasChannel (str "A") ∧
      ¬ Isolated [.subscribeEpicsStatus twoChannels (str "a") 1] (str "A")
        { content := [0, 0, 1, 65, 0, 0, 0, 0], fits := by decide } := by
  refine ⟨by decide, ?_⟩
  rw [Isolated]
  decide

end GeminiUtil

end Giapi
