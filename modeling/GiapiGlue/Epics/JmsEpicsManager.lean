import GiapiGlue.Epics.JmsEpicsFactory
import GiapiGlue.Gmp.JmsUtil
import GiapiGlue.Lib.Run

set_option autoImplicit false

/-! # EPICS subscriptions

`GeminiUtil` over `JmsEpicsManager`: the valid channels, which the GMP is asked for, the consumer of
each channel, the two calls that change them, and the delivery of an update by the broker. -/

namespace Giapi

/-! ## The valid channels -/

/-- What the request for the valid channels ends with. -/
inductive ChannelsReply
  | names (mapNames : List CxxString)
  | timeout
  | cmsException (message : CxxString)

structure JmsEpicsConfiguration where
  epicsChannels : Finset CxxString

namespace JmsEpicsConfiguration

def create : JmsEpicsConfiguration := { epicsChannels := ∅ }

def isInitialized (configuration : JmsEpicsConfiguration) : Bool :=
  0 < configuration.epicsChannels.card

def hasChannel (channel : CxxString) (configuration : JmsEpicsConfiguration) : Bool :=
  channel ∈ configuration.epicsChannels

def requestChannels (reply : ChannelsReply) (configuration : JmsEpicsConfiguration) :
    Except Exn JmsEpicsConfiguration :=
  match reply with
  | .names mapNames =>
    .ok { epicsChannels := configuration.epicsChannels ∪ mapNames.toFinset }
  | .timeout => .error (.timeoutException (str "Time out trying to get valid Epics Channel names "))
  | .cmsException message =>
    .error (.postException (str "Problem getting valid epics channel : " ++ message))

/-- `init`. -/
def init (reply : ChannelsReply) (configuration : JmsEpicsConfiguration) :
    Except Exn JmsEpicsConfiguration :=
  configuration.requestChannels reply

end JmsEpicsConfiguration

/-! ## Consumers -/

/-- A call of `channelChanged`. A body that is no update makes a null item. -/
structure ChannelChanged where
  handler : Ptr
  item : Option EpicsStatusItem
deriving DecidableEq

/-- A consumer listens to the topic of its channel. -/
structure EpicsConsumer where
  channelName : CxxString
  handler : Ptr
  destination : CxxString
  listens : destination = JmsUtil.getEpicsChannelTopic channelName

namespace EpicsConsumer

/-- What the constructor meets outside the library. -/
structure Resources where
  /-- `ConnectionManager::Instance()`. -/
  connectionManager : Except Exn Unit
  createSession : Except Exn Unit
  createTopic : CxxString → Except Exn Unit
  createConsumer : CxxString → Except Exn Unit
  setMessageListener : Except Exn Unit

/-- The `try` block of the constructor. -/
def connect (resources : Resources) (topic : CxxString) : Except Exn Unit := do
  resources.connectionManager
  resources.createSession
  resources.createTopic topic
  resources.createConsumer topic
  resources.setMessageListener

def create (resources : Resources) (channelName : CxxString) (handler : Ptr) :
    Except Exn EpicsConsumer :=
  match connect resources (JmsUtil.getEpicsChannelTopic channelName) with
  | .ok () => .ok
    { channelName
      handler
      destination := JmsUtil.getEpicsChannelTopic channelName
      listens := rfl }
  | .error (.cmsException message) => .error (.communicationException
      (str "Trouble initializing EPICS consumer: " ++ message))
  | .error e => .error e

/-- `onMessage`: the name in the update is not looked at. -/
def onMessage (message : BytesMessage) (consumer : EpicsConsumer) : Except Exn ChannelChanged :=
  match JmsEpicsFactory.buildEpicsStatusItem message with
  | .ok item => .ok { handler := consumer.handler, item }
  | .error e => .error e

end EpicsConsumer

/-! ## The manager -/

/-- A consumer is kept under the name of its channel. -/
structure JmsEpicsManager where
  epicsConfiguration : JmsEpicsConfiguration
  epicsConsumersMap : UnorderedMap CxxString EpicsConsumer
  keyed : ∀ name consumer, epicsConsumersMap.lookup name = some consumer →
    consumer.channelName = name

/-- What the calls meet outside the library. -/
structure GeminiEnv where
  /-- `ConnectionManager::Instance()` and `createSession` in the constructor of the manager. -/
  connectionManager : Except Exn Unit
  createSession : Except Exn Unit
  /-- The request of the constructor of the manager. -/
  constructReply : ChannelsReply
  /-- The constructors of the other members of `GeminiUtilImpl`. -/
  otherMembers : Except Exn Unit
  /-- The request of a subscription. -/
  subscribeReply : ChannelsReply
  consumer : EpicsConsumer.Resources

theorem EpicsConsumer.create_ok {resources : Resources} {channelName : CxxString} {handler : Ptr}
    {consumer : EpicsConsumer} (h : create resources channelName handler = .ok consumer) :
    consumer.channelName = channelName ∧ consumer.handler = handler := by
  unfold create at h
  split at h
  · rw [← Except.ok.inj h]
    exact ⟨rfl, rfl⟩
  · exact absurd h (by simp)
  · exact absurd h (by simp)

namespace JmsEpicsManager

/-- The manager without a consumer. -/
def idle (epicsConfiguration : JmsEpicsConfiguration) : JmsEpicsManager :=
  { epicsConfiguration
    epicsConsumersMap := ∅
    keyed := fun name consumer h => absurd h (by simp) }

/-- The constructor: a timeout of the request is no error. -/
def create (env : GeminiEnv) : Except Exn JmsEpicsManager :=
  match (do
    env.connectionManager
    env.createSession
    JmsEpicsConfiguration.create.init env.constructReply : Except Exn JmsEpicsConfiguration) with
  | .ok epicsConfiguration => .ok (idle epicsConfiguration)
  | .error (.timeoutException _) => .ok (idle .create)
  | .error (.cmsException message) => .error (.communicationException
      (str "Trouble initializing request producer :" ++ message))
  | .error e => .error e

/-- `_epicsConsumersMap[name] = consumer`. -/
def store (name : CxxString) (consumer : EpicsConsumer) (h : consumer.channelName = name)
    (manager : JmsEpicsManager) : JmsEpicsManager :=
  { manager with
    epicsConsumersMap := manager.epicsConsumersMap.insert name consumer
    keyed := by
      intro name' consumer' hlookup
      rw [UnorderedMap.lookup_insert_if] at hlookup
      split at hlookup
      · next heq => rw [← Option.some.inj hlookup, h, heq]
      · exact manager.keyed name' consumer' hlookup }

/-- `_epicsConsumersMap.erase(name)`. -/
def erase (name : CxxString) (manager : JmsEpicsManager) : JmsEpicsManager :=
  { manager with
    epicsConsumersMap := manager.epicsConsumersMap.erase name
    keyed := by
      intro name' consumer' hlookup
      rw [UnorderedMap.lookup_erase_if] at hlookup
      split at hlookup
      · exact absurd hlookup (by simp)
      · exact manager.keyed name' consumer' hlookup }

theorem lookup_store (name : CxxString) (consumer : EpicsConsumer) (h : consumer.channelName = name)
    (manager : JmsEpicsManager) (channel : CxxString) :
    (manager.store name consumer h).epicsConsumersMap.lookup channel
      = if channel = name then some consumer else manager.epicsConsumersMap.lookup channel :=
  UnorderedMap.lookup_insert_if ..

theorem lookup_erase (name : CxxString) (manager : JmsEpicsManager) (channel : CxxString) :
    (manager.erase name).epicsConsumersMap.lookup channel
      = if channel = name then none else manager.epicsConsumersMap.lookup channel :=
  UnorderedMap.lookup_erase_if ..

/-- A new manager has no consumers. -/
theorem create_consumers {env : GeminiEnv} {manager : JmsEpicsManager}
    (h : create env = .ok manager) : manager.epicsConsumersMap = ∅ := by
  unfold create at h
  split at h
  · rw [← Except.ok.inj h]
    rfl
  · rw [← Except.ok.inj h]
    rfl
  · exact absurd h (by simp)
  · exact absurd h (by simp)

/-- The first lines of `subscribeEpicsStatus`. -/
def ensureInitialized (reply : ChannelsReply) (manager : JmsEpicsManager) :
    Except Exn JmsEpicsManager :=
  if manager.epicsConfiguration.isInitialized then
    .ok manager
  else do
    let epicsConfiguration ← manager.epicsConfiguration.init reply
    return { manager with epicsConfiguration }

theorem ensureInitialized_consumers {reply : ChannelsReply} {manager manager' : JmsEpicsManager}
    (h : manager.ensureInitialized reply = .ok manager') :
    manager'.epicsConsumersMap = manager.epicsConsumersMap := by
  unfold ensureInitialized at h
  split at h
  · rw [← Except.ok.inj h]
  · obtain ⟨epicsConfiguration, -, h⟩ := except_bind_ok h
    rw [← Except.ok.inj h]

def subscribeEpicsStatus (env : GeminiEnv) (name : CxxString) (handler : Ptr)
    (manager : JmsEpicsManager) : Except Exn Status × JmsEpicsManager :=
  match manager.ensureInitialized env.subscribeReply with
  | .error e => (.error e, manager)
  | .ok manager =>
    if manager.epicsConfiguration.hasChannel name then
      match h : EpicsConsumer.create env.consumer name handler with
      | .error e => (.error e, manager)
      | .ok consumer =>
        (.ok .ok, manager.store name consumer (EpicsConsumer.create_ok h).1)
    else
      (.ok .error, manager)

def unsubscribeEpicsStatus (name : CxxString) (manager : JmsEpicsManager) :
    Except Exn Status × JmsEpicsManager :=
  if manager.epicsConfiguration.hasChannel name then
    (.ok .ok, manager.erase name)
  else
    (.ok .error, manager)

/-- The consumers on a topic. Those the map does not hold have been destroyed. -/
def recipients (topic : CxxString) (manager : JmsEpicsManager) : List EpicsConsumer :=
  manager.epicsConsumersMap.values.filter (fun consumer => consumer.destination = topic)

/-! ## What a subscription does -/

/-- A request adds channels. -/
theorem ensureInitialized_hasChannel {reply : ChannelsReply} {manager manager' : JmsEpicsManager}
    (h : manager.ensureInitialized reply = .ok manager') {channel : CxxString}
    (hchannel : manager.epicsConfiguration.hasChannel channel = true) :
    manager'.epicsConfiguration.hasChannel channel = true := by
  unfold ensureInitialized at h
  split at h
  · rwa [← Except.ok.inj h]
  · obtain ⟨epicsConfiguration, hinit, h⟩ := except_bind_ok h
    rw [← Except.ok.inj h]
    unfold JmsEpicsConfiguration.init JmsEpicsConfiguration.requestChannels at hinit
    split at hinit
    · rw [← Except.ok.inj hinit]
      unfold JmsEpicsConfiguration.hasChannel at hchannel ⊢
      rw [decide_eq_true_iff] at hchannel ⊢
      exact Finset.mem_union_left _ hchannel
    · exact absurd hinit (by simp)
    · exact absurd hinit (by simp)

/-- What a subscription may leave: the manager with more channels, and maybe one more consumer. -/
inductive Subscribed (name : CxxString) (handler : Ptr) (manager : JmsEpicsManager) :
    Except Exn Status × JmsEpicsManager → Prop
  | refused {result : Except Exn Status} {ready : JmsEpicsManager} (hresult : result ≠ .ok .ok)
      (hconsumers : ready.epicsConsumersMap = manager.epicsConsumersMap)
      (hchannels : ∀ channel, manager.epicsConfiguration.hasChannel channel = true →
        ready.epicsConfiguration.hasChannel channel = true) :
      Subscribed name handler manager (result, ready)
  | stored {ready : JmsEpicsManager} (consumer : EpicsConsumer) (hname : consumer.channelName = name)
      (hhandler : consumer.handler = handler)
      (hvalid : ready.epicsConfiguration.hasChannel name = true)
      (hconsumers : ready.epicsConsumersMap = manager.epicsConsumersMap)
      (hchannels : ∀ channel, manager.epicsConfiguration.hasChannel channel = true →
        ready.epicsConfiguration.hasChannel channel = true) :
      Subscribed name handler manager (.ok .ok, ready.store name consumer hname)

theorem subscribe_subscribed (env : GeminiEnv) (name : CxxString) (handler : Ptr)
    (manager : JmsEpicsManager) :
    Subscribed name handler manager (manager.subscribeEpicsStatus env name handler) := by
  unfold subscribeEpicsStatus
  split
  · exact .refused (by simp) rfl (fun _ h => h)
  · next ready hready =>
      have hconsumers := ensureInitialized_consumers hready
      have hchannels := fun channel => @ensureInitialized_hasChannel _ _ _ hready channel
      split
      · next hvalid =>
          split
          · exact .refused (by simp) hconsumers hchannels
          · next consumer hconsumer =>
              have hcreated := EpicsConsumer.create_ok hconsumer
              exact .stored consumer hcreated.1 hcreated.2 hvalid hconsumers hchannels
      · exact .refused (by simp) hconsumers hchannels

end JmsEpicsManager

/-! ## The calls -/

/-- The members of the singleton that concern EPICS channels, once it exists. -/
structure GeminiUtil where
  epicsMgr : Option JmsEpicsManager

/-- A call of the EPICS part of `GeminiUtil`. -/
inductive EpicsOp
  | subscribeEpicsStatus (env : GeminiEnv) (name : CxxString) (handler : Ptr)
  | unsubscribeEpicsStatus (env : GeminiEnv) (name : CxxString)

namespace GeminiUtil

/-- `GeminiUtilImpl::Instance()`. -/
def getInstance (env : GeminiEnv) (s : GeminiUtil) : Except Exn JmsEpicsManager :=
  match s.epicsMgr with
  | some epicsMgr => .ok epicsMgr
  | none => do
    let epicsMgr ← JmsEpicsManager.create env
    env.otherMembers
    return epicsMgr

def subscribeEpicsStatus (env : GeminiEnv) (name : CxxString) (handler : Ptr) (s : GeminiUtil) :
    Except Exn Status × GeminiUtil :=
  match s.getInstance env with
  | .error e => (.error e, s)
  | .ok epicsMgr =>
    let (result, epicsMgr) := epicsMgr.subscribeEpicsStatus env name handler
    (result, { epicsMgr := some epicsMgr })

def unsubscribeEpicsStatus (env : GeminiEnv) (name : CxxString) (s : GeminiUtil) :
    Except Exn Status × GeminiUtil :=
  match s.getInstance env with
  | .error e => (.error e, s)
  | .ok epicsMgr =>
    let (result, epicsMgr) := epicsMgr.unsubscribeEpicsStatus name
    (result, { epicsMgr := some epicsMgr })

/-- What a call returns and the state it leaves behind. -/
def call : EpicsOp → GeminiUtil → Except Exn Status × GeminiUtil
  | .subscribeEpicsStatus env name handler => subscribeEpicsStatus env name handler
  | .unsubscribeEpicsStatus env name => unsubscribeEpicsStatus env name

def step (s : GeminiUtil) (op : EpicsOp) : GeminiUtil := (call op s).2

/-- Before the first call. -/
def initial : GeminiUtil := { epicsMgr := none }

/-- The state after a sequence of calls. -/
abbrev after (ops : List EpicsOp) : GeminiUtil := Run.after step initial ops

/-! ## The broker -/

/-- `onMessage` of one consumer after the other. An exception leaves a function that is declared to
    throw none, which ends the process. -/
def dispatch (message : BytesMessage) : List EpicsConsumer → List ChannelChanged × Except Exn Unit
  | [] => ([], .ok ())
  | consumer :: consumers =>
    match consumer.onMessage message with
    | .error e => ([], .error e)
    | .ok changed =>
      let (rest, result) := dispatch message consumers
      (changed :: rest, result)

/-- The broker delivers an update of a channel. -/
def deliver (channel : CxxString) (message : BytesMessage) (s : GeminiUtil) :
    List ChannelChanged × Except Exn Unit :=
  match s.epicsMgr with
  | none => ([], .ok ())
  | some epicsMgr =>
    dispatch message (epicsMgr.recipients (JmsUtil.getEpicsChannelTopic channel))

/-- The channels the GMP has declared valid. -/
def hasChannel (channel : CxxString) (s : GeminiUtil) : Bool :=
  match s.epicsMgr with
  | none => false
  | some epicsMgr => epicsMgr.epicsConfiguration.hasChannel channel

end GeminiUtil

end Giapi
