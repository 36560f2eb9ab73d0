import GiapiGlue.Cms.Selector
import GiapiGlue.Gmp.JmsUtil

set_option autoImplicit false

/-! # Sequence command consumers

`SequenceCommandConsumer`: how a consumer is set up, with the selector for the activities it is to
receive, and what it does with a message. -/

namespace Giapi

/-! ## Configurations -/

/-- `ConfigurationImpl`. -/
structure Configuration where
  configMap : UnorderedMap CxxString CxxString
deriving DecidableEq

namespace Configuration

/-- `ConfigurationFactory::getConfiguration`. -/
def empty : Configuration := { configMap := ∅ }

def setValue (config : Configuration) (key value : CxxString) : Configuration :=
  { configMap := config.configMap.insert key value }

def getKeys (config : Configuration) : List CxxString := config.configMap.keys

/-- `getSize`: the size is returned as an `int`. -/
def getSize (config : Configuration) : CInt := BitVec.ofNat 32 config.configMap.keys.length

/-- `getValue`: a key that is not there is inserted with the empty string. -/
def getValue (key : CxxString) (config : Configuration) : CxxString × Configuration :=
  let (value, configMap) := config.configMap.subscript [] key
  (value, { configMap })

end Configuration

/-! ## Messages -/

/-- A `MapMessage` as a consumer sees it. Each read may throw a `CMSException`. -/
structure MapMessage where
  mapNames : List CxxString
  getString : CxxString → Except Exn CxxString
  getIntProperty : CxxString → Except Exn CInt
  getStringProperty : CxxString → Except Exn CxxString
  /-- `getCMSReplyTo`. -/
  replyTo : Option CxxString

/-- A call of a handler. -/
structure Invocation where
  handler : Ptr
  actionId : CInt
  sequenceCommand : SequenceCommand
  activity : Activity
  config : Configuration
deriving DecidableEq

/-- What is done to the outside world: a handler is called, a reply or completion information is
    sent. -/
inductive CommandEvent
  | handled (invocation : Invocation)
  | replied (destination : CxxString) (entries : List (CxxString × CxxString))
  | completed (actionId : CInt) (entries : List (CxxString × CxxString))
deriving DecidableEq

/-- The session of a consumer, as far as a reply uses it. -/
structure ReplyResources where
  createProducer : CxxString → Except Exn Unit
  createMapMessage : Except Exn Unit
  send : List (CxxString × CxxString) → Except Exn Unit

/-! ## The consumer -/

structure SequenceCommandConsumer where
  sequenceCommand : SequenceCommand
  topic : CxxString
  selector : CxxString
  handler : Ptr
deriving DecidableEq

namespace SequenceCommandConsumer

open GMPKeys

/-- `"','"`, which ends a literal and begins the next. -/
def nextLiteral : CxxString := str "','"

def endLiteral : CxxString := str "'"

/-- `buildSelector`. `SET_START` is among the sets without a case. -/
def buildSelector (activities : ActivitySet) : CxxString :=
  gmpActivityProp ++ str " IN ('" ++
    (match activities with
    | .setPreset => gmpActivityPreset ++ endLiteral
    | .setPresetStart =>
      gmpActivityPreset ++ nextLiteral ++ gmpActivityStart ++ nextLiteral
        ++ gmpActivityPresetStart ++ endLiteral
    | .setCancel => gmpActivityCancel ++ endLiteral
    | .setPresetCancel => gmpActivityPreset ++ nextLiteral ++ gmpActivityCancel ++ endLiteral
    | .setStartCancel => gmpActivityStart ++ nextLiteral ++ gmpActivityCancel ++ endLiteral
    | .setPresetStartCancel =>
      gmpActivityPreset ++ nextLiteral ++ gmpActivityStart ++ nextLiteral
        ++ gmpActivityPresetStart ++ nextLiteral ++ gmpActivityCancel ++ endLiteral
    | .setStart => []) ++ str ")"

/-- What `init` meets outside the library. -/
structure InitResources where
  /-- `ConnectionManager::Instance()`. -/
  connectionManager : Except Exn Unit
  createSession : Except Exn Unit
  createTopic : CxxString → Except Exn Unit
  /-- Destination and selector. -/
  createConsumer : CxxString → CxxString → Except Exn Unit
  setMessageListener : Except Exn Unit

/-- The `try` block of `init`. -/
def connect (resources : InitResources) (topic : CxxString) (activities : ActivitySet) :
    Except Exn CxxString := do
  resources.connectionManager
  resources.createSession
  resources.createTopic topic
  let selector := buildSelector activities
  resources.createConsumer topic selector
  resources.setMessageListener
  return selector

/-- `create`: the object, or a `CommunicationException` in place of a `CMSException`. -/
def create (resources : InitResources) (sequenceCommand : SequenceCommand) (topic : CxxString)
    (activities : ActivitySet) (handler : Ptr) : Except Exn SequenceCommandConsumer :=
  match connect resources topic activities with
  | .ok selector => .ok { sequenceCommand, topic, selector, handler }
  | .error (.cmsException message) => .error (.communicationException
      (str "Trouble initializing sequence command producer: " ++ message))
  | .error e => .error e

/-- The configuration of a message: `setValue` for each of its names, in order. -/
def configuration (message : MapMessage) : List CxxString → Configuration →
    Except Exn Configuration
  | [], config => .ok config
  | name :: names, config => do
    let value ← message.getString name
    configuration message names (config.setValue name value)

/-- The reply, once the handler has answered. Its `CMSException`s are only printed, so what was sent
    is all that is left of it. -/
def reply (resources : ReplyResources) (message : MapMessage) (response : HandlerResponse) :
    List CommandEvent :=
  match message.replyTo with
  | none => []
  | some destination =>
    let entries := JmsUtil.makeHandlerResponseMsg response
    match (do
      resources.createProducer destination
      resources.createMapMessage
      resources.send entries : Except Exn Unit) with
    | .ok () => [.replied destination entries]
    | .error _ => []

/-- `onMessage`: a message that cannot be read is dropped. The properties are read, and the activity
    looked up, before the entries. -/
def onMessage (handle : Invocation → HandlerResponse) (resources : ReplyResources)
    (consumer : SequenceCommandConsumer) (message : MapMessage) (jmsUtil : JmsUtil) :
    List CommandEvent × JmsUtil :=
  match message.getIntProperty gmpActionidProp, message.getStringProperty gmpActivityProp with
  | .ok actionId, .ok id =>
    let (activity, jmsUtil) := jmsUtil.getActivity id
    match configuration message message.mapNames .empty with
    | .ok config =>
      let invocation : Invocation :=
        { handler := consumer.handler
          actionId
          sequenceCommand := consumer.sequenceCommand
          activity
          config }
      (.handled invocation :: reply resources message (handle invocation), jmsUtil)
    | .error _ => ([], jmsUtil)
  | _, _ => ([], jmsUtil)

/-! ## The two halves of `onMessage` -/

/-- `onMessage` up to the call of the handler: the call it makes. -/
def invocation (consumer : SequenceCommandConsumer) (message : MapMessage) (jmsUtil : JmsUtil) :
    Option Invocation × JmsUtil :=
  match message.getIntProperty gmpActionidProp, message.getStringProperty gmpActivityProp with
  | .ok actionId, .ok id =>
    let (activity, jmsUtil) := jmsUtil.getActivity id
    match configuration message message.mapNames .empty with
    | .ok config =>
      (some
        { handler := consumer.handler
          actionId
          sequenceCommand := consumer.sequenceCommand
          activity
          config }, jmsUtil)
    | .error _ => (none, jmsUtil)
  | _, _ => (none, jmsUtil)

/-- `onMessage` calls the handler, and what is left is to reply. -/
theorem onMessage_eq (handle : Invocation → HandlerResponse) (resources : ReplyResources)
    (consumer : SequenceCommandConsumer) (message : MapMessage) (jmsUtil : JmsUtil) :
    onMessage handle resources consumer message jmsUtil
      = ((match (consumer.invocation message jmsUtil).1 with
          | some call => .handled call :: reply resources message (handle call)
          | none => []), (consumer.invocation message jmsUtil).2) := by
  unfold onMessage invocation
  split
  · dsimp only
    split
    · rfl
    · rfl
  · rfl

/-- The message has a reply-to, and the JMS calls that reply to it succeed. -/
def Answers (resources : ReplyResources) (message : MapMessage) (response : HandlerResponse)
    (destination : CxxString) : Prop :=
  message.replyTo = some destination ∧ resources.createProducer destination = .ok () ∧
    resources.createMapMessage = .ok () ∧
    resources.send (JmsUtil.makeHandlerResponseMsg response) = .ok ()

/-- A reply is sent once, or not at all. -/
theorem reply_cases (resources : ReplyResources) (message : MapMessage) (response : HandlerResponse) :
    (∃ destination, Answers resources message response destination ∧
      reply resources message response
        = [.replied destination (JmsUtil.makeHandlerResponseMsg response)]) ∨
    ((∀ destination, ¬ Answers resources message response destination) ∧
      reply resources message response = []) := by
  unfold reply
  cases hreplyTo : message.replyTo with
  | none => exact Or.inr ⟨fun _ h => by simp [Answers, hreplyTo] at h, rfl⟩
  | some destination =>
      dsimp only
      split
      · next hsent =>
          obtain ⟨_, hproducer, hsent⟩ := except_bind_ok hsent
          obtain ⟨_, hmessage, hsent⟩ := except_bind_ok hsent
          exact Or.inl ⟨destination, ⟨hreplyTo, hproducer, hmessage, hsent⟩, rfl⟩
      · next e hfails =>
          refine Or.inr ⟨fun other h => ?_, rfl⟩
          obtain ⟨hother, hproducer, hmessage, hsent⟩ := h
          obtain rfl : destination = other := Option.some.inj (hreplyTo.symm.trans hother)
          rw [hproducer, hmessage] at hfails
          exact absurd (hfails.symm.trans hsent) (by simp)

/-! ## Which activities a consumer receives -/

/-- The broker delivers a message for the activity. -/
def receives (consumer : SequenceCommandConsumer) (activity : Activity) : Bool :=
  Selector.selects consumer.selector gmpActivityProp (JmsUtil.activityName activity)

/-- The activities a set asks for: with both `PRESET` and `START` comes `PRESET_START`. -/
def requested : ActivitySet → List Activity
  | .setPreset => [.preset]
  | .setStart => [.start]
  | .setPresetStart => [.preset, .start, .presetStart]
  | .setCancel => [.cancel]
  | .setPresetCancel => [.preset, .cancel]
  | .setStartCancel => [.start, .cancel]
  | .setPresetStartCancel => [.preset, .start, .presetStart, .cancel]

/-- The activities the selector of a set lists. -/
def listed (activities : ActivitySet) : List Activity :=
  if activities = .setStart then [] else requested activities

/-- The selectors, as the broker reads them. -/
theorem parse_buildSelector (activities : ActivitySet) :
    Selector.parse (buildSelector activities) = if activities = .setStart then none else
      some (gmpActivityProp, (requested activities).map JmsUtil.activityName) := by
  cases activities <;> rfl

theorem activityName_injective : Function.Injective JmsUtil.activityName := by
  intro a b h
  cases a <;> cases b <;> first | rfl | exact absurd h (by decide)

theorem selects_buildSelector (activities : ActivitySet) (activity : Activity) :
    Selector.selects (buildSelector activities) gmpActivityProp (JmsUtil.activityName activity)
      = decide (activity ∈ listed activities) := by
  rw [Selector.selects, parse_buildSelector]
  by_cases hstart : activities = .setStart
  · simp [listed, hstart]
  · rw [listed, if_neg hstart, if_neg hstart]
    have hmem := List.mem_map_of_injective activityName_injective (a := activity)
      (l := requested activities)
    simp only [decide_true, Bool.true_and, List.contains_eq_mem, hmem]

theorem accepted_buildSelector (activities : ActivitySet) :
    Selector.accepted (buildSelector activities) = decide (activities ≠ .setStart) := by
  rw [Selector.accepted, parse_buildSelector]
  by_cases hstart : activities = .setStart <;> simp [hstart]

end SequenceCommandConsumer

end Giapi
