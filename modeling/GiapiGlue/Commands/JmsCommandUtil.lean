import GiapiGlue.Commands.SequenceCommandConsumer
import GiapiGlue.Lib.ObjectHeap
import GiapiGlue.Lib.Run

set_option autoImplicit false

/-! # Command subscriptions

`CommandUtil` over `JmsCommandUtil`: the holders that keep consumers alive, the two calls that
subscribe a handler, the delivery of a message by the broker, and completion information. -/

namespace Giapi

/-! ## Activity holders -/

/-- The consumer each activity refers to. -/
structure ActivityHolder where
  activityConsumerMap : UnorderedMap Activity Ptr

namespace ActivityHolder

def empty : ActivityHolder := { activityConsumerMap := ∅ }

/-- `registerConsumer(activity, consumer)`. -/
def registerActivity (activity : Activity) (consumer : Ptr) (holder : ActivityHolder) :
    ActivityHolder :=
  { activityConsumerMap := holder.activityConsumerMap.insert activity consumer }

/-- `registerConsumer(set, consumer)`. -/
def registerConsumer (set : ActivitySet) (consumer : Ptr) (holder : ActivityHolder) :
    ActivityHolder :=
  match set with
  | .setPreset => holder.registerActivity .preset consumer
  | .setStart => holder.registerActivity .start consumer
  | .setPresetStart => holder.registerActivity .presetStart consumer
  | .setCancel => holder.registerActivity .cancel consumer
  | .setPresetCancel =>
    (holder.registerActivity .preset consumer).registerActivity .cancel consumer
  | .setStartCancel =>
    (holder.registerActivity .start consumer).registerActivity .cancel consumer
  | .setPresetStartCancel =>
    ((holder.registerActivity .preset consumer).registerActivity .cancel consumer).registerActivity
      .start consumer

/-- The activities a set is stored under. -/
def storedUnder : ActivitySet → List Activity
  | .setPreset => [.preset]
  | .setStart => [.start]
  | .setPresetStart => [.presetStart]
  | .setCancel => [.cancel]
  | .setPresetCancel => [.preset, .cancel]
  | .setStartCancel => [.start, .cancel]
  | .setPresetStartCancel => [.preset, .cancel, .start]

theorem registerActivity_lookup (a : Activity) (consumer : Ptr) (holder : ActivityHolder)
    (b : Activity) : (holder.registerActivity a consumer).activityConsumerMap.lookup b
      = if b = a then some consumer else holder.activityConsumerMap.lookup b :=
  UnorderedMap.lookup_insert_if holder.activityConsumerMap a consumer b

/-- Registering a consumer redirects the activities its set is stored under, and no others. -/
theorem registerConsumer_lookup (set : ActivitySet) (consumer : Ptr) (holder : ActivityHolder)
    (activity : Activity) :
    (holder.registerConsumer set consumer).activityConsumerMap.lookup activity
      = if activity ∈ storedUnder set then some consumer
        else holder.activityConsumerMap.lookup activity := by
  cases set <;> simp only [registerConsumer, registerActivity_lookup, storedUnder, List.mem_cons,
    List.not_mem_nil, or_false] <;> split_ifs <;> simp_all

theorem storedUnder_ne_nil (set : ActivitySet) : storedUnder set ≠ [] := by
  cases set <;> simp [storedUnder]

end ActivityHolder

/-! ## The singleton and the consumers -/

/-- `JmsCommandUtil`: a null pointer stands for a topic that was looked up only. -/
structure JmsCommandUtil where
  commandHolderMap : UnorderedMap CxxString (Option ActivityHolder)

/-- The singleton once it exists, the consumers created so far, the dictionaries, and what has been
    done to the outside world, in order. -/
structure CommandService where
  commandUtil : Option JmsCommandUtil
  consumers : ObjectHeap SequenceCommandConsumer
  jmsUtil : JmsUtil
  events : List CommandEvent

/-- What a call meets outside the library. -/
structure SubscribeEnv where
  /-- `CompletionInfoProducer::create`, when the singleton is created. -/
  completionInfoProducer : Except Exn Unit
  init : SequenceCommandConsumer.InitResources

/-- The session of the completion information producer, as far as a post uses it. -/
structure CompletionResources where
  completionInfoProducer : Except Exn Unit
  createMapMessage : Except Exn Unit
  send : CInt → List (CxxString × CxxString) → Except Exn Unit

/-- A connection on which nothing fails, to a broker that refuses a selector it cannot read with the
    message `refusal` gives. -/
def workingBroker (refusal : CxxString → CxxString) : SubscribeEnv :=
  { completionInfoProducer := .ok ()
    init :=
      { connectionManager := .ok ()
        createSession := .ok ()
        createTopic := fun _ => .ok ()
        createConsumer := fun _ selector =>
          if Selector.accepted selector then .ok () else .error (.cmsException (refusal selector))
        setMessageListener := .ok () } }

namespace JmsCommandUtil

/-- `Instance()`. -/
def getInstance (completionInfoProducer : Except Exn Unit) (s : CommandService) :
    Except Exn JmsCommandUtil :=
  match s.commandUtil with
  | some commandUtil => .ok commandUtil
  | none => do
    completionInfoProducer
    return { commandHolderMap := ∅ }

/-- The holder of a topic, a new one if there is none yet, with one more consumer. -/
def register (topic : CxxString) (activities : ActivitySet) (consumer : Ptr)
    (commandUtil : JmsCommandUtil) : JmsCommandUtil :=
  let (holder, commandHolderMap) := commandUtil.commandHolderMap.subscript none topic
  let holder := holder.getD .empty
  { commandHolderMap :=
      commandHolderMap.insert topic (some (holder.registerConsumer activities consumer)) }

/-- The body `subscribeApply` and `subscribeSequenceCommand` share. `LogCommandUtil` never answers
    `ERROR`, so the consumer is always asked for. -/
def subscribe (env : SubscribeEnv) (id : SequenceCommand) (topic : CxxString)
    (activities : ActivitySet) (handler : Ptr) (s : CommandService) :
    Except Exn Status × CommandService :=
  match getInstance env.completionInfoProducer s with
  | .error e => (.error e, s)
  | .ok commandUtil =>
    match SequenceCommandConsumer.create env.init id topic activities handler with
    | .error e => (.error e, { s with commandUtil := some commandUtil })
    | .ok consumer =>
      (.ok .ok, { s with
        commandUtil := some (commandUtil.register topic activities s.consumers.length)
        consumers := s.consumers ++ [consumer] })

end JmsCommandUtil

/-- `CompletionInfoProducer::postCompletionInfo`: what it sends, or a `PostException` in place of a
    `CMSException`. -/
def CompletionInfoProducer.postCompletionInfo (resources : CompletionResources) (id : CInt)
    (response : HandlerResponse) : Except Exn CommandEvent :=
  let entries := JmsUtil.makeHandlerResponseMsg response
  match (do
    resources.createMapMessage
    resources.send id entries : Except Exn Unit) with
  | .ok () => .ok (.completed id entries)
  | .error (.cmsException message) =>
    .error (.postException (str "Problem posting completion info : " ++ message))
  | .error e => .error e

/-! ## The calls -/

namespace CommandUtil

def subscribeSequenceCommand (env : SubscribeEnv) (id : SequenceCommand) (activities : ActivitySet)
    (handler : Option Ptr) (s : CommandService) : Except Exn Status × CommandService :=
  match handler with
  | none => (.ok .error, s)
  | some handler => JmsCommandUtil.subscribe env id (JmsUtil.getTopic id) activities handler s

def subscribeApply (env : SubscribeEnv) (applyPrefix : CxxString) (activities : ActivitySet)
    (handler : Option Ptr) (s : CommandService) : Except Exn Status × CommandService :=
  match handler with
  | none => (.ok .error, s)
  | some handler =>
    JmsCommandUtil.subscribe env .apply (JmsUtil.getApplyTopic applyPrefix) activities handler s

/-- Only `COMPLETED`, and `ERROR` with a message, are valid completion information. -/
def validCompletion (response : HandlerResponse) : Bool :=
  match response.response with
  | .completed => true
  | .error => !response.message.isEmpty
  | _ => false

def postCompletionInfo (resources : CompletionResources) (id : CInt)
    (response : Option HandlerResponse) (s : CommandService) : Except Exn Status × CommandService :=
  match response with
  | none => (.ok .error, s)
  | some response =>
    if ¬ validCompletion response then
      (.ok .error, s)
    else
      match JmsCommandUtil.getInstance resources.completionInfoProducer s with
      | .error e => (.error e, s)
      | .ok commandUtil =>
        let s := { s with commandUtil := some commandUtil }
        match CompletionInfoProducer.postCompletionInfo resources id response with
        | .error e => (.error e, s)
        | .ok event => (.ok .ok, { s with events := s.events ++ [event] })

end CommandUtil

/-! ## The broker -/

namespace CommandService

/-- The holder of a topic. -/
def holder (s : CommandService) (topic : CxxString) : ActivityHolder :=
  match s.commandUtil with
  | some commandUtil => ((commandUtil.commandHolderMap.lookup topic).getD none).getD .empty
  | none => .empty

/-- The consumers the holders refer to. All others have been destroyed. -/
def referenced (s : CommandService) : List Ptr :=
  match s.commandUtil with
  | some commandUtil => commandUtil.commandHolderMap.values.flatMap (fun holder =>
      (holder.getD .empty).activityConsumerMap.values)
  | none => []

/-- A message on `topic` is delivered to the consumer at `p`. -/
def delivers (s : CommandService) (topic : CxxString) (message : MapMessage) (p : Ptr) : Bool :=
  match s.consumers[p]?, message.getStringProperty GMPKeys.gmpActivityProp with
  | some consumer, .ok value =>
    s.referenced.contains p && decide (consumer.topic = topic) &&
      Selector.selects consumer.selector GMPKeys.gmpActivityProp value
  | _, _ => false

/-- The consumers a message is delivered to, in the order of their creation. -/
def recipients (s : CommandService) (topic : CxxString) (message : MapMessage) : List Ptr :=
  (List.range s.consumers.length).filter (s.delivers topic message)

end CommandService

/-- What the handlers answer and what the replies meet outside the library. -/
structure DispatchEnv where
  handle : Invocation → HandlerResponse
  resources : Ptr → ReplyResources

namespace CommandUtil

/-- `onMessage` of one recipient after the other. -/
def dispatch (env : DispatchEnv) (message : MapMessage)
    (consumers : ObjectHeap SequenceCommandConsumer) :
    List Ptr → JmsUtil → List CommandEvent × JmsUtil
  | [], jmsUtil => ([], jmsUtil)
  | p :: ps, jmsUtil =>
    match consumers[p]? with
    | none => dispatch env message consumers ps jmsUtil
    | some consumer =>
      let (events, jmsUtil) :=
        SequenceCommandConsumer.onMessage env.handle (env.resources p) consumer message jmsUtil
      let (events', jmsUtil) := dispatch env message consumers ps jmsUtil
      (events ++ events', jmsUtil)

/-- The broker delivers a message. -/
def deliver (env : DispatchEnv) (topic : CxxString) (message : MapMessage) (s : CommandService) :
    CommandService :=
  let (events, jmsUtil) :=
    dispatch env message s.consumers (s.recipients topic message) s.jmsUtil
  { s with
    jmsUtil
    events := s.events ++ events }

end CommandUtil

/-- A call of the command API, or the arrival of a message. -/
inductive CommandOp
  | subscribeSequenceCommand (env : SubscribeEnv) (id : SequenceCommand) (activities : ActivitySet)
      (handler : Option Ptr)
  | subscribeApply (env : SubscribeEnv) (applyPrefix : CxxString) (activities : ActivitySet)
      (handler : Option Ptr)
  | postCompletionInfo (resources : CompletionResources) (id : CInt)
      (response : Option HandlerResponse)
  | deliver (env : DispatchEnv) (topic : CxxString) (message : MapMessage)

namespace CommandUtil

/-- The state a call leaves behind, whether it returns or throws. -/
def step (s : CommandService) : CommandOp → CommandService
  | .subscribeSequenceCommand env id activities handler =>
    (subscribeSequenceCommand env id activities handler s).2
  | .subscribeApply env applyPrefix activities handler =>
    (subscribeApply env applyPrefix activities handler s).2
  | .postCompletionInfo resources id response => (postCompletionInfo resources id response s).2
  | .deliver env topic message => deliver env topic message s

/-- Before the first call. -/
def initial : CommandService :=
  { commandUtil := none, consumers := [], jmsUtil := .initial, events := [] }

/-- The state after a sequence of calls and messages. -/
abbrev after (ops : List CommandOp) : CommandService := Run.after step initial ops

end CommandUtil

end Giapi
