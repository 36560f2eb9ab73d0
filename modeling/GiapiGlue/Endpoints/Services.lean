import GiapiGlue.Commands.ConsumerLifetimes
import GiapiGlue.Endpoints.Endpoint

set_option autoImplicit false

/-! # The singletons and their endpoints

Each service of the library is a singleton that is created at its first use, with the endpoints that are its
members; subscriptions add consumers to two of them. A connection that is lost takes all sessions with it, and
leaves the singletons as they are. When the process ends, the singletons are destroyed. -/

namespace Giapi

/-- The singletons. The factory stands for the sender it keeps, `senders[JMS_SENDER]`. -/
inductive Service
  | commandUtil
  | statusSenderFactory
  | dataUtil
  | servicesUtil
  | geminiUtil
deriving DecidableEq, Repr

/-- The endpoints a singleton is created with, in the order of their construction. -/
def Service.members : Service → List EndpointKind
  | commandUtil => [.completionInfoProducer]
  | statusSenderFactory => [.statusSender]
  | dataUtil => [.obsEventProducer, .fileEventsProducer]
  | servicesUtil => [.requestProducer, .logProducer]
  | geminiUtil => [.epicsManager, .pcsUpdater, .tcsFetcher, .tcsApplyOffset, .epicsFetcher]

/-- The singletons of a process, with all endpoints constructed so far. Endpoints go by their numbers. -/
structure Library where
  estate : Estate EndpointKind EndpointResource
  /-- The members of a singleton once it exists, in the order of their construction. -/
  members : Service → Option (List Nat)
  /-- `_commandHolderMap` of `JmsCommandUtil`. -/
  commandHolderMap : UnorderedMap CxxString CountedHolder
  /-- `_epicsConsumersMap` of the EPICS manager. -/
  epicsConsumersMap : UnorderedMap CxxString Nat

namespace Library

def initial : Library :=
  { estate := .empty
    members := fun _ => none
    commandHolderMap := ∅
    epicsConsumersMap := ∅ }

/-- One more endpoint, as its constructor left it. -/
def build (kind : EndpointKind) (lines : Ledger EndpointResource) (library : Library) : Library :=
  { library with estate := library.estate.build kind lines }

/-- The endpoints with these numbers are destroyed. -/
def demolish (ns : List Nat) (library : Library) : Library :=
  { library with estate := library.estate.extendAll EndpointKind.destroy ns }

/-- The singleton is there, with these members. -/
def create (service : Service) (ns : List Nat) (estate : Estate EndpointKind EndpointResource)
    (library : Library) : Library :=
  { library with estate, members := Function.update library.members service (some ns) }

/-- `Instance()`, or `getStatusSender()` of the factory. When the constructor of a member throws, the members
    before it are destroyed, and the singleton is tried again at its next use. -/
def getInstance (service : Service) (env : EndpointKind → EndpointEnv) (library : Library) :
    Except Exn Unit × Library :=
  match library.members service with
  | some _ => (.ok (), library)
  | none =>
    match library.estate.buildAll (fun kind => kind.construct (env kind)) EndpointKind.destroy
        service.members with
    | (.error e, estate) => (.error e, { library with estate })
    | (.ok ns, estate) => (.ok (), library.create service ns estate)

/-! ## Subscriptions -/

/-- `registerConsumer` in the holder of the topic. The consumers that lose their last activity are
    destroyed. -/
def register (topic : CxxString) (activities : ActivitySet) (consumer : Nat) (library : Library) :
    Library :=
  let holder := (library.commandHolderMap.lookup topic).getD SharedMap.empty
  let registered := holder.register (activities, consumer)
  demolish (SharedMap.gone holder registered)
    { library with commandHolderMap := library.commandHolderMap.insert topic registered }

/-- `subscribeSequenceCommand` and `subscribeApply`, for the topic of the command or prefix. -/
def subscribeCommand (env : EndpointKind → EndpointEnv) (topic : CxxString) (activities : ActivitySet)
    (library : Library) : Except Exn Status × Library :=
  match library.getInstance .commandUtil env with
  | (.error e, library) => (.error e, library)
  | (.ok (), library) =>
    let kind := EndpointKind.sequenceCommandConsumer topic
    match kind.construct (env kind) with
    | (.error e, lines) => (.error e, library.build kind lines)
    | (.ok (), lines) =>
      (.ok .ok, (library.build kind lines).register topic activities library.estate.objects.length)

/-- `_epicsConsumersMap` changes at a name. The consumer it had there is destroyed with its last pointer. -/
def replaceConsumer (name : CxxString) (epicsConsumersMap : UnorderedMap CxxString Nat) (library : Library) :
    Library :=
  demolish (library.epicsConsumersMap.lookup name).toList { library with epicsConsumersMap }

/-- `_epicsConsumersMap[name] = consumer`. -/
def store (name : CxxString) (consumer : Nat) (library : Library) : Library :=
  library.replaceConsumer name (library.epicsConsumersMap.insert name consumer)

/-- `subscribeEpicsStatus`. `authorised` is what the EPICS configuration says of the channel, once it has been
    initialized. -/
def subscribeEpicsStatus (env : EndpointKind → EndpointEnv) (authorised : Except Exn Bool)
    (name : CxxString) (library : Library) : Except Exn Status × Library :=
  match library.getInstance .geminiUtil env with
  | (.error e, library) => (.error e, library)
  | (.ok (), library) =>
    match authorised with
    | .error e => (.error e, library)
    | .ok false => (.ok .error, library)
    | .ok true =>
      let kind := EndpointKind.epicsConsumer name
      match kind.construct (env kind) with
      | (.error e, lines) => (.error e, library.build kind lines)
      | (.ok (), lines) => (.ok .ok, (library.build kind lines).store name library.estate.objects.length)

/-- `_epicsConsumersMap.erase(name)`. -/
def erase (name : CxxString) (library : Library) : Library :=
  library.replaceConsumer name (library.epicsConsumersMap.erase name)

def unsubscribeEpicsStatus (env : EndpointKind → EndpointEnv) (authorised : Bool) (name : CxxString)
    (library : Library) : Except Exn Status × Library :=
  match library.getInstance .geminiUtil env with
  | (.error e, library) => (.error e, library)
  | (.ok (), library) => if authorised then (.ok .ok, library.erase name) else (.ok .error, library)

/-! ## The connection -/

/-- `onException` of the connection manager deletes the connection, and with it all sessions are closed that were
    made with it, the oldest one first. -/
def connectionLost (library : Library) : Library :=
  { library with
    estate := library.estate.extendAll (fun _ => EndpointResource.disposed)
      (List.range library.estate.objects.length) }

/-! ## The end of the process -/

/-- The consumers of all holders, which are cleared one after the other. -/
def commandConsumers (library : Library) : List Nat :=
  library.commandHolderMap.entries.flatMap fun entry => SharedMap.gone entry.2 entry.2.clear

/-- What the destructor of a singleton destroys, in order. That of `DataUtilImpl` calls `release()` on its two
    `auto_ptr`s, which destroys nothing; that of `GeminiUtilImpl` resets four members, and leaves the fourth of
    them in the order of declaration to the end. -/
def ending (library : Library) (ns : List Nat) : Service → List Nat
  | .commandUtil => library.commandConsumers ++ ns.reverse
  | .statusSenderFactory => ns.reverse
  | .dataUtil => []
  | .servicesUtil => ns.reverse
  | .geminiUtil => library.epicsConsumersMap.values ++ (ns.eraseIdx 3 ++ (ns[3]?).toList)

/-- A singleton is destroyed, if it exists. -/
def destroy (library : Library) (service : Service) : Library :=
  match library.members service with
  | none => library
  | some ns =>
    demolish (library.ending ns service)
      { library with
        members := Function.update library.members service none
        commandHolderMap := if service = .commandUtil then ∅ else library.commandHolderMap
        epicsConsumersMap := if service = .geminiUtil then ∅ else library.epicsConsumersMap }

/-- The process ends, and the singletons are destroyed in this order. -/
def exit (order : List Service) (library : Library) : Library := order.foldl destroy library

end Library

/-! ## Runs -/

/-- A use of the library, or the loss of its connection between two of them. The calls that are not listed use
    the endpoints of a singleton they get by `getInstance`. -/
inductive LibraryOp
  | getInstance (service : Service) (env : EndpointKind → EndpointEnv)
  | subscribeCommand (env : EndpointKind → EndpointEnv) (topic : CxxString) (activities : ActivitySet)
  | subscribeEpicsStatus (env : EndpointKind → EndpointEnv) (authorised : Except Exn Bool)
      (name : CxxString)
  | unsubscribeEpicsStatus (env : EndpointKind → EndpointEnv) (authorised : Bool) (name : CxxString)
  | connectionLost

namespace Library

def step (library : Library) : LibraryOp → Library
  | .getInstance service env => (library.getInstance service env).2
  | .subscribeCommand env topic activities => (library.subscribeCommand env topic activities).2
  | .subscribeEpicsStatus env authorised name => (library.subscribeEpicsStatus env authorised name).2
  | .unsubscribeEpicsStatus env authorised name => (library.unsubscribeEpicsStatus env authorised name).2
  | .connectionLost => library.connectionLost

/-- The state after a run. -/
abbrev after (ops : List LibraryOp) : Library := Run.after step initial ops

/-- What the endpoint with number `n` has acquired and released. -/
def lines (library : Library) (n : Nat) : Ledger EndpointResource := library.estate.lines n

/-- The kind of the endpoint with number `n`. -/
def kind (library : Library) (n : Nat) : Option EndpointKind := library.estate.objects[n]?

/-- The endpoints that have lost their connection: they were there when it was lost. -/
def lost (ops : List LibraryOp) : Set Nat :=
  {n | ∃ pre, pre ++ [.connectionLost] <+: ops ∧ (after pre).kind n ≠ none}

end Library

end Giapi
