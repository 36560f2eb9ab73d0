import GiapiGlue.Epics.JmsEpicsManager
import GiapiGlue.Lib.Estate
import GiapiGlue.Process.Process

set_option autoImplicit false

/-! # The endpoints of the library

The objects that keep a JMS session, with the producer or the consumer they use it for: how each is
constructed, what its constructor leaves when a call underneath throws, what its destructor does, and what is
left of it when the connection is lost. What an endpoint acquires and releases is kept in its ledger. -/

namespace Giapi

open Accounted

/-- What an endpoint acquires: objects, which its smart pointers delete, and a session and a producer or
    consumer that are open until they are closed. Closing counts also when it throws: the exception is
    printed, and what could not be closed is closed where it is deleted. -/
inductive EndpointResource
  | session
  | openSession
  | destination
  /-- The producer or the consumer. -/
  | worker
  | openWorker
deriving DecidableEq, Repr

instance : Fintype EndpointResource :=
  { elems := {.session, .openSession, .destination, .worker, .openWorker}
    complete := fun r => by cases r <;> simp }

/-- What has to be released before it: producers and consumers are closed before their sessions, and all
    that was made with a session goes before it. -/
def EndpointResource.contents : EndpointResource → List EndpointResource
  | session => [openSession, destination, worker, openWorker]
  | openSession => [openWorker]
  | worker => [openWorker]
  | _ => []

namespace EndpointResource

/-- Acquired, and not yet released. -/
def IsOpen (r : EndpointResource) (lines : Ledger EndpointResource) : Prop :=
  lines.count (.released r) < lines.count (.acquired r)

instance (r : EndpointResource) (lines : Ledger EndpointResource) : Decidable (r.IsOpen lines) :=
  inferInstanceAs (Decidable (_ < _))

/-- `close()` of a session, producer or consumer: what is closed already is left as it is. -/
def close (r : EndpointResource) (lines : Ledger EndpointResource) : Ledger EndpointResource :=
  if r.IsOpen lines then [.released r] else []

/-- The destructor of a connection closes it: all its sessions are disposed of, and each disposes of its
    producers and consumers first. -/
def disposed (lines : Ledger EndpointResource) : Ledger EndpointResource :=
  close .openWorker lines ++ close .openSession lines

/-- Where all is released, nothing is left to close. -/
theorem disposed_of_balanced {lines : Ledger EndpointResource} (h : lines.Balanced) : disposed lines = [] := by
  have hclosed : ∀ r : EndpointResource, ¬ r.IsOpen lines := fun r hopen => by
    have := (h r).2
    unfold IsOpen at hopen
    omega
  simp [disposed, close, hclosed]

end EndpointResource

/-- All that was acquired was released once, in the right order. -/
def Tidy (lines : Ledger EndpointResource) : Prop :=
  lines.Balanced ∧ ∀ parent child, child ∈ parent.contents → lines.Outlives parent child

instance (lines : Ledger EndpointResource) : Decidable (Tidy lines) :=
  inferInstanceAs (Decidable (_ ∧ ∀ _ _ : EndpointResource, _ → _))

/-- What the constructors meet outside the library. What a call throws is given by its message: a call of CMS
    throws nothing but a `CMSException`. -/
structure EndpointEnv where
  /-- `ConnectionManager::Instance()`, with the message of its `GmpException`. -/
  connectionManager : Except CxxString Unit
  createSession : Except CxxString Unit
  createDestination : Except CxxString Unit
  /-- `createProducer`, or `createConsumer`. -/
  createWorker : Except CxxString Unit
  /-- What is set on the producer or consumer. -/
  configure : Except CxxString Unit
  /-- The request for the valid channels, in the constructor of the EPICS manager. -/
  channels : ChannelsReply

/-- What a constructor does: a constructor that throws has released what it could. -/
abbrev Construction : Type := Accounted EndpointResource Exn Unit

/-- The smart pointers of a class. -/
structure EndpointShape where
  createsDestination : Bool
  /-- `_destination` is declared after `_producer` and not before. -/
  destinationLast : Bool

namespace EndpointShape

/-- The smart pointers, in the order of their declaration. -/
def declared (shape : EndpointShape) : List EndpointResource :=
  if shape.destinationLast then [.session, .worker, .destination] else [.session, .destination, .worker]

/-- `cleanup()`: the producer or consumer is closed, then the session, if they are set. -/
def cleanup (lines : Ledger EndpointResource) : Ledger EndpointResource :=
  (if .acquired .worker ∈ lines then EndpointResource.close .openWorker lines else [])
    ++ (if .acquired .session ∈ lines then EndpointResource.close .openSession lines else [])

/-- The members end, the last one first. What they point to is closed by then. -/
def endMembers (shape : EndpointShape) (lines : Ledger EndpointResource) : Ledger EndpointResource :=
  (shape.declared.reverse.filter fun r => .acquired r ∈ lines).map .released

/-- What a constructor that returns has acquired. -/
def born (shape : EndpointShape) : Ledger EndpointResource :=
  [.acquired .session, .acquired .openSession]
    ++ (if shape.createsDestination then [.acquired .destination] else [])
    ++ [.acquired .worker, .acquired .openWorker]

/-- The destructor: `cleanup()`, and the end of the members. -/
def destroy (shape : EndpointShape) (lines : Ledger EndpointResource) : Ledger EndpointResource :=
  cleanup lines ++ shape.endMembers lines

/-- What the `try` block of a constructor has acquired before a call of CMS throws. -/
def interrupted (shape : EndpointShape) : List (Ledger EndpointResource) :=
  [[], shape.born.take 2, shape.born.dropLast.dropLast, shape.born]

theorem tidy_destroyed (shape : EndpointShape) : Tidy (shape.born ++ shape.destroy shape.born) := by
  obtain ⟨creates, last⟩ := shape
  cases creates <;> cases last <;> decide

/-- What the connection has closed is not closed again. -/
theorem tidy_destroyed_disposed (shape : EndpointShape) :
    Tidy (shape.born ++ EndpointResource.disposed shape.born
      ++ shape.destroy (shape.born ++ EndpointResource.disposed shape.born)) := by
  obtain ⟨creates, last⟩ := shape
  cases creates <;> cases last <;> decide

theorem not_tidy_born (shape : EndpointShape) :
    ¬ Tidy shape.born ∧ ¬ Tidy (shape.born ++ EndpointResource.disposed shape.born) := by
  obtain ⟨creates, last⟩ := shape
  cases creates <;> cases last <;> decide

/-- Wherever the `try` block is left, `cleanup()` and the end of the members leave nothing. -/
theorem tidy_interrupted (shape : EndpointShape) {lines : Ledger EndpointResource}
    (h : lines ∈ shape.interrupted) : Tidy (lines ++ shape.destroy lines) := by
  revert lines
  obtain ⟨creates, last⟩ := shape
  cases creates <;> cases last <;> decide

end EndpointShape

/-- What the classes of endpoints differ in. -/
structure EndpointClass extends EndpointShape where
  /-- What the constructor says of a `CMSException`. -/
  trouble : CxxString

namespace EndpointClass

/-- A call of CMS. -/
def call (x : Except CxxString Unit) : Construction := lift (x.mapError .cmsException)

def openSession (env : EndpointEnv) : Construction := do
  lift (env.connectionManager.mapError .gmpException)
  call env.createSession
  acquire .session
  acquire .openSession

def createDestination (cls : EndpointClass) (env : EndpointEnv) : Construction :=
  if cls.createsDestination then do
    call env.createDestination
    acquire .destination
  else
    return ()

/-- The `try` block of the constructor. -/
def connect (cls : EndpointClass) (env : EndpointEnv) : Construction := do
  openSession env
  createDestination cls env
  call env.createWorker
  acquire .worker
  acquire .openWorker
  call env.configure

def construct (cls : EndpointClass) (env : EndpointEnv) : Construction :=
  match connect cls env with
  | (.ok (), lines) => (.ok (), lines)
  | (.error (.cmsException message), lines) =>
    -- `cleanup()`, and the end of the members: what a destructor does
    (.error (.communicationException (cls.trouble ++ message)), lines ++ cls.destroy lines)
  | (.error e, lines) => (.error e, lines ++ cls.endMembers lines)

/-- All that can become of the `try` block. -/
theorem connect_cases (cls : EndpointClass) (env : EndpointEnv) :
    cls.connect env = (.ok (), cls.born)
      ∨ (∃ message, cls.connect env = (.error (.gmpException message), []))
      ∨ ∃ message, ∃ lines ∈ cls.interrupted, cls.connect env = (.error (.cmsException message), lines) := by
  have throws : ∀ message lines, lines ∈ cls.interrupted →
      cls.connect env = (.error (.cmsException message), lines) →
      ∃ message, ∃ lines ∈ cls.interrupted, cls.connect env = (.error (.cmsException message), lines) :=
    fun message lines hlines hconnect => ⟨message, lines, hlines, hconnect⟩
  obtain ⟨⟨creates, last⟩, trouble⟩ := cls
  obtain ⟨manager, session, destination, worker, configure, channels⟩ := env
  cases manager with
  | error message => exact Or.inr (Or.inl ⟨message, rfl⟩)
  | ok _ =>
    cases session with
    | error message => exact Or.inr (Or.inr (throws message [] (.head _) rfl))
    | ok _ =>
      cases creates with
      | false =>
        cases worker with
        | error message => exact Or.inr (Or.inr (throws message _ (.tail _ (.head _)) rfl))
        | ok _ =>
          cases configure with
          | error message =>
              exact Or.inr (Or.inr (throws message _ (.tail _ (.tail _ (.tail _ (.head _)))) rfl))
          | ok _ => exact Or.inl rfl
      | true =>
        cases destination with
        | error message => exact Or.inr (Or.inr (throws message _ (.tail _ (.head _)) rfl))
        | ok _ =>
          cases worker with
          | error message =>
              exact Or.inr (Or.inr (throws message _ (.tail _ (.tail _ (.head _))) rfl))
          | ok _ =>
            cases configure with
            | error message =>
                exact Or.inr (Or.inr (throws message _ (.tail _ (.tail _ (.tail _ (.head _)))) rfl))
            | ok _ => exact Or.inl rfl

theorem construct_ok {cls : EndpointClass} {env : EndpointEnv} {lines : Ledger EndpointResource}
    (h : cls.construct env = (.ok (), lines)) : lines = cls.born := by
  unfold construct at h
  rcases connect_cases cls env with hok | ⟨message, herror⟩ | ⟨message, interrupted, -, hthrows⟩
  · rw [hok] at h
    exact (Prod.mk.inj h).2.symm
  · rw [herror] at h
    cases (Prod.mk.inj h).1
  · rw [hthrows] at h
    cases (Prod.mk.inj h).1

theorem construct_error {cls : EndpointClass} {env : EndpointEnv} {e : Exn}
    {lines : Ledger EndpointResource} (h : cls.construct env = (.error e, lines)) : Tidy lines := by
  unfold construct at h
  rcases connect_cases cls env with hok | ⟨message, herror⟩ | ⟨message, interrupted, hmem, hthrows⟩
  · rw [hok] at h
    cases (Prod.mk.inj h).1
  · rw [herror] at h
    rw [← (Prod.mk.inj h).2]
    simp only [EndpointShape.endMembers, List.not_mem_nil, decide_false, List.filter_false, List.map_nil,
      List.nil_append]
    decide
  · rw [hthrows] at h
    rw [← (Prod.mk.inj h).2]
    exact cls.tidy_interrupted hmem

end EndpointClass

/-! ## The classes -/

def JmsProducer.endpointClass : EndpointClass :=
  { createsDestination := true
    destinationLast := true
    trouble := str "Trouble initializing request producer :" }

def RequestProducer.endpointClass : EndpointClass :=
  { createsDestination := true
    destinationLast := false
    trouble := str "Trouble initializing request producer :" }

def CompletionInfoProducer.endpointClass : EndpointClass :=
  { createsDestination := true
    destinationLast := false
    trouble := str "Trouble initializing completion info producer :" }

/-- Its `_destination` is never set: a status has a topic of its own. -/
def JmsStatusSender.endpointClass : EndpointClass :=
  { createsDestination := false
    destinationLast := false
    trouble := str "Trouble initializing Status Sender :" }

def SequenceCommandConsumer.endpointClass : EndpointClass :=
  { createsDestination := true
    destinationLast := false
    trouble := str "Trouble initializing sequence command producer: " }

def EpicsConsumer.endpointClass : EndpointClass :=
  { createsDestination := true
    destinationLast := false
    trouble := str "Trouble initializing EPICS consumer: " }

/-! ## The EPICS manager -/

namespace JmsEpicsManager

/-- The `try` block of the constructor. -/
def connect (env : EndpointEnv) : Construction := do
  EndpointClass.openSession env
  lift ((JmsEpicsConfiguration.create.init env.channels).map fun _ => ())

/-- The members end: the session is deleted with its last pointer, and closes itself before if it is open. -/
def endMembers (lines : Ledger EndpointResource) : Ledger EndpointResource :=
  if .acquired .session ∈ lines then EndpointResource.close .openSession lines ++ [.released .session]
  else []

/-- The constructor: a timeout of the request is no error, and a `PostException` is not caught. -/
def construct (env : EndpointEnv) : Construction :=
  match connect env with
  | (.ok (), lines) => (.ok (), lines)
  | (.error (.timeoutException _), lines) => (.ok (), lines)
  | (.error (.cmsException message), lines) =>
    let lines := lines ++ EndpointShape.cleanup lines
    (.error (.communicationException (str "Trouble initializing request producer :" ++ message)),
      lines ++ endMembers lines)
  | (.error e, lines) => (.error e, lines ++ endMembers lines)

def born : Ledger EndpointResource := [.acquired .session, .acquired .openSession]

/-- The destructor, once its consumers have ended: `cleanup()` is not called. -/
def destroy (lines : Ledger EndpointResource) : Ledger EndpointResource := endMembers lines

theorem construct_ok {env : EndpointEnv} {lines : Ledger EndpointResource}
    (h : construct env = (.ok (), lines)) : lines = born := by
  obtain ⟨manager, session, destination, worker, configure, channels⟩ := env
  cases manager <;> cases session <;> cases channels <;> cases h <;> rfl

/-- A session it had is closed and deleted. -/
theorem construct_error {env : EndpointEnv} {e : Exn} {lines : Ledger EndpointResource}
    (h : construct env = (.error e, lines)) : Tidy lines := by
  have hnothing : Tidy [] := by decide
  have hsession : Tidy (born ++ endMembers born) := by decide
  obtain ⟨manager, session, destination, worker, configure, channels⟩ := env
  cases manager with
  | error message =>
      cases h
      exact hnothing
  | ok _ =>
    cases session with
    | error message =>
        cases h
        exact hnothing
    | ok _ =>
      cases channels with
      | cmsException message =>
          cases h
          exact hsession
      | _ => cases h

end JmsEpicsManager

/-! ## The constructors without their ledgers -/

namespace EndpointEnv

/-- The same for the constructor of a command consumer. -/
def initResources (env : EndpointEnv) : SequenceCommandConsumer.InitResources :=
  { connectionManager := env.connectionManager.mapError .gmpException
    createSession := env.createSession.mapError .cmsException
    createTopic := fun _ => env.createDestination.mapError .cmsException
    createConsumer := fun _ _ => env.createWorker.mapError .cmsException
    setMessageListener := env.configure.mapError .cmsException }

/-- The same for the constructor of an EPICS consumer. -/
def epicsResources (env : EndpointEnv) : EpicsConsumer.Resources :=
  { connectionManager := env.connectionManager.mapError .gmpException
    createSession := env.createSession.mapError .cmsException
    createTopic := fun _ => env.createDestination.mapError .cmsException
    createConsumer := fun _ => env.createWorker.mapError .cmsException
    setMessageListener := env.configure.mapError .cmsException }

/-- The same for the constructor of the EPICS manager, where the other members work. -/
def geminiEnv (env : EndpointEnv) : GeminiEnv :=
  { connectionManager := env.connectionManager.mapError .gmpException
    createSession := env.createSession.mapError .cmsException
    constructReply := env.channels
    otherMembers := .ok ()
    subscribeReply := env.channels
    consumer := env.epicsResources }

variable (env : EndpointEnv)

theorem result_sequenceCommandConsumer (id : SequenceCommand) (topic : CxxString)
    (activities : ActivitySet) (handler : Ptr) :
    (SequenceCommandConsumer.endpointClass.construct env).result
      = (SequenceCommandConsumer.create env.initResources id topic activities handler).map
          fun _ => () := by
  obtain ⟨manager, session, destination, worker, configure, channels⟩ := env
  cases manager <;> cases session <;> cases destination <;> cases worker <;> cases configure <;> rfl

theorem result_epicsConsumer (channelName : CxxString) (handler : Ptr) :
    (EpicsConsumer.endpointClass.construct env).result
      = (EpicsConsumer.create env.epicsResources channelName handler).map fun _ => () := by
  obtain ⟨manager, session, destination, worker, configure, channels⟩ := env
  cases manager <;> cases session <;> cases destination <;> cases worker <;> cases configure <;> rfl

theorem result_epicsManager :
    (JmsEpicsManager.construct env).result
      = (JmsEpicsManager.create env.geminiEnv).map fun _ => () := by
  obtain ⟨manager, session, destination, worker, configure, channels⟩ := env
  cases manager <;> cases session <;> cases channels <;> rfl

end EndpointEnv

/-! ## The kinds of endpoints -/

/-- The endpoints there are: members of the singletons, and the consumers of subscriptions. -/
inductive EndpointKind
  | completionInfoProducer
  | statusSender
  | obsEventProducer
  | fileEventsProducer
  | requestProducer
  | logProducer
  | epicsManager
  | pcsUpdater
  | tcsFetcher
  | tcsApplyOffset
  | epicsFetcher
  | sequenceCommandConsumer (topic : CxxString)
  | epicsConsumer (channelName : CxxString)
deriving DecidableEq

namespace EndpointKind

/-- The class of an endpoint. The EPICS manager has neither a producer nor a consumer. -/
def endpointClass : EndpointKind → Option EndpointClass
  | completionInfoProducer => some CompletionInfoProducer.endpointClass
  | statusSender => some JmsStatusSender.endpointClass
  | requestProducer => some RequestProducer.endpointClass
  | sequenceCommandConsumer _ => some SequenceCommandConsumer.endpointClass
  | epicsConsumer _ => some EpicsConsumer.endpointClass
  | epicsManager => none
  | _ => some JmsProducer.endpointClass

def construct (env : EndpointEnv) (kind : EndpointKind) : Construction :=
  match kind.endpointClass with
  | some cls => cls.construct env
  | none => JmsEpicsManager.construct env

def born (kind : EndpointKind) : Ledger EndpointResource :=
  match kind.endpointClass with
  | some cls => cls.born
  | none => JmsEpicsManager.born

def destroy (kind : EndpointKind) (lines : Ledger EndpointResource) : Ledger EndpointResource :=
  match kind.endpointClass with
  | some cls => cls.destroy lines
  | none => JmsEpicsManager.destroy lines

/-- What it has after its construction, when the connection has been lost since then. -/
def cut (kind : EndpointKind) : Ledger EndpointResource :=
  kind.born ++ EndpointResource.disposed kind.born

theorem construct_ok {env : EndpointEnv} {kind : EndpointKind} {lines : Ledger EndpointResource}
    (h : kind.construct env = (.ok (), lines)) : lines = kind.born := by
  unfold construct at h
  unfold born
  cases hclass : kind.endpointClass with
  | some cls =>
      rw [hclass] at h
      exact EndpointClass.construct_ok h
  | none =>
      rw [hclass] at h
      exact JmsEpicsManager.construct_ok h

theorem construct_error {env : EndpointEnv} {kind : EndpointKind} {e : Exn}
    {lines : Ledger EndpointResource} (h : kind.construct env = (.error e, lines)) : Tidy lines := by
  unfold construct at h
  cases hclass : kind.endpointClass with
  | some cls =>
      rw [hclass] at h
      exact EndpointClass.construct_error h
  | none =>
      rw [hclass] at h
      exact JmsEpicsManager.construct_error h

theorem tidy_destroyed (kind : EndpointKind) :
    Tidy (kind.born ++ kind.destroy kind.born) ∧ Tidy (kind.cut ++ kind.destroy kind.cut) := by
  unfold cut born destroy
  cases kind.endpointClass with
  | some cls => exact ⟨cls.tidy_destroyed, cls.tidy_destroyed_disposed⟩
  | none => decide

/-- An endpoint that stands is not tidy. -/
theorem not_tidy_born (kind : EndpointKind) : ¬ Tidy kind.born ∧ ¬ Tidy kind.cut := by
  unfold cut born
  cases kind.endpointClass with
  | some cls => exact cls.not_tidy_born
  | none => decide

/-- What was closed with a connection is not closed with the next one. -/
theorem disposed_cut (kind : EndpointKind) : EndpointResource.disposed kind.cut = [] := by
  unfold cut born
  cases kind.endpointClass with
  | some cls =>
      obtain ⟨⟨creates, last⟩, trouble⟩ := cls
      cases creates <;> cases last <;> rfl
  | none => rfl

/-- The lives of endpoints, for these that have lost their connection. -/
def lives (lost : Set Nat) : Lives EndpointKind EndpointResource where
  begun n kind lines := (n ∉ lost → lines = kind.born) ∧ (n ∈ lost → lines = kind.cut)
  ended _ lines := Tidy lines
  ending := destroy
  ends := by
    intro n kind lines h
    by_cases hn : n ∈ lost
    · exact h.2 hn ▸ kind.tidy_destroyed.2
    · exact h.1 hn ▸ kind.tidy_destroyed.1

/-- An endpoint that was just constructed has its connection. -/
theorem begun_born {lost : Set Nat} {n : Nat} (hn : n ∉ lost) (kind : EndpointKind) :
    (lives lost).begun n kind kind.born :=
  ⟨fun _ => rfl, fun h => absurd h hn⟩

theorem not_tidy_of_begun {lost : Set Nat} {n : Nat} {kind : EndpointKind} {lines : Ledger EndpointResource}
    (h : (lives lost).begun n kind lines) : ¬ Tidy lines := by
  by_cases hn : n ∈ lost
  · exact h.2 hn ▸ kind.not_tidy_born.2
  · exact h.1 hn ▸ kind.not_tidy_born.1

end EndpointKind

end Giapi
