import GiapiGlue.Giapi
import GiapiGlue.Lib.FreshRegister
import GiapiGlue.Lib.ObjectHeap
import GiapiGlue.Lib.Run

set_option autoImplicit false

/-! # The connection to the GMP

`ConnectionManager`: the one connection of the process, how it is started, what happens when it is
lost, and the sessions made on it. What happens to the connection is recorded, the latest first. -/

namespace Giapi

/-! ## Connections and sessions -/

/-- A JMS connection: whether it was started, has the exception listener, was reported as lost. -/
structure Connection where
  started : Bool
  listener : Bool
  broken : Bool
deriving DecidableEq, Repr

/-- A JMS session, with the connection that created it. -/
structure Session where
  connection : Ptr
deriving DecidableEq, Repr

/-- The singletons that keep a session with a producer. -/
inductive SessionUser
  | statusSender
  | completionInfoProducer
deriving DecidableEq, Repr

/-- What happens to the connection, and what is done with the sessions made on it. -/
inductive GmpEvent
  /-- `_connection` is set to a new connection. -/
  | installed (connection : Ptr)
  /-- `_connection` is set to null. -/
  | dropped
  /-- A reconnection loop ends. -/
  | recovered
  | operationInvoked (op : Ptr)
  | handlerInvoked (handler : Ptr)
  /-- A singleton is created with a session. -/
  | created (user : SessionUser) (session : Session)
  /-- A post goes through the session of a singleton; `held` is `_connection` at that time. -/
  | posted (user : SessionUser) (session : Session) (held : Option Ptr)
deriving DecidableEq, Repr

/-- What an event sets `_connection` to. -/
def GmpEvent.connects : GmpEvent → Option (Option Ptr)
  | .installed connection => some (some connection)
  | .dropped => some none
  | _ => none

/-- What `startup` meets outside the library. -/
structure StartupEnv where
  /-- The property `gmp.hostname`. -/
  hostname : CxxString
  /-- `createCMSConnectionFactory(brokerURI)` and `createConnection()`. -/
  createConnection : CxxString → Except Exn Unit
  start : Except Exn Unit
  setExceptionListener : Except Exn Unit

/-- The singleton, with the connections made so far, the number of threads in the loop of
    `onException`, and the record. -/
structure ConnectionManager where
  connection : Option Ptr
  errorHandlersFunctions : List Ptr
  errorHandlerObjects : List Ptr
  connections : ObjectHeap Connection
  reconnecting : Nat
  events : List GmpEvent

namespace ConnectionManager

/-- The constructor. -/
def initial : ConnectionManager :=
  { connection := none
    errorHandlersFunctions := []
    errorHandlerObjects := []
    connections := []
    reconnecting := 0
    events := [] }

def record (event : GmpEvent) (manager : ConnectionManager) : ConnectionManager :=
  { manager with events := event :: manager.events }

/-! ## Starting -/

/-- The URI of the broker, on the local host unless a name is configured. -/
def brokerURI (hostname : CxxString) : CxxString :=
  let hostname := if StringUtil.isEmpty hostname then str "localhost" else hostname
  str "failover:(tcp://" ++ hostname ++ str ":61616" ++ str "?wireFormat=openwire"
    ++ str "&connection.useAsyncSend=true" ++ str ")"

/-- `_connection.reset(createConnection())`. -/
def install (manager : ConnectionManager) : ConnectionManager :=
  { manager with
    connection := some manager.connections.length
    connections := manager.connections ++ [{ started := false, listener := false, broken := false }]
    events := .installed manager.connections.length :: manager.events }

/-- A change of the connection that is held. -/
def onConnection (f : Connection → Connection) (manager : ConnectionManager) : ConnectionManager :=
  match manager.connection with
  | none => manager
  | some p => { manager with connections := manager.connections.modify p f }

/-- The `try` block of `startup`. -/
def connect (env : StartupEnv) (manager : ConnectionManager) : Except Exn Unit × ConnectionManager :=
  match env.createConnection (brokerURI env.hostname) with
  | .error e => (.error e, manager)
  | .ok () =>
    let manager := manager.install
    match env.start with
    | .error e => (.error e, manager)
    | .ok () =>
      let manager := manager.onConnection (fun connection => { connection with started := true })
      match env.setExceptionListener with
      | .error e => (.error e, manager)
      | .ok () =>
        (.ok (), manager.onConnection (fun connection => { connection with listener := true }))

/-- `startup`: a `GmpException` in place of a `CMSException`. -/
def startup (env : StartupEnv) (manager : ConnectionManager) :
    Except Exn Unit × ConnectionManager :=
  match connect env manager with
  | (.error (.cmsException message), manager) =>
    (.error (.gmpException (str "Problem connecting to GMP. " ++ message)), manager)
  | result => result

/-- `Instance()`. -/
def getInstance (env : StartupEnv) (manager : ConnectionManager) :
    Except Exn Unit × ConnectionManager :=
  match manager.connection with
  | some _ => (.ok (), manager)
  | none => startup env manager

/-- `createSession`, on the connection that is held. -/
def createSession (createSession : Except Exn Unit) (manager : ConnectionManager) :
    Except Exn Session :=
  match manager.connection with
  | none => .error .outOfBounds
  | some connection => do
    createSession
    return { connection }

/-- A session can be used while its connection is the one that is held, and alive. -/
def usable (session : Session) (manager : ConnectionManager) : Bool :=
  match manager.connections[session.connection]? with
  | none => false
  | some connection => manager.connection = some session.connection && !connection.broken

/-! ## Error handlers -/

/-- `insert` of a `std::set`, whose elements are in the order of their addresses. -/
def insertPtr (p : Ptr) (set : List Ptr) : List Ptr :=
  if p ∈ set then set else set.orderedInsert (· ≤ ·) p

def registerOperation (op : Ptr) (manager : ConnectionManager) : ConnectionManager :=
  { manager with errorHandlersFunctions := insertPtr op manager.errorHandlersFunctions }

def registerHandler (handler : Ptr) (manager : ConnectionManager) : ConnectionManager :=
  { manager with errorHandlerObjects := insertPtr handler manager.errorHandlerObjects }

/-- The end of `onException`: functions first, then the objects. -/
def invokeErrorHandlers (manager : ConnectionManager) : ConnectionManager :=
  let invoked := manager.errorHandlersFunctions.map GmpEvent.operationInvoked ++
    manager.errorHandlerObjects.map GmpEvent.handlerInvoked
  { manager with events := invoked.reverse ++ manager.events }

/-! ## Losing the connection -/

/-- `onException` up to its loop. What `stop` throws leaves the function. -/
def enterOnException (stop : Except Exn Unit) (manager : ConnectionManager) :
    Except Exn Unit × ConnectionManager :=
  let manager := manager.onConnection (fun connection => { connection with broken := true })
  match (if manager.connection.isSome then stop else .ok ()) with
  | .error e => (.error e, manager)
  | .ok () =>
    (.ok (), { manager with
      connection := none
      reconnecting := manager.reconnecting + 1
      events := .dropped :: manager.events })

/-- A turn of the loop of `onException`, in one of the threads that are in it. -/
def reconnect (env : StartupEnv) (manager : ConnectionManager) : ConnectionManager :=
  if manager.reconnecting = 0 then
    manager
  else
    match startup env manager with
    | (.error (.gmpException _), manager) => manager
    | (.error _, manager) => { manager with reconnecting := manager.reconnecting - 1 }
    | (.ok (), manager) =>
      invokeErrorHandlers { manager with
        reconnecting := manager.reconnecting - 1
        events := .recovered :: manager.events }

/-! ## What a startup can do -/

/-- A new connection is held that has come as far as `connection` says. -/
def installed (connection : Connection) (manager : ConnectionManager) : ConnectionManager :=
  { manager with
    connection := some manager.connections.length
    connections := manager.connections ++ [connection]
    events := .installed manager.connections.length :: manager.events }

theorem onConnection_installed (f : Connection → Connection) (connection : Connection)
    (m : ConnectionManager) :
    (m.installed connection).onConnection f = m.installed (f connection) := by
  simp [installed, onConnection, List.modify_eq_set_getElem?]

end ConnectionManager

/-- The connection can be made, but not both started and given the listener. -/
def StartupEnv.Halfway (env : StartupEnv) : Prop :=
  env.createConnection (ConnectionManager.brokerURI env.hostname) = .ok () ∧
    ¬ (env.start = .ok () ∧ env.setExceptionListener = .ok ())

/-- Started, with the listener, and not reported as lost. -/
def Connection.Ready (connection : Connection) : Prop :=
  connection.started = true ∧ connection.listener = true ∧ connection.broken = false

namespace ConnectionManager

/-- The ways `connect` can end: without a connection, with one that is not ready, or with one that
    is. -/
inductive Connects (env : StartupEnv) (m : ConnectionManager) :
    Except Exn Unit × ConnectionManager → Prop
  | refused (e : Exn) (hhalfway : ¬ env.Halfway) : Connects env m (.error e, m)
  | halfway (e : Exn) (connection : Connection) (hhalfway : env.Halfway)
      (hready : ¬ connection.Ready) : Connects env m (.error e, m.installed connection)
  | connected (connection : Connection) (hhalfway : ¬ env.Halfway) (hready : connection.Ready) :
      Connects env m (.ok (), m.installed connection)

theorem connect_connects (env : StartupEnv) (m : ConnectionManager) :
    Connects env m (connect env m) := by
  unfold connect
  cases hcreate : env.createConnection (brokerURI env.hostname) with
  | error e =>
      refine .refused e fun h => ?_
      rw [h.1] at hcreate
      exact absurd hcreate (by simp)
  | ok u =>
      have hinstall : m.install = m.installed { started := false, listener := false, broken := false } :=
        rfl
      simp only [hinstall, onConnection_installed]
      cases hstart : env.start with
      | error e =>
          exact .halfway e _ ⟨hcreate, fun h => by simp [hstart] at h⟩ (fun h => by simp [Connection.Ready] at h)
      | ok u =>
          cases hlistener : env.setExceptionListener with
          | error e =>
              exact .halfway e _ ⟨hcreate, fun h => by simp [hlistener] at h⟩
                (fun h => by simp [Connection.Ready] at h)
          | ok u => exact .connected _ (fun h => h.2 ⟨hstart, hlistener⟩) ⟨rfl, rfl, rfl⟩

/-- The same holds of `startup`, which only throws something else. -/
theorem startup_connects (env : StartupEnv) (m : ConnectionManager) :
    Connects env m (startup env m) := by
  have hconnects := connect_connects env m
  unfold startup
  generalize connect env m = r at hconnects
  cases hconnects with
  | refused e hhalfway => cases e <;> exact .refused _ hhalfway
  | halfway e connection hhalfway hready => cases e <;> exact .halfway _ connection hhalfway hready
  | connected connection hhalfway hready => exact .connected connection hhalfway hready

/-! ## The record -/

open FreshRegister (value written Untouched)

/-- The record agrees with the connection that is held, and no connection is installed twice. -/
structure Recorded (manager : ConnectionManager) : Prop where
  held : value GmpEvent.connects manager.events = manager.connection
  fresh : (written GmpEvent.connects manager.events).Nodup
  made : ∀ p ∈ written GmpEvent.connects manager.events, p < manager.connections.length

/-- An event that is about no session. -/
def Internal (event : GmpEvent) : Prop :=
  (∀ user session, event ≠ .created user session) ∧
    ∀ user session held, event ≠ .posted user session held

/-- What a method of the manager does: it keeps the record right and adds events about no session. -/
structure Advances (manager manager' : ConnectionManager) : Prop where
  recorded : manager.Recorded → manager'.Recorded
  events : ∃ added, manager'.events = added ++ manager.events ∧ ∀ event ∈ added, Internal event

namespace Advances

variable {m m' m'' : ConnectionManager}

theorem refl (m : ConnectionManager) : Advances m m :=
  ⟨id, [], rfl, fun _ h => absurd h List.not_mem_nil⟩

theorem trans (h : Advances m m') (h' : Advances m' m'') : Advances m m'' := by
  obtain ⟨added, hadded, hinternal⟩ := h.events
  obtain ⟨added', hadded', hinternal'⟩ := h'.events
  refine ⟨h'.recorded ∘ h.recorded, added' ++ added, ?_, fun event hevent => ?_⟩
  · rw [hadded', hadded, List.append_assoc]
  · rcases List.mem_append.1 hevent with hevent | hevent
    · exact hinternal' event hevent
    · exact hinternal event hevent

/-- What records events that do not concern the connection. -/
theorem of_events (added : List GmpEvent) (hadded : ∀ event ∈ added, Internal event)
    (huntouched : Untouched GmpEvent.connects added) (hevents : m'.events = added ++ m.events)
    (hconnection : m'.connection = m.connection)
    (hconnections : m'.connections.length = m.connections.length) : Advances m m' := by
  refine ⟨fun h => ⟨?_, ?_, ?_⟩, added, hevents, hadded⟩
  · rw [hevents, huntouched.value_append, hconnection, h.held]
  · rw [hevents, huntouched.written_append]
    exact h.fresh
  · rw [hevents, huntouched.written_append, hconnections]
    exact h.made

/-- What changes neither the connection nor the record. -/
theorem of_same (hconnection : m'.connection = m.connection) (hevents : m'.events = m.events)
    (hconnections : m'.connections.length = m.connections.length) : Advances m m' :=
  of_events [] (fun _ h => absurd h List.not_mem_nil) (fun _ h => absurd h List.not_mem_nil) hevents
    hconnection hconnections

end Advances

theorem initial_recorded : initial.Recorded :=
  ⟨rfl, List.nodup_nil, fun _ h => absurd h List.not_mem_nil⟩

theorem install_advances (m : ConnectionManager) : Advances m m.install := by
  have hwritten : written GmpEvent.connects m.install.events
      = m.connections.length :: written GmpEvent.connects m.events :=
    FreshRegister.written_cons_of_some rfl
  refine ⟨fun h => ⟨rfl, ?_, fun p hp => ?_⟩, [.installed m.connections.length], rfl, ?_⟩
  · rw [hwritten, List.nodup_cons]
    exact ⟨fun hp => absurd (h.made _ hp) (Nat.lt_irrefl _), h.fresh⟩
  · have hlength : m.install.connections.length = m.connections.length + 1 := List.length_append
    rw [hwritten] at hp
    rw [hlength]
    rcases List.mem_cons.1 hp with rfl | hp
    · exact Nat.lt_succ_self _
    · exact Nat.lt_succ_of_lt (h.made p hp)
  · intro event hevent
    rw [List.mem_singleton.1 hevent]
    exact ⟨by simp, by simp⟩

theorem onConnection_advances (f : Connection → Connection) (m : ConnectionManager) :
    Advances m (m.onConnection f) := by
  unfold onConnection
  split
  · exact .refl m
  · exact .of_same rfl rfl (List.length_modify _ _ _)

theorem connect_advances (env : StartupEnv) (m : ConnectionManager) :
    Advances m (connect env m).2 := by
  unfold connect
  split
  · exact .refl m
  · dsimp only
    split
    · exact install_advances m
    · split
      · exact (install_advances m).trans (onConnection_advances _ _)
      · exact (install_advances m).trans
          ((onConnection_advances _ _).trans (onConnection_advances _ _))

theorem startup_snd (env : StartupEnv) (m : ConnectionManager) :
    (startup env m).2 = (connect env m).2 := by
  unfold startup
  split
  · next heq => rw [heq]
  · rfl

theorem startup_advances (env : StartupEnv) (m : ConnectionManager) :
    Advances m (startup env m).2 := by
  rw [startup_snd]
  exact connect_advances env m

theorem getInstance_advances (env : StartupEnv) (m : ConnectionManager) :
    Advances m (getInstance env m).2 := by
  unfold getInstance
  split
  · exact .refl m
  · exact startup_advances env m

theorem enterOnException_advances (stop : Except Exn Unit) (m : ConnectionManager) :
    Advances m (enterOnException stop m).2 := by
  refine (onConnection_advances (fun connection => { connection with broken := true }) m).trans ?_
  unfold enterOnException
  generalize m.onConnection (fun connection => { connection with broken := true }) = m
  dsimp only
  split
  · exact .refl m
  · have hwritten : written GmpEvent.connects (.dropped :: m.events)
        = written GmpEvent.connects m.events := FreshRegister.written_cons_of_none rfl
    refine ⟨fun h => ⟨rfl, ?_, ?_⟩, [.dropped], rfl, fun event hevent => ?_⟩
    · exact hwritten ▸ h.fresh
    · exact hwritten ▸ h.made
    · rw [List.mem_singleton.1 hevent]
      exact ⟨by simp, by simp⟩

theorem invokeErrorHandlers_advances (m : ConnectionManager) :
    Advances m m.invokeErrorHandlers := by
  have hinvoked : ∀ event ∈ (m.errorHandlersFunctions.map GmpEvent.operationInvoked ++
      m.errorHandlerObjects.map GmpEvent.handlerInvoked).reverse,
      Internal event ∧ event.connects = none := by
    intro event hevent
    rw [List.mem_reverse, List.mem_append, List.mem_map, List.mem_map] at hevent
    rcases hevent with ⟨op, -, rfl⟩ | ⟨handler, -, rfl⟩
    · exact ⟨⟨by simp, by simp⟩, rfl⟩
    · exact ⟨⟨by simp, by simp⟩, rfl⟩
  exact .of_events _ (fun event h => (hinvoked event h).1) (fun event h => (hinvoked event h).2) rfl rfl
    rfl

theorem reconnect_advances (env : StartupEnv) (m : ConnectionManager) :
    Advances m (reconnect env m) := by
  have hstartup := startup_advances env m
  unfold reconnect
  split
  · exact .refl m
  · split
    · next heq => rwa [heq] at hstartup
    · next m' _ heq =>
        rw [heq] at hstartup
        exact hstartup.trans (.of_same rfl rfl rfl)
    · next m' heq =>
        rw [heq] at hstartup
        refine hstartup.trans (Advances.trans ?_ (invokeErrorHandlers_advances _))
        refine .of_events [.recovered] (fun event hevent => ?_) (fun event hevent => ?_)
          rfl rfl rfl
        · rw [List.mem_singleton.1 hevent]
          exact ⟨by simp, by simp⟩
        · rw [List.mem_singleton.1 hevent]
          rfl

/-! ## Runs -/

/-- `Instance()`, and a method of the manager when it returns: what `GiapiUtil` does to register a
    handler. -/
def onInstance (env : StartupEnv) (method : ConnectionManager → ConnectionManager)
    (manager : ConnectionManager) : Except Exn Unit × ConnectionManager :=
  match getInstance env manager with
  | (.error e, manager) => (.error e, manager)
  | (.ok (), manager) => (.ok (), method manager)

end ConnectionManager

/-- A call of the manager, or a turn of the loop of an `onException` that has not returned. Other
    threads make calls between the turns. -/
inductive GmpOp
  | getInstance (env : StartupEnv)
  | registerOperation (env : StartupEnv) (op : Ptr)
  | registerHandler (env : StartupEnv) (handler : Ptr)
  | onException (stop : Except Exn Unit)
  | reconnect (env : StartupEnv)

namespace ConnectionManager

def step (manager : ConnectionManager) : GmpOp → ConnectionManager
  | .getInstance env => (manager.getInstance env).2
  | .registerOperation env op => (manager.onInstance env (·.registerOperation op)).2
  | .registerHandler env handler => (manager.onInstance env (·.registerHandler handler)).2
  | .onException stop => (manager.enterOnException stop).2
  | .reconnect env => manager.reconnect env

/-- The manager after a run. -/
abbrev after (ops : List GmpOp) : ConnectionManager := Run.after step initial ops

end ConnectionManager

end Giapi
