import GiapiGlue.Commands.JmsCommandUtil
import GiapiGlue.Gmp.ConnectionManager
import GiapiGlue.Status.StatusUtil

set_option autoImplicit false

/-! # A process that uses the library

The connection manager with the singletons that keep a session on its connection: the status sender of
the factory and the completion information producer of `JmsCommandUtil`. Both are created at their
first use. The connection may be lost, and is started again, between any two calls. -/

namespace Giapi

/-- What the creation and the use of a session meet outside the library. -/
structure SessionEnv where
  startup : StartupEnv
  createSession : Except Exn Unit
  /-- The producer of the session for a queue, or for any destination, and what is set on it. -/
  createProducer : Option CxxString → Except Exn Unit
  /-- What CMS says of a session whose connection is gone. -/
  closed : CxxString

structure Process where
  connectionManager : ConnectionManager
  /-- The session of `senders[JMS_SENDER]`, and that of the producer of `JmsCommandUtil`. -/
  session : SessionUser → Option Session
  status : StatusService

/-- The call posts items. -/
def StatusOp.posts : StatusOp → Bool
  | .postStatusItem _ _ => true
  | .postStatus _ => true
  | _ => false

/-- The call with the sender the factory answers with. -/
def StatusOp.withSender (sender : Except Exn PostStatus) : StatusOp → StatusOp
  | .postStatusItem _ name => .postStatusItem sender name
  | .postStatus _ => .postStatus sender
  | op => op

namespace Process

def initial : Process :=
  { connectionManager := .initial, session := fun _ => none, status := StatusUtil.initial }

/-! ## The singletons -/

/-- What a constructor says of a `CMSException`. -/
def complaint : SessionUser → CxxString
  | .statusSender => str "Trouble initializing Status Sender :"
  | .completionInfoProducer => str "Trouble initializing completion info producer :"

/-- The queue a producer is for. -/
def destination : SessionUser → Option CxxString
  | .statusSender => none
  | .completionInfoProducer => some GMPKeys.gmpCompletionInfo

/-- The constructor of `JmsStatusSender` and that of `CompletionInfoProducer`. -/
def construct (user : SessionUser) (env : SessionEnv) (manager : ConnectionManager) :
    Except Exn Session × ConnectionManager :=
  match manager.getInstance env.startup with
  | (.error e, manager) => (.error e, manager)
  | (.ok (), manager) =>
    match (do
      let session ← manager.createSession env.createSession
      env.createProducer (destination user)
      return session : Except Exn Session) with
    | .ok session => (.ok session, manager)
    | .error (.cmsException message) =>
      (.error (.communicationException (complaint user ++ message)), manager)
    | .error e => (.error e, manager)

/-- `getStatusSender()` of the factory, and `JmsCommandUtil::Instance()`. -/
def getSession (user : SessionUser) (env : SessionEnv) (process : Process) :
    Except Exn Session × Process :=
  match process.session user with
  | some session => (.ok session, process)
  | none =>
    match construct user env process.connectionManager with
    | (.error e, connectionManager) => (.error e, { process with connectionManager })
    | (.ok session, connectionManager) =>
      (.ok session, { process with
        connectionManager := connectionManager.record (.created user session)
        session := Function.update process.session user (some session) })

/-- `n` posts go through a session. -/
def recordPosts (user : SessionUser) (session : Session) (n : Nat) (process : Process) : Process :=
  { process with
    connectionManager := { process.connectionManager with
      events := List.replicate n (.posted user session process.connectionManager.connection)
        ++ process.connectionManager.events } }

/-! ## Posts -/

/-- The session of a status sender: nothing works once it cannot be used. -/
def senderResources (session : Session) (env : SessionEnv)
    (resources : Nat → JmsStatusSender.Resources) (process : Process) :
    Nat → JmsStatusSender.Resources :=
  if process.connectionManager.usable session then
    resources
  else
    fun _ =>
      { createBytesMessage := .error (.cmsException env.closed)
        createTopic := fun _ => .error (.cmsException env.closed)
        send := fun _ _ => .error (.cmsException env.closed) }

/-- A call of the status API. -/
def callStatus (env : SessionEnv) (resources : Nat → JmsStatusSender.Resources) (op : StatusOp)
    (process : Process) : Except Exn Answer × Process :=
  if op.posts then
    match process.getSession .statusSender env with
    | (.error e, process) => (.error e, process)
    | (.ok session, process) =>
      let post := JmsStatusSender.postStatus (process.senderResources session env resources)
      let (answer, status) := StatusUtil.call (op.withSender (.ok post)) process.status
      (answer, recordPosts .statusSender session
        (status.sends.length - process.status.sends.length) { process with status })
  else
    let (answer, status) := StatusUtil.call op process.status
    (answer, { process with status })

/-- The session of the completion information producer. -/
def producerResources (session : Session) (env : SessionEnv) (resources : CompletionResources)
    (process : Process) : CompletionResources :=
  if process.connectionManager.usable session then
    resources
  else
    { resources with
      createMapMessage := .error (.cmsException env.closed)
      send := fun _ _ => .error (.cmsException env.closed) }

/-- `CommandUtil::postCompletionInfo`. -/
def postCompletionInfo (env : SessionEnv) (resources : CompletionResources) (id : CInt)
    (response : Option HandlerResponse) (process : Process) : Except Exn Status × Process :=
  match response with
  | none => (.ok .error, process)
  | some response =>
    if ¬ CommandUtil.validCompletion response then
      (.ok .error, process)
    else
      match process.getSession .completionInfoProducer env with
      | (.error e, process) => (.error e, process)
      | (.ok session, process) =>
        let resources := process.producerResources session env resources
        ((CompletionInfoProducer.postCompletionInfo resources id response).map (fun _ => .ok),
          recordPosts .completionInfoProducer session 1 process)

/-! ## Runs -/

end Process

/-- What happens in a process: a call of the library, the loss of the connection, or a turn of the loop
    that restores it. The calls that are not listed create sessions of their own, and are represented
    by what they ask of the connection manager and the singletons. -/
inductive ProcessOp
  | getInstance (env : StartupEnv)
  | registerOperation (env : StartupEnv) (op : Ptr)
  | registerHandler (env : StartupEnv) (handler : Ptr)
  | onException (stop : Except Exn Unit)
  | reconnect (env : StartupEnv)
  | getSession (user : SessionUser) (env : SessionEnv)
  | callStatus (env : SessionEnv) (resources : Nat → JmsStatusSender.Resources) (op : StatusOp)
  | postCompletionInfo (env : SessionEnv) (resources : CompletionResources) (id : CInt)
      (response : Option HandlerResponse)

namespace Process

/-- `ConnectionManager::Instance()`, and a call of a method on it when it returns. -/
def onInstance (env : StartupEnv) (method : ConnectionManager → ConnectionManager)
    (process : Process) : Process :=
  match process.connectionManager.getInstance env with
  | (.error _, connectionManager) => { process with connectionManager }
  | (.ok (), connectionManager) => { process with connectionManager := method connectionManager }

def step (process : Process) : ProcessOp → Process
  | .getInstance env => process.onInstance env id
  | .registerOperation env op => process.onInstance env (·.registerOperation op)
  | .registerHandler env handler => process.onInstance env (·.registerHandler handler)
  | .onException stop =>
    { process with connectionManager := (process.connectionManager.enterOnException stop).2 }
  | .reconnect env =>
    { process with connectionManager := process.connectionManager.reconnect env }
  | .getSession user env => (process.getSession user env).2
  | .callStatus env resources op => (process.callStatus env resources op).2
  | .postCompletionInfo env resources id response =>
    (process.postCompletionInfo env resources id response).2

/-- The state after a run. -/
abbrev after (ops : List ProcessOp) : Process := Run.after step initial ops

end Process

end Giapi
