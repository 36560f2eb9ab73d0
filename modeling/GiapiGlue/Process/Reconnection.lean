import GiapiGlue.Process.Process

set_option autoImplicit false

/-! # Posting after a reconnection

When the connection is lost the manager starts another one. The singletons keep the session they were
created with: a post after the reconnection goes through the connection that is held only if the
singleton was created on it. -/

namespace Giapi

open FreshRegister (value Untouched)

/-- The creation of the singleton that keeps the session of `user`. -/
def GmpEvent.creates (user : SessionUser) : GmpEvent → Bool
  | .created user' _ => user' = user
  | _ => false

namespace Process

/-- What happened since the singleton of `user` was created. -/
def sinceCreated (user : SessionUser) (events : List GmpEvent) : List GmpEvent :=
  events.takeWhile (fun event => !event.creates user)

/-- Each post after a completed recovery goes through a session of the connection that is held. -/
def Restored (events : List GmpEvent) : Prop :=
  ∀ newer user session held older, events = newer ++ .posted user session held :: older →
    .recovered ∈ older → held = some session.connection

/-- The connection is neither dropped nor replaced between the creation of a singleton and a post that
    goes through it after a completed recovery. -/
def CreatedAfterwards (events : List GmpEvent) : Prop :=
  ∀ newer user session held older, events = newer ++ .posted user session held :: older →
    .recovered ∈ older → Untouched GmpEvent.connects (sinceCreated user older)

/-! ## The invariant -/

/-- The singleton was created with a session of the connection held at that time. -/
def CreatedWith (user : SessionUser) (session : Session) (events : List GmpEvent) : Prop :=
  ∃ older, events = sinceCreated user events ++ .created user session :: older ∧
    value GmpEvent.connects older = some session.connection

/-- A post goes through the connection that is held exactly when nothing happened to the connection
    since its singleton was created. -/
def PostsAgree (events : List GmpEvent) : Prop :=
  ∀ newer user session held older, events = newer ++ .posted user session held :: older →
    (held = some session.connection ↔ Untouched GmpEvent.connects (sinceCreated user older))

structure Coherent (process : Process) : Prop where
  recorded : process.connectionManager.Recorded
  created : ∀ user session, process.session user = some session →
    CreatedWith user session process.connectionManager.events
  posted : PostsAgree process.connectionManager.events

/-- What each of the added events keeps, they keep together. -/
theorem keeps_append {P : List GmpEvent → Prop} {Q : GmpEvent → Prop}
    (hcons : ∀ {events event}, P events → Q event → P (event :: events)) {events added : List GmpEvent}
    (h : P events) (hadded : ∀ event ∈ added, Q event) : P (added ++ events) := by
  induction added with
  | nil => exact h
  | cons event added ih =>
      exact hcons (ih fun event' h' => hadded event' (List.mem_cons_of_mem event h'))
        (hadded event List.mem_cons_self)

theorem CreatedWith.cons {user : SessionUser} {session : Session} {events : List GmpEvent}
    {event : GmpEvent} (h : CreatedWith user session events) (hevent : event.creates user = false) :
    CreatedWith user session (event :: events) := by
  obtain ⟨older, hevents, hvalue⟩ := h
  have hsince : sinceCreated user (event :: events) = event :: sinceCreated user events :=
    List.takeWhile_cons_of_pos (by rw [hevent]; rfl)
  exact ⟨older, by rw [hsince, List.cons_append, ← hevents], hvalue⟩

theorem createdWith_created {user : SessionUser} {session : Session} {events : List GmpEvent}
    (h : value GmpEvent.connects events = some session.connection) :
    CreatedWith user session (.created user session :: events) := by
  have hsince : sinceCreated user (.created user session :: events) = [] :=
    List.takeWhile_cons_of_neg (by simp [GmpEvent.creates])
  exact ⟨events, by rw [hsince]; rfl, h⟩

/-- An event that is no post. -/
theorem PostsAgree.cons {events : List GmpEvent} {event : GmpEvent} (h : PostsAgree events)
    (hevent : ∀ user session held, event ≠ .posted user session held) :
    PostsAgree (event :: events) := by
  intro newer user session held older heq
  cases newer with
  | nil => exact absurd (List.cons.inj heq).1 (hevent user session held)
  | cons event' newer => exact h newer user session held older (List.cons.inj heq).2

/-- A post through the session of a singleton. -/
theorem PostsAgree.post {events : List GmpEvent} {user : SessionUser} {session : Session}
    (h : PostsAgree events) (hfresh : (FreshRegister.written GmpEvent.connects events).Nodup)
    (hcreated : CreatedWith user session events) :
    PostsAgree (.posted user session (value GmpEvent.connects events) :: events) := by
  intro newer user' session' held older heq
  cases newer with
  | nil =>
      obtain ⟨hevent, rfl⟩ := List.cons.inj heq
      obtain ⟨rfl, rfl, rfl⟩ := GmpEvent.posted.inj hevent
      obtain ⟨before, hevents, hvalue⟩ := hcreated
      have hvalue' : value GmpEvent.connects (.created user session :: before)
          = some session.connection := (FreshRegister.value_cons_of_none rfl).trans hvalue
      rw [hevents] at hfresh
      have hiff := FreshRegister.value_append_iff hfresh hvalue'
      rwa [← hevents] at hiff
  | cons event' newer => exact h newer user' session' held older (List.cons.inj heq).2

/-! ## The steps -/

open ConnectionManager (Advances Internal)

variable {process : Process}

theorem creates_of_internal {event : GmpEvent} (h : Internal event) (user : SessionUser) :
    event.creates user = false := by
  cases event with
  | created user' session => exact absurd rfl (h.1 user' session)
  | _ => rfl

/-- What the manager does by itself. -/
theorem Coherent.advance (h : process.Coherent) {connectionManager : ConnectionManager}
    (hmanager : Advances process.connectionManager connectionManager) :
    Coherent { process with connectionManager } := by
  obtain ⟨added, hevents, hinternal⟩ := hmanager.events
  refine ⟨hmanager.recorded h.recorded, fun user session hsession => ?_, ?_⟩
  · show CreatedWith user session connectionManager.events
    rw [hevents]
    exact keeps_append CreatedWith.cons (h.created user session hsession) fun event hevent =>
      creates_of_internal (hinternal event hevent) user
  · show PostsAgree connectionManager.events
    rw [hevents]
    exact keeps_append PostsAgree.cons h.posted fun event hevent => (hinternal event hevent).2

theorem construct_advances (user : SessionUser) (env : SessionEnv) (manager : ConnectionManager) :
    Advances manager (construct user env manager).2 := by
  have hinstance := ConnectionManager.getInstance_advances env.startup manager
  unfold construct
  split
  · next heq => rwa [heq] at hinstance
  · next heq =>
      rw [heq] at hinstance
      split <;> exact hinstance

theorem createSession_ok {result : Except Exn Unit} {manager : ConnectionManager} {session : Session}
    (h : manager.createSession result = .ok session) :
    manager.connection = some session.connection := by
  unfold ConnectionManager.createSession at h
  split at h
  · exact absurd h (by simp)
  · next p hp =>
      obtain ⟨_, -, h⟩ := except_bind_ok h
      rw [hp, ← Except.ok.inj h]

/-- A new singleton has a session of the connection that is held. -/
theorem construct_ok {user : SessionUser} {env : SessionEnv}
    {manager connectionManager : ConnectionManager} {session : Session}
    (h : construct user env manager = (.ok session, connectionManager)) :
    connectionManager.connection = some session.connection := by
  unfold construct at h
  split at h
  · exact absurd (congrArg Prod.fst h) (by rintro ⟨⟩)
  · split at h
    · next heq =>
        obtain ⟨hok, rfl⟩ := Prod.mk.inj h
        obtain ⟨created, hcreated, heq⟩ := except_bind_ok heq
        obtain ⟨_, -, heq⟩ := except_bind_ok heq
        rw [createSession_ok hcreated, Except.ok.inj heq, Except.ok.inj hok]
    · exact absurd (congrArg Prod.fst h) (by rintro ⟨⟩)
    · exact absurd (congrArg Prod.fst h) (by rintro ⟨⟩)

theorem Coherent.getSession (h : process.Coherent) (user : SessionUser) (env : SessionEnv) :
    (process.getSession user env).2.Coherent := by
  have hadvances := construct_advances user env process.connectionManager
  unfold Process.getSession
  split
  · exact h
  · split
    · next heq =>
        rw [heq] at hadvances
        exact h.advance hadvances
    · next session connectionManager heq =>
        rw [heq] at hadvances
        have hcoherent := h.advance hadvances
        have hheld : value GmpEvent.connects connectionManager.events = some session.connection :=
          hcoherent.recorded.held.trans (construct_ok heq)
        refine ⟨⟨?_, ?_, ?_⟩, fun user' session' hsession' => ?_, ?_⟩
        · exact hcoherent.recorded.held
        · exact hcoherent.recorded.fresh
        · exact hcoherent.recorded.made
        · show CreatedWith user' session' (.created user session :: connectionManager.events)
          by_cases huser : user' = user
          · subst huser
            obtain rfl : session = session' := by simpa using hsession'
            exact createdWith_created hheld
          · have hold : process.session user' = some session' := by simpa [huser] using hsession'
            exact (hcoherent.created user' session' hold).cons
              (decide_eq_false fun heq => huser heq.symm)
        · exact hcoherent.posted.cons (by simp)

theorem getSession_ok {user : SessionUser} {env : SessionEnv} {process' : Process}
    {session : Session} (h : process.getSession user env = (.ok session, process')) :
    process'.session user = some session := by
  unfold Process.getSession at h
  split at h
  · next existing hexisting =>
      obtain ⟨hok, rfl⟩ := Prod.mk.inj h
      rw [hexisting, Except.ok.inj hok]
  · split at h
    · exact absurd (congrArg Prod.fst h) (by rintro ⟨⟩)
    · obtain ⟨hok, rfl⟩ := Prod.mk.inj h
      rw [Except.ok.inj hok]
      exact Function.update_self user (some session) process.session

/-- Posts through the session of a singleton. -/
theorem Coherent.recordPosts (h : process.Coherent) {user : SessionUser} {session : Session}
    (hsession : process.session user = some session) (n : Nat) :
    (process.recordPosts user session n).Coherent := by
  induction n with
  | zero => exact h
  | succ n ih =>
      have hheld := ih.recorded.held
      refine ⟨⟨?_, ?_, ?_⟩, fun user' session' hsession' => ?_, ?_⟩
      · exact ih.recorded.held
      · exact ih.recorded.fresh
      · exact ih.recorded.made
      · exact (ih.created user' session' hsession').cons rfl
      · have hpost := ih.posted.post ih.recorded.fresh (ih.created user session hsession)
        rwa [hheld] at hpost

theorem Coherent.callStatus (h : process.Coherent) (env : SessionEnv)
    (resources : Nat → JmsStatusSender.Resources) (op : StatusOp) :
    (process.callStatus env resources op).2.Coherent := by
  have hget := h.getSession .statusSender env
  unfold Process.callStatus
  split
  · split
    · next heq => rwa [heq] at hget
    · next session process' heq =>
        rw [heq] at hget
        have hsession : process'.session .statusSender = some session := getSession_ok heq
        have hposts : ∀ status n,
            (Process.recordPosts .statusSender session n { process' with status }).Coherent := by
          intro status n
          have hstatus : Coherent { process' with status } :=
            ⟨hget.recorded, hget.created, hget.posted⟩
          exact hstatus.recordPosts hsession n
        exact hposts _ _
  · exact ⟨h.recorded, h.created, h.posted⟩

theorem Coherent.postCompletionInfo (h : process.Coherent) (env : SessionEnv)
    (resources : CompletionResources) (id : CInt) (response : Option HandlerResponse) :
    (process.postCompletionInfo env resources id response).2.Coherent := by
  have hget := h.getSession .completionInfoProducer env
  unfold Process.postCompletionInfo
  split
  · exact h
  · split
    · exact h
    · split
      · next heq => rwa [heq] at hget
      · next session process' heq =>
          rw [heq] at hget
          exact hget.recordPosts (getSession_ok heq) 1

theorem Coherent.onInstance (h : process.Coherent) (env : StartupEnv)
    {method : ConnectionManager → ConnectionManager} (hmethod : ∀ m, Advances m (method m)) :
    (process.onInstance env method).Coherent := by
  have hinstance := ConnectionManager.getInstance_advances env process.connectionManager
  unfold Process.onInstance
  split
  · next heq =>
      rw [heq] at hinstance
      exact h.advance hinstance
  · next heq =>
      rw [heq] at hinstance
      exact h.advance (hinstance.trans (hmethod _))

theorem Coherent.step (h : process.Coherent) (op : ProcessOp) : (step process op).Coherent := by
  cases op with
  | getInstance env => exact h.onInstance env Advances.refl
  | registerOperation env op => exact h.onInstance env fun m => .of_same rfl rfl rfl
  | registerHandler env handler => exact h.onInstance env fun m => .of_same rfl rfl rfl
  | onException stop => exact h.advance (ConnectionManager.enterOnException_advances stop _)
  | reconnect env => exact h.advance (ConnectionManager.reconnect_advances env _)
  | getSession user env => exact h.getSession user env
  | callStatus env resources op => exact h.callStatus env resources op
  | postCompletionInfo env resources id response =>
      exact h.postCompletionInfo env resources id response

theorem initial_coherent : initial.Coherent :=
  ⟨ConnectionManager.initial_recorded, fun _ _ h => absurd h (by simp [initial]),
    fun newer _ _ _ _ h => absurd h (by cases newer <;> simp [initial, ConnectionManager.initial])⟩

theorem coherent_after (ops : List ProcessOp) : (after ops).Coherent :=
  Run.invariant initial_coherent (fun _ op h => h.step op) ops

/-! ## Restoration -/

/-- In a run, each post after a recovery goes through the connection that is held exactly when each
    is made by a singleton that was created after the last change of the connection. -/
theorem restored_iff (ops : List ProcessOp) :
    Restored (after ops).connectionManager.events ↔
      CreatedAfterwards (after ops).connectionManager.events := by
  have hposted := (coherent_after ops).posted
  constructor
  · intro h newer user session held older hevents hrecovered
    exact (hposted newer user session held older hevents).1
      (h newer user session held older hevents hrecovered)
  · intro h newer user session held older hevents hrecovered
    exact (hposted newer user session held older hevents).2
      (h newer user session held older hevents hrecovered)

/-- A host where nothing fails. -/
def healthy : SessionEnv :=
  { startup :=
      { hostname := []
        createConnection := fun _ => .ok ()
        start := .ok ()
        setExceptionListener := .ok () }
    createSession := .ok ()
    createProducer := fun _ => .ok ()
    closed := [] }

/-- The sender is created, the connection is lost and restored, and an item is posted. -/
def postAfterRecovery : List ProcessOp :=
  [.getSession .statusSender healthy, .onException (.ok ()), .reconnect healthy.startup,
    .callStatus healthy (fun _ =>
      { createBytesMessage := .ok (), createTopic := fun _ => .ok (), send := fun _ _ => .ok () })
      (.createStatusItem { gettimeofday := none, memory := 0 } (str "x") .int),
    .callStatus healthy (fun _ =>
      { createBytesMessage := .ok (), createTopic := fun _ => .ok (), send := fun _ _ => .ok () })
      (.postStatusItem (.error .outOfBounds) (str "x"))]

/-- The item is posted through a session of the connection that was lost. -/
theorem stale_session_posts :
    ¬ Restored (after postAfterRecovery).connectionManager.events := by
  intro h
  have hstale := h [] .statusSender { connection := 0 } (some 1) _ rfl (by decide)
  exact absurd hstale (by decide)

end Process

end Giapi
