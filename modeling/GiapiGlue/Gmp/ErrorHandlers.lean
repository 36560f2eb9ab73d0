import GiapiGlue.Gmp.ConnectionManager

set_option autoImplicit false

/-! # Error handlers

The handlers are kept in two sets, and `onException` goes through both when its loop has ended. Whatever
happens between the turns of the loop, the turn that ends it calls each handler registered by then once,
and nothing else calls one. -/

namespace Giapi

/-- A handler is called. -/
def GmpEvent.invokes : GmpEvent → Bool
  | .operationInvoked _ => true
  | .handlerInvoked _ => true
  | _ => false

namespace ConnectionManager

/-! ## The sets -/

theorem mem_insertPtr (p q : Ptr) (set : List Ptr) : q ∈ insertPtr p set ↔ q = p ∨ q ∈ set := by
  unfold insertPtr
  by_cases hp : p ∈ set
  · rw [if_pos hp, or_iff_right_of_imp]
    rintro rfl
    exact hp
  · rw [if_neg hp, List.mem_orderedInsert]

theorem nodup_insertPtr (p : Ptr) {set : List Ptr} (h : set.Nodup) : (insertPtr p set).Nodup := by
  unfold insertPtr
  by_cases hp : p ∈ set
  · rwa [if_pos hp]
  · rw [if_neg hp, (List.perm_orderedInsert (· ≤ ·) p set).nodup_iff, List.nodup_cons]
    exact ⟨hp, h⟩

/-! ## What a call does -/

/-- The handlers stay what they are, no thread enters the loop, and nothing is recorded but perhaps a
    new connection. -/
structure Quiet (m m' : ConnectionManager) : Prop where
  operations : m'.errorHandlersFunctions = m.errorHandlersFunctions
  handlers : m'.errorHandlerObjects = m.errorHandlerObjects
  reconnecting : m'.reconnecting ≤ m.reconnecting
  events : m'.events = m.events ∨ ∃ p, m'.events = .installed p :: m.events

/-- The call registers the function, and returns. -/
def RegistersOperation (op : Ptr) (m : ConnectionManager) (call : GmpOp) : Prop :=
  ∃ env, call = .registerOperation env op ∧ (m.getInstance env).1 = .ok ()

/-- The call registers the object, and returns. -/
def RegistersHandler (handler : Ptr) (m : ConnectionManager) (call : GmpOp) : Prop :=
  ∃ env, call = .registerHandler env handler ∧ (m.getInstance env).1 = .ok ()

/-- The call is the turn that ends the loop of an `onException`: its startup succeeds. -/
def Completes (m : ConnectionManager) (call : GmpOp) : Prop :=
  ∃ env, call = .reconnect env ∧ m.reconnecting ≠ 0 ∧ (m.startup env).1 = .ok ()

/-- A recovery that ends: the connection, then all functions, then all objects. -/
structure Recovers (m m' : ConnectionManager) : Prop where
  operations : m'.errorHandlersFunctions = m.errorHandlersFunctions
  handlers : m'.errorHandlerObjects = m.errorHandlerObjects
  reconnecting : m'.reconnecting + 1 = m.reconnecting
  events : ∃ p, m'.events = (m.errorHandlersFunctions.map GmpEvent.operationInvoked ++
      m.errorHandlerObjects.map GmpEvent.handlerInvoked).reverse ++
    .recovered :: .installed p :: m.events

/-- All a call can do. -/
inductive Stepped (m : ConnectionManager) (call : GmpOp) : ConnectionManager → Prop
  | quiet {m' : ConnectionManager} (hquiet : Quiet m m')
      (hoperation : ∀ op, ¬ RegistersOperation op m call)
      (hhandler : ∀ handler, ¬ RegistersHandler handler m call) (hcompletes : ¬ Completes m call) :
      Stepped m call m'
  | operation {m' : ConnectionManager} (env : StartupEnv) (op : Ptr) (hquiet : Quiet m m')
      (hcall : call = .registerOperation env op) (hok : (m.getInstance env).1 = .ok ()) :
      Stepped m call (m'.registerOperation op)
  | handler {m' : ConnectionManager} (env : StartupEnv) (handler : Ptr) (hquiet : Quiet m m')
      (hcall : call = .registerHandler env handler) (hok : (m.getInstance env).1 = .ok ()) :
      Stepped m call (m'.registerHandler handler)
  /-- The connection is dropped and the loop begins. -/
  | entered {m' : ConnectionManager} (stop : Except Exn Unit) (hcall : call = .onException stop)
      (hoperations : m'.errorHandlersFunctions = m.errorHandlersFunctions)
      (hhandlers : m'.errorHandlerObjects = m.errorHandlerObjects)
      (hreconnecting : m'.reconnecting = m.reconnecting + 1)
      (hevents : m'.events = .dropped :: m.events) : Stepped m call m'
  | completed {m' : ConnectionManager} (env : StartupEnv) (hcall : call = .reconnect env)
      (hcompletes : Completes m call) (hrecovers : Recovers m m') : Stepped m call m'

section

variable {m : ConnectionManager}

theorem Quiet.refl (m : ConnectionManager) : Quiet m m := ⟨rfl, rfl, Nat.le_refl _, Or.inl rfl⟩

theorem Quiet.invokes_none {m' : ConnectionManager} (h : Quiet m m') :
    ∃ added : List GmpEvent, m'.events = added.reverse ++ m.events ∧
      ∀ event ∈ added, event.invokes = false := by
  rcases h.events with hevents | ⟨p, hevents⟩
  · exact ⟨[], hevents, fun _ hmem => absurd hmem List.not_mem_nil⟩
  · refine ⟨[.installed p], hevents, fun event hmem => ?_⟩
    rw [List.mem_singleton.1 hmem]
    rfl

theorem Quiet.of_connects {env : StartupEnv} {r : Except Exn Unit × ConnectionManager}
    (h : Connects env m r) : Quiet m r.2 := by
  cases h with
  | refused e _ => exact .refl m
  | halfway e connection _ _ => exact ⟨rfl, rfl, Nat.le_refl _, Or.inr ⟨_, rfl⟩⟩
  | connected connection _ _ => exact ⟨rfl, rfl, Nat.le_refl _, Or.inr ⟨_, rfl⟩⟩

theorem quiet_getInstance (env : StartupEnv) (m : ConnectionManager) :
    Quiet m (m.getInstance env).2 := by
  unfold getInstance
  split
  · exact .refl m
  · exact .of_connects (startup_connects env m)

theorem onInstance_snd (env : StartupEnv) (method : ConnectionManager → ConnectionManager)
    (m : ConnectionManager) : (m.onInstance env method).2
      = if (m.getInstance env).1 = .ok () then method (m.getInstance env).2
        else (m.getInstance env).2 := by
  unfold onInstance
  split
  · next heq => rw [heq, if_neg (by simp)]
  · next heq => rw [heq, if_pos rfl]

theorem enterOnException_stepped (stop : Except Exn Unit) (m : ConnectionManager) :
    Stepped m (.onException stop) (m.enterOnException stop).2 := by
  have hkept : ∀ f, Quiet m (m.onConnection f) := by
    intro f
    unfold onConnection
    split
    · exact .refl m
    · exact ⟨rfl, rfl, Nat.le_refl _, Or.inl rfl⟩
  have hevents : ∀ f, (m.onConnection f).events = m.events ∧
      (m.onConnection f).reconnecting = m.reconnecting := by
    intro f
    unfold onConnection
    split <;> exact ⟨rfl, rfl⟩
  unfold enterOnException
  dsimp only
  split
  · refine .quiet (hkept _) ?_ ?_ ?_
    · simp [RegistersOperation]
    · simp [RegistersHandler]
    · simp [Completes]
  · exact .entered stop rfl (hkept _).operations (hkept _).handlers
      (congrArg (· + 1) (hevents _).2) (congrArg (GmpEvent.dropped :: ·) (hevents _).1)

theorem reconnect_stepped (env : StartupEnv) (m : ConnectionManager) :
    Stepped m (.reconnect env) (m.reconnect env) := by
  have hconnects := startup_connects env m
  have hquiet := Quiet.of_connects hconnects
  -- a turn that is not the last registers nothing and calls nothing
  have hturn : ∀ {m' : ConnectionManager}, Quiet m m' → ¬ Completes m (.reconnect env) →
      Stepped m (.reconnect env) m' := fun hq hn =>
    .quiet hq (by simp [RegistersOperation]) (by simp [RegistersHandler]) hn
  unfold reconnect
  by_cases hloop : m.reconnecting = 0
  · rw [if_pos hloop]
    refine hturn (.refl m) fun h => ?_
    obtain ⟨_, _, hne, _⟩ := h
    exact hne hloop
  · rw [if_neg hloop]
    have hfailed : (m.startup env).1 ≠ .ok () → ¬ Completes m (.reconnect env) := by
      intro hne h
      obtain ⟨env', henv, _, hok⟩ := h
      obtain rfl : env = env' := by simpa using henv
      exact hne hok
    split
    · -- another attempt will follow
      next heq =>
        rw [heq] at hquiet hfailed
        exact hturn hquiet (hfailed (by simp))
    · -- the thread leaves the loop with an exception, and no handler is called
      next heq =>
        rw [heq] at hquiet hfailed
        exact hturn ⟨hquiet.operations, hquiet.handlers,
          (Nat.sub_le _ _).trans hquiet.reconnecting, hquiet.events⟩ (hfailed (by simp))
    · next m' heq =>
        refine .completed env rfl ⟨env, rfl, hloop, by rw [heq]⟩ ?_
        rw [heq] at hconnects
        cases hconnects with
        | connected connection _ _ =>
            refine ⟨rfl, rfl, ?_, _, rfl⟩
            show m.reconnecting - 1 + 1 = m.reconnecting
            omega

theorem step_stepped (m : ConnectionManager) (call : GmpOp) : Stepped m call (step m call) := by
  cases call with
  | getInstance env =>
      exact .quiet (quiet_getInstance env m) (by simp [RegistersOperation])
        (by simp [RegistersHandler]) (by simp [Completes])
  | registerOperation env op =>
      rw [step, onInstance_snd]
      by_cases hok : (m.getInstance env).1 = .ok ()
      · rw [if_pos hok]
        exact .operation env op (quiet_getInstance env m) rfl hok
      · rw [if_neg hok]
        exact .quiet (quiet_getInstance env m) (by simp [RegistersOperation, hok])
          (by simp [RegistersHandler]) (by simp [Completes])
  | registerHandler env handler =>
      rw [step, onInstance_snd]
      by_cases hok : (m.getInstance env).1 = .ok ()
      · rw [if_pos hok]
        exact .handler env handler (quiet_getInstance env m) rfl hok
      · rw [if_neg hok]
        exact .quiet (quiet_getInstance env m) (by simp [RegistersOperation])
          (by simp [RegistersHandler, hok]) (by simp [Completes])
  | onException stop => exact enterOnException_stepped stop m
  | reconnect env => exact reconnect_stepped env m

/-! ## One call -/

/-- A registration that returns inserts its handler, and no other call changes a set. -/
theorem Stepped.sets {m' : ConnectionManager} {call : GmpOp} (h : Stepped m call m') :
    (∃ env op, call = .registerOperation env op ∧ (m.getInstance env).1 = .ok () ∧
      m'.errorHandlersFunctions = insertPtr op m.errorHandlersFunctions ∧
      m'.errorHandlerObjects = m.errorHandlerObjects) ∨
    (∃ env handler, call = .registerHandler env handler ∧ (m.getInstance env).1 = .ok () ∧
      m'.errorHandlersFunctions = m.errorHandlersFunctions ∧
      m'.errorHandlerObjects = insertPtr handler m.errorHandlerObjects) ∨
    ((∀ op, ¬ RegistersOperation op m call) ∧ (∀ handler, ¬ RegistersHandler handler m call) ∧
      m'.errorHandlersFunctions = m.errorHandlersFunctions ∧
      m'.errorHandlerObjects = m.errorHandlerObjects) := by
  cases h with
  | quiet hquiet hoperation hhandler _ =>
      exact Or.inr (Or.inr ⟨hoperation, hhandler, hquiet.operations, hquiet.handlers⟩)
  | operation env op hquiet hcall hok =>
      refine Or.inl ⟨env, op, hcall, hok, ?_, hquiet.handlers⟩
      rw [registerOperation, hquiet.operations]
  | handler env handler hquiet hcall hok =>
      refine Or.inr (Or.inl ⟨env, handler, hcall, hok, hquiet.operations, ?_⟩)
      rw [registerHandler, hquiet.handlers]
  | entered stop hcall hoperations hhandlers _ _ =>
      exact Or.inr (Or.inr ⟨by simp [RegistersOperation, hcall], by simp [RegistersHandler, hcall],
        hoperations, hhandlers⟩)
  | completed env hcall _ hrecovers =>
      exact Or.inr (Or.inr ⟨by simp [RegistersOperation, hcall], by simp [RegistersHandler, hcall],
        hrecovers.operations, hrecovers.handlers⟩)

theorem mem_step_operations (op : Ptr) (call : GmpOp) :
    op ∈ (step m call).errorHandlersFunctions ↔
      op ∈ m.errorHandlersFunctions ∨ RegistersOperation op m call := by
  rcases (step_stepped m call).sets with ⟨env, op', hcall, hok, hset, -⟩ |
    ⟨env, handler, hcall, hok, hset, -⟩ | ⟨hnone, -, hset, -⟩
  · have hregisters : RegistersOperation op m call ↔ op = op' := by
      simp [RegistersOperation, hcall, hok, eq_comm]
    rw [hset, hregisters, mem_insertPtr, or_comm]
  · have hregisters : ¬ RegistersOperation op m call := by simp [RegistersOperation, hcall]
    rw [hset, or_iff_left hregisters]
  · rw [hset, or_iff_left (hnone op)]

theorem mem_step_handlers (handler : Ptr) (call : GmpOp) :
    handler ∈ (step m call).errorHandlerObjects ↔
      handler ∈ m.errorHandlerObjects ∨ RegistersHandler handler m call := by
  rcases (step_stepped m call).sets with ⟨env, op, hcall, hok, -, hset⟩ |
    ⟨env, handler', hcall, hok, -, hset⟩ | ⟨-, hnone, -, hset⟩
  · have hregisters : ¬ RegistersHandler handler m call := by simp [RegistersHandler, hcall]
    rw [hset, or_iff_left hregisters]
  · have hregisters : RegistersHandler handler m call ↔ handler = handler' := by
      simp [RegistersHandler, hcall, hok, eq_comm]
    rw [hset, hregisters, mem_insertPtr, or_comm]
  · rw [hset, or_iff_left (hnone handler)]

/-- What holds of a manager whatever happened to it: no handler is kept twice, and every recovery that
    ended, or has not ended yet, began with an `onException` of its own. -/
structure Orderly (m : ConnectionManager) : Prop where
  operations : m.errorHandlersFunctions.Nodup
  handlers : m.errorHandlerObjects.Nodup
  recoveries : m.events.count .recovered + m.reconnecting ≤ m.events.count .dropped

theorem step_nodup (h : Orderly m) (call : GmpOp) :
    (step m call).errorHandlersFunctions.Nodup ∧ (step m call).errorHandlerObjects.Nodup := by
  rcases (step_stepped m call).sets with ⟨env, op, -, -, hfunctions, hobjects⟩ |
    ⟨env, handler, -, -, hfunctions, hobjects⟩ | ⟨-, -, hfunctions, hobjects⟩
  · rw [hfunctions, hobjects]
    exact ⟨nodup_insertPtr op h.operations, h.handlers⟩
  · rw [hfunctions, hobjects]
    exact ⟨h.operations, nodup_insertPtr handler h.handlers⟩
  · rw [hfunctions, hobjects]
    exact ⟨h.operations, h.handlers⟩

theorem Quiet.recoveries {m' : ConnectionManager} (hquiet : Quiet m m') (h : Orderly m) :
    m'.events.count .recovered + m'.reconnecting ≤ m'.events.count .dropped := by
  have hcount : m'.events.count .recovered = m.events.count .recovered ∧
      m'.events.count .dropped = m.events.count .dropped := by
    rcases hquiet.events with heq | ⟨p, heq⟩
    · rw [heq]
      exact ⟨rfl, rfl⟩
    · rw [heq]
      simp
  rw [hcount.1, hcount.2]
  exact (Nat.add_le_add_left hquiet.reconnecting _).trans h.recoveries

/-- The handlers are neither the end of a recovery nor the beginning of one. -/
theorem count_invoked {event : GmpEvent} (h : event.invokes = false) (functions objects : List Ptr) :
    (functions.map GmpEvent.operationInvoked ++ objects.map GmpEvent.handlerInvoked).reverse.count
      event = 0 := by
  rw [List.count_reverse, List.count_eq_zero, List.mem_append, List.mem_map, List.mem_map]
  intro hmem
  rcases hmem with ⟨q, -, rfl⟩ | ⟨q, -, rfl⟩
  · simp [GmpEvent.invokes] at h
  · simp [GmpEvent.invokes] at h

theorem step_orderly (h : Orderly m) (call : GmpOp) : Orderly (step m call) := by
  obtain ⟨hoperations, hhandlers⟩ := step_nodup h call
  refine ⟨hoperations, hhandlers, ?_⟩
  have hbefore := h.recoveries
  have hstepped := step_stepped m call
  generalize step m call = m' at hstepped
  cases hstepped with
  | quiet hquiet _ _ _ => exact hquiet.recoveries h
  | operation env op hquiet _ _ => exact hquiet.recoveries h
  | handler env handler hquiet _ _ => exact hquiet.recoveries h
  | entered stop _ _ _ hreconnecting hevents =>
      simp only [hevents, hreconnecting, List.count_cons_self]
      rw [List.count_cons_of_ne (by simp)]
      omega
  | completed env _ _ hrecovers =>
      -- one thread leaves the loop, and one recovery has ended
      have hreconnecting := hrecovers.reconnecting
      obtain ⟨p, hevents⟩ := hrecovers.events
      have hrecovered := @count_invoked .recovered rfl m.errorHandlersFunctions m.errorHandlerObjects
      have hdropped := @count_invoked .dropped rfl m.errorHandlersFunctions m.errorHandlerObjects
      rw [hevents, List.count_append, List.count_append, hrecovered, hdropped, List.count_cons_self,
        List.count_cons_of_ne (by simp), List.count_cons_of_ne (by simp),
        List.count_cons_of_ne (by simp)]
      omega

end

/-! ## Runs -/

theorem after_orderly (ops : List GmpOp) : Orderly (after ops) :=
  Run.invariant (I := Orderly) (s := initial)
    ⟨List.nodup_nil, List.nodup_nil, Nat.le_of_eq rfl⟩ (fun _ call h => step_orderly h call) ops

/-- The functions that are kept are those of the registrations of the run that returned. -/
theorem mem_after_operations (op : Ptr) (ops : List GmpOp) :
    op ∈ (after ops).errorHandlersFunctions ↔
      Run.Sometime step (RegistersOperation op) initial ops :=
  Run.holds_iff_sometime (Q := fun m : ConnectionManager => op ∈ m.errorHandlersFunctions) List.not_mem_nil
    (fun _ call => mem_step_operations op call) ops

theorem mem_after_handlers (handler : Ptr) (ops : List GmpOp) :
    handler ∈ (after ops).errorHandlerObjects ↔
      Run.Sometime step (RegistersHandler handler) initial ops :=
  Run.holds_iff_sometime (Q := fun m : ConnectionManager => handler ∈ m.errorHandlerObjects) List.not_mem_nil
    (fun _ call => mem_step_handlers handler call) ops

/-- What a completed recovery records: its connection, its end, then each function registered by the run
    before it, each once, and after them each such object, each once. -/
structure NotifiesOnce (ops : List GmpOp) (added : List GmpEvent) (functions objects : List Ptr) :
    Prop where
  events : ∃ p, added = .installed p :: .recovered ::
    (functions.map GmpEvent.operationInvoked ++ objects.map GmpEvent.handlerInvoked)
  functions_nodup : functions.Nodup
  objects_nodup : objects.Nodup
  mem_functions : ∀ op, op ∈ functions ↔ Run.Sometime step (RegistersOperation op) initial ops
  mem_objects : ∀ handler,
    handler ∈ objects ↔ Run.Sometime step (RegistersHandler handler) initial ops

theorem step_notifies (ops : List GmpOp) (call : GmpOp) :
    ∃ added, (step (after ops) call).events = added.reverse ++ (after ops).events ∧
      (Completes (after ops) call → ∃ functions objects, NotifiesOnce ops added functions objects) ∧
      (¬ Completes (after ops) call → ∀ event ∈ added, event.invokes = false) := by
  have hstepped := step_stepped (after ops) call
  generalize step (after ops) call = m' at hstepped
  cases hstepped with
  | quiet hquiet hoperation hhandler hcompletes =>
      obtain ⟨added, hevents, hinvokes⟩ := hquiet.invokes_none
      exact ⟨added, hevents, fun h => absurd h hcompletes, fun _ => hinvokes⟩
  | operation env op hquiet hcall hok =>
      obtain ⟨added, hevents, hinvokes⟩ := hquiet.invokes_none
      exact ⟨added, hevents, fun h => by simp [Completes, hcall] at h, fun _ => hinvokes⟩
  | handler env handler hquiet hcall hok =>
      obtain ⟨added, hevents, hinvokes⟩ := hquiet.invokes_none
      exact ⟨added, hevents, fun h => by simp [Completes, hcall] at h, fun _ => hinvokes⟩
  | entered stop hcall hoperations hhandlers hreconnecting hevents =>
      refine ⟨[.dropped], hevents, fun h => by simp [Completes, hcall] at h, fun _ event h => ?_⟩
      rw [List.mem_singleton.1 h]
      rfl
  | completed env hcall hcompletes hrecovers =>
      obtain ⟨p, hevents⟩ := hrecovers.events
      have horderly := after_orderly ops
      refine ⟨.installed p :: .recovered :: _, ?_, fun _ => ⟨_, _, ⟨p, rfl⟩, horderly.operations,
        horderly.handlers, fun op => mem_after_operations op ops,
        fun handler => mem_after_handlers handler ops⟩, fun h => absurd hcompletes h⟩
      rw [hevents]
      simp

/-- **Notified once.** Whatever the run so far, a call that completes an `onException` invokes each
    handler registered before once, functions before objects and both after the startup that succeeded;
    any other call invokes none; and every completed `onException` is one the run began. -/
theorem handlers_notified_once (ops : List GmpOp) (call : GmpOp) :
    (∃ added, (step (after ops) call).events = added.reverse ++ (after ops).events ∧
      (Completes (after ops) call → ∃ functions objects, NotifiesOnce ops added functions objects) ∧
      (¬ Completes (after ops) call → ∀ event ∈ added, event.invokes = false)) ∧
    (after ops).events.count .recovered + (after ops).reconnecting ≤ (after ops).events.count .dropped :=
  ⟨step_notifies ops call, (after_orderly ops).recoveries⟩

/-- A broker that accepts everything. -/
def workingBroker : StartupEnv :=
  { hostname := []
    createConnection := fun _ => .ok ()
    start := .ok ()
    setExceptionListener := .ok () }

/-- The function at 5 is registered twice, and an attempt to reconnect fails before the one that
    succeeds. -/
theorem registered_twice_notified_once :
    let ops : List GmpOp := [.registerOperation workingBroker 5, .registerHandler workingBroker 7,
      .registerOperation workingBroker 5, .onException (.ok ()),
      .reconnect { workingBroker with
        createConnection := fun _ => .error (.cmsException (str "Connection refused")) }]
    ∃ added functions objects,
      (step (after ops) (.reconnect workingBroker)).events = added.reverse ++ (after ops).events ∧
        NotifiesOnce ops added functions objects := by
  intro ops
  obtain ⟨⟨added, hevents, hcompleted, _⟩, _⟩ := handlers_notified_once ops (.reconnect workingBroker)
  obtain ⟨functions, objects, h⟩ := hcompleted ⟨workingBroker, rfl, by decide, rfl⟩
  exact ⟨added, functions, objects, hevents, h⟩

end ConnectionManager

end Giapi
