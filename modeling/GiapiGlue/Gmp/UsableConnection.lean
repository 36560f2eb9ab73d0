import GiapiGlue.Gmp.ConnectionManager

set_option autoImplicit false

/-! # Which connections are handed out

`Instance()` and the loop of `onException` ask whether `_connection` is null, and nothing else. A startup
that fails after it has set `_connection`, and a `stop` that throws before it is reset, leave a connection
that passes this test. -/

namespace Giapi

namespace ConnectionManager

/-- The connection that is held is ready. -/
def Usable (manager : ConnectionManager) : Prop :=
  ∃ p connection, manager.connection = some p ∧ manager.connections[p]? = some connection ∧
    connection.Ready

/-- An `Instance()` that returns now, whatever it meets, leaves a usable connection. -/
def HandsOutUsable (manager : ConnectionManager) : Prop :=
  ∀ env, (manager.getInstance env).1 = .ok () → (manager.getInstance env).2.Usable

/-- Nothing is held, or something that is ready. -/
def Sound (manager : ConnectionManager) : Prop := manager.connection ≠ none → manager.Usable

/-- The call does not stop halfway: a startup it makes either gets no connection or gets it ready, and
    the connection it drops can be stopped. -/
def NothingHalfway (manager : ConnectionManager) : GmpOp → Prop
  | .getInstance env => manager.connection = none → ¬ env.Halfway
  | .registerOperation env _ => manager.connection = none → ¬ env.Halfway
  | .registerHandler env _ => manager.connection = none → ¬ env.Halfway
  | .onException stop => manager.connection ≠ none → stop = .ok ()
  | .reconnect env => manager.reconnecting ≠ 0 → ¬ env.Halfway

section

variable {m m' : ConnectionManager}

theorem sound_congr (hconnection : m'.connection = m.connection)
    (hconnections : m'.connections = m.connections) : m'.Sound ↔ m.Sound := by
  unfold Sound Usable
  rw [hconnection, hconnections]

theorem usable_installed_iff (connection : Connection) :
    (m.installed connection).Usable ↔ connection.Ready := by
  have hread : (m.installed connection).connections[m.connections.length]? = some connection := by
    show (m.connections ++ [connection])[m.connections.length]? = _
    rw [ObjectHeap.getElem?_alloc, if_pos rfl]
  constructor
  · intro h
    obtain ⟨p, c, hp, hc, hready⟩ := h
    obtain rfl : m.connections.length = p := Option.some.inj hp
    obtain rfl : connection = c := Option.some.inj (hread.symm.trans hc)
    exact hready
  · intro h
    exact ⟨_, connection, rfl, hread, h⟩

theorem sound_installed_iff (connection : Connection) :
    (m.installed connection).Sound ↔ connection.Ready := by
  rw [← usable_installed_iff (m := m)]
  exact forall_prop_of_true (by simp [installed])

theorem sound_of_connects {env : StartupEnv} {r : Except Exn Unit × ConnectionManager} (h : m.Sound)
    (hconnects : Connects env m r) : r.2.Sound ↔ ¬ env.Halfway := by
  cases hconnects with
  | refused e hhalfway => exact iff_of_true h hhalfway
  | halfway e connection hhalfway hready =>
      exact iff_of_false (fun hs => hready ((sound_installed_iff connection).1 hs)) (fun hn => hn hhalfway)
  | connected connection hhalfway hready =>
      exact iff_of_true ((sound_installed_iff connection).2 hready) hhalfway

/-- A startup that returns has made a usable connection. -/
theorem usable_of_connects {env : StartupEnv} {r : Except Exn Unit × ConnectionManager}
    (hconnects : Connects env m r) (hok : r.1 = .ok ()) : r.2.Usable := by
  cases hconnects with
  | refused e _ => exact absurd hok (by simp)
  | halfway e _ _ _ => exact absurd hok (by simp)
  | connected connection _ hready => exact (usable_installed_iff connection).2 hready

theorem handsOutUsable_iff : m.HandsOutUsable ↔ m.Sound := by
  unfold HandsOutUsable Sound getInstance
  constructor
  · intro h hheld
    obtain ⟨p, hp⟩ := Option.ne_none_iff_exists'.1 hheld
    rw [hp] at h
    -- any environment will do, since nothing is asked of it
    let env : StartupEnv :=
      { hostname := []
        createConnection := fun _ => .ok ()
        start := .ok ()
        setExceptionListener := .ok () }
    exact h env rfl
  · intro h env hok
    cases hp : m.connection with
    | some p => exact h (by simp [hp])
    | none =>
        rw [hp] at hok
        exact usable_of_connects (startup_connects env m) hok

/-! ## One call -/

theorem sound_getInstance_iff (h : m.Sound) (env : StartupEnv) :
    (m.getInstance env).2.Sound ↔ (m.connection = none → ¬ env.Halfway) := by
  unfold getInstance
  cases hp : m.connection with
  | some p => exact iff_of_true h (fun hnone => absurd hnone (by simp))
  | none =>
      rw [forall_prop_of_true rfl]
      exact sound_of_connects h (startup_connects env m)

/-- Registering a handler does not concern the connection. -/
theorem sound_onInstance_iff (h : m.Sound) (env : StartupEnv)
    {method : ConnectionManager → ConnectionManager}
    (hconnection : ∀ m, (method m).connection = m.connection)
    (hconnections : ∀ m, (method m).connections = m.connections) :
    (m.onInstance env method).2.Sound ↔ (m.connection = none → ¬ env.Halfway) := by
  rw [← sound_getInstance_iff h env]
  unfold onInstance
  split
  · next heq => rw [heq]
  · next heq =>
      rw [heq]
      exact sound_congr (hconnection _) (hconnections _)

theorem sound_enterOnException_iff (h : m.Sound) (stop : Except Exn Unit) :
    (m.enterOnException stop).2.Sound ↔ (m.connection ≠ none → stop = .ok ()) := by
  unfold enterOnException onConnection
  cases hp : m.connection with
  | none => simp [Sound, hp]
  | some p =>
      obtain ⟨q, connection, hq, hread, -⟩ := h (by simp [hp])
      obtain rfl : p = q := Option.some.inj (hp.symm.trans hq)
      cases stop with
      | ok u => simp [Sound]
      | error e =>
          -- the connection stays, and has been reported as lost
          refine iff_of_false (fun hsound => ?_) (fun hstop => absurd (hstop (by simp)) (by simp))
          obtain ⟨r, c, hr, hc, hready⟩ := hsound (by simp)
          obtain rfl : p = r := Option.some.inj hr
          have hc' : (m.connections.modify p
              fun connection => { connection with broken := true })[p]? = some c := hc
          rw [List.getElem?_modify_eq, hread] at hc'
          rw [← Option.some.inj hc'] at hready
          exact absurd hready.2.2 (by simp)

theorem sound_reconnect_iff (h : m.Sound) (env : StartupEnv) :
    (m.reconnect env).Sound ↔ (m.reconnecting ≠ 0 → ¬ env.Halfway) := by
  have hstartup := sound_of_connects h (startup_connects env m)
  unfold reconnect
  by_cases hnone : m.reconnecting = 0
  · -- no thread is in the loop
    rw [if_pos hnone]
    exact iff_of_true h (fun hsome => absurd hnone hsome)
  · rw [if_neg hnone, forall_prop_of_true hnone, ← hstartup]
    split
    · next heq => rw [heq]
    · next heq =>
        rw [heq]
        exact sound_congr rfl rfl
    · next heq =>
        rw [heq]
        exact sound_congr rfl rfl

theorem handsOutUsable_step_iff (op : GmpOp) (h : m.HandsOutUsable) :
    (step m op).HandsOutUsable ↔ m.NothingHalfway op := by
  rw [handsOutUsable_iff] at h ⊢
  cases op with
  | getInstance env => exact sound_getInstance_iff h env
  | registerOperation env op => exact sound_onInstance_iff h env (fun _ => rfl) (fun _ => rfl)
  | registerHandler env handler => exact sound_onInstance_iff h env (fun _ => rfl) (fun _ => rfl)
  | onException stop => exact sound_enterOnException_iff h stop
  | reconnect env => exact sound_reconnect_iff h env

end

/-! ## Runs -/

/-- **Usable connections.** In every state of a run an `Instance()` that returns hands out a usable
    connection, precisely if no call of the run stops halfway. -/
theorem handsOutUsable_iff_nothingHalfway (ops : List GmpOp) :
    Run.Always step HandsOutUsable initial ops ↔ Run.Guarded step NothingHalfway initial ops :=
  Run.always_iff_guarded (J := fun _ => True) (fun _ => trivial)
    (handsOutUsable_iff.2 (fun h => absurd rfl h))
    (fun _ op _ h => handsOutUsable_step_iff op h) ops

/-- A broker that accepts the connection and then refuses to start it. -/
def refusedStart : StartupEnv :=
  { hostname := []
    createConnection := fun _ => .ok ()
    start := .error (.cmsException (str "Socket closed"))
    setExceptionListener := .ok () }

/-- The first `Instance()` throws, and the next one hands out a connection that was never started. -/
theorem unstarted_handed_out :
    ¬ Run.Always step HandsOutUsable initial [.getInstance refusedStart] := by
  intro h
  obtain ⟨p, connection, hp, hread, hready⟩ := h.final refusedStart rfl
  obtain rfl : 0 = p := Option.some.inj hp
  obtain rfl : { started := false, listener := false, broken := false } = connection :=
    Option.some.inj hread
  exact absurd hready.1 (by simp)

end ConnectionManager

end Giapi
