import GiapiGlue.Lib.Run

set_option autoImplicit false

/-! # Interleaved programs over shared services

A program calls services one at a time and goes on with their answers. A pool of programs shares a store,
which a service reads and changes when it answers; who is answered next, and how, is up to the events of a
run. A *protocol* says which service may be called when. If all programs of a pool follow it, what holds of
the store and of the phases the programs are in is shown once, from the protocol alone; and what a program
ends with is what it ends with alone, given the answers it got. -/

namespace Interleaving

/-- A program: it is done, or calls a service and goes on with the answer. -/
inductive Program (O : Type) (R : O → Type) (α : Type)
  | done (a : α)
  | call (o : O) (k : R o → Program O R α)

/-- The calls a program has made, with their answers. -/
abbrev Trace (O : Type) (R : O → Type) : Type := List (Σ o, R o)

namespace Program

variable {O : Type} {R : O → Type} {α β : Type}

def bind : Program O R α → (α → Program O R β) → Program O R β
  | done a, f => f a
  | call o k, f => call o (fun r => (k r).bind f)

instance : Monad (Program O R) where
  pure := done
  bind := bind

/-- One call. -/
def ask (o : O) : Program O R (R o) := call o done

/-- The program alone, with one answer for each service. -/
def eval (answer : (o : O) → R o) : Program O R α → α
  | done a => a
  | call o k => eval answer (k (answer o))

@[simp] theorem eval_pure (answer : (o : O) → R o) (a : α) :
    eval answer (pure a : Program O R α) = a := rfl

@[simp] theorem eval_ask (answer : (o : O) → R o) (o : O) : eval answer (ask o) = answer o := rfl

@[simp] theorem eval_bind (answer : (o : O) → R o) (p : Program O R α) (f : α → Program O R β) :
    eval answer (p >>= f) = eval answer (f (eval answer p)) := by
  induction p with
  | done a => rfl
  | call o k ih => exact ih (answer o)

/-- After the calls of the trace, `rest` is left of the program. -/
inductive Reaches (p : Program O R α) : Trace O R → Program O R α → Prop
  | start : Reaches p [] p
  | answered {trace : Trace O R} {o : O} {k : R o → Program O R α} (h : Reaches p trace (call o k))
      (r : R o) : Reaches p (trace ++ [⟨o, r⟩]) (k r)

/-- **What a program ends with depends on the answers it got, and on nothing else.** -/
theorem eval_of_reaches {answer : (o : O) → R o} {p rest : Program O R α} {trace : Trace O R}
    (h : Reaches p trace rest) (hanswer : ∀ c ∈ trace, answer c.1 = c.2) :
    eval answer p = eval answer rest := by
  induction h with
  | start => rfl
  | @answered trace o k h r ih =>
      have hr : answer o = r := hanswer ⟨o, r⟩ (by simp)
      have hbefore := ih fun c hc => hanswer c (List.mem_append_left _ hc)
      rw [hbefore, ← hr]
      rfl

end Program

/-! ## Protocols -/

/-- Which service may be called in which phase, and the phase an answer leads to. -/
structure Protocol (O : Type) (R : O → Type) where
  Phase : Type
  initial : Phase
  allowed : Phase → O → Prop
  next : Phase → (o : O) → R o → Phase

namespace Protocol

variable {O : Type} {R : O → Type} {α β : Type} (P : Protocol O R)

/-- From this phase on the program makes allowed calls only, and ends as `Q` says. -/
def Follows : P.Phase → Program O R α → (P.Phase → α → Prop) → Prop
  | phase, .done a, Q => Q phase a
  | phase, .call o k, Q => P.allowed phase o ∧ ∀ r, Follows (P.next phase o r) (k r) Q

/-- The phase after a trace. -/
def phase (trace : Trace O R) : P.Phase := trace.foldl (fun phase c => P.next phase c.1 c.2) P.initial

variable {P}

@[simp] theorem phase_nil : P.phase [] = P.initial := rfl

@[simp] theorem phase_concat (trace : Trace O R) (c : Σ o, R o) :
    P.phase (trace ++ [c]) = P.next (P.phase trace) c.1 c.2 := by
  simp [phase]

/-- **Sequence rule.** -/
theorem follows_bind {phase : P.Phase} {p : Program O R α} {f : α → Program O R β}
    {Q : P.Phase → α → Prop} {Q' : P.Phase → β → Prop} (hp : P.Follows phase p Q)
    (hf : ∀ phase a, Q phase a → P.Follows phase (f a) Q') : P.Follows phase (p >>= f) Q' := by
  induction p generalizing phase with
  | done a => exact hf phase a hp
  | call o k ih => exact ⟨hp.1, fun r => ih r (hp.2 r)⟩

theorem follows_mono {phase : P.Phase} {p : Program O R α} {Q Q' : P.Phase → α → Prop}
    (hp : P.Follows phase p Q) (hQ : ∀ phase a, Q phase a → Q' phase a) : P.Follows phase p Q' := by
  induction p generalizing phase with
  | done a => exact hQ phase a hp
  | call o k ih => exact ⟨hp.1, fun r => ih r (hp.2 r)⟩

/-- All calls of the trace were allowed. -/
def Legal (P : Protocol O R) (trace : Trace O R) : Prop :=
  ∀ before c, before ++ [c] <+: trace → P.allowed (P.phase before) c.1

theorem legal_concat {trace : Trace O R} {c : Σ o, R o} :
    P.Legal (trace ++ [c]) ↔ P.Legal trace ∧ P.allowed (P.phase trace) c.1 := by
  constructor
  · intro h
    exact ⟨fun before d hd => h before d (hd.trans (List.prefix_append _ _)), h trace c (List.prefix_refl _)⟩
  · rintro ⟨htrace, hc⟩ before d hd
    rcases List.prefix_concat_iff.1 hd with heq | hd
    · obtain ⟨rfl, hdc⟩ := List.append_inj' heq rfl
      rw [List.singleton_inj.1 hdc]
      exact hc
    · exact htrace before d hd

/-- A program that follows the protocol makes legal traces, and goes on following it. -/
theorem legal_of_reaches {p rest : Program O R α} {trace : Trace O R} {Q : P.Phase → α → Prop}
    (hp : P.Follows P.initial p Q) (h : p.Reaches trace rest) :
    P.Legal trace ∧ P.Follows (P.phase trace) rest Q := by
  induction h with
  | start => exact ⟨fun before c hc => absurd hc.length_le (by simp), hp⟩
  | @answered trace o k _ r ih =>
      obtain ⟨hlegal, hallowed, hrest⟩ := ih
      rw [phase_concat]
      exact ⟨legal_concat.2 ⟨hlegal, hallowed⟩, hrest r⟩

end Protocol

/-! ## Pools -/

/-- A program under way. -/
structure Thread (O : Type) (R : O → Type) (α : Type) where
  program : Program O R α
  trace : Trace O R
  rest : Program O R α
  reached : program.Reaches trace rest

/-- How the services answer. `ω` is what may happen when one is called: where it cannot, the caller waits. -/
structure Services (O : Type) (R : O → Type) (σ ω ε : Type) where
  serve : (o : O) → ω → σ → Option (R o × σ)
  /-- What others do to the store. -/
  outside : ε → σ → σ

structure Pool (O : Type) (R : O → Type) (σ α : Type) where
  store : σ
  threads : List (Thread O R α)

inductive Event (O : Type) (R : O → Type) (α ω ε : Type)
  | start (program : Program O R α)
  | advance (i : Nat) (happening : ω)
  | outside (e : ε)

section Pool

variable {O : Type} {R : O → Type} {σ ω ε α : Type}

def Thread.ofProgram (program : Program O R α) : Thread O R α :=
  { program, trace := [], rest := program, reached := .start }

/-- The thread after the answer to the call it is at. -/
def Thread.answered (thread : Thread O R α) {o : O} {k : R o → Program O R α}
    (h : thread.rest = .call o k) (r : R o) : Thread O R α :=
  { program := thread.program
    trace := thread.trace ++ [⟨o, r⟩]
    rest := k r
    reached := .answered (h ▸ thread.reached) r }

namespace Services

variable (S : Services O R σ ω ε)

/-- One call of a thread, if it has one to make and the service answers. -/
def advance (happening : ω) (thread : Thread O R α) (store : σ) : Option (Thread O R α × σ) :=
  match h : thread.rest with
  | .done _ => none
  | .call o _ => (S.serve o happening store).map fun (r, store) => (thread.answered h r, store)

def step (pool : Pool O R σ α) : Event O R α ω ε → Pool O R σ α
  | .start program => { pool with threads := pool.threads ++ [.ofProgram program] }
  | .advance i happening =>
    match pool.threads[i]?.bind (S.advance happening · pool.store) with
    | none => pool
    | some (thread, store) => { store, threads := pool.threads.set i thread }
  | .outside e => { pool with store := S.outside e pool.store }

/-- The pool after a run that starts without threads. -/
def run (store : σ) (events : List (Event O R α ω ε)) : Pool O R σ α :=
  Run.after S.step { store, threads := [] } events

/-- What one event can do. -/
inductive Stepped (pool : Pool O R σ α) : Event O R α ω ε → Pool O R σ α → Prop
  | started (program : Program O R α) :
      Stepped pool (.start program) { pool with threads := pool.threads ++ [.ofProgram program] }
  | waited (i : Nat) (happening : ω) : Stepped pool (.advance i happening) pool
  | served (i : Nat) (happening : ω) (thread : Thread O R α) (hi : pool.threads[i]? = some thread) {o : O}
      {k : R o → Program O R α} (hrest : thread.rest = .call o k) {r : R o} {store : σ}
      (hserve : S.serve o happening pool.store = some (r, store)) :
      Stepped pool (.advance i happening)
        { store, threads := pool.threads.set i (thread.answered hrest r) }
  | outside (e : ε) : Stepped pool (.outside e) { pool with store := S.outside e pool.store }

theorem advance_eq_some {happening : ω} {thread thread' : Thread O R α} {store store' : σ}
    (h : S.advance happening thread store = some (thread', store')) :
    ∃ (o : O) (k : R o → Program O R α) (hrest : thread.rest = .call o k) (r : R o),
      S.serve o happening store = some (r, store') ∧ thread' = thread.answered hrest r := by
  unfold advance at h
  split at h
  · cases h
  · next o k hrest =>
      obtain ⟨⟨r, store₁⟩, hserve, heq⟩ := Option.map_eq_some_iff.1 h
      obtain ⟨rfl, rfl⟩ := Prod.mk.inj heq
      exact ⟨o, k, hrest, r, hserve, rfl⟩

theorem step_stepped (pool : Pool O R σ α) (event : Event O R α ω ε) :
    S.Stepped pool event (S.step pool event) := by
  cases event with
  | start program => exact .started program
  | outside e => exact .outside e
  | advance i happening =>
      rw [step]
      split
      · exact .waited i happening
      · next thread' store' h =>
          obtain ⟨thread, hi, hadvance⟩ := Option.bind_eq_some_iff.1 h
          obtain ⟨o, k, hrest, r, hserve, rfl⟩ := S.advance_eq_some hadvance
          exact .served i happening thread hi hrest hserve

end Services

/-- All programs that are started follow the protocol. -/
def Protocol.Obeyed (P : Protocol O R) (events : List (Event O R α ω ε)) : Prop :=
  ∀ program, .start program ∈ events → P.Follows P.initial program fun _ _ => True

/-- The phases the threads of a pool are in. -/
def Protocol.phases (P : Protocol O R) (pool : Pool O R σ α) : List P.Phase :=
  pool.threads.map fun thread => P.phase thread.trace

/-- `J` holds of the store and of the phases whatever programs that follow the protocol do. -/
structure Protocol.Keeps (P : Protocol O R) (S : Services O R σ ω ε) (J : σ → List P.Phase → Prop) : Prop where
  start : ∀ store phases, J store phases → J store (phases ++ [P.initial])
  serve : ∀ store phases i phase o happening r store', J store phases → phases[i]? = some phase →
    P.allowed phase o → S.serve o happening store = some (r, store') →
      J store' (phases.set i (P.next phase o r))
  outside : ∀ store phases e, J store phases → J (S.outside e store) phases

/-- The threads of a pool run programs that were started. -/
theorem started_of_mem (S : Services O R σ ω ε) (store : σ) (events : List (Event O R α ω ε)) :
    ∀ thread ∈ (S.run store events).threads, .start thread.program ∈ events := by
  induction events using List.reverseRecOn with
  | nil => exact fun thread h => absurd h List.not_mem_nil
  | append_singleton events event ih =>
      have hstepped := S.step_stepped (S.run store events) event
      rw [Services.run, Run.after_concat]
      change S.Stepped (S.run store events) event (S.step (S.run store events) event) at hstepped
      intro thread hthread
      change thread ∈ (S.step (S.run store events) event).threads at hthread
      generalize S.step (S.run store events) event = pool' at hstepped hthread
      cases hstepped with
      | started program =>
          rcases List.mem_append.1 hthread with hthread | hthread
          · exact List.mem_append_left _ (ih thread hthread)
          · rw [List.mem_singleton.1 hthread]
            simp [Thread.ofProgram]
      | waited i happening => exact List.mem_append_left _ (ih thread hthread)
      | served i happening old hi hrest hserve =>
          rcases List.mem_or_eq_of_mem_set hthread with hthread | rfl
          · exact List.mem_append_left _ (ih thread hthread)
          · exact List.mem_append_left _ (ih old (List.mem_of_getElem? hi))
      | outside e => exact List.mem_append_left _ (ih thread hthread)

/-- **Pool rule.** What a protocol keeps holds after every run of programs that follow it. -/
theorem Protocol.Keeps.after {P : Protocol O R} {S : Services O R σ ω ε} {J : σ → List P.Phase → Prop}
    (hJ : P.Keeps S J) {store : σ} (hinit : J store []) {events : List (Event O R α ω ε)}
    (hobeyed : P.Obeyed events) : J (S.run store events).store (P.phases (S.run store events)) := by
  induction events using List.reverseRecOn with
  | nil => exact hinit
  | append_singleton events event ih =>
      have hobeyed' : P.Obeyed events := fun program h => hobeyed program (List.mem_append_left _ h)
      have hbefore := ih hobeyed'
      have hstarted := started_of_mem S store events
      have hrun : S.run store (events ++ [event]) = S.step (S.run store events) event :=
        Run.after_concat S.step _ events event
      rw [hrun]
      generalize S.run store events = pool at hbefore hstarted
      have hstepped := S.step_stepped pool event
      generalize S.step pool event = pool' at hstepped
      cases hstepped with
      | started program =>
          have hphases := hJ.start _ _ hbefore
          simpa [Protocol.phases, Thread.ofProgram] using hphases
      | waited i happening => exact hbefore
      | served i happening thread hi hrest hserve =>
          have hmem := List.mem_of_getElem? hi
          obtain ⟨-, hfollows⟩ :=
            Protocol.legal_of_reaches (hobeyed' _ (hstarted thread hmem)) thread.reached
          rw [hrest] at hfollows
          have hphase : (P.phases pool)[i]? = some (P.phase thread.trace) := by
            simp [Protocol.phases, hi]
          have hserved := hJ.serve _ _ i _ _ happening _ _ hbefore hphase hfollows.1 hserve
          simpa [Protocol.phases, Thread.answered, List.map_set] using hserved
      | outside e => exact hJ.outside _ _ e hbefore

/-- The trace of a thread of such a run is legal. -/
theorem Protocol.Obeyed.legal {P : Protocol O R} {S : Services O R σ ω ε} {store : σ}
    {events : List (Event O R α ω ε)} (hobeyed : P.Obeyed events) {thread : Thread O R α}
    (h : thread ∈ (S.run store events).threads) : P.Legal thread.trace :=
  (Protocol.legal_of_reaches (hobeyed _ (started_of_mem S store events thread h)) thread.reached).1

end Pool

end Interleaving
