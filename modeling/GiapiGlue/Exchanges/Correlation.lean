import GiapiGlue.Exchanges.Calls
import GiapiGlue.Exchanges.Routing
import GiapiGlue.Exchanges.SideBySide

set_option autoImplicit false

/-! # Replies reach the exchange that asked

In every interleaving of exchanges that wait for their replies, of the calls they make and of the answers of
the servers, an exchange that is over ended as it would have alone, given the answers it got, and what it
received is the first answer to its own request. A temporary queue belongs to one exchange, and is left behind
only by one that is not over, or one of whose calls threw. -/

namespace Giapi

open Interleaving

/-! ## What is asked -/

namespace JmsTcsFetcher

def asking (ctx : TcsContext) (timeout : Int) : Asking (Status × TcsContext) :=
  { timeout, decode := decode ctx, failure }

/-- Alone, the program is `fetch`. -/
theorem eval_asking (env : FetchEnv) (ctx : TcsContext) (timeout : Int) (queue : Nat) :
    (asking ctx timeout).program.eval ((steps env).answer queue) = (fetch env ctx timeout).result :=
  Asking.eval_program _ _ queue

end JmsTcsFetcher

namespace JmsEpicsFetcher

def asking (timeout : Int) : Asking (Option EpicsStatusItem) :=
  { timeout, decode := fun reply => JmsApplyOffset.lift (decode reply), failure }

/-- Alone, the program is `getChannel`. -/
theorem eval_asking (env : FetchEnv) (name : CxxString) (timeout : Int) (queue : Nat) :
    (asking timeout).program.eval ((steps env name).answer queue)
      = (exchangeChannel env name timeout).result :=
  Asking.eval_program _ _ queue

end JmsEpicsFetcher

namespace RequestProducer

def asking (key : CxxString) (timeout : Int) : Asking CxxString :=
  { timeout, decode := decode key, failure }

/-- Alone, the program is `getProperty`. -/
theorem eval_asking (env : PropertyEnv) (key : CxxString) (timeout : Int) (queue : Nat) :
    (asking key timeout).program.eval ((steps env key).answer queue) = (getProperty env key timeout).result :=
  Asking.eval_program _ _ queue

end RequestProducer

namespace JmsApplyOffset

def asking (timeout : Int) : Asking CInt :=
  { timeout, decode, failure }

/-- Alone, the program is `sendOffset` where it waits for the reply. -/
theorem eval_asking (env : OffsetEnv) (instName : CxxString) (p q : CDouble) (offsetType : OffsetType)
    (timeout : Int) (queue : Nat) :
    (asking timeout).program.eval ((steps env instName p q offsetType).answer queue)
      = (exchangeOffset env instName p q offsetType timeout false).result :=
  Asking.eval_program _ _ queue

end JmsApplyOffset

/-! ## Runs of exchanges -/

/-- A run of exchanges over the broker, from before the first of them. -/
abbrev ExchangeEvent (α : Type) : Type :=
  Event ExchangeStep ExchangeStep.Returns (Except Escape α) Broker.Happening (Nat × Message)

abbrev ExchangePool (α : Type) : Type :=
  Pool ExchangeStep ExchangeStep.Returns Broker (Except Escape α)

abbrev ExchangeThread (α : Type) : Type := Thread ExchangeStep ExchangeStep.Returns (Except Escape α)

def phasesOf {α : Type} (pool : ExchangePool α) : List ExchangePhase :=
  pool.threads.map fun thread => phaseOf thread.trace

/-- All that is started are exchanges. -/
def StartsExchanges {α : Type} (events : List (ExchangeEvent α)) : Prop :=
  ∀ program, .start program ∈ events → ∃ asking : Asking α, program = asking.program

/-- The request with number `n` was sent by the thread with number `i`. -/
def SentBy {α : Type} (pool : ExchangePool α) (i n : Nat) : Prop :=
  ∃ thread queue, pool.threads[i]? = some thread ∧ pool.store.requests[n]? = some queue ∧
    ∃ r, ⟨.dispatch queue, r⟩ ∈ thread.trace

/-- The thread sent this request, no other thread did, and it sent no other. -/
structure OwnRequest {α : Type} (pool : ExchangePool α) (i n : Nat) : Prop where
  sent : SentBy pool i n
  noOther : ∀ j, SentBy pool j n → j = i
  only : ∀ m, SentBy pool i m → m = n

/-- Of all answers to the request with number `n`, `reply` came first. -/
def Broker.FirstAnswer (broker : Broker) (n : Nat) (reply : Message) : Prop :=
  (broker.answers.filter fun request => request.1 = n).head? = some (n, reply)

/-- The pool after a run. -/
def exchangesAfter {α : Type} (events : List (ExchangeEvent α)) : ExchangePool α :=
  Broker.services.run Broker.empty events

section Runs

variable {α : Type} {events : List (ExchangeEvent α)}

theorem StartsExchanges.obeyed (h : StartsExchanges events) : exchangeProtocol.Obeyed events := by
  intro program hprogram
  obtain ⟨asking, rfl⟩ := h program hprogram
  exact Protocol.follows_mono asking.follows fun _ _ _ => trivial

theorem StartsExchanges.routed (h : StartsExchanges events) :
    Routed (exchangesAfter events).store (phasesOf (exchangesAfter events)) :=
  routed_keeps.after Routed.empty h.obeyed

theorem StartsExchanges.legal (h : StartsExchanges events) {i : Nat}
    {thread : ExchangeThread α}
    (hi : (exchangesAfter events).threads[i]? = some thread) : exchangeProtocol.Legal thread.trace :=
  h.obeyed.legal (List.mem_of_getElem? hi)

/-- A thread owns the queue its trace says it created. -/
theorem owns_of_thread {i : Nat} {thread : ExchangeThread α}
    (hi : (exchangesAfter events).threads[i]? = some thread) {queue : Nat}
    (hqueue : (phaseOf thread.trace).queue = some queue) :
    Owns (phasesOf (exchangesAfter events)) i (phaseOf thread.trace) queue :=
  ⟨by simp [phasesOf, hi], hqueue⟩

theorem thread_of_owns {i queue : Nat} {phase : ExchangePhase}
    (h : Owns (phasesOf (exchangesAfter events)) i phase queue) :
    ∃ thread, (exchangesAfter events).threads[i]? = some thread ∧ phase = phaseOf thread.trace := by
  have hphase := h.1
  rw [phasesOf, List.getElem?_map, Option.map_eq_some_iff] at hphase
  obtain ⟨thread, hthread, rfl⟩ := hphase
  exact ⟨thread, hthread, rfl⟩

/-- The sender of a request owns the queue it names. -/
theorem owns_of_sentBy (h : StartsExchanges events) {i n : Nat} (hsent : SentBy (exchangesAfter events) i n)
    {queue : Nat} (hrequest : (exchangesAfter events).store.requests[n]? = some queue) :
    ∃ thread, (exchangesAfter events).threads[i]? = some thread ∧
      Owns (phasesOf (exchangesAfter events)) i (phaseOf thread.trace) queue := by
  obtain ⟨thread, q, hi, hq, r, hdispatch⟩ := hsent
  obtain rfl : queue = q := Option.some.inj (hrequest.symm.trans hq)
  exact ⟨thread, hi, owns_of_thread hi (queue_of_mem (h.legal hi) hdispatch rfl)⟩

/-- The request that names the queue of a thread is that thread's own. -/
theorem ownRequest_of_owns (h : StartsExchanges events) {i n queue : Nat} {phase : ExchangePhase}
    (hown : Owns (phasesOf (exchangesAfter events)) i phase queue)
    (hrequest : (exchangesAfter events).store.requests[n]? = some queue) :
    OwnRequest (exchangesAfter events) i n := by
  have hrouted := h.routed
  constructor
  · obtain ⟨j, other, hother, hdispatched, -⟩ :=
      hrouted.requests.sent queue (List.mem_of_getElem? hrequest)
    obtain rfl := hrouted.owners.unique hown hother
    obtain ⟨thread, hi, rfl⟩ := thread_of_owns hother
    obtain ⟨c, hc, hdispatch⟩ := (dispatched_iff thread.trace).1 hdispatched
    obtain ⟨step, r⟩ := c
    cases step with
    | dispatch q =>
        have hq := queue_of_mem (h.legal hi) hc rfl
        obtain rfl : queue = q := Option.some.inj (hother.2.symm.trans hq)
        exact ⟨thread, queue, hi, hrequest, r, hc⟩
    | _ => cases hdispatch
  · intro j hsent
    obtain ⟨thread, -, hown'⟩ := owns_of_sentBy h hsent hrequest
    exact hrouted.owners.unique hown' hown
  · intro m hsent
    obtain ⟨-, q, -, hq, -⟩ := id hsent
    obtain ⟨thread, hi, hown'⟩ := owns_of_sentBy h hsent hq
    -- both requests name the one queue of the thread
    obtain rfl : phase = phaseOf thread.trace := Option.some.inj (hown.1.symm.trans hown'.1)
    obtain rfl : queue = q := Option.some.inj (hown.2.symm.trans hown'.2)
    obtain ⟨hn, hnget⟩ := List.getElem?_eq_some_iff.1 hrequest
    obtain ⟨hm, hmget⟩ := List.getElem?_eq_some_iff.1 hq
    exact (hrouted.requests.once.getElem_inj_iff).1 (hmget.trans hnget.symm)

/-- What a thread received is the first answer to its own request. -/
theorem first_answer (h : StartsExchanges events) {i : Nat} {thread : ExchangeThread α}
    (hi : (exchangesAfter events).threads[i]? = some thread) {reply : Message}
    (hreply : (phaseOf thread.trace).reply = some reply) :
    ∃ n, OwnRequest (exchangesAfter events) i n ∧ (exchangesAfter events).store.FirstAnswer n reply := by
  have hrouted := h.routed
  have hphase : (phasesOf (exchangesAfter events))[i]? = some (phaseOf thread.trace) := by
    simp [phasesOf, hi]
  -- it has a queue, for nothing is received without one
  obtain ⟨queue, hqueue⟩ : ∃ queue, (phaseOf thread.trace).queue = some queue := by
    refine Option.ne_none_iff_exists'.1 fun hnone => ?_
    rw [(hrouted.boxes.unqueued hphase hnone).1] at hreply
    cases hreply
  have hown : Owns (phasesOf (exchangesAfter events)) i (phaseOf thread.trace) queue := ⟨hphase, hqueue⟩
  have hbox := List.getElem?_eq_getElem (hrouted.owners.bound hown)
  have hhead := (hrouted.boxes.matched hown hbox).reply reply hreply
  -- what it took first on the queue is what was answered first to it
  obtain ⟨later, hlater⟩ := (hrouted.delivered queue _ hbox).1
  have hfirst : ((exchangesAfter events).store.answersTo queue).head? = some reply := by
    rw [← hlater, List.head?_append, hhead]
    rfl
  rw [Broker.answersTo, List.head?_map, Option.map_eq_some_iff] at hfirst
  obtain ⟨⟨n, reply'⟩, hanswer, rfl⟩ := hfirst
  have hrequest : (exchangesAfter events).store.requests[n]? = some queue := by
    have := (List.mem_filter.1 (List.mem_of_head? hanswer)).2
    simpa using this
  refine ⟨n, ownRequest_of_owns h hown hrequest, ?_⟩
  unfold Broker.FirstAnswer
  rw [← hanswer]
  refine congrArg List.head? (List.filter_congr fun request _ => ?_)
  -- no other request names the queue
  obtain ⟨hn, hnget⟩ := List.getElem?_eq_some_iff.1 hrequest
  refine decide_eq_decide.2 ⟨fun heq => heq ▸ hrequest, fun hother => ?_⟩
  obtain ⟨hm, hmget⟩ := List.getElem?_eq_some_iff.1 hother
  exact (hrouted.requests.once.getElem_inj_iff).1 (hmget.trans hnget.symm)

/-- **Correlation.** However exchanges are interleaved with each other and with the answers of the servers,
    which may be late, repeated or missing: an exchange that is over ended as it would have alone with the
    answers its calls got, and a reply that it received is the first answer to its own request. -/
theorem exchanges_correlated (h : StartsExchanges events) {i : Nat} {thread : ExchangeThread α}
    (hi : (exchangesAfter events).threads[i]? = some thread) :
    ∃ asking : Asking α, thread.program = asking.program
      ∧ (∀ result, thread.rest = .done result → result = (Exchange.blocking
          (ExchangeTrace.steps thread.trace) asking.timeout asking.decode asking.failure).result)
      ∧ ∀ c ∈ thread.trace, ∀ reply, ExchangeAnswer.received c = some reply →
          ∃ n, OwnRequest (exchangesAfter events) i n
            ∧ (exchangesAfter events).store.FirstAnswer n reply := by
  obtain ⟨asking, hprogram⟩ :=
    h thread.program (started_of_mem Broker.services Broker.empty events thread (List.mem_of_getElem? hi))
  have hlegal := h.legal hi
  refine ⟨asking, hprogram, fun result hdone => ?_, fun c hc reply hreceived => ?_⟩
  · have hreached := thread.reached
    rw [hprogram, hdone] at hreached
    exact ExchangeTrace.result_of_done hlegal hreached
  · exact first_answer h hi ((reply_iff hlegal reply).2 ⟨c, hc, hreceived⟩)

/-- Two properties are asked for. The server answers the second request first, and the first one twice; the
    consumer of the second exchange cannot be closed. -/
def propertiesRun : List (ExchangeEvent CxxString) :=
  [.start (RequestProducer.asking (str "a") 0).program, .start (RequestProducer.asking (str "b") 0).program]
    ++ [0, 1, 0, 1, 1, 0, 1, 0, 0, 1].map (fun i => .advance i .succeeds)
    ++ [.outside (1, .textMessage (.ok (str "1"))), .outside (0, .textMessage (.ok (str "2")))]
    ++ [.outside (0, .textMessage (.ok (str "3")))]
    ++ [0, 1, 0, 0].map (fun i => .advance i .succeeds)
    ++ [.advance 1 (.throws (.cmsException (str "closed")) false)]

theorem propertiesRun_startsExchanges : StartsExchanges propertiesRun := by
  intro program hprogram
  have hstarted : program = (RequestProducer.asking (str "a") 0).program ∨
      program = (RequestProducer.asking (str "b") 0).program := by
    simpa [propertiesRun] using hprogram
  rcases hstarted with rfl | rfl
  · exact ⟨_, rfl⟩
  · exact ⟨_, rfl⟩

/-- The first exchange ended with a property, and what it received was the first answer to its request. -/
theorem propertiesRun_correlated : ∃ thread, (exchangesAfter propertiesRun).threads[0]? = some thread
    ∧ (∃ asking : Asking CxxString, thread.program = asking.program
      ∧ .ok (str "2") = (Exchange.blocking (ExchangeTrace.steps thread.trace) asking.timeout
          asking.decode asking.failure).result)
    ∧ ∃ n, OwnRequest (exchangesAfter propertiesRun) 0 n
      ∧ (exchangesAfter propertiesRun).store.FirstAnswer n (.textMessage (.ok (str "2"))) := by
  have hthread : (exchangesAfter propertiesRun).threads[0]?.map (fun thread =>
      (thread.rest, thread.trace[5]?.bind ExchangeAnswer.received))
        = some (.done (.ok (str "2")), some (.textMessage (.ok (str "2")))) := rfl
  obtain ⟨thread, hi, heq⟩ := Option.map_eq_some_iff.1 hthread
  obtain ⟨hdone, hreply⟩ := Prod.mk.inj heq
  obtain ⟨c, hc, hreceived⟩ := Option.bind_eq_some_iff.1 hreply
  obtain ⟨asking, hprogram, hended, hanswers⟩ := exchanges_correlated propertiesRun_startsExchanges hi
  exact ⟨thread, hi, ⟨asking, hprogram, hended _ hdone⟩,
    hanswers c (List.mem_of_getElem? hc) _ hreceived⟩

/-- **Queues left behind.** One thread created a temporary queue, and no other did; the queue exists precisely as
    long as that thread has not destroyed it; and if it still exists when the thread is over, one of the calls
    of the thread threw. -/
theorem queues_left_behind (h : StartsExchanges events) {queue : Nat} {box : Mailbox}
    (hbox : (exchangesAfter events).store.queues[queue]? = some box) :
    ∃ (i : Nat) (thread : ExchangeThread α), (exchangesAfter events).threads[i]? = some thread
      ∧ (∃ c ∈ thread.trace, ExchangeAnswer.created c = some queue)
      ∧ (∀ j other, (exchangesAfter events).threads[j]? = some other →
          (∃ c ∈ other.trace, ExchangeAnswer.created c = some queue) → j = i)
      ∧ (box.live = true ↔ ∀ c ∈ thread.trace, ExchangeAnswer.destroyed c = false)
      ∧ (box.live = true → (∃ step k, thread.rest = .call step k)
          ∨ ∃ c ∈ thread.trace, ExchangeAnswer.threw c = true) := by
  have hrouted := h.routed
  obtain ⟨i, phase, hown⟩ := hrouted.owners.owned queue (ObjectHeap.lt_of_getElem? hbox)
  obtain ⟨thread, hi, rfl⟩ := thread_of_owns hown
  have hlive := (hrouted.boxes.matched hown hbox).live
  refine ⟨i, thread, hi, (queue_iff (h.legal hi) queue).1 hown.2, fun j other hj hcreated => ?_, ?_,
    fun hexists => ?_⟩
  · exact hrouted.owners.unique (owns_of_thread hj ((queue_iff (h.legal hj) queue).2 hcreated)) hown
  · have hdestroyed := destroyed_iff thread.trace
    rw [hlive, Bool.not_eq_true', ← Bool.not_eq_true, hdestroyed]
    constructor
    · intro hnone c hc
      exact Bool.eq_false_iff.2 fun hc' => hnone ⟨c, hc, hc'⟩
    · rintro hnone ⟨c, hc, hc'⟩
      exact Bool.eq_false_iff.1 (hnone c hc) hc'
  · -- an exchange that is over has destroyed its queue, or a call of it threw
    cases hrest : thread.rest with
    | call step k => exact Or.inl ⟨step, k, rfl⟩
    | done result =>
        refine Or.inr ((threw_iff thread.trace).1 ?_)
        obtain ⟨asking, hprogram⟩ := h thread.program
          (started_of_mem Broker.services Broker.empty events thread (List.mem_of_getElem? hi))
        have hfollows := (Protocol.legal_of_reaches (hprogram ▸ asking.follows) thread.reached).2
        rw [hrest] at hfollows
        rcases hfollows with hdestroyed | hthrew
        · have hfalse : (phaseOf thread.trace).destroyed = true := hdestroyed
          rw [hlive, hfalse] at hexists
          cases hexists
        · exact hthrew

/-- The queue of the second exchange is left behind: its consumer could not be closed. -/
theorem propertiesRun_queue_left_behind :
    ∃ box, (exchangesAfter propertiesRun).store.queues[0]? = some box ∧ box.live = true
      ∧ ∃ (i : Nat) (thread : ExchangeThread CxxString),
        (exchangesAfter propertiesRun).threads[i]? = some thread
          ∧ (∃ c ∈ thread.trace, ExchangeAnswer.created c = some 0)
          ∧ (∀ j other, (exchangesAfter propertiesRun).threads[j]? = some other →
              (∃ c ∈ other.trace, ExchangeAnswer.created c = some 0) → j = i)
          ∧ (box.live = true ↔ ∀ c ∈ thread.trace, ExchangeAnswer.destroyed c = false)
          ∧ (box.live = true → (∃ step k, thread.rest = .call step k)
              ∨ ∃ c ∈ thread.trace, ExchangeAnswer.threw c = true) :=
  ⟨_, rfl, rfl, queues_left_behind propertiesRun_startsExchanges rfl⟩

end Runs

end Giapi
