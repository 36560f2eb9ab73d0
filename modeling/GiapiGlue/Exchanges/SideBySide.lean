import GiapiGlue.Exchanges.ReplyQueues

set_option autoImplicit false

/-! # Interleaved exchanges are exchanges

The exchanges of a run follow the protocol, so what is known of their phases is known of their traces. From
the trace of an exchange that is over, the environment is read off in which it would have ended alone as it
did. -/

namespace Giapi

open Interleaving

/-! ## Exchanges follow the protocol -/

namespace ExchangePart

variable {α β : Type}

/-- A part that returns leaves a phase as `Q` says; one that throws has made a call that threw. -/
def Follows (phase : ExchangePhase) (part : ExchangePart α) (Q : ExchangePhase → α → Prop) : Prop :=
  exchangeProtocol.Follows phase part.run fun phase' r =>
    match r with
    | .ok a => Q phase' a
    | .error _ => phase'.threw = true

theorem follows_bind {phase : ExchangePhase} {part : ExchangePart α} {f : α → ExchangePart β}
    {Q : ExchangePhase → α → Prop} {Q' : ExchangePhase → β → Prop} (hpart : Follows phase part Q)
    (hf : ∀ phase a, Q phase a → Follows phase (f a) Q') : Follows phase (part >>= f) Q' := by
  unfold Follows
  rw [ExceptT.run_bind]
  refine Protocol.follows_bind hpart fun phase' r h => ?_
  cases r with
  | ok a => exact hf phase' a h
  | error e => exact h

theorem follows_pure {phase : ExchangePhase} {a : α} {Q : ExchangePhase → α → Prop} (h : Q phase a) :
    Follows phase (pure a) Q := h

/-- The phase before a call that may be made. -/
structure Ready (phase : ExchangePhase) (order : Nat) (queue : Option Nat) : Prop where
  asked : phase.asked = order
  queue : phase.queue = queue

theorem Ready.allowed {phase : ExchangePhase} (step : ExchangeStep) {queue : Option Nat}
    (h : Ready phase step.order queue) (hqueue : ∀ q, step.queue = some q → queue = some q) :
    exchangeProtocol.allowed phase step :=
  ⟨h.asked.le, fun q hq => h.queue.trans (hqueue q hq)⟩

theorem follows_sendRequest :
    Follows ExchangePhase.initial ExchangeProgram.sendRequest fun phase q => Ready phase 5 (some q) := by
  have hinitial : Ready ExchangePhase.initial 0 none := ⟨rfl, rfl⟩
  unfold ExchangeProgram.sendRequest
  refine follows_bind (Q := fun phase _ => Ready phase 1 none)
    ⟨Ready.allowed .createMessage hinitial nofun, fun answer => ?_⟩ fun phase _ h => ?_
  · cases answer with
    | ok _ => exact ⟨rfl, rfl⟩
    | error e => exact rfl
  refine follows_bind (Q := fun phase _ => Ready phase 2 none)
    ⟨Ready.allowed .prepare h nofun, fun answer => ?_⟩ fun phase _ h => ?_
  · cases answer with
    | ok _ => exact ⟨rfl, h.queue⟩
    | error e => exact Bool.or_true _
  refine follows_bind (Q := fun phase q => Ready phase 3 (some q))
    ⟨Ready.allowed .createTemporaryQueue h nofun, fun answer => ?_⟩ fun phase q h => ?_
  · cases answer with
    | ok _ => exact ⟨rfl, rfl⟩
    | error e => exact Bool.or_true _
  refine follows_bind (Q := fun phase _ => Ready phase 4 (some q))
    ⟨Ready.allowed (.createConsumer q) h fun _ => id, fun answer => ?_⟩ fun phase _ h => ?_
  · cases answer with
    | ok _ => exact ⟨rfl, h.queue⟩
    | error e => exact Bool.or_true _
  refine follows_bind (Q := fun phase _ => Ready phase 5 (some q))
    ⟨Ready.allowed (.dispatch q) h fun _ => id, fun answer => ?_⟩ fun phase _ h => ?_
  · cases answer with
    | ok _ => exact ⟨rfl, h.queue⟩
    | error e => exact Bool.or_true _
  exact follows_pure h

theorem follows_awaitReply {phase : ExchangePhase} {q : Nat} (h : Ready phase 5 (some q)) (timeout : Int) :
    Follows phase (ExchangeProgram.awaitReply q timeout) fun phase _ => phase.destroyed = true := by
  unfold ExchangeProgram.awaitReply
  refine follows_bind (Q := fun phase _ => Ready phase 6 (some q))
    ⟨Ready.allowed (.receive q _) h fun _ => id, fun answer => ?_⟩ fun phase _ h => ?_
  · cases answer with
    | ok reply => cases reply <;> exact ⟨rfl, h.queue⟩
    | error e => exact Bool.or_true _
  refine follows_bind (Q := fun phase _ => Ready phase 7 (some q))
    ⟨Ready.allowed (.close q) h fun _ => id, fun answer => ?_⟩ fun phase _ h => ?_
  · cases answer with
    | ok _ => exact ⟨rfl, h.queue⟩
    | error e => exact Bool.or_true _
  refine follows_bind (Q := fun phase _ => phase.destroyed = true)
    ⟨Ready.allowed (.destroy q) h fun _ => id, fun answer => ?_⟩ fun phase _ h => ?_
  · cases answer with
    | ok _ => exact rfl
    | error e => exact Bool.or_true _
  exact follows_pure h

end ExchangePart

/-- **An exchange follows the protocol**, and when it is over it has destroyed its queue, or one of its
    calls threw. -/
theorem Asking.follows {α : Type} (asking : Asking α) :
    exchangeProtocol.Follows ExchangePhase.initial asking.program
      fun phase _ => phase.destroyed = true ∨ phase.threw = true := by
  unfold Asking.program
  refine Protocol.follows_bind ExchangePart.follows_sendRequest fun phase r h => ?_
  cases r with
  | error e => exact Or.inr h
  | ok q =>
      refine Protocol.follows_bind (ExchangePart.follows_awaitReply h asking.timeout) fun phase r h => ?_
      cases r with
      | ok reply => exact Or.inl h
      | error e => exact Or.inr h

/-! ## Traces and phases -/

/-- A call with its answer. -/
abbrev ExchangeAnswer : Type := Σ step : ExchangeStep, step.Returns

abbrev ExchangeTrace : Type := List ExchangeAnswer

namespace ExchangeAnswer

/-- The queue a call created. -/
def created : ExchangeAnswer → Option Nat
  | ⟨.createTemporaryQueue, .ok queue⟩ => some queue
  | _ => none

/-- The reply a call received. -/
def received : ExchangeAnswer → Option Message
  | ⟨.receive _ _, .ok (some reply)⟩ => some reply
  | _ => none

def dispatched : ExchangeAnswer → Bool
  | ⟨.dispatch _, _⟩ => true
  | _ => false

def destroyed : ExchangeAnswer → Bool
  | ⟨.destroy _, .ok ()⟩ => true
  | _ => false

def threw (c : ExchangeAnswer) : Bool := c.1.threw c.2

end ExchangeAnswer

/-- What a call changes of the phase. -/
theorem ExchangePhase.next_eq (phase : ExchangePhase) (c : ExchangeAnswer) : phase.next c.1 c.2 =
    { asked := c.1.order + 1
      queue := c.created.or phase.queue
      dispatched := phase.dispatched || c.dispatched
      reply := c.received.or phase.reply
      destroyed := phase.destroyed || c.destroyed
      threw := phase.threw || c.threw } := by
  obtain ⟨step, answer⟩ := c
  cases step with
  | createTemporaryQueue => cases answer <;> simp [next, ExchangeAnswer.created, ExchangeAnswer.received,
      ExchangeAnswer.dispatched, ExchangeAnswer.destroyed, ExchangeAnswer.threw, ExchangeStep.order]
  | receive queue timeout =>
      cases answer with
      | error e => simp [next, ExchangeAnswer.created, ExchangeAnswer.received,
          ExchangeAnswer.dispatched, ExchangeAnswer.destroyed, ExchangeAnswer.threw, ExchangeStep.order]
      | ok reply => cases reply <;> simp [next, ExchangeAnswer.created, ExchangeAnswer.received,
          ExchangeAnswer.dispatched, ExchangeAnswer.destroyed, ExchangeAnswer.threw, ExchangeStep.order]
  | destroy queue => cases answer <;> simp [next, ExchangeAnswer.created, ExchangeAnswer.received,
      ExchangeAnswer.dispatched, ExchangeAnswer.destroyed, ExchangeAnswer.threw, ExchangeStep.order]
  | _ => simp [next, ExchangeAnswer.created, ExchangeAnswer.received,
      ExchangeAnswer.dispatched, ExchangeAnswer.destroyed, ExchangeAnswer.threw, ExchangeStep.order]

section Legal

variable {trace : ExchangeTrace}

/-- The phase after a trace. -/
def phaseOf (trace : ExchangeTrace) : ExchangePhase := exchangeProtocol.phase trace

@[simp] theorem phaseOf_nil : phaseOf [] = ExchangePhase.initial := rfl

theorem phaseOf_concat (trace : ExchangeTrace) (c : ExchangeAnswer) :
    phaseOf (trace ++ [c]) = (phaseOf trace).next c.1 c.2 :=
  Protocol.phase_concat trace c

theorem legal_concat {c : ExchangeAnswer} (h : exchangeProtocol.Legal (trace ++ [c])) :
    exchangeProtocol.Legal trace ∧ (phaseOf trace).asked ≤ c.1.order ∧
      ∀ queue, c.1.queue = some queue → (phaseOf trace).queue = some queue :=
  Protocol.legal_concat.1 h

/-- The calls of a legal trace are in order. -/
theorem order_of_legal (h : exchangeProtocol.Legal trace) :
    (trace.map fun c => c.1.order).Pairwise (· < ·) ∧ ∀ c ∈ trace, c.1.order < (phaseOf trace).asked := by
  induction trace using List.reverseRecOn with
  | nil => exact ⟨List.Pairwise.nil, fun c hc => absurd hc List.not_mem_nil⟩
  | append_singleton trace c ih =>
      obtain ⟨hlegal, hallowed, -⟩ := legal_concat h
      obtain ⟨hsorted, hbelow⟩ := ih hlegal
      rw [phaseOf_concat, ExchangePhase.next_eq, List.map_append]
      refine ⟨List.pairwise_append.2 ⟨hsorted, List.pairwise_singleton _ _, ?_⟩, ?_⟩
      · intro n hn m hm
        obtain ⟨d, hd, rfl⟩ := List.mem_map.1 hn
        rw [List.mem_singleton.1 hm]
        exact (hbelow d hd).trans_le hallowed
      · intro d hd
        rcases List.mem_append.1 hd with hd | hd
        · exact ((hbelow d hd).trans_le hallowed).trans (Nat.lt_succ_self _)
        · rw [List.mem_singleton.1 hd]
          exact Nat.lt_succ_self _

/-- No two calls of a legal trace have one place in the order. -/
theorem eq_of_order (h : exchangeProtocol.Legal trace) {c d : ExchangeAnswer} (hc : c ∈ trace)
    (hd : d ∈ trace) (horder : c.1.order = d.1.order) : c = d :=
  List.inj_on_of_nodup_map ((order_of_legal h).1.imp fun hlt => ne_of_lt hlt) hc hd horder

/-- **What a phase keeps of a call.** If only the call at one place of the order tells it, the phase has it
    precisely if a call of the trace told it. -/
theorem recorded_iff {β : Type} {tells : ExchangeAnswer → Option β} {kept : ExchangePhase → Option β}
    {order : Nat} (hinitial : kept ExchangePhase.initial = none)
    (hnext : ∀ (phase : ExchangePhase) c, kept (phase.next c.1 c.2) = (tells c).or (kept phase))
    (horder : ∀ c b, tells c = some b → c.1.order = order) (h : exchangeProtocol.Legal trace) (b : β) :
    kept (phaseOf trace) = some b ↔ ∃ c ∈ trace, tells c = some b := by
  induction trace using List.reverseRecOn with
  | nil => simp [hinitial]
  | append_singleton trace c ih =>
      obtain ⟨hlegal, hallowed, -⟩ := legal_concat h
      rw [phaseOf_concat, hnext]
      cases hc : tells c with
      | none => simp [hc, ih hlegal]
      | some b' =>
          rw [Option.some_or]
          constructor
          · intro heq
            exact ⟨c, by simp, hc.trans heq⟩
          · rintro ⟨d, hd, hdb⟩
            rw [← hc, ← hdb]
            refine congrArg tells (eq_of_order h (by simp) hd ?_)
            rw [horder c b' hc, horder d b hdb]

/-- What a call only turns on. -/
theorem flagged_iff {tells : ExchangeAnswer → Bool} {kept : ExchangePhase → Bool}
    (hinitial : kept ExchangePhase.initial = false)
    (hnext : ∀ (phase : ExchangePhase) c, kept (phase.next c.1 c.2) = (kept phase || tells c))
    (trace : ExchangeTrace) : kept (phaseOf trace) = true ↔ ∃ c ∈ trace, tells c = true := by
  induction trace using List.reverseRecOn with
  | nil => simp [hinitial]
  | append_singleton trace c ih =>
      rw [phaseOf_concat, hnext, Bool.or_eq_true, ih]
      simp [or_and_right, exists_or]

theorem created_order (c : ExchangeAnswer) (queue : Nat) (h : c.created = some queue) : c.1.order = 2 := by
  unfold ExchangeAnswer.created at h
  split at h
  · rfl
  · cases h

theorem received_order (c : ExchangeAnswer) (reply : Message) (h : c.received = some reply) :
    c.1.order = 5 := by
  unfold ExchangeAnswer.received at h
  split at h
  · rfl
  · cases h

theorem queue_iff (h : exchangeProtocol.Legal trace) (queue : Nat) :
    (phaseOf trace).queue = some queue ↔ ∃ c ∈ trace, c.created = some queue :=
  @recorded_iff trace Nat ExchangeAnswer.created ExchangePhase.queue 2 rfl
    (fun phase c => by rw [ExchangePhase.next_eq]) created_order h queue

theorem reply_iff (h : exchangeProtocol.Legal trace) (reply : Message) :
    (phaseOf trace).reply = some reply ↔ ∃ c ∈ trace, c.received = some reply :=
  @recorded_iff trace Message ExchangeAnswer.received ExchangePhase.reply 5 rfl
    (fun phase c => by rw [ExchangePhase.next_eq]) received_order h reply

theorem dispatched_iff (trace : ExchangeTrace) :
    (phaseOf trace).dispatched = true ↔ ∃ c ∈ trace, c.dispatched = true :=
  @flagged_iff ExchangeAnswer.dispatched ExchangePhase.dispatched rfl
    (fun phase c => by rw [ExchangePhase.next_eq]) trace

theorem destroyed_iff (trace : ExchangeTrace) :
    (phaseOf trace).destroyed = true ↔ ∃ c ∈ trace, c.destroyed = true :=
  @flagged_iff ExchangeAnswer.destroyed ExchangePhase.destroyed rfl
    (fun phase c => by rw [ExchangePhase.next_eq]) trace

theorem threw_iff (trace : ExchangeTrace) :
    (phaseOf trace).threw = true ↔ ∃ c ∈ trace, c.threw = true :=
  @flagged_iff ExchangeAnswer.threw ExchangePhase.threw rfl
    (fun phase c => by rw [ExchangePhase.next_eq]) trace

/-- The calls on a queue are on the one that was created. -/
theorem queue_of_mem (h : exchangeProtocol.Legal trace) {c : ExchangeAnswer} (hc : c ∈ trace) {queue : Nat}
    (hqueue : c.1.queue = some queue) : (phaseOf trace).queue = some queue := by
  obtain ⟨before, rest, rfl⟩ := List.append_of_mem hc
  have hleading : before ++ [c] <+: before ++ c :: rest := ⟨rest, by simp⟩
  have hlegal : exchangeProtocol.Legal before := fun b d hd =>
    h b d (hd.trans ((List.prefix_append before [c]).trans hleading))
  have hbefore : (phaseOf before).queue = some queue := (h before c hleading).2 queue hqueue
  obtain ⟨d, hd, hcreated⟩ := (queue_iff hlegal queue).1 hbefore
  exact (queue_iff h queue).2 ⟨d, List.mem_append_left _ hd, hcreated⟩

end Legal

/-! ## The environment of a trace -/

namespace ExchangeAnswer

/-- How a call ended, whatever it answered. -/
def ending : ExchangeAnswer → Except Exn Unit
  | ⟨.createMessage, r⟩ => r
  | ⟨.prepare, r⟩ => r
  | ⟨.createTemporaryQueue, r⟩ => Except.map (fun _ => ()) r
  | ⟨.createConsumer _, r⟩ => r
  | ⟨.dispatch _, r⟩ => r
  | ⟨.receive _ _, r⟩ => Except.map (fun _ => ()) r
  | ⟨.close _, r⟩ => r
  | ⟨.destroy _, r⟩ => r

/-- What a `receive` answered. -/
def message : ExchangeAnswer → Except Exn (Option Message)
  | ⟨.receive _ _, r⟩ => r
  | _ => .ok none

end ExchangeAnswer

namespace ExchangeTrace

/-- What is read off the call at this place of the order, if it was made. -/
def readAt {β : Type} (trace : ExchangeTrace) (order : Nat) (read : ExchangeAnswer → β) (other : β) : β :=
  ((trace.find? fun c => c.1.order = order).map read).getD other

/-- What an exchange met, from its trace. -/
def steps (trace : ExchangeTrace) : ExchangeSteps :=
  { createMessage := trace.readAt 0 ExchangeAnswer.ending (.ok ())
    prepare := trace.readAt 1 ExchangeAnswer.ending (.ok ())
    createTemporaryQueue := trace.readAt 2 ExchangeAnswer.ending (.ok ())
    createConsumer := trace.readAt 3 ExchangeAnswer.ending (.ok ())
    dispatch := trace.readAt 4 ExchangeAnswer.ending (.ok ())
    queue :=
      { receive := fun _ => trace.readAt 5 ExchangeAnswer.message (.ok none)
        close := trace.readAt 6 ExchangeAnswer.ending (.ok ())
        destroy := trace.readAt 7 ExchangeAnswer.ending (.ok ()) } }

variable {trace : ExchangeTrace} {β : Type}

theorem readAt_eq (h : exchangeProtocol.Legal trace) {c : ExchangeAnswer} (hc : c ∈ trace)
    (read : ExchangeAnswer → β) (other : β) : trace.readAt c.1.order read other = read c := by
  unfold readAt
  cases hfound : trace.find? fun d => d.1.order = c.1.order with
  | none =>
      rw [List.find?_eq_none] at hfound
      exact absurd (hfound c hc) (by simp)
  | some d =>
      have horder : d.1.order = c.1.order := by simpa using List.find?_some hfound
      rw [eq_of_order h (List.mem_of_find?_eq_some hfound) hc horder]
      rfl

/-- Every call of a legal trace was answered as the environment answers. -/
theorem answer_steps (h : exchangeProtocol.Legal trace) {queue : Nat}
    (hqueue : ∀ q, (phaseOf trace).queue = some q → q = queue) {c : ExchangeAnswer} (hc : c ∈ trace) :
    trace.steps.answer queue c.1 = c.2 := by
  obtain ⟨step, r⟩ := c
  cases step with
  | createTemporaryQueue =>
      show Except.map (fun _ => queue) (trace.readAt 2 ExchangeAnswer.ending (.ok ())) = r
      have hread : trace.readAt 2 ExchangeAnswer.ending (.ok ()) = Except.map (fun _ => ()) r :=
        readAt_eq h hc ExchangeAnswer.ending (.ok ())
      rw [hread]
      cases r with
      | error e => rfl
      | ok q =>
          have hcreated : (phaseOf trace).queue = some q := (queue_iff h q).2 ⟨_, hc, rfl⟩
          rw [hqueue q hcreated]
          rfl
  | receive q timeout => exact readAt_eq h hc ExchangeAnswer.message (.ok none)
  | _ => exact readAt_eq h hc ExchangeAnswer.ending (.ok ())

/-- **An exchange that is over** ended as it would have alone, in the environment of its trace. -/
theorem result_of_done {α : Type} {asking : Asking α} {result : Except Escape α}
    (h : exchangeProtocol.Legal trace) (hreached : asking.program.Reaches trace (.done result)) :
    result = (Exchange.blocking trace.steps asking.timeout asking.decode asking.failure).result := by
  rw [← asking.eval_program trace.steps ((phaseOf trace).queue.getD 0)]
  refine (Program.eval_of_reaches hreached fun c hc => ?_).symm
  refine answer_steps h (fun q hq => ?_) hc
  rw [hq]
  rfl

end ExchangeTrace

end Giapi
