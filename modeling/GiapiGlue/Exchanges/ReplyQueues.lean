import GiapiGlue.Exchanges.Exchange
import GiapiGlue.Lib.Interleaving

set_option autoImplicit false

/-! # Exchanges side by side

Clients of the library may ask for something from several threads at once, and servers may answer a request
late, more than once or not at all. An exchange is written here as a program of calls on its session, which
alone is the exchange of before (`eval_program`); the broker keeps the temporary queues and hands each
answer to the queue its request names. -/

namespace Giapi

open Interleaving

/-! ## The program of an exchange -/

/-- A call of an exchange. Those that concern its temporary queue are given its number. -/
inductive ExchangeStep
  | createMessage
  | prepare
  | createTemporaryQueue
  | createConsumer (queue : Nat)
  | dispatch (queue : Nat)
  | receive (queue : Nat) (timeout : Option Int)
  | close (queue : Nat)
  | destroy (queue : Nat)

namespace ExchangeStep

/-- What a call answers: a new queue, a message or null, or nothing. -/
def Returns : ExchangeStep → Type
  | createTemporaryQueue => Except Exn Nat
  | receive _ _ => Except Exn (Option Message)
  | _ => Except Exn Unit

/-- An exchange makes its calls in this order. -/
def order : ExchangeStep → Nat
  | createMessage => 0
  | prepare => 1
  | createTemporaryQueue => 2
  | createConsumer _ => 3
  | dispatch _ => 4
  | receive _ _ => 5
  | close _ => 6
  | destroy _ => 7

/-- The queue a call concerns. -/
def queue : ExchangeStep → Option Nat
  | createMessage => none
  | prepare => none
  | createTemporaryQueue => none
  | createConsumer queue => some queue
  | dispatch queue => some queue
  | receive queue _ => some queue
  | close queue => some queue
  | destroy queue => some queue

end ExchangeStep

abbrev ExchangeProgram (α : Type) : Type := Program ExchangeStep ExchangeStep.Returns α

/-- A part of an exchange that may throw. -/
abbrev ExchangePart (α : Type) : Type := ExceptT Exn (Program ExchangeStep ExchangeStep.Returns) α

namespace ExchangeProgram

/-- A call that answers nothing. -/
def call (step : ExchangeStep) (h : step.Returns = Except Exn Unit) : ExchangePart Unit :=
  ExceptT.mk (Program.call step fun answer => .done (h ▸ answer))

def createTemporaryQueue : ExchangePart Nat :=
  ExceptT.mk (Program.call .createTemporaryQueue .done)

def receive (queue : Nat) (timeout : Option Int) : ExchangePart (Option Message) :=
  ExceptT.mk (Program.call (.receive queue timeout) .done)

/-- The `try` block until the request is sent; it answers the queue. -/
def sendRequest : ExchangePart Nat := do
  call .createMessage rfl
  call .prepare rfl
  let queue ← createTemporaryQueue
  call (.createConsumer queue) rfl
  call (.dispatch queue) rfl
  return queue

/-- The reply, and the end of the consumer and of the queue. -/
def awaitReply (queue : Nat) (timeout : Int) : ExchangePart (Option Message) := do
  let reply ← receive queue (if 0 < timeout then some timeout else none)
  call (.close queue) rfl
  call (.destroy queue) rfl
  return reply

end ExchangeProgram

/-- What the functions that wait for a reply differ in. -/
structure Asking (α : Type) where
  timeout : Int
  decode : Option Message → Except Escape α
  failure : CxxString → Exn

/-- An exchange that waits for its reply, as `Exchange.blocking`. -/
def Asking.program {α : Type} (asking : Asking α) : ExchangeProgram (Except Escape α) := do
  match ← ExchangeProgram.sendRequest.run with
  | .error e => return .error (.exn (Exchange.sendFailure asking.failure e))
  | .ok queue => do
    let reply ← (ExchangeProgram.awaitReply queue asking.timeout).run
    return (JmsApplyOffset.lift reply >>= asking.decode).mapError Exchange.replyFailure

/-- The answers of an exchange that is alone, and whose queue has this number. -/
def ExchangeSteps.answer (steps : ExchangeSteps) (queue : Nat) : (step : ExchangeStep) → step.Returns
  | .createMessage => steps.createMessage
  | .prepare => steps.prepare
  | .createTemporaryQueue => steps.createTemporaryQueue.map fun _ => queue
  | .createConsumer _ => steps.createConsumer
  | .dispatch _ => steps.dispatch
  | .receive _ timeout => steps.queue.receive timeout
  | .close _ => steps.queue.close
  | .destroy _ => steps.queue.destroy

namespace ExchangeProgram

variable {α β : Type} (steps : ExchangeSteps) (queue : Nat)

/-- A part of an exchange that is alone. -/
def alone (part : ExchangePart α) : Except Exn α := part.run.eval (steps.answer queue)

theorem alone_bind (part : ExchangePart α) (f : α → ExchangePart β) :
    alone steps queue (part >>= f) = alone steps queue part >>= fun a => alone steps queue (f a) := by
  unfold alone
  rw [ExceptT.run_bind, Program.eval_bind]
  cases part.run.eval (steps.answer queue) <;> rfl

theorem alone_sendRequest :
    alone steps queue sendRequest = (Exchange.request steps).map fun _ => queue := by
  unfold sendRequest Exchange.request
  simp only [alone_bind]
  have hcreate : alone steps queue (call .createMessage rfl) = steps.createMessage := rfl
  have hprepare : alone steps queue (call .prepare rfl) = steps.prepare := rfl
  have hqueue : alone steps queue createTemporaryQueue
      = steps.createTemporaryQueue.map fun _ => queue := rfl
  have hconsumer : ∀ q, alone steps queue (call (.createConsumer q) rfl) = steps.createConsumer :=
    fun _ => rfl
  have hdispatch : ∀ q, alone steps queue (call (.dispatch q) rfl) = steps.dispatch := fun _ => rfl
  rw [hcreate, hprepare, hqueue]
  simp only [hconsumer, hdispatch]
  cases steps.createMessage <;> cases steps.prepare <;> cases steps.createTemporaryQueue <;>
    cases steps.createConsumer <;> cases steps.dispatch <;> rfl

theorem alone_awaitReply (timeout : Int) (q : Nat) :
    alone steps queue (awaitReply q timeout) = steps.queue.awaitReply timeout := by
  unfold awaitReply ReplyQueue.awaitReply
  simp only [alone_bind]
  rfl

end ExchangeProgram

/-- **Alone, the program is the exchange.** -/
theorem Asking.eval_program {α : Type} (asking : Asking α) (steps : ExchangeSteps) (queue : Nat) :
    asking.program.eval (steps.answer queue)
      = (Exchange.blocking steps asking.timeout asking.decode asking.failure).result := by
  have hsend := ExchangeProgram.alone_sendRequest steps queue
  have hawait := ExchangeProgram.alone_awaitReply steps queue asking.timeout
  unfold ExchangeProgram.alone at hsend hawait
  unfold Asking.program
  rw [Program.eval_bind, hsend, Exchange.result_blocking]
  cases Exchange.request steps with
  | error e => rfl
  | ok _ =>
      show Program.eval _ (_ >>= _) = _
      rw [Program.eval_bind, hawait]
      rfl

/-! ## The protocol of an exchange -/

/-- How far an exchange is. -/
structure ExchangePhase where
  /-- The calls it may make have this order or a later one. -/
  asked : Nat
  queue : Option Nat
  dispatched : Bool
  reply : Option Message
  destroyed : Bool
  /-- One of its calls threw. -/
  threw : Bool

/-- Before its first call. -/
def ExchangePhase.initial : ExchangePhase :=
  { asked := 0, queue := none, dispatched := false, reply := none, destroyed := false, threw := false }

def Except.threw {α : Type} : Except Exn α → Bool
  | .ok _ => false
  | .error _ => true

/-- The call threw. -/
def ExchangeStep.threw : (step : ExchangeStep) → step.Returns → Bool
  | createMessage, answer => Except.threw answer
  | prepare, answer => Except.threw answer
  | createTemporaryQueue, answer => Except.threw answer
  | createConsumer _, answer => Except.threw answer
  | dispatch _, answer => Except.threw answer
  | receive _ _, answer => Except.threw answer
  | close _, answer => Except.threw answer
  | destroy _, answer => Except.threw answer

/-- The phase after a call. -/
def ExchangePhase.next (phase : ExchangePhase) (step : ExchangeStep) (answer : step.Returns) :
    ExchangePhase :=
  let phase :=
    { phase with
      asked := step.order + 1
      threw := phase.threw || step.threw answer }
  match step, answer with
  | .createTemporaryQueue, .ok queue => { phase with queue := some queue }
  | .dispatch _, _ => { phase with dispatched := true }
  | .receive _ _, .ok (some reply) => { phase with reply := some reply }
  | .destroy _, .ok () => { phase with destroyed := true }
  | _, _ => phase

/-- An exchange makes its calls in order, and those that concern a queue on the one it created. -/
def exchangeProtocol : Protocol ExchangeStep ExchangeStep.Returns where
  Phase := ExchangePhase
  initial := ExchangePhase.initial
  allowed phase step := phase.asked ≤ step.order ∧ ∀ queue, step.queue = some queue → phase.queue = some queue
  next := ExchangePhase.next

/-! ## The broker -/

/-- A temporary queue: what has arrived on it, how much of that was taken, and whether it still exists. -/
structure Mailbox where
  arrived : List Message
  taken : Nat
  live : Bool

structure Broker where
  /-- All temporary queues that were created; the index is the number. -/
  queues : List Mailbox
  /-- The requests that were sent, as the queue each names for its reply. -/
  requests : List Nat
  /-- What servers answered: the number of the request, and the reply. -/
  answers : List (Nat × Message)

namespace Broker

/-- Before the first call. -/
def empty : Broker := { queues := [], requests := [], answers := [] }

/-- What may happen when a call is made. -/
inductive Happening
  | succeeds
  /-- A `receive` ends without a message. -/
  | nothing
  /-- The call throws; a `send` may have sent the message all the same. -/
  | throws (e : Exn) (sent : Bool)

/-- A call that does nothing to the queues. -/
def plain (happening : Happening) (broker : Broker) : Option (Except Exn Unit × Broker) :=
  match happening with
  | .succeeds => some (.ok (), broker)
  | .nothing => none
  | .throws e _ => some (.error e, broker)

def createTemporaryQueue (happening : Happening) (broker : Broker) : Option (Except Exn Nat × Broker) :=
  match happening with
  | .succeeds => some (.ok broker.queues.length,
      { broker with queues := broker.queues ++ [{ arrived := [], taken := 0, live := true }] })
  | .nothing => none
  | .throws e _ => some (.error e, broker)

def dispatch (queue : Nat) (happening : Happening) (broker : Broker) :
    Option (Except Exn Unit × Broker) :=
  let sent := { broker with requests := broker.requests ++ [queue] }
  match happening with
  | .succeeds => some (.ok (), sent)
  | .nothing => none
  | .throws e true => some (.error e, sent)
  | .throws e false => some (.error e, broker)

/-- The next message of the queue, if it is there. -/
def receive (queue : Nat) (happening : Happening) (broker : Broker) :
    Option (Except Exn (Option Message) × Broker) :=
  match happening with
  | .succeeds =>
    match broker.queues[queue]? with
    | none => none
    | some box =>
      match box.arrived[box.taken]? with
      | none => none
      | some reply => some (.ok (some reply),
          { broker with queues := broker.queues.set queue { box with taken := box.taken + 1 } })
  | .nothing => some (.ok none, broker)
  | .throws e _ => some (.error e, broker)

def destroy (queue : Nat) (happening : Happening) (broker : Broker) :
    Option (Except Exn Unit × Broker) :=
  match happening with
  | .succeeds =>
    match broker.queues[queue]? with
    | none => none
    | some box => some (.ok (), { broker with queues := broker.queues.set queue { box with live := false } })
  | .nothing => none
  | .throws e _ => some (.error e, broker)

/-- A server answers the request with this number. The reply goes to the queue the request names; when
    that does not exist any more, it is dropped. -/
def answer (request : Nat × Message) (broker : Broker) : Broker :=
  match broker.requests[request.1]? with
  | none => broker
  | some queue =>
    let broker := { broker with answers := broker.answers ++ [request] }
    match broker.queues[queue]? with
    | none => broker
    | some box =>
      if box.live then
        { broker with
          queues := broker.queues.set queue { box with arrived := box.arrived ++ [request.2] } }
      else broker

/-- The services of the broker. -/
def services : Services ExchangeStep ExchangeStep.Returns Broker Happening (Nat × Message) where
  serve step happening broker :=
    match step with
    | .createTemporaryQueue => broker.createTemporaryQueue happening
    | .dispatch queue => broker.dispatch queue happening
    | .receive queue _ => broker.receive queue happening
    | .destroy queue => broker.destroy queue happening
    | .createMessage => broker.plain happening
    | .prepare => broker.plain happening
    | .createConsumer _ => broker.plain happening
    | .close _ => broker.plain happening
  outside request broker := broker.answer request

end Broker

end Giapi
