import GiapiGlue.Lib.Ledger
import GiapiGlue.Tcs.JmsApplyOffset

set_option autoImplicit false

/-! # Exchanges over a temporary queue

A request is made and sent, with a temporary queue to answer on; the reply is received from a temporary
consumer. What an exchange acquires is kept in a ledger: the request, the queue, the consumer and the
reply, which its receiver owns. All of them are plain pointers, deleted by hand. -/

namespace Giapi

/-- What an exchange acquires. -/
inductive ExchangeResource
  | request
  | queue
  | consumer
  | reply
deriving DecidableEq, Repr

instance : Fintype ExchangeResource :=
  { elems := {.request, .queue, .consumer, .reply}
    complete := fun r => by cases r <;> simp }

/-- A piece of an exchange. -/
abbrev Exchange (α : Type) : Type := Accounted ExchangeResource Escape α

/-- What an exchange meets outside the library, step by step. -/
structure ExchangeSteps where
  createMessage : Except Exn Unit
  /-- What is set before there is a queue. -/
  prepare : Except Exn Unit
  createTemporaryQueue : Except Exn Unit
  createConsumer : Except Exn Unit
  /-- `setCMSReplyTo`, what is set or written after it, and `send`. -/
  dispatch : Except Exn Unit
  queue : ReplyQueue

namespace Exchange

open Accounted

variable {α : Type}

/-- A call that may throw. -/
def call (x : Except Exn α) : Exchange α := Accounted.lift (JmsApplyOffset.lift x)

/-- The `try` block until there is a queue. -/
def openQueue (steps : ExchangeSteps) : Exchange Unit := do
  call steps.createMessage
  acquire .request
  call steps.prepare
  call steps.createTemporaryQueue
  acquire .queue

/-- The `try` block until the request is sent. -/
def sendRequest (steps : ExchangeSteps) : Exchange Unit := do
  openQueue steps
  call steps.createConsumer
  acquire .consumer
  call steps.dispatch

/-- `receive`. A reply that is not null belongs to the caller. -/
def receive (queue : ReplyQueue) (timeout : Int) : Exchange (Option Message) :=
  match queue.receive (if 0 < timeout then some timeout else none) with
  | .ok none => return none
  | .ok (some reply) => do
    acquire .reply
    return some reply
  | .error e => call (.error e)

/-- The reply, and the end of the consumer and of the queue. -/
def awaitReply (queue : ReplyQueue) (timeout : Int) : Exchange (Option Message) := do
  let reply ← receive queue timeout
  call queue.close
  release .consumer
  call queue.destroy
  release .queue
  return reply

/-- The `catch` block: `request` is null until it has been created, and dangles once it has been
    deleted. -/
def deleteRequest (thrown : Exn) (ledger : Ledger ExchangeResource) : Exchange α :=
  if .acquired .request ∉ ledger then
    call (.error thrown)
  else if .released .request ∉ ledger then do
    release .request
    call (.error thrown)
  else do
    release .request
    call (.error .outOfBounds)

/-- `catch (CMSException &e)`, with the exception thrown in its place. -/
def catchCms (failure : CxxString → Exn) : Escape → Option (Ledger ExchangeResource → Exchange α)
  | .exn (.cmsException message) => some (deleteRequest (failure message))
  | _ => none

/-- The `try` block of an exchange that waits for its reply. -/
def sendAndReceive (steps : ExchangeSteps) (timeout : Int)
    (decode : Option Message → Except Escape α) : Exchange α := do
  sendRequest steps
  release .request
  let reply ← awaitReply steps.queue timeout
  Accounted.lift (decode reply)

def blocking (steps : ExchangeSteps) (timeout : Int) (decode : Option Message → Except Escape α)
    (failure : CxxString → Exn) : Exchange α :=
  catching (sendAndReceive steps timeout decode) (catchCms failure)

/-- The `try` block of an exchange whose queue and consumer go to a thread, which waits for the reply. -/
def sendAndDetach (steps : ExchangeSteps) (thread : Except Exn Unit) (timeout : Int) (answer : α) :
    Exchange α := do
  sendRequest steps
  call thread
  spawn (awaitReply steps.queue timeout)
  return answer

def detached (steps : ExchangeSteps) (thread : Except Exn Unit) (timeout : Int) (answer : α)
    (failure : CxxString → Exn) : Exchange α :=
  catching (sendAndDetach steps thread timeout answer) (catchCms failure)

/-! ## The outcome

What an exchange ends with does not depend on its ledger, apart from the second deletion of a request. -/

/-- What leaves the `catch` block while there is a request to delete. -/
def sendFailure (failure : CxxString → Exn) : Exn → Exn
  | .cmsException message => failure message
  | e => e

/-- What leaves the `catch` block once the request has been deleted. -/
def replyFailure : Escape → Escape
  | .exn (.cmsException _) => .exn .outOfBounds
  | e => e

theorem lift_bind {β : Type} (x : Except Exn α) (f : α → Except Exn β) :
    JmsApplyOffset.lift (x >>= f) = JmsApplyOffset.lift x >>= fun a => JmsApplyOffset.lift (f a) := by
  cases x <;> rfl

@[simp] theorem result_call (x : Except Exn α) : (call x).result = JmsApplyOffset.lift x := rfl

theorem result_receive (queue : ReplyQueue) (timeout : Int) :
    (receive queue timeout).result
      = JmsApplyOffset.lift (queue.receive (if 0 < timeout then some timeout else none)) := by
  unfold receive
  cases queue.receive (if 0 < timeout then some timeout else none) with
  | error e => rfl
  | ok reply => cases reply <;> rfl

theorem result_awaitReply (queue : ReplyQueue) (timeout : Int) :
    (awaitReply queue timeout).result = JmsApplyOffset.lift (queue.awaitReply timeout) := by
  simp only [awaitReply, ReplyQueue.awaitReply, result_bind, result_receive, result_call, result_release,
    result_pure, lift_bind]
  rfl

/-- The `try` block until the request is sent, without its ledger. -/
def request (steps : ExchangeSteps) : Except Exn Unit := do
  steps.createMessage
  steps.prepare
  steps.createTemporaryQueue
  steps.createConsumer
  steps.dispatch

theorem result_sendRequest (steps : ExchangeSteps) :
    (sendRequest steps).result = JmsApplyOffset.lift (request steps) := by
  unfold sendRequest openQueue request
  simp only [result_bind, result_call, result_acquire, lift_bind]
  cases steps.createMessage <;> cases steps.prepare <;> cases steps.createTemporaryQueue <;> rfl

/-! ## The ledger of a failure -/

/-- The exceptions the `catch` block has an answer to. -/
def Caught (e : Escape) : Prop := ∃ message, e = .exn (.cmsException message)

/-- What the `catch` block adds to the ledger: it deletes the request if there ever was one. -/
def cleanup (before : Ledger ExchangeResource) : Escape → Ledger ExchangeResource
  | .exn (.cmsException _) => if .acquired .request ∈ before then [.released .request] else []
  | _ => []

theorem released_mem_cleanup {before : Ledger ExchangeResource} {e : Escape} {r : ExchangeResource}
    (h : .released r ∈ cleanup before e) : r = .request := by
  unfold cleanup at h
  split at h
  · split_ifs at h <;> simp_all
  · simp at h

theorem cleanup_of_not_caught {e : Escape} (h : ¬ Caught e) (before : Ledger ExchangeResource) :
    cleanup before e = [] := by
  unfold cleanup
  split
  · exact absurd ⟨_, rfl⟩ h
  · rfl

theorem ledger_deleteRequest (thrown : Exn) (before : Ledger ExchangeResource) :
    (deleteRequest thrown before : Exchange α).ledger
      = if .acquired .request ∈ before then [.released .request] else [] := by
  unfold deleteRequest
  by_cases hrequest : LedgerEntry.acquired ExchangeResource.request ∈ before
  · rw [if_neg (not_not.2 hrequest), if_pos hrequest]
    split_ifs <;> rfl
  · rw [if_pos hrequest, if_neg hrequest]
    rfl

theorem ledger_catching_ok {x : Exchange α} {a : α} {before : Ledger ExchangeResource}
    (h : x = (.ok a, before)) (failure : CxxString → Exn) :
    (catching x (catchCms failure)).ledger = before := by
  subst h
  rfl

/-- An exception the `catch` block has no answer to passes. -/
theorem catching_of_not_caught {x : Exchange α} {e : Escape} {before : Ledger ExchangeResource}
    (h : x = (.error e, before)) (hcaught : ¬ Caught e) (failure : CxxString → Exn) :
    catching x (catchCms failure) = x := by
  subst h
  have hnone : (catchCms failure e : Option (Ledger ExchangeResource → Exchange α)) = none := by
    unfold catchCms
    split
    · exact absurd ⟨_, rfl⟩ hcaught
    · rfl
  simp only [catching, hnone]
  rfl

theorem ledger_catching_error {x : Exchange α} {e : Escape} {before : Ledger ExchangeResource}
    (h : x = (.error e, before)) (failure : CxxString → Exn) :
    (catching x (catchCms failure)).ledger = before ++ cleanup before e := by
  by_cases hcaught : Caught e
  · obtain ⟨message, rfl⟩ := hcaught
    subst h
    exact congrArg (before ++ ·) (ledger_deleteRequest (α := α) (failure message) before)
  · rw [catching_of_not_caught h hcaught, cleanup_of_not_caught hcaught, List.append_nil, h]
    rfl

/-- What is open when the `try` block ends stays open, unless it is the request. -/
theorem not_balanced_catching {x : Exchange α} {ending : Except Escape α}
    {before : Ledger ExchangeResource} (h : x = (ending, before)) {r : ExchangeResource}
    (hr : r ≠ .request) (hacquired : .acquired r ∈ before) (hreleased : .released r ∉ before)
    (failure : CxxString → Exn) : ¬ (catching x (catchCms failure)).ledger.Balanced := by
  cases ending with
  | ok a =>
      rw [ledger_catching_ok h]
      exact Ledger.not_balanced_of_open hacquired hreleased
  | error e =>
      rw [ledger_catching_error h]
      refine Ledger.not_balanced_of_open (List.mem_append_left _ hacquired) fun hmem => ?_
      rcases List.mem_append.1 hmem with hmem | hmem
      · exact hreleased hmem
      · exact hr (released_mem_cleanup hmem)

/-! ## Sending -/

/-- All steps up to the queue succeed. -/
structure Opened (steps : ExchangeSteps) : Prop where
  createMessage : steps.createMessage = .ok ()
  createTemporaryQueue : (do steps.prepare; steps.createTemporaryQueue) = .ok ()

/-- All steps up to `send` succeed. -/
structure Sent (steps : ExchangeSteps) : Prop extends Opened steps where
  createConsumer : steps.createConsumer = .ok ()
  dispatch : steps.dispatch = .ok ()

/-- The exchange ends before there is a queue: there is no request yet, or the `catch` block deletes it. -/
def FailsEarly (steps : ExchangeSteps) : Prop :=
  (∃ e, steps.createMessage = .error e)
  ∨ (steps.createMessage = .ok ()
      ∧ ∃ message, (do steps.prepare; steps.createTemporaryQueue) = .error (.cmsException message))

theorem Opened.not_failsEarly {steps : ExchangeSteps} (h : Opened steps) : ¬ FailsEarly steps := by
  intro hearly
  rcases hearly with ⟨e, hcreate⟩ | ⟨-, message, hqueue⟩
  · rw [h.createMessage] at hcreate
    cases hcreate
  · rw [h.createTemporaryQueue] at hqueue
    cases hqueue

theorem openQueue_of_opened {steps : ExchangeSteps} (h : Opened steps) :
    openQueue steps = (.ok (), [.acquired .request, .acquired .queue]) := by
  obtain ⟨_, hprepare, hqueue⟩ := except_bind_ok h.createTemporaryQueue
  unfold openQueue call
  rw [h.createMessage, hprepare, hqueue]
  rfl

/-- Without a queue, the `catch` block leaves a balanced ledger precisely after an early failure. -/
theorem balanced_of_not_opened {steps : ExchangeSteps} (h : ¬ Opened steps) :
    ∃ e before, openQueue steps = (.error e, before)
      ∧ (Ledger.Balanced (before ++ cleanup before e) ↔ FailsEarly steps) := by
  unfold openQueue call
  cases hcreate : steps.createMessage with
  | error e =>
      refine ⟨.exn e, [], rfl, iff_of_true ?_ (Or.inl ⟨e, hcreate⟩)⟩
      cases e <;> exact Ledger.balanced_nil
  | ok _ =>
      cases hqueue : (do steps.prepare; steps.createTemporaryQueue) with
      | ok _ => exact absurd ⟨hcreate, hqueue⟩ h
      | error e =>
          refine ⟨.exn e, [.acquired .request], ?_, ?_⟩
          · cases hprepare : steps.prepare with
            | error e' =>
                rw [hprepare] at hqueue
                obtain rfl := Except.error.inj hqueue
                rfl
            | ok _ =>
                rw [hprepare] at hqueue
                have hqueue' : steps.createTemporaryQueue = .error e := hqueue
                rw [hqueue']
                rfl
          · by_cases hcaught : Caught (.exn e)
            · obtain ⟨message, hmessage⟩ := hcaught
              obtain rfl := Escape.exn.inj hmessage
              have hdeleted : cleanup [.acquired .request] (.exn (.cmsException message))
                  = [.released .request] := by simp [cleanup]
              rw [hdeleted]
              exact iff_of_true (by decide) (Or.inr ⟨hcreate, message, hqueue⟩)
            · rw [cleanup_of_not_caught hcaught]
              refine iff_of_false (by decide) fun hearly => ?_
              rcases hearly with ⟨e', hfails⟩ | ⟨-, message, hfails⟩
              · rw [hcreate] at hfails
                cases hfails
              · rw [hqueue] at hfails
                exact hcaught ⟨message, congrArg Escape.exn (Except.error.inj hfails)⟩

theorem sendRequest_of_sent {steps : ExchangeSteps} (h : Sent steps) :
    sendRequest steps = (.ok (), [.acquired .request, .acquired .queue, .acquired .consumer]) := by
  rw [sendRequest, bind_of_ok (openQueue_of_opened h.toOpened), h.createConsumer, h.dispatch]
  rfl

/-- A request that has a queue and is not sent leaves the queue behind. -/
theorem sendRequest_of_opened {steps : ExchangeSteps} (hopened : Opened steps) (h : ¬ Sent steps) :
    ∃ e before, sendRequest steps = (.error e, before)
      ∧ .acquired .queue ∈ before ∧ .released .queue ∉ before := by
  rw [sendRequest, bind_of_ok (openQueue_of_opened hopened)]
  cases hconsumer : steps.createConsumer with
  | error e => exact ⟨.exn e, [.acquired .request, .acquired .queue], rfl, by decide, by decide⟩
  | ok _ =>
      cases hdispatch : steps.dispatch with
      | error e =>
          exact ⟨.exn e, [.acquired .request, .acquired .queue, .acquired .consumer], rfl, by decide,
            by decide⟩
      | ok _ => exact absurd ⟨hopened, hconsumer, hdispatch⟩ h

/-- A request that is not sent leaves a balanced ledger precisely if it fails early. -/
theorem balanced_of_not_sent {steps : ExchangeSteps} (h : ¬ Sent steps) (failure : CxxString → Exn)
    (rest : Unit → Exchange α) :
    (catching (sendRequest steps >>= rest) (catchCms failure)).ledger.Balanced
      ↔ FailsEarly steps := by
  by_cases hopened : Opened steps
  · obtain ⟨e, before, hrequest, hacquired, hreleased⟩ := sendRequest_of_opened hopened h
    exact iff_of_false
      (not_balanced_catching (bind_of_error hrequest rest) (by decide) hacquired hreleased failure)
      hopened.not_failsEarly
  · obtain ⟨e, before, hqueue, hbalanced⟩ := balanced_of_not_opened hopened
    have hrequest : sendRequest steps = (.error e, before) := by
      rw [sendRequest, bind_of_error hqueue]
    rw [bind_of_error hrequest, ledger_catching_error rfl, hbalanced]

/-- No step of sending a request releases anything. -/
theorem released_not_mem_sendRequest (steps : ExchangeSteps) (r : ExchangeResource) :
    .released r ∉ (sendRequest steps).ledger := by
  unfold sendRequest openQueue call
  cases steps.createMessage <;> cases steps.prepare <;> cases steps.createTemporaryQueue <;>
    cases steps.createConsumer <;> cases steps.dispatch <;>
    simp [bind, JmsApplyOffset.lift, Except.mapError, Accounted.lift, acquire, ledger]

theorem result_catching_unsent {x : Exchange α} {e : Exn} {before : Ledger ExchangeResource}
    (h : x = (.error (.exn e), before)) (hreleased : .released .request ∉ before)
    (failure : CxxString → Exn) :
    (catching x (catchCms failure)).result = .error (.exn (sendFailure failure e)) := by
  by_cases hcaught : Caught (.exn e)
  · obtain ⟨message, hmessage⟩ := hcaught
    obtain rfl := Escape.exn.inj hmessage
    subst h
    simp only [catching, catchCms, deleteRequest, hreleased, not_false_eq_true, if_true, sendFailure]
    split_ifs <;> rfl
  · have hsame : sendFailure failure e = e := by
      unfold sendFailure
      split
      · exact absurd ⟨_, rfl⟩ hcaught
      · rfl
    rw [catching_of_not_caught h hcaught, hsame, h]
    rfl

/-- The `catch` block does not return. -/
theorem ok_of_result_catching {x : Exchange α} {failure : CxxString → Exn} {a : α}
    (h : (catching x (catchCms failure)).result = .ok a) : x.result = .ok a := by
  obtain ⟨ending, before⟩ := x
  cases ending with
  | ok _ => exact h
  | error e =>
      by_cases hcaught : Caught e
      · obtain ⟨message, rfl⟩ := hcaught
        simp only [catching, catchCms, deleteRequest] at h
        split_ifs at h <;> cases h
      · rw [catching_of_not_caught rfl hcaught] at h
        exact h

theorem result_catching_sent {x : Exchange α} {ending : Except Escape α} {before : Ledger ExchangeResource}
    (h : x = (ending, before)) (hacquired : .acquired .request ∈ before)
    (hreleased : .released .request ∈ before) (failure : CxxString → Exn) :
    (catching x (catchCms failure)).result = ending.mapError replyFailure := by
  cases ending with
  | ok a =>
      subst h
      rfl
  | error e =>
      by_cases hcaught : Caught e
      · obtain ⟨message, rfl⟩ := hcaught
        subst h
        simp only [catching, catchCms, deleteRequest, hacquired, hreleased, not_true_eq_false, if_false]
        rfl
      · have hsame : replyFailure e = e := by
          unfold replyFailure
          split
          · exact absurd ⟨_, rfl⟩ hcaught
          · rfl
        rw [catching_of_not_caught h hcaught, h, Except.mapError, hsame]
        rfl

theorem sent_iff (steps : ExchangeSteps) : Sent steps ↔ request steps = .ok () := by
  constructor
  · intro h
    obtain ⟨_, hprepare, hqueue⟩ := except_bind_ok h.createTemporaryQueue
    unfold request
    rw [h.createMessage, hprepare, hqueue, h.createConsumer, h.dispatch]
    rfl
  · intro h
    obtain ⟨_, hcreate, h⟩ := except_bind_ok h
    obtain ⟨_, hprepare, h⟩ := except_bind_ok h
    obtain ⟨_, hqueue, h⟩ := except_bind_ok h
    obtain ⟨_, hconsumer, hdispatch⟩ := except_bind_ok h
    refine { createMessage := hcreate, createTemporaryQueue := ?_, createConsumer := hconsumer
             dispatch := hdispatch }
    rw [hprepare, hqueue]
    rfl

/-- A request that is not sent: what the whole exchange ends with. -/
theorem result_of_not_sent {steps : ExchangeSteps} {e : Exn} (h : request steps = .error e)
    (failure : CxxString → Exn) (rest : Unit → Exchange α) :
    (catching (sendRequest steps >>= rest) (catchCms failure)).result
      = .error (.exn (sendFailure failure e)) := by
  have hending : sendRequest steps = (.error (.exn e), (sendRequest steps).ledger) := by
    rw [← show (sendRequest steps).result = .error (.exn e) by rw [result_sendRequest, h]; rfl]
    rfl
  exact result_catching_unsent (bind_of_error hending rest) (released_not_mem_sendRequest steps _) failure

/-! ## Waiting -/

/-- The wait ends with a reply, its consumer and queue released, or it fails and leaves the queue. -/
theorem awaitReply_cases (queue : ReplyQueue) (timeout : Int) :
    (∃ reply, queue.awaitReply timeout = .ok reply
      ∧ awaitReply queue timeout
        = (.ok reply, (reply.elim [] fun _ => [.acquired .reply])
            ++ [.released .consumer, .released .queue]))
    ∨ (∃ e before, (∀ reply, queue.awaitReply timeout ≠ .ok reply)
      ∧ awaitReply queue timeout = (.error e, before)
      ∧ ∀ r, .released r ∈ before → r = .consumer) := by
  unfold ReplyQueue.awaitReply awaitReply receive call
  cases hreceive : queue.receive (if 0 < timeout then some timeout else none) with
  | error e => exact Or.inr ⟨.exn e, [], by simp [bind, Except.bind], rfl, by simp⟩
  | ok reply =>
      cases hclose : queue.close with
      | error e =>
          refine Or.inr ⟨.exn e, reply.elim [] fun _ => [.acquired .reply],
            by simp [bind, Except.bind], ?_, by cases reply <;> simp⟩
          cases reply <;> rfl
      | ok _ =>
          cases hdestroy : queue.destroy with
          | error e =>
              refine Or.inr ⟨.exn e, (reply.elim [] fun _ => [.acquired .reply])
                ++ [.released .consumer], by simp [bind, Except.bind], ?_, by cases reply <;> simp⟩
              cases reply <;> rfl
          | ok _ =>
              refine Or.inl ⟨reply, rfl, ?_⟩
              cases reply <;> rfl

/-- What a `try` block that sends its request makes of the end of the wait. -/
theorem sendAndReceive_of_sent {steps : ExchangeSteps} (hsent : Sent steps) {timeout : Int}
    {reply : Except Escape (Option Message)} {waited : Ledger ExchangeResource}
    (hreply : awaitReply steps.queue timeout = (reply, waited))
    (decode : Option Message → Except Escape α) :
    sendAndReceive steps timeout decode
      = (reply.bind decode, [.acquired .request, .acquired .queue, .acquired .consumer,
          .released .request] ++ waited) := by
  have hrest : (awaitReply steps.queue timeout >>= fun reply => Accounted.lift (decode reply))
      = (reply.bind decode, waited) := by
    cases reply with
    | error e => exact bind_of_error hreply _
    | ok reply =>
        rw [bind_of_ok hreply, ledger_lift, List.append_nil]
        rfl
  unfold sendAndReceive
  rw [bind_of_ok (sendRequest_of_sent hsent), hrest]
  rfl

/-- What a blocking exchange ends with. -/
theorem result_blocking (steps : ExchangeSteps) (timeout : Int)
    (decode : Option Message → Except Escape α) (failure : CxxString → Exn) :
    (blocking steps timeout decode failure).result = match request steps with
      | .error e => .error (.exn (sendFailure failure e))
      | .ok _ => (JmsApplyOffset.lift (steps.queue.awaitReply timeout) >>= decode).mapError replyFailure := by
  unfold blocking
  cases hrequest : request steps with
  | error e => exact result_of_not_sent hrequest failure _
  | ok _ =>
      have hbody := sendAndReceive_of_sent ((sent_iff steps).2 hrequest)
        (rfl : awaitReply steps.queue timeout = _) decode
      rw [result_catching_sent hbody (by simp) (by simp), ← result_awaitReply]
      rfl

/-- Without a thread, the queue and the consumer are left behind. -/
theorem sendAndDetach_of_error {steps : ExchangeSteps} (hsent : Sent steps) (e : Exn) (timeout : Int)
    (answer : α) :
    sendAndDetach steps (.error e) timeout answer
      = (.error (.exn e), [.acquired .request, .acquired .queue, .acquired .consumer]) := by
  rw [sendAndDetach, bind_of_ok (sendRequest_of_sent hsent)]
  rfl

/-- What a detached exchange ends with. -/
theorem result_detached (steps : ExchangeSteps) (thread : Except Exn Unit) (timeout : Int) (answer : α)
    (failure : CxxString → Exn) :
    (detached steps thread timeout answer failure).result = match request steps with
      | .error e => .error (.exn (sendFailure failure e))
      | .ok _ => JmsApplyOffset.lift ((thread.mapError (sendFailure failure)).map fun _ => answer) := by
  unfold detached
  cases hrequest : request steps with
  | error e => exact result_of_not_sent hrequest failure _
  | ok _ =>
      have hsent := (sent_iff steps).2 hrequest
      cases thread with
      | ok _ =>
          unfold sendAndDetach
          rw [bind_of_ok (sendRequest_of_sent hsent)]
          rfl
      | error e =>
          exact result_catching_unsent (sendAndDetach_of_error hsent e timeout answer) (by simp) failure

/-- A wait that ends with a reply, or with an exception, leaves the reply or the queue. -/
theorem not_balanced_of_waited {steps : ExchangeSteps} (hsent : Sent steps) {timeout : Int}
    (htimeout : steps.queue.awaitReply timeout ≠ .ok none) (decode : Option Message → Except Escape α)
    (failure : CxxString → Exn) : ¬ (blocking steps timeout decode failure).ledger.Balanced := by
  rcases awaitReply_cases steps.queue timeout with
    ⟨reply, hqueue, hreply⟩ | ⟨e, waited, -, hreply, honly⟩
  · cases reply with
    | none => exact absurd hqueue htimeout
    | some reply =>
        -- Nothing deletes the reply.
        exact not_balanced_catching (sendAndReceive_of_sent hsent hreply decode) (r := .reply)
          (by decide) (by simp) (by simp) failure
  · have hqueue : LedgerEntry.released ExchangeResource.queue ∉ waited := fun hmem =>
      absurd (honly _ hmem) (by decide)
    exact not_balanced_catching (sendAndReceive_of_sent hsent hreply decode) (r := .queue)
      (by decide) (by simp) (by simpa using hqueue) failure

/-- **A blocking exchange** that reports a timeout by an exception leaves a balanced ledger precisely if it
    fails early, or times out. -/
theorem balanced_blocking_iff (steps : ExchangeSteps) (timeout : Int)
    {decode : Option Message → Except Escape α} {message : CxxString}
    (hdecode : decode none = .error (.exn (.timeoutException message))) (failure : CxxString → Exn) :
    (blocking steps timeout decode failure).ledger.Balanced
      ↔ FailsEarly steps ∨ (Sent steps ∧ steps.queue.awaitReply timeout = .ok none) := by
  by_cases hsent : Sent steps
  · simp only [hsent, hsent.not_failsEarly, true_and, false_or]
    by_cases htimeout : steps.queue.awaitReply timeout = .ok none
    · refine iff_of_true ?_ htimeout
      rcases awaitReply_cases steps.queue timeout with ⟨reply, hqueue, hreply⟩ | ⟨_, _, hnever, -⟩
      · obtain rfl : reply = none := Except.ok.inj (hqueue.symm.trans htimeout)
        have hbody := sendAndReceive_of_sent hsent hreply decode
        rw [Except.bind, hdecode] at hbody
        rw [blocking, ledger_catching_error hbody]
        exact (by decide : Ledger.Balanced [.acquired .request, .acquired .queue, .acquired .consumer,
          .released .request, .released .consumer, .released ExchangeResource.queue])
      · exact absurd htimeout (hnever none)
    · exact iff_of_false (not_balanced_of_waited hsent htimeout decode failure) htimeout
  · rw [blocking, sendAndReceive, balanced_of_not_sent hsent]
    simp [hsent]

/-- **A detached exchange** leaves a balanced ledger precisely if it fails early: what is sent by one is
    never deleted. -/
theorem balanced_detached_iff (steps : ExchangeSteps) (thread : Except Exn Unit) (timeout : Int)
    (answer : α) (failure : CxxString → Exn) :
    (detached steps thread timeout answer failure).ledger.Balanced ↔ FailsEarly steps := by
  unfold detached
  by_cases hsent : Sent steps
  · refine iff_of_false ?_ hsent.not_failsEarly
    cases thread with
    | error e =>
        exact not_balanced_catching (sendAndDetach_of_error hsent e timeout answer) (r := .queue)
          (by decide) (by simp) (by simp) failure
    | ok _ =>
        have hended : sendAndDetach steps (.ok ()) timeout answer
            = (.ok answer, [.acquired .request, .acquired .queue, .acquired .consumer]
                ++ (awaitReply steps.queue timeout).ledger) := by
          rw [sendAndDetach, bind_of_ok (sendRequest_of_sent hsent),
            ← List.append_nil (awaitReply steps.queue timeout).ledger]
          rfl
        rw [ledger_catching_ok hended]
        refine Ledger.not_balanced_of_open (r := .request) (by simp) ?_
        rcases awaitReply_cases steps.queue timeout with
          ⟨reply, -, hreply⟩ | ⟨e, waited, -, hreply, honly⟩
        · rw [hreply]
          cases reply <;> simp [ledger]
        · rw [hreply]
          have hrequest : LedgerEntry.released ExchangeResource.request ∉ waited := fun hmem =>
            absurd (honly _ hmem) (by decide)
          simpa [ledger] using hrequest
  · rw [sendAndDetach, balanced_of_not_sent hsent]

end Exchange

end Giapi
