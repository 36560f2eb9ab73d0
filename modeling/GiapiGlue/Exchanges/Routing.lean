import GiapiGlue.Exchanges.QueueOwners

set_option autoImplicit false

/-! # Where requests and replies go

In every interleaving of exchanges: each queue is named by one request at most, which its owner sent; it
holds the answers to that request, in order; and what its owner took is the first of them. -/

namespace Giapi

open Interleaving

/-! ## Requests and answers -/

/-- Every queue is named by one request at most, of its owner; every answer is to a request. -/
structure Requests (broker : Broker) (phases : List ExchangePhase) : Prop where
  sent : ∀ queue ∈ broker.requests,
    ∃ i phase, Owns phases i phase queue ∧ phase.dispatched = true ∧ 5 ≤ phase.asked
  once : broker.requests.Nodup
  known : ∀ request ∈ broker.answers, request.1 < broker.requests.length

section Requests

variable {broker broker' : Broker} {phases : List ExchangePhase} {i : Nat}
  {phase phase' : ExchangePhase}

/-- The senders of requests after a call, which may have sent one for this queue. -/
theorem Requests.sent_set (h : Requests broker phases) (hi : phases[i]? = some phase)
    (hqueue : ∀ queue, phase.queue = some queue → phase'.queue = some queue)
    (hkept : phase.dispatched = true → phase'.dispatched = true) (hasked : phase.asked ≤ phase'.asked) :
    ∀ queue ∈ broker.requests,
      ∃ j other, Owns (phases.set i phase') j other queue ∧ other.dispatched = true ∧ 5 ≤ other.asked := by
  intro queue hmem
  obtain ⟨j, other, hown, hdispatched, hle⟩ := h.sent queue hmem
  by_cases hj : j = i
  · subst hj
    obtain rfl : phase = other := Option.some.inj (hi.symm.trans hown.1)
    exact ⟨j, phase', (owns_set hi).2 (by rw [if_pos rfl]; exact ⟨rfl, hqueue queue hown.2⟩),
      hkept hdispatched, hle.trans hasked⟩
  · exact ⟨j, other, (owns_set hi).2 (by rwa [if_neg hj]), hdispatched, hle⟩

theorem Requests.served (h : Requests broker phases) (howners : Owners broker.queues phases)
    (hi : phases[i]? = some phase) (hserved : Served phase broker phase' broker') :
    Requests broker' (phases.set i phase') := by
  cases hserved with
  | plain asked dispatched threw hasked hkept =>
      exact ⟨h.sent_set hi (fun _ hq => hq) hkept hasked.le, h.once, h.known⟩
  | created threw hasked =>
      refine ⟨h.sent_set hi (fun queue hq => ?_) id (hasked.trans (Nat.le_succ _)), h.once, h.known⟩
      have := howners.created ⟨hi, hq⟩
      omega
  | received queue box reply threw _ _ _ hasked =>
      exact ⟨h.sent_set hi (fun _ hq => hq) id (hasked.trans (Nat.le_succ _)), h.once, h.known⟩
  | destroyed queue box threw _ _ hasked =>
      exact ⟨h.sent_set hi (fun _ hq => hq) id (hasked.trans (Nat.le_succ _)), h.once, h.known⟩
  | sent queue threw hown hasked =>
      constructor
      · intro q hmem
        rcases List.mem_append.1 hmem with hmem | hmem
        · refine h.sent_set hi ?_ ?_ ?_ q hmem
          · exact fun _ hq => hq
          · exact fun _ => rfl
          · exact hasked.trans (Nat.le_succ _)
        · rw [List.mem_singleton.1 hmem]
          exact ⟨i, _, (owns_set hi).2 (by rw [if_pos rfl]; exact ⟨rfl, hown⟩), rfl, le_refl _⟩
      · refine List.nodup_append.2 ⟨h.once, by simp, ?_⟩
        -- a request that names the queue would be of the same thread
        rintro q hmem q' hmem' rfl
        rw [List.mem_singleton.1 hmem'] at hmem
        obtain ⟨j, other, hother, -, hle⟩ := h.sent queue hmem
        obtain rfl := howners.unique ⟨hi, hown⟩ hother
        obtain rfl : phase = other := Option.some.inj (hi.symm.trans hother.1)
        omega
      · intro request hrequest
        have := h.known request hrequest
        simp only [List.length_append, List.length_singleton]
        omega

theorem Requests.start (h : Requests broker phases) :
    Requests broker (phases ++ [ExchangePhase.initial]) where
  sent queue hmem := by
    obtain ⟨i, phase, hown, hdispatched⟩ := h.sent queue hmem
    exact ⟨i, phase, owns_start.2 hown, hdispatched⟩
  once := h.once
  known := h.known

end Requests

/-- What an answer does: it is to no request, or it is dropped, or it is delivered. -/
inductive Answered (broker : Broker) (request : Nat × Message) : Broker → Prop
  | unknown : Answered broker request broker
  | dropped (queue : Nat) (hrequest : broker.requests[request.1]? = some queue)
      (hdead : ∀ box, broker.queues[queue]? = some box → box.live = false) :
      Answered broker request { broker with answers := broker.answers ++ [request] }
  | delivered (queue : Nat) (box : Mailbox) (hrequest : broker.requests[request.1]? = some queue)
      (hbox : broker.queues[queue]? = some box) (hlive : box.live = true) :
      Answered broker request
        { broker with
          answers := broker.answers ++ [request]
          queues := broker.queues.set queue { box with arrived := box.arrived ++ [request.2] } }

theorem answer_answered (broker : Broker) (request : Nat × Message) :
    Answered broker request (broker.answer request) := by
  unfold Broker.answer
  cases hrequest : broker.requests[request.1]? with
  | none => exact .unknown
  | some queue =>
      cases hbox : broker.queues[queue]? with
      | none =>
          simp only [hbox]
          exact .dropped queue hrequest (by simp [hbox])
      | some box =>
          simp only [hbox]
          by_cases hlive : box.live = true
          · rw [if_pos hlive]
            exact .delivered queue box hrequest hbox hlive
          · rw [if_neg hlive]
            refine .dropped queue hrequest fun other hother => ?_
            obtain rfl : box = other := Option.some.inj (hbox.symm.trans hother)
            exact Bool.eq_false_iff.2 hlive

theorem Requests.answered {broker broker' : Broker} {phases : List ExchangePhase} {request : Nat × Message}
    (h : Requests broker phases) (hanswered : Answered broker request broker') : Requests broker' phases := by
  have hknown : ∀ queue, broker.requests[request.1]? = some queue →
      ∀ r ∈ broker.answers ++ [request], r.1 < broker.requests.length := by
    intro queue hrequest r hr
    rcases List.mem_append.1 hr with hr | hr
    · exact h.known r hr
    · rw [List.mem_singleton.1 hr]
      exact ObjectHeap.lt_of_getElem? hrequest
  cases hanswered with
  | unknown => exact h
  | dropped queue hrequest _ => exact ⟨h.sent, h.once, hknown queue hrequest⟩
  | delivered queue box hrequest _ _ => exact ⟨h.sent, h.once, hknown queue hrequest⟩

/-! ## What has arrived -/

/-- A queue holds the answers to its request, in order; when it is gone, those that came before. -/
def Delivered (broker : Broker) : Prop :=
  ∀ queue box, broker.queues[queue]? = some box → box.arrived <+: broker.answersTo queue ∧
    (box.live = true → box.arrived = broker.answersTo queue)

section Delivered

variable {broker broker' : Broker} {phases : List ExchangePhase}

/-- A new request changes nothing about the answers to the others. -/
theorem answersTo_sent (hknown : ∀ request ∈ broker.answers, request.1 < broker.requests.length)
    (sent queue : Nat) :
    ({ broker with requests := broker.requests ++ [sent] } : Broker).answersTo queue
      = broker.answersTo queue := by
  unfold Broker.answersTo
  refine congrArg (List.map Prod.snd) (List.filter_congr fun request hrequest => ?_)
  have hlt := hknown request hrequest
  show decide ((broker.requests ++ [sent])[request.1]? = some queue) = _
  rw [List.getElem?_append_left hlt]

theorem answersTo_answered {request : Nat × Message} {queue : Nat}
    (hrequest : broker.requests[request.1]? = some queue) (q : Nat) :
    (((broker.answers ++ [request]).filter fun r => broker.requests[r.1]? = some q).map Prod.snd)
      = broker.answersTo q ++ if q = queue then [request.2] else [] := by
  unfold Broker.answersTo
  rw [List.filter_append, List.map_append]
  congr 1
  by_cases hq : q = queue
  · subst hq
    simp [hrequest]
  · have hne : ¬ queue = q := fun h => hq h.symm
    simp [hrequest, hq, hne]

/-- Nothing has been answered to a queue that is yet to be created. -/
theorem answersTo_fresh (hrequests : Requests broker phases) (howners : Owners broker.queues phases) :
    broker.answersTo broker.queues.length = [] := by
  unfold Broker.answersTo
  rw [List.filter_eq_nil_iff.2, List.map_nil]
  intro request _ hnamed
  have hmem := List.mem_of_getElem? (of_decide_eq_true hnamed)
  obtain ⟨i, phase, hown, -⟩ := hrequests.sent _ hmem
  exact absurd (howners.bound hown) (lt_irrefl _)

theorem Delivered.served {phase phase' : ExchangePhase} (h : Delivered broker)
    (hrequests : Requests broker phases) (howners : Owners broker.queues phases)
    (hserved : Served phase broker phase' broker') : Delivered broker' := by
  -- a box that has the mail of another one
  have hset : ∀ queue (box box' : Mailbox), broker.queues[queue]? = some box → box'.arrived = box.arrived →
      (box'.live = true → box.live = true) →
      Delivered { broker with queues := broker.queues.set queue box' } := by
    intro queue box box' hbox harrived hlive q other hother
    have hother' : (broker.queues.set queue box')[q]? = some other := hother
    rw [ObjectHeap.getElem?_set_of_some hbox] at hother'
    split at hother'
    · next hq =>
        obtain rfl := Option.some.inj hother'
        obtain ⟨htaken, hall⟩ := h queue box hbox
        rw [hq, harrived]
        exact ⟨htaken, fun hl => hall (hlive hl)⟩
    · exact h q other hother'
  cases hserved with
  | plain asked dispatched threw _ _ => exact h
  | created threw _ =>
      intro queue box hbox
      have hbox' : (broker.queues ++ [{ arrived := [], taken := 0, live := true }])[queue]? = some box := hbox
      rw [ObjectHeap.getElem?_alloc] at hbox'
      split at hbox'
      · next hqueue =>
          obtain rfl := Option.some.inj hbox'
          have hnone := answersTo_fresh hrequests howners
          subst hqueue
          exact ⟨List.nil_prefix, fun _ => hnone.symm⟩
      · exact h queue box hbox'
  | sent queue threw _ _ =>
      intro q box hbox
      rw [answersTo_sent hrequests.known]
      exact h q box hbox
  | received queue box reply threw _ hbox _ _ => exact hset queue box _ hbox rfl id
  | destroyed queue box threw _ hbox _ => exact hset queue box _ hbox rfl (fun hl => by cases hl)

theorem Delivered.answered {request : Nat × Message} (h : Delivered broker)
    (hanswered : Answered broker request broker') : Delivered broker' := by
  cases hanswered with
  | unknown => exact h
  | dropped queue hrequest hdead =>
      intro q box hbox
      obtain ⟨htaken, hall⟩ := h q box hbox
      unfold Broker.answersTo
      rw [answersTo_answered hrequest]
      refine ⟨htaken.trans (List.prefix_append _ _), fun hlive => ?_⟩
      have hq : q ≠ queue := by
        rintro rfl
        rw [hdead box hbox] at hlive
        cases hlive
      rw [if_neg hq, List.append_nil]
      exact hall hlive
  | delivered queue box hrequest hbox hlive =>
      intro q other hother
      have hother' : (broker.queues.set queue { box with arrived := box.arrived ++ [request.2] })[q]?
          = some other := hother
      unfold Broker.answersTo
      rw [answersTo_answered hrequest]
      rw [ObjectHeap.getElem?_set_of_some hbox] at hother'
      split at hother'
      · next hq =>
          obtain rfl := Option.some.inj hother'
          have hall := (h queue box hbox).2 hlive
          rw [if_pos hq, hq, ← hall]
          exact ⟨List.prefix_refl _, fun _ => rfl⟩
      · next hq =>
          rw [if_neg hq, List.append_nil]
          exact h q other hother'

end Delivered

/-! ## What was received -/

/-- A queue as its owner knows it. -/
structure Matches (phase : ExchangePhase) (box : Mailbox) : Prop where
  untaken : phase.asked ≤ 5 → box.taken = 0
  reply : ∀ reply, phase.reply = some reply → box.arrived.head? = some reply
  live : box.live = !phase.destroyed

structure Boxes (queues : List Mailbox) (phases : List ExchangePhase) : Prop where
  matched : ∀ {i phase queue box}, Owns phases i phase queue → queues[queue]? = some box → Matches phase box
  /-- Without a queue, nothing was received, and nothing destroyed. -/
  unqueued : ∀ {i : Nat} {phase : ExchangePhase}, phases[i]? = some phase → phase.queue = none →
    phase.reply = none ∧ phase.destroyed = false

section Boxes

variable {queues : List Mailbox} {broker broker' : Broker} {phases : List ExchangePhase} {i : Nat}
  {phase phase' : ExchangePhase}

/-- The thread that was served, and its queue, may have changed. -/
theorem Boxes.update (h : Boxes queues phases) (howners : Owners queues phases)
    (hi : phases[i]? = some phase) (hqueue : phase'.queue = phase.queue)
    (hunqueued : phase.queue = none → phase'.reply = none ∧ phase'.destroyed = false)
    (queues' : List Mailbox)
    (hown : ∀ queue box, phase.queue = some queue → queues'[queue]? = some box → Matches phase' box)
    (hothers : ∀ queue, phase.queue ≠ some queue → queues'[queue]? = queues[queue]?) :
    Boxes queues' (phases.set i phase') := by
  constructor
  · intro j other queue box hother hbox
    rw [owns_set hi] at hother
    split at hother
    · obtain ⟨rfl, hq⟩ := hother
      exact hown queue box (hqueue ▸ hq) hbox
    · next hj =>
        have hne : phase.queue ≠ some queue := fun hq => hj (howners.unique hother ⟨hi, hq⟩)
        exact h.matched hother (hothers queue hne ▸ hbox)
  · intro j other hj hnone
    rw [ObjectHeap.getElem?_set_of_some hi] at hj
    split at hj
    · obtain rfl := Option.some.inj hj
      exact hunqueued (hqueue ▸ hnone)
    · exact h.unqueued hj hnone

theorem Boxes.served (h : Boxes broker.queues phases) (howners : Owners broker.queues phases)
    (hi : phases[i]? = some phase) (hserved : Served phase broker phase' broker') :
    Boxes broker'.queues (phases.set i phase') := by
  cases hserved with
  | plain asked dispatched threw hasked _ =>
      refine h.update howners hi ?_ ?_ _ (fun queue box hown hbox => ?_) fun _ _ => rfl
      · rfl
      · exact h.unqueued hi
      · obtain ⟨huntaken, hreply, hlive⟩ := h.matched ⟨hi, hown⟩ hbox
        exact ⟨fun hle => huntaken (hasked.le.trans hle), hreply, hlive⟩
  | sent queue threw hown hasked =>
      refine h.update howners hi ?_ ?_ _ (fun q box hq hbox => ?_) fun _ _ => rfl
      · rfl
      · exact h.unqueued hi
      · obtain ⟨huntaken, hreply, hlive⟩ := h.matched ⟨hi, hq⟩ hbox
        exact ⟨fun _ => huntaken (hasked.trans (Nat.le_succ _)), hreply, hlive⟩
  | created threw hasked =>
      have hnone : phase.queue = none := by
        rw [Option.eq_none_iff_forall_ne_some]
        intro queue hq
        have := howners.created ⟨hi, hq⟩
        omega
      obtain ⟨hreply, hdestroyed⟩ := h.unqueued hi hnone
      constructor
      · intro j other queue box hother hbox
        have hbox' : (broker.queues ++ [{ arrived := [], taken := 0, live := true }])[queue]? = some box :=
          hbox
        rw [ObjectHeap.getElem?_alloc] at hbox'
        rw [owns_set hi] at hother
        split at hother
        · obtain ⟨rfl, hq⟩ := hother
          rw [if_pos (Option.some.inj hq).symm] at hbox'
          obtain rfl := Option.some.inj hbox'
          exact ⟨fun _ => rfl, fun reply hr => by simp [hreply] at hr, by simp [hdestroyed]⟩
        · rw [if_neg (howners.bound hother).ne] at hbox'
          exact h.matched hother hbox'
      · intro j other hj hq
        rw [ObjectHeap.getElem?_set_of_some hi] at hj
        split at hj
        · rw [← Option.some.inj hj] at hq
          cases hq
        · exact h.unqueued hj hq
  | received queue box reply threw hown hbox hreply hasked =>
      obtain ⟨huntaken, -, hlive⟩ := h.matched ⟨hi, hown⟩ hbox
      refine h.update howners hi ?_ (fun hnone => ?_) _ (fun q other hq hother => ?_) fun q hq => ?_
      · rfl
      · rw [hown] at hnone
        cases hnone
      · obtain rfl : queue = q := Option.some.inj (hown.symm.trans hq)
        rw [ObjectHeap.getElem?_set_of_some hbox, if_pos rfl] at hother
        obtain rfl := Option.some.inj hother
        -- it was the first to be taken
        rw [huntaken hasked] at hreply
        refine ⟨fun hle => absurd hle (by simp), fun r hr => ?_, hlive⟩
        rw [← Option.some.inj hr, List.head?_eq_getElem?]
        exact hreply
      · rw [ObjectHeap.getElem?_set_of_some hbox, if_neg]
        rintro rfl
        exact hq hown
  | destroyed queue box threw hown hbox hasked =>
      obtain ⟨-, hreply, -⟩ := h.matched ⟨hi, hown⟩ hbox
      refine h.update howners hi ?_ (fun hnone => ?_) _ (fun q other hq hother => ?_) fun q hq => ?_
      · rfl
      · rw [hown] at hnone
        cases hnone
      · obtain rfl : queue = q := Option.some.inj (hown.symm.trans hq)
        rw [ObjectHeap.getElem?_set_of_some hbox, if_pos rfl] at hother
        obtain rfl := Option.some.inj hother
        exact ⟨fun hle => absurd hle (by simp), hreply, rfl⟩
      · rw [ObjectHeap.getElem?_set_of_some hbox, if_neg]
        rintro rfl
        exact hq hown

theorem Boxes.start (h : Boxes queues phases) : Boxes queues (phases ++ [ExchangePhase.initial]) where
  matched hown hbox := h.matched (owns_start.1 hown) hbox
  unqueued := by
    intro i phase hi hnone
    rw [ObjectHeap.getElem?_alloc] at hi
    split at hi
    · rw [← Option.some.inj hi]
      exact ⟨rfl, rfl⟩
    · exact h.unqueued hi hnone

/-- One more message on a queue leaves the first where it is. -/
theorem Boxes.answered {request : Nat × Message} (h : Boxes broker.queues phases)
    (hanswered : Answered broker request broker') : Boxes broker'.queues phases := by
  cases hanswered with
  | unknown => exact h
  | dropped queue _ _ => exact h
  | delivered queue box _ hbox hlive =>
      refine ⟨fun {i phase q other} hown hother => ?_, h.unqueued⟩
      have hother' : (broker.queues.set queue { box with arrived := box.arrived ++ [request.2] })[q]?
          = some other := hother
      rw [ObjectHeap.getElem?_set_of_some hbox] at hother'
      split at hother'
      · next hq =>
          obtain rfl := Option.some.inj hother'
          obtain ⟨huntaken, hreply, hlive⟩ := h.matched hown (hq ▸ hbox)
          refine ⟨huntaken, fun reply hr => ?_, hlive⟩
          have hhead := hreply reply hr
          rw [List.head?_append, hhead]
          rfl
      · exact h.matched hown hother'

end Boxes

/-! ## Runs -/

/-- What holds of every interleaving. -/
structure Routed (broker : Broker) (phases : List ExchangePhase) : Prop where
  owners : Owners broker.queues phases
  requests : Requests broker phases
  delivered : Delivered broker
  boxes : Boxes broker.queues phases

theorem Routed.empty : Routed Broker.empty [] where
  owners :=
    { bound := fun hown => by simp [Owns] at hown
      unique := fun hown _ => by simp [Owns] at hown
      created := fun hown => by simp [Owns] at hown
      owned := fun queue hlt => absurd hlt (Nat.not_lt_zero queue) }
  requests :=
    { sent := fun queue hmem => absurd hmem List.not_mem_nil
      once := List.nodup_nil
      known := fun request hmem => absurd hmem List.not_mem_nil }
  delivered := fun queue box hbox => by simp [Broker.empty] at hbox
  boxes :=
    { matched := fun hown _ => by simp [Owns] at hown
      unqueued := fun hi _ => by simp at hi }

theorem routed_keeps : exchangeProtocol.Keeps Broker.services Routed where
  start broker phases h := ⟨h.owners.start, h.requests.start, h.delivered, h.boxes.start⟩
  serve broker phases i phase step happening answer broker' h hi hallowed hserve := by
    have hserved := serve_served hallowed hserve
    exact ⟨h.owners.served hi hserved, h.requests.served h.owners hi hserved,
      h.delivered.served h.requests h.owners hserved, h.boxes.served h.owners hi hserved⟩
  outside broker phases request h := by
    have hanswered := answer_answered broker request
    exact ⟨h.owners.answered request, h.requests.answered hanswered, h.delivered.answered hanswered,
      h.boxes.answered hanswered⟩

end Giapi
