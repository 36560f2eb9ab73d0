import GiapiGlue.Exchanges.ReplyQueues
import GiapiGlue.Lib.ObjectHeap

set_option autoImplicit false

/-! # The queues of interleaved exchanges

What one call of an exchange that follows the protocol can do to its phase and to the broker, and that every
temporary queue is the only one of the thread that created it. -/

namespace Giapi

open Interleaving

/-! ## What a call of an exchange can do -/

/-- The thread with number `i` is in this phase, and the queue is its own. -/
def Owns (phases : List ExchangePhase) (i : Nat) (phase : ExchangePhase) (queue : Nat) : Prop :=
  phases[i]? = some phase ∧ phase.queue = some queue

/-- The replies servers gave to requests that name this queue. -/
def Broker.answersTo (broker : Broker) (queue : Nat) : List Message :=
  (broker.answers.filter fun request => broker.requests[request.1]? = some queue).map Prod.snd

/-- The phase and the broker after a call of a thread in `phase`. -/
inductive Served (phase : ExchangePhase) (broker : Broker) : ExchangePhase → Broker → Prop
  | plain (asked : Nat) (dispatched threw : Bool) (hasked : phase.asked < asked)
      (hkept : phase.dispatched = true → dispatched = true) :
      Served phase broker { phase with asked, dispatched, threw } broker
  | created (threw : Bool) (hasked : phase.asked ≤ 2) :
      Served phase broker { phase with asked := 3, queue := some broker.queues.length, threw }
        { broker with queues := broker.queues ++ [{ arrived := [], taken := 0, live := true }] }
  | sent (queue : Nat) (threw : Bool) (hown : phase.queue = some queue) (hasked : phase.asked ≤ 4) :
      Served phase broker { phase with asked := 5, dispatched := true, threw }
        { broker with requests := broker.requests ++ [queue] }
  | received (queue : Nat) (box : Mailbox) (reply : Message) (threw : Bool)
      (hown : phase.queue = some queue) (hbox : broker.queues[queue]? = some box)
      (hreply : box.arrived[box.taken]? = some reply) (hasked : phase.asked ≤ 5) :
      Served phase broker { phase with asked := 6, reply := some reply, threw }
        { broker with queues := broker.queues.set queue { box with taken := box.taken + 1 } }
  | destroyed (queue : Nat) (box : Mailbox) (threw : Bool) (hown : phase.queue = some queue)
      (hbox : broker.queues[queue]? = some box) (hasked : phase.asked ≤ 7) :
      Served phase broker { phase with asked := 8, destroyed := true, threw }
        { broker with queues := broker.queues.set queue { box with live := false } }

theorem served_plain {phase : ExchangePhase} {step : ExchangeStep} (hasked : phase.asked ≤ step.order)
    {happening : Broker.Happening} {broker broker' : Broker} {answer : Except Exn Unit}
    (h : broker.plain happening = some (answer, broker')) (dispatched threw : Bool)
    (hkept : phase.dispatched = true → dispatched = true) :
    Served phase broker { phase with asked := step.order + 1, dispatched, threw } broker' := by
  have hsame : broker' = broker := by
    cases happening <;> simp [Broker.plain] at h <;> exact h.2.symm
  subst hsame
  exact .plain (step.order + 1) dispatched threw (Nat.lt_succ_of_le hasked) hkept

/-- **One call**, of a thread that follows the protocol. -/
theorem serve_served {phase : ExchangePhase} {step : ExchangeStep}
    (hallowed : exchangeProtocol.allowed phase step) {happening : Broker.Happening} {broker : Broker}
    {answer : step.Returns} {broker' : Broker}
    (h : Broker.services.serve step happening broker = some (answer, broker')) :
    Served phase broker (phase.next step answer) broker' := by
  obtain ⟨hasked, hown⟩ := hallowed
  cases step with
  | createMessage => exact served_plain hasked h phase.dispatched _ id
  | prepare => exact served_plain hasked h phase.dispatched _ id
  | createConsumer queue => exact served_plain hasked h phase.dispatched _ id
  | close queue => exact served_plain hasked h phase.dispatched _ id
  | createTemporaryQueue =>
      cases happening with
      | succeeds =>
          obtain ⟨rfl, rfl⟩ := Prod.mk.inj (Option.some.inj h)
          exact .created _ hasked
      | nothing => cases h
      | throws e sent =>
          obtain ⟨rfl, rfl⟩ := Prod.mk.inj (Option.some.inj h)
          exact .plain 3 phase.dispatched _ (Nat.lt_succ_of_le hasked) id
  | dispatch queue =>
      have hqueue := hown queue rfl
      cases happening with
      | succeeds =>
          obtain ⟨rfl, rfl⟩ := Prod.mk.inj (Option.some.inj h)
          exact .sent queue _ hqueue hasked
      | nothing => cases h
      | throws e sent =>
          cases sent with
          | true =>
              obtain ⟨rfl, rfl⟩ := Prod.mk.inj (Option.some.inj h)
              exact .sent queue _ hqueue hasked
          | false =>
              obtain ⟨rfl, rfl⟩ := Prod.mk.inj (Option.some.inj h)
              exact .plain 5 true _ (Nat.lt_succ_of_le hasked) fun _ => rfl
  | receive queue timeout =>
      have hqueue := hown queue rfl
      cases happening with
      | succeeds =>
          have h' : broker.receive queue .succeeds = some (answer, broker') := h
          cases hbox : broker.queues[queue]? with
          | none => simp [Broker.receive, hbox] at h'
          | some box =>
              cases hreply : box.arrived[box.taken]? with
              | none => simp [Broker.receive, hbox, hreply] at h'
              | some reply =>
                  simp only [Broker.receive, hbox, hreply] at h'
                  obtain ⟨rfl, rfl⟩ := Prod.mk.inj (Option.some.inj h')
                  exact .received queue box reply _ hqueue hbox hreply hasked
      | nothing =>
          obtain ⟨rfl, rfl⟩ := Prod.mk.inj (Option.some.inj h)
          exact .plain 6 phase.dispatched _ (Nat.lt_succ_of_le hasked) id
      | throws e sent =>
          obtain ⟨rfl, rfl⟩ := Prod.mk.inj (Option.some.inj h)
          exact .plain 6 phase.dispatched _ (Nat.lt_succ_of_le hasked) id
  | destroy queue =>
      have hqueue := hown queue rfl
      cases happening with
      | succeeds =>
          have h' : broker.destroy queue .succeeds = some (answer, broker') := h
          cases hbox : broker.queues[queue]? with
          | none => simp [Broker.destroy, hbox] at h'
          | some box =>
              simp only [Broker.destroy, hbox] at h'
              obtain ⟨rfl, rfl⟩ := Prod.mk.inj (Option.some.inj h')
              exact .destroyed queue box _ hqueue hbox hasked
      | nothing => cases h
      | throws e sent =>
          obtain ⟨rfl, rfl⟩ := Prod.mk.inj (Option.some.inj h)
          exact .plain 8 phase.dispatched _ (Nat.lt_succ_of_le hasked) id

/-! ## Queues and their owners -/

section Owners

variable {phases : List ExchangePhase} {i j : Nat} {phase phase' other : ExchangePhase} {queue : Nat}

theorem owns_start : Owns (phases ++ [ExchangePhase.initial]) j other queue ↔ Owns phases j other queue := by
  unfold Owns
  rw [ObjectHeap.getElem?_alloc]
  split
  · next hj =>
      subst hj
      simp only [List.getElem?_eq_none (le_refl phases.length), reduceCtorEq, false_and, iff_false,
        Option.some.injEq, not_and]
      rintro rfl
      exact fun h => by cases h
  · rfl

theorem owns_set (hi : phases[i]? = some phase) : Owns (phases.set i phase') j other queue
    ↔ if j = i then other = phase' ∧ phase'.queue = some queue else Owns phases j other queue := by
  unfold Owns
  rw [ObjectHeap.getElem?_set_of_some hi]
  split
  · simp only [Option.some.injEq]
    constructor
    · rintro ⟨rfl, h⟩
      exact ⟨rfl, h⟩
    · rintro ⟨rfl, h⟩
      exact ⟨rfl, h⟩
  · rfl

end Owners

/-- Every queue was created by one thread, and is its only one. -/
structure Owners (queues : List Mailbox) (phases : List ExchangePhase) : Prop where
  bound : ∀ {i phase queue}, Owns phases i phase queue → queue < queues.length
  unique : ∀ {i j phase phase' queue}, Owns phases i phase queue → Owns phases j phase' queue → i = j
  created : ∀ {i phase queue}, Owns phases i phase queue → 3 ≤ phase.asked
  owned : ∀ queue < queues.length, ∃ i phase, Owns phases i phase queue

/-- A call that creates no queue. -/
theorem Owners.kept {queues queues' : List Mailbox} {phases : List ExchangePhase} (h : Owners queues phases)
    {i : Nat} {phase phase' : ExchangePhase} (hi : phases[i]? = some phase)
    (hqueue : phase'.queue = phase.queue) (hasked : phase.asked ≤ phase'.asked)
    (hlength : queues'.length = queues.length) : Owners queues' (phases.set i phase') := by
  -- what a thread owns now it, or the thread that was served, owned before
  have hbefore : ∀ {j other queue}, Owns (phases.set i phase') j other queue →
      ∃ old, Owns phases j old queue ∧ old.asked ≤ other.asked := by
    intro j other queue hother
    rw [owns_set hi] at hother
    split at hother
    · next hj =>
        obtain ⟨rfl, hown⟩ := hother
        exact ⟨phase, ⟨hj ▸ hi, hqueue ▸ hown⟩, hasked⟩
    · exact ⟨other, hother, le_refl _⟩
  constructor
  · intro j other queue hother
    obtain ⟨old, hold, -⟩ := hbefore hother
    exact hlength ▸ h.bound hold
  · intro j k other other' queue hother hother'
    obtain ⟨old, hold, -⟩ := hbefore hother
    obtain ⟨old', hold', -⟩ := hbefore hother'
    exact h.unique hold hold'
  · intro j other queue hother
    obtain ⟨old, hold, hle⟩ := hbefore hother
    exact (h.created hold).trans hle
  · intro queue hlt
    obtain ⟨j, old, hold⟩ := h.owned queue (hlength ▸ hlt)
    by_cases hj : j = i
    · subst hj
      obtain rfl : phase = old := Option.some.inj (hi.symm.trans hold.1)
      exact ⟨j, phase', (owns_set hi).2 (by rw [if_pos rfl]; exact ⟨rfl, hqueue ▸ hold.2⟩)⟩
    · exact ⟨j, old, (owns_set hi).2 (by rwa [if_neg hj])⟩

theorem Owners.create {queues : List Mailbox} {phases : List ExchangePhase} (h : Owners queues phases)
    {i : Nat} {phase phase' : ExchangePhase} (hi : phases[i]? = some phase) (hasked : phase.asked ≤ 2)
    (hqueue : phase'.queue = some queues.length) (hasked' : phase'.asked = 3) (box : Mailbox) :
    Owners (queues ++ [box]) (phases.set i phase') := by
  have hlength : (queues ++ [box]).length = queues.length + 1 := by simp
  have hbefore : ∀ {j other queue}, Owns (phases.set i phase') j other queue →
      j = i ∧ other = phase' ∧ queue = queues.length ∨ j ≠ i ∧ Owns phases j other queue := by
    intro j other queue hother
    rw [owns_set hi] at hother
    split at hother
    · next hj =>
        obtain ⟨rfl, hown⟩ := hother
        exact Or.inl ⟨hj, rfl, Option.some.inj (hown.symm.trans hqueue)⟩
    · next hj => exact Or.inr ⟨hj, hother⟩
  constructor
  · intro j other queue hother
    rw [hlength]
    rcases hbefore hother with ⟨-, -, rfl⟩ | ⟨-, hold⟩
    · exact Nat.lt_succ_self _
    · exact Nat.lt_succ_of_lt (h.bound hold)
  · intro j k other other' queue hother hother'
    rcases hbefore hother with ⟨rfl, -, rfl⟩ | ⟨-, hold⟩ <;>
      rcases hbefore hother' with ⟨rfl, -, hnew⟩ | ⟨-, hold'⟩
    · rfl
    · exact absurd (h.bound hold') (lt_irrefl _)
    · exact absurd (h.bound (hnew ▸ hold)) (lt_irrefl _)
    · exact h.unique hold hold'
  · intro j other queue hother
    rcases hbefore hother with ⟨-, rfl, -⟩ | ⟨-, hold⟩
    · exact hasked'.ge
    · exact h.created hold
  · intro queue hlt
    rw [hlength] at hlt
    rcases Nat.lt_succ_iff_lt_or_eq.1 hlt with hlt | rfl
    · obtain ⟨j, old, hold⟩ := h.owned queue hlt
      refine ⟨j, old, (owns_set hi).2 ?_⟩
      rw [if_neg ?_]
      · exact hold
      · -- the thread that was served had no queue yet
        rintro rfl
        obtain rfl : phase = old := Option.some.inj (hi.symm.trans hold.1)
        have := h.created hold
        omega
    · exact ⟨i, phase', (owns_set hi).2 (by rw [if_pos rfl]; exact ⟨rfl, hqueue⟩)⟩

theorem Owners.served {broker broker' : Broker} {phases : List ExchangePhase}
    (h : Owners broker.queues phases) {i : Nat} {phase phase' : ExchangePhase}
    (hi : phases[i]? = some phase) (hserved : Served phase broker phase' broker') :
    Owners broker'.queues (phases.set i phase') := by
  cases hserved with
  | plain asked dispatched threw hasked _ => exact h.kept hi rfl hasked.le rfl
  | created threw hasked => exact h.create hi hasked rfl rfl _
  | sent queue threw _ hasked => exact h.kept hi rfl (hasked.trans (Nat.le_succ _)) rfl
  | received queue box reply threw _ _ _ hasked =>
      exact h.kept hi rfl (hasked.trans (Nat.le_succ _)) (List.length_set)
  | destroyed queue box threw _ _ hasked => exact h.kept hi rfl (hasked.trans (Nat.le_succ _)) (List.length_set)

theorem Owners.start {queues : List Mailbox} {phases : List ExchangePhase} (h : Owners queues phases) :
    Owners queues (phases ++ [ExchangePhase.initial]) where
  bound hown := h.bound (owns_start.1 hown)
  unique hown hown' := h.unique (owns_start.1 hown) (owns_start.1 hown')
  created hown := h.created (owns_start.1 hown)
  owned queue hlt := by
    obtain ⟨i, phase, hown⟩ := h.owned queue hlt
    exact ⟨i, phase, owns_start.2 hown⟩

/-- An answer creates no queue. -/
theorem Owners.answered {broker : Broker} {phases : List ExchangePhase} (h : Owners broker.queues phases)
    (request : Nat × Message) : Owners (broker.answer request).queues phases := by
  have hlength : (broker.answer request).queues.length = broker.queues.length := by
    unfold Broker.answer
    cases broker.requests[request.1]? with
    | none => rfl
    | some queue =>
        cases hbox : broker.queues[queue]? with
        | none => simp [hbox]
        | some box =>
            cases hlive : box.live <;> simp [hbox, hlive]
  exact ⟨fun hown => hlength ▸ h.bound hown, h.unique, h.created, fun queue hlt => h.owned queue (hlength ▸ hlt)⟩

end Giapi
