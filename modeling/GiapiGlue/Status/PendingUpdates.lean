import GiapiGlue.Status.StatusUtil

set_option autoImplicit false

/-! # Pending updates

Whether an item that counts as posted has been told to the outside world as it is now. `doPost` clears
the flag of an item before it calls the implementor and does not set it again when the implementor
throws, so the answer depends on which sends throw. -/

namespace Giapi

open StatusSerializerVisitor (Serialized)

/-- The most recent successful send of the item at `p`. -/
def lastSent (sends : List Send) (p : Ptr) : Option Send :=
  sends.find? (fun send => decide (send.statusItem = p) && send.succeeded)

/-- The item was sent with the value, the timestamp and the alarm it has now. -/
def Send.Tells (send : Send) (item : StatusItem) : Prop :=
  send.item.value = item.value ∧ send.item.time = item.time ∧
    send.item.alarmState = item.alarmState

/-- The most recent successful send of the item at `p` tells what it holds now. -/
def UpToDate (sends : List Send) (p : Ptr) (item : StatusItem) : Prop :=
  ∃ send, lastSent sends p = some send ∧ send.Tells item

/-- No item of a type the serializer handles is clean without being up to date. -/
def NoUpdateLost (s : StatusService) : Prop :=
  ∀ p item, s.database.heap[p]? = some item → Serialized item.type → item.isChanged = false →
    UpToDate s.sends p item

/-- Sends that throw are of items that were up to date already. -/
def HarmlessThrows (sends : List Send) : Prop :=
  ∀ send older, send :: older <:+ sends → send.succeeded = false → Serialized send.item.type →
    UpToDate older send.statusItem send.item

namespace StatusUtil

open AbstractStatusSender (sent)

/-! ## One more send -/

theorem lastSent_failed (send : Send) (h : send.succeeded = false) (sends : List Send) (p : Ptr) :
    lastSent (send :: sends) p = lastSent sends p := by
  simp [lastSent, h]

theorem lastSent_other {send : Send} {p : Ptr} (h : p ≠ send.statusItem) (sends : List Send) :
    lastSent (send :: sends) p = lastSent sends p := by
  simp [lastSent, Ne.symm h]

theorem lastSent_self {send : Send} (h : send.succeeded = true) (sends : List Send) :
    lastSent (send :: sends) send.statusItem = some send := by
  simp [lastSent, h]

theorem UpToDate.congr {sends sends' : List Send} {p : Ptr} {item : StatusItem}
    (h : lastSent sends' p = lastSent sends p) : UpToDate sends' p item ↔ UpToDate sends p item := by
  unfold UpToDate
  rw [h]

theorem HarmlessThrows.nil : HarmlessThrows [] :=
  fun send older h => absurd (List.eq_nil_of_suffix_nil h) (List.cons_ne_nil send older)

/-- The record grows by one send: what it says of the older sends does not change. -/
theorem harmlessThrows_cons (send : Send) (sends : List Send) :
    HarmlessThrows (send :: sends) ↔ HarmlessThrows sends ∧
      (send.succeeded = false → Serialized send.item.type →
        UpToDate sends send.statusItem send.item) := by
  constructor
  · intro h
    exact ⟨fun x older hx => h x older (hx.trans (List.suffix_cons send sends)),
      h send sends (List.suffix_refl _)⟩
  · rintro ⟨hold, hnew⟩ x older hx
    rcases List.suffix_cons_iff.1 hx with heq | hsuffix
    · obtain ⟨rfl, rfl⟩ := List.cons.inj heq
      exact hnew
    · exact hold x older hsuffix

/-! ## What each part of a call does to the pending updates -/

theorem noUpdateLost_change {creates : Option CxxString} {s : StatusService} (h : NoUpdateLost s)
    {db : StatusDatabase} (hdb : s.database.Change creates db) : NoUpdateLost { s with database := db } := by
  intro p item hp hser hclean
  cases hdb with
  | lookup name => exact h p item (by simpa using hp) hser hclean
  | store name object _ _ _ _ hdirty =>
      rw [StatusDatabase.store, ObjectHeap.getElem?_alloc] at hp
      split at hp
      · -- the new item is dirty
        rw [Option.some.injEq] at hp
        rw [← hp, StatusItem.isChanged, hdirty] at hclean
        exact absurd hclean (by simp)
      · exact h p item hp hser hclean
  | update q object object' hq hupdated =>
      rw [ObjectHeap.getElem?_set_of_some hq] at hp
      split at hp
      · next hpq =>
          rw [Option.some.injEq] at hp
          subst hp hpq
          rcases hupdated.marked with hsame | hmarked
          · subst hsame
            exact h p object' hq hser hclean
          · rw [StatusItem.isChanged, hmarked] at hclean
            exact absurd hclean (by simp)
      · exact h p item hp hser hclean

/-- A send cleans one item: no update is lost if that item is up to date then. -/
theorem noUpdateLost_sent_iff {s : StatusService} (h : NoUpdateLost s) {p : Ptr}
    {item : StatusItem} (hp : s.database.heap[p]? = some item) (outcome : Except Exn Unit) :
    NoUpdateLost (sent s p item outcome) ↔
      (Serialized item.type → UpToDate (sent s p item outcome).sends p item.clearChanged) := by
  constructor
  · intro hsent hser
    refine hsent p item.clearChanged ?_ hser rfl
    rw [AbstractStatusSender.sent_heap hp, if_pos rfl]
  · intro hup q other hq hser hclean
    rw [AbstractStatusSender.sent_heap hp] at hq
    by_cases hqp : q = p
    · rw [if_pos hqp, Option.some.injEq] at hq
      subst hq hqp
      exact hup hser
    · rw [if_neg hqp] at hq
      exact (UpToDate.congr (lastSent_other hqp s.sends)).2 (h q other hq hser hclean)

theorem noUpdateLost_sent_ok {s : StatusService} (h : NoUpdateLost s) {p : Ptr} {item : StatusItem}
    (hp : s.database.heap[p]? = some item) : NoUpdateLost (sent s p item (.ok ())) :=
  (noUpdateLost_sent_iff h hp (.ok ())).2
    (fun _ => ⟨_, lastSent_self rfl s.sends, rfl, rfl, rfl⟩)

theorem noUpdateLost_sent_error_iff {s : StatusService} (h : NoUpdateLost s) {p : Ptr}
    {item : StatusItem} (hp : s.database.heap[p]? = some item) (e : Exn) :
    NoUpdateLost (sent s p item (.error e)) ↔
      (Serialized item.type → UpToDate s.sends p item.clearChanged) := by
  rw [noUpdateLost_sent_iff h hp]
  exact imp_congr Iff.rfl (UpToDate.congr (lastSent_failed _ rfl s.sends p))

/-- The parts of a call that do not throw lose nothing and add no throw to the record. -/
theorem noUpdateLost_effects {creates : Option CxxString} {s s' : StatusService}
    (h : Effects creates s s') :
    (NoUpdateLost s → NoUpdateLost s') ∧ (HarmlessThrows s'.sends ↔ HarmlessThrows s.sends) := by
  induction h with
  | refl => exact ⟨id, Iff.rfl⟩
  | tail _ heffect ih =>
      obtain ⟨ihkeep, ihrecord⟩ := ih
      cases heffect with
      | change db hdb => exact ⟨fun h => noUpdateLost_change (ihkeep h) hdb, ihrecord⟩
      | sent p item hp _ =>
          refine ⟨fun h => noUpdateLost_sent_ok (ihkeep h) hp, ?_⟩
          rw [← ihrecord]
          refine (harmlessThrows_cons _ _).trans (and_iff_left ?_)
          intro hfailed
          exact absurd hfailed (by simp [Send.succeeded, Except.toBool])

theorem harmlessThrows_of_step (s : StatusService) (op : StatusOp)
    (h : HarmlessThrows (step s op).sends) : HarmlessThrows s.sends := by
  have hout := step_outcome s op
  generalize step s op = s' at hout h
  cases hout with
  | quiet heffects => exact (noUpdateLost_effects heffects).2.1 h
  | thrown heffects p item e _ _ =>
      exact (noUpdateLost_effects heffects).2.1 ((harmlessThrows_cons _ _).1 h).1

/-- **One call.** It loses an update precisely if it ends with a throw that is not harmless. -/
theorem noUpdateLost_step_iff (s : StatusService) (op : StatusOp) (h : NoUpdateLost s)
    (hrecord : HarmlessThrows s.sends) :
    NoUpdateLost (step s op) ↔ HarmlessThrows (step s op).sends := by
  have hout := step_outcome s op
  generalize step s op = s' at hout ⊢
  cases hout with
  | quiet heffects =>
      obtain ⟨hkeep, hiff⟩ := noUpdateLost_effects heffects
      exact iff_of_true (hkeep h) (hiff.2 hrecord)
  | @thrown mid heffects p item e hp hchanged =>
      obtain ⟨hkeep, hiff⟩ := noUpdateLost_effects heffects
      rw [noUpdateLost_sent_error_iff (hkeep h) hp e]
      have hcons := harmlessThrows_cons
        { statusItem := p, item := item.clearChanged, outcome := .error e } mid.sends
      rw [show (sent mid p item (.error e)).sends
        = { statusItem := p, item := item.clearChanged, outcome := .error e } :: mid.sends from rfl,
        hcons]
      constructor
      · intro hup
        exact ⟨hiff.2 hrecord, fun _ hser => hup hser⟩
      · rintro ⟨-, hnew⟩ hser
        exact hnew rfl hser

/-- **Pending updates.** No update is lost in any state of a run precisely if every send that threw
    was of an item whose last successful send had told all it held. -/
theorem noUpdateLost_iff_harmlessThrows (ops : List StatusOp) :
    Run.Always step NoUpdateLost initial ops ↔ HarmlessThrows (after ops).sends :=
  Run.always_iff_history (J := fun _ => True) (H := fun s => HarmlessThrows s.sends)
    (fun _ => trivial) (fun p item hp => by simp [initial, StatusDatabase.empty] at hp)
    HarmlessThrows.nil (fun s op _ => harmlessThrows_of_step s op)
    (fun s op _ h hrecord => noUpdateLost_step_iff s op h hrecord) ops

/-- A connection whose broker is gone. -/
def brokenResources : JmsStatusSender.Resources :=
  { createBytesMessage := .ok ()
    createTopic := fun _ => .ok ()
    send := fun _ _ => .error (.cmsException (str "Socket closed")) }

/-- The clock stands at 1000 ms. -/
def oneSecond : CallEnv := { gettimeofday := some { tvSec := 1, tvUsec := 0 }, memory := 0 }

/-- An item is created and posted once, without success. -/
def failedPost : List StatusOp :=
  [.createStatusItem oneSecond (str "x") .int,
    .postStatusItem (.ok (JmsStatusSender.postStatus fun _ => brokenResources)) (str "x")]

/-- A new item whose first post fails is clean, and has never been sent. -/
theorem failed_post_loses_update : ¬ Run.Always step NoUpdateLost initial failedPost := by
  intro h
  obtain ⟨send, hsend, -⟩ := h.final 0 _ rfl (by decide) rfl
  have hnone : lastSent (after failedPost).sends 0 = none := rfl
  rw [hnone] at hsend
  exact absurd hsend (by simp)

end StatusUtil

end Giapi
