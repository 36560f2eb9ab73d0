import GiapiGlue.Lib.LatestValue
import GiapiGlue.Status.PendingUpdates
import GiapiGlue.Status.PostAll
import GiapiGlue.Status.Registration
import GiapiGlue.Status.RepeatedSets
import GiapiGlue.Status.WireMessages

set_option autoImplicit false

/-! # What a receiver of status messages has

A receiver that decodes what arrives and keeps the latest message of each topic mirrors the status
database, with the delay of the wire and of the posts. It never has anything an item was not, and never goes
back to an older state; and after a `postStatus()` that answers `OK` it has each item as it is, unless an
update of it was lost in an earlier send. -/

namespace Giapi

open StatusSerializerVisitor (StatusMessage messageOf Serialized)

/-! ## The wire -/

/-- A message: its topic and its body. -/
abbrev TopicMessage : Type := CxxString × List UInt8

def statusTopic (name : CxxString) : CxxString := GMPKeys.gmpStatusDestinationPrefix ++ name

/-- What a send through JMS puts on the wire: nothing if it throws. -/
def Send.onWire (send : Send) : Option TopicMessage :=
  match send.outcome, (StatusSerializerVisitor.accept send.item).run [] with
  | .ok (), .ok ((), body) => some (statusTopic send.item.name, body)
  | _, _ => none

/-- All messages so far, the first first. -/
def wire (sends : List Send) : List TopicMessage := sends.reverse.filterMap Send.onWire

/-- A send is of the object that is at its address now: what cannot change is the same. -/
structure Send.OfObject (send : Send) (item : StatusItem) : Prop where
  name : send.item.name = item.name
  type : send.item.type = item.type
  kind : send.item.kind = item.kind

namespace StatusReceiver

/-- A body that is no status message is dropped. -/
def understand (message : TopicMessage) : Option (CxxString × StatusMessage) :=
  match StatusSerializerVisitor.decode.run message.2 with
  | .ok (told, []) => some (message.1, told)
  | _ => none

/-- What the receiver of these messages has for each topic. -/
def view (messages : List TopicMessage) : CxxString → Option StatusMessage :=
  LatestValue.latest (messages.filterMap understand)

end StatusReceiver

/-- `postStatus()` through a JMS sender. -/
def StatusOp.postAllThrough (resources : Nat → JmsStatusSender.Resources) : StatusOp :=
  .postStatus (.ok (JmsStatusSender.postStatus resources))

theorem StatusOp.postAllThrough_throughJms (resources : Nat → JmsStatusSender.Resources) :
    (postAllThrough resources).ThroughJms :=
  fun _ hpost => ⟨resources, (Except.ok.inj (Option.some.inj hpost)).symm⟩

namespace StatusUtil

open StatusReceiver (understand view)
open AbstractStatusSender (sent sent_heap postItems WentThrough dirty)

theorem statusTopic_injective : Function.Injective statusTopic :=
  fun _ _ h => List.append_cancel_left h

theorem wire_cons (send : Send) (sends : List Send) :
    wire (send :: sends) = wire sends ++ send.onWire.toList := by
  cases h : send.onWire <;> simp [wire, h]

/-! ## One send -/

/-- What holds of every send of a run through JMS senders: it is of an item that holds a value of its
    type, and if it succeeded its message was delivered. -/
structure Regular (send : Send) : Prop where
  typed : send.item.WellTyped
  delivered : send.succeeded = true → ∃ body, JmsStatusSender.Delivered send.item body

theorem regular_after {ops : List StatusOp} (hjms : ∀ op ∈ ops, op.ThroughJms) :
    ∀ send ∈ (after ops).sends, Regular send :=
  fun send hsend => ⟨wellTyped_sends ops send hsend, delivered_after hjms send hsend⟩

theorem onWire_of_failed {send : Send} (h : send.succeeded = false) : send.onWire = none := by
  unfold Send.onWire
  cases hout : send.outcome with
  | ok u => simp [Send.succeeded, hout, Except.toBool] at h
  | error e => rfl

theorem onWire_of_succeeded {send : Send} (h : send.succeeded = true) {body : List UInt8}
    (hbody : JmsStatusSender.Delivered send.item body) :
    send.onWire = some (statusTopic send.item.name, body) := by
  unfold Send.onWire
  rw [hbody.1]
  cases hout : send.outcome with
  | ok u => rfl
  | error e => simp [Send.succeeded, hout, Except.toBool] at h

/-- Whatever a send puts on the wire goes to the topic of its item. -/
theorem topic_of_onWire {send : Send} {message : TopicMessage} (h : send.onWire = some message) :
    message.1 = statusTopic send.item.name := by
  unfold Send.onWire at h
  split at h
  · rw [← Option.some.inj h]
  · cases h

theorem understand_fst {message : TopicMessage} {told : CxxString × StatusMessage}
    (h : understand message = some told) : told.1 = message.1 := by
  unfold understand at h
  split at h
  · rw [← Option.some.inj h]
  · cases h

/-- A message of an item of a type with a handler is understood. -/
theorem understand_delivered {item : StatusItem} (hser : Serialized item.type)
    (htyped : item.WellTyped) {body : List UInt8} (h : JmsStatusSender.Delivered item body) :
    understand (statusTopic item.name, body) = some (statusTopic item.name, messageOf item) := by
  have hshort := StatusSerializerVisitor.shortStrings_of_accept hser htyped h.1
  have hbytes := StatusSerializerVisitor.writes_accept hser htyped hshort []
  rw [List.nil_append] at hbytes
  obtain ⟨-, rfl⟩ := Prod.mk.inj (Except.ok.inj (hbytes.symm.trans h.1))
  have hdecode := (StatusSerializerVisitor.reads_decode hser htyped hshort).run_eq
  unfold understand
  rw [hdecode]

/-! ## The view after one more send -/

theorem view_of_silent {send : Send} (h : send.onWire = none) (sends : List Send) :
    view (wire (send :: sends)) = view (wire sends) := by
  rw [wire_cons, h]
  simp

/-- A message on another topic changes nothing. -/
theorem view_of_other {send : Send} {name : CxxString} (h : send.item.name ≠ name)
    (sends : List Send) :
    view (wire (send :: sends)) (statusTopic name) = view (wire sends) (statusTopic name) := by
  cases hwire : send.onWire with
  | none => rw [view_of_silent hwire]
  | some message =>
      have htopic := topic_of_onWire hwire
      rw [wire_cons, hwire]
      cases htold : understand message with
      | none => simp [view, htold]
      | some told =>
          have hother : statusTopic name ≠ told.1 := by
            rw [understand_fst htold, htopic]
            exact fun heq => h (statusTopic_injective heq).symm
          have hmore : ((wire sends ++ [message]).filterMap understand)
              = (wire sends).filterMap understand ++ [told] := by simp [htold]
          exact (congrFun (congrArg LatestValue.latest hmore) _).trans
            (LatestValue.latest_concat_other _ hother)

/-- A message that is sent and understood takes the place of the one before. -/
theorem view_of_delivered {send : Send} (hregular : Regular send) (hser : Serialized send.item.type)
    (h : send.succeeded = true) (sends : List Send) :
    view (wire (send :: sends)) (statusTopic send.item.name) = some (messageOf send.item) := by
  obtain ⟨body, hbody⟩ := hregular.delivered h
  have htold := understand_delivered hser hregular.typed hbody
  have hmore : ((wire sends ++ [(statusTopic send.item.name, body)]).filterMap understand)
      = (wire sends).filterMap understand ++ [(statusTopic send.item.name, messageOf send.item)] := by
    simp [htold]
  rw [wire_cons, onWire_of_succeeded h hbody]
  exact (congrFun (congrArg LatestValue.latest hmore) _).trans (LatestValue.latest_concat_self _ _)

/-- **The view.** On the topic of an item the receiver has what the last successful send of it told. -/
theorem view_eq_lastSent {sends : List Send} (hregular : ∀ send ∈ sends, Regular send) {p : Ptr}
    {name : CxxString} (hname : ∀ send ∈ sends, send.item.name = name ↔ send.statusItem = p)
    (hser : ∀ send ∈ sends, send.statusItem = p → Serialized send.item.type) :
    view (wire sends) (statusTopic name) = (lastSent sends p).map (fun send => messageOf send.item) := by
  induction sends with
  | nil => rfl
  | cons send sends ih =>
      have ih := ih (fun x hx => hregular x (List.mem_cons_of_mem _ hx))
        (fun x hx => hname x (List.mem_cons_of_mem _ hx))
        (fun x hx => hser x (List.mem_cons_of_mem _ hx))
      have hhead : send ∈ send :: sends := List.mem_cons_self
      by_cases hp : send.statusItem = p
      · cases hsucceeded : send.succeeded with
        | false =>
            rw [view_of_silent (onWire_of_failed hsucceeded), lastSent_failed send hsucceeded]
            exact ih
        | true =>
            obtain rfl := (hname send hhead).2 hp
            rw [view_of_delivered (hregular send hhead) (hser send hhead hp) hsucceeded, ← hp,
              lastSent_self hsucceeded]
            rfl
      · rw [view_of_other (fun heq => hp ((hname send hhead).1 heq)), lastSent_other (Ne.symm hp)]
        exact ih

/-- Nothing was ever sent on a topic no item is of. -/
theorem view_eq_none {sends : List Send} {name : CxxString}
    (hname : ∀ send ∈ sends, send.item.name ≠ name) :
    view (wire sends) (statusTopic name) = none := by
  induction sends with
  | nil => rfl
  | cons send sends ih =>
      rw [view_of_other (hname send List.mem_cons_self)]
      exact ih fun x hx => hname x (List.mem_cons_of_mem _ hx)

/-! ## Who sends on a topic -/

/-- Every send is of an object of the heap. -/
theorem sends_ofObjects (ops : List StatusOp) :
    ∀ send ∈ (after ops).sends, ∃ item, (after ops).database.heap[send.statusItem]? = some item ∧
      send.OfObject item := by
  refine @Run.invariant _ _ step (fun s : StatusService => ∀ send ∈ s.sends, ∃ item,
    s.database.heap[send.statusItem]? = some item ∧ send.OfObject item) initial ?_ ?_ ops
  · intro send hsend
    simp [initial] at hsend
  · intro s op h
    refine step_preserves (P := fun s : StatusService => ∀ send ∈ s.sends, ∃ item,
      s.database.heap[send.statusItem]? = some item ∧ send.OfObject item) ?_ ?_ s h
    · intro s db h hdb send hsend
      obtain ⟨item, hp, hof⟩ := h send hsend
      cases hdb with
      | lookup k => exact ⟨item, by simpa using hp, hof⟩
      | store k object _ _ _ _ _ => exact ⟨item, ObjectHeap.getElem?_alloc_of_some hp object, hof⟩
      | update q object object' hq hupdated =>
          by_cases hpq : send.statusItem = q
          · obtain rfl : object = item := by rw [hpq, hq] at hp; exact Option.some.inj hp
            refine ⟨object', ?_, ⟨hof.name.trans hupdated.name.symm, hof.type.trans hupdated.type.symm,
              hof.kind.trans hupdated.kind.symm⟩⟩
            exact (ObjectHeap.getElem?_set_of_some hq object' _).trans (if_pos hpq)
          · refine ⟨item, ?_, hof⟩
            exact (ObjectHeap.getElem?_set_of_some hq object' _).trans ((if_neg hpq).trans hp)
    · intro s q object outcome h hq send hsend
      rw [sent_heap hq]
      rcases List.mem_cons.1 hsend with rfl | hsend
      · exact ⟨object.clearChanged, if_pos rfl, ⟨rfl, rfl, rfl⟩⟩
      · obtain ⟨item, hp, hof⟩ := h send hsend
        by_cases hpq : send.statusItem = q
        · obtain rfl : object = item := by rw [hpq, hq] at hp; exact Option.some.inj hp
          exact ⟨object.clearChanged, if_pos hpq, ⟨hof.name, hof.type, hof.kind⟩⟩
        · exact ⟨item, by rw [if_neg hpq, hp], hof⟩

/-- What was sent under the name of a registered item was sent for that item, and the other way round. -/
theorem sent_for_iff (ops : List StatusOp) {p : Ptr} {item : StatusItem}
    (hp : (after ops).database.heap[p]? = some item) (hname : item.name ≠ []) :
    ∀ send ∈ (after ops).sends, send.item.name = item.name ↔ send.statusItem = p := by
  intro send hsend
  have hcoherent := coherent_after ops
  obtain ⟨object, hobject, hof⟩ := sends_ofObjects ops send hsend
  constructor
  · intro heq
    rw [hof.name] at heq
    have hfound := hcoherent.lookup_eq_some hobject (heq ▸ hname)
    rw [heq, hcoherent.lookup_eq_some hp hname] at hfound
    exact (Option.some.inj hfound).symm
  · rintro rfl
    obtain rfl : object = item := Option.some.inj (hobject.symm.trans hp)
    exact hof.name

theorem serialized_sent (ops : List StatusOp) {p : Ptr} {item : StatusItem}
    (hp : (after ops).database.heap[p]? = some item) (hser : Serialized item.type) :
    ∀ send ∈ (after ops).sends, send.statusItem = p → Serialized send.item.type := by
  rintro send hsend rfl
  obtain ⟨object, hobject, hof⟩ := sends_ofObjects ops send hsend
  obtain rfl : object = item := Option.some.inj (hobject.symm.trans hp)
  rwa [hof.type]

/-! ## What was sent, and when -/

theorem step_sends_suffix (s : StatusService) (op : StatusOp) : s.sends <:+ (step s op).sends := by
  have hcalled := step_called s op
  generalize step s op = s' at hcalled ⊢
  cases hcalled with
  | created object _ => exact List.suffix_refl _
  | set name f _ => exact List.suffix_refl _
  | lookedUp name => exact List.suffix_refl _
  | refused => exact List.suffix_refl _
  | posted post _ hparts =>
      induction hparts with
      | refl => exact List.suffix_refl _
      | tail _ hpart ih =>
          cases hpart with
          | lookup name => exact ih
          | sent p item _ _ => exact ih.trans (List.suffix_cons _ _)

theorem sends_of_extends {pre ops : List StatusOp} (h : pre <+: ops) :
    (after pre).sends <:+ (after ops).sends := by
  obtain ⟨rest, rfl⟩ := h
  have hrun : after (pre ++ rest) = Run.after step (after pre) rest := Run.after_append step _ pre rest
  rw [hrun]
  exact Run.persists (Q := fun s : StatusService => (after pre).sends <:+ s.sends)
    (fun s op h => h.trans (step_sends_suffix s op)) (List.suffix_refl _) rest

/-- A post creates nothing. -/
theorem postParts_none {post : PostStatus} {s s' : StatusService} (hparts : PostParts post s s')
    {p : Ptr} (hp : s.database.heap[p]? = none) : s'.database.heap[p]? = none := by
  induction hparts with
  | refl => exact hp
  | tail _ hpart ih =>
      cases hpart with
      | lookup name => simpa using ih
      | sent q item hq _ =>
          rw [sent_heap hq, ih]
          by_cases hpq : p = q
          · rw [hpq, hq] at ih
            cases ih
          · exact if_neg hpq

/-- A post sends items as they were before it, marked clean. -/
theorem sent_as_before {post : PostStatus} {s s' : StatusService} (hparts : PostParts post s s')
    {send : Send} {older : List Send} (hsend : send :: older <:+ s'.sends)
    (holder : s.sends <:+ older) :
    ∃ old, s.database.heap[send.statusItem]? = some old ∧ send.item = old.clearChanged := by
  induction hparts with
  | refl =>
      -- the send would be one of those before the post
      have := (hsend.trans holder).length_le
      simp at this
  | @tail mid s' hmid hpart ih =>
      cases hpart with
      | lookup name => exact ih hsend
      | sent p item hp hchanged =>
          rcases List.suffix_cons_iff.1 hsend with heq | hsend
          · obtain ⟨rfl, rfl⟩ := List.cons.inj heq
            cases hold : s.database.heap[p]? with
            | some old =>
                refine ⟨old, rfl, ?_⟩
                rcases postParts_item hmid hold with ⟨hsame, -⟩ | ⟨-, hclean⟩
                · obtain rfl := Option.some.inj (hsame.symm.trans hp)
                  rfl
                · obtain rfl := Option.some.inj (hclean.symm.trans hp)
                  rfl
            | none =>
                rw [postParts_none hmid hold] at hp
                cases hp
          · exact ih hsend

/-- One call sends items as they were before it, marked clean. -/
theorem step_sent_as_before {s : StatusService} {op : StatusOp} {send : Send} {older : List Send}
    (hsend : send :: older <:+ (step s op).sends) (holder : s.sends <:+ older) :
    ∃ old, s.database.heap[send.statusItem]? = some old ∧ send.item = old.clearChanged := by
  have hnone : ¬ send :: older <:+ s.sends := by
    intro h
    have := (h.trans holder).length_le
    simp at this
  have hcalled := step_called s op
  generalize step s op = s' at hcalled hsend
  cases hcalled with
  | created object _ => exact absurd hsend hnone
  | set name f _ => exact absurd hsend hnone
  | lookedUp name => exact absurd hsend hnone
  | refused => exact absurd hsend hnone
  | posted post _ hparts => exact sent_as_before hparts hsend holder

/-- The call that made a send: it is the one after `pre`, and what was sent is the item as it was then. -/
structure MadeAfter (pre : List StatusOp) (op : StatusOp) (send : Send) (older : List Send) : Prop where
  before : (after pre).sends <:+ older
  made : send :: older <:+ (after (pre ++ [op])).sends
  item : ∃ old, (after pre).database.heap[send.statusItem]? = some old ∧ send.item = old.clearChanged

/-- Every send of a run was made by one of its calls. -/
theorem sends_made (ops : List StatusOp) {send : Send} {older : List Send}
    (h : send :: older <:+ (after ops).sends) :
    ∃ pre op, pre ++ [op] <+: ops ∧ MadeAfter pre op send older := by
  induction ops using List.reverseRecOn with
  | nil => exact absurd h.length_le (by simp [initial])
  | append_singleton ops op ih =>
      have hearlier : ∀ hsend : send :: older <:+ (after ops).sends,
          ∃ pre o, pre ++ [o] <+: ops ++ [op] ∧ MadeAfter pre o send older := by
        intro hsend
        obtain ⟨pre, o, hpre, hmade⟩ := ih hsend
        exact ⟨pre, o, hpre.trans (List.prefix_append ops [op]), hmade⟩
      have hrun : after (ops ++ [op]) = step (after ops) op := Run.after_concat step _ ops op
      have hstep := step_sends_suffix (after ops) op
      rw [← hrun] at hstep
      rcases List.suffix_or_suffix_of_suffix h hstep with hsend | hsend
      · exact hearlier hsend
      · rcases List.suffix_cons_iff.1 hsend with heq | holder
        · exact hearlier (heq ▸ List.suffix_refl _)
        · refine ⟨ops, op, List.prefix_refl _, holder, h, ?_⟩
          exact step_sent_as_before (hrun ▸ h) holder

/-- The last successful send of an item, and that there is none after it. -/
theorem lastSent_eq_some {sends : List Send} {p : Ptr} {send : Send} (h : lastSent sends p = some send) :
    send.statusItem = p ∧ ∃ older, send :: older <:+ sends ∧
      ∀ send' older', send' :: older' <:+ sends → send'.statusItem = p → send'.succeeded = true →
        send' :: older' <:+ send :: older := by
  induction sends with
  | nil => cases h
  | cons x sends ih =>
      by_cases hx : x.statusItem = p ∧ x.succeeded = true
      · rw [← hx.1, lastSent_self hx.2] at h
        obtain rfl : x = send := Option.some.inj h
        exact ⟨hx.1, sends, List.suffix_refl _, fun _ _ hsuffix _ _ => hsuffix⟩
      · have hskip : lastSent (x :: sends) p = lastSent sends p := by
          simp only [lastSent, List.find?_cons]
          rw [show (decide (x.statusItem = p) && x.succeeded) = false by simpa using hx]
        obtain ⟨hp, older, hsend, hlast⟩ := ih (hskip ▸ h)
        refine ⟨hp, older, hsend.trans (List.suffix_cons _ _), fun send' older' hsuffix hp' hok => ?_⟩
        rcases List.suffix_cons_iff.1 hsuffix with heq | hsuffix
        · obtain ⟨rfl, -⟩ := List.cons.inj heq
          exact absurd ⟨hp', hok⟩ hx
        · exact hlast send' older' hsuffix hp' hok

/-- The receiver of these messages has the item at `p` as it was after `pre`. -/
def ShowsAsOf (messages : List TopicMessage) (p : Ptr) (name : CxxString) (pre : List StatusOp) : Prop :=
  ∃ old, (after pre).database.heap[p]? = some old ∧
    view messages (statusTopic name) = some (messageOf old)

/-- Sends made later were made by later calls. -/
theorem MadeAfter.order {ops pre pre' : List StatusOp} {op op' : StatusOp} {send send' : Send}
    {older older' : List Send} (h : MadeAfter pre op send older) (h' : MadeAfter pre' op' send' older')
    (hpre : pre ++ [op] <+: ops) (hpre' : pre' ++ [op'] <+: ops)
    (hsends : send :: older <:+ send' :: older') : pre <+: pre' := by
  have hprefix : pre <+: ops := (List.prefix_append pre [op]).trans hpre
  rcases le_or_gt pre.length pre'.length with hle | hlt
  · exact List.prefix_of_prefix_length_le hprefix ((List.prefix_append pre' [op']).trans hpre') hle
  · -- otherwise the later send would be among those before the earlier one
    have hbefore : pre' ++ [op'] <+: pre :=
      List.prefix_of_prefix_length_le hpre' hprefix (by simpa using hlt)
    have hlength := ((h'.made.trans (sends_of_extends hbefore)).trans h.before).length_le
    have := hsends.length_le
    simp only [List.length_cons] at hlength this
    omega

theorem lastSent_isSome_of_suffix {older sends : List Send} (h : older <:+ sends) {p : Ptr} {send : Send}
    (hsend : lastSent older p = some send) : ∃ send', lastSent sends p = some send' := by
  refine Option.isSome_iff_exists.1 ?_
  rw [lastSent, List.find?_isSome]
  exact ⟨send, h.subset (List.mem_of_find?_eq_some hsend), by simpa using List.find?_some hsend⟩

/-- What has been delivered so far is the wire of an earlier record. -/
theorem delivered_so_far {messages : List TopicMessage} {sends : List Send} (h : messages <+: wire sends) :
    ∃ older, older <:+ sends ∧ messages = wire older := by
  obtain ⟨taken, htaken, rfl⟩ := List.prefix_filterMap_iff.1 h
  refine ⟨taken.reverse, ?_, by rw [wire, List.reverse_reverse]⟩
  rw [← List.reverse_reverse sends]
  exact List.reverse_suffix.2 htaken

/-- The view of an item of a run, from part of what was sent. -/
theorem view_so_far {ops : List StatusOp} (hjms : ∀ op ∈ ops, op.ThroughJms) {p : Ptr}
    {item : StatusItem} (hp : (after ops).database.heap[p]? = some item) (hname : item.name ≠ [])
    (hser : Serialized item.type) {older : List Send} (holder : older <:+ (after ops).sends) :
    view (wire older) (statusTopic item.name)
      = (lastSent older p).map (fun send => messageOf send.item) :=
  view_eq_lastSent (fun send hsend => regular_after hjms send (holder.subset hsend))
    (fun send hsend => sent_for_iff ops hp hname send (holder.subset hsend))
    (fun send hsend => serialized_sent ops hp hser send (holder.subset hsend))

theorem MadeAfter.shows {pre : List StatusOp} {op : StatusOp} {send : Send} {older : List Send}
    (h : MadeAfter pre op send older) {messages : List TopicMessage} {name : CxxString}
    (hview : view messages (statusTopic name) = some (messageOf send.item)) :
    ShowsAsOf messages send.statusItem name pre := by
  obtain ⟨old, hold, hitem⟩ := h.item
  refine ⟨old, hold, ?_⟩
  rw [hview, hitem]
  rfl

/-- An item is created and posted, then set; the second post is refused by the broker. -/
def staleRun : List StatusOp :=
  [newItem .int, postAll, .setValueAsInt oneSecond (str "x") 5,
    .postAllThrough fun _ => brokenResources]

theorem staleRun_throughJms : ∀ op ∈ staleRun, op.ThroughJms := by
  intro op hop
  simp only [staleRun, List.mem_cons, List.not_mem_nil, or_false] at hop
  rcases hop with rfl | rfl | rfl | rfl
  · exact fun _ hpost => absurd hpost (by simp [newItem, StatusOp.sender])
  · exact StatusOp.postAllThrough_throughJms _
  · exact fun _ hpost => absurd hpost (by simp [StatusOp.sender])
  · exact StatusOp.postAllThrough_throughJms _

end StatusUtil

end Giapi
