import GiapiGlue.Status.Mirror

set_option autoImplicit false

/-! # What a receiver has after `postStatus()`

A `postStatus()` that answers `OK` has sent every dirty item, so afterwards the receiver can only be wrong
about items that were clean and that it was wrong about before: those an earlier send lost an update of. If
there are none, what it has is the database. -/

namespace Giapi

open StatusSerializerVisitor (messageOf Serialized)

/-- The item registered under a name. -/
def StatusDatabase.named (db : StatusDatabase) (name : CxxString) : Option StatusItem :=
  (db.lookup name).bind fun p => db.heap[p]?

namespace StatusUtil

open StatusReceiver (view)
open AbstractStatusSender (WentThrough dirty postItems_wentThrough)

/-! ## The sends of a `postStatus()` -/

section WentThrough

variable {items done : List Ptr} {s : StatusService} {r : Except Exn Status × StatusService}
  {new : List Send} {p : Ptr} {item : StatusItem}

/-- A dirty item it went through was sent as it was. -/
theorem sent_of_dirty (h : WentThrough items s r done [] new) (hp : s.database.heap[p]? = some item)
    (hitem : p ∈ items) (hdirty : item.isChanged = true) :
    ∃ send ∈ new, send.statusItem = p := by
  have hdone : p ∈ done := by
    have := h.items
    rw [List.append_nil] at this
    rwa [← this]
  have hfilter : p ∈ done.filter (dirty s) := by
    refine List.mem_filter.2 ⟨hdone, ?_⟩
    simp [dirty, hp, hdirty]
  rw [← h.order, List.mem_map] at hfilter
  obtain ⟨send, hsend, hsendp⟩ := hfilter
  exact ⟨send, List.mem_reverse.1 hsend, hsendp⟩

/-- A clean item was not. -/
theorem not_sent_of_clean (h : WentThrough items s r done [] new) (hp : s.database.heap[p]? = some item)
    (hclean : item.isChanged = false) : ∀ send ∈ new, send.statusItem ≠ p := by
  rintro send hsend rfl
  have hfilter : send.statusItem ∈ done.filter (dirty s) := by
    rw [← h.order]
    exact List.mem_map_of_mem (List.mem_reverse.2 hsend)
  have hdirty := (List.mem_filter.1 hfilter).2
  simp [dirty, hp, hclean] at hdirty

theorem sent_item (h : WentThrough items s r done [] new) {send : Send} (hsend : send ∈ new)
    (hp : s.database.heap[send.statusItem]? = some item) : send.item = item.clearChanged := by
  have := h.sent send hsend
  rw [hp] at this
  exact (Option.some.inj this).symm

end WentThrough

theorem lastSent_append_of_none {new sends : List Send} {p : Ptr}
    (h : ∀ send ∈ new, send.statusItem ≠ p) : lastSent (new ++ sends) p = lastSent sends p := by
  have hnone : lastSent new p = none := by
    rw [lastSent, List.find?_eq_none]
    intro send hsend
    simp [h send hsend]
  unfold lastSent at hnone ⊢
  rw [List.find?_append, hnone]
  rfl

theorem lastSent_append_of_mem {new : List Send} {send : Send} (hsend : send ∈ new)
    (hok : send.succeeded = true) (sends : List Send) :
    ∃ last ∈ new, last.statusItem = send.statusItem
      ∧ lastSent (new ++ sends) send.statusItem = some last := by
  have hsome : (lastSent new send.statusItem).isSome = true := by
    rw [lastSent, List.find?_isSome]
    exact ⟨send, hsend, by simp [hok]⟩
  obtain ⟨last, hlast⟩ := Option.isSome_iff_exists.1 hsome
  refine ⟨last, List.mem_of_find?_eq_some hlast, (lastSent_eq_some hlast).1, ?_⟩
  unfold lastSent at hlast ⊢
  rw [List.find?_append, hlast]
  rfl

/-! ## After the post -/

section Posted

variable {ops : List StatusOp} {resources : Nat → JmsStatusSender.Resources}

/-- What a `postStatus()` that answered `OK` did to the items and to the record of sends. -/
theorem posted_all
    (hok : (call (.postAllThrough resources) (after ops)).1 = .ok (.status .ok)) :
    ∃ done new, (∀ send ∈ new, send.succeeded = true)
      ∧ WentThrough (after ops).database.statusItemList (after ops)
          (AbstractStatusSender.postStatus (JmsStatusSender.postStatus resources) (after ops)) done [] new
      ∧ (after (ops ++ [.postAllThrough resources])).sends = new ++ (after ops).sends := by
  have hcoherent := coherent_after ops
  have hrun : after (ops ++ [.postAllThrough resources]) = step (after ops) (.postAllThrough resources) :=
    Run.after_concat step _ ops _
  have hnodup : (after ops).database.statusItemList.Nodup := by
    rw [hcoherent.list]
    exact List.nodup_range
  obtain ⟨done, rest, new, h⟩ := @postItems_wentThrough (JmsStatusSender.postStatus resources) _ hnodup
    (after ops) (fun p hp => items_there hcoherent hp)
  have hreturned : (AbstractStatusSender.postStatus (JmsStatusSender.postStatus resources) (after ops)).1
      = .ok .ok := map_status_eq_ok.1 hok
  obtain ⟨rfl, hsucceeded⟩ := h.returned .ok hreturned
  exact ⟨done, new, hsucceeded, h, by rw [hrun]; exact h.sends⟩

variable (resources) in
/-- The items are what they were, apart from being clean. -/
theorem posted_item {p : Ptr} {item : StatusItem} (hp : (after ops).database.heap[p]? = some item) :
    ∃ item', (after (ops ++ [.postAllThrough resources])).database.heap[p]? = some item'
      ∧ item'.name = item.name ∧ item'.type = item.type ∧ messageOf item' = messageOf item := by
  have hrun : after (ops ++ [.postAllThrough resources]) = step (after ops) (.postAllThrough resources) :=
    Run.after_concat step _ ops _
  have hparts : PostParts (JmsStatusSender.postStatus resources) (after ops)
      (step (after ops) (.postAllThrough resources)) := postItems_parts _ _ _
  rw [hrun]
  rcases postParts_item hparts hp with ⟨hsame, -⟩ | ⟨-, hclean⟩
  · exact ⟨item, hsame, rfl, rfl, rfl⟩
  · exact ⟨item.clearChanged, hclean, rfl, rfl, rfl⟩

theorem throughJms_posted (hjms : ∀ op ∈ ops, op.ThroughJms) :
    ∀ op ∈ ops ++ [.postAllThrough resources], op.ThroughJms := by
  intro op hop
  rcases List.mem_append.1 hop with hop | hop
  · exact hjms op hop
  · rw [List.mem_singleton.1 hop]
    exact StatusOp.postAllThrough_throughJms resources

/-- The view of an item after the post, from the record of sends then. -/
theorem view_posted (hjms : ∀ op ∈ ops, op.ThroughJms) {p : Ptr} {item : StatusItem}
    (hp : (after ops).database.heap[p]? = some item) (hname : item.name ≠ [])
    (hser : Serialized item.type) :
    view (wire (after (ops ++ [.postAllThrough resources])).sends) (statusTopic item.name)
      = (lastSent (after (ops ++ [.postAllThrough resources])).sends p).map
          (fun send => messageOf send.item) := by
  obtain ⟨item', hp', hname', htype', -⟩ := posted_item resources hp
  have hview := view_so_far (throughJms_posted hjms) hp' (hname'.symm ▸ hname) (htype'.symm ▸ hser)
    (List.suffix_refl _)
  rwa [hname'] at hview

/-- A dirty item is told as it is. -/
theorem view_posted_dirty (hjms : ∀ op ∈ ops, op.ThroughJms)
    (hok : (call (.postAllThrough resources) (after ops)).1 = .ok (.status .ok)) {p : Ptr}
    {item : StatusItem} (hp : (after ops).database.heap[p]? = some item) (hname : item.name ≠ [])
    (hser : Serialized item.type) (hdirty : item.isChanged = true) :
    view (wire (after (ops ++ [.postAllThrough resources])).sends) (statusTopic item.name)
      = some (messageOf item) := by
  obtain ⟨done, new, hsucceeded, h, hsends⟩ := posted_all hok
  have hmem : p ∈ (after ops).database.statusItemList :=
    ((coherent_after ops).mem_statusItemList p).2 ⟨item, hp⟩
  obtain ⟨send, hsend, rfl⟩ := sent_of_dirty h hp hmem hdirty
  obtain ⟨last, hlast, hsame, hfound⟩ :=
    lastSent_append_of_mem hsend (hsucceeded send hsend) (after ops).sends
  have hitem : last.item = item.clearChanged := sent_item h hlast (by rw [hsame, hp])
  rw [view_posted hjms hp hname hser, hsends, hfound, Option.map_some, hitem]
  rfl

/-- A clean one is not told again. -/
theorem view_posted_clean (hjms : ∀ op ∈ ops, op.ThroughJms)
    (hok : (call (.postAllThrough resources) (after ops)).1 = .ok (.status .ok)) {p : Ptr}
    {item : StatusItem} (hp : (after ops).database.heap[p]? = some item) (hname : item.name ≠ [])
    (hser : Serialized item.type) (hclean : item.isChanged = false) :
    view (wire (after (ops ++ [.postAllThrough resources])).sends) (statusTopic item.name)
      = view (wire (after ops).sends) (statusTopic item.name) := by
  obtain ⟨done, new, -, h, hsends⟩ := posted_all hok
  rw [view_posted hjms hp hname hser, hsends, lastSent_append_of_none (not_sent_of_clean h hp hclean),
    view_so_far hjms hp hname hser (List.suffix_refl _)]

/-- The items under a name, after a post. -/
theorem posted_named (ops : List StatusOp) (resources : Nat → JmsStatusSender.Resources)
    (name : CxxString) :
    ((after (ops ++ [.postAllThrough resources])).database.named name).map messageOf
      = ((after ops).database.named name).map messageOf := by
  have hrun : after (ops ++ [.postAllThrough resources]) = step (after ops) (.postAllThrough resources) :=
    Run.after_concat step _ ops _
  have hparts : PostParts (JmsStatusSender.postStatus resources) (after ops)
      (step (after ops) (.postAllThrough resources)) := postItems_parts _ _ _
  unfold StatusDatabase.named
  rw [hrun, postParts_lookup hparts]
  cases (after ops).database.lookup name with
  | none => rfl
  | some p =>
      cases hp : (after ops).database.heap[p]? with
      | none => simp [postParts_none hparts hp, hp]
      | some item =>
          obtain ⟨item', hp', -, -, hsame⟩ := posted_item resources hp
          rw [hrun] at hp'
          simp [hp, hp', hsame]

/-- Nothing was sent under a name nothing is registered under. -/
theorem not_sent_of_not_named (ops : List StatusOp) {name : CxxString} (hname : name ≠ [])
    (hnone : (after ops).database.named name = none) :
    ∀ send ∈ (after ops).sends, send.item.name ≠ name := by
  rintro send hsend rfl
  obtain ⟨object, hobject, hof⟩ := sends_ofObjects ops send hsend
  have hfound := (coherent_after ops).lookup_eq_some hobject (hof.name ▸ hname)
  rw [StatusDatabase.named, hof.name, hfound] at hnone
  simp [hobject] at hnone

/-- What was told of an item that was sent as it is now. -/
theorem message_of_tells {send : Send} {item : StatusItem} (hof : send.OfObject item)
    (htells : send.Tells item) : messageOf send.item = messageOf item := by
  obtain ⟨hvalue, htime, halarm⟩ := htells
  simp only [messageOf, hof.name, hof.type, hof.kind, hvalue, htime, halarm]

/-- A run whose throws are harmless has lost no update. -/
theorem noUpdateLost_of_harmlessThrows {ops : List StatusOp} (h : HarmlessThrows (after ops).sends) :
    NoUpdateLost (after ops) :=
  ((Run.always_iff_history (J := fun _ => True) (H := fun s => HarmlessThrows s.sends)
    (fun _ => trivial) (fun p item hp => by simp [initial, StatusDatabase.empty] at hp)
    HarmlessThrows.nil (fun s op _ => harmlessThrows_of_step s op)
    (fun s op _ h hrecord => noUpdateLost_step_iff s op h hrecord) ops).2 h).final

end Posted

end StatusUtil

end Giapi
