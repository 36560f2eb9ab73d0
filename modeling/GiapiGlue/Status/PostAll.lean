import GiapiGlue.Status.StatusCalls

set_option autoImplicit false

/-! # Posting all items

`postStatus()` goes through a copy of the vector, `postStatus(name)` through the hash map. In a coherent
database whose items have names the two lead to the same items, so posting all of them is posting them
one by one, up to the first exception. -/

namespace Giapi

/-- The names of the items, in the order of creation. -/
def StatusDatabase.names (db : StatusDatabase) : List CxxString := db.heap.map StatusItem.name

namespace AbstractStatusSender

/-- Calls of `postStatus(name)` one after the other; the first exception ends them. -/
def postEach (post : PostStatus) :
    List CxxString → StatusService → Except Exn Status × StatusService
  | [], s => (.ok .ok, s)
  | name :: names, s =>
    match postStatusItem post name s with
    | (.error e, s) => (.error e, s)
    | (.ok _, s) => postEach post names s

/-! ## One item -/

theorem doPost_of_clean (post : PostStatus) {p : Ptr} {s : StatusService} {item : StatusItem}
    (hp : s.database.heap[p]? = some item) (hclean : item.isChanged = false) :
    doPost post p s = (.ok .error, s) := by
  rw [doPost, hp]
  simp [hclean]

theorem doPost_of_dirty (post : PostStatus) {p : Ptr} {s : StatusService} {item : StatusItem}
    (hp : s.database.heap[p]? = some item) (hdirty : item.isChanged = true) :
    doPost post p s = ((post s.sends.length item.clearChanged).map (fun _ => .ok),
      sent s p item (post s.sends.length item.clearChanged)) := by
  rw [doPost, hp]
  simp [hdirty]

@[simp] theorem doPost_map (post : PostStatus) (p : Ptr) (s : StatusService) :
    (doPost post p s).2.database.map = s.database.map := by
  unfold doPost
  split
  · rfl
  · split <;> rfl

@[simp] theorem doPost_lookup (post : PostStatus) (p : Ptr) (s : StatusService)
    (name : CxxString) : (doPost post p s).2.database.lookup name = s.database.lookup name := by
  unfold StatusDatabase.lookup
  rw [doPost_map]

/-- The name of an item leads to the item, and looking it up inserts nothing. -/
theorem postStatusItem_of_found (post : PostStatus) {name : CxxString} {p : Ptr}
    {s : StatusService} (h : s.database.lookup name = some p) :
    postStatusItem post name s = doPost post p s := by
  rw [postStatusItem, StatusDatabase.getStatusItem_of_found h]

/-! ## All items -/

/-- As long as every name leads to the item next in the vector, the two ways do the same. -/
theorem postItems_eq_postEach (post : PostStatus) {items : List Ptr} {names : List CxxString}
    {s : StatusService}
    (h : List.Forall₂ (fun p name => s.database.lookup name = some p) items names) :
    postItems post items s = postEach post names s := by
  induction items generalizing names s with
  | nil =>
      cases h
      rfl
  | cons p items ih =>
      cases h with
      | @cons _ name _ names hfound hrest =>
          rw [postItems, postEach, postStatusItem_of_found post hfound]
          have hlookup := doPost_lookup post p s
          generalize doPost post p s = r at hlookup ⊢
          obtain ⟨e | status, s'⟩ := r
          · rfl
          · -- the names lead where they did before this item was posted
            exact ih (hrest.imp fun q other hq => (hlookup other).trans hq)

/-- The item at `p` is there, and dirty. -/
def dirty (s : StatusService) (p : Ptr) : Bool := (s.database.heap[p]?).any StatusItem.isChanged

/-- How far a post of `items` came from `s`: it went through `done` and made the sends `new`, the latest
    first, before it came to `rest`. -/
structure WentThrough (items : List Ptr) (s : StatusService)
    (r : Except Exn Status × StatusService) (done rest : List Ptr) (new : List Send) : Prop where
  items : items = done ++ rest
  sends : r.2.sends = new ++ s.sends
  /-- The dirty items it went through were sent, in the order of the vector, and no others. -/
  order : new.reverse.map Send.statusItem = done.filter (dirty s)
  /-- Each as it was, marked clean. -/
  sent : ∀ send ∈ new, (s.database.heap[send.statusItem]?).map StatusItem.clearChanged
    = some send.item
  untouched : ∀ q ∈ rest, r.2.database.heap[q]? = s.database.heap[q]?
  returned : ∀ status, r.1 = .ok status → rest = [] ∧ ∀ send ∈ new, send.succeeded = true
  /-- What was thrown was thrown by the last send, for the last item it came to. -/
  thrown : ∀ e, r.1 = .error e → ∃ last older, new = last :: older ∧ last.outcome = .error e ∧
    done.getLast? = some last.statusItem ∧ ∀ send ∈ older, send.succeeded = true

section WentThrough

variable {p : Ptr} {items done rest : List Ptr} {s : StatusService} {item : StatusItem}
  {r : Except Exn Status × StatusService} {new : List Send}

theorem WentThrough.nil (s : StatusService) : WentThrough [] s (.ok .ok, s) [] [] [] where
  items := rfl
  sends := rfl
  order := rfl
  sent := by simp
  untouched := by simp
  returned := by simp
  thrown := by simp

/-- A clean item first: nothing is sent for it. -/
theorem WentThrough.cons_clean (hp : s.database.heap[p]? = some item)
    (hclean : item.isChanged = false) (h : WentThrough items s r done rest new) :
    WentThrough (p :: items) s r (p :: done) rest new where
  items := by rw [h.items, List.cons_append]
  sends := h.sends
  order := by
    have hnot : dirty s p = false := by simp [dirty, hp, hclean]
    rw [h.order, List.filter_cons_of_neg (by simp [hnot])]
  sent := h.sent
  untouched := h.untouched
  returned := h.returned
  thrown := by
    intro e he
    obtain ⟨last, older, hnew, hlast, hdone, holder⟩ := h.thrown e he
    exact ⟨last, older, hnew, hlast, by simp [List.getLast?_cons, hdone], holder⟩

/-- Other items are found as they were before the item at `p` was sent. -/
theorem sent_heap_of_not_mem (hp : s.database.heap[p]? = some item) (hfresh : p ∉ items)
    (outcome : Except Exn Unit) {q : Ptr} (hq : q ∈ items) :
    (sent s p item outcome).database.heap[q]? = s.database.heap[q]? := by
  have hne : q ≠ p := by
    intro heq
    exact hfresh (heq ▸ hq)
  rw [sent_heap hp, if_neg hne]

/-- A dirty item first, and its send throws: the rest is not touched. -/
theorem WentThrough.cons_thrown (hp : s.database.heap[p]? = some item)
    (hchanged : item.isChanged = true) (hfresh : p ∉ items) (e : Exn) :
    WentThrough (p :: items) s (.error e, AbstractStatusSender.sent s p item (.error e)) [p] items
      [{ statusItem := p, item := item.clearChanged, outcome := .error e }] where
  items := rfl
  sends := rfl
  order := by simp [dirty, hp, hchanged]
  sent := by simp [hp]
  untouched := fun q hq => sent_heap_of_not_mem hp hfresh (.error e) hq
  returned := by simp
  thrown := by simp

theorem WentThrough.mem_of_done (h : WentThrough items s r done rest new) {q : Ptr} (hq : q ∈ done) :
    q ∈ items := by
  rw [h.items]
  exact List.mem_append_left rest hq

theorem WentThrough.mem_of_rest (h : WentThrough items s r done rest new) {q : Ptr} (hq : q ∈ rest) :
    q ∈ items := by
  rw [h.items]
  exact List.mem_append_right done hq

/-- What is sent is one of the items. -/
theorem WentThrough.mem_of_sent (h : WentThrough items s r done rest new) {send : Send}
    (hsend : send ∈ new) : send.statusItem ∈ items := by
  have hdone : send.statusItem ∈ new.reverse.map Send.statusItem :=
    List.mem_map_of_mem (List.mem_reverse.2 hsend)
  rw [h.order] at hdone
  exact h.mem_of_done (List.mem_of_mem_filter hdone)

/-- One more send that succeeds. -/
theorem succeeded_concat (p : Ptr) (item : StatusItem) {sends : List Send}
    (h : ∀ send ∈ sends, send.succeeded = true) :
    ∀ send ∈ sends ++ [{ statusItem := p, item, outcome := .ok () }], send.succeeded = true := by
  intro send hsend
  rcases List.mem_append.1 hsend with hsend | hsend
  · exact h send hsend
  · rw [List.mem_singleton.1 hsend]
    rfl

/-- A dirty item first, and its send succeeds. -/
theorem WentThrough.cons_sent (hp : s.database.heap[p]? = some item)
    (hchanged : item.isChanged = true) (hfresh : p ∉ items)
    (h : WentThrough items (AbstractStatusSender.sent s p item (.ok ())) r done rest new) :
    WentThrough (p :: items) s r (p :: done) rest
      (new ++ [{ statusItem := p, item := item.clearChanged, outcome := .ok () }]) where
  items := by rw [h.items, List.cons_append]
  sends := by
    rw [h.sends, List.append_assoc]
    rfl
  order := by
    have hdirty : dirty s p = true := by simp [dirty, hp, hchanged]
    have hrest : done.filter (dirty (AbstractStatusSender.sent s p item (.ok ())))
        = done.filter (dirty s) := by
      refine List.filter_congr fun q hq => ?_
      rw [dirty, dirty, sent_heap_of_not_mem hp hfresh _ (h.mem_of_done hq)]
    rw [List.reverse_append, List.map_append, h.order, hrest, List.filter_cons_of_pos hdirty]
    rfl
  sent := by
    intro send hsend
    rcases List.mem_append.1 hsend with hsend | hsend
    · rw [← sent_heap_of_not_mem hp hfresh (.ok ()) (h.mem_of_sent hsend)]
      exact h.sent send hsend
    · rw [List.mem_singleton.1 hsend]
      simp [hp]
  untouched := by
    intro q hq
    rw [h.untouched q hq, sent_heap_of_not_mem hp hfresh _ (h.mem_of_rest hq)]
  returned := by
    intro status hstatus
    obtain ⟨hrest, hnew⟩ := h.returned status hstatus
    exact ⟨hrest, succeeded_concat p item.clearChanged hnew⟩
  thrown := by
    intro e he
    obtain ⟨last, older, hnew, hlast, hdone, holder⟩ := h.thrown e he
    exact ⟨last, _, by rw [hnew, List.cons_append], hlast, by simp [List.getLast?_cons, hdone],
      succeeded_concat p item.clearChanged holder⟩

end WentThrough

theorem postItems_wentThrough (post : PostStatus) {items : List Ptr} (hnodup : items.Nodup)
    {s : StatusService} (hthere : ∀ p ∈ items, ∃ item, s.database.heap[p]? = some item) :
    ∃ done rest new, WentThrough items s (postItems post items s) done rest new := by
  induction items generalizing s with
  | nil => exact ⟨[], [], [], WentThrough.nil s⟩
  | cons p items ih =>
      obtain ⟨hfresh, hnodup⟩ := List.nodup_cons.1 hnodup
      obtain ⟨item, hp⟩ := hthere p List.mem_cons_self
      have hthere : ∀ q ∈ items, ∃ item, s.database.heap[q]? = some item :=
        fun q hq => hthere q (List.mem_cons_of_mem p hq)
      cases hflag : item.isChanged with
      | false =>
          rw [postItems, doPost_of_clean post hp hflag]
          obtain ⟨done, rest, new, hrest⟩ := ih hnodup hthere
          exact ⟨_, _, _, hrest.cons_clean hp hflag⟩
      | true =>
          rw [postItems, doPost_of_dirty post hp hflag]
          cases post s.sends.length item.clearChanged with
          | error e => exact ⟨_, _, _, WentThrough.cons_thrown hp hflag hfresh e⟩
          | ok u =>
              have hstill : ∀ q ∈ items, ∃ other,
                  (sent s p item (.ok ())).database.heap[q]? = some other := by
                intro q hq
                rw [sent_heap_of_not_mem hp hfresh _ hq]
                exact hthere q hq
              obtain ⟨done, rest, new, hrest⟩ := ih hnodup hstill
              exact ⟨_, _, _, hrest.cons_sent hp hflag hfresh⟩

end AbstractStatusSender

namespace StatusUtil

open AbstractStatusSender

/-- In a coherent database whose items have names, the names lead through the vector. -/
theorem names_lead {db : StatusDatabase} (h : db.Coherent)
    (hnamed : db.Items (fun item => item.name ≠ [])) :
    List.Forall₂ (fun p name => db.lookup name = some p) db.statusItemList db.names := by
  rw [h.list, List.forall₂_iff_get]
  refine ⟨by simp [StatusDatabase.names], fun p hrange hp => ?_⟩
  have hlt : p < db.heap.length := by simpa using hrange
  have hitem : db.heap[p]? = some db.heap[p] := List.getElem?_eq_getElem hlt
  have hname : db.heap[p].name ≠ [] := hnamed p _ hitem
  simpa [StatusDatabase.names, StatusDatabase.lookup_eq_some_iff] using
    ⟨hname, h.registered p _ hitem hname⟩

/-- The vector holds no pointer that does not lead to an item. -/
theorem items_there {db : StatusDatabase} (h : db.Coherent) {p : Ptr} (hp : p ∈ db.statusItemList) :
    ∃ item, db.heap[p]? = some item := by
  rw [h.list, List.mem_range] at hp
  exact ⟨db.heap[p], List.getElem?_eq_getElem hp⟩

/-- **Posting all.** With every item named, `postStatus()` does what the calls of `postStatus(name)` do,
    in the order of creation, until one throws: the same sends, the same outcome, the same items. No
    item is sent twice, and none that is clean. -/
theorem postStatus_eq_postEach (ops : List StatusOp) (post : PostStatus)
    (hnamed : (after ops).database.Items (fun item => item.name ≠ [])) :
    postStatus post (after ops) = postEach post (after ops).database.names (after ops) ∧
      ∃ done rest new,
        WentThrough (after ops).database.statusItemList (after ops) (postStatus post (after ops))
          done rest new ∧ (new.map Send.statusItem).Nodup := by
  have hcoherent := coherent_after ops
  generalize after ops = s at hnamed hcoherent ⊢
  have hnodup : s.database.statusItemList.Nodup := by
    rw [hcoherent.list]
    exact List.nodup_range
  refine ⟨postItems_eq_postEach post (names_lead hcoherent hnamed), ?_⟩
  obtain ⟨done, rest, new, h⟩ :=
    @postItems_wentThrough post _ hnodup s (fun p hp => items_there hcoherent hp)
  refine ⟨done, rest, new, h, ?_⟩
  -- the sends are of a part of the vector
  have hdone : done.Nodup := hnodup.sublist (h.items ▸ List.sublist_append_left done rest)
  have hsent : (new.reverse.map Send.statusItem).Nodup := by
    rw [h.order]
    exact hdone.filter _
  rwa [List.map_reverse, List.nodup_reverse] at hsent

/-- An item and an alarm item, both dirty. -/
def twoItems : List StatusOp :=
  [.createStatusItem { gettimeofday := none, memory := 0 } (str "x") .int,
    .createAlarmStatusItem { gettimeofday := none, memory := 0 } (str "y") .int]

/-- Posted to a log, which takes everything. -/
theorem twoItems_posted :
    postStatus LogStatusSender.postStatus (after twoItems)
        = postEach LogStatusSender.postStatus (after twoItems).database.names (after twoItems) ∧
      ∃ done rest new,
        WentThrough (after twoItems).database.statusItemList (after twoItems)
          (postStatus LogStatusSender.postStatus (after twoItems)) done rest new ∧
        (new.map Send.statusItem).Nodup :=
  have hnamed : ∀ item ∈ (after twoItems).database.heap, item.name ≠ [] := by decide
  postStatus_eq_postEach twoItems LogStatusSender.postStatus
    (fun _ item hp => hnamed item (List.mem_of_getElem? hp))

end StatusUtil

end Giapi
