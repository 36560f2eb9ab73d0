import GiapiGlue.Status.StatusCalls

set_option autoImplicit false

/-! # Messages on the wire

An item can be created with any type, but the serializer has a handler for four of the seven. The
message of an item with one of the others has an empty body, or that of its alarm alone, and is sent
like any other. -/

namespace Giapi

/-! ## What a successful serialization tells about the item -/

namespace StatusSerializerVisitor

open BytesMessage ByteReader

theorem shortUTF_of_writeUTF {value : CxxString} {out out' : List UInt8}
    (h : (writeUTF value).run out = .ok ((), out')) : ShortUTF value := by
  unfold ShortUTF
  by_contra hlong
  rw [writeUTF, if_pos (by omega)] at h
  exact absurd h (by simp [throw, throwThe, MonadExceptOf.throw, StateT.run, StateT.lift, bind,
    Except.bind])

theorem shortUTF_of_nonEmptyUTF {value : CxxString} (h : ShortUTF (nonEmptyUTF value)) :
    ShortUTF value := by
  unfold nonEmptyUTF at h
  split at h
  · next hempty =>
      rw [hempty]
      show countUTFLength [] ≤ 65535
      decide
  · exact h

/-- The strings of a header that was written. -/
theorem short_of_writeHeader {offset : UInt8} {item : StatusItem} (hser : Serialized item.type)
    (htyped : item.WellTyped) {out out' : List UInt8}
    (h : (writeHeader offset item).run out = .ok ((), out')) :
    ShortUTF item.name ∧ ∀ v, item.value = .string v → ShortUTF v := by
  obtain ⟨name, value, changedFlag, time, type, dynamicClass⟩ := item
  -- whatever the type, the name is written second
  rcases hser with rfl | rfl | rfl | rfl
  all_goals
    obtain ⟨_, mid, _, h⟩ := run_bind_ok h
    obtain ⟨_, mid', hname, h⟩ := run_bind_ok h
    refine ⟨shortUTF_of_writeUTF hname, ?_⟩
    intro v hv
    subst hv
  · exact absurd htyped (by simp [StatusItem.WellTyped, AnyValue.typeOf])
  · exact absurd htyped (by simp [StatusItem.WellTyped, AnyValue.typeOf])
  · exact absurd htyped (by simp [StatusItem.WellTyped, AnyValue.typeOf])
  · obtain ⟨w, mid'', hw, h⟩ := run_bind_ok h
    obtain ⟨_, _, hvalue, _⟩ := run_bind_ok h
    obtain rfl : v = w := Except.ok.inj (run_lift_ok hw).1
    exact shortUTF_of_nonEmptyUTF (shortUTF_of_writeUTF hvalue)

theorem short_of_writeAlarm {alarm : AlarmFields} {out out' : List UInt8}
    (h : (writeAlarm alarm).run out = .ok ((), out')) : ShortUTF alarm.message := by
  obtain ⟨_, mid, _, h⟩ := run_bind_ok h
  obtain ⟨_, mid', _, h⟩ := run_bind_ok h
  by_cases hmessage : alarm.message = []
  · rw [hmessage]
    show countUTFLength [] ≤ 65535
    decide
  · rw [if_pos hmessage] at h
    obtain ⟨_, mid'', _, h⟩ := run_bind_ok h
    exact shortUTF_of_writeUTF h

/-- A string that is too long for `writeUTF` would have ended the serialization. -/
theorem shortStrings_of_accept {item : StatusItem} (hser : Serialized item.type)
    (htyped : item.WellTyped) {out out' : List UInt8}
    (h : (accept item).run out = .ok ((), out')) : ShortStrings item := by
  unfold accept at h
  cases hclass : item.dynamicClass with
  | statusItem =>
      rw [hclass] at h
      obtain ⟨hname, hvalue⟩ := short_of_writeHeader hser htyped h
      exact ⟨hname, hvalue, fun alarm halarm => absurd (hclass.symm.trans halarm) (by simp)⟩
  | healthStatusItem =>
      rw [hclass] at h
      obtain ⟨hname, hvalue⟩ := short_of_writeHeader hser htyped h
      exact ⟨hname, hvalue, fun alarm halarm => absurd (hclass.symm.trans halarm) (by simp)⟩
  | alarmStatusItem alarm =>
      rw [hclass] at h
      obtain ⟨_, mid, hheader, htail⟩ := run_bind_ok h
      obtain ⟨hname, hvalue⟩ := short_of_writeHeader hser htyped hheader
      refine ⟨hname, hvalue, fun stored hstored => ?_⟩
      obtain rfl : alarm = stored := ItemClass.alarmStatusItem.inj (hclass.symm.trans hstored)
      exact short_of_writeAlarm htail

/-! ## Well-formed messages -/

/-- The body begins with the code of the kind and the type of the item, and carries its name, value
    and timestamp, the empty string as a blank. -/
structure WellFormed (item : StatusItem) (body : List UInt8) : Prop where
  code : ∃ code rest, body = code :: rest ∧ kindAndType code = .ok (item.kind, item.type)
  content : ∃ message, decode.run body = .ok (message, []) ∧ message.name = item.name ∧
    message.value = wireValue item.value ∧ message.timestamp = item.time

/-- A code byte stands for one of the types with a handler. -/
theorem serialized_of_kindAndType {code : UInt8} {kind : ItemKind} {type : ValueType}
    (h : kindAndType code = .ok (kind, type)) : Serialized type := by
  unfold kindAndType at h
  dsimp only at h
  split at h
  · next c hc =>
      obtain rfl : c = (kind, type) := Except.ok.inj h
      have hmem := List.mem_of_find?_eq_some hc
      simp only [List.mem_flatMap, List.mem_map] at hmem
      obtain ⟨k, -, t, ht, heq⟩ := hmem
      obtain ⟨rfl, rfl⟩ := Prod.mk.inj heq
      simpa [Serialized] using ht
  · exact absurd h (by simp)

/-- What the serializer writes is well formed precisely for the types with a handler. -/
theorem wellFormed_accept_iff {item : StatusItem} (htyped : item.WellTyped) {body : List UInt8}
    (h : (accept item).run [] = .ok ((), body)) :
    WellFormed item body ↔ Serialized item.type := by
  constructor
  · intro hwell
    obtain ⟨code, rest, -, hcode⟩ := hwell.code
    exact serialized_of_kindAndType hcode
  · intro hser
    have hshort := shortStrings_of_accept hser htyped h
    have hbytes := writes_accept hser htyped hshort []
    rw [List.nil_append] at hbytes
    obtain ⟨-, rfl⟩ := Prod.mk.inj (Except.ok.inj (hbytes.symm.trans h))
    exact ⟨⟨_, _, rfl, kindAndType_code item.kind hser⟩,
      ⟨messageOf item, (reads_decode hser htyped hshort).run_eq, rfl, rfl, rfl⟩⟩

end StatusSerializerVisitor

/-! ## Posts through JMS -/

/-- A call of `send` of the producer with this body succeeded. -/
def JmsStatusSender.Delivered (item : StatusItem) (body : List UInt8) : Prop :=
  (StatusSerializerVisitor.accept item).run [] = .ok ((), body) ∧
    ∃ resources : JmsStatusSender.Resources, JmsStatusSender.post resources item = .ok () ∧
      resources.send (GMPKeys.gmpStatusDestinationPrefix ++ item.name) body = .ok ()

/-- A post that is reported as OK has delivered a message. -/
theorem JmsStatusSender.delivered_of_post {resources : JmsStatusSender.Resources} {item : StatusItem}
    (h : JmsStatusSender.post resources item = .ok ()) :
    ∃ body, JmsStatusSender.Delivered item body := by
  obtain ⟨_, _, hrest⟩ := except_bind_ok h
  obtain ⟨⟨_, body⟩, haccept, hrest⟩ := except_bind_ok hrest
  obtain ⟨_, _, hsend⟩ := except_bind_ok hrest
  exact ⟨body, haccept, resources, h, hsend⟩

/-- A call that posts through a JMS sender, whatever its session does, if it posts at all. -/
def StatusOp.ThroughJms (op : StatusOp) : Prop :=
  ∀ post, op.sender = some (.ok post) → ∃ resources, post = JmsStatusSender.postStatus resources

namespace StatusUtil

open StatusSerializerVisitor

theorem delivered_after {ops : List StatusOp} (hjms : ∀ op ∈ ops, op.ThroughJms) :
    ∀ send ∈ (after ops).sends, send.succeeded = true →
      ∃ body, JmsStatusSender.Delivered send.item body := by
  induction ops using List.reverseRecOn with
  | nil => exact fun send hsend => absurd hsend (by simp [initial])
  | append_singleton ops op ih =>
      rw [after, Run.after_concat]
      refine sends_step ?_ (ih fun o ho => hjms o (List.mem_append_left _ ho))
      intro post hpost n p item hsucceeded
      obtain ⟨resources, rfl⟩ := hjms op (by simp) post hpost
      have hpostOk : JmsStatusSender.post (resources n) item = .ok () := by
        unfold Send.succeeded JmsStatusSender.postStatus at hsucceeded
        cases hresult : JmsStatusSender.post (resources n) item with
        | ok u => rfl
        | error e =>
            dsimp only at hsucceeded
            rw [hresult] at hsucceeded
            cases e <;> exact absurd hsucceeded (by simp [Except.toBool])
      exact JmsStatusSender.delivered_of_post hpostOk

theorem wellTyped_sends (ops : List StatusOp) :
    ∀ send ∈ (after ops).sends, send.item.WellTyped := by
  refine (items_after (Q := StatusItem.WellTyped) ?_ ?_ (fun item h => h) ops).2
  · intro op object hop
    cases StatusOp.constructs_inv hop <;> exact StatusItem.construct_wellTyped _ _ _ _
  · intro op name f item hop h
    exact (StatusOp.sets_updated hop item).wellTyped h

/-! ## From the creation to the wire -/

/-- The object at `p` is the item that was created so, and what was sent for it was that item. -/
structure CreatedAs (p : Ptr) (name : CxxString) (kind : ItemKind) (type : ValueType)
    (s : StatusService) : Prop where
  item : ∃ item, s.database.heap[p]? = some item ∧ item.name = name ∧ item.kind = kind ∧
    item.type = type
  sends : ∀ send ∈ s.sends, send.statusItem = p →
    send.item.name = name ∧ send.item.kind = kind ∧ send.item.type = type

section CreatedAs

variable {p : Ptr} {name : CxxString} {kind : ItemKind} {type : ValueType}

theorem createdAs_set {s : StatusService} (h : CreatedAs p name kind type s) {q : Ptr}
    {object object' : StatusItem} (hq : s.database.heap[q]? = some object)
    (hname : object'.name = object.name) (hkind : object'.kind = object.kind)
    (htype : object'.type = object.type) :
    ∃ item, (s.database.heap.set q object')[p]? = some item ∧ item.name = name ∧
      item.kind = kind ∧ item.type = type := by
  obtain ⟨item, hp, hitem⟩ := h.item
  rw [ObjectHeap.getElem?_set_of_some hq]
  by_cases hpq : p = q
  · subst hpq
    obtain rfl : object = item := Option.some.inj (hq.symm.trans hp)
    exact ⟨object', if_pos rfl, by rwa [hname, hkind, htype]⟩
  · exact ⟨item, by rw [if_neg hpq, hp], hitem⟩

theorem createdAs_step (s : StatusService) (op : StatusOp) (h : CreatedAs p name kind type s) :
    CreatedAs p name kind type (step s op) := by
  refine step_preserves (P := CreatedAs p name kind type) ?_ ?_ s h
  · intro s db h hdb
    refine ⟨?_, h.sends⟩
    cases hdb with
    | lookup k =>
        show ∃ item, (s.database.getStatusItem k).2.heap[p]? = some item ∧ _
        rw [StatusDatabase.getStatusItem_heap]
        exact h.item
    | store k object _ _ _ _ _ =>
        obtain ⟨item, hp, hitem⟩ := h.item
        exact ⟨item, ObjectHeap.getElem?_alloc_of_some hp object, hitem⟩
    | update q object object' hq hupdated =>
        exact createdAs_set h hq hupdated.name hupdated.kind hupdated.type
  · intro s q item outcome h hq
    refine ⟨createdAs_set h hq rfl rfl rfl, fun send hsend hp => ?_⟩
    rcases List.mem_cons.1 hsend with rfl | hsend
    · -- what is sent is the item as it is stored
      obtain ⟨created, hcreated, hitem⟩ := h.item
      have hqp : q = p := hp
      rw [hqp, hcreated] at hq
      obtain rfl : created = item := Option.some.inj hq
      exact hitem
    · exact h.sends send hsend hp

/-- Nothing was sent for an object that does not exist. -/
theorem sends_allocated (ops : List StatusOp) :
    ∀ send ∈ (after ops).sends, send.statusItem < (after ops).database.heap.length := by
  refine @Run.invariant _ _ step (fun s : StatusService =>
    ∀ send ∈ s.sends, send.statusItem < s.database.heap.length) initial ?_ ?_ ops
  · intro send hsend
    simp [initial] at hsend
  · intro s op h
    refine step_preserves (P := fun s : StatusService =>
      ∀ send ∈ s.sends, send.statusItem < s.database.heap.length) ?_ ?_ s h
    · intro s db h hdb send hsend
      have hlt := h send hsend
      cases hdb with
      | lookup k => simpa using hlt
      | store k object _ _ _ _ _ =>
          show _ < (s.database.heap ++ [object]).length
          rw [List.length_append, List.length_singleton]
          exact Nat.lt_succ_of_lt hlt
      | update q object object' _ _ => simpa using hlt
    · intro s q item outcome h hq send hsend
      show _ < (s.database.heap.set q item.clearChanged).length
      rw [List.length_set]
      rcases List.mem_cons.1 hsend with rfl | hsend
      · exact ObjectHeap.lt_of_getElem? hq
      · exact h send hsend

theorem createdAs_creation {ops : List StatusOp} {op : StatusOp} {object : StatusItem}
    (hop : op.constructs = some object) (hok : (call op (after ops)).1 = .ok (.status .ok)) :
    CreatedAs (after ops).database.heap.length object.name object.kind object.type
      (step (after ops) op) := by
  have hsends := sends_allocated ops
  generalize after ops = s at hok hsends ⊢
  rw [call_of_constructs hop] at hok
  -- the call answered `OK`, so the name was free and the object is the new one
  have hfree : s.database.lookup object.name = none := by
    rw [← StatusDatabase.create_ok_iff object.name object]
    simpa [creation, onDatabase, Except.map] using hok
  rw [step, call_of_constructs hop]
  refine ⟨⟨object, ?_, rfl, rfl, rfl⟩, fun send hsend hp => ?_⟩
  · show (s.database.create object.name object).2.heap[_]? = _
    rw [StatusDatabase.create_heap, if_pos ⟨hfree, rfl⟩]
  · exact absurd hp (Nat.ne_of_lt (hsends send hsend))

end CreatedAs

/-- A session on which everything succeeds. -/
def workingResources : JmsStatusSender.Resources :=
  { createBytesMessage := .ok ()
    createTopic := fun _ => .ok ()
    send := fun _ _ => .ok () }

def newItem (type : ValueType) : StatusOp :=
  .createStatusItem { gettimeofday := some { tvSec := 1, tvUsec := 0 }, memory := 0 } (str "x") type

def postAll : StatusOp := .postStatus (.ok (JmsStatusSender.postStatus fun _ => workingResources))

end StatusUtil

end Giapi
