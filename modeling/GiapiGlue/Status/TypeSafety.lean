import GiapiGlue.Status.StatusCalls

set_option autoImplicit false

/-! # Type safety of the stored values

A `boost::any` is read by casts nobody checks: in the setters, which compare before they store, and in
the serializer. Each of them asks for the type the item was declared with, so what they need is that the
value of every item has that type, in every state. -/

namespace Giapi

/-! ## The casts -/

namespace AnyValue

/-- A cast asks for a type, and finds a value of it. -/
def ReadsType {α : Type} (getValue : AnyValue → Except Exn α) (type : ValueType) : Prop :=
  ∀ value, typeOf value = some type → ∃ v, getValue value = .ok v

theorem getValueAsInt_readsType : ReadsType getValueAsInt .int := by
  intro value h
  cases value with
  | int v => exact ⟨v, rfl⟩
  | _ => exact absurd h (by simp [typeOf])

theorem getValueAsString_readsType : ReadsType getValueAsString .string := by
  intro value h
  cases value with
  | string v => exact ⟨v, rfl⟩
  | _ => exact absurd h (by simp [typeOf])

theorem getValueAsDouble_readsType : ReadsType getValueAsDouble .double := by
  intro value h
  cases value with
  | double v => exact ⟨v, rfl⟩
  | _ => exact absurd h (by simp [typeOf])

theorem getValueAsFloat_readsType : ReadsType getValueAsFloat .float := by
  intro value h
  cases value with
  | float v => exact ⟨v, rfl⟩
  | _ => exact absurd h (by simp [typeOf])

end AnyValue

/-! ## The setters -/

namespace StatusItem

open AnyValue

/-- The cast is made only when the types agree. -/
theorem setValueAs_returns {α : Type} {type : ValueType} {getValue : AnyValue → Except Exn α}
    (hget : ReadsType getValue type) (equal : α → α → Bool) (store : α → AnyValue) (env : CallEnv)
    (value : α) {item : StatusItem} (htyped : item.WellTyped) :
    ∃ status, (setValueAs type getValue equal store env value item).1 = .ok status := by
  unfold setValueAs
  by_cases htype : item.type = type
  · -- the stored value is there and has the type the cast asks for
    obtain ⟨v, hv⟩ := hget item.value (htyped.trans (congrArg some htype))
    have hempty : item.value ≠ .empty := by
      intro hempty
      rw [WellTyped, hempty] at htyped
      exact absurd htyped (by simp [typeOf])
    rw [if_neg (not_not_intro htype)]
    simp only [if_neg hempty, hv, Functor.map, Except.map]
    cases equal value v
    · exact ⟨.ok, rfl⟩
    · exact ⟨.ok, rfl⟩
  · exact ⟨.error, by rw [if_pos htype]⟩

theorem setHealth_returns (env : CallEnv) (health : Health) {item : StatusItem}
    (htyped : item.WellTyped) : ∃ status, (item.setHealth env health).1 = .ok status := by
  unfold setHealth
  split
  · exact setValueAs_returns getValueAsInt_readsType _ _ _ _ htyped
  · exact ⟨.error, rfl⟩

theorem setAlarm_returns (env : CallEnv) (severity : Severity) (cause : Cause)
    (message : CxxString) (item : StatusItem) :
    ∃ status, (item.setAlarm env severity cause message).1 = .ok status := by
  unfold setAlarm
  split
  · exact ⟨_, rfl⟩
  · exact ⟨.error, rfl⟩

theorem clearAlarm_returns (env : CallEnv) (item : StatusItem) :
    ∃ status, (item.clearAlarm env).1 = .ok status := by
  unfold clearAlarm
  split
  · next alarm _ => exact ⟨.ok, by rw [clearAlarmState_ok]⟩
  · exact ⟨.error, rfl⟩

end StatusItem

/-- No method of a well-typed item throws. -/
theorem StatusOp.sets_returns {op : StatusOp} {name : CxxString}
    {f : StatusItem → Except Exn Status × StatusItem} (hop : op.sets = some (name, f))
    {item : StatusItem} (htyped : item.WellTyped) : ∃ status, (f item).1 = .ok status := by
  cases StatusOp.sets_inv hop with
  | int env _ value =>
      exact StatusItem.setValueAs_returns AnyValue.getValueAsInt_readsType _ _ env value htyped
  | string env _ value =>
      exact StatusItem.setValueAs_returns AnyValue.getValueAsString_readsType _ _ env value htyped
  | double env _ value =>
      exact StatusItem.setValueAs_returns AnyValue.getValueAsDouble_readsType _ _ env value htyped
  | float env _ value =>
      exact StatusItem.setValueAs_returns AnyValue.getValueAsFloat_readsType _ _ env value htyped
  | health env _ health => exact StatusItem.setHealth_returns env health htyped
  | alarm env _ severity cause message =>
      exact StatusItem.setAlarm_returns env severity cause message item
  | clear env _ => exact StatusItem.clearAlarm_returns env item

/-! ## The serializer -/

namespace StatusSerializerVisitor

open BytesMessage ByteReader

/-- A cast that finds its type cannot fail, so it cannot fail with anything but a `CMSException`. -/
theorem failsWith_getValue {α : Type} {getValue : AnyValue → Except Exn α} {type : ValueType}
    (hget : AnyValue.ReadsType getValue type) {item : StatusItem} (htyped : item.WellTyped)
    (htype : item.type = type) :
    FailsWith IsCms (getValue item.value : ByteWriter Exn α) := by
  obtain ⟨v, hv⟩ := hget item.value (htyped.trans (congrArg some htype))
  refine FailsWith.lift fun e he => ?_
  rw [hv] at he
  exact absurd he (by simp)

/-- The part of a header common to the types with a handler. -/
theorem failsWith_header {α : Type} {getValue : AnyValue → Except Exn α} {type : ValueType}
    (hget : AnyValue.ReadsType getValue type) {item : StatusItem} (htyped : item.WellTyped)
    (htype : item.type = type) (code : UInt8) {write : α → ByteWriter Exn Unit}
    (hwrite : ∀ v, FailsWith IsCms (write v)) :
    FailsWith IsCms (do
      writeByte code
      writeUTF item.name
      let value ← (getValue item.value : ByteWriter Exn α)
      write value
      writeLong item.time) :=
  (ByteWriter.failsWith_put _).bind fun _ => (failsWith_writeUTF _).bind fun _ =>
    (failsWith_getValue hget htyped htype).bind fun v => (hwrite v).bind fun _ =>
      ByteWriter.failsWith_put _

theorem failsWith_writeHeader (offset : UInt8) {item : StatusItem} (htyped : item.WellTyped) :
    FailsWith IsCms (writeHeader offset item) := by
  unfold writeHeader
  split
  · next htype =>
      exact failsWith_header AnyValue.getValueAsInt_readsType htyped htype _
        (fun _ => ByteWriter.failsWith_put _)
  · next htype =>
      exact failsWith_header AnyValue.getValueAsDouble_readsType htyped htype _
        (fun _ => ByteWriter.failsWith_put _)
  · next htype =>
      exact failsWith_header AnyValue.getValueAsFloat_readsType htyped htype _
        (fun _ => ByteWriter.failsWith_put _)
  · next htype =>
      exact failsWith_header AnyValue.getValueAsString_readsType htyped htype _
        (fun _ => failsWith_writeUTF _)
  · exact FailsWith.pure ()
  · exact FailsWith.pure ()
  · exact FailsWith.pure ()

theorem failsWith_writeAlarm (alarm : AlarmFields) : FailsWith IsCms (writeAlarm alarm) := by
  refine (ByteWriter.failsWith_put _).bind fun _ => (ByteWriter.failsWith_put _).bind fun _ => ?_
  split
  · exact (ByteWriter.failsWith_put _).bind fun _ => failsWith_writeUTF _
  · exact ByteWriter.failsWith_put _

theorem failsWith_accept {item : StatusItem} (htyped : item.WellTyped) :
    FailsWith IsCms (accept item) := by
  unfold accept
  split
  · exact failsWith_writeHeader _ htyped
  · exact (failsWith_writeHeader _ htyped).bind fun _ => failsWith_writeAlarm _
  · exact failsWith_writeHeader _ htyped

end StatusSerializerVisitor

/-! ## Every reachable item -/

/-- No setter throws on the item, and its serialization ends with no failed cast. -/
structure StatusItem.CastsSucceed (item : StatusItem) : Prop where
  setters : ∀ op name f, StatusOp.sets op = some (name, f) → ∃ status, (f item).1 = .ok status
  serializer : ∀ body, (StatusSerializerVisitor.accept item).run body ≠ .error .badAnyCast

theorem StatusItem.WellTyped.castsSucceed {item : StatusItem} (h : item.WellTyped) :
    item.CastsSucceed where
  setters := fun _ _ _ hop => StatusOp.sets_returns hop h
  serializer := by
    intro body hbody
    obtain ⟨message, hmessage⟩ :=
      StatusSerializerVisitor.failsWith_accept h body .badAnyCast hbody
    exact absurd hmessage (by simp)

namespace StatusUtil

/-- **Type safety.** In every state, the value of every item has the type the item was declared with,
    and is there; so every cast succeeds. -/
theorem typeSafe (ops : List StatusOp) {p : Ptr} {item : StatusItem}
    (hp : (after ops).database.heap[p]? = some item) :
    item.value.typeOf = some item.type ∧ item.value ≠ .empty ∧ item.CastsSucceed := by
  have htyped : item.WellTyped := (coherent_after ops).typed p item hp
  refine ⟨htyped, ?_, htyped.castsSucceed⟩
  intro hempty
  rw [StatusItem.WellTyped, hempty] at htyped
  exact absurd htyped (by simp [AnyValue.typeOf])

/-- A `STRING` item is created, set and put into alarm, and its message is sent. -/
def alarmRun : List StatusOp :=
  let env : CallEnv := { gettimeofday := none, memory := 0 }
  [.createAlarmStatusItem env (str "a") .string, .setValueAsString env (str "a") (str "hot"),
    .setAlarm env (str "a") .alarmFailure .alarmCauseHihi (str "too hot"),
    .postStatus (.ok (JmsStatusSender.postStatus fun _ =>
      { createBytesMessage := .ok (), createTopic := fun _ => .ok (), send := fun _ _ => .ok () }))]

/-- The item that was posted holds its string, and all casts of it go on to succeed. -/
theorem alarmItem_typeSafe :
    ∃ item, (after alarmRun).database.heap[0]? = some item ∧ (after alarmRun).sends.length = 1
      ∧ item.value = .string (str "hot") ∧ item.type = .string ∧ item.CastsSucceed := by
  obtain ⟨-, -, hcasts⟩ := @typeSafe alarmRun 0 _ rfl
  exact ⟨_, rfl, rfl, rfl, rfl, hcasts⟩

/-- Apart from the posts, whose senders may throw, every call returns. -/
theorem call_returns (ops : List StatusOp) {op : StatusOp} (hop : op.sender = none) :
    ∃ answer, (call op (after ops)).1 = .ok answer := by
  have hset : ∀ name f, op.sets = some (name, f) → ∃ answer, (call op (after ops)).1 = .ok answer := by
    intro name f hsets
    rw [call_of_sets hsets]
    have hcoherent := coherent_after ops
    cases hfound : (after ops).database.lookup name with
    | none =>
        exact ⟨.status .error, by rw [onDatabase, StatusDatabase.update_of_none hfound]; rfl⟩
    | some p =>
        obtain ⟨item, hp, -⟩ := hcoherent.mapped name p
          ((StatusDatabase.lookup_eq_some_iff _ _ _).1 hfound).2
        obtain ⟨status, hstatus⟩ := StatusOp.sets_returns hsets (hcoherent.typed p item hp)
        refine ⟨.status status, ?_⟩
        rw [onDatabase, StatusDatabase.update_of_some hfound hp, hstatus]
        rfl
  cases op with
  | createStatusItem env name type => exact ⟨_, rfl⟩
  | createAlarmStatusItem env name type => exact ⟨_, rfl⟩
  | createHealthStatusItem env name => exact ⟨_, rfl⟩
  | getStatusItem name => exact ⟨_, rfl⟩
  | postStatusItem sender name => exact absurd hop (by simp [StatusOp.sender])
  | postStatus sender => exact absurd hop (by simp [StatusOp.sender])
  | _ => exact hset _ _ rfl

end StatusUtil

end Giapi
