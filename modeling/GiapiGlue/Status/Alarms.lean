import GiapiGlue.Status.Rejections

set_option autoImplicit false

/-! # Alarms

`ALARM_OK` has no cause and no message, and `ALARM_CAUSE_OTHER` has a message: `setAlarmState` refuses
or repairs what would break this. Values and alarms do not interfere. Clearing an alarm is setting it
to `ALARM_OK`, but the arguments that are discarded then have been looked at before. -/

namespace Giapi

/-- The three fields agree with each other. -/
structure AlarmFields.Consistent (alarm : AlarmFields) : Prop where
  ok : alarm.severity = .alarmOk → alarm.cause = .alarmCauseOk ∧ alarm.message = []
  other : alarm.cause = .alarmCauseOther → alarm.message ≠ []

/-- The call sets a plain value. -/
def StatusOp.setsValue : StatusOp → Bool
  | .setValueAsInt _ _ _ => true
  | .setValueAsString _ _ _ => true
  | .setValueAsDouble _ _ _ => true
  | .setValueAsFloat _ _ _ => true
  | .setHealth _ _ _ => true
  | _ => false

/-- The call sets or clears an alarm. -/
def StatusOp.setsAlarm : StatusOp → Bool
  | .setAlarm _ _ _ _ _ => true
  | .clearAlarm _ _ => true
  | _ => false

namespace StatusItem

def AlarmConsistent (item : StatusItem) : Prop :=
  ∀ alarm, item.dynamicClass = .alarmStatusItem alarm → alarm.Consistent

theorem initialAlarm_consistent : initialAlarm.Consistent :=
  ⟨fun _ => ⟨rfl, rfl⟩, fun h => absurd h (by simp [initialAlarm])⟩

/-- What `setAlarmState` stores is consistent, once it has asked for the message. -/
theorem newAlarm_consistent {severity : Severity} {cause : Cause} {message : CxxString}
    (hmessage : ¬ (message.isEmpty ∧ cause = .alarmCauseOther)) :
    (newAlarm severity cause message).Consistent := by
  unfold newAlarm
  split
  · exact ⟨fun _ => ⟨rfl, rfl⟩, fun h => absurd h (by simp)⟩
  · next hok =>
      refine ⟨fun h => absurd h hok, fun hcause hempty => hmessage ⟨?_, hcause⟩⟩
      have hnil : message = [] := hempty
      simp [hnil]

theorem setAlarmState_consistent (env : CallEnv) (severity : Severity) (cause : Cause)
    (message : CxxString) {item : StatusItem} (alarm : AlarmFields) (h : item.AlarmConsistent) :
    (setAlarmState env severity cause message item alarm).2.AlarmConsistent := by
  unfold setAlarmState
  split
  · exact h
  · next hmessage =>
      split
      · exact h
      · intro stored hstored
        obtain rfl : newAlarm severity cause message = stored := ItemClass.alarmStatusItem.inj hstored
        exact newAlarm_consistent hmessage

theorem setAlarm_of_alarm {env : CallEnv} {severity : Severity} {cause : Cause}
    {message : CxxString} {item : StatusItem} {alarm : AlarmFields}
    (hclass : item.dynamicClass = .alarmStatusItem alarm) :
    item.setAlarm env severity cause message
      = (.ok (setAlarmState env severity cause message item alarm).1,
        (setAlarmState env severity cause message item alarm).2) := by
  rw [setAlarm, hclass]

theorem clearAlarm_of_alarm {env : CallEnv} {item : StatusItem} {alarm : AlarmFields}
    (hclass : item.dynamicClass = .alarmStatusItem alarm) :
    item.clearAlarm env
      = (.ok .ok, (setAlarmState env .alarmOk .alarmCauseOk [] item alarm).2) := by
  rw [clearAlarm, hclass]
  simp only [clearAlarmState_ok]

/-! ## Values and alarms -/

theorem setValueAs_dynamicClass {α : Type} (type : ValueType) (getValue : AnyValue → Except Exn α)
    (equal : α → α → Bool) (store : α → AnyValue) (env : CallEnv) (value : α) (item : StatusItem) :
    (setValueAs type getValue equal store env value item).2.dynamicClass = item.dynamicClass := by
  rcases setValueAs_snd type getValue equal store env value item with hsame | ⟨-, hstored⟩
  · rw [hsame]
  · rw [hstored, mark_dynamicClass]

theorem setAlarmState_value (env : CallEnv) (severity : Severity) (cause : Cause)
    (message : CxxString) (item : StatusItem) (alarm : AlarmFields) :
    (setAlarmState env severity cause message item alarm).2.value = item.value := by
  unfold setAlarmState
  split
  · rfl
  · split <;> rfl

end StatusItem

section Sets

variable {op : StatusOp} {name : CxxString} {f : StatusItem → Except Exn Status × StatusItem}

theorem StatusOp.sets_dynamicClass (hop : op.sets = some (name, f)) (hvalue : op.setsValue = true)
    (item : StatusItem) : (f item).2.dynamicClass = item.dynamicClass := by
  cases StatusOp.sets_inv hop with
  | int env _ value => exact StatusItem.setValueAs_dynamicClass _ _ _ _ env value item
  | string env _ value => exact StatusItem.setValueAs_dynamicClass _ _ _ _ env value item
  | double env _ value => exact StatusItem.setValueAs_dynamicClass _ _ _ _ env value item
  | float env _ value => exact StatusItem.setValueAs_dynamicClass _ _ _ _ env value item
  | health env _ health =>
      unfold StatusItem.setHealth
      split
      · exact StatusItem.setValueAs_dynamicClass _ _ _ _ env health.toInt item
      · rfl
  | alarm => exact absurd hvalue (by simp [StatusOp.setsValue])
  | clear => exact absurd hvalue (by simp [StatusOp.setsValue])

theorem StatusOp.sets_value (hop : op.sets = some (name, f)) (halarm : op.setsAlarm = true)
    (item : StatusItem) : (f item).2.value = item.value := by
  cases StatusOp.sets_inv hop with
  | alarm env _ severity cause message =>
      unfold StatusItem.setAlarm
      split
      · exact StatusItem.setAlarmState_value env severity cause message item _
      · rfl
  | clear env _ =>
      unfold StatusItem.clearAlarm
      split
      · rw [StatusItem.clearAlarmState_ok]
        exact StatusItem.setAlarmState_value env .alarmOk .alarmCauseOk [] item _
      · rfl
  | _ => exact absurd halarm (by simp [StatusOp.setsAlarm])

theorem StatusOp.sets_alarmConsistent (hop : op.sets = some (name, f)) {item : StatusItem}
    (h : item.AlarmConsistent) : (f item).2.AlarmConsistent := by
  by_cases hvalue : op.setsValue = true
  · intro alarm halarm
    exact h alarm (by rw [← halarm, StatusOp.sets_dynamicClass hop hvalue item])
  · cases StatusOp.sets_inv hop with
    | alarm env _ severity cause message =>
        unfold StatusItem.setAlarm
        split
        · exact StatusItem.setAlarmState_consistent env severity cause message _ h
        · exact h
    | clear env _ =>
        unfold StatusItem.clearAlarm
        split
        · rw [StatusItem.clearAlarmState_ok]
          exact StatusItem.setAlarmState_consistent env .alarmOk .alarmCauseOk [] _ h
        · exact h
    | _ => exact absurd rfl hvalue

end Sets

namespace StatusUtil

theorem alarmConsistent_after (ops : List StatusOp) :
    (after ops).database.Items StatusItem.AlarmConsistent := by
  refine (items_after (Q := StatusItem.AlarmConsistent) ?_ ?_ (fun item h => h) ops).1
  · intro op object hop alarm halarm
    cases StatusOp.constructs_inv hop with
    | status env name type => exact ItemClass.noConfusion halarm
    | alarm env name type =>
        obtain rfl : StatusItem.initialAlarm = alarm := ItemClass.alarmStatusItem.inj halarm
        exact StatusItem.initialAlarm_consistent
    | health env name => exact ItemClass.noConfusion halarm
  · intro op name f item hop h
    exact StatusOp.sets_alarmConsistent hop h

/-- What a set call makes of an item: its method was applied, or another item was meant. -/
theorem step_set {s : StatusService} {op : StatusOp} {name : CxxString}
    {f : StatusItem → Except Exn Status × StatusItem} (hop : op.sets = some (name, f)) {p : Ptr}
    {item item' : StatusItem} (hp : s.database.heap[p]? = some item)
    (hp' : (step s op).database.heap[p]? = some item') : item' = item ∨ item' = (f item).2 := by
  rw [step, call_of_sets hop] at hp'
  have hheap : (s.database.update name f).2.heap[p]? = some item' := hp'
  rw [StatusDatabase.update_heap, hp] at hheap
  split at hheap
  · exact Or.inr (Option.some.inj hheap).symm
  · exact Or.inl (Option.some.inj hheap).symm

theorem sets_of_setsValue {op : StatusOp} (h : op.setsValue = true) :
    ∃ name f, op.sets = some (name, f) := by
  cases op <;> simp only [StatusOp.setsValue, Bool.false_eq_true] at h <;> exact ⟨_, _, rfl⟩

theorem sets_of_setsAlarm {op : StatusOp} (h : op.setsAlarm = true) :
    ∃ name f, op.sets = some (name, f) := by
  cases op <;> simp only [StatusOp.setsAlarm, Bool.false_eq_true] at h <;> exact ⟨_, _, rfl⟩

/-- **Alarms.** In every state the alarm of every item is consistent. No call that sets a value touches
    an alarm, and no call that sets or clears an alarm touches a value. -/
theorem alarms_consistent_and_separate (ops : List StatusOp) :
    (after ops).database.Items StatusItem.AlarmConsistent ∧
      ∀ (op : StatusOp) (p : Ptr) (item item' : StatusItem),
        (after ops).database.heap[p]? = some item →
        (step (after ops) op).database.heap[p]? = some item' →
        (op.setsValue = true → item'.alarmState = item.alarmState) ∧
          (op.setsAlarm = true → item'.value = item.value) := by
  refine ⟨alarmConsistent_after ops, fun op p item item' hp hp' => ⟨fun hvalue => ?_, fun halarm => ?_⟩⟩
  · obtain ⟨name, f, hop⟩ := sets_of_setsValue hvalue
    rcases step_set hop hp hp' with hsame | happlied
    · rw [hsame]
    · rw [happlied, StatusItem.alarmState, StatusOp.sets_dynamicClass hop hvalue item,
        StatusItem.alarmState]
  · obtain ⟨name, f, hop⟩ := sets_of_setsAlarm halarm
    rcases step_set hop hp hp' with hsame | happlied
    · rw [hsame]
    · rw [happlied, StatusOp.sets_value hop halarm item]

/-! ## Clearing and setting to `ALARM_OK`

Both normalise the alarm. Setting first refuses `ALARM_CAUSE_OTHER` without a message, and compares the
arguments as they were given with what is stored, so it can mark an item whose alarm was cleared
before. -/

/-- Two calls answered the same and left the item at `p` with the same alarm and the same flag. -/
def SameEffect (p : Ptr) (r r' : Except Exn Answer × StatusService) : Prop :=
  r.1 = r'.1 ∧ ∃ item item', r.2.database.heap[p]? = some item ∧
    r'.2.database.heap[p]? = some item' ∧ item.alarmState = item'.alarmState ∧
    item.changedFlag = item'.changedFlag

/-- Setting to `ALARM_OK` with these arguments is clearing: they are not refused, and if there is
    nothing left to clear and nothing to post they are those of a cleared alarm. -/
def ClearsAlike (item : StatusItem) (alarm : AlarmFields) (cause : Cause) (message : CxxString) :
    Prop :=
  ¬ (cause = .alarmCauseOther ∧ message = []) ∧
    (alarm.initialized = true → alarm.severity = .alarmOk → item.isChanged = false →
      cause = .alarmCauseOk ∧ message = [])

/-- What setting to `ALARM_OK` leaves, when it is not refused: a cleared alarm, and an item that is
    dirty unless it was clean and is found to be what was asked for. -/
theorem setAlarmState_ok (env : CallEnv) {cause : Cause} {message : CxxString} {item : StatusItem}
    {alarm : AlarmFields} (hclass : item.dynamicClass = .alarmStatusItem alarm)
    (hconsistent : alarm.Consistent) (haccepted : ¬ (cause = .alarmCauseOther ∧ message = [])) :
    ∃ item', StatusItem.setAlarmState env .alarmOk cause message item alarm = (.ok, item') ∧
      item'.alarmState = some (.alarmOk, .alarmCauseOk, []) ∧
      (item'.changedFlag = true ↔ item.changedFlag = true ∨
        ¬ (alarm.initialized = true ∧ alarm.severity = .alarmOk ∧ cause = .alarmCauseOk ∧
          message = [])) := by
  unfold StatusItem.setAlarmState
  rw [if_neg (fun h => haccepted ⟨h.2, List.isEmpty_iff.1 h.1⟩)]
  by_cases hok : alarm.severity = .alarmOk
  · obtain ⟨hcause, hmessage⟩ := hconsistent.ok hok
    simp only [hok, hcause, hmessage, true_and]
    by_cases hsame : alarm.initialized = true ∧ cause = .alarmCauseOk ∧ message = []
    · rw [if_pos hsame]
      refine ⟨item, rfl, ?_, by simp [hsame]⟩
      simp [StatusItem.alarmState, hclass, hok, hcause, hmessage]
    · rw [if_neg hsame]
      exact ⟨_, rfl, rfl, by simp [hsame]⟩
  · -- another severity is stored, so the arguments are not those of the last call
    rw [if_neg (fun h => hok h.2.1.symm)]
    exact ⟨_, rfl, rfl, by simp [hok]⟩

/-- On one alarm item the two methods do the same precisely in the cases of `ClearsAlike`. -/
theorem setAlarmState_ok_eq_clear_iff (env env' : CallEnv) (cause : Cause) (message : CxxString)
    {item : StatusItem} {alarm : AlarmFields} (hclass : item.dynamicClass = .alarmStatusItem alarm)
    (hconsistent : alarm.Consistent) :
    ((StatusItem.setAlarmState env .alarmOk cause message item alarm).1 = .ok ∧
      (StatusItem.setAlarmState env .alarmOk cause message item alarm).2.alarmState
        = (StatusItem.setAlarmState env' .alarmOk .alarmCauseOk [] item alarm).2.alarmState ∧
      (StatusItem.setAlarmState env .alarmOk cause message item alarm).2.changedFlag
        = (StatusItem.setAlarmState env' .alarmOk .alarmCauseOk [] item alarm).2.changedFlag) ↔
      ClearsAlike item alarm cause message := by
  by_cases haccepted : cause = .alarmCauseOther ∧ message = []
  · rw [StatusItem.setAlarmState_fst, if_pos ⟨List.isEmpty_iff.2 haccepted.2, haccepted.1⟩]
    exact iff_of_false (fun h => absurd h.1 (by simp)) (fun h => h.1 haccepted)
  · obtain ⟨x, hx, hxalarm, hxflag⟩ := setAlarmState_ok env hclass hconsistent haccepted
    obtain ⟨y, hy, hyalarm, hyflag⟩ :=
      @setAlarmState_ok env' .alarmCauseOk [] item alarm hclass hconsistent (by simp)
    rw [hx, hy, hxalarm, hyalarm, Bool.eq_iff_iff, hxflag, hyflag]
    unfold ClearsAlike StatusItem.isChanged
    simp only [haccepted, not_false_eq_true, true_and]
    by_cases hcleared : alarm.initialized = true ∧ alarm.severity = .alarmOk
    · cases item.changedFlag <;> simp [hcleared]
    · -- clearing stores and marks, and so does setting
      have hset : ¬ (alarm.initialized = true ∧ alarm.severity = .alarmOk ∧
          cause = .alarmCauseOk ∧ message = []) := fun h => hcleared ⟨h.1, h.2.1⟩
      have hclear : ¬ (alarm.initialized = true ∧ alarm.severity = .alarmOk ∧ True) :=
        fun h => hcleared ⟨h.1, h.2.1⟩
      exact iff_of_true (iff_of_true (Or.inr hset) (Or.inr hclear))
        (fun hinit hok => absurd ⟨hinit, hok⟩ hcleared)

/-- **Clearing.** For every alarm item, setting it to `ALARM_OK` by its name answers and does what
    clearing it does precisely if the arguments are `ClearsAlike`; an item without a name is out of
    reach of both. -/
theorem setOk_sameEffect_clear_iff (ops : List StatusOp) (env env' : CallEnv) (cause : Cause)
    (message : CxxString) {p : Ptr} {item : StatusItem} {alarm : AlarmFields}
    (hp : (after ops).database.heap[p]? = some item)
    (hclass : item.dynamicClass = .alarmStatusItem alarm) :
    SameEffect p (call (.setAlarm env item.name .alarmOk cause message) (after ops))
        (call (.clearAlarm env' item.name) (after ops)) ↔
      item.name = [] ∨ ClearsAlike item alarm cause message := by
  have hconsistent := alarmConsistent_after ops p item hp alarm hclass
  have hcoherent := coherent_after ops
  generalize after ops = s at hp hcoherent ⊢
  by_cases hname : item.name = []
  · have hnone : s.database.lookup item.name = none := by rw [hname]; rfl
    refine iff_of_true ?_ (Or.inl hname)
    simp only [call, onDatabase, StatusDatabase.setAlarm, StatusDatabase.clearAlarm,
      StatusDatabase.update_of_none hnone]
    exact ⟨rfl, item, item, by simpa using hp, by simpa using hp, rfl, rfl⟩
  · have hfound : s.database.lookup item.name = some p :=
      (StatusDatabase.lookup_eq_some_iff _ _ _).2 ⟨hname, hcoherent.registered p item hp hname⟩
    rw [or_iff_right hname, ← setAlarmState_ok_eq_clear_iff env env' cause message hclass hconsistent]
    have hset : call (.setAlarm env item.name .alarmOk cause message) s = _ :=
      congrArg (fun r => (r.1.map Answer.status, { s with database := r.2 }))
        (StatusDatabase.update_of_some hfound hp (StatusItem.setAlarm env .alarmOk cause message))
    have hclear : call (.clearAlarm env' item.name) s = _ :=
      congrArg (fun r => (r.1.map Answer.status, { s with database := r.2 }))
        (StatusDatabase.update_of_some hfound hp (StatusItem.clearAlarm env'))
    rw [hset, hclear, StatusItem.setAlarm_of_alarm hclass, StatusItem.clearAlarm_of_alarm hclass]
    have hread := fun x : StatusItem => (ObjectHeap.getElem?_set_of_some hp x p).trans (if_pos rfl)
    constructor
    · intro h
      obtain ⟨hstatus, x, y, hx, hy, halarm, hflag⟩ := h
      obtain rfl := Option.some.inj ((hread _).symm.trans hx)
      obtain rfl := Option.some.inj ((hread _).symm.trans hy)
      refine ⟨?_, halarm, hflag⟩
      simpa [Except.map] using hstatus
    · intro h
      obtain ⟨hstatus, halarm, hflag⟩ := h
      exact ⟨by rw [hstatus], _, _, hread _, hread _, halarm, hflag⟩

/-- A new item, whose alarm has not been set: the cause of a high alarm is discarded. -/
theorem okWithHigh_clears :
    SameEffect 0 (call (.setAlarm noClock (str "t") .alarmOk .alarmCauseHi []) (after oneAlarm))
      (call (.clearAlarm noClock (str "t")) (after oneAlarm)) :=
  (setOk_sameEffect_clear_iff oneAlarm noClock noClock .alarmCauseHi []
    (p := 0) rfl rfl).2 (Or.inr ⟨by decide, fun h => absurd h (by decide)⟩)

/-- The same item, and `ALARM_CAUSE_OTHER` without a message: it is not discarded but refused. -/
theorem okWithOther_refused :
    ¬ SameEffect 0 (call (.setAlarm noClock (str "t") .alarmOk .alarmCauseOther []) (after oneAlarm))
      (call (.clearAlarm noClock (str "t")) (after oneAlarm)) := by
  intro h
  have hstatus : (Except.ok (.status .error) : Except Exn Answer) = .ok (.status .ok) := h.1
  exact absurd hstatus (by simp)

end StatusUtil

end Giapi
