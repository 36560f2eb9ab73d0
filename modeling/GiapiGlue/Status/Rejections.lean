import GiapiGlue.Status.StatusCalls

set_option autoImplicit false

/-! # Rejected calls

A call of the status API that answers `ERROR` has changed nothing: not an item, not the list, not what
any name finds. Its lookup may have put a null pointer into the map, which no later call can tell from
no entry at all. A set call that answers `OK` has changed the item of its name only. -/

namespace Giapi

/-! ## Items -/

namespace StatusItem

theorem setValueAs_rejected {α : Type} {type : ValueType} {getValue : AnyValue → Except Exn α}
    {equal : α → α → Bool} {store : α → AnyValue} {env : CallEnv} {value : α} {item : StatusItem}
    (h : (setValueAs type getValue equal store env value item).1 = .ok .error) :
    (setValueAs type getValue equal store env value item).2 = item := by
  unfold setValueAs at h ⊢
  by_cases htype : item.type = type
  · -- an item of the right type is never refused
    rw [if_neg (not_not_intro htype)] at h
    generalize (if item.value = .empty then .ok false
      else (equal value ·) <$> getValue item.value : Except Exn Bool) = same at h
    rcases same with e | _ | _ <;> exact absurd h (by simp)
  · rw [if_pos htype]

theorem setHealth_rejected {env : CallEnv} {health : Health} {item : StatusItem}
    (h : (item.setHealth env health).1 = .ok .error) : (item.setHealth env health).2 = item := by
  unfold setHealth at h ⊢
  cases hclass : item.dynamicClass with
  | healthStatusItem =>
      rw [hclass] at h
      exact setValueAs_rejected h
  | statusItem => rfl
  | alarmStatusItem alarm => rfl

/-- The only alarm that is refused is one without the message its cause requires. -/
theorem setAlarmState_fst (env : CallEnv) (severity : Severity) (cause : Cause)
    (message : CxxString) (item : StatusItem) (alarm : AlarmFields) :
    (setAlarmState env severity cause message item alarm).1
      = if message.isEmpty ∧ cause = .alarmCauseOther then .error else .ok := by
  unfold setAlarmState
  by_cases hmissing : message.isEmpty ∧ cause = .alarmCauseOther
  · simp only [if_pos hmissing]
  · simp only [if_neg hmissing]
    split <;> rfl

theorem setAlarmState_rejected {env : CallEnv} {severity : Severity} {cause : Cause}
    {message : CxxString} {item : StatusItem} {alarm : AlarmFields}
    (h : (setAlarmState env severity cause message item alarm).1 = .error) :
    (setAlarmState env severity cause message item alarm).2 = item := by
  rw [setAlarmState_fst] at h
  unfold setAlarmState
  split at h
  · next hmissing => rw [if_pos hmissing]
  · exact absurd h (by simp)

theorem setAlarm_rejected {env : CallEnv} {severity : Severity} {cause : Cause}
    {message : CxxString} {item : StatusItem}
    (h : (item.setAlarm env severity cause message).1 = .ok .error) :
    (item.setAlarm env severity cause message).2 = item := by
  unfold setAlarm at h ⊢
  cases hclass : item.dynamicClass with
  | alarmStatusItem alarm =>
      rw [hclass] at h
      exact setAlarmState_rejected (Except.ok.inj h)
  | statusItem => rfl
  | healthStatusItem => rfl

theorem clearAlarm_rejected {env : CallEnv} {item : StatusItem}
    (h : (item.clearAlarm env).1 = .ok .error) : (item.clearAlarm env).2 = item := by
  unfold clearAlarm at h ⊢
  cases hclass : item.dynamicClass with
  | alarmStatusItem alarm =>
      simp only [hclass, clearAlarmState_ok] at h
      exact absurd h (by simp)
  | statusItem => rfl
  | healthStatusItem => rfl

end StatusItem

theorem StatusOp.sets_rejected {op : StatusOp} {name : CxxString}
    {f : StatusItem → Except Exn Status × StatusItem} (hop : op.sets = some (name, f))
    {item : StatusItem} (h : (f item).1 = .ok .error) : (f item).2 = item := by
  cases StatusOp.sets_inv hop with
  | int => exact StatusItem.setValueAs_rejected h
  | string => exact StatusItem.setValueAs_rejected h
  | double => exact StatusItem.setValueAs_rejected h
  | float => exact StatusItem.setValueAs_rejected h
  | health => exact StatusItem.setHealth_rejected h
  | alarm => exact StatusItem.setAlarm_rejected h
  | clear => exact StatusItem.clearAlarm_rejected h

/-! ## The database -/

/-- Every list, every lookup and every item is as before, and nothing was sent. -/
structure StatusService.Unchanged (s s' : StatusService) : Prop where
  listed : s'.database.statusItemList = s.database.statusItemList
  found : ∀ name, (s'.database.getStatusItem name).1 = (s.database.getStatusItem name).1
  items : s'.database.heap = s.database.heap
  sends : s'.sends = s.sends

/-- The same, except for the item `name` finds. -/
structure StatusService.OthersUnchanged (name : CxxString) (s s' : StatusService) : Prop where
  listed : s'.database.statusItemList = s.database.statusItemList
  found : ∀ k, (s'.database.getStatusItem k).1 = (s.database.getStatusItem k).1
  items : ∀ p, (s.database.getStatusItem name).1 ≠ some p →
    s'.database.heap[p]? = s.database.heap[p]?
  sends : s'.sends = s.sends

namespace StatusUtil

open StatusService (Unchanged OthersUnchanged)

theorem unchanged_lookup (name : CxxString) (s : StatusService) :
    Unchanged s { s with database := (s.database.getStatusItem name).2 } where
  listed := StatusDatabase.getStatusItem_statusItemList name s.database
  found := by
    intro k
    rw [StatusDatabase.getStatusItem_fst, StatusDatabase.getStatusItem_fst,
      StatusDatabase.getStatusItem_lookup]
  items := StatusDatabase.getStatusItem_heap name s.database
  sends := rfl

theorem othersUnchanged_update (name : CxxString)
    (f : StatusItem → Except Exn Status × StatusItem) (s : StatusService) :
    OthersUnchanged name s { s with database := (s.database.update name f).2 } where
  listed := StatusDatabase.update_statusItemList name f s.database
  found := by
    intro k
    rw [StatusDatabase.getStatusItem_fst, StatusDatabase.getStatusItem_fst,
      StatusDatabase.update_lookup]
  items := by
    intro p hp
    rw [StatusDatabase.getStatusItem_fst] at hp
    rw [StatusDatabase.update_heap, if_neg hp]
  sends := rfl

/-- A setter call is refused by the lookup, or by a method that leaves its item alone. -/
theorem unchanged_update {name : CxxString} {f : StatusItem → Except Exn Status × StatusItem}
    (hf : ∀ item, (f item).1 = .ok .error → (f item).2 = item) {s : StatusService}
    (h : (s.database.update name f).1 = .ok .error) :
    Unchanged s { s with database := (s.database.update name f).2 } := by
  have hothers := othersUnchanged_update name f s
  refine ⟨hothers.listed, hothers.found, List.ext_getElem? fun p => ?_, rfl⟩
  rw [StatusDatabase.update_heap]
  split
  · next hfound =>
      cases hp : s.database.heap[p]? with
      | none => rfl
      | some item =>
          rw [StatusDatabase.update_of_some hfound hp] at h
          rw [Option.map_some, hf item h]
  · rfl

theorem unchanged_create {name : CxxString} {object : StatusItem} {s : StatusService}
    (h : (s.database.create name object).1 = .error) :
    Unchanged s { s with database := (s.database.create name object).2 } := by
  have htaken : s.database.lookup name ≠ none := by
    intro hfree
    rw [(StatusDatabase.create_ok_iff name object s.database).2 hfree] at h
    exact absurd h (by simp)
  rw [StatusDatabase.create_snd, if_neg htaken]
  exact unchanged_lookup name s

/-! ## Posts -/

theorem doPost_rejected {post : PostStatus} {p : Ptr} {s : StatusService}
    (h : (AbstractStatusSender.doPost post p s).1 = .ok .error) :
    (AbstractStatusSender.doPost post p s).2 = s := by
  unfold AbstractStatusSender.doPost at h ⊢
  split at h
  · exact absurd h (by simp)
  · next item hp =>
      dsimp only at h ⊢
      split at h
      · next hclean => rw [if_pos hclean]
      · -- an implementor answers OK or throws
        cases hpost : post s.sends.length item.clearChanged with
        | error e => exact absurd h (by simp [hpost, Except.map])
        | ok u => exact absurd h (by simp [hpost, Except.map])

/-- `postStatus()` drops the answers of `doPost`. -/
theorem postItems_not_rejected (post : PostStatus) (items : List Ptr) (s : StatusService) :
    (AbstractStatusSender.postItems post items s).1 ≠ .ok .error := by
  induction items generalizing s with
  | nil => simp [AbstractStatusSender.postItems]
  | cons item items ih =>
      rw [AbstractStatusSender.postItems]
      split
      · simp
      · exact ih _

theorem unchanged_postStatusItem {post : PostStatus} {name : CxxString} {s : StatusService}
    (h : (AbstractStatusSender.postStatusItem post name s).1 = .ok .error) :
    Unchanged s (AbstractStatusSender.postStatusItem post name s).2 := by
  have hlookup := unchanged_lookup name s
  unfold AbstractStatusSender.postStatusItem at h ⊢
  split at h
  · next database heq =>
      rw [heq] at hlookup
      exact hlookup
  · next statusItem database heq =>
      rw [heq] at hlookup
      rw [doPost_rejected h]
      exact hlookup

/-! ## All calls -/

theorem map_status_eq_ok {result : Except Exn Status} {status : Status} :
    result.map Answer.status = .ok (.status status) ↔ result = .ok status := by
  cases result <;> simp [Except.map]

/-- **Rejected calls.** A call that answers `ERROR` changes nothing; a set call that answers `OK`
    changes no item but the one its name finds. -/
theorem rejected_changes_nothing (ops : List StatusOp) (op : StatusOp) :
    ((call op (after ops)).1 = .ok (.status .error) → Unchanged (after ops) (step (after ops) op)) ∧
      ∀ name f, op.sets = some (name, f) → (call op (after ops)).1 = .ok (.status .ok) →
        OthersUnchanged name (after ops) (step (after ops) op) := by
  generalize after ops = s
  have hcreation : ∀ object, op.constructs = some object →
      (call op s).1 = .ok (.status .error) → Unchanged s (step s op) := by
    intro object hop h
    rw [step, call_of_constructs hop] at *
    exact unchanged_create (Except.ok.inj (map_status_eq_ok.1 h))
  have hset : ∀ name f, op.sets = some (name, f) →
      (call op s).1 = .ok (.status .error) → Unchanged s (step s op) := by
    intro name f hop h
    rw [step, call_of_sets hop] at *
    exact unchanged_update (fun item => StatusOp.sets_rejected hop) (map_status_eq_ok.1 h)
  constructor
  · intro h
    cases op with
    | createStatusItem env name type => exact hcreation _ rfl h
    | createAlarmStatusItem env name type => exact hcreation _ rfl h
    | createHealthStatusItem env name => exact hcreation _ rfl h
    | getStatusItem name => exact absurd h (by simp [call])
    | postStatusItem sender name =>
        cases sender with
        | error e => exact absurd h (by simp [call, onSender])
        | ok post => exact unchanged_postStatusItem (map_status_eq_ok.1 h)
    | postStatus sender =>
        cases sender with
        | error e => exact absurd h (by simp [call, onSender])
        | ok post => exact absurd (map_status_eq_ok.1 h) (postItems_not_rejected post _ s)
    | _ => exact hset _ _ rfl h
  · intro name f hop _
    rw [step, call_of_sets hop]
    exact othersUnchanged_update name f s

/-- A call while the clock cannot be read. -/
def noClock : CallEnv := { gettimeofday := none, memory := 0 }

def oneAlarm : List StatusOp := [.createAlarmStatusItem noClock (str "t") .int]

/-- `ALARM_CAUSE_OTHER` without a message is refused; a value for the same item is stored. -/
theorem oneAlarm_rejected_and_set :
    Unchanged (after oneAlarm)
        (step (after oneAlarm) (.setAlarm noClock (str "t") .alarmWarning .alarmCauseOther [])) ∧
      OthersUnchanged (str "t") (after oneAlarm)
        (step (after oneAlarm) (.setValueAsInt noClock (str "t") 5)) :=
  ⟨(rejected_changes_nothing oneAlarm _).1 rfl, (rejected_changes_nothing oneAlarm _).2 _ _ rfl rfl⟩

end StatusUtil

end Giapi
