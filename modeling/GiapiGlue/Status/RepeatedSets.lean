import GiapiGlue.Status.Alarms

set_option autoImplicit false

/-! # Setting again

A set call that is made again after the item was posted finds what it asks for, and should leave the
item clean: otherwise one change is sent twice. Every setter compares its arguments with what is stored.
`setAlarmState` stores other ones than it was given when the severity is `ALARM_OK`, so there the
comparison of the second call is with what the first one discarded. -/

namespace Giapi

/-- The same call with the same arguments, made at another time. -/
def StatusOp.withEnv (env : CallEnv) : StatusOp → StatusOp
  | .createStatusItem _ name type => .createStatusItem env name type
  | .createAlarmStatusItem _ name type => .createAlarmStatusItem env name type
  | .createHealthStatusItem _ name => .createHealthStatusItem env name
  | .setValueAsInt _ name value => .setValueAsInt env name value
  | .setValueAsString _ name value => .setValueAsString env name value
  | .setValueAsDouble _ name value => .setValueAsDouble env name value
  | .setValueAsFloat _ name value => .setValueAsFloat env name value
  | .setHealth _ name health => .setHealth env name health
  | .setAlarm _ name severity cause message => .setAlarm env name severity cause message
  | .clearAlarm _ name => .clearAlarm env name
  | .getStatusItem name => .getStatusItem name
  | .postStatusItem sender name => .postStatusItem sender name
  | .postStatus sender => .postStatus sender

/-- The value the call is given equals itself, as every value but a NaN does. -/
def StatusOp.SelfEqual : StatusOp → Prop
  | .setValueAsDouble _ _ value => Ieee754.equal value value = true
  | .setValueAsFloat _ _ value => Ieee754.equal value value = true
  | _ => True

/-- The call sets an alarm to `ALARM_OK`, with a cause or a message for `setAlarmState` to discard. -/
def StatusOp.DiscardsArguments : StatusOp → Prop
  | .setAlarm _ _ severity cause message =>
    severity = .alarmOk ∧ ¬ (cause = .alarmCauseOk ∧ message = [])
  | _ => False

namespace AnyValue

/-- What is stored is there, and reading it gives it back. -/
structure ReadsBack {α : Type} (store : α → AnyValue) (getValue : AnyValue → Except Exn α) :
    Prop where
  stored : ∀ v, store v ≠ .empty
  read : ∀ v, getValue (store v) = .ok v

theorem int_readsBack : ReadsBack .int getValueAsInt := ⟨by simp, fun _ => rfl⟩

theorem string_readsBack : ReadsBack .string getValueAsString := ⟨by simp, fun _ => rfl⟩

theorem double_readsBack : ReadsBack .double getValueAsDouble := ⟨by simp, fun _ => rfl⟩

theorem float_readsBack : ReadsBack .float getValueAsFloat := ⟨by simp, fun _ => rfl⟩

end AnyValue

/-! ## The setters, applied twice -/

namespace StatusItem

theorem clearChanged_of_clean {item : StatusItem} (h : item.isChanged = false) :
    item.clearChanged = item := by
  rw [clearChanged, ← h]
  rfl

/-- A method applied again to the item as it was posted: it answers `OK`, and leaves the item alone
    unless it was given arguments that are discarded. -/
structure Repeated (f : StatusItem → Except Exn Status × StatusItem) (posted : StatusItem)
    (discarded : Prop) : Prop where
  answer : (f posted).1 = .ok .ok
  quiet : ¬ discarded → (f posted).2 = posted
  marks : discarded → (f posted).2.changedFlag = true

/-- Comparing the value with the one stored finds nothing new. -/
structure Holds {α : Type} (type : ValueType) (getValue : AnyValue → Except Exn α)
    (equal : α → α → Bool) (value : α) (item : StatusItem) : Prop where
  type : item.type = type
  stored : item.value ≠ .empty
  same : ∃ v, getValue item.value = .ok v ∧ equal value v = true

section Values

variable {α : Type} {type : ValueType} {getValue : AnyValue → Except Exn α}
  {equal : α → α → Bool} {store : α → AnyValue} {value : α} {item : StatusItem}

theorem setValueAs_of_holds (h : item.Holds type getValue equal value) (env : CallEnv) :
    setValueAs type getValue equal store env value item = (.ok .ok, item) := by
  obtain ⟨htype, hstored, v, hv, hequal⟩ := h
  unfold setValueAs
  rw [if_neg (not_not_intro htype)]
  simp only [if_neg hstored, hv, Functor.map, Except.map, hequal]

/-- An answer `OK` says that the item holds the value now, whether it was stored or found. -/
theorem holds_of_setValueAs (hback : AnyValue.ReadsBack store getValue)
    (hself : equal value value = true) {env : CallEnv}
    (hok : (setValueAs type getValue equal store env value item).1 = .ok .ok) :
    (setValueAs type getValue equal store env value item).2.Holds type getValue equal value := by
  unfold setValueAs at hok ⊢
  by_cases htype : item.type = type
  · rw [if_neg (not_not_intro htype)] at hok ⊢
    by_cases hempty : item.value = .empty
    · simp only [if_pos hempty]
      exact ⟨htype, hback.stored value, value, hback.read value, hself⟩
    · simp only [if_neg hempty] at hok ⊢
      cases hv : getValue item.value with
      | error e =>
          simp only [hv, Functor.map, Except.map] at hok
          exact absurd hok (by simp)
      | ok v =>
          simp only [Functor.map, Except.map]
          cases hequal : equal value v with
          | true => exact ⟨htype, hempty, v, hv, hequal⟩
          | false => exact ⟨htype, hback.stored value, value, hback.read value, hself⟩
  · rw [if_pos htype] at hok
    exact absurd hok (by simp)

theorem Holds.clearChanged (h : item.Holds type getValue equal value) :
    item.clearChanged.Holds type getValue equal value :=
  ⟨h.type, h.stored, h.same⟩

/-- A value that was set is found on the posted item. -/
theorem setValueAs_repeated (hback : AnyValue.ReadsBack store getValue)
    (hself : equal value value = true) (env env' : CallEnv)
    (hok : (setValueAs type getValue equal store env value item).1 = .ok .ok) :
    Repeated (setValueAs type getValue equal store env' value)
      (setValueAs type getValue equal store env value item).2.clearChanged False := by
  have hholds := (holds_of_setValueAs hback hself hok).clearChanged
  have hagain := @setValueAs_of_holds α type getValue equal store value _ hholds env'
  exact ⟨congrArg Prod.fst hagain, fun _ => congrArg Prod.snd hagain, fun h => h.elim⟩

end Values

theorem setValueAsInt_repeated {item : StatusItem} {value : CInt} (env env' : CallEnv)
    (hok : (item.setValueAsInt env value).1 = .ok .ok) :
    Repeated (setValueAsInt env' value) (item.setValueAsInt env value).2.clearChanged False :=
  setValueAs_repeated AnyValue.int_readsBack (decide_eq_true rfl) env env' hok

theorem setValueAsString_repeated {item : StatusItem} {value : CxxString} (env env' : CallEnv)
    (hok : (item.setValueAsString env value).1 = .ok .ok) :
    Repeated (setValueAsString env' value) (item.setValueAsString env value).2.clearChanged False :=
  setValueAs_repeated AnyValue.string_readsBack (decide_eq_true rfl) env env' hok

theorem setValueAsDouble_repeated {item : StatusItem} {value : CDouble}
    (hself : Ieee754.equal value value = true) (env env' : CallEnv)
    (hok : (item.setValueAsDouble env value).1 = .ok .ok) :
    Repeated (setValueAsDouble env' value) (item.setValueAsDouble env value).2.clearChanged False :=
  setValueAs_repeated AnyValue.double_readsBack hself env env' hok

theorem setValueAsFloat_repeated {item : StatusItem} {value : CFloat}
    (hself : Ieee754.equal value value = true) (env env' : CallEnv)
    (hok : (item.setValueAsFloat env value).1 = .ok .ok) :
    Repeated (setValueAsFloat env' value) (item.setValueAsFloat env value).2.clearChanged False :=
  setValueAs_repeated AnyValue.float_readsBack hself env env' hok

theorem setHealth_of_health {env : CallEnv} {health : Health} {item : StatusItem}
    (hclass : item.dynamicClass = .healthStatusItem) :
    item.setHealth env health = item.setValueAsInt env health.toInt := by
  rw [setHealth, hclass]

theorem setHealth_repeated {item : StatusItem} {health : Health} (env env' : CallEnv)
    (hok : (item.setHealth env health).1 = .ok .ok) :
    Repeated (setHealth env' health) (item.setHealth env health).2.clearChanged False := by
  cases hclass : item.dynamicClass with
  | healthStatusItem =>
      rw [setHealth_of_health hclass] at hok ⊢
      have hposted : (item.setValueAsInt env health.toInt).2.clearChanged.dynamicClass
          = .healthStatusItem :=
        (setValueAs_dynamicClass _ _ _ _ env health.toInt item).trans hclass
      obtain ⟨hanswer, hquiet, -⟩ := setValueAsInt_repeated env env' hok
      rw [← setHealth_of_health hposted] at hanswer hquiet
      exact ⟨hanswer, hquiet, fun h => h.elim⟩
  | statusItem => exact absurd hok (by simp [setHealth, hclass])
  | alarmStatusItem alarm => exact absurd hok (by simp [setHealth, hclass])

/-- There is a cause or a message for `setAlarmState` to discard. -/
def Discards (severity : Severity) (cause : Cause) (message : CxxString) : Prop :=
  severity = .alarmOk ∧ ¬ (cause = .alarmCauseOk ∧ message = [])

/-- The arguments are those of the last call, as far as the alarm shows. -/
def Shows (alarm : AlarmFields) (severity : Severity) (cause : Cause) (message : CxxString) : Prop :=
  alarm.initialized = true ∧ severity = alarm.severity ∧ cause = alarm.cause ∧
    message = alarm.message

section Alarm

variable {env : CallEnv} {severity : Severity} {cause : Cause} {message : CxxString}
  {item : StatusItem} {alarm : AlarmFields}

/-- A new alarm shows the arguments it was made of, unless they were discarded. -/
theorem newAlarm_shows_iff :
    Shows (newAlarm severity cause message) severity cause message ↔
      ¬ Discards severity cause message := by
  unfold Shows newAlarm Discards
  by_cases hok : severity = .alarmOk
  · simp [hok]
  · simp [hok]

/-- Arguments to be discarded are never shown: a stored alarm that is `ALARM_OK` has none. -/
theorem Shows.not_discarded (h : Shows alarm severity cause message) (hconsistent : alarm.Consistent) :
    ¬ Discards severity cause message := by
  obtain ⟨-, hseverity, hcause, hmessage⟩ := h
  intro hdiscarded
  have hok := hconsistent.ok (hseverity.symm.trans hdiscarded.1)
  exact hdiscarded.2 ⟨hcause.trans hok.1, hmessage.trans hok.2⟩

/-- What the alarm shows after a call that was not refused. -/
theorem setAlarmState_shows (hclass : item.dynamicClass = .alarmStatusItem alarm)
    (hconsistent : alarm.Consistent)
    (hok : (setAlarmState env severity cause message item alarm).1 = .ok) :
    ∃ alarm', (setAlarmState env severity cause message item alarm).2.dynamicClass
        = .alarmStatusItem alarm' ∧
      (Shows alarm' severity cause message ↔
        ¬ Discards severity cause message) := by
  unfold setAlarmState at hok ⊢
  by_cases hmissing : message.isEmpty ∧ cause = .alarmCauseOther
  · rw [if_pos hmissing] at hok
    exact absurd hok (by simp)
  · rw [if_neg hmissing]
    by_cases hsame : alarm.initialized ∧ severity = alarm.severity ∧ cause = alarm.cause ∧
        message = alarm.message
    · rw [if_pos hsame]
      exact ⟨alarm, hclass, iff_of_true hsame (Shows.not_discarded hsame hconsistent)⟩
    · rw [if_neg hsame]
      exact ⟨newAlarm severity cause message, rfl, newAlarm_shows_iff⟩

/-- Setting what is shown does nothing, setting anything else marks the item. -/
theorem setAlarmState_accepted (item : StatusItem) (alarm : AlarmFields)
    (haccepted : ¬ (message.isEmpty ∧ cause = .alarmCauseOther)) (env : CallEnv) :
    (setAlarmState env severity cause message item alarm).1 = .ok ∧
      (Shows alarm severity cause message →
        (setAlarmState env severity cause message item alarm).2 = item) ∧
      (¬ Shows alarm severity cause message →
        (setAlarmState env severity cause message item alarm).2.changedFlag = true) := by
  unfold setAlarmState
  rw [if_neg haccepted]
  by_cases hsame : alarm.initialized ∧ severity = alarm.severity ∧ cause = alarm.cause ∧
      message = alarm.message
  · rw [if_pos hsame]
    exact ⟨rfl, fun _ => rfl, fun hnot => absurd hsame hnot⟩
  · rw [if_neg hsame]
    exact ⟨rfl, fun hshows => absurd hshows hsame, fun _ => rfl⟩

/-- An alarm that was set is found on the posted item, unless arguments were discarded. -/
theorem setAlarm_repeated (hconsistent : item.AlarmConsistent) (env env' : CallEnv)
    (hok : (item.setAlarm env severity cause message).1 = .ok .ok) :
    Repeated (setAlarm env' severity cause message)
      (item.setAlarm env severity cause message).2.clearChanged
      (Discards severity cause message) := by
  cases hclass : item.dynamicClass with
  | alarmStatusItem alarm =>
      rw [setAlarm_of_alarm hclass] at hok ⊢
      have hset : (setAlarmState env severity cause message item alarm).1 = .ok := by
        simpa using hok
      have haccepted : ¬ (message.isEmpty ∧ cause = .alarmCauseOther) := by
        intro hmissing
        rw [setAlarmState_fst, if_pos hmissing] at hset
        exact absurd hset (by simp)
      obtain ⟨alarm', hclass', hshows⟩ :=
        setAlarmState_shows hclass (hconsistent alarm hclass) hset
      have hposted : (setAlarmState env severity cause message item alarm).2.clearChanged.dynamicClass
          = .alarmStatusItem alarm' := hclass'
      generalize (setAlarmState env severity cause message item alarm).2.clearChanged = posted
        at hposted ⊢
      obtain ⟨hanswer, hquiet, hmarks⟩ :=
        @setAlarmState_accepted severity cause message posted alarm' haccepted env'
      refine ⟨?_, fun hkept => ?_, fun hdiscarded => ?_⟩
      · rw [setAlarm_of_alarm hposted, hanswer]
      · rw [setAlarm_of_alarm hposted]
        exact hquiet (hshows.2 hkept)
      · rw [setAlarm_of_alarm hposted]
        exact hmarks fun hshown => hshows.1 hshown hdiscarded
  | statusItem => exact absurd hok (by simp [setAlarm, hclass])
  | healthStatusItem => exact absurd hok (by simp [setAlarm, hclass])

/-- Clearing is setting to `ALARM_OK` with nothing to discard. -/
theorem clearAlarm_eq_setAlarm (env : CallEnv) (item : StatusItem) :
    item.clearAlarm env = item.setAlarm env .alarmOk .alarmCauseOk [] := by
  cases hclass : item.dynamicClass with
  | alarmStatusItem alarm =>
      have hanswer : (setAlarmState env .alarmOk .alarmCauseOk [] item alarm).1 = .ok := by
        rw [setAlarmState_fst, if_neg (by simp)]
      rw [clearAlarm_of_alarm hclass, setAlarm_of_alarm hclass, hanswer]
  | statusItem => simp [clearAlarm, setAlarm, hclass]
  | healthStatusItem => simp [clearAlarm, setAlarm, hclass]

theorem clearAlarm_repeated (hconsistent : item.AlarmConsistent) (env env' : CallEnv)
    (hok : (item.clearAlarm env).1 = .ok .ok) :
    Repeated (clearAlarm env') (item.clearAlarm env).2.clearChanged False := by
  rw [clearAlarm_eq_setAlarm] at hok ⊢
  obtain ⟨hanswer, hquiet, -⟩ := setAlarm_repeated hconsistent env env' hok
  rw [← clearAlarm_eq_setAlarm] at hanswer hquiet
  exact ⟨hanswer, fun _ => hquiet (by simp [Discards]), fun h => h.elim⟩

end Alarm

end StatusItem

/-- **Set calls, repeated.** The method of a set call that answered `OK`, applied again to the item as it
    was posted. -/
theorem StatusOp.sets_repeated {op : StatusOp} {name : CxxString}
    {f : StatusItem → Except Exn Status × StatusItem} (hop : op.sets = some (name, f))
    (hself : op.SelfEqual) {item : StatusItem} (hconsistent : item.AlarmConsistent)
    (hok : (f item).1 = .ok .ok) (env' : CallEnv) :
    ∃ g, (op.withEnv env').sets = some (name, g) ∧
      StatusItem.Repeated g (f item).2.clearChanged op.DiscardsArguments := by
  cases StatusOp.sets_inv hop with
  | int env _ value => exact ⟨_, rfl, StatusItem.setValueAsInt_repeated env env' hok⟩
  | string env _ value => exact ⟨_, rfl, StatusItem.setValueAsString_repeated env env' hok⟩
  | double env _ value => exact ⟨_, rfl, StatusItem.setValueAsDouble_repeated hself env env' hok⟩
  | float env _ value => exact ⟨_, rfl, StatusItem.setValueAsFloat_repeated hself env env' hok⟩
  | health env _ health => exact ⟨_, rfl, StatusItem.setHealth_repeated env env' hok⟩
  | alarm env _ severity cause message =>
      exact ⟨_, rfl, StatusItem.setAlarm_repeated hconsistent env env' hok⟩
  | clear env _ => exact ⟨_, rfl, StatusItem.clearAlarm_repeated hconsistent env env' hok⟩

/-- The sends of the item at `p`, the latest first. -/
def sendsOf (sends : List Send) (p : Ptr) : List Send :=
  sends.filter (fun send => send.statusItem = p)

theorem sendsOf_append (new sends : List Send) (p : Ptr) :
    sendsOf (new ++ sends) p = sendsOf new p ++ sendsOf sends p :=
  List.filter_append new sends

namespace StatusUtil

open AbstractStatusSender (sent sent_heap)

/-! ## What a post does to one item -/

theorem step_of_sender {s : StatusService} {op : StatusOp} {sender : Except Exn PostStatus}
    (hop : op.sender = some sender) :
    step s op = s ∨ ∃ post, PostParts post s (step s op) := by
  cases op <;> simp only [StatusOp.sender, Option.some.injEq, reduceCtorEq] at hop <;> subst hop
  case postStatusItem sender name =>
    cases sender with
    | error e => exact Or.inl rfl
    | ok post => exact Or.inr ⟨post, postStatusItem_parts post name s⟩
  case postStatus sender =>
    cases sender with
    | error e => exact Or.inl rfl
    | ok post => exact Or.inr ⟨post, postItems_parts post _ s⟩

theorem sendsOf_sent (s : StatusService) (p q : Ptr) (item : StatusItem)
    (outcome : Except Exn Unit) (h : q ≠ p) :
    sendsOf (sent s q item outcome).sends p = sendsOf s.sends p :=
  List.filter_cons_of_neg (by simpa using h)

/-- A post leaves an item alone and does not send it, or leaves it clean. -/
theorem postParts_item {post : PostStatus} {s s' : StatusService} (hparts : PostParts post s s')
    {p : Ptr} {item : StatusItem} (hp : s.database.heap[p]? = some item) :
    s'.database.heap[p]? = some item ∧ sendsOf s'.sends p = sendsOf s.sends p ∨
      item.changedFlag = true ∧ s'.database.heap[p]? = some item.clearChanged := by
  induction hparts with
  | refl => exact Or.inl ⟨hp, rfl⟩
  | tail _ hpart ih =>
      cases hpart with
      | lookup name => simpa using ih
      | sent q other hq hchanged =>
          rw [sent_heap hq]
          by_cases hpq : p = q
          · subst hpq
            rw [if_pos rfl]
            rcases ih with ⟨hsame, -⟩ | ⟨hdirty, hclean⟩
            · obtain rfl := Option.some.inj (hsame.symm.trans hq)
              exact Or.inr ⟨hchanged, rfl⟩
            · -- it was clean, so it is not sent again
              obtain rfl := Option.some.inj (hclean.symm.trans hq)
              exact absurd hchanged (by simp [StatusItem.clearChanged])
          · rw [if_neg hpq, sendsOf_sent _ p q other _ (Ne.symm hpq)]
            exact ih

theorem postParts_lookup {post : PostStatus} {s s' : StatusService} (hparts : PostParts post s s')
    (name : CxxString) : s'.database.lookup name = s.database.lookup name := by
  induction hparts with
  | refl => rfl
  | tail _ hpart ih =>
      cases hpart with
      | lookup other => simpa using ih
      | sent p item _ _ => exact ih

/-- A clean item is not sent. -/
theorem clean_not_sent {s : StatusService} {op : StatusOp} {sender : Except Exn PostStatus}
    (hop : op.sender = some sender) {p : Ptr} {item : StatusItem}
    (hp : s.database.heap[p]? = some item) (hclean : item.isChanged = false) :
    sendsOf (step s op).sends p = sendsOf s.sends p := by
  rcases step_of_sender (s := s) hop with hsame | ⟨post, hparts⟩
  · rw [hsame]
  · rcases postParts_item hparts hp with ⟨-, hsends⟩ | ⟨hdirty, -⟩
    · exact hsends
    · rw [StatusItem.isChanged, hdirty] at hclean
      exact absurd hclean (by simp)

/-! ## Setting, posting, setting again -/

/-- The post call got through for the item at `p`: it sent it and the sender took it, or the item was
    clean and there was nothing to send. -/
structure PostedThrough (s : StatusService) (post : StatusOp) (p : Ptr) : Prop where
  isPost : ∃ sender, post.sender = some sender
  sent : (∃ new send, (step s post).sends = new ++ s.sends ∧ send ∈ new ∧ send.statusItem = p ∧
      send.succeeded = true) ∨
    ∃ item, s.database.heap[p]? = some item ∧ item.isChanged = false

/-- The call answers `OK` and leaves the item at `p` clean with the timestamp it had, so that no post
    that follows sends it. -/
structure LeftAlone (s : StatusService) (op : StatusOp) (p : Ptr) : Prop where
  answer : (call op s).1 = .ok (.status .ok)
  clean : ∃ item item', s.database.heap[p]? = some item ∧
    (step s op).database.heap[p]? = some item' ∧ item'.isChanged = false ∧ item'.time = item.time
  silent : ∀ next sender, StatusOp.sender next = some sender →
    sendsOf (step (step s op) next).sends p = sendsOf (step s op).sends p

/-- After a post that got through the item is what it was, but clean. -/
theorem PostedThrough.item {s : StatusService} {post : StatusOp} {p : Ptr} {item : StatusItem}
    (h : PostedThrough s post p) (hp : s.database.heap[p]? = some item) :
    (step s post).database.heap[p]? = some item.clearChanged ∧
      ∀ name, (step s post).database.lookup name = s.database.lookup name := by
  obtain ⟨⟨sender, hsender⟩, hsent⟩ := h
  have hunsent : sendsOf (step s post).sends p = sendsOf s.sends p → item.clearChanged = item := by
    intro hsends
    rcases hsent with ⟨new, send, hnew, hmem, hto, -⟩ | ⟨old, hold, hclean⟩
    · -- the send is one of those of `p`
      rw [hnew, sendsOf_append, List.append_left_eq_self, sendsOf, List.filter_eq_nil_iff] at hsends
      exact absurd (decide_eq_true hto) (hsends send hmem)
    · obtain rfl := Option.some.inj (hp.symm.trans hold)
      exact StatusItem.clearChanged_of_clean hclean
  rcases step_of_sender (s := s) hsender with hsame | ⟨post', hparts⟩
  · rw [hsame] at hunsent ⊢
    exact ⟨by rw [hunsent rfl, hp], fun _ => rfl⟩
  · refine ⟨?_, postParts_lookup hparts⟩
    rcases postParts_item hparts hp with ⟨hsame, hsends⟩ | ⟨-, hclean⟩
    · rw [hunsent hsends, hsame]
    · exact hclean

section Set

variable {s : StatusService} {op : StatusOp} {name : CxxString}
  {f : StatusItem → Except Exn Status × StatusItem}

/-- A set call whose name finds an item applies its method to it. -/
theorem call_set_found (hop : op.sets = some (name, f)) {p : Ptr} {item : StatusItem}
    (hfound : s.database.lookup name = some p) (hp : s.database.heap[p]? = some item) :
    (call op s).1 = (f item).1.map .status ∧ (step s op).database.heap[p]? = some (f item).2 := by
  rw [step, call_of_sets hop]
  constructor
  · show (s.database.update name f).1.map Answer.status = _
    rw [StatusDatabase.update_of_some hfound hp]
  · show (s.database.update name f).2.heap[p]? = _
    rw [StatusDatabase.update_heap, if_pos hfound, hp]
    rfl

theorem step_set_lookup (hop : op.sets = some (name, f)) (k : CxxString) :
    (step s op).database.lookup k = s.database.lookup k := by
  rw [step, call_of_sets hop]
  exact StatusDatabase.update_lookup name k f s.database

/-- A set call that answered `OK` found an item, and the method did. -/
theorem call_set_ok (hop : op.sets = some (name, f)) (hok : (call op s).1 = .ok (.status .ok)) {p : Ptr}
    (hfound : s.database.lookup name = some p) :
    ∃ item, s.database.heap[p]? = some item ∧ (f item).1 = .ok .ok := by
  cases hp : s.database.heap[p]? with
  | none =>
      rw [call_of_sets hop] at hok
      have hthrown : (s.database.update name f).1.map Answer.status = .ok (.status .ok) := hok
      rw [StatusDatabase.update_dangling hfound hp] at hthrown
      exact absurd hthrown (by simp [Except.map])
  | some item =>
      rw [(call_set_found hop hfound hp).1] at hok
      refine ⟨item, rfl, ?_⟩
      cases hf : (f item).1 with
      | error e => exact absurd hok (by simp [hf, Except.map])
      | ok status => simpa [hf, Except.map] using hok

end Set

/-- **Setting again.** A set call that answered `OK`, made again with the same arguments after its item
    was posted, leaves the item alone precisely if none of its arguments are discarded. -/
theorem set_again_leavesAlone_iff (ops : List StatusOp) {op post : StatusOp} {name : CxxString}
    {f : StatusItem → Except Exn Status × StatusItem} {p : Ptr} (env : CallEnv)
    (hop : op.sets = some (name, f)) (hself : op.SelfEqual)
    (hok : (call op (after ops)).1 = .ok (.status .ok))
    (hp : (after ops).database.lookup name = some p)
    (hposted : PostedThrough (after (ops ++ [op])) post p) :
    LeftAlone (after (ops ++ [op, post])) (op.withEnv env) p ↔ ¬ op.DiscardsArguments := by
  have hconsistent := alarmConsistent_after ops p
  have hset : after (ops ++ [op]) = step (after ops) op := Run.after_concat step initial ops op
  have hall : after (ops ++ [op, post]) = step (step (after ops) op) post := by
    rw [← hset, ← Run.after_concat step initial (ops ++ [op]) post, List.append_assoc]
    rfl
  rw [hset] at hposted
  rw [hall]
  generalize after ops = s at hconsistent hok hp hposted ⊢
  obtain ⟨item, hitem, hf⟩ := call_set_ok hop hok hp
  obtain ⟨hclean, hnames⟩ := hposted.item (call_set_found hop hp hitem).2
  have hfound : (step (step s op) post).database.lookup name = some p := by
    rw [hnames, step_set_lookup hop, hp]
  generalize step (step s op) post = s₂ at hclean hfound ⊢
  obtain ⟨g, hg, hanswer, hquiet, hmarks⟩ :=
    StatusOp.sets_repeated hop hself (hconsistent item hitem) hf env
  obtain ⟨hcall, hstep⟩ := call_set_found hg hfound hclean
  constructor
  · intro h hdiscarded
    obtain ⟨-, item', -, hitem', hflag, -⟩ := h.clean
    obtain rfl := Option.some.inj (hstep.symm.trans hitem')
    rw [StatusItem.isChanged, hmarks hdiscarded] at hflag
    exact absurd hflag (by simp)
  · intro hkept
    rw [hquiet hkept] at hstep
    exact
      { answer := by rw [hcall, hanswer]; rfl
        clean := ⟨_, _, hclean, hstep, rfl, rfl⟩
        silent := fun next sender hnext => clean_not_sent hnext hstep rfl }

/-- The alarm item, set to a severity with the cause `ALARM_CAUSE_HI`. -/
def setHigh (severity : Severity) : StatusOp := .setAlarm noClock (str "t") severity .alarmCauseHi []

def postToLog : StatusOp := .postStatusItem (.ok LogStatusSender.postStatus) (str "t")

/-- A warning that is set again. -/
theorem warning_leavesAlone :
    LeftAlone (after (oneAlarm ++ [setHigh .alarmWarning, postToLog]))
      ((setHigh .alarmWarning).withEnv noClock) 0 :=
  (@set_again_leavesAlone_iff oneAlarm (setHigh .alarmWarning) postToLog (str "t") _ 0 noClock rfl
    trivial rfl rfl ⟨⟨_, rfl⟩, Or.inl ⟨[_], _, rfl, List.mem_singleton_self _, rfl, rfl⟩⟩).2
    (fun h => absurd h.1 (by simp))

/-- A set to `ALARM_OK` with a cause that is discarded, and again: it is answered `OK` and posted, and
    the second call marks the item. -/
theorem okWithCause_marked_again :
    (call (setHigh .alarmOk) (after oneAlarm)).1 = .ok (.status .ok) ∧
      (after oneAlarm).database.lookup (str "t") = some 0 ∧
      PostedThrough (after (oneAlarm ++ [setHigh .alarmOk])) postToLog 0 ∧
      ¬ LeftAlone (after (oneAlarm ++ [setHigh .alarmOk, postToLog]))
        ((setHigh .alarmOk).withEnv noClock) 0 := by
  refine ⟨rfl, rfl, ⟨⟨_, rfl⟩, Or.inl ⟨[_], _, rfl, List.mem_singleton_self _, rfl, rfl⟩⟩, fun h => ?_⟩
  obtain ⟨-, item', -, hitem', hflag, -⟩ := h.clean
  obtain rfl := Option.some.inj hitem'
  exact absurd hflag (by decide)

end StatusUtil

end Giapi
