import GiapiGlue.Giapi

set_option autoImplicit false

/-! # Status items

`KvPair`, `StatusItem` and its two subclasses as one record: the fields of `StatusItem`, and the
dynamic class of the object with the fields its subclass adds. The setters are given the clock reading
they ask the operating system for. -/

namespace Giapi

/-! ## `boost::any` -/

/-- What the `boost::any` of a `KvPair` may hold. -/
inductive AnyValue
  | empty
  | bool (v : Bool)
  | int (v : CInt)
  | float (v : CFloat)
  | double (v : CDouble)
  | string (v : CxxString)
  | uchar (v : UInt8)
  | ushort (v : CShort)
deriving DecidableEq, Repr

namespace AnyValue

/-- `any_cast<int>`. -/
def getValueAsInt : AnyValue → Except Exn CInt
  | .int v => .ok v
  | _ => .error .badAnyCast

/-- `any_cast<std::string>`. -/
def getValueAsString : AnyValue → Except Exn CxxString
  | .string v => .ok v
  | _ => .error .badAnyCast

/-- `any_cast<double>`. -/
def getValueAsDouble : AnyValue → Except Exn CDouble
  | .double v => .ok v
  | _ => .error .badAnyCast

/-- `any_cast<float>`. -/
def getValueAsFloat : AnyValue → Except Exn CFloat
  | .float v => .ok v
  | _ => .error .badAnyCast

/-- The type a held value has. -/
def typeOf : AnyValue → Option ValueType
  | .empty => none
  | .bool _ => some .boolean
  | .int _ => some .int
  | .float _ => some .float
  | .double _ => some .double
  | .string _ => some .string
  | .uchar _ => some .byte
  | .ushort _ => some .short

end AnyValue

/-! ## The clock -/

/-- `struct timeval`. -/
structure Timeval where
  tvSec : BitVec 64
  tvUsec : BitVec 64
deriving DecidableEq, Repr

/-- The reading in milliseconds, as `_mark` computes it in 64 bits. -/
def Timeval.toMillis (tv : Timeval) : Long64 := tv.tvSec * 1000 + tv.tvUsec.sdiv 1000

/-- What a call finds outside the library: the answer of `gettimeofday` (`none` when it fails), and
    what the memory of a new object held before it was constructed. -/
structure CallEnv where
  gettimeofday : Option Timeval
  memory : Long64

/-! ## The classes -/

/-- The fields `AlarmStatusItem` adds. -/
structure AlarmFields where
  message : CxxString
  severity : Severity
  cause : Cause
  initialized : Bool
deriving DecidableEq, Repr

/-- The dynamic class of a status item. -/
inductive ItemClass
  | statusItem
  | alarmStatusItem (alarm : AlarmFields)
  | healthStatusItem
deriving DecidableEq, Repr

/-- Which of the three classes an item is of, whatever the state of its alarm. -/
inductive ItemKind
  | basic
  | alarm
  | health
deriving DecidableEq, Repr

def ItemClass.kind : ItemClass → ItemKind
  | .statusItem => .basic
  | .alarmStatusItem _ => .alarm
  | .healthStatusItem => .health

/-- A status item object. -/
structure StatusItem where
  name : CxxString
  value : AnyValue
  changedFlag : Bool
  time : Long64
  type : ValueType
  dynamicClass : ItemClass
deriving DecidableEq, Repr

namespace StatusItem

def kind (item : StatusItem) : ItemKind := item.dynamicClass.kind

/-- `getSeverity`, `getCause` and `getMessage` of an alarm item. -/
def alarmState (item : StatusItem) : Option (Severity × Cause × CxxString) :=
  match item.dynamicClass with
  | .alarmStatusItem alarm => some (alarm.severity, alarm.cause, alarm.message)
  | _ => none

def isChanged (item : StatusItem) : Bool := item.changedFlag

def clearChanged (item : StatusItem) : StatusItem := { item with changedFlag := false }

/-- `_mark`: dirty as of now. When the clock cannot be read the old timestamp stays. -/
def mark (env : CallEnv) (item : StatusItem) : StatusItem :=
  { item with
    changedFlag := true
    time := match env.gettimeofday with
      | some tv => tv.toMillis
      | none => item.time }

/-- The value an item of each type starts with. -/
def initialValue : ValueType → AnyValue
  | .boolean => .bool false
  | .double => .double Ieee754.zero
  | .float => .float Ieee754.zero
  | .int => .int 0
  | .byte => .uchar 0
  | .short => .ushort 0
  | .string => .string (str " ")

/-- The constructor of `StatusItem`, for an object of class `cls`: marked first, then given its type
    and initial value. -/
def construct (env : CallEnv) (name : CxxString) (type : ValueType) (cls : ItemClass) :
    StatusItem :=
  let item : StatusItem :=
    { name, value := .empty, changedFlag := false, time := env.memory, type, dynamicClass := cls }
  { item.mark env with value := initialValue type }

/-! ## The four setters

They differ in the type they accept and in how they read, compare and store a value. -/

/-- Refuse an item of another type; leave an equal value alone; otherwise mark and store. -/
def setValueAs {α : Type} (type : ValueType) (getValue : AnyValue → Except Exn α)
    (equal : α → α → Bool) (store : α → AnyValue) (env : CallEnv) (value : α)
    (item : StatusItem) : Except Exn Status × StatusItem :=
  if item.type ≠ type then
    (.ok .error, item)
  else
    let same : Except Exn Bool :=
      if item.value = .empty then .ok false else (equal value ·) <$> getValue item.value
    match same with
    | .error e => (.error e, item)
    | .ok true => (.ok .ok, item)
    | .ok false => (.ok .ok, { item.mark env with value := store value })

def setValueAsInt (env : CallEnv) (value : CInt) (item : StatusItem) :
    Except Exn Status × StatusItem :=
  setValueAs .int AnyValue.getValueAsInt (fun x y => decide (x = y)) .int env value item

def setValueAsString (env : CallEnv) (value : CxxString) (item : StatusItem) :
    Except Exn Status × StatusItem :=
  setValueAs .string AnyValue.getValueAsString (fun x y => decide (x = y)) .string env value item

def setValueAsDouble (env : CallEnv) (value : CDouble) (item : StatusItem) :
    Except Exn Status × StatusItem :=
  setValueAs .double AnyValue.getValueAsDouble Ieee754.equal .double env value item

def setValueAsFloat (env : CallEnv) (value : CFloat) (item : StatusItem) :
    Except Exn Status × StatusItem :=
  setValueAs .float AnyValue.getValueAsFloat Ieee754.equal .float env value item

/-! ## Health and alarm items

`dynamic_cast` to a class the object is not of gives the null pointer, hence `status::ERROR`. -/

/-- `HealthStatusItem::setHealth`. -/
def setHealth (env : CallEnv) (health : Health) (item : StatusItem) :
    Except Exn Status × StatusItem :=
  match item.dynamicClass with
  | .healthStatusItem => item.setValueAsInt env health.toInt
  | _ => (.ok .error, item)

/-- The fields of a new alarm item. -/
def initialAlarm : AlarmFields :=
  { message := [], severity := .alarmOk, cause := .alarmCauseOk, initialized := false }

/-- The fields `setAlarmState` stores: under `ALARM_OK` the other arguments are not considered. -/
def newAlarm (severity : Severity) (cause : Cause) (message : CxxString) : AlarmFields :=
  if severity = .alarmOk then
    { message := [], severity, cause := .alarmCauseOk, initialized := true }
  else
    { message, severity, cause, initialized := true }

/-- `AlarmStatusItem::setAlarmState`, on an item whose alarm fields are `alarm`. -/
def setAlarmState (env : CallEnv) (severity : Severity) (cause : Cause) (message : CxxString)
    (item : StatusItem) (alarm : AlarmFields) : Status × StatusItem :=
  if message.isEmpty ∧ cause = .alarmCauseOther then
    (.error, item)
  else if alarm.initialized ∧ severity = alarm.severity ∧ cause = alarm.cause ∧
      message = alarm.message then
    (.ok, item)
  else
    (.ok, { item with
      dynamicClass := .alarmStatusItem (newAlarm severity cause message) }.mark env)

/-- `AlarmStatusItem::clearAlarmState`. -/
def clearAlarmState (env : CallEnv) (item : StatusItem) (alarm : AlarmFields) :
    Except Exn Unit × StatusItem :=
  match setAlarmState env .alarmOk .alarmCauseOk [] item alarm with
  | (.error, item) => (.error (.invalidOperation
      (str "AlarmStatusItem::clearAlarmState - Couldn't clear alarm item")), item)
  | (.ok, item) => (.ok (), item)

/-- `setAlarmState` behind the `dynamic_cast` of `StatusDatabase::setAlarm`. -/
def setAlarm (env : CallEnv) (severity : Severity) (cause : Cause) (message : CxxString)
    (item : StatusItem) : Except Exn Status × StatusItem :=
  match item.dynamicClass with
  | .alarmStatusItem alarm =>
    let (status, item) := setAlarmState env severity cause message item alarm
    (.ok status, item)
  | _ => (.ok .error, item)

/-- `clearAlarmState` behind the `dynamic_cast` of `StatusDatabase::clearAlarm`. -/
def clearAlarm (env : CallEnv) (item : StatusItem) : Except Exn Status × StatusItem :=
  match item.dynamicClass with
  | .alarmStatusItem alarm =>
    match clearAlarmState env item alarm with
    | (.error e, item) => (.error e, item)
    | (.ok (), item) => (.ok .ok, item)
  | _ => (.ok .error, item)

/-! ## What a setter can do

An update leaves the item as it was, or changes value or alarm and marks it. -/

/-- The value stored has the declared type. -/
def WellTyped (item : StatusItem) : Prop := item.value.typeOf = some item.type

/-- One call of a setter took `item` to `item'`. -/
structure Updated (item item' : StatusItem) : Prop where
  name : item'.name = item.name
  type : item'.type = item.type
  kind : item'.kind = item.kind
  /-- Nothing happened, or the item is dirty now. -/
  marked : item' = item ∨ item'.changedFlag = true
  wellTyped : item.WellTyped → item'.WellTyped

theorem Updated.refl (item : StatusItem) : Updated item item :=
  ⟨rfl, rfl, rfl, Or.inl rfl, id⟩

@[simp] theorem mark_changedFlag (env : CallEnv) (item : StatusItem) :
    (item.mark env).changedFlag = true := rfl

@[simp] theorem mark_name (env : CallEnv) (item : StatusItem) :
    (item.mark env).name = item.name := rfl

@[simp] theorem mark_type (env : CallEnv) (item : StatusItem) :
    (item.mark env).type = item.type := rfl

@[simp] theorem mark_value (env : CallEnv) (item : StatusItem) :
    (item.mark env).value = item.value := rfl

@[simp] theorem mark_dynamicClass (env : CallEnv) (item : StatusItem) :
    (item.mark env).dynamicClass = item.dynamicClass := rfl

@[simp] theorem mark_kind (env : CallEnv) (item : StatusItem) :
    (item.mark env).kind = item.kind := rfl

theorem typeOf_initialValue (type : ValueType) : (initialValue type).typeOf = some type := by
  cases type <;> rfl

theorem construct_wellTyped (env : CallEnv) (name : CxxString) (type : ValueType)
    (cls : ItemClass) : (construct env name type cls).WellTyped :=
  typeOf_initialValue type

/-- A setter leaves an item alone, or marks it and stores a value of its type. -/
theorem setValueAs_snd {α : Type} (type : ValueType) (getValue : AnyValue → Except Exn α)
    (equal : α → α → Bool) (store : α → AnyValue) (env : CallEnv) (value : α) (item : StatusItem) :
    (setValueAs type getValue equal store env value item).2 = item ∨
      item.type = type ∧ (setValueAs type getValue equal store env value item).2
        = { item.mark env with value := store value } := by
  unfold setValueAs
  by_cases htype : item.type = type
  · rw [if_neg (not_not_intro htype)]
    generalize (if item.value = .empty then .ok false
      else (equal value ·) <$> getValue item.value : Except Exn Bool) = same
    rcases same with e | _ | _
    · exact Or.inl rfl
    · exact Or.inr ⟨htype, rfl⟩
    · exact Or.inl rfl
  · rw [if_pos htype]
    exact Or.inl rfl

theorem setValueAs_updated {α : Type} {type : ValueType} (getValue : AnyValue → Except Exn α)
    (equal : α → α → Bool) {store : α → AnyValue} (hstore : ∀ v, (store v).typeOf = some type)
    (env : CallEnv) (value : α) (item : StatusItem) :
    Updated item (setValueAs type getValue equal store env value item).2 := by
  rcases setValueAs_snd type getValue equal store env value item with hsame | ⟨htype, hstored⟩
  · rw [hsame]
    exact Updated.refl item
  · rw [hstored]
    exact ⟨rfl, rfl, rfl, Or.inr rfl, fun _ => (hstore value).trans (by rw [← htype]; rfl)⟩

theorem setValueAsInt_updated (env : CallEnv) (value : CInt) (item : StatusItem) :
    Updated item (item.setValueAsInt env value).2 :=
  setValueAs_updated _ _ (fun _ => rfl) env value item

theorem setValueAsString_updated (env : CallEnv) (value : CxxString) (item : StatusItem) :
    Updated item (item.setValueAsString env value).2 :=
  setValueAs_updated _ _ (fun _ => rfl) env value item

theorem setValueAsDouble_updated (env : CallEnv) (value : CDouble) (item : StatusItem) :
    Updated item (item.setValueAsDouble env value).2 :=
  setValueAs_updated _ _ (fun _ => rfl) env value item

theorem setValueAsFloat_updated (env : CallEnv) (value : CFloat) (item : StatusItem) :
    Updated item (item.setValueAsFloat env value).2 :=
  setValueAs_updated _ _ (fun _ => rfl) env value item

theorem setHealth_updated (env : CallEnv) (health : Health) (item : StatusItem) :
    Updated item (item.setHealth env health).2 := by
  unfold setHealth
  split
  · exact setValueAsInt_updated env health.toInt item
  · exact Updated.refl item

theorem setAlarmState_updated (env : CallEnv) (severity : Severity) (cause : Cause)
    (message : CxxString) {item : StatusItem} {alarm : AlarmFields}
    (hclass : item.dynamicClass = .alarmStatusItem alarm) :
    Updated item (setAlarmState env severity cause message item alarm).2 := by
  unfold setAlarmState
  split
  · exact Updated.refl item
  · split
    · exact Updated.refl item
    · exact ⟨rfl, rfl, by simp [kind, hclass, ItemClass.kind], Or.inr rfl, id⟩

theorem setAlarm_updated (env : CallEnv) (severity : Severity) (cause : Cause)
    (message : CxxString) (item : StatusItem) :
    Updated item (item.setAlarm env severity cause message).2 := by
  unfold setAlarm
  split
  · next alarm hclass => exact setAlarmState_updated env severity cause message hclass
  · exact Updated.refl item

/-- Clearing never fails: `ALARM_OK` needs no message. -/
theorem clearAlarmState_ok (env : CallEnv) (item : StatusItem) (alarm : AlarmFields) :
    clearAlarmState env item alarm
      = (.ok (), (setAlarmState env .alarmOk .alarmCauseOk [] item alarm).2) := by
  unfold clearAlarmState setAlarmState
  rw [if_neg (fun h => Cause.noConfusion h.2)]
  by_cases hsame : alarm.initialized ∧ Severity.alarmOk = alarm.severity ∧
      Cause.alarmCauseOk = alarm.cause ∧ [] = alarm.message
  · rw [if_pos hsame]
  · rw [if_neg hsame]

theorem clearAlarm_updated (env : CallEnv) (item : StatusItem) :
    Updated item (item.clearAlarm env).2 := by
  unfold clearAlarm
  split
  · next alarm hclass =>
      rw [clearAlarmState_ok]
      exact setAlarmState_updated env .alarmOk .alarmCauseOk [] hclass
  · exact Updated.refl item

end StatusItem

end Giapi
