import GiapiGlue.Cms.BytesMessage
import GiapiGlue.Status.StatusItem

set_option autoImplicit false

/-! # The status serializer

`StatusSerializerVisitor` writes an item into a bytes message: a header common to the three kinds and,
for alarm items, a tail. The second half is the reader of that format and the proof that it undoes
the writer. -/

namespace Giapi

namespace StatusSerializerVisitor

open BytesMessage Words

/-! ## Writing -/

def basicOffset : UInt8 := 0

def alarmOffset : UInt8 := 10

def healthOffset : UInt8 := 20

/-- A blank in place of the empty string. -/
def nonEmptyUTF (value : CxxString) : CxxString := if value = [] then str " " else value

/-- `writeHeader`: nothing at all for the types without a handler. -/
def writeHeader (offset : UInt8) (item : StatusItem) : ByteWriter Exn Unit :=
  match item.type with
  | .int => do
    writeByte offset
    writeUTF item.name
    let value ← (item.value.getValueAsInt : Except Exn CInt)
    writeInt value
    writeLong item.time
  | .double => do
    writeByte (offset + 1)
    writeUTF item.name
    let value ← (item.value.getValueAsDouble : Except Exn CDouble)
    writeDouble value
    writeLong item.time
  | .float => do
    writeByte (offset + 2)
    writeUTF item.name
    let value ← (item.value.getValueAsFloat : Except Exn CFloat)
    writeFloat value
    writeLong item.time
  | .string => do
    writeByte (offset + 3)
    writeUTF item.name
    let value ← (item.value.getValueAsString : Except Exn CxxString)
    writeUTF (nonEmptyUTF value)
    writeLong item.time
  | .boolean => pure ()
  | .byte => pure ()
  | .short => pure ()

def severityCode : Severity → UInt8
  | .alarmOk => 0
  | .alarmWarning => 1
  | .alarmFailure => 2

def causeCode : Cause → UInt8
  | .alarmCauseOk => 0
  | .alarmCauseHihi => 1
  | .alarmCauseHi => 2
  | .alarmCauseLolo => 3
  | .alarmCauseLo => 4
  | .alarmCauseOther => 5

def visitStatusItem (item : StatusItem) : ByteWriter Exn Unit := writeHeader basicOffset item

/-- What `visitAlarmItem` adds after the header. -/
def writeAlarm (alarm : AlarmFields) : ByteWriter Exn Unit := do
  writeByte (severityCode alarm.severity)
  writeByte (causeCode alarm.cause)
  if alarm.message ≠ [] then do
    writeBoolean true
    writeUTF alarm.message
  else
    writeBoolean false

def visitAlarmItem (item : StatusItem) (alarm : AlarmFields) : ByteWriter Exn Unit := do
  writeHeader alarmOffset item
  writeAlarm alarm

def visitHealthItem (item : StatusItem) : ByteWriter Exn Unit := writeHeader healthOffset item

/-- `accept`: the visit the dynamic class of the item asks for. -/
def accept (item : StatusItem) : ByteWriter Exn Unit :=
  match item.dynamicClass with
  | .statusItem => visitStatusItem item
  | .alarmStatusItem alarm => visitAlarmItem item alarm
  | .healthStatusItem => visitHealthItem item

/-! ## Reading -/

/-- What a message tells about an item. -/
structure StatusMessage where
  kind : ItemKind
  type : ValueType
  name : CxxString
  value : AnyValue
  timestamp : Long64
  /-- Severity, cause and message, for alarm items. -/
  alarm : Option (Severity × Cause × CxxString)
deriving DecidableEq, Repr

/-- The error of a reader that meets a code it does not know. -/
def unknownCode : Exn := .invalidOperation (str "unknown code in a status message")

def offsetOf : ItemKind → UInt8
  | .basic => basicOffset
  | .alarm => alarmOffset
  | .health => healthOffset

/-- The types that have a handler. -/
def Serialized (type : ValueType) : Prop :=
  type = .int ∨ type = .double ∨ type = .float ∨ type = .string

instance (type : ValueType) : Decidable (Serialized type) :=
  inferInstanceAs (Decidable (_ ∨ _))

/-- The index of a type above the offset of the kind. -/
def typeIndex : ValueType → UInt8
  | .int => 0
  | .double => 1
  | .float => 2
  | .string => 3
  | _ => 0

/-- The kind and the type a code byte stands for. -/
def kindAndType (code : UInt8) : Except Exn (ItemKind × ValueType) :=
  let candidates : List (ItemKind × ValueType) :=
    [ItemKind.basic, .alarm, .health].flatMap
      (fun kind => [ValueType.int, .double, .float, .string].map (fun type => (kind, type)))
  match candidates.find? (fun c => offsetOf c.1 + typeIndex c.2 = code) with
  | some c => .ok c
  | none => .error unknownCode

def severityOfCode (code : UInt8) : Except Exn Severity :=
  match [Severity.alarmOk, .alarmWarning, .alarmFailure].find? (severityCode · = code) with
  | some severity => .ok severity
  | none => .error unknownCode

def causeOfCode (code : UInt8) : Except Exn Cause :=
  match [Cause.alarmCauseOk, .alarmCauseHihi, .alarmCauseHi, .alarmCauseLolo, .alarmCauseLo,
      .alarmCauseOther].find? (causeCode · = code) with
  | some cause => .ok cause
  | none => .error unknownCode

def readValue : ValueType → ByteReader Exn AnyValue
  | .int => do return .int (← readInt)
  | .double => do return .double (← readDouble)
  | .float => do return .float (← readFloat)
  | .string => do return .string (← readUTF)
  | _ => throw unknownCode

def readAlarm : ByteReader Exn (Severity × Cause × CxxString) := do
  let severity ← severityOfCode (← readByte)
  let cause ← causeOfCode (← readByte)
  let hasMessage ← readBoolean
  let message ← if hasMessage then readUTF else pure []
  return (severity, cause, message)

/-- What follows the header: the alarm of an alarm item, nothing for the other kinds. -/
def readTail : ItemKind → ByteReader Exn (Option (Severity × Cause × CxxString))
  | .alarm => do return some (← readAlarm)
  | _ => pure none

/-- The reader of status messages. -/
def decode : ByteReader Exn StatusMessage := do
  let (kind, type) ← kindAndType (← readByte)
  let name ← readUTF
  let value ← readValue type
  let timestamp ← readLong
  let alarm ← readTail kind
  return { kind, type, name, value, timestamp, alarm }

/-! ## The round trip -/

/-- The value as it travels: the empty string has become a blank. -/
def wireValue : AnyValue → AnyValue
  | .string v => .string (nonEmptyUTF v)
  | v => v

/-- What the message of an item should tell. -/
def messageOf (item : StatusItem) : StatusMessage :=
  { kind := item.kind
    type := item.type
    name := item.name
    value := wireValue item.value
    timestamp := item.time
    alarm := item.alarmState }

/-- Short enough for `writeUTF`. -/
def ShortUTF (value : CxxString) : Prop := countUTFLength value ≤ 65535

/-- All strings of an item are short enough for `writeUTF`. -/
structure ShortStrings (item : StatusItem) : Prop where
  name : ShortUTF item.name
  value : ∀ v, item.value = .string v → ShortUTF v
  message : ∀ alarm, item.dynamicClass = .alarmStatusItem alarm → ShortUTF alarm.message

theorem shortUTF_nonEmptyUTF {v : CxxString} (h : ShortUTF v) : ShortUTF (nonEmptyUTF v) := by
  unfold nonEmptyUTF
  split
  · show countUTFLength (str " ") ≤ 65535
    decide
  · exact h

/-- The bytes of a value. -/
def valueBytes : AnyValue → List UInt8
  | .int v => toBE 4 v
  | .double v => toBE 8 v.bits
  | .float v => toBE 4 v.bits
  | .string v => utfBytes (nonEmptyUTF v)
  | _ => []

/-- The bytes of a header. -/
def headerBytes (offset : UInt8) (item : StatusItem) : List UInt8 :=
  [offset + typeIndex item.type] ++ (utfBytes item.name ++ (valueBytes item.value
    ++ toBE 8 item.time))

/-- The bytes of an alarm. -/
def alarmBytes (alarm : AlarmFields) : List UInt8 :=
  [severityCode alarm.severity] ++ ([causeCode alarm.cause] ++
    (if alarm.message ≠ [] then [1] ++ utfBytes alarm.message else [0]))

/-- The bytes after the header. -/
def tailBytes : ItemClass → List UInt8
  | .alarmStatusItem alarm => alarmBytes alarm
  | _ => []

section Write

open ByteWriter

/-- The value is there, so reading it from the `any` writes nothing. -/
theorem writes_getValue {α : Type} {r : Except Exn α} {v : α} (hr : r = .ok v)
    {f : α → ByteWriter Exn Unit} {bs : List UInt8} (hf : Writes (f v) bs) :
    Writes ((r : ByteWriter Exn α) >>= f) bs := by
  subst hr
  exact hf

theorem writes_writeHeader (offset : UInt8) {item : StatusItem} (hser : Serialized item.type)
    (htyped : item.WellTyped) (hshort : ShortStrings item) :
    Writes (writeHeader offset item) (headerBytes offset item) := by
  obtain ⟨name, value, changedFlag, time, type, dynamicClass⟩ := item
  have hname : Writes (writeUTF name) (utfBytes name) := writes_writeUTF hshort.name
  have htime : Writes (writeLong time) (toBE 8 time) := writes_put _
  rcases hser with rfl | rfl | rfl | rfl
  · cases value with
    | int v =>
        show Writes _ ([offset + 0] ++ _)
        rw [UInt8.add_zero]
        exact (writes_put _).bind (hname.bind (writes_getValue rfl ((writes_put _).bind htime)))
    | _ => exact absurd htyped (by simp [StatusItem.WellTyped, AnyValue.typeOf])
  · cases value with
    | double v =>
        exact (writes_put _).bind (hname.bind (writes_getValue rfl ((writes_put _).bind htime)))
    | _ => exact absurd htyped (by simp [StatusItem.WellTyped, AnyValue.typeOf])
  · cases value with
    | float v =>
        exact (writes_put _).bind (hname.bind (writes_getValue rfl ((writes_put _).bind htime)))
    | _ => exact absurd htyped (by simp [StatusItem.WellTyped, AnyValue.typeOf])
  · cases value with
    | string v =>
        have hvalue : Writes (writeUTF (nonEmptyUTF v)) (utfBytes (nonEmptyUTF v)) :=
          writes_writeUTF (shortUTF_nonEmptyUTF (hshort.value v rfl))
        exact (writes_put _).bind (hname.bind (writes_getValue rfl (hvalue.bind htime)))
    | _ => exact absurd htyped (by simp [StatusItem.WellTyped, AnyValue.typeOf])

theorem writes_writeAlarm {alarm : AlarmFields} (hshort : ShortUTF alarm.message) :
    Writes (writeAlarm alarm) (alarmBytes alarm) := by
  refine (writes_put _).bind ((writes_put _).bind ?_)
  split
  · exact (writes_put _).bind (writes_writeUTF hshort)
  · exact writes_put _

theorem writes_accept {item : StatusItem} (hser : Serialized item.type) (htyped : item.WellTyped)
    (hshort : ShortStrings item) :
    Writes (accept item) (headerBytes (offsetOf item.kind) item ++ tailBytes item.dynamicClass) := by
  have hheader := fun offset => writes_writeHeader offset hser htyped hshort
  unfold accept StatusItem.kind
  cases hclass : item.dynamicClass with
  | statusItem => exact (List.append_nil _).symm ▸ hheader basicOffset
  | alarmStatusItem alarm =>
      exact (hheader alarmOffset).bind (writes_writeAlarm (hshort.message alarm hclass))
  | healthStatusItem => exact (List.append_nil _).symm ▸ hheader healthOffset

end Write

section Read

open ByteReader

/-- A decoded code is read from the bytes of the code. -/
theorem reads_lift {α β : Type} {r : Except Exn α} {a : α} (hr : r = .ok a)
    {f : α → ByteReader Exn β} {bs : List UInt8} {b : β} (hf : Reads (f a) bs b) :
    Reads ((r : ByteReader Exn α) >>= f) bs b := by
  subst hr
  exact hf

/-- No two kinds and types share a code. -/
theorem kindAndType_code (kind : ItemKind) {type : ValueType} (hser : Serialized type) :
    kindAndType (offsetOf kind + typeIndex type) = .ok (kind, type) := by
  rcases hser with rfl | rfl | rfl | rfl <;> cases kind <;> rfl

theorem severityOfCode_code (severity : Severity) :
    severityOfCode (severityCode severity) = .ok severity := by
  cases severity <;> rfl

theorem causeOfCode_code (cause : Cause) : causeOfCode (causeCode cause) = .ok cause := by
  cases cause <;> rfl

theorem reads_readValue {item : StatusItem} (hser : Serialized item.type)
    (htyped : item.WellTyped) (hshort : ShortStrings item) :
    Reads (readValue item.type) (valueBytes item.value) (wireValue item.value) := by
  obtain ⟨name, value, changedFlag, time, type, dynamicClass⟩ := item
  cases value with
  | int v =>
      obtain rfl : ValueType.int = type := Option.some.inj htyped
      exact (reads_readInt v).map AnyValue.int
  | double v =>
      obtain rfl : ValueType.double = type := Option.some.inj htyped
      exact (reads_readDouble v).map AnyValue.double
  | float v =>
      obtain rfl : ValueType.float = type := Option.some.inj htyped
      exact (reads_readFloat v).map AnyValue.float
  | string v =>
      obtain rfl : ValueType.string = type := Option.some.inj htyped
      exact (reads_readUTF (shortUTF_nonEmptyUTF (hshort.value v rfl))).map AnyValue.string
  | empty => exact absurd htyped (by simp [StatusItem.WellTyped, AnyValue.typeOf])
  | bool v =>
      obtain rfl : ValueType.boolean = type := Option.some.inj htyped
      exact absurd hser (by simp [Serialized])
  | uchar v =>
      obtain rfl : ValueType.byte = type := Option.some.inj htyped
      exact absurd hser (by simp [Serialized])
  | ushort v =>
      obtain rfl : ValueType.short = type := Option.some.inj htyped
      exact absurd hser (by simp [Serialized])

theorem reads_readAlarm {alarm : AlarmFields} (hshort : ShortUTF alarm.message) :
    Reads readAlarm (alarmBytes alarm) (alarm.severity, alarm.cause, alarm.message) := by
  refine (reads_readByte _).bind (reads_lift (severityOfCode_code _)
    ((reads_readByte _).bind (reads_lift (causeOfCode_code _) ?_)))
  by_cases hmessage : alarm.message = []
  · rw [if_neg (not_not_intro hmessage), hmessage]
    exact (reads_readBoolean false).map (fun _ => (alarm.severity, alarm.cause, ([] : CxxString)))
  · rw [if_pos hmessage]
    exact (reads_readBoolean true).bind
      ((reads_readUTF hshort).map (fun message => (alarm.severity, alarm.cause, message)))

theorem reads_readTail {item : StatusItem} (hshort : ShortStrings item) :
    Reads (readTail item.kind) (tailBytes item.dynamicClass) item.alarmState := by
  unfold StatusItem.kind StatusItem.alarmState
  cases hclass : item.dynamicClass with
  | statusItem => exact Reads.pure none
  | alarmStatusItem alarm => exact (reads_readAlarm (hshort.message alarm hclass)).map some
  | healthStatusItem => exact Reads.pure none

theorem reads_decode {item : StatusItem} (hser : Serialized item.type) (htyped : item.WellTyped)
    (hshort : ShortStrings item) :
    Reads decode (headerBytes (offsetOf item.kind) item ++ tailBytes item.dynamicClass)
      (messageOf item) := by
  have htail := reads_readTail hshort
  have hvalue := reads_readValue hser htyped hshort
  simp only [headerBytes, List.append_assoc]
  exact (reads_readByte _).bind (reads_lift (kindAndType_code item.kind hser)
    ((reads_readUTF hshort.name).bind (hvalue.bind ((reads_readLong item.time).bind
      (htail.map (fun alarm => (⟨item.kind, item.type, item.name, wireValue item.value, item.time,
        alarm⟩ : StatusMessage)))))))

end Read

end StatusSerializerVisitor

end Giapi
