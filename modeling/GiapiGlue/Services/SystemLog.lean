import GiapiGlue.Data.FileEvents

set_option autoImplicit false

/-! # The system log

`ServicesUtilImpl::systemLog` over `JmsLogProducer`: a text is sent to the log of the observatory with its
level, and then goes into the log of the process. -/

namespace Giapi

/-! ## Levels -/

namespace Level

/-- The number the enumerator stands for. -/
def code : Level → CInt
  | info => 0
  | warning => 1
  | severe => 2

/-- The level a number stands for. -/
def ofCode (code : CInt) : Option Level :=
  [info, warning, severe].find? (·.code = code)

@[simp] theorem ofCode_code (level : Level) : ofCode level.code = some level := by
  cases level <;> rfl

/-- `intLevel`, which a message carries. It does not depend on the order of the enumeration. -/
def intLevel : Level → CInt
  | info => 1
  | warning => 2
  | severe => 3

/-- The level an `intLevel` stands for. -/
def ofIntLevel (intLevel : CInt) : Option Level :=
  [info, warning, severe].find? (·.intLevel = intLevel)

@[simp] theorem ofIntLevel_intLevel (level : Level) : ofIntLevel level.intLevel = some level := by
  cases level <;> rfl

end Level

/-! ## The producer -/

/-- A `TextMessage` in the making: its `int` properties, and its text. -/
structure LogMessage where
  intProperties : UnorderedMap CxxString CInt
  text : CxxString
deriving DecidableEq

/-- The session and the producer, as far as a log uses them. -/
structure LogSession where
  createTextMessage : Except Exn Unit
  setIntProperty : CxxString → CInt → Except Exn Unit
  setText : CxxString → Except Exn Unit
  send : CxxString → LogMessage → Except Exn Unit

namespace JmsLogProducer

open GMPKeys

/-- The `try` block, once there is a message. -/
def fillAndSend (session : LogSession) (intLevel : CInt) (logMsg : CxxString) : Except Exn LogMessage := do
  session.setIntProperty gmpServicesLogLevel intLevel
  session.setText logMsg
  let msg : LogMessage :=
    { intProperties := (∅ : UnorderedMap CxxString CInt).insert gmpServicesLogLevel intLevel
      text := logMsg }
  session.send gmpServicesLogDestination msg
  return msg

/-- The body of the `try` block: the message made, filled and sent. -/
def trySend (session : LogSession) (intLevel : CInt) (logMsg : CxxString) : Except Exn LogMessage := do
  session.createTextMessage
  fillAndSend session intLevel logMsg

/-- The exception in place of a `CMSException`, whose message it quotes. -/
def failure (logMsg message : CxxString) : Exn :=
  .communicationException (str "Problem posting log info : " ++ logMsg ++ str "(" ++ message ++ str ")")

/-- What the call ends with, and what it sends. A level that is not defined is not sent. -/
def postLog (session : LogSession) (level : CInt) (logMsg : CxxString) :
    Except Exn Unit × List LogMessage :=
  match Level.ofCode level with
  | none => (.ok (), [])
  | some level =>
    match trySend session level.intLevel logMsg with
    | .ok msg => (.ok (), [msg])
    | .error (.cmsException message) => (.error (failure logMsg message), [])
    | .error e => (.error e, [])

end JmsLogProducer

/-! ## The service -/

/-- A line of the log of the process. -/
structure LogLine where
  level : Level
  text : CxxString
deriving DecidableEq

namespace ServicesUtilImpl

/-- What `systemLog` has to say of a level that is not defined. -/
def undefinedLevel : CxxString :=
  str "You are providing a giapi::log::Level that is not defined. Please you should see the level availables"

/-- The line `systemLog` writes once the message is posted: `INFO`, `WARN` or `ERROR`. -/
def logLine (level : CInt) (msg : CxxString) : LogLine :=
  match Level.ofCode level with
  | some level => { level, text := msg }
  | none => { level := .warning, text := undefinedLevel }

/-- What the call ends with, what it sends, and what it writes. -/
def systemLog (session : LogSession) (level : CInt) (msg : CxxString) :
    Except Exn Unit × List LogMessage × List LogLine :=
  match JmsLogProducer.postLog session level msg with
  | (.ok (), sent) => (.ok (), sent, [logLine level msg])
  | (.error e, sent) => (.error e, sent, [])

end ServicesUtilImpl

/-! ## Reading a message -/

/-- The level and the text of a message. -/
def LogMessage.read (message : LogMessage) : Option LogLine := do
  let intLevel ← message.intProperties.lookup GMPKeys.gmpServicesLogLevel
  let level ← Level.ofIntLevel intLevel
  return { level, text := message.text }

namespace JmsLogProducer

theorem trySend_read {session : LogSession} {level : Level} {logMsg : CxxString} {message : LogMessage}
    (h : trySend session level.intLevel logMsg = .ok message) :
    message.read = some { level, text := logMsg } := by
  obtain ⟨_, -, h⟩ := except_bind_ok h
  obtain ⟨_, -, h⟩ := except_bind_ok h
  obtain ⟨_, -, h⟩ := except_bind_ok h
  obtain ⟨_, -, h⟩ := except_bind_ok h
  obtain rfl := Except.ok.inj h
  have hlevel : ((∅ : UnorderedMap CxxString CInt).insert GMPKeys.gmpServicesLogLevel
      level.intLevel).lookup GMPKeys.gmpServicesLogLevel = some level.intLevel := AList.lookup_insert _
  rw [LogMessage.read, hlevel]
  simp

end JmsLogProducer

namespace ServicesUtilImpl

/-- How a call ends: a level that is not defined gives a warning in the log of the process; any other text is
    sent and written, or a JMS call has thrown, and it is neither. -/
inductive Logged (level : CInt) (msg : CxxString) :
    Except Exn Unit × List LogMessage × List LogLine → Prop
  | undefined (hlevel : Level.ofCode level = none) :
      Logged level msg (.ok (), [], [{ level := .warning, text := undefinedLevel }])
  | sent {l : Level} (hlevel : Level.ofCode level = some l) {message : LogMessage}
      (hread : message.read = some { level := l, text := msg }) :
      Logged level msg (.ok (), [message], [{ level := l, text := msg }])
  | failed {l : Level} (hlevel : Level.ofCode level = some l) (thrown : Exn) :
      Logged level msg (.error thrown, [], [])

theorem systemLog_logged (session : LogSession) (level : CInt) (msg : CxxString) :
    Logged level msg (systemLog session level msg) := by
  unfold systemLog JmsLogProducer.postLog logLine
  cases hlevel : Level.ofCode level with
  | none => exact .undefined hlevel
  | some l =>
      dsimp only
      cases htried : JmsLogProducer.trySend session l.intLevel msg with
      | ok message => exact .sent hlevel (JmsLogProducer.trySend_read htried)
      | error thrown => cases thrown <;> exact .failed hlevel _

end ServicesUtilImpl

end Giapi
