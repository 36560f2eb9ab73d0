import GiapiGlue.Data.FileEvents

set_option autoImplicit false

/-! # Observation events

`JmsObsEventProducer::postEvent`: an event is looked up among the enumerators of `ObservationEvent`, named in
a message without a body, and sent with its datalabel. A caller can pass any `int` of the enumeration's
range, so that the lookup may fail. -/

namespace Giapi

/-! ## The enumeration -/

namespace ObservationEvent

/-- The number the enumerator stands for. -/
def code : ObservationEvent → CInt
  | obsPrep => 0
  | obsStartAcq => 1
  | obsEndAcq => 2
  | obsStartReadout => 3
  | obsEndReadout => 4
  | obsStartDsetWrite => 5
  | obsEndDsetWrite => 6

/-- The enumerators, in the order of the cases of `postEvent`. -/
def cases : List ObservationEvent :=
  [obsEndAcq, obsEndDsetWrite, obsEndReadout, obsPrep, obsStartAcq, obsStartDsetWrite, obsStartReadout]

/-- The enumerator a number stands for. -/
def ofCode (event : CInt) : Option ObservationEvent := cases.find? (·.code = event)

@[simp] theorem ofCode_code (event : ObservationEvent) : ofCode event.code = some event := by
  cases event <;> rfl

/-- The name that goes into the message. -/
def eventName : ObservationEvent → CxxString
  | obsEndAcq => str "OBS_END_ACQ"
  | obsEndDsetWrite => str "OBS_END_DSET_WRITE"
  | obsEndReadout => str "OBS_END_READOUT"
  | obsPrep => str "OBS_PREP"
  | obsStartAcq => str "OBS_START_ACQ"
  | obsStartDsetWrite => str "OBS_START_DSET_WRITE"
  | obsStartReadout => str "OBS_START_READOUT"

/-- The enumerator a name stands for. -/
def ofEventName (name : CxxString) : Option ObservationEvent := cases.find? (·.eventName = name)

@[simp] theorem ofEventName_eventName (event : ObservationEvent) :
    ofEventName event.eventName = some event := by
  cases event <;> rfl

end ObservationEvent

/-! ## The producer -/

/-- A `Message` in the making: it has nothing but `string` properties. -/
structure ObsMessage where
  stringProperties : UnorderedMap CxxString CxxString
deriving DecidableEq

/-- The session and the producer, as far as an observation event uses them. -/
structure ObsSession where
  createMessage : Except Exn Unit
  setStringProperty : CxxString → CxxString → Except Exn Unit
  send : CxxString → ObsMessage → Except Exn Unit

def ObsSession.setStringPropertyOf (session : ObsSession) (name value : CxxString) (msg : ObsMessage) :
    Except Exn ObsMessage := do
  session.setStringProperty name value
  return { msg with stringProperties := msg.stringProperties.insert name value }

theorem ObsSession.setStringPropertyOf_ok {session : ObsSession} {name value : CxxString}
    {msg msg' : ObsMessage} (h : session.setStringPropertyOf name value msg = .ok msg') :
    msg' = { msg with stringProperties := msg.stringProperties.insert name value } := by
  obtain ⟨_, _, hmsg⟩ := except_bind_ok h
  exact (Except.ok.inj hmsg).symm

namespace JmsObsEventProducer

open GMPKeys

/-- The `try` block, once there is a message. -/
def fillAndSend (session : ObsSession) (eventName dataLabel : CxxString) : Except Exn ObsMessage := do
  let msg : ObsMessage := { stringProperties := ∅ }
  let msg ← session.setStringPropertyOf gmpDataObseventName eventName msg
  let msg ← session.setStringPropertyOf gmpDataObseventFilename dataLabel msg
  session.send gmpDataObseventDestination msg
  return msg

/-- The body of the `try` block: the message made, filled and sent. -/
def trySend (session : ObsSession) (eventName dataLabel : CxxString) : Except Exn ObsMessage := do
  session.createMessage
  fillAndSend session eventName dataLabel

/-- The text of the exception. -/
def failure (eventName dataLabel : CxxString) : Exn :=
  .communicationException (str "Problem sending observation event " ++ eventName
    ++ str " associated to filename: " ++ dataLabel)

/-- What the call answers, and what it sends. -/
def postEvent (session : ObsSession) (event : CInt) (dataLabel : CxxString) :
    Except Exn Status × List ObsMessage :=
  match ObservationEvent.ofCode event with
  | none => (.ok .error, [])
  | some event =>
    if StringUtil.isEmpty dataLabel then
      (.ok .error, [])
    else
      match trySend session event.eventName dataLabel with
      | .ok msg => (.ok .ok, [msg])
      | .error (.cmsException _) => (.error (failure event.eventName dataLabel), [])
      | .error e => (.error e, [])

end JmsObsEventProducer

namespace DataUtilImpl

def postObservationEvent (session : ObsSession) (event : CInt) (datalabel : CxxString) :
    Except Exn Status × List ObsMessage :=
  JmsObsEventProducer.postEvent session event datalabel

end DataUtilImpl

/-! ## Reading a message -/

namespace ObsMessage

open GMPKeys

/-- The event a message tells of, and its datalabel. -/
def read (message : ObsMessage) : Option (ObservationEvent × CxxString) := do
  let name ← message.stringProperties.lookup gmpDataObseventName
  let event ← ObservationEvent.ofEventName name
  let dataLabel ← message.stringProperties.lookup gmpDataObseventFilename
  return (event, dataLabel)

end ObsMessage

namespace JmsObsEventProducer

open GMPKeys

/-- What is sent tells of the event, under the two names it has, and of nothing else. -/
theorem trySend_lookup {session : ObsSession} {eventName dataLabel : CxxString} {message : ObsMessage}
    (h : trySend session eventName dataLabel = .ok message) (name value : CxxString) :
    message.stringProperties.lookup name = some value
      ↔ (name = gmpDataObseventName ∧ value = eventName)
        ∨ (name = gmpDataObseventFilename ∧ value = dataLabel) := by
  obtain ⟨_, -, h⟩ := except_bind_ok h
  obtain ⟨named, hnamed, h⟩ := except_bind_ok h
  obtain ⟨labelled, hlabelled, h⟩ := except_bind_ok h
  obtain ⟨_, -, h⟩ := except_bind_ok h
  obtain rfl := Except.ok.inj h
  obtain rfl := ObsSession.setStringPropertyOf_ok hnamed
  obtain rfl := ObsSession.setStringPropertyOf_ok hlabelled
  have hkeys : gmpDataObseventName ≠ gmpDataObseventFilename := by decide
  exact FileEvent.lookup_two_names hkeys eventName dataLabel name value

theorem trySend_read {session : ObsSession} {event : ObservationEvent} {dataLabel : CxxString}
    {message : ObsMessage} (h : trySend session event.eventName dataLabel = .ok message) :
    message.read = some (event, dataLabel) := by
  have hname := (trySend_lookup h gmpDataObseventName event.eventName).2 (Or.inl ⟨rfl, rfl⟩)
  have hlabel := (trySend_lookup h gmpDataObseventFilename dataLabel).2 (Or.inr ⟨rfl, rfl⟩)
  simp [ObsMessage.read, hname, hlabel]

/-- How a call ends: nothing is tried for what is no event or has no datalabel; an event is sent once, and the
    call answers `OK`, or a JMS call has thrown, and the call throws. -/
inductive Posted (session : ObsSession) (event : CInt) (dataLabel : CxxString) :
    Except Exn Status × List ObsMessage → Prop
  | refused (h : ∀ e, ObservationEvent.ofCode event = some e → ¬ StringUtil.Meaningful dataLabel) :
      Posted session event dataLabel (.ok .error, [])
  | sent {e : ObservationEvent} (hevent : ObservationEvent.ofCode event = some e)
      (hlabel : StringUtil.Meaningful dataLabel) {message : ObsMessage}
      (hread : message.read = some (e, dataLabel)) : Posted session event dataLabel (.ok .ok, [message])
  | failed {e : ObservationEvent} (hevent : ObservationEvent.ofCode event = some e)
      (hlabel : StringUtil.Meaningful dataLabel) (thrown : Exn) :
      Posted session event dataLabel (.error thrown, [])

theorem postEvent_posted (session : ObsSession) (event : CInt) (dataLabel : CxxString) :
    Posted session event dataLabel (postEvent session event dataLabel) := by
  unfold postEvent
  cases hevent : ObservationEvent.ofCode event with
  | none => exact .refused (by simp [hevent])
  | some e =>
      dsimp only
      by_cases hempty : StringUtil.isEmpty dataLabel = true
      · rw [if_pos hempty]
        exact .refused fun _ _ => (StringUtil.isEmpty_iff dataLabel).1 hempty
      · rw [if_neg hempty]
        have hlabel : StringUtil.Meaningful dataLabel := by
          rwa [StringUtil.isEmpty_iff, not_not] at hempty
        cases htried : trySend session e.eventName dataLabel with
        | ok message => exact .sent hevent hlabel (trySend_read htried)
        | error thrown => cases thrown <;> exact .failed hevent hlabel _

end JmsObsEventProducer

end Giapi
