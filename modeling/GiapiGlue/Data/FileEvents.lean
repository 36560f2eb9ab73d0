import GiapiGlue.Gmp.GMPKeys
import GiapiGlue.Lib.UnorderedMap

set_option autoImplicit false

/-! # File events

`DataUtilImpl` over `JmsFileEventsProducer`: ancillary and intermediate file events, the test for blank
names that decides which of them are sent, and what can be read back from a sent one. -/

namespace Giapi

/-! ## Blank strings -/

namespace StringUtil

/-- `find_last_not_of`. `none` is `npos`. -/
def findLastNotOf (chars : CxxString) : CxxString → Option Nat
  | [] => none
  | c :: s =>
    match findLastNotOf chars s with
    | some position => some (position + 1)
    | none => if c ∈ chars then none else some 0

/-- One more than a position: `npos` is the largest `size_t`, and wraps around to zero. -/
def afterPosition : Option Nat → Nat
  | some position => position + 1
  | none => 0

/-- The copy `isEmpty` makes of its argument, after `erase`, which drops what starts at a position. -/
def withoutTrailingBlanks (s : CxxString) : CxxString :=
  s.take (afterPosition (findLastNotOf (str " \t\n") s))

/-- Some character is not a blank, a tab or a newline. -/
def Meaningful (s : CxxString) : Prop := ∃ c ∈ s, c ∉ str " \t\n"

instance (s : CxxString) : Decidable (Meaningful s) :=
  inferInstanceAs (Decidable (∃ c ∈ s, c ∉ str " \t\n"))

theorem findLastNotOf_eq_none_iff (chars s : CxxString) :
    findLastNotOf chars s = none ↔ ∀ c ∈ s, c ∈ chars := by
  induction s with
  | nil => simp [findLastNotOf]
  | cons c s ih =>
      rw [findLastNotOf]
      cases h : findLastNotOf chars s with
      | some position =>
          rw [h] at ih
          simp only [List.forall_mem_cons, ← ih]
          simp
      | none =>
          have hall := ih.1 h
          by_cases hc : c ∈ chars
          · simpa [hc] using hall
          · simp [hc]

/-- The string is erased altogether precisely when it has no meaningful character. -/
theorem withoutTrailingBlanks_eq_nil_iff (s : CxxString) :
    withoutTrailingBlanks s = [] ↔ ¬ Meaningful s := by
  have hblank : findLastNotOf (str " \t\n") s = none ↔ ¬ Meaningful s := by
    rw [findLastNotOf_eq_none_iff, Meaningful]
    push Not
    rfl
  rw [← hblank, withoutTrailingBlanks]
  cases h : findLastNotOf (str " \t\n") s with
  | none => simp [afterPosition]
  | some position =>
      have hs : s ≠ [] := by
        rintro rfl
        simp [findLastNotOf] at h
      simp [afterPosition, hs]

/-- Dropping trailing blanks, and erasing from behind the last other character, leave the same empty
    strings. -/
theorem isEmpty_eq (s : CxxString) : isEmpty s = (withoutTrailingBlanks s).isEmpty := by
  have hblanks : str " \t\n" = [0x20, 0x09, 0x0A] := by decide
  rw [Bool.eq_iff_iff, List.isEmpty_iff, withoutTrailingBlanks_eq_nil_iff, isEmpty, List.isEmpty_iff,
    List.rdropWhile_eq_nil_iff, Meaningful, hblanks]
  simp [imp_iff_not_or]

theorem isEmpty_iff (s : CxxString) : isEmpty s = true ↔ ¬ Meaningful s := by
  rw [isEmpty_eq, List.isEmpty_iff, withoutTrailingBlanks_eq_nil_iff]

end StringUtil

/-! ## The producer -/

/-- `JmsFileEventsProducer::EventFileType`. -/
inductive EventFileType
  | ancillaryType
  | intermediateType
deriving DecidableEq, Repr

/-- The number the enumerator stands for. -/
def EventFileType.code : EventFileType → CInt
  | .ancillaryType => 0
  | .intermediateType => 1

/-- The type a number stands for. -/
def EventFileType.ofCode (code : CInt) : Option EventFileType :=
  if code = 0 then some .ancillaryType else if code = 1 then some .intermediateType else none

@[simp] theorem EventFileType.ofCode_code (type : EventFileType) : ofCode type.code = some type := by
  cases type <;> rfl

/-- A `MapMessage` in the making: its `int` properties, and its strings. -/
structure EventMessage where
  intProperties : UnorderedMap CxxString CInt
  strings : UnorderedMap CxxString CxxString
deriving DecidableEq

/-- The session and the producer, as far as an event uses them. -/
structure EventSession where
  createMapMessage : Except Exn Unit
  setIntProperty : CxxString → CInt → Except Exn Unit
  setString : CxxString → CxxString → Except Exn Unit
  send : CxxString → EventMessage → Except Exn Unit

namespace EventSession

def setIntPropertyOf (session : EventSession) (name : CxxString) (value : CInt)
    (msg : EventMessage) : Except Exn EventMessage := do
  session.setIntProperty name value
  return { msg with intProperties := msg.intProperties.insert name value }

def setStringOf (session : EventSession) (name : CxxString) (value : CxxString)
    (msg : EventMessage) : Except Exn EventMessage := do
  session.setString name value
  return { msg with strings := msg.strings.insert name value }

end EventSession

namespace JmsFileEventsProducer

open GMPKeys

/-- Intermediate file events have an optional hint, added if it exists. -/
def addHint (session : EventSession) (type : EventFileType) (hint : CxxString) (msg : EventMessage) :
    Except Exn EventMessage :=
  if type = .intermediateType ∧ ¬ StringUtil.isEmpty hint then
    session.setStringOf gmpDataFileeventHint hint msg
  else
    return msg

/-- The body of the `try` block: the message made, filled and sent. -/
def trySend (session : EventSession) (type : EventFileType) (filename dataLabel hint : CxxString) :
    Except Exn EventMessage := do
  session.createMapMessage
  let msg : EventMessage := { intProperties := ∅, strings := ∅ }
  let msg ← session.setIntPropertyOf gmpDataFileeventType type.code msg
  let msg ← session.setStringOf gmpDataFileeventFilename filename msg
  let msg ← session.setStringOf gmpDataFileeventDatalabel dataLabel msg
  let msg ← addHint session type hint msg
  session.send gmpDataFileeventDestination msg
  return msg

/-- What the call answers, and what it sends. -/
def sendFileEventMessage (session : EventSession) (type : EventFileType)
    (filename dataLabel hint : CxxString) : Except Exn Status × List EventMessage :=
  if StringUtil.isEmpty filename then
    (.ok .error, [])
  else if StringUtil.isEmpty dataLabel then
    (.ok .error, [])
  else
    match trySend session type filename dataLabel hint with
    | .ok msg => (.ok .ok, [msg])
    | .error (.cmsException _) =>
      (.error (.communicationException (str "Problem sending file event " ++ filename
        ++ str " associated to datalabel: " ++ dataLabel)), [])
    | .error e => (.error e, [])

def postAncillaryFileEvent (session : EventSession) (filename dataLabel : CxxString) :
    Except Exn Status × List EventMessage :=
  sendFileEventMessage session .ancillaryType filename dataLabel (str "")

def postIntermediateFileEvent (session : EventSession) (filename dataLabel hint : CxxString) :
    Except Exn Status × List EventMessage :=
  sendFileEventMessage session .intermediateType filename dataLabel hint

end JmsFileEventsProducer

namespace DataUtilImpl

def postAncillaryFileEvent (session : EventSession) (filename datalabel : CxxString) :
    Except Exn Status × List EventMessage :=
  JmsFileEventsProducer.postAncillaryFileEvent session filename datalabel

def postIntermediateFileEvent (session : EventSession) (filename datalabel hint : CxxString) :
    Except Exn Status × List EventMessage :=
  JmsFileEventsProducer.postIntermediateFileEvent session filename datalabel hint

end DataUtilImpl

/-! ## Events and messages -/

/-- A file event, as the instrument posts it. -/
inductive FileEvent
  | ancillary (filename datalabel : CxxString)
  | intermediate (filename datalabel hint : CxxString)
deriving DecidableEq

namespace FileEvent

def post (session : EventSession) : FileEvent → Except Exn Status × List EventMessage
  | .ancillary filename datalabel =>
    DataUtilImpl.postAncillaryFileEvent session filename datalabel
  | .intermediate filename datalabel hint =>
    DataUtilImpl.postIntermediateFileEvent session filename datalabel hint

def type : FileEvent → EventFileType
  | .ancillary _ _ => .ancillaryType
  | .intermediate _ _ _ => .intermediateType

def filename : FileEvent → CxxString
  | .ancillary filename _ => filename
  | .intermediate filename _ _ => filename

def datalabel : FileEvent → CxxString
  | .ancillary _ datalabel => datalabel
  | .intermediate _ datalabel _ => datalabel

/-- The hint, if it says something. -/
def hint : FileEvent → Option CxxString
  | .ancillary _ _ => none
  | .intermediate _ _ hint => if StringUtil.Meaningful hint then some hint else none

/-- Both names say something. -/
def Named (event : FileEvent) : Prop :=
  StringUtil.Meaningful event.filename ∧ StringUtil.Meaningful event.datalabel

end FileEvent

namespace EventMessage

open GMPKeys

/-- The message holds the event's type, names and hint, and nothing else. -/
structure Carries (message : EventMessage) (event : FileEvent) : Prop where
  intProperties : ∀ name value, message.intProperties.lookup name = some value
    ↔ name = gmpDataFileeventType ∧ value = event.type.code
  strings : ∀ name value, message.strings.lookup name = some value
    ↔ (name = gmpDataFileeventFilename ∧ value = event.filename)
      ∨ (name = gmpDataFileeventDatalabel ∧ value = event.datalabel)
      ∨ (name = gmpDataFileeventHint ∧ event.hint = some value)

/-- The event a message tells of: its type, its names and its hint. -/
def read (message : EventMessage) :
    Option (EventFileType × CxxString × CxxString × Option CxxString) := do
  let code ← message.intProperties.lookup gmpDataFileeventType
  let type ← EventFileType.ofCode code
  let filename ← message.strings.lookup gmpDataFileeventFilename
  let datalabel ← message.strings.lookup gmpDataFileeventDatalabel
  return (type, filename, datalabel, message.strings.lookup gmpDataFileeventHint)

theorem Carries.read_eq {message : EventMessage} {event : FileEvent} (h : message.Carries event) :
    message.read = some (event.type, event.filename, event.datalabel, event.hint) := by
  have htype := (h.intProperties gmpDataFileeventType event.type.code).2 ⟨rfl, rfl⟩
  have hfilename := (h.strings gmpDataFileeventFilename event.filename).2 (Or.inl ⟨rfl, rfl⟩)
  have hdatalabel := (h.strings gmpDataFileeventDatalabel event.datalabel).2
    (Or.inr (Or.inl ⟨rfl, rfl⟩))
  have hhint : message.strings.lookup gmpDataFileeventHint = event.hint := by
    have hother : gmpDataFileeventHint ≠ gmpDataFileeventFilename
        ∧ gmpDataFileeventHint ≠ gmpDataFileeventDatalabel := by decide
    refine Option.ext fun value => ?_
    simpa [hother] using h.strings gmpDataFileeventHint value
  simp [read, htype, hfilename, hdatalabel, hhint]

end EventMessage

namespace EventSession

theorem setIntPropertyOf_ok {session : EventSession} {name : CxxString} {value : CInt}
    {msg msg' : EventMessage} (h : session.setIntPropertyOf name value msg = .ok msg') :
    msg' = { msg with intProperties := msg.intProperties.insert name value } := by
  obtain ⟨_, _, hmsg⟩ := except_bind_ok h
  exact (Except.ok.inj hmsg).symm

theorem setStringOf_ok {session : EventSession} {name value : CxxString} {msg msg' : EventMessage}
    (h : session.setStringOf name value msg = .ok msg') :
    msg' = { msg with strings := msg.strings.insert name value } := by
  obtain ⟨_, _, hmsg⟩ := except_bind_ok h
  exact (Except.ok.inj hmsg).symm

/-- No JMS call throws. -/
structure Works (session : EventSession) : Prop where
  createMapMessage : session.createMapMessage = .ok ()
  setIntProperty : ∀ name value, session.setIntProperty name value = .ok ()
  setString : ∀ name value, session.setString name value = .ok ()
  send : ∀ destination message, session.send destination message = .ok ()

end EventSession

namespace FileEvent

open GMPKeys JmsFileEventsProducer

/-- The hint argument `sendFileEventMessage` gets: an ancillary event passes an empty one. -/
def hintArgument : FileEvent → CxxString
  | .ancillary _ _ => str ""
  | .intermediate _ _ hint => hint

theorem post_eq (session : EventSession) (event : FileEvent) :
    event.post session
      = sendFileEventMessage session event.type event.filename event.datalabel event.hintArgument := by
  cases event <;> rfl

/-- The hint goes into the message of an intermediate event, if it says something. -/
theorem hint_eq (event : FileEvent) :
    event.hint = if event.type = .intermediateType ∧ ¬ StringUtil.isEmpty event.hintArgument
      then some event.hintArgument else none := by
  cases event with
  | ancillary filename datalabel => simp [hint, type]
  | intermediate filename datalabel text =>
      simp [hint, type, hintArgument, StringUtil.isEmpty_iff]

theorem lookup_two_names {k l : CxxString} (hkeys : k ≠ l) (v w name value : CxxString) :
    (((∅ : UnorderedMap CxxString CxxString).insert k v).insert l w).lookup name = some value
      ↔ (name = k ∧ value = v) ∨ (name = l ∧ value = w) := by
  simp only [UnorderedMap.lookup_insert_eq_some_iff, AList.lookup_empty]
  constructor
  · intro h
    rcases h with hl | ⟨-, hk | ⟨-, hnone⟩⟩
    · exact Or.inr hl
    · exact Or.inl hk
    · cases hnone
  · intro h
    rcases h with hk | hl
    · exact Or.inr ⟨hk.1.trans_ne hkeys, Or.inl hk⟩
    · exact Or.inl hl

/-- Whatever is sent for an event carries it. -/
theorem trySend_carries {session : EventSession} {event : FileEvent} {message : EventMessage}
    (h : trySend session event.type event.filename event.datalabel event.hintArgument
      = .ok message) : message.Carries event := by
  obtain ⟨_, -, h⟩ := except_bind_ok h
  obtain ⟨typed, htyped, h⟩ := except_bind_ok h
  obtain ⟨named, hnamed, h⟩ := except_bind_ok h
  obtain ⟨labelled, hlabelled, h⟩ := except_bind_ok h
  obtain ⟨hinted, hhinted, h⟩ := except_bind_ok h
  obtain ⟨_, -, h⟩ := except_bind_ok h
  obtain rfl := Except.ok.inj h
  obtain rfl := EventSession.setIntPropertyOf_ok htyped
  obtain rfl := EventSession.setStringOf_ok hnamed
  obtain rfl := EventSession.setStringOf_ok hlabelled
  have hkeys : gmpDataFileeventFilename ≠ gmpDataFileeventDatalabel
      ∧ gmpDataFileeventFilename ≠ gmpDataFileeventHint
      ∧ gmpDataFileeventDatalabel ≠ gmpDataFileeventHint := by decide
  have htype : ∀ name value, ((∅ : UnorderedMap CxxString CInt).insert gmpDataFileeventType
      event.type.code).lookup name = some value
      ↔ name = gmpDataFileeventType ∧ value = event.type.code := fun name value => by
    rw [UnorderedMap.lookup_insert_eq_some_iff, AList.lookup_empty]
    simp
  have hnames := lookup_two_names hkeys.1 event.filename event.datalabel
  have hhint := hint_eq event
  unfold addHint at hhinted
  split_ifs at hhinted hhint with hkept
  · obtain rfl := EventSession.setStringOf_ok hhinted
    refine { intProperties := htype, strings := fun name value => ?_ }
    rw [UnorderedMap.lookup_insert_eq_some_iff, hnames, hhint, Option.some_inj]
    -- No name is the hint's key, so the last entry hides none of the other two.
    constructor
    · intro h
      rcases h with ⟨hname, hvalue⟩ | ⟨-, hfilename | hdatalabel⟩
      · exact Or.inr (Or.inr ⟨hname, hvalue.symm⟩)
      · exact Or.inl hfilename
      · exact Or.inr (Or.inl hdatalabel)
    · intro h
      rcases h with hfilename | hdatalabel | ⟨hname, hvalue⟩
      · exact Or.inr ⟨hfilename.1.trans_ne hkeys.2.1, Or.inl hfilename⟩
      · exact Or.inr ⟨hdatalabel.1.trans_ne hkeys.2.2, Or.inr hdatalabel⟩
      · exact Or.inl ⟨hname, hvalue.symm⟩
  · obtain rfl := Except.ok.inj hhinted
    refine { intProperties := htype, strings := fun name value => ?_ }
    rw [hnames, hhint]
    simp

theorem trySend_works {session : EventSession} (h : session.Works) (type : EventFileType)
    (filename datalabel hint : CxxString) :
    ∃ message, trySend session type filename datalabel hint = .ok message := by
  unfold trySend addHint EventSession.setIntPropertyOf EventSession.setStringOf
  rw [h.createMapMessage]
  simp only [h.setIntProperty, h.setString]
  by_cases hkept : type = .intermediateType ∧ ¬ StringUtil.isEmpty hint
  · simp only [if_pos hkept, bind, Except.bind, pure, Except.pure, h.send]
    exact ⟨_, rfl⟩
  · simp only [if_neg hkept, bind, Except.bind, pure, Except.pure, h.send]
    exact ⟨_, rfl⟩

/-- With a name missing nothing is tried. -/
theorem post_of_not_named {session : EventSession} {event : FileEvent} (h : ¬ event.Named) :
    event.post session = (.ok .error, []) := by
  rw [post_eq, sendFileEventMessage]
  split_ifs with hfilename hdatalabel
  · rfl
  · rfl
  · rw [StringUtil.isEmpty_iff, not_not] at hfilename hdatalabel
    exact absurd ⟨hfilename, hdatalabel⟩ h

/-- With both names there, the outcome is that of the JMS calls. -/
theorem post_of_named {session : EventSession} {event : FileEvent} (h : event.Named) :
    (∃ message, trySend session event.type event.filename event.datalabel event.hintArgument
        = .ok message ∧ event.post session = (.ok .ok, [message]))
    ∨ (∃ e e', trySend session event.type event.filename event.datalabel event.hintArgument
        = .error e ∧ event.post session = (.error e', [])) := by
  have hfilename : ¬ StringUtil.isEmpty event.filename = true := by
    rw [StringUtil.isEmpty_iff]
    exact not_not.2 h.1
  have hdatalabel : ¬ StringUtil.isEmpty event.datalabel = true := by
    rw [StringUtil.isEmpty_iff]
    exact not_not.2 h.2
  rw [post_eq, sendFileEventMessage, if_neg hfilename, if_neg hdatalabel]
  cases htried : trySend session event.type event.filename event.datalabel event.hintArgument with
  | ok message => exact Or.inl ⟨message, rfl, rfl⟩
  | error e => cases e <;> exact Or.inr ⟨_, _, rfl, rfl⟩

/-- **File events.** An event is sent precisely if both of its names say something, in one message that
    carries the event and nothing else; otherwise the call answers `ERROR`, and sends nothing. When a
    JMS call throws, so does the call, and nothing is sent. -/
theorem file_events_sent (session : EventSession) (event : FileEvent) :
    (session.Works → ((event.post session).2 ≠ [] ↔ event.Named))
    ∧ (¬ event.Named → event.post session = (.ok .error, []))
    ∧ (event.Named → (∃ message, event.post session = (.ok .ok, [message]))
        ∨ ∃ e, event.post session = (.error e, []))
    ∧ (∀ message ∈ (event.post session).2, message.Carries event
        ∧ message.read = some (event.type, event.filename, event.datalabel, event.hint)) := by
  refine ⟨fun hworks => ⟨fun hsent => ?_, fun hnamed => ?_⟩, post_of_not_named, fun hnamed => ?_,
    fun message hsent => ?_⟩
  · by_contra hnot
    exact hsent (by rw [post_of_not_named hnot])
  · obtain ⟨message, htried⟩ := trySend_works hworks event.type event.filename event.datalabel
      event.hintArgument
    rcases @post_of_named session _ hnamed with ⟨_, -, hpost⟩ | ⟨e, _, hfails, -⟩
    · simp [hpost]
    · rw [htried] at hfails
      cases hfails
  · rcases @post_of_named session _ hnamed with ⟨message, -, hpost⟩ | ⟨_, e, -, hpost⟩
    · exact Or.inl ⟨message, hpost⟩
    · exact Or.inr ⟨e, hpost⟩
  · by_cases hnamed : event.Named
    · rcases @post_of_named session _ hnamed with ⟨_, htried, hpost⟩ | ⟨_, _, -, hpost⟩
      · rw [hpost, List.mem_singleton] at hsent
        obtain rfl := hsent
        exact ⟨trySend_carries htried, (trySend_carries htried).read_eq⟩
      · simp [hpost] at hsent
    · simp [post_of_not_named hnamed] at hsent

/-- A session on which nothing fails. -/
def workingSession : EventSession :=
  { createMapMessage := .ok ()
    setIntProperty := fun _ _ => .ok ()
    setString := fun _ _ => .ok ()
    send := fun _ _ => .ok () }

theorem file_events_sent_leading_blank :
    ((intermediate (str " a.fits") (str "S1") (str " \t\n")).post workingSession).2 ≠ []
      ↔ (intermediate (str " a.fits") (str "S1") (str " \t\n")).Named :=
  (file_events_sent workingSession (intermediate (str " a.fits") (str "S1") (str " \t\n"))).1
    ⟨rfl, fun _ _ => rfl, fun _ _ => rfl, fun _ _ => rfl⟩

end FileEvent

end Giapi
