import GiapiGlue.Data.ObsEvents
import GiapiGlue.Endpoints.Lifetimes
import GiapiGlue.Services.SystemLog

set_option autoImplicit false

/-! # Notices

Observation events, file events and texts for the log tell the observatory something and wait for no answer.
The calls go through `DataUtil` and `ServicesUtil`, whose singletons are created at their first use; all of it
may fail, at every call anew. What the observatory reads is compared with what the callers were told. -/

namespace Giapi

/-! ## The calls -/

/-- A call, with the session of its producer as it meets it. -/
inductive NoticeCall
  | postObservationEvent (session : ObsSession) (event : CInt) (datalabel : CxxString)
  | postFileEvent (session : EventSession) (event : FileEvent)
  | systemLog (session : LogSession) (level : CInt) (msg : CxxString)

inductive NoticeMessage
  | observation (message : ObsMessage)
  | file (message : EventMessage)
  | log (message : LogMessage)
deriving DecidableEq

/-- A message on the wire, with the endpoint that sent it. -/
structure Transmission where
  sender : Nat
  destination : CxxString
  message : NoticeMessage
deriving DecidableEq

/-- What a call ends with: `systemLog` returns nothing. -/
abbrev NoticeAnswer : Type := Except Exn (Option Status)

namespace NoticeCall

/-- The member of a singleton that sends. -/
def producer : NoticeCall → EndpointKind
  | postObservationEvent _ _ _ => .obsEventProducer
  | postFileEvent _ _ => .fileEventsProducer
  | systemLog _ _ _ => .logProducer

/-- The destination the producer was constructed with. -/
def destination : NoticeCall → CxxString
  | postObservationEvent _ _ _ => GMPKeys.gmpDataObseventDestination
  | postFileEvent _ _ => GMPKeys.gmpDataFileeventDestination
  | systemLog _ _ _ => GMPKeys.gmpServicesLogDestination

/-- What the call ends with once there is a producer, what it sends, and what it writes into the log of the
    process. -/
def post : NoticeCall → NoticeAnswer × List NoticeMessage × List LogLine
  | postObservationEvent session event datalabel =>
    let (answer, sent) := DataUtilImpl.postObservationEvent session event datalabel
    (answer.map some, sent.map .observation, [])
  | postFileEvent session event =>
    let (answer, sent) := event.post session
    (answer.map some, sent.map .file, [])
  | systemLog session level msg =>
    let (answer, sent, lines) := ServicesUtilImpl.systemLog session level msg
    (answer.map fun _ => none, sent.map .log, lines)

end NoticeCall

/-! ## The process -/

/-- The endpoint of a kind among the members of its singleton. -/
def Library.member (library : Library) (kind : EndpointKind) : Option Nat := do
  let ns ← library.members kind.home
  ns[kind.home.members.idxOf kind]?

/-- The library, what was sent and written so far, and the calls that were answered. -/
structure NoticeProcess where
  library : Library
  wire : List Transmission
  log : List LogLine
  answered : List (NoticeCall × NoticeAnswer)

/-- A call of `DataUtil` or `ServicesUtil`, or another use of the library. -/
inductive NoticeOp
  | call (env : EndpointKind → EndpointEnv) (call : NoticeCall)
  | other (op : LibraryOp)

namespace NoticeProcess

def initial : NoticeProcess :=
  { library := .initial, wire := [], log := [], answered := [] }

/-- What a call leaves that was answered. -/
def record (call : NoticeCall) (answer : NoticeAnswer) (sent : List Transmission) (lines : List LogLine)
    (library : Library) (s : NoticeProcess) : NoticeProcess :=
  { library
    wire := s.wire ++ sent
    log := s.log ++ lines
    answered := s.answered ++ [(call, answer)] }

/-- The producer is asked. -/
def posted (call : NoticeCall) (sender : Nat) (library : Library) (s : NoticeProcess) : NoticeProcess :=
  let (answer, sent, lines) := call.post
  s.record call answer (sent.map fun message => { sender, destination := call.destination, message })
    lines library

/-- The call throws before. -/
def thrown (call : NoticeCall) (e : Exn) (library : Library) (s : NoticeProcess) : NoticeProcess :=
  s.record call (.error e) [] [] library

/-- `Instance()->…`: the singleton first, then its producer. -/
def call (env : EndpointKind → EndpointEnv) (call : NoticeCall) (s : NoticeProcess) : NoticeProcess :=
  match s.library.getInstance call.producer.home env with
  | (.error e, library) => s.thrown call e library
  | (.ok (), library) =>
    match library.member call.producer with
    | some sender => s.posted call sender library
    | none => s.thrown call .outOfBounds library

def step (s : NoticeProcess) : NoticeOp → NoticeProcess
  | .call env call => s.call env call
  | .other op => { s with library := s.library.step op }

abbrev after (ops : List NoticeOp) : NoticeProcess := Run.after step initial ops

end NoticeProcess

/-! ## What is told -/

/-- What there is to tell. -/
inductive Notice
  | observation (event : ObservationEvent) (datalabel : CxxString)
  | file (type : EventFileType) (filename datalabel : CxxString) (hint : Option CxxString)
  | log (line : LogLine)
deriving DecidableEq

instance (event : FileEvent) : Decidable event.Named := inferInstanceAs (Decidable (_ ∧ _))

/-- What the arguments of a call tell, if they tell something: an event that is one, under names that say
    something, or a text with a level. -/
def NoticeCall.notice : NoticeCall → Option Notice
  | postObservationEvent _ event datalabel =>
    if StringUtil.Meaningful datalabel then
      (ObservationEvent.ofCode event).map (.observation · datalabel)
    else
      none
  | postFileEvent _ event =>
    if event.Named then some (.file event.type event.filename event.datalabel event.hint) else none
  | systemLog _ level msg => (Level.ofCode level).map fun level => .log { level, text := msg }

/-- What a receiver on the destination makes of a message. -/
def Transmission.read (transmission : Transmission) : Option Notice :=
  match transmission.message with
  | .observation message =>
    if transmission.destination = GMPKeys.gmpDataObseventDestination then
      message.read.map fun (event, datalabel) => .observation event datalabel
    else
      none
  | .file message =>
    if transmission.destination = GMPKeys.gmpDataFileeventDestination then
      message.read.map fun (type, filename, datalabel, hint) => .file type filename datalabel hint
    else
      none
  | .log message =>
    if transmission.destination = GMPKeys.gmpServicesLogDestination then message.read.map .log else none

/-- The endpoint kind that sends such messages. -/
def Transmission.producer (transmission : Transmission) : EndpointKind :=
  match transmission.message with
  | .observation _ => .obsEventProducer
  | .file _ => .fileEventsProducer
  | .log _ => .logProducer

/-- The line of the log of the observatory a notice makes. -/
def Notice.line : Notice → Option LogLine
  | log line => some line
  | _ => none

/-- What the caller may take as told: the call has returned, and has not answered `ERROR`. -/
def told : NoticeCall × NoticeAnswer → Option Notice
  | (call, .ok (some .ok)) => call.notice
  | (call, .ok none) => call.notice
  | _ => none

/-! ## One call -/

namespace NoticeCall

/-- The level is missing from the enumeration. -/
def Unlevelled : NoticeCall → Prop
  | systemLog _ level _ => Level.ofCode level = none
  | _ => False

/-- How a call ends once there is a producer. -/
inductive Posted (call : NoticeCall) : NoticeAnswer × List NoticeMessage × List LogLine → Prop
  /-- `ERROR`: there is nothing to tell. -/
  | refused (hnotice : call.notice = none) : Posted call (.ok (some .error), [], [])
  /-- A level that is not defined: a warning, and no message. -/
  | unlevelled (hlevel : call.Unlevelled) (hnotice : call.notice = none) :
      Posted call (.ok none, [], [{ level := .warning, text := ServicesUtilImpl.undefinedLevel }])
  /-- One message. -/
  | sent {notice : Notice} (hnotice : call.notice = some notice) {status : Option Status}
      (hstatus : status ≠ some .error) {message : NoticeMessage}
      (hread : ∀ sender, Transmission.read
        { sender, destination := call.destination, message } = some notice)
      (hproducer : ∀ sender, Transmission.producer
        { sender, destination := call.destination, message } = call.producer) :
      Posted call (.ok status, [message], notice.line.toList)
  /-- A JMS call has thrown. -/
  | failed {notice : Notice} (hnotice : call.notice = some notice) (e : Exn) :
      Posted call (.error e, [], [])

theorem post_posted (call : NoticeCall) : Posted call call.post := by
  cases call with
  | postObservationEvent session event datalabel =>
      have hposted := JmsObsEventProducer.postEvent_posted session event datalabel
      simp only [post, DataUtilImpl.postObservationEvent]
      generalize JmsObsEventProducer.postEvent session event datalabel = outcome at hposted ⊢
      cases hposted with
      | refused h =>
          refine .refused ?_
          cases hevent : ObservationEvent.ofCode event with
          | none => simp [notice, hevent]
          | some e => simp [notice, h e hevent]
      | @sent e hevent hlabel message hread =>
          have hnotice : (postObservationEvent session event datalabel).notice
              = some (.observation e datalabel) := by simp [notice, hevent, hlabel]
          refine .sent hnotice (by simp) (fun _ => ?_) fun _ => rfl
          simp [Transmission.read, destination, hread]
      | @failed e hevent hlabel thrown =>
          have hnotice : (postObservationEvent session event datalabel).notice
              = some (.observation e datalabel) := by simp [notice, hevent, hlabel]
          exact .failed hnotice thrown
  | postFileEvent session event =>
      simp only [post]
      by_cases hevent : event.Named
      · have hnotice : (postFileEvent session event).notice
            = some (.file event.type event.filename event.datalabel event.hint) := if_pos hevent
        rcases @FileEvent.post_of_named session event hevent with
          ⟨message, htried, hpost⟩ | ⟨_, e, -, hpost⟩
        · have hread := (FileEvent.trySend_carries htried).read_eq
          rw [hpost]
          refine .sent hnotice (by simp) (fun _ => ?_) fun _ => rfl
          simp [Transmission.read, destination, hread]
        · rw [hpost]
          exact .failed hnotice e
      · rw [FileEvent.post_of_not_named hevent]
        exact .refused (if_neg hevent)
  | systemLog session level msg =>
      have hlogged := ServicesUtilImpl.systemLog_logged session level msg
      simp only [post]
      generalize ServicesUtilImpl.systemLog session level msg = outcome at hlogged ⊢
      cases hlogged with
      | undefined hlevel => exact .unlevelled hlevel (by simp [notice, hlevel])
      | @sent l hlevel message hread =>
          have hnotice : (systemLog session level msg).notice
              = some (.log { level := l, text := msg }) := by simp [notice, hlevel]
          refine .sent hnotice (by simp) (fun _ => ?_) fun _ => rfl
          simp [Transmission.read, destination, hread]
      | @failed l hlevel thrown =>
          have hnotice : (systemLog session level msg).notice
              = some (.log { level := l, text := msg }) := by simp [notice, hlevel]
          exact .failed hnotice thrown

end NoticeCall

end Giapi
