import GiapiGlue.Exchanges.Exchange
import GiapiGlue.Epics.JmsEpicsFetcher
import GiapiGlue.Epics.JmsEpicsManager
import GiapiGlue.Tcs.JmsTcsFetcher

set_option autoImplicit false

/-! # The five calls that exchange a request for a reply

Each of them with its ledger. Four have the shape of `Exchange.blocking` or `Exchange.detached` and differ in
what they set, read and throw; `requestChannels` keeps its request until the end, and its consumer in a smart
pointer. -/

namespace Giapi

open Accounted Exchange

/-! ## The TCS context -/

namespace JmsTcsFetcher

/-- What `fetch` meets outside the library, step by step. -/
structure FetchEnv where
  createMessage : Except Exn Unit
  createTemporaryQueue : Except Exn Unit
  createConsumer : Except Exn Unit
  setCMSReplyTo : Except Exn Unit
  send : Except Exn Unit
  queue : ReplyQueue

def steps (env : FetchEnv) : ExchangeSteps :=
  { createMessage := env.createMessage
    prepare := .ok ()
    createTemporaryQueue := env.createTemporaryQueue
    createConsumer := env.createConsumer
    dispatch := do
      env.setCMSReplyTo
      env.send
    queue := env.queue }

/-- What is made of a reply: the answer, and `ctx` as it is left. -/
def decode (ctx : TcsContext) : Option Message → Except Escape (Status × TcsContext)
  | some reply =>
    JmsApplyOffset.lift ((buildTcsContext ctx reply).1.map (·, (buildTcsContext ctx reply).2))
  | none => .error (.exn (.timeoutException (str "Time out while waiting for TCSContext")))

def failure (message : CxxString) : Exn :=
  .communicationException (str "Problem fetching the TCS Context " ++ message)

def fetch (env : FetchEnv) (ctx : TcsContext) (timeout : Int) : Exchange (Status × TcsContext) :=
  blocking (steps env) timeout (decode ctx) failure

end JmsTcsFetcher

/-! ## A channel -/

namespace JmsEpicsFetcher

def steps (env : FetchEnv) (name : CxxString) : ExchangeSteps :=
  { createMessage := env.createMessage
    prepare := env.setStringProperty GMPKeys.gmpGeminiEpicsChannelProperty name
    createTemporaryQueue := env.createTemporaryQueue
    createConsumer := env.createConsumer
    dispatch := do
      env.setCMSReplyTo
      env.send
    queue := env.queue }

def failure (message : CxxString) : Exn :=
  .communicationException (str "Problem fetching the TCS Context " ++ message)

/-- `getChannel`, with its ledger. -/
def exchangeChannel (env : FetchEnv) (name : CxxString) (timeout : Int) :
    Exchange (Option EpicsStatusItem) :=
  blocking (steps env name) timeout (fun reply => JmsApplyOffset.lift (decode reply)) failure

/-- Without its ledger, the exchange is `getChannel`. -/
theorem result_exchangeChannel (env : FetchEnv) (name : CxxString) (timeout : Int) :
    (exchangeChannel env name timeout).result = JmsApplyOffset.lift (getChannel env name timeout) := by
  have hrequest : Exchange.request (steps env name) = request env name := rfl
  have hfetch : (JmsApplyOffset.lift (env.queue.awaitReply timeout)
      >>= fun reply => JmsApplyOffset.lift (decode reply)) = JmsApplyOffset.lift (fetch env timeout) :=
    (lift_bind _ _).symm
  rw [exchangeChannel, result_blocking, hrequest, getChannel]
  cases request env name with
  | error e => cases e <;> rfl
  | ok _ =>
      simp only [show (steps env name).queue = env.queue from rfl, hfetch]
      cases fetch env timeout with
      | ok item => rfl
      | error e => cases e <;> rfl

end JmsEpicsFetcher

/-! ## A property of the GMP -/

namespace RequestProducer

/-- What `getProperty` meets outside the library, step by step. -/
structure PropertyEnv where
  createMapMessage : Except Exn Unit
  setIntProperty : CxxString → CInt → Except Exn Unit
  setString : CxxString → CxxString → Except Exn Unit
  createTemporaryQueue : Except Exn Unit
  createConsumer : Except Exn Unit
  setCMSReplyTo : Except Exn Unit
  send : Except Exn Unit
  queue : ReplyQueue

def steps (env : PropertyEnv) (key : CxxString) : ExchangeSteps :=
  { createMessage := env.createMapMessage
    prepare := do
      env.setIntProperty GMPKeys.gmpUtilRequestType GMPKeys.gmpUtilRequestProperty
      env.setString GMPKeys.gmpUtilProperty key
    createTemporaryQueue := env.createTemporaryQueue
    createConsumer := env.createConsumer
    dispatch := do
      env.setCMSReplyTo
      env.send
    queue := env.queue }

/-- The reply is taken for a `TextMessage` whatever it is. -/
def decode (key : CxxString) : Option Message → Except Escape CxxString
  | some (.textMessage getText) => JmsApplyOffset.lift getText
  | some _ => .error (.exn .outOfBounds)
  | none =>
    .error (.exn (.timeoutException (str "Time out while waiting for property " ++ key)))

def failure (message : CxxString) : Exn :=
  .postException (str "Problem sending utility request : " ++ message)

def getProperty (env : PropertyEnv) (key : CxxString) (timeout : Int) : Exchange CxxString :=
  blocking (steps env key) timeout (decode key) failure

end RequestProducer

/-! ## An offset -/

namespace JmsApplyOffset

def steps (env : OffsetEnv) (instName : CxxString) (p q : CDouble) (offsetType : OffsetType) :
    ExchangeSteps :=
  { createMessage := env.createBytesMessage
    prepare := .ok ()
    createTemporaryQueue := env.createTemporaryQueue
    createConsumer := env.createConsumer
    dispatch := do
      env.setCMSReplyTo
      let ((), body) ← (writeOffset p q offsetType).run []
      env.setStringProperty (str "instName") instName
      env.send body
    queue := env.queue }

/-- What the blocking call makes of a reply. -/
def decode : Option Message → Except Escape CInt
  | some (.textMessage getText) => do
    let text ← lift getText
    wasOffsetApplied text
  | some _ => return Status.error.toInt
  | none => throw (.exn (.timeoutException (str "Time out while waiting for TCS Offset executiong")))

def failure (message : CxxString) : Exn :=
  .communicationException (str "Problem applying the Offset in the TCS.  " ++ message)

/-- `sendOffset`, with its ledger. The thread is given the timeout as an `int`. -/
def exchangeOffset (env : OffsetEnv) (instName : CxxString) (p q : CDouble) (offsetType : OffsetType)
    (timeout : Int) (callbackOffset : Bool) : Exchange CInt :=
  if callbackOffset then
    Exchange.detached (steps env instName p q offsetType) env.thread (BitVec.ofInt 32 timeout).toInt 1 failure
  else
    blocking (steps env instName p q offsetType) timeout decode failure

/-- Without its ledger, the exchange is `sendOffset`: `std::thread` throws no `CMSException`. -/
theorem result_exchangeOffset (env : OffsetEnv) (instName : CxxString) (p q : CDouble)
    (offsetType : OffsetType) (timeout : Int) (callbackOffset : Bool)
    (hthread : ∀ message, env.thread ≠ .error (.cmsException message)) :
    (exchangeOffset env instName p q offsetType timeout callbackOffset).result
      = sendOffset env instName p q offsetType timeout callbackOffset := by
  have hrequest : Exchange.request (steps env instName p q offsetType)
      = request env instName p q offsetType := rfl
  have hawait : (lift (env.queue.awaitReply timeout) >>= decode) = awaitOffset env timeout := rfl
  unfold exchangeOffset sendOffset
  cases callbackOffset with
  | true =>
      rw [if_pos rfl, result_detached, hrequest]
      cases request env instName p q offsetType with
      | error e => cases e <;> rfl
      | ok _ =>
          cases hstarted : env.thread with
          | ok _ => rfl
          | error e =>
              cases e with
              | cmsException message => exact absurd hstarted (hthread message)
              | _ => rfl
  | false =>
      rw [if_neg Bool.false_ne_true, result_blocking, hrequest]
      cases request env instName p q offsetType with
      | error e => cases e <;> rfl
      | ok _ =>
          simp only [show (steps env instName p q offsetType).queue = env.queue from rfl, hawait,
            Bool.false_eq_true, if_false]
          cases awaitOffset env timeout with
          | ok applied => rfl
          | error e =>
              cases e with
              | exn e => cases e <;> rfl
              | _ => rfl

end JmsApplyOffset

/-! ## The valid channels -/

namespace JmsEpicsConfiguration

/-- What `requestChannels` meets outside the library, step by step. -/
structure ChannelsEnv where
  createQueue : CxxString → Except Exn Unit
  createProducer : Except Exn Unit
  createMessage : Except Exn Unit
  setBooleanProperty : CxxString → Bool → Except Exn Unit
  createTemporaryQueue : Except Exn Unit
  createConsumer : Except Exn Unit
  setCMSReplyTo : Except Exn Unit
  send : Except Exn Unit
  /-- `producer->close()`. -/
  closeProducer : Except Exn Unit
  queue : ReplyQueue
  /-- What the reply answers, taken for a `MapMessage` whatever it is. -/
  getMapNames : Message → Except Exn (List CxxString)

def steps (env : ChannelsEnv) : ExchangeSteps :=
  { createMessage := do
      env.createQueue GMPKeys.gmpGeminiEpicsRequestDestination
      env.createProducer
      env.createMessage
    prepare := env.setBooleanProperty GMPKeys.gmpGeminiEpicsChannelProperty true
    createTemporaryQueue := env.createTemporaryQueue
    createConsumer := env.createConsumer
    dispatch := do
      env.setCMSReplyTo
      env.send
      env.closeProducer
    queue := env.queue }

def failure (message : CxxString) : Exn :=
  .postException (str "Problem getting valid epics channel : " ++ message)

/-- What is made of a reply. -/
def decode (env : ChannelsEnv) (configuration : JmsEpicsConfiguration) :
    Option Message → Except Exn JmsEpicsConfiguration
  | some reply => do
    let mapNames ← env.getMapNames reply
    return { epicsChannels := configuration.epicsChannels ∪ mapNames.toFinset }
  | none => .error (.timeoutException (str "Time out trying to get valid Epics Channel names "))

/-- The part of the `try` block in which the consumer lives. -/
def awaitChannels (env : ChannelsEnv) (timeout : Int) (configuration : JmsEpicsConfiguration) :
    Exchange JmsEpicsConfiguration := do
  call (steps env).dispatch
  let reply ← receive env.queue timeout
  call env.queue.close
  call env.queue.destroy
  release .queue
  release .request
  call (decode env configuration reply)

/-- The `try` block. The destination and the producer are smart pointers too, and not temporary. -/
def askForChannels (env : ChannelsEnv) (timeout : Int) (configuration : JmsEpicsConfiguration) :
    Exchange JmsEpicsConfiguration := do
  openQueue (steps env)
  call env.createConsumer
  holding .consumer (awaitChannels env timeout configuration)

/-- `requestChannels`, with its ledger. -/
def exchangeChannels (env : ChannelsEnv) (timeout : Int) (configuration : JmsEpicsConfiguration) :
    Exchange JmsEpicsConfiguration :=
  catching (askForChannels env timeout configuration) (catchCms failure)

/-- The channels it has if it returns are those of `requestChannels` for the names in the reply. -/
theorem requestChannels_of_exchangeChannels {env : ChannelsEnv} {timeout : Int}
    {configuration configuration' : JmsEpicsConfiguration}
    (h : (exchangeChannels env timeout configuration).result = .ok configuration') :
    ∃ mapNames, configuration.requestChannels (.names mapNames) = .ok configuration' := by
  have hbody := ok_of_result_catching h
  simp only [askForChannels, awaitChannels, result_bind, result_call, result_holding, result_release]
    at hbody
  obtain ⟨_, -, hbody⟩ := except_bind_ok hbody
  obtain ⟨_, -, hbody⟩ := except_bind_ok hbody
  obtain ⟨_, -, hbody⟩ := except_bind_ok hbody
  obtain ⟨reply, -, hbody⟩ := except_bind_ok hbody
  obtain ⟨_, -, hbody⟩ := except_bind_ok hbody
  obtain ⟨_, -, hbody⟩ := except_bind_ok hbody
  have hdecoded : JmsApplyOffset.lift (decode env configuration reply) = .ok configuration' := hbody
  cases hdecode : decode env configuration reply with
  | error e =>
      rw [hdecode] at hdecoded
      cases hdecoded
  | ok _ =>
      rw [hdecode] at hdecoded
      cases reply with
      | none => cases hdecode
      | some reply =>
          obtain ⟨mapNames, -, hinserted⟩ := except_bind_ok hdecode
          exact ⟨mapNames, hinserted.trans (congrArg Except.ok (Except.ok.inj hdecoded))⟩

/-- The timeout is not caught: it leaves the queue and the request released. -/
theorem awaitChannels_of_timeout {env : ChannelsEnv} {timeout : Int}
    (configuration : JmsEpicsConfiguration) (hdispatch : (steps env).dispatch = .ok ())
    (hreply : env.queue.awaitReply timeout = .ok none) :
    awaitChannels env timeout configuration
      = (.error (.exn (.timeoutException (str "Time out trying to get valid Epics Channel names "))),
          [.released .queue, .released .request]) := by
  obtain ⟨reply, hreceive, hreply⟩ := except_bind_ok hreply
  obtain ⟨_, hclose, hreply⟩ := except_bind_ok hreply
  obtain ⟨_, hdestroy, hreply⟩ := except_bind_ok hreply
  obtain rfl : reply = none := Except.ok.inj hreply
  unfold awaitChannels receive
  rw [hdispatch, hreceive, hclose, hdestroy]
  rfl

/-- Once there is a reply, nothing releases it. -/
theorem awaitChannels_of_reply {env : ChannelsEnv} {timeout : Int} {reply : Message}
    (configuration : JmsEpicsConfiguration) (hdispatch : (steps env).dispatch = .ok ())
    (hreceive : env.queue.receive (if 0 < timeout then some timeout else none) = .ok (some reply)) :
    .acquired .reply ∈ (awaitChannels env timeout configuration).ledger
      ∧ .released .reply ∉ (awaitChannels env timeout configuration).ledger := by
  have hledger : (awaitChannels env timeout configuration).ledger = [.acquired .reply]
      ∨ (awaitChannels env timeout configuration).ledger
        = [.acquired .reply, .released .queue, .released .request] := by
    unfold awaitChannels receive
    rw [hdispatch, hreceive]
    cases env.queue.close with
    | error e => exact Or.inl rfl
    | ok _ =>
        cases env.queue.destroy with
        | error e => exact Or.inl rfl
        | ok _ => exact Or.inr rfl
  rcases hledger with hledger | hledger <;> rw [hledger] <;> decide

/-- In every case but the timeout, the queue stays or the reply does. -/
theorem awaitChannels_of_not_timeout {env : ChannelsEnv} {timeout : Int}
    (configuration : JmsEpicsConfiguration)
    (h : ¬ ((steps env).dispatch = .ok () ∧ env.queue.awaitReply timeout = .ok none)) :
    .released .queue ∉ (awaitChannels env timeout configuration).ledger
    ∨ (.acquired .reply ∈ (awaitChannels env timeout configuration).ledger
        ∧ .released .reply ∉ (awaitChannels env timeout configuration).ledger) := by
  cases hdispatch : (steps env).dispatch with
  | error e =>
      refine Or.inl ?_
      unfold awaitChannels
      rw [hdispatch]
      exact List.not_mem_nil
  | ok _ =>
      cases hreceive : env.queue.receive (if 0 < timeout then some timeout else none) with
      | error e =>
          refine Or.inl ?_
          unfold awaitChannels receive
          rw [hdispatch, hreceive]
          exact List.not_mem_nil
      | ok reply =>
          cases reply with
          | some reply => exact Or.inr (awaitChannels_of_reply configuration hdispatch hreceive)
          | none =>
              refine Or.inl ?_
              unfold awaitChannels receive
              rw [hdispatch, hreceive]
              cases hclose : env.queue.close with
              | error e => exact List.not_mem_nil
              | ok _ =>
                  cases hdestroy : env.queue.destroy with
                  | error e => exact List.not_mem_nil
                  | ok _ =>
                      refine absurd ⟨hdispatch, ?_⟩ h
                      unfold ReplyQueue.awaitReply
                      rw [hreceive, hclose, hdestroy]
                      rfl

/-- The `try` block from the consumer on. -/
theorem askForChannels_of_opened {env : ChannelsEnv} (hopened : Opened (steps env))
    (hconsumer : env.createConsumer = .ok ()) (timeout : Int) (configuration : JmsEpicsConfiguration) :
    askForChannels env timeout configuration
      = ((awaitChannels env timeout configuration).result, [.acquired .request, .acquired .queue,
          .acquired .consumer] ++ (awaitChannels env timeout configuration).ledger
            ++ [.released .consumer]) := by
  rw [askForChannels, bind_of_ok (openQueue_of_opened hopened), hconsumer]
  rfl

/-- **`requestChannels`** leaves a balanced ledger precisely if it fails early, or times out. -/
theorem balanced_exchangeChannels_iff (env : ChannelsEnv) (timeout : Int)
    (configuration : JmsEpicsConfiguration) :
    (exchangeChannels env timeout configuration).ledger.Balanced
      ↔ FailsEarly (steps env) ∨ (Sent (steps env) ∧ env.queue.awaitReply timeout = .ok none) := by
  unfold exchangeChannels
  by_cases hopened : Opened (steps env)
  · simp only [hopened.not_failsEarly, false_or]
    cases hconsumer : env.createConsumer with
    | error e =>
        have hbody : askForChannels env timeout configuration
            = (.error (.exn e), [.acquired .request, .acquired .queue]) := by
          rw [askForChannels, bind_of_ok (openQueue_of_opened hopened), hconsumer]
          rfl
        refine iff_of_false
          (not_balanced_catching hbody (r := .queue) (by decide) (by simp) (by simp) failure) ?_
        rintro ⟨hsent, -⟩
        have hok : env.createConsumer = .ok () := hsent.createConsumer
        rw [hok] at hconsumer
        cases hconsumer
    | ok _ =>
        have hbody := askForChannels_of_opened hopened hconsumer timeout configuration
        by_cases htimeout : (steps env).dispatch = .ok () ∧ env.queue.awaitReply timeout = .ok none
        · obtain ⟨hdispatch, hreply⟩ := htimeout
          refine iff_of_true ?_ ⟨⟨hopened, hconsumer, hdispatch⟩, hreply⟩
          rw [awaitChannels_of_timeout configuration hdispatch hreply] at hbody
          rw [ledger_catching_error hbody]
          decide
        · refine iff_of_false ?_ fun hclean => htimeout ⟨hclean.1.dispatch, hclean.2⟩
          rcases awaitChannels_of_not_timeout configuration htimeout with hqueue | ⟨hacquired, hreleased⟩
          · exact not_balanced_catching hbody (r := .queue) (by decide) (by simp)
              (by simpa using hqueue) failure
          · exact not_balanced_catching hbody (r := .reply) (by decide) (by simpa using hacquired)
              (by simpa using hreleased) failure
  · obtain ⟨e, before, hqueue, hbalanced⟩ := balanced_of_not_opened hopened
    have hbody : askForChannels env timeout configuration = (.error e, before) := by
      rw [askForChannels, bind_of_error hqueue]
    rw [ledger_catching_error hbody, hbalanced]
    exact (or_iff_left fun hclean => hopened hclean.1.toOpened).symm

end JmsEpicsConfiguration

end Giapi
