import GiapiGlue.Exchanges.Calls

set_option autoImplicit false

/-! # What runs of exchanges leave behind

Calls of the five functions, one after the other, with the lines of detached threads anywhere between theirs.
The ledger of such a run is balanced precisely if each of its calls is clean: it fails before it has a queue,
or it waits itself and nothing goes wrong until it times out. Replies, which are the caller's, are never
deleted. -/

namespace Giapi

open Exchange

/-- The wait meets no exception, and no reply. -/
structure TimesOut (queue : ReplyQueue) (timeout : Int) : Prop where
  receive : queue.receive (if 0 < timeout then some timeout else none) = .ok none
  close : queue.close = .ok ()
  destroy : queue.destroy = .ok ()

theorem timesOut_iff (queue : ReplyQueue) (timeout : Int) :
    TimesOut queue timeout ↔ queue.awaitReply timeout = .ok none := by
  constructor
  · intro h
    unfold ReplyQueue.awaitReply
    rw [h.receive, h.close, h.destroy]
    rfl
  · intro h
    obtain ⟨reply, hreceive, h⟩ := except_bind_ok h
    obtain ⟨_, hclose, h⟩ := except_bind_ok h
    obtain ⟨_, hdestroy, h⟩ := except_bind_ok h
    obtain rfl : reply = none := Except.ok.inj h
    exact { receive := hreceive, close := hclose, destroy := hdestroy }

/-- A call of one of the five functions. -/
inductive ExchangeCall
  | fetch (env : JmsTcsFetcher.FetchEnv) (ctx : TcsContext) (timeout : Int)
  | getChannel (env : JmsEpicsFetcher.FetchEnv) (name : CxxString) (timeout : Int)
  | getProperty (env : RequestProducer.PropertyEnv) (key : CxxString) (timeout : Int)
  | requestChannels (env : JmsEpicsConfiguration.ChannelsEnv) (timeout : Int)
      (configuration : JmsEpicsConfiguration)
  | sendOffset (env : JmsApplyOffset.OffsetEnv) (instName : CxxString) (p q : CDouble)
      (offsetType : OffsetType) (timeout : Int) (callbackOffset : Bool)

namespace ExchangeCall

/-- What the call acquires and releases, its thread included. -/
def ledger : ExchangeCall → Ledger ExchangeResource
  | fetch env ctx timeout => (JmsTcsFetcher.fetch env ctx timeout).ledger
  | getChannel env name timeout => (JmsEpicsFetcher.exchangeChannel env name timeout).ledger
  | getProperty env key timeout => (RequestProducer.getProperty env key timeout).ledger
  | requestChannels env timeout configuration =>
    (JmsEpicsConfiguration.exchangeChannels env timeout configuration).ledger
  | sendOffset env instName p q offsetType timeout callbackOffset =>
    (JmsApplyOffset.exchangeOffset env instName p q offsetType timeout callbackOffset).ledger

/-- What the call meets. -/
def steps : ExchangeCall → ExchangeSteps
  | fetch env _ _ => JmsTcsFetcher.steps env
  | getChannel env name _ => JmsEpicsFetcher.steps env name
  | getProperty env key _ => RequestProducer.steps env key
  | requestChannels env _ _ => JmsEpicsConfiguration.steps env
  | sendOffset env instName p q offsetType _ _ => JmsApplyOffset.steps env instName p q offsetType

def timeout : ExchangeCall → Int
  | fetch _ _ timeout => timeout
  | getChannel _ _ timeout => timeout
  | getProperty _ _ timeout => timeout
  | requestChannels _ timeout _ => timeout
  | sendOffset _ _ _ _ _ timeout _ => timeout

/-- The call does not leave the wait to a thread. -/
def Waits : ExchangeCall → Prop
  | sendOffset _ _ _ _ _ _ callbackOffset => callbackOffset = false
  | _ => True

/-- The call fails early, or it times out with no exception before. -/
def Clean (call : ExchangeCall) : Prop :=
  FailsEarly call.steps ∨ (call.Waits ∧ Sent call.steps ∧ TimesOut call.steps.queue call.timeout)

/-- **One call** leaves a balanced ledger precisely if it is clean. -/
theorem balanced_ledger_iff (call : ExchangeCall) : call.ledger.Balanced ↔ call.Clean := by
  unfold Clean
  rw [timesOut_iff]
  cases call with
  | fetch env ctx timeout =>
      refine (balanced_blocking_iff _ _ rfl _).trans ?_
      simp [steps, Waits, ExchangeCall.timeout]
  | getChannel env name timeout =>
      refine (balanced_blocking_iff _ _ rfl _).trans ?_
      simp [steps, Waits, ExchangeCall.timeout]
  | getProperty env key timeout =>
      refine (balanced_blocking_iff _ _ rfl _).trans ?_
      simp [steps, Waits, ExchangeCall.timeout]
  | requestChannels env timeout configuration =>
      refine (JmsEpicsConfiguration.balanced_exchangeChannels_iff _ _ _).trans ?_
      simp [steps, Waits, ExchangeCall.timeout, JmsEpicsConfiguration.steps]
  | sendOffset env instName p q offsetType timeout callbackOffset =>
      cases callbackOffset with
      | true =>
          refine (balanced_detached_iff _ _ _ _ _).trans ?_
          simp [steps, Waits]
      | false =>
          refine (balanced_blocking_iff _ _ rfl _).trans ?_
          simp [steps, Waits, ExchangeCall.timeout]

/-! ## Runs -/

/-- **A run of calls.** In whatever order the lines of its calls and threads come, its ledger is balanced
    precisely if every call is clean. -/
theorem balanced_run_iff (calls : List ExchangeCall) (lines : Ledger (Nat × ExchangeResource))
    (h : lines.Perm (Ledger.tagged 0 (calls.map ledger))) :
    lines.Balanced ↔ ∀ call ∈ calls, call.Clean := by
  rw [Ledger.Balanced.perm h, Ledger.balanced_tagged_iff, List.forall_mem_map]
  exact forall₂_congr fun call _ => balanced_ledger_iff call

/-- A request for a property, on a broker that takes it. -/
def askProperty (queue : ReplyQueue) : ExchangeCall :=
  getProperty
    { createMapMessage := .ok ()
      setIntProperty := fun _ _ => .ok ()
      setString := fun _ _ => .ok ()
      createTemporaryQueue := .ok ()
      createConsumer := .ok ()
      setCMSReplyTo := .ok ()
      send := .ok ()
      queue := queue } (str "GMP_HOST") 1000

/-- An offset with a callback, on a broker that takes it. -/
def startOffset (queue : ReplyQueue) : ExchangeCall :=
  sendOffset
    { createBytesMessage := .ok ()
      createTemporaryQueue := .ok ()
      createConsumer := .ok ()
      setCMSReplyTo := .ok ()
      setStringProperty := fun _ _ => .ok ()
      send := fun _ => .ok ()
      thread := .ok ()
      queue := queue } (str "dummyInst") Ieee754.zero Ieee754.zero .acq 1000 true

/-- An offset, whose thread waits until the property that is asked for next has timed out. -/
def overlapping : Ledger (Nat × ExchangeResource) :=
  [.acquired (0, .request), .acquired (0, .queue), .acquired (0, .consumer), .acquired (1, .request),
    .acquired (1, .queue), .acquired (1, .consumer), .released (1, .request), .released (1, .consumer),
    .released (1, .queue), .released (0, .consumer), .released (0, .queue)]

theorem balanced_run_iff_overlapping :
    overlapping.Balanced
      ↔ ∀ call ∈ [startOffset (ReplyQueue.answering none), askProperty (ReplyQueue.answering none)],
          call.Clean :=
  balanced_run_iff [startOffset (ReplyQueue.answering none), askProperty (ReplyQueue.answering none)] _
    (by decide)

/-- A property that is answered: its reply stays. When the wait for it is broken off, its request is deleted
    twice. -/
theorem answered_not_balanced :
    ¬ (Ledger.tagged 0 ([askProperty (ReplyQueue.answering
        (some (.textMessage (.ok (str "localhost")))))].map ledger)).Balanced ∧
      (Ledger.tagged 0 ([askProperty
        { receive := fun _ => .error (.cmsException (str "closed")), close := .ok (),
          destroy := .ok () }].map ledger)).count (.released (0, .request)) = 2 := by
  refine ⟨?_, by decide⟩
  rw [Ledger.balanced_tagged_iff]
  decide

end ExchangeCall

end Giapi
