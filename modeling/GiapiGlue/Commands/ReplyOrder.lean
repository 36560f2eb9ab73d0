import GiapiGlue.Commands.CompletionInfo
import GiapiGlue.Lib.Precedence

set_option autoImplicit false

/-! # Replies and completion information

`onMessage` calls the handler and then replies, in the thread of its consumer. Completion information is
posted by threads of the instrument, on another session, and nothing makes them wait for the reply. -/

namespace Giapi

/-- A message that was sent, with the action id it is about. A reply does not carry it itself. -/
structure WireMessage where
  actionId : CInt
  event : CommandEvent
deriving DecidableEq

/-- A command whose handler has returned. -/
structure HandledCommand where
  consumer : Ptr
  message : MapMessage
  actionId : CInt
  response : HandlerResponse

/-- The threads between two steps: the commands that are still to be replied to, those that were, each
    with the session as its reply met it, and what was sent. -/
structure CommandThreads where
  service : CommandService
  waiting : List HandledCommand
  replied : List (HandledCommand × ReplyResources)
  wire : List WireMessage

/-- A step of a thread. -/
inductive ThreadOp
  /-- The consumer at `p` gets a message and its handler returns. -/
  | handled (handle : Invocation → HandlerResponse) (p : Ptr) (message : MapMessage)
  /-- The consumer at `p` sends its reply. -/
  | reply (resources : ReplyResources) (p : Ptr)
  /-- A thread of the instrument posts completion information. -/
  | postCompletionInfo (resources : CompletionResources) (id : CInt)
      (response : Option HandlerResponse)

namespace CommandThreads

def initial (service : CommandService) : CommandThreads :=
  { service, waiting := [], replied := [], wire := [] }

/-- A handler has returned `STARTED` for the id. -/
def started (id : CInt) (s : CommandThreads) : Bool :=
  (s.waiting ++ s.replied.map Prod.fst).any
    (fun command => command.actionId = id && command.response.response = .started)

/-- `onMessage` up to the return of the handler. A consumer takes one message at a time. -/
def handled (handle : Invocation → HandlerResponse) (p : Ptr) (message : MapMessage)
    (s : CommandThreads) : CommandThreads :=
  if s.waiting.any (·.consumer = p) then
    s
  else
    match s.service.consumers[p]? with
    | none => s
    | some consumer =>
      let (call, jmsUtil) := consumer.invocation message s.service.jmsUtil
      let s := { s with service := { s.service with jmsUtil } }
      match call with
      | none => s
      | some call => { s with waiting := s.waiting ++
          [{ consumer := p, message, actionId := call.actionId, response := handle call }] }

/-- The rest of `onMessage`. -/
def reply (resources : ReplyResources) (p : Ptr) (s : CommandThreads) : CommandThreads :=
  match s.waiting.find? (·.consumer = p) with
  | none => s
  | some command =>
    { s with
      waiting := s.waiting.filter (·.consumer ≠ p)
      replied := s.replied ++ [(command, resources)]
      wire := s.wire ++
        (SequenceCommandConsumer.reply resources command.message command.response).map
          (WireMessage.mk command.actionId) }

/-- `CommandUtil::postCompletionInfo`, once a handler has returned `STARTED` for the id. -/
def postCompletionInfo (resources : CompletionResources) (id : CInt)
    (response : Option HandlerResponse) (s : CommandThreads) : CommandThreads :=
  if s.started id then
    let (_, service) :=
      CommandUtil.postCompletionInfo resources id response { s.service with events := [] }
    { s with
      service
      wire := s.wire ++ service.events.map (WireMessage.mk id) }
  else
    s

def step (s : CommandThreads) : ThreadOp → CommandThreads
  | .handled handle p message => s.handled handle p message
  | .reply resources p => s.reply resources p
  | .postCompletionInfo resources id response => s.postCompletionInfo resources id response

/-- A consumer that replies right after its handler has returned does what `onMessage` does. -/
theorem reply_handled (handle : Invocation → HandlerResponse) (resources : ReplyResources) {p : Ptr}
    {message : MapMessage} {s : CommandThreads} {consumer : SequenceCommandConsumer}
    {call : Invocation} (hp : s.service.consumers[p]? = some consumer)
    (hidle : ∀ command ∈ s.waiting, command.consumer ≠ p)
    (hcall : (consumer.invocation message s.service.jmsUtil).1 = some call) :
    ∃ replies, (SequenceCommandConsumer.onMessage handle resources consumer message
        s.service.jmsUtil).1 = .handled call :: replies ∧
      ((s.handled handle p message).reply resources p).wire
        = s.wire ++ replies.map (WireMessage.mk call.actionId) := by
  refine ⟨SequenceCommandConsumer.reply resources message (handle call), ?_, ?_⟩
  · rw [SequenceCommandConsumer.onMessage_eq, hcall]
  · have hany : s.waiting.any (·.consumer = p) = false := by
      rw [List.any_eq_false]
      intro command hcommand
      simpa using hidle command hcommand
    have hfind : s.waiting.find? (·.consumer = p) = none := by
      rw [List.find?_eq_none]
      intro command hcommand
      simpa using hidle command hcommand
    unfold handled reply
    simp [hany, hp, hcall, hfind]

end CommandThreads

/-! ## Order on the wire -/

/-- Completion information. -/
def WireMessage.Completes (m : WireMessage) : Prop :=
  ∃ entries, m.event = .completed m.actionId entries

/-- The reply `STARTED` to a command with the id. -/
def WireMessage.RepliesStarted (id : CInt) (m : WireMessage) : Prop :=
  m.actionId = id ∧ ∃ destination, m.event
    = .replied destination (JmsUtil.makeHandlerResponseMsg (.create .started))

namespace CommandThreads

/-- Completion information comes after the reply `STARTED` for its action id. -/
def StartedFirst (s : CommandThreads) : Prop :=
  Trace.Preceded WireMessage.Completes (fun m c => c.RepliesStarted m.actionId) s.wire

/-- The call sends something: the response is valid, and no call underneath fails. -/
def Posts (resources : CompletionResources) (id : CInt) (response : Option HandlerResponse)
    (service : CommandService) : Prop :=
  ∃ r commandUtil, response = some r ∧ CommandUtil.validCompletion r = true ∧
    JmsCommandUtil.getInstance resources.completionInfoProducer service = .ok commandUtil ∧
    resources.createMapMessage = .ok () ∧
    resources.send id (JmsUtil.makeHandlerResponseMsg r) = .ok ()

/-- The thread of a consumer is past the reply to a command with the id, whose handler returned
    `STARTED`, and had somewhere to send it and a session that works. -/
def RepliedStarted (id : CInt) (s : CommandThreads) : Prop :=
  ∃ command resources, (command, resources) ∈ s.replied ∧ command.actionId = id ∧
    command.response.response = .started ∧
    ∃ destination,
      SequenceCommandConsumer.Answers resources command.message command.response destination

/-- The step does not overtake the consumer. -/
def WaitsForReply (s : CommandThreads) : ThreadOp → Prop
  | .postCompletionInfo resources id response =>
    s.started id = true → Posts resources id response s.service → s.RepliedStarted id
  | _ => True

/-! ## What a step sends -/

theorem postCompletionInfo_cases (resources : CompletionResources) (id : CInt)
    (response : Option HandlerResponse) (service : CommandService) :
    (Posts resources id response service ∧ ∃ entries,
      (CommandUtil.postCompletionInfo resources id response { service with events := [] }).2.events
        = [.completed id entries]) ∨
    (¬ Posts resources id response service ∧
      (CommandUtil.postCompletionInfo resources id response { service with events := [] }).2.events
        = []) := by
  unfold CommandUtil.postCompletionInfo
  split
  · exact Or.inr ⟨fun h => by simp [Posts] at h, rfl⟩
  · next r =>
      split
      · next hinvalid =>
          refine Or.inr ⟨fun h => ?_, rfl⟩
          obtain ⟨r', _, hr, hvalid, _⟩ := h
          obtain rfl : r = r' := Option.some.inj hr
          exact hinvalid hvalid
      · next hvalid =>
          have hsame : JmsCommandUtil.getInstance resources.completionInfoProducer
              { service with events := [] }
                = JmsCommandUtil.getInstance resources.completionInfoProducer service := rfl
          split
          · next hinstance =>
              rw [hsame] at hinstance
              exact Or.inr ⟨fun h => by simp [Posts, hinstance] at h, rfl⟩
          · next commandUtil hinstance =>
              rw [hsame] at hinstance
              rcases CompletionInfoProducer.postCompletionInfo_cases resources id r with
                ⟨⟨hmessage, hsend⟩, hpost⟩ | ⟨hfails, e, hpost⟩
              · simp only [hpost]
                exact Or.inl ⟨⟨r, commandUtil, rfl, not_not.1 hvalid, hinstance, hmessage, hsend⟩, _,
                  rfl⟩
              · simp only [hpost]
                refine Or.inr ⟨fun h => ?_, trivial⟩
                obtain ⟨r', _, hr, _, _, hmessage, hsend⟩ := h
                obtain rfl : r = r' := Option.some.inj hr
                exact hfails ⟨hmessage, hsend⟩

/-- The reply of a command is the reply `STARTED` to its id if that is what the handler returned and it
    can be sent. -/
theorem repliesStarted_reply_iff (resources : ReplyResources) (command : HandledCommand) (id : CInt) :
    (∃ m ∈ (SequenceCommandConsumer.reply resources command.message command.response).map
        (WireMessage.mk command.actionId), m.RepliesStarted id) ↔
      command.actionId = id ∧ command.response.response = .started ∧ ∃ destination,
        SequenceCommandConsumer.Answers resources command.message command.response destination := by
  rcases SequenceCommandConsumer.reply_cases resources command.message command.response with
    ⟨destination, hanswers, hreply⟩ | ⟨hnone, hreply⟩
  · rw [hreply]
    constructor
    · intro h
      obtain ⟨m, hm, hid, other, hevent⟩ := h
      rw [List.map_singleton, List.mem_singleton] at hm
      rw [hm] at hid hevent
      exact ⟨hid, JmsUtil.makeHandlerResponseMsg_inj (CommandEvent.replied.inj hevent).2,
        destination, hanswers⟩
    · intro h
      obtain ⟨hid, hstarted, -⟩ := h
      refine ⟨_, List.mem_singleton_self _, hid, destination, ?_⟩
      have hentries : JmsUtil.makeHandlerResponseMsg command.response
          = JmsUtil.makeHandlerResponseMsg (.create .started) := by
        simp [JmsUtil.makeHandlerResponseMsg, JmsUtil.getHandlerResponse, hstarted,
          HandlerResponse.create]
      exact congrArg (CommandEvent.replied destination) hentries
  · rw [hreply]
    refine iff_of_false (fun h => ?_) (fun h => ?_)
    · obtain ⟨m, hm, -⟩ := h
      exact absurd hm List.not_mem_nil
    · obtain ⟨-, -, destination, hanswers⟩ := h
      exact hnone destination hanswers

/-- All a step can do to what was sent. -/
inductive Sends (s : CommandThreads) (op : ThreadOp) : CommandThreads → Prop
  | nothing {s' : CommandThreads} (hwire : s'.wire = s.wire) (hreplied : s'.replied = s.replied)
      (hwaits : s.WaitsForReply op) : Sends s op s'
  | replies {s' : CommandThreads} (command : HandledCommand) (resources : ReplyResources)
      (hwire : s'.wire = s.wire ++
        (SequenceCommandConsumer.reply resources command.message command.response).map
          (WireMessage.mk command.actionId))
      (hreplied : s'.replied = s.replied ++ [(command, resources)])
      (hwaits : s.WaitsForReply op) : Sends s op s'
  | completes {s' : CommandThreads} (id : CInt) (entries : List (CxxString × CxxString))
      (hwire : s'.wire = s.wire ++ [⟨id, .completed id entries⟩]) (hreplied : s'.replied = s.replied)
      (hwaits : s.WaitsForReply op ↔ s.RepliedStarted id) : Sends s op s'

theorem step_sends (s : CommandThreads) (op : ThreadOp) : Sends s op (step s op) := by
  cases op with
  | handled handle p message =>
      have hsame : (s.handled handle p message).wire = s.wire ∧
          (s.handled handle p message).replied = s.replied := by
        unfold handled
        split
        · exact ⟨rfl, rfl⟩
        · split
          · exact ⟨rfl, rfl⟩
          · dsimp only
            split <;> exact ⟨rfl, rfl⟩
      exact .nothing hsame.1 hsame.2 trivial
  | reply resources p =>
      unfold step reply
      dsimp only
      split
      · exact .nothing rfl rfl trivial
      · next command _ => exact .replies command resources rfl rfl trivial
  | postCompletionInfo resources id response =>
      unfold step postCompletionInfo
      dsimp only
      by_cases hstarted : s.started id = true
      · rw [if_pos hstarted]
        rcases postCompletionInfo_cases resources id response s.service with
          ⟨hposts, entries, hevents⟩ | ⟨hposts, hevents⟩
        · refine .completes id entries ?_ rfl
            (by simp only [WaitsForReply, hstarted, hposts, forall_const])
          dsimp only
          rw [hevents]
          rfl
        · refine .nothing ?_ rfl (fun _ h => absurd h hposts)
          dsimp only
          rw [hevents]
          exact List.append_nil _
      · -- nobody has been told to post for the id yet
        rw [if_neg hstarted]
        exact .nothing rfl rfl (fun h => absurd h hstarted)

/-! ## Runs -/

/-- The replies `STARTED` on the wire are those the consumers are past. -/
def Accounted (s : CommandThreads) : Prop :=
  ∀ id, (∃ m ∈ s.wire, m.RepliesStarted id) ↔ s.RepliedStarted id

theorem repliedStarted_congr {s s' : CommandThreads} (h : s'.replied = s.replied) (id : CInt) :
    s'.RepliedStarted id ↔ s.RepliedStarted id := by
  unfold RepliedStarted
  rw [h]

theorem step_accounted {s : CommandThreads} (h : s.Accounted) (op : ThreadOp) :
    (step s op).Accounted := by
  have hsends := step_sends s op
  generalize step s op = s' at hsends
  intro id
  cases hsends with
  | nothing hwire hreplied _ => rw [hwire, repliedStarted_congr hreplied, h id]
  | replies command resources hwire hreplied _ =>
      have hone := repliesStarted_reply_iff resources command id
      have hsplit : s'.RepliedStarted id ↔ s.RepliedStarted id ∨
          (command.actionId = id ∧ command.response.response = .started ∧ ∃ destination,
            SequenceCommandConsumer.Answers resources command.message command.response
              destination) := by
        unfold RepliedStarted
        rw [hreplied]
        simp only [List.mem_append, List.mem_singleton, Prod.mk.injEq, or_and_right, exists_or]
        refine or_congr_right ⟨fun hlast => ?_, fun hlast => ⟨command, resources, ⟨rfl, rfl⟩, hlast⟩⟩
        obtain ⟨_, _, ⟨rfl, rfl⟩, hlast⟩ := hlast
        exact hlast
      rw [hsplit, ← hone, ← h id, hwire]
      simp only [List.mem_append, or_and_right, exists_or]
  | completes id' entries hwire hreplied _ =>
      -- completion information is no reply
      rw [hwire, repliedStarted_congr hreplied, ← h id]
      simp only [List.mem_append, List.mem_singleton, or_and_right, exists_or]
      refine or_iff_left fun hlast => ?_
      obtain ⟨m, rfl, -, destination, hevent⟩ := hlast
      exact absurd hevent (by simp)

theorem startedFirst_step_iff {s : CommandThreads} (haccounted : s.Accounted) (h : s.StartedFirst)
    (op : ThreadOp) : (step s op).StartedFirst ↔ s.WaitsForReply op := by
  have hsends := step_sends s op
  generalize step s op = s' at hsends
  unfold StartedFirst at h ⊢
  cases hsends with
  | nothing hwire _ hwaits =>
      rw [hwire]
      exact iff_of_true h hwaits
  | replies command resources hwire _ hwaits =>
      -- a reply is never too early
      rw [hwire, Trace.preceded_append_of_not_effect]
      · exact iff_of_true h hwaits
      · intro m hm hcompletes
        obtain ⟨event, hevent, rfl⟩ := List.mem_map.1 hm
        obtain ⟨entries, hentries⟩ := hcompletes
        rcases SequenceCommandConsumer.reply_cases resources command.message command.response with
          ⟨destination, -, hreply⟩ | ⟨-, hreply⟩
        · rw [hreply, List.mem_singleton] at hevent
          rw [hevent] at hentries
          exact absurd hentries (by simp)
        · rw [hreply] at hevent
          exact absurd hevent List.not_mem_nil
  | completes id entries hwire _ hwaits =>
      -- the information is in order if the reply is on the wire, that is, if a consumer is past it
      rw [hwire, Trace.preceded_concat, and_iff_right h, hwaits, ← haccounted id]
      exact forall_prop_of_true ⟨entries, rfl⟩

/-- **Replies first.** Whatever the interleaving, completion information always comes after the reply
    `STARTED` for its action id, precisely if no thread posts any before the consumer has replied. -/
theorem startedFirst_iff_waitsForReply (service : CommandService) (ops : List ThreadOp) :
    Run.Always step StartedFirst (initial service) ops ↔
      Run.Guarded step WaitsForReply (initial service) ops := by
  refine Run.always_iff_guarded (J := Accounted) ?_ Trace.preceded_nil
    (fun s op haccounted h => startedFirst_step_iff haccounted h op) ops
  refine Run.invariant (fun id => ?_) (fun s op h => step_accounted h op)
  simp [initial, RepliedStarted]

/-- One consumer, for `PARK`. -/
def parkService : CommandService :=
  CommandUtil.after [.subscribeSequenceCommand (workingBroker (fun _ => [])) .park
    .setPresetStartCancel (some 3)]

/-- `PRESET` of the command 7, with somewhere to reply to. -/
def presetMessage : MapMessage :=
  { mapNames := []
    getString := fun _ => .ok []
    getIntProperty := fun _ => .ok 7
    getStringProperty := fun _ => .ok GMPKeys.gmpActivityPreset
    replyTo := some (str "replies") }

/-- The handler starts a thread, which is done before the consumer has replied. -/
def overtaken : List ThreadOp :=
  [.handled (fun _ => .create .started) 0 presetMessage,
   .postCompletionInfo
    { completionInfoProducer := .ok (), createMapMessage := .ok (), send := fun _ _ => .ok () } 7
    (some (.create .completed)),
   .reply { createProducer := fun _ => .ok (), createMapMessage := .ok (), send := fun _ => .ok () } 0]

/-- Everything is sent, in the wrong order. -/
theorem completed_before_started :
    (Run.after step (initial parkService) overtaken).wire
      = [⟨7, .completed 7 (JmsUtil.makeHandlerResponseMsg (.create .completed))⟩,
         ⟨7, .replied (str "replies") (JmsUtil.makeHandlerResponseMsg (.create .started))⟩] ∧
    ¬ Run.Always step StartedFirst (initial parkService) overtaken := by
  have hwire : (Run.after step (initial parkService) overtaken).wire
      = [⟨7, .completed 7 (JmsUtil.makeHandlerResponseMsg (.create .completed))⟩,
         ⟨7, .replied (str "replies") (JmsUtil.makeHandlerResponseMsg (.create .started))⟩] := by
    decide
  refine ⟨hwire, fun h => ?_⟩
  have hfirst := h.final
  unfold StartedFirst at hfirst
  rw [hwire] at hfirst
  obtain ⟨c, hc, -⟩ := hfirst [] _ (List.prefix_append [_] [_]) ⟨_, rfl⟩
  exact absurd hc List.not_mem_nil

end CommandThreads

end Giapi
