import GiapiGlue.Services.Notices

set_option autoImplicit false

/-! # Runs of notices

The singletons keep their members, so that all messages of a destination come from one endpoint, which stands.
The invariant `Faithful` compares the wire with the answers, call by call. -/

namespace Giapi

/-! ## The members of the singletons -/

namespace Library

variable {library : Library} {service : Service} {ns : List Nat}

theorem members_getInstance (h : library.members service = some ns) (service' : Service)
    (env : EndpointKind → EndpointEnv) :
    (library.getInstance service' env).2.members service = some ns := by
  unfold getInstance
  cases hmembers : library.members service' with
  | some _ => exact h
  | none =>
      have hne : service ≠ service' := by
        rintro rfl
        rw [h] at hmembers
        cases hmembers
      dsimp only
      split
      · exact h
      · rw [members_create, if_neg hne, h]

/-- A singleton that exists keeps its members. -/
theorem members_step (h : library.members service = some ns) (op : LibraryOp) :
    (library.step op).members service = some ns := by
  cases op with
  | getInstance service' env => exact members_getInstance h service' env
  | subscribeCommand env topic activities =>
      have hlater := members_getInstance h .commandUtil env
      simp only [step, subscribeCommand]
      split
      · next heq =>
          rw [heq] at hlater
          exact hlater
      · next heq =>
          rw [heq] at hlater
          split <;> exact hlater
  | subscribeEpicsStatus env authorised name =>
      have hlater := members_getInstance h .geminiUtil env
      simp only [step, subscribeEpicsStatus]
      split
      · next heq =>
          rw [heq] at hlater
          exact hlater
      · next heq =>
          rw [heq] at hlater
          split
          · exact hlater
          · exact hlater
          · split <;> exact hlater
  | unsubscribeEpicsStatus env authorised name =>
      have hlater := members_getInstance h .geminiUtil env
      simp only [step, unsubscribeEpicsStatus]
      split
      · next heq =>
          rw [heq] at hlater
          exact hlater
      · next heq =>
          rw [heq] at hlater
          split_ifs <;> exact hlater
  | connectionLost => exact h

theorem member_eq_some_iff {kind : EndpointKind} {n : Nat} :
    library.member kind = some n ↔ ∃ ns, library.members kind.home = some ns
      ∧ ns[kind.home.members.idxOf kind]? = some n :=
  Option.bind_eq_some_iff

theorem member_step {kind : EndpointKind} {n : Nat} (h : library.member kind = some n) (op : LibraryOp) :
    (library.step op).member kind = some n := by
  obtain ⟨ns, hns, hn⟩ := member_eq_some_iff.1 h
  exact member_eq_some_iff.2 ⟨ns, members_step hns op, hn⟩

variable {leaked : Set Nat}

/-- A singleton that exists has all the members it is created with. -/
theorem Indexed.member_of_created (h : library.Indexed leaked) {kind : EndpointKind}
    (hkind : kind ∈ kind.home.members) (hcreated : library.members kind.home ≠ none) :
    ∃ n, library.member kind = some n := by
  obtain ⟨ns, hns⟩ := Option.ne_none_iff_exists'.1 hcreated
  have hlength : ns.length = kind.home.members.length := by
    have := congrArg List.length (h.members kind.home ns hns)
    simpa using this
  have hlt : kind.home.members.idxOf kind < ns.length := by
    rw [hlength]
    exact List.idxOf_lt_length_of_mem hkind
  exact ⟨ns[kind.home.members.idxOf kind], member_eq_some_iff.2 ⟨ns, hns, List.getElem?_eq_getElem hlt⟩⟩

/-- The member of a kind is of that kind, and its singleton refers to it. -/
theorem Indexed.member_spec (h : library.Indexed leaked) {kind : EndpointKind}
    (hkind : kind ∈ kind.home.members) {n : Nat} (hn : library.member kind = some n) :
    library.Refers kind.home n ∧ library.kind n = some kind := by
  obtain ⟨ns, hns, hidx⟩ := member_eq_some_iff.1 hn
  refine ⟨.member hns (List.mem_of_getElem? hidx), ?_⟩
  have hkinds := congrArg (·[kind.home.members.idxOf kind]?) (h.members kind.home ns hns)
  simp only [List.getElem?_map, hidx, Option.map_some] at hkinds
  have hlt := List.idxOf_lt_length_of_mem hkind
  rw [List.getElem?_eq_getElem hlt, List.getElem_idxOf hlt] at hkinds
  exact Option.some.inj hkinds

end Library

/-! ## Sessions that work -/

structure ObsSession.Works (session : ObsSession) : Prop where
  createMessage : session.createMessage = .ok ()
  setStringProperty : ∀ name value, session.setStringProperty name value = .ok ()
  send : ∀ destination message, session.send destination message = .ok ()

structure LogSession.Works (session : LogSession) : Prop where
  createTextMessage : session.createTextMessage = .ok ()
  setIntProperty : ∀ name value, session.setIntProperty name value = .ok ()
  setText : ∀ text, session.setText text = .ok ()
  send : ∀ destination message, session.send destination message = .ok ()

namespace NoticeCall

/-- No JMS call of the session throws. -/
def Works : NoticeCall → Prop
  | postObservationEvent session _ _ => session.Works
  | postFileEvent session _ => session.Works
  | systemLog session _ _ => session.Works

theorem producer_mem (call : NoticeCall) : call.producer ∈ call.producer.home.members := by
  cases call <;> exact List.mem_of_elem_eq_true rfl

/-- Where the session works, nothing is thrown. -/
theorem post_works {call : NoticeCall} (h : call.Works) (e : Exn) : call.post.1 ≠ .error e := by
  cases call with
  | postObservationEvent session event datalabel =>
      have hworks : session.Works := h
      simp only [post, DataUtilImpl.postObservationEvent, JmsObsEventProducer.postEvent]
      cases ObservationEvent.ofCode event with
      | none =>
          intro h
          cases h
      | some e =>
          have htried : ∃ message, JmsObsEventProducer.trySend session e.eventName datalabel
              = .ok message := by
            simp only [JmsObsEventProducer.trySend, JmsObsEventProducer.fillAndSend,
              ObsSession.setStringPropertyOf, hworks.createMessage, hworks.setStringProperty,
              hworks.send, bind, Except.bind, pure, Except.pure]
            exact ⟨_, rfl⟩
          obtain ⟨message, htried⟩ := htried
          dsimp only
          split_ifs
          · intro h
            cases h
          · rw [htried]
            intro h
            cases h
  | postFileEvent session event =>
      have hworks : session.Works := h
      simp only [post]
      by_cases hevent : event.Named
      · obtain ⟨message, htried⟩ := FileEvent.trySend_works hworks event.type event.filename
          event.datalabel event.hintArgument
        rcases @FileEvent.post_of_named session event hevent with ⟨_, -, hpost⟩ | ⟨e, _, hfails, -⟩
        · rw [hpost]
          intro h
          cases h
        · rw [htried] at hfails
          cases hfails
      · rw [FileEvent.post_of_not_named hevent]
        intro h
        cases h
  | systemLog session level msg =>
      have hworks : session.Works := h
      simp only [post, ServicesUtilImpl.systemLog, JmsLogProducer.postLog]
      cases Level.ofCode level with
      | none =>
          intro h
          cases h
      | some l =>
          have htried : ∃ message, JmsLogProducer.trySend session l.intLevel msg = .ok message := by
            simp only [JmsLogProducer.trySend, JmsLogProducer.fillAndSend, hworks.createTextMessage,
              hworks.setIntProperty, hworks.setText, hworks.send, bind, Except.bind, pure, Except.pure]
            exact ⟨_, rfl⟩
          obtain ⟨message, htried⟩ := htried
          simp only [htried]
          intro h
          cases h

end NoticeCall

/-! ## The invariant -/

namespace NoticeProcess

/-- What the observatory has read. -/
def received (s : NoticeProcess) : List Notice := s.wire.filterMap Transmission.read

structure Faithful (s : NoticeProcess) : Prop where
  /-- What is read is what was told, in order. -/
  wire : s.wire.map Transmission.read = (s.answered.filterMap told).map some
  answers : ∀ p ∈ s.answered, ∀ status, p.2 = .ok (some status) → (status = .ok ↔ p.1.notice.isSome)
  log : List.Sublist (s.received.filterMap Notice.line) s.log
  levels : (∀ p ∈ s.answered, ¬ p.1.Unlevelled) → s.log = s.received.filterMap Notice.line
  senders : ∀ t ∈ s.wire, t.producer ∈ t.producer.home.members
    ∧ s.library.member t.producer = some t.sender

theorem faithful_initial : initial.Faithful :=
  { wire := rfl
    answers := nofun
    log := List.Sublist.refl _
    levels := fun _ => rfl
    senders := nofun }

/-- What is read of messages that can all be read. -/
theorem filterMap_read {transmissions : List Transmission} {notices : List Notice}
    (h : transmissions.map Transmission.read = notices.map some) :
    transmissions.filterMap Transmission.read = notices := by
  have hfilter : transmissions.filterMap Transmission.read
      = (transmissions.map Transmission.read).filterMap id := by
    rw [List.filterMap_map, Function.id_comp]
  rw [hfilter, h, List.filterMap_map]
  exact List.filterMap_some

/-- What one more call adds: messages that tell what the answer lets the caller take as told, and lines for the
    texts among them. -/
structure Adds (call : NoticeCall) (answer : NoticeAnswer) (sent : List Transmission)
    (lines : List LogLine) : Prop where
  wire : sent.map Transmission.read = (told (call, answer)).toList.map some
  answers : ∀ status, answer = .ok (some status) → (status = .ok ↔ call.notice.isSome)
  log : List.Sublist ((told (call, answer)).toList.filterMap Notice.line) lines
  levels : ¬ call.Unlevelled → lines = (told (call, answer)).toList.filterMap Notice.line

variable {s : NoticeProcess}

theorem Faithful.record (h : s.Faithful) {library : Library}
    (hkept : ∀ kind n, s.library.member kind = some n → library.member kind = some n)
    {call : NoticeCall} {answer : NoticeAnswer} {sent : List Transmission} {lines : List LogLine}
    (hadds : Adds call answer sent lines)
    (hsenders : ∀ t ∈ sent, t.producer = call.producer ∧ library.member call.producer = some t.sender) :
    (s.record call answer sent lines library).Faithful := by
  have hreceived : (s.record call answer sent lines library).received
      = s.received ++ (told (call, answer)).toList := by
    rw [received, NoticeProcess.record, List.filterMap_append, filterMap_read hadds.wire]
    rfl
  constructor
  · simp only [NoticeProcess.record, List.map_append, List.filterMap_append, h.wire, hadds.wire]
    rfl
  · intro p hp
    rcases List.mem_append.1 hp with hp | hp
    · exact h.answers p hp
    · obtain rfl := List.mem_singleton.1 hp
      exact hadds.answers
  · rw [hreceived, List.filterMap_append]
    exact h.log.append hadds.log
  · intro hall
    rw [hreceived, List.filterMap_append,
      ← h.levels fun p hp => hall p (List.mem_append_left _ hp),
      ← hadds.levels (hall _ (List.mem_append_right _ (List.mem_singleton_self _)))]
    rfl
  · intro t ht
    rcases List.mem_append.1 ht with ht | ht
    · exact ⟨(h.senders t ht).1, hkept _ _ (h.senders t ht).2⟩
    · obtain ⟨hproducer, hmember⟩ := hsenders t ht
      rw [hproducer]
      exact ⟨call.producer_mem, hmember⟩

/-- A call that throws adds nothing. -/
theorem adds_thrown (call : NoticeCall) (e : Exn) : Adds call (.error e) [] [] :=
  { wire := rfl
    answers := nofun
    log := List.Sublist.refl _
    levels := fun _ => rfl }

theorem adds_posted {call : NoticeCall} {answer : NoticeAnswer} {sent : List NoticeMessage}
    {lines : List LogLine} (h : call.Posted (answer, sent, lines)) (sender : Nat) :
    Adds call answer (sent.map fun message => { sender, destination := call.destination, message })
      lines := by
  cases h with
  | refused hnotice =>
      refine { wire := rfl, answers := fun status hstatus => ?_, log := List.Sublist.refl _,
               levels := fun _ => rfl }
      obtain rfl := Option.some.inj (Except.ok.inj hstatus)
      simp [hnotice]
  | unlevelled hlevel hnotice =>
      have htold : told (call, .ok none) = none := hnotice
      refine { wire := by rw [htold]; rfl, answers := fun status hstatus => ?_, log := ?_,
               levels := fun hnot => absurd hlevel hnot }
      · cases Except.ok.inj hstatus
      · rw [htold]
        exact List.nil_sublist _
  | @sent notice hnotice status hstatus message hread hproducer =>
      have htold : told (call, .ok status) = some notice := by
        cases status with
        | none => exact hnotice
        | some status =>
          cases status with
          | ok => exact hnotice
          | error => exact absurd rfl hstatus
      refine { wire := by simp [htold, hread], answers := fun status' hstatus' => ?_,
               log := ?_, levels := fun _ => ?_ }
      · obtain rfl := Except.ok.inj hstatus'
        cases status' with
        | ok => simp [hnotice]
        | error => exact absurd rfl hstatus
      · rw [htold]
        cases hline : notice.line <;> simp [hline]
      · rw [htold]
        cases hline : notice.line <;> simp [hline]
  | failed hnotice e => exact adds_thrown call e

theorem Faithful.call (h : s.Faithful) (env : EndpointKind → EndpointEnv) (call : NoticeCall) :
    (s.call env call).Faithful := by
  have hkept : ∀ kind n, s.library.member kind = some n →
      (s.library.getInstance call.producer.home env).2.member kind = some n := fun kind n hn =>
    Library.member_step hn (.getInstance call.producer.home env)
  unfold NoticeProcess.call
  split
  · next e library heq =>
      rw [heq] at hkept
      exact h.record hkept (adds_thrown call e) nofun
  · next library heq =>
      rw [heq] at hkept
      split
      · next sender hsender =>
          have hposted := call.post_posted
          unfold NoticeProcess.posted
          generalize call.post = outcome at hposted ⊢
          refine h.record hkept (adds_posted hposted sender) fun t ht => ?_
          obtain ⟨message, hmessage, rfl⟩ := List.mem_map.1 ht
          refine ⟨?_, hsender⟩
          cases hposted with
          | sent hnotice hstatus hread hproducer =>
              obtain rfl := List.mem_singleton.1 hmessage
              exact hproducer sender
          | _ => cases hmessage
      · exact h.record hkept (adds_thrown call _) nofun

theorem step_faithful (h : s.Faithful) (op : NoticeOp) : (step s op).Faithful := by
  cases op with
  | call env call => exact h.call env call
  | other op =>
      exact { h with senders := fun t ht => ⟨(h.senders t ht).1, Library.member_step (h.senders t ht).2 op⟩ }

theorem after_faithful (ops : List NoticeOp) : (after ops).Faithful :=
  Run.invariant faithful_initial (fun _ op h => step_faithful h op) ops

/-! ## The library underneath -/

/-- What an operation is for the library. -/
def libraryOp : NoticeOp → LibraryOp
  | .call env call => .getInstance call.producer.home env
  | .other op => op

theorem library_step (s : NoticeProcess) (op : NoticeOp) :
    (step s op).library = s.library.step (libraryOp op) := by
  cases op with
  | call env call =>
      unfold step NoticeProcess.call libraryOp Library.step
      dsimp only
      split
      · next heq => rw [heq]; rfl
      · next heq =>
          rw [heq]
          split <;> rfl
  | other op => rfl

theorem library_after (ops : List NoticeOp) :
    (after ops).library = Library.after (ops.map libraryOp) := by
  induction ops using List.reverseRecOn with
  | nil => rfl
  | append_singleton ops op ih =>
      rw [after, Run.after_concat, library_step, ih, List.map_append, Library.after, Library.after,
        List.map_singleton, Run.after_concat]

/-- The endpoints that have lost their connection. -/
def lost (ops : List NoticeOp) : Set Nat := Library.lost (ops.map libraryOp)

theorem sound_after (ops : List NoticeOp) : (after ops).library.Sound ∅ (lost ops) := by
  rw [library_after]
  exact Library.after_sound _

/-- A call that meets nothing that fails is told, if there is something to tell. -/
theorem received_call (ops : List NoticeOp) (env : EndpointKind → EndpointEnv) {call : NoticeCall}
    (hworks : call.Works)
    (hinstance : ((after ops).library.getInstance call.producer.home env).1 = .ok ()) :
    ((after ops).call env call).received = (after ops).received ++ call.notice.toList := by
  obtain ⟨hsound, hcreated⟩ := (sound_after ops).getInstance call.producer.home env
  unfold NoticeProcess.call
  generalize (after ops).library.getInstance call.producer.home env = found at *
  obtain ⟨result, library⟩ := found
  obtain rfl : result = .ok () := hinstance
  obtain ⟨sender, hsender⟩ := hsound.member_of_created call.producer_mem (hcreated rfl)
  have hposted := call.post_posted
  have hnone := NoticeCall.post_works hworks
  simp only [hsender, NoticeProcess.posted]
  generalize call.post = outcome at hposted hnone ⊢
  cases hposted with
  | refused hnotice => simp [received, NoticeProcess.record, hnotice]
  | unlevelled hlevel hnotice => simp [received, NoticeProcess.record, hnotice]
  | sent hnotice hstatus hread hproducer => simp [received, NoticeProcess.record, hnotice, hread]
  | failed hnotice e => exact absurd rfl (hnone e)

/-! ## The results -/

/-- **Notices are told as they are answered.** Whatever fails and whatever else the process does: what is read
    on the three destinations is what the calls were answered for, all of it and nothing else, in order; a
    status is `OK` for what says something, and `ERROR` for the rest; texts are in the log of the process
    as they are in that of the observatory, up to the warnings about levels. And a call that meets no
    failure tells what there is to tell. -/
theorem notices_told (ops : List NoticeOp) :
    (after ops).wire.map Transmission.read = ((after ops).answered.filterMap told).map some
    ∧ (∀ call status, (call, .ok (some status)) ∈ (after ops).answered →
        (status = .ok ↔ call.notice.isSome))
    ∧ List.Sublist ((after ops).received.filterMap Notice.line) (after ops).log
    ∧ ((∀ p ∈ (after ops).answered, ¬ p.1.Unlevelled) →
        (after ops).log = (after ops).received.filterMap Notice.line)
    ∧ (∀ env call, NoticeCall.Works call →
        ((after ops).library.getInstance call.producer.home env).1 = .ok () →
        ((after ops).call env call).received = (after ops).received ++ call.notice.toList) := by
  have h := after_faithful ops
  refine ⟨h.wire, fun call status hmem => h.answers _ hmem status rfl, h.log, h.levels,
    fun env call hworks hinstance => received_call ops env hworks hinstance⟩

/-- A session of observation events on which nothing fails. -/
def workingObsSession : ObsSession :=
  { createMessage := .ok ()
    setStringProperty := fun _ _ => .ok ()
    send := fun _ _ => .ok () }

theorem workingObsSession_works : workingObsSession.Works where
  createMessage := rfl
  setStringProperty := fun _ _ => rfl
  send := fun _ _ => rfl

/-- The first event finds no broker for the second member of the singleton; it is posted again, and sent, and so
    is another one, after one without a datalabel. -/
def retriedRun : List NoticeOp :=
  [.call (fun kind => if kind = .fileEventsProducer then
      { Library.workingEnv with createWorker := .error (str "down") } else Library.workingEnv)
      (.postObservationEvent workingObsSession ObservationEvent.obsPrep.code (str "S1")),
    .call (fun _ => Library.workingEnv)
      (.postObservationEvent workingObsSession ObservationEvent.obsPrep.code (str "S1")),
    .call (fun _ => Library.workingEnv)
      (.postObservationEvent workingObsSession ObservationEvent.obsStartAcq.code (str " \t")),
    .call (fun _ => Library.workingEnv)
      (.postObservationEvent workingObsSession ObservationEvent.obsEndAcq.code (str "S1"))]

/-- What was answered is told, and so is one more event. -/
theorem retriedRun_told :
    (after retriedRun).wire.map Transmission.read
        = [some (.observation .obsPrep (str "S1")), some (.observation .obsEndAcq (str "S1"))]
    ∧ ((after retriedRun).call (fun _ => Library.workingEnv)
        (.postObservationEvent workingObsSession ObservationEvent.obsEndDsetWrite.code (str "S1"))).received
      = (after retriedRun).received ++ [.observation .obsEndDsetWrite (str "S1")] := by
  obtain ⟨hwire, -, -, -, htells⟩ := notices_told retriedRun
  exact ⟨hwire, htells _ (.postObservationEvent workingObsSession _ _) workingObsSession_works rfl⟩

/-- Where a producer of notices sends. -/
theorem destination_of_read {t : Transmission} {notice : Notice} (h : t.read = some notice) :
    (t.producer = .obsEventProducer ∧ t.destination = GMPKeys.gmpDataObseventDestination)
    ∨ (t.producer = .fileEventsProducer ∧ t.destination = GMPKeys.gmpDataFileeventDestination)
    ∨ (t.producer = .logProducer ∧ t.destination = GMPKeys.gmpServicesLogDestination) := by
  obtain ⟨sender, destination, message⟩ := t
  cases message with
  | observation message =>
      have hdestination : destination = GMPKeys.gmpDataObseventDestination := by
        by_contra hne
        simp [Transmission.read, hne] at h
      exact Or.inl ⟨rfl, hdestination⟩
  | file message =>
      have hdestination : destination = GMPKeys.gmpDataFileeventDestination := by
        by_contra hne
        simp [Transmission.read, hne] at h
      exact Or.inr (Or.inl ⟨rfl, hdestination⟩)
  | log message =>
      have hdestination : destination = GMPKeys.gmpServicesLogDestination := by
        by_contra hne
        simp [Transmission.read, hne] at h
      exact Or.inr (Or.inr ⟨rfl, hdestination⟩)

/-- Messages of one destination have one producer. -/
theorem producer_of_destination {t t' : Transmission} {notice notice' : Notice}
    (h : t.read = some notice) (h' : t'.read = some notice') (hsame : t.destination = t'.destination) :
    t.producer = t'.producer := by
  have hapart : GMPKeys.gmpDataObseventDestination ≠ GMPKeys.gmpDataFileeventDestination
      ∧ GMPKeys.gmpDataObseventDestination ≠ GMPKeys.gmpServicesLogDestination
      ∧ GMPKeys.gmpDataFileeventDestination ≠ GMPKeys.gmpServicesLogDestination := by decide
  rcases destination_of_read h with ⟨hp, hd⟩ | ⟨hp, hd⟩ | ⟨hp, hd⟩ <;>
    rcases destination_of_read h' with ⟨hp', hd'⟩ | ⟨hp', hd'⟩ | ⟨hp', hd'⟩ <;>
      rw [hd, hd'] at hsame
  all_goals first
    | exact hp.trans hp'.symm
    | simp_all

/-- **One sender a destination.** However often the singletons failed to be created, and whatever was subscribed
    and unsubscribed in between: each message was sent by an endpoint of the kind its destination belongs to,
    which is as its constructor left it, or closed if the connection has been lost since then, and all
    messages of one destination were sent by the same one. -/
theorem one_sender_a_destination (ops : List NoticeOp) {t : Transmission} (ht : t ∈ (after ops).wire) :
    (after ops).library.kind t.sender = some t.producer
    ∧ (t.sender ∉ lost ops → (after ops).library.lines t.sender = t.producer.born)
    ∧ (t.sender ∈ lost ops → (after ops).library.lines t.sender = t.producer.cut)
    ∧ ∀ t' ∈ (after ops).wire, t'.destination = t.destination → t'.sender = t.sender := by
  have h := after_faithful ops
  have hsound := sound_after ops
  have hread : ∀ t ∈ (after ops).wire, ∃ notice, t.read = some notice := by
    intro t ht
    have hmem := List.mem_map_of_mem (f := Transmission.read) ht
    rw [h.wire] at hmem
    obtain ⟨notice, -, hnotice⟩ := List.mem_map.1 hmem
    exact ⟨notice, hnotice.symm⟩
  obtain ⟨hmember, hsender⟩ := h.senders t ht
  obtain ⟨hrefers, hkind⟩ := hsound.member_spec hmember hsender
  have hbegun := hsound.kept.begun _ _ hkind (Or.inl ⟨_, hrefers⟩)
  refine ⟨hkind, hbegun.1, hbegun.2, fun t' ht' hsame => ?_⟩
  obtain ⟨notice, hnotice⟩ := hread t ht
  obtain ⟨notice', hnotice'⟩ := hread t' ht'
  have hproducer := producer_of_destination hnotice' hnotice hsame
  obtain ⟨-, hsender'⟩ := h.senders t' ht'
  rw [hproducer, hsender] at hsender'
  exact (Option.some.inj hsender').symm

/-- The first message that gets out. -/
def firstSent : Transmission :=
  { sender := 2
    destination := GMPKeys.gmpDataObseventDestination
    message := .observation
      { stringProperties := ((∅ : UnorderedMap CxxString CxxString).insert GMPKeys.gmpDataObseventName
          (str "OBS_PREP")).insert GMPKeys.gmpDataObseventFilename (str "S1") } }

/-- All that gets out is sent by the producer of the second attempt, which a loss of the connection closes. -/
theorem retriedRun_sender :
    (after retriedRun).library.lines 2 = EndpointKind.obsEventProducer.born
    ∧ (after (retriedRun ++ [.other .connectionLost])).library.lines 2 = EndpointKind.obsEventProducer.cut
    ∧ ∀ t ∈ (after retriedRun).wire, t.destination = GMPKeys.gmpDataObseventDestination → t.sender = 2 := by
  have hsent : firstSent ∈ (after retriedRun).wire := List.mem_of_getElem? (i := 0) rfl
  have hstill : firstSent ∈ (after (retriedRun ++ [.other .connectionLost])).wire :=
    List.mem_of_getElem? (i := 0) rfl
  have hsender := one_sender_a_destination retriedRun hsent
  refine ⟨hsender.2.1 ?_, (one_sender_a_destination _ hstill).2.2.1 ?_, hsender.2.2.2⟩
  · -- the connection is not lost in the run
    rintro ⟨pre, ⟨rest, heq⟩, -⟩
    have hmem : LibraryOp.connectionLost ∈ retriedRun.map libraryOp := by
      rw [← heq]
      simp
    simp [retriedRun, libraryOp] at hmem
  · exact ⟨retriedRun.map libraryOp, ⟨[], rfl⟩, Option.some_ne_none EndpointKind.obsEventProducer⟩

end NoticeProcess

end Giapi
