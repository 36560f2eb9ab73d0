import GiapiGlue.Posting.Posting

set_option autoImplicit false

/-! # What runs of posts leave behind

Posts and replies of all kinds, with the lines of the threads in any order. Nothing is deleted twice; what stays
is what an exception left that escapes, the reply to a command that could not be sent, and the destination of
a status that could not. -/

namespace Giapi

open Posting

/-- A call that sends something and waits for nothing. -/
inductive PostCall
  | postEvent (session : ObsSession) (event : CInt) (dataLabel : CxxString)
  | sendFileEventMessage (session : EventSession) (type : EventFileType)
      (filename dataLabel hint : CxxString)
  | postLog (session : LogSession) (level : CInt) (logMsg : CxxString)
  | postPcsUpdate (env : PcsEnv) (array : ZernikeArray)
  | postStatus (resources : JmsStatusSender.Resources) (item : StatusItem)
  | postCompletionInfo (resources : CompletionResources) (id : CInt) (response : HandlerResponse)
  | reply (resources : ReplyResources) (message : MapMessage) (response : HandlerResponse)

namespace PostCall

/-- What the call acquires and releases. -/
def ledger : PostCall → Ledger PostResource
  | postEvent session event dataLabel =>
    (JmsObsEventProducer.postingEvent session event dataLabel).ledger
  | sendFileEventMessage session type filename dataLabel hint =>
    (JmsFileEventsProducer.postingFileEvent session type filename dataLabel hint).ledger
  | postLog session level logMsg => (JmsLogProducer.postingLog session level logMsg).ledger
  | postPcsUpdate env array => (JmsPcsUpdater.postingPcsUpdate env array).ledger
  | postStatus resources item => (JmsStatusSender.postingStatus resources item).ledger
  | postCompletionInfo resources id response =>
    (CompletionInfoProducer.postingCompletionInfo resources id response).ledger
  | reply resources message response =>
    (SequenceCommandConsumer.postingReply resources message response).ledger

/-- The creation of the message, and what is left of the `try` block then, if the call gets there. -/
def attempt : PostCall → Option (Except Exn Unit × Except Exn Unit)
  | postEvent session event dataLabel =>
    match ObservationEvent.ofCode event with
    | none => none
    | some event =>
      if StringUtil.isEmpty dataLabel then
        none
      else
        some (session.createMessage,
          (JmsObsEventProducer.fillAndSend session event.eventName dataLabel).map fun _ => ())
  | sendFileEventMessage session type filename dataLabel hint =>
    if StringUtil.isEmpty filename then
      none
    else if StringUtil.isEmpty dataLabel then
      none
    else
      some (session.createMapMessage,
        (JmsFileEventsProducer.fillAndSend session type filename dataLabel hint).map fun _ => ())
  | postLog session level logMsg =>
    match Level.ofCode level with
    | none => none
    | some level => some (session.createTextMessage,
        (JmsLogProducer.fillAndSend session level.intLevel logMsg).map fun _ => ())
  | postPcsUpdate env array =>
    if array.size.toInt ≤ 0 then
      none
    else
      some (env.createBytesMessage, (JmsPcsUpdater.fillAndSend env array).map fun _ => ())
  | postStatus resources item =>
    some (resources.createBytesMessage, (JmsStatusSender.fillAndSend resources item).result)
  | postCompletionInfo resources id response =>
    some (resources.createMapMessage, resources.send id (JmsUtil.makeHandlerResponseMsg response))
  | reply resources message response =>
    match message.replyTo with
    | none => none
    | some destination =>
      some (resources.createProducer destination >>= fun _ => resources.createMapMessage,
        resources.send (JmsUtil.makeHandlerResponseMsg response))

/-- The destination of a status was made, and nothing could be sent there. -/
def Undelivered (resources : JmsStatusSender.Resources) (item : StatusItem) : Prop :=
  ∃ msg, (StatusSerializerVisitor.accept item).run [] = .ok ((), msg)
    ∧ resources.createTopic (GMPKeys.gmpStatusDestinationPrefix ++ item.name) = .ok ()
    ∧ ∃ e, resources.send (GMPKeys.gmpStatusDestinationPrefix ++ item.name) msg = .error e

/-- Once a message is made, no exception escapes, a status is delivered where it has a destination, and a reply
    is sent. -/
def Clean (call : PostCall) : Prop :=
  ∀ rest, call.attempt = some (.ok (), rest) → ¬ Escapes rest ∧
    match call with
    | postStatus resources item => ¬ Undelivered resources item
    | reply _ _ _ => rest = .ok ()
    | _ => True

/-! ## One call -/

theorem not_escapes_map {α : Type} (x : Except Exn α) :
    ¬ Escapes (x.map fun _ => ()) ↔ ¬ Escapes x := by
  cases x with
  | ok a => exact iff_of_true (not_escapes_ok _) (not_escapes_ok _)
  | error e => simp [Escapes, Except.map]

/-- A message that is deleted inside the `try` block. -/
theorem deletedInside_spec {α β : Type} (create : Except Exn Unit) (fillAndSend : Except Exn α)
    (failure : CxxString → Exn) (b : β) :
    let post := deletedInside create fillAndSend failure >>= fun _ => (pure b : Posting β)
    post.ledger.NoneTwice ∧ (post.ledger.Balanced ↔ (create = .ok () → ¬ Escapes fillAndSend)) := by
  dsimp only
  rw [Accounted.ledger_bind_pure]
  rcases ledger_deletedInside create fillAndSend failure with
    ⟨hcreate, h⟩ | ⟨hcreate, hescapes, h⟩ | ⟨hcreate, hescapes, h⟩ <;> rw [h]
  · exact ⟨by decide, iff_of_true (by decide) fun hok => absurd hok hcreate⟩
  · exact ⟨by decide, iff_of_true (by decide) fun _ => hescapes⟩
  · exact ⟨by decide, iff_of_false (by decide) fun hno => hno hcreate hescapes⟩

/-- A post that deletes its message inside the `try` block, if it gets there. -/
theorem tried_spec {call : PostCall} {α β : Type} (create : Except Exn Unit)
    (fillAndSend : Except Exn α) (failure : CxxString → Exn) (b : β)
    (hattempt : call.attempt = some (create, fillAndSend.map fun _ => ()))
    (hledger : call.ledger
      = (deletedInside create fillAndSend failure >>= fun _ => (pure b : Posting β)).ledger)
    (hclean : call.Clean ↔ ∀ rest, call.attempt = some (.ok (), rest) → ¬ Escapes rest) :
    call.ledger.NoneTwice ∧ (call.ledger.Balanced ↔ call.Clean) := by
  obtain ⟨htwice, hbalanced⟩ := deletedInside_spec create fillAndSend failure b
  rw [hledger, hclean, hattempt]
  refine ⟨htwice, hbalanced.trans ⟨fun h rest heq => ?_, fun h hcreate => ?_⟩⟩
  · obtain ⟨hcreate, rfl⟩ := Prod.mk.inj (Option.some.inj heq)
    exact (not_escapes_map _).2 (h hcreate)
  · exact (not_escapes_map _).1 (h _ (by rw [hcreate]))

/-- A post that gets no further than its checks. -/
theorem untried_spec {call : PostCall} (hattempt : call.attempt = none) (hledger : call.ledger = []) :
    call.ledger.NoneTwice ∧ (call.ledger.Balanced ↔ call.Clean) := by
  rw [hledger]
  refine ⟨by decide, iff_of_true (by decide) fun rest h => ?_⟩
  rw [hattempt] at h
  cases h

/-- What a status makes of its destination. -/
theorem ledger_fillAndSend (resources : JmsStatusSender.Resources) (item : StatusItem) :
    (Undelivered resources item ∧
      (JmsStatusSender.fillAndSend resources item).ledger = [.acquired .destination])
    ∨ (¬ Undelivered resources item ∧
      ((JmsStatusSender.fillAndSend resources item).ledger = [] ∨
        (JmsStatusSender.fillAndSend resources item).ledger
          = [.acquired .destination, .released .destination])) := by
  unfold Undelivered JmsStatusSender.fillAndSend
  cases hserialized : (StatusSerializerVisitor.accept item).run [] with
  | error e => exact Or.inr ⟨by simp, Or.inl rfl⟩
  | ok written =>
    obtain ⟨_, msg⟩ := written
    cases htopic : resources.createTopic (GMPKeys.gmpStatusDestinationPrefix ++ item.name) with
    | error e =>
        refine Or.inr ⟨by simp, Or.inl ?_⟩
        simp only [Accounted.lift, bind, htopic]
        rfl
    | ok _ =>
      cases hsend : resources.send (GMPKeys.gmpStatusDestinationPrefix ++ item.name) msg with
      | error e =>
          refine Or.inl ⟨⟨msg, rfl, rfl, e, hsend⟩, ?_⟩
          simp only [Accounted.lift, bind, hsend, htopic]
          rfl
      | ok _ =>
          refine Or.inr ⟨?_, Or.inr ?_⟩
          · rintro ⟨msg', hmsg, -, e, herror⟩
            obtain rfl := (Prod.mk.inj (Except.ok.inj hmsg)).2
            rw [hsend] at herror
            cases herror
          · simp only [Accounted.lift, bind, hsend, htopic]
            rfl

theorem postStatus_spec (resources : JmsStatusSender.Resources) (item : StatusItem) :
    (postStatus resources item).ledger.NoneTwice
    ∧ ((postStatus resources item).ledger.Balanced ↔ (postStatus resources item).Clean) := by
  have hclean : (postStatus resources item).Clean ↔ (resources.createBytesMessage = .ok () →
      ¬ Escapes (JmsStatusSender.fillAndSend resources item).result ∧ ¬ Undelivered resources item) := by
    constructor
    · exact fun h hcreate => h _ (by rw [attempt, hcreate])
    · intro h rest hattempt
      obtain ⟨hcreate, rfl⟩ := Prod.mk.inj (Option.some.inj hattempt)
      exact h hcreate
  rw [hclean]
  simp only [ledger, JmsStatusSender.postingStatus]
  rcases ledger_deletedAfter resources.createBytesMessage (JmsStatusSender.fillAndSend resources item)
      (fun message => .postException (str "Problem posting status : " ++ message)) with
    ⟨hcreate, h⟩ | ⟨hcreate, hescapes, h⟩ | ⟨hcreate, hescapes, h⟩ <;> rw [h]
  · exact ⟨by decide, iff_of_true (by decide) fun hok => absurd hok hcreate⟩
  · rcases ledger_fillAndSend resources item with ⟨hdelivered, hbetween⟩ | ⟨hdelivered, hbetween | hbetween⟩ <;>
      rw [hbetween]
    · exact ⟨by decide, iff_of_false (by decide) fun hno => (hno hcreate).2 hdelivered⟩
    · exact ⟨by decide, iff_of_true (by decide) fun _ => ⟨hescapes, hdelivered⟩⟩
    · exact ⟨by decide, iff_of_true (by decide) fun _ => ⟨hescapes, hdelivered⟩⟩
  · rcases ledger_fillAndSend resources item with ⟨hdelivered, hbetween⟩ | ⟨hdelivered, hbetween | hbetween⟩ <;>
      rw [hbetween] <;>
      exact ⟨by decide, iff_of_false (by decide) fun hno => (hno hcreate).1 hescapes⟩

theorem postCompletionInfo_spec (resources : CompletionResources) (id : CInt)
    (response : HandlerResponse) :
    (postCompletionInfo resources id response).ledger.NoneTwice
    ∧ ((postCompletionInfo resources id response).ledger.Balanced
      ↔ (postCompletionInfo resources id response).Clean) := by
  have hclean : (postCompletionInfo resources id response).Clean
      ↔ (resources.createMapMessage = .ok () →
        ¬ Escapes (resources.send id (JmsUtil.makeHandlerResponseMsg response))) := by
    constructor
    · exact fun h hcreate => (h _ (by rw [attempt, hcreate])).1
    · intro h rest hattempt
      obtain ⟨hcreate, rfl⟩ := Prod.mk.inj (Option.some.inj hattempt)
      exact ⟨h hcreate, trivial⟩
  rw [hclean]
  simp only [ledger, CompletionInfoProducer.postingCompletionInfo]
  rw [Accounted.ledger_bind_pure]
  rcases ledger_deletedAfter resources.createMapMessage
      (Accounted.lift (resources.send id (JmsUtil.makeHandlerResponseMsg response)))
      (fun message => .postException (str "Problem posting completion info : " ++ message)) with
    ⟨hcreate, h⟩ | ⟨hcreate, hescapes, h⟩ | ⟨hcreate, hescapes, h⟩ <;>
      rw [h]
  · exact ⟨by decide, iff_of_true (by decide) fun hok => absurd hok hcreate⟩
  · rw [Accounted.ledger_lift]
    exact ⟨by decide, iff_of_true (by decide) fun _ => hescapes⟩
  · rw [Accounted.ledger_lift]
    exact ⟨by decide, iff_of_false (by decide) fun hno => hno hcreate hescapes⟩

theorem ledger_postingReply (resources : ReplyResources) {message : MapMessage}
    (response : HandlerResponse) {destination : CxxString} (hreplyTo : message.replyTo = some destination) :
    ((resources.createProducer destination >>= fun _ => resources.createMapMessage) ≠ .ok ()
      ∧ (reply resources message response).ledger = [])
    ∨ ((resources.createProducer destination >>= fun _ => resources.createMapMessage) = .ok ()
      ∧ resources.send (JmsUtil.makeHandlerResponseMsg response) = .ok ()
      ∧ (reply resources message response).ledger = [.acquired .message, .released .message])
    ∨ ((resources.createProducer destination >>= fun _ => resources.createMapMessage) = .ok ()
      ∧ resources.send (JmsUtil.makeHandlerResponseMsg response) ≠ .ok ()
      ∧ (reply resources message response).ledger = [.acquired .message]) := by
  simp only [ledger, SequenceCommandConsumer.postingReply, hreplyTo]
  cases resources.createProducer destination with
  | error e => cases e <;> exact Or.inl ⟨nofun, rfl⟩
  | ok _ =>
    cases resources.createMapMessage with
    | error e => cases e <;> exact Or.inl ⟨nofun, rfl⟩
    | ok _ =>
      cases resources.send (JmsUtil.makeHandlerResponseMsg response) with
      | ok _ => exact Or.inr (Or.inl ⟨rfl, rfl, rfl⟩)
      | error e => cases e <;> exact Or.inr (Or.inr ⟨rfl, nofun, rfl⟩)

theorem reply_spec (resources : ReplyResources) (message : MapMessage) (response : HandlerResponse) :
    (reply resources message response).ledger.NoneTwice
    ∧ ((reply resources message response).ledger.Balanced
      ↔ (reply resources message response).Clean) := by
  cases hreplyTo : message.replyTo with
  | none =>
      refine untried_spec ?_ ?_
      · simp only [attempt, hreplyTo]
      · simp only [ledger, SequenceCommandConsumer.postingReply, hreplyTo]
        rfl
  | some destination =>
      have hattempt : (reply resources message response).attempt
          = some (resources.createProducer destination >>= fun _ => resources.createMapMessage,
            resources.send (JmsUtil.makeHandlerResponseMsg response)) := by
        simp only [attempt, hreplyTo]
      unfold Clean
      rw [hattempt]
      rcases ledger_postingReply resources response hreplyTo with
        ⟨hcreate, h⟩ | ⟨hcreate, hsend, h⟩ | ⟨hcreate, hsend, h⟩ <;> rw [h]
      · refine ⟨by decide, iff_of_true (by decide) fun rest heq => ?_⟩
        exact absurd (Prod.mk.inj (Option.some.inj heq)).1 hcreate
      · refine ⟨by decide, iff_of_true (by decide) fun rest heq => ?_⟩
        obtain rfl := (Prod.mk.inj (Option.some.inj heq)).2
        exact ⟨hsend ▸ not_escapes_ok (), hsend⟩
      · refine ⟨by decide, iff_of_false (by decide) fun hclean => ?_⟩
        exact hsend (hclean _ (by rw [hcreate])).2

/-- **One call** deletes nothing twice, and it deletes all it made precisely if it is clean. -/
theorem ledger_spec (call : PostCall) :
    call.ledger.NoneTwice ∧ (call.ledger.Balanced ↔ call.Clean) := by
  cases call with
  | postEvent session event dataLabel =>
      cases hevent : ObservationEvent.ofCode event with
      | none =>
          refine untried_spec ?_ ?_
          · simp only [attempt, hevent]
          · simp only [ledger, JmsObsEventProducer.postingEvent, hevent]
            rfl
      | some e =>
          by_cases hempty : StringUtil.isEmpty dataLabel = true
          · refine untried_spec ?_ ?_
            · simp only [attempt, hevent, if_pos hempty]
            · simp only [ledger, JmsObsEventProducer.postingEvent, hevent, if_pos hempty]
              rfl
          · refine tried_spec session.createMessage
              (JmsObsEventProducer.fillAndSend session e.eventName dataLabel)
              (fun _ => JmsObsEventProducer.failure e.eventName dataLabel) Status.ok ?_ ?_ ?_
            · simp only [attempt, hevent, if_neg hempty]
            · simp only [ledger, JmsObsEventProducer.postingEvent, hevent, if_neg hempty]
            · simp [Clean]
  | sendFileEventMessage session type filename dataLabel hint =>
      by_cases hfilename : StringUtil.isEmpty filename = true
      · refine untried_spec ?_ ?_
        · simp only [attempt, if_pos hfilename]
        · simp only [ledger, JmsFileEventsProducer.postingFileEvent, if_pos hfilename]
          rfl
      · by_cases hempty : StringUtil.isEmpty dataLabel = true
        · refine untried_spec ?_ ?_
          · simp only [attempt, if_neg hfilename, if_pos hempty]
          · simp only [ledger, JmsFileEventsProducer.postingFileEvent, if_neg hfilename, if_pos hempty]
            rfl
        · refine tried_spec session.createMapMessage
            (JmsFileEventsProducer.fillAndSend session type filename dataLabel hint)
            (fun _ => .communicationException (str "Problem sending file event " ++ filename
              ++ str " associated to datalabel: " ++ dataLabel)) Status.ok ?_ ?_ ?_
          · simp only [attempt, if_neg hfilename, if_neg hempty]
          · simp only [ledger, JmsFileEventsProducer.postingFileEvent, if_neg hfilename, if_neg hempty]
          · simp [Clean]
  | postLog session level logMsg =>
      cases hlevel : Level.ofCode level with
      | none =>
          refine untried_spec ?_ ?_
          · simp only [attempt, hlevel]
          · simp only [ledger, JmsLogProducer.postingLog, hlevel]
            rfl
      | some l =>
          refine tried_spec session.createTextMessage
            (JmsLogProducer.fillAndSend session l.intLevel logMsg) (JmsLogProducer.failure logMsg) ()
            ?_ ?_ ?_
          · simp only [attempt, hlevel]
          · simp only [ledger, JmsLogProducer.postingLog, hlevel]
          · simp [Clean]
  | postPcsUpdate env array =>
      by_cases hsize : array.size.toInt ≤ 0
      · refine untried_spec ?_ ?_
        · simp only [attempt, if_pos hsize]
        · simp only [ledger, JmsPcsUpdater.postingPcsUpdate, if_pos hsize]
          rfl
      · refine tried_spec env.createBytesMessage (JmsPcsUpdater.fillAndSend env array)
          (fun message => .communicationException (str "Problem posting updates to the PCS: " ++ message))
          Status.ok ?_ ?_ ?_
        · simp only [attempt, if_neg hsize]
        · simp only [ledger, JmsPcsUpdater.postingPcsUpdate, if_neg hsize]
        · simp [Clean]
  | postStatus resources item => exact postStatus_spec resources item
  | postCompletionInfo resources id response => exact postCompletionInfo_spec resources id response
  | reply resources message response => exact reply_spec resources message response

/-! ## Runs -/

/-- **A run of posts.** In whatever order the lines of its calls come: nothing is deleted twice, and all that was
    made is deleted precisely if every call is clean. -/
theorem posts_delete_once (calls : List PostCall) (lines : Ledger (Nat × PostResource))
    (h : lines.Perm (Ledger.tagged 0 (calls.map ledger))) :
    lines.NoneTwice ∧ (lines.Balanced ↔ ∀ call ∈ calls, call.Clean) := by
  rw [Ledger.NoneTwice.perm h, Ledger.Balanced.perm h, Ledger.balanced_tagged_iff, List.forall_mem_map]
  refine ⟨Ledger.noneTwice_tagged ?_ 0, forall₂_congr fun call _ => (ledger_spec call).2⟩
  exact List.forall_mem_map.2 fun call _ => (ledger_spec call).1

/-- A reply that cannot be sent. -/
def unsentReply : PostCall :=
  reply
    { createProducer := fun _ => .ok ()
      createMapMessage := .ok ()
      send := fun _ => .error (.cmsException (str "closed")) }
    { mapNames := []
      getString := fun _ => .ok []
      getIntProperty := fun _ => .ok 1
      getStringProperty := fun _ => .ok []
      replyTo := some (str "temp-queue://1") }
    (.create .accepted)

/-- The log is told of something while the reply is tried. -/
def besideReply : Ledger (Nat × PostResource) :=
  [.acquired (0, .message), .acquired (1, .message), .released (1, .message)]

/-- Its message is deleted, and that of the reply is not. -/
theorem unsentReply_stays : ¬ besideReply.Balanced := by
  intro hbalanced
  have hclean := (posts_delete_once [unsentReply, postLog
    { createTextMessage := .ok ()
      setIntProperty := fun _ _ => .ok ()
      setText := fun _ => .ok ()
      send := fun _ _ => .ok () } Level.info.code (str "ready")] besideReply (by decide)).2.1 hbalanced
  have hsend := (hclean unsentReply (by simp) _ rfl).2
  cases hsend

end PostCall

end Giapi
