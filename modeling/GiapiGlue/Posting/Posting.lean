import GiapiGlue.Cms.BytesMessage
import GiapiGlue.Commands.CompletionInfo
import GiapiGlue.Data.ObsEvents
import GiapiGlue.Lib.Ledger
import GiapiGlue.Pcs.JmsPcsUpdater
import GiapiGlue.Services.SystemLog
import GiapiGlue.Status.AbstractStatusSender

set_option autoImplicit false

/-! # One-way messages and their ledgers

What is sent without a reply: the message is a plain pointer, made in a `try` block and deleted by hand, at the
end of that block or after it, or else in the handler of `CMSException`. A status has a destination of its own,
another such pointer. -/

namespace Giapi

/-- What a post acquires. -/
inductive PostResource
  | message
  | destination
deriving DecidableEq, Repr

instance : Fintype PostResource :=
  { elems := {.message, .destination}
    complete := fun r => by cases r <;> simp }

/-- A piece of a post. -/
abbrev Posting (α : Type) : Type := Accounted PostResource Exn α

namespace Posting

open Accounted

variable {α : Type}

/-- The handler: the message is null until it has been created. -/
def deleteMessage (ending : Except Exn α) (ledger : Ledger PostResource) : Posting α :=
  if .acquired .message ∈ ledger then do
    release .message
    lift ending
  else
    lift ending

/-- `catch (CMSException &e)`. -/
def catchCms (failure : CxxString → Exn) : Exn → Option (Ledger PostResource → Posting α)
  | .cmsException message => some (deleteMessage (.error (failure message)))
  | _ => none

/-- A message that is made, filled and sent in a `try` block, and deleted at its end. -/
def deletedInside (create : Except Exn Unit) (fillAndSend : Except Exn α)
    (failure : CxxString → Exn) : Posting α :=
  catching (do
    lift create
    acquire .message
    let a ← lift fillAndSend
    release .message
    return a) (catchCms failure)

/-- One that is deleted after the block. -/
def deletedAfter (create : Except Exn Unit) (fillAndSend : Posting α) (failure : CxxString → Exn) :
    Posting α := do
  let a ← catching (do
    lift create
    acquire .message
    fillAndSend) (catchCms failure)
  release .message
  return a

/-- What leaves the handler. -/
def rethrown (failure : CxxString → Exn) : Exn → Exn
  | .cmsException message => failure message
  | e => e

theorem result_catchCms (x : Posting α) (failure : CxxString → Exn) :
    (catching x (catchCms failure)).result = x.result.mapError (rethrown failure) := by
  obtain ⟨ending, before⟩ := x
  cases ending with
  | ok a => rfl
  | error e =>
      cases e with
      | cmsException message =>
          simp only [catching, catchCms, deleteMessage, result]
          split_ifs <;> rfl
      | _ => rfl

theorem result_deletedInside (create : Except Exn Unit) (fillAndSend : Except Exn α)
    (failure : CxxString → Exn) :
    (deletedInside create fillAndSend failure).result
      = (create >>= fun _ => fillAndSend).mapError (rethrown failure) := by
  rw [deletedInside, result_catchCms]
  cases create <;> cases fillAndSend <;> rfl

theorem result_deletedAfter (create : Except Exn Unit) (fillAndSend : Posting α)
    (failure : CxxString → Exn) :
    (deletedAfter create fillAndSend failure).result
      = (create >>= fun _ => fillAndSend.result).mapError (rethrown failure) := by
  rw [deletedAfter, result_bind, result_catchCms]
  obtain ⟨ending, before⟩ := fillAndSend
  cases create with
  | error e => rfl
  | ok _ => cases ending <;> rfl

/-! ## Their ledgers -/

open BytesMessage (IsCms)

/-- The computation ends with an exception the handlers are not for. -/
def Escapes (x : Except Exn α) : Prop := ∃ e, x = .error e ∧ ¬ IsCms e

theorem not_escapes_ok (a : α) : ¬ Escapes (.ok a : Except Exn α) := by
  rintro ⟨e, h, -⟩
  cases h

theorem not_escapes_cms (message : CxxString) :
    ¬ Escapes (.error (.cmsException message) : Except Exn α) := by
  rintro ⟨e, h, hother⟩
  exact hother ⟨message, (Except.error.inj h).symm⟩

/-- A message that was not made needs no deletion; one that was made is deleted, unless an exception escapes. -/
theorem ledger_deletedInside (create : Except Exn Unit) (fillAndSend : Except Exn α)
    (failure : CxxString → Exn) :
    (create ≠ .ok () ∧ (deletedInside create fillAndSend failure).ledger = [])
    ∨ (create = .ok () ∧ ¬ Escapes fillAndSend ∧ (deletedInside create fillAndSend failure).ledger
        = [.acquired .message, .released .message])
    ∨ (create = .ok () ∧ Escapes fillAndSend ∧ (deletedInside create fillAndSend failure).ledger
        = [.acquired .message]) := by
  cases create with
  | error e => cases e <;> exact Or.inl ⟨nofun, rfl⟩
  | ok _ =>
    cases fillAndSend with
    | ok a => exact Or.inr (Or.inl ⟨rfl, not_escapes_ok a, rfl⟩)
    | error e =>
        by_cases he : IsCms e
        · obtain ⟨message, rfl⟩ := he
          exact Or.inr (Or.inl ⟨rfl, not_escapes_cms message, rfl⟩)
        · refine Or.inr (Or.inr ⟨rfl, ⟨e, rfl, he⟩, ?_⟩)
          cases e <;> first | rfl | exact absurd ⟨_, rfl⟩ he

/-- The same, with what is acquired and released in between. -/
theorem ledger_deletedAfter (create : Except Exn Unit) (fillAndSend : Posting α)
    (failure : CxxString → Exn) :
    (create ≠ .ok () ∧ (deletedAfter create fillAndSend failure).ledger = [])
    ∨ (create = .ok () ∧ ¬ Escapes fillAndSend.result ∧ (deletedAfter create fillAndSend failure).ledger
        = .acquired .message :: fillAndSend.ledger ++ [.released .message])
    ∨ (create = .ok () ∧ Escapes fillAndSend.result ∧ (deletedAfter create fillAndSend failure).ledger
        = .acquired .message :: fillAndSend.ledger) := by
  obtain ⟨ending, between⟩ := fillAndSend
  cases create with
  | error e => cases e <;> exact Or.inl ⟨nofun, rfl⟩
  | ok _ =>
    cases ending with
    | ok a => exact Or.inr (Or.inl ⟨rfl, not_escapes_ok a, rfl⟩)
    | error e =>
        by_cases he : IsCms e
        · obtain ⟨message, rfl⟩ := he
          exact Or.inr (Or.inl ⟨rfl, not_escapes_cms message, rfl⟩)
        · refine Or.inr (Or.inr ⟨rfl, ⟨e, rfl, he⟩, ?_⟩)
          cases e <;> first | rfl | exact absurd ⟨_, rfl⟩ he

end Posting

/-! ## The posts

Each with its ledger, and without it the call as it was. -/

open Posting Accounted

namespace JmsObsEventProducer

/-- `postEvent`, with its ledger. -/
def postingEvent (session : ObsSession) (event : CInt) (dataLabel : CxxString) : Posting Status :=
  match ObservationEvent.ofCode event with
  | none => return .error
  | some event =>
    if StringUtil.isEmpty dataLabel then
      return .error
    else do
      let _ ← deletedInside session.createMessage (fillAndSend session event.eventName dataLabel)
        fun _ => failure event.eventName dataLabel
      return .ok

theorem result_postingEvent (session : ObsSession) (event : CInt) (dataLabel : CxxString) :
    (postingEvent session event dataLabel).result = (postEvent session event dataLabel).1 := by
  unfold postingEvent postEvent
  cases ObservationEvent.ofCode event with
  | none => rfl
  | some event =>
      dsimp only
      split_ifs
      · rfl
      · rw [result_bind, result_deletedInside]
        have htry : (session.createMessage >>= fun _ => fillAndSend session event.eventName dataLabel)
            = trySend session event.eventName dataLabel := rfl
        rw [htry]
        cases trySend session event.eventName dataLabel with
        | ok message => rfl
        | error e => cases e <;> rfl

end JmsObsEventProducer

namespace JmsFileEventsProducer

open GMPKeys

/-- The `try` block, once there is a message. -/
def fillAndSend (session : EventSession) (type : EventFileType) (filename dataLabel hint : CxxString) :
    Except Exn EventMessage := do
  let msg : EventMessage := { intProperties := ∅, strings := ∅ }
  let msg ← session.setIntPropertyOf gmpDataFileeventType type.code msg
  let msg ← session.setStringOf gmpDataFileeventFilename filename msg
  let msg ← session.setStringOf gmpDataFileeventDatalabel dataLabel msg
  let msg ← addHint session type hint msg
  session.send gmpDataFileeventDestination msg
  return msg

/-- `sendFileEventMessage`, with its ledger. -/
def postingFileEvent (session : EventSession) (type : EventFileType)
    (filename dataLabel hint : CxxString) : Posting Status :=
  if StringUtil.isEmpty filename then
    return .error
  else if StringUtil.isEmpty dataLabel then
    return .error
  else do
    let _ ← deletedInside session.createMapMessage (fillAndSend session type filename dataLabel hint)
      fun _ => .communicationException (str "Problem sending file event " ++ filename
        ++ str " associated to datalabel: " ++ dataLabel)
    return .ok

theorem result_postingFileEvent (session : EventSession) (type : EventFileType)
    (filename dataLabel hint : CxxString) :
    (postingFileEvent session type filename dataLabel hint).result
      = (sendFileEventMessage session type filename dataLabel hint).1 := by
  unfold postingFileEvent sendFileEventMessage
  split_ifs
  · rfl
  · rfl
  · rw [result_bind, result_deletedInside]
    have htry : (session.createMapMessage >>= fun _ => fillAndSend session type filename dataLabel hint)
        = trySend session type filename dataLabel hint := rfl
    rw [htry]
    cases trySend session type filename dataLabel hint with
    | ok message => rfl
    | error e => cases e <;> rfl

end JmsFileEventsProducer

namespace JmsLogProducer

/-- `postLog`, with its ledger. -/
def postingLog (session : LogSession) (level : CInt) (logMsg : CxxString) : Posting Unit :=
  match Level.ofCode level with
  | none => return ()
  | some level => do
    let _ ← deletedInside session.createTextMessage (fillAndSend session level.intLevel logMsg)
      (failure logMsg)
    return ()

theorem result_postingLog (session : LogSession) (level : CInt) (logMsg : CxxString) :
    (postingLog session level logMsg).result = (postLog session level logMsg).1 := by
  unfold postingLog postLog
  cases Level.ofCode level with
  | none => rfl
  | some level =>
      dsimp only
      rw [result_bind, result_deletedInside]
      have htry : (session.createTextMessage >>= fun _ => fillAndSend session level.intLevel logMsg)
          = trySend session level.intLevel logMsg := rfl
      rw [htry]
      cases trySend session level.intLevel logMsg with
      | ok message => rfl
      | error e => cases e <;> rfl

end JmsLogProducer

namespace JmsPcsUpdater

/-- The `try` block, once there is a message. -/
def fillAndSend (env : PcsEnv) (array : ZernikeArray) : Except Exn (List UInt8) := do
  let ((), body) ← (writeUpdate array).run []
  env.send GMPKeys.gmpPcsUpdateDestination body
  return body

/-- `postPcsUpdate`, with its ledger. -/
def postingPcsUpdate (env : PcsEnv) (array : ZernikeArray) : Posting Status :=
  if array.size.toInt ≤ 0 then
    return .error
  else do
    let _ ← deletedInside env.createBytesMessage (fillAndSend env array)
      fun message => .communicationException (str "Problem posting updates to the PCS: " ++ message)
    return .ok

theorem result_postingPcsUpdate (env : PcsEnv) (array : ZernikeArray) :
    (postingPcsUpdate env array).result = (postPcsUpdate env array).1 := by
  unfold postingPcsUpdate postPcsUpdate
  split_ifs
  · rfl
  · rw [result_bind, result_deletedInside]
    have htry : (env.createBytesMessage >>= fun _ => fillAndSend env array) = trySend env array := rfl
    rw [htry]
    cases trySend env array with
    | ok message => rfl
    | error e => cases e <;> rfl

end JmsPcsUpdater

namespace JmsStatusSender

/-- The `try` block, once there is a message: the destination is deleted in it, and nowhere else. -/
def fillAndSend (resources : Resources) (item : StatusItem) : Posting Unit := do
  let (_, msg) ← lift ((StatusSerializerVisitor.accept item).run [])
  let destination := GMPKeys.gmpStatusDestinationPrefix ++ item.name
  lift (resources.createTopic destination)
  acquire .destination
  lift (resources.send destination msg)
  release .destination

/-- `postStatus`, with its ledger. -/
def postingStatus (resources : Resources) (item : StatusItem) : Posting Unit :=
  deletedAfter resources.createBytesMessage (fillAndSend resources item)
    fun message => .postException (str "Problem posting status : " ++ message)

theorem result_fillAndSend (resources : Resources) (item : StatusItem) :
    (resources.createBytesMessage >>= fun _ => (fillAndSend resources item).result)
      = post resources item := by
  unfold fillAndSend post
  simp only [result_bind]
  cases resources.createBytesMessage with
  | error e => rfl
  | ok _ =>
    cases (StatusSerializerVisitor.accept item).run [] with
    | error e => rfl
    | ok written =>
      obtain ⟨_, msg⟩ := written
      cases resources.createTopic (GMPKeys.gmpStatusDestinationPrefix ++ item.name) with
      | error e => rfl
      | ok _ =>
          change (resources.send (GMPKeys.gmpStatusDestinationPrefix ++ item.name) msg
            >>= fun _ => (.ok () : Except Exn Unit)) = resources.send _ msg
          cases resources.send (GMPKeys.gmpStatusDestinationPrefix ++ item.name) msg <;> rfl

theorem result_postingStatus (resources : Nat → Resources) (n : Nat) (item : StatusItem) :
    (postingStatus (resources n) item).result = postStatus resources n item := by
  unfold postingStatus postStatus
  rw [result_deletedAfter, result_fillAndSend]
  cases post (resources n) item with
  | ok _ => rfl
  | error e => cases e <;> rfl

end JmsStatusSender

namespace CompletionInfoProducer

/-- `postCompletionInfo`, with its ledger. -/
def postingCompletionInfo (resources : CompletionResources) (id : CInt) (response : HandlerResponse) :
    Posting CommandEvent := do
  let entries := JmsUtil.makeHandlerResponseMsg response
  deletedAfter resources.createMapMessage (lift (resources.send id entries))
    fun message => .postException (str "Problem posting completion info : " ++ message)
  return .completed id entries

theorem result_postingCompletionInfo (resources : CompletionResources) (id : CInt)
    (response : HandlerResponse) :
    (postingCompletionInfo resources id response).result = postCompletionInfo resources id response := by
  unfold postingCompletionInfo postCompletionInfo
  dsimp only
  rw [result_bind, result_deletedAfter]
  cases resources.createMapMessage with
  | error e => cases e <;> rfl
  | ok _ =>
    cases hsend : resources.send id (JmsUtil.makeHandlerResponseMsg response) with
    | ok _ => rfl
    | error e => cases e <;> rfl

end CompletionInfoProducer

namespace SequenceCommandConsumer

/-- The reply of `onMessage`, with its ledger. The handler prints the exception and deletes nothing. -/
def postingReply (resources : ReplyResources) (message : MapMessage) (response : HandlerResponse) :
    Posting (List CommandEvent) :=
  match message.replyTo with
  | none => return []
  | some destination =>
    let entries := JmsUtil.makeHandlerResponseMsg response
    catching (do
      lift (resources.createProducer destination)
      lift resources.createMapMessage
      acquire .message
      lift (resources.send entries)
      release .message
      return [.replied destination entries])
      fun
        | .cmsException _ => some fun _ => return []
        | _ => none

/-- An exception that escapes leaves no reply behind either. -/
theorem result_postingReply (resources : ReplyResources) (message : MapMessage)
    (response : HandlerResponse) :
    (postingReply resources message response).result.toOption.getD []
      = reply resources message response := by
  unfold postingReply reply
  cases message.replyTo with
  | none => rfl
  | some destination =>
      dsimp only
      cases resources.createProducer destination with
      | error e => cases e <;> rfl
      | ok _ =>
        cases resources.createMapMessage with
        | error e => cases e <;> rfl
        | ok _ =>
          cases resources.send (JmsUtil.makeHandlerResponseMsg response) with
          | error e => cases e <;> rfl
          | ok _ => rfl

end SequenceCommandConsumer

end Giapi
