import GiapiGlue.Cms.BytesMessage
import GiapiGlue.Commands.JmsCommandUtil

set_option autoImplicit false

/-! # Completion information

A completion information passes the checks of `CommandUtil` or is refused, is encoded as replies are, and
is sent or not. What is sent says everything about it, because a response without error has no text. -/

namespace Giapi

/-- How a `HandlerResponse` is made: its constructors are private. -/
inductive ResponseSource
  | create (response : Response)
  | createError (msg : CxxString)

def ResponseSource.make : ResponseSource → HandlerResponse
  | .create response => .create response
  | .createError msg => .createError msg

/-! ## Reading a message -/

namespace JmsUtil

open GMPKeys

/-- `getString` of a message with these entries: the last one set for the key. -/
def getString (entries : List (CxxString × CxxString)) (key : CxxString) : Option CxxString :=
  entries.reverse.lookup key

/-- The response a name stands for. -/
def ofHandlerResponse (name : CxxString) : Option Response :=
  [Response.accepted, .started, .completed, .error].find?
    (fun response => getHandlerResponse (.create response) = name)

/-- The response in a message, and its text. -/
def readResponse (get : CxxString → Option CxxString) : Option (Response × CxxString) := do
  let name ← get gmpHandlerResponseKey
  let response ← ofHandlerResponse name
  return (response, (get gmpHandlerResponseErrorKey).getD [])

theorem readResponse_makeHandlerResponseMsg (source : ResponseSource) :
    readResponse (getString (makeHandlerResponseMsg source.make))
      = some (source.make.response, source.make.message) := by
  cases source with
  | create response => cases response <;> rfl
  | createError msg => rfl

/-- A message says which response it is and what its text is. -/
theorem makeHandlerResponseMsg_injective {source source' : ResponseSource}
    (h : ∀ key, getString (makeHandlerResponseMsg source.make) key
      = getString (makeHandlerResponseMsg source'.make) key) :
    source.make.response = source'.make.response ∧ source.make.message = source'.make.message := by
  have hread := readResponse_makeHandlerResponseMsg source
  rw [funext h, readResponse_makeHandlerResponseMsg] at hread
  obtain ⟨hresponse, hmessage⟩ := Prod.mk.inj (Option.some.inj hread)
  exact ⟨hresponse.symm, hmessage.symm⟩

end JmsUtil

/-- What completion information is about: the action id, the response and its text. -/
def CommandEvent.completionInfo : CommandEvent → Option (CInt × Response × CxxString)
  | .completed actionId entries =>
    (JmsUtil.readResponse (JmsUtil.getString entries)).map (actionId, ·)
  | _ => none

/-! ## Sending it -/

namespace CompletionInfoProducer

open BytesMessage (IsCms)

/-- The JMS calls throw nothing but `CMSException`s. -/
def ThrowsCms (resources : CompletionResources) : Prop :=
  (∀ e, resources.createMapMessage = .error e → IsCms e) ∧
    ∀ id entries e, resources.send id entries = .error e → IsCms e

/-- The JMS calls that send the response succeed. -/
def Sends (resources : CompletionResources) (id : CInt) (response : HandlerResponse) : Prop :=
  resources.createMapMessage = .ok () ∧
    resources.send id (JmsUtil.makeHandlerResponseMsg response) = .ok ()

/-- The information is sent once, or the producer throws. -/
theorem postCompletionInfo_cases (resources : CompletionResources) (id : CInt)
    (response : HandlerResponse) :
    (Sends resources id response ∧ postCompletionInfo resources id response
        = .ok (.completed id (JmsUtil.makeHandlerResponseMsg response))) ∨
    (¬ Sends resources id response ∧ ∃ e, postCompletionInfo resources id response = .error e) := by
  unfold postCompletionInfo Sends
  dsimp only
  split
  · next hsent =>
      obtain ⟨_, hmessage, hsent⟩ := except_bind_ok hsent
      exact Or.inl ⟨⟨hmessage, hsent⟩, rfl⟩
  · next hfails =>
      refine Or.inr ⟨fun h => ?_, _, rfl⟩
      rw [h.1] at hfails
      exact absurd (hfails.symm.trans h.2) (by simp)
  · next hfails =>
      refine Or.inr ⟨fun h => ?_, _, rfl⟩
      rw [h.1] at hfails
      exact absurd (hfails.symm.trans h.2) (by simp)

theorem postCompletionInfo_error {resources : CompletionResources} (hcms : ThrowsCms resources)
    {id : CInt} {response : HandlerResponse} {e : Exn}
    (h : postCompletionInfo resources id response = .error e) :
    ∃ message, e = .postException message := by
  unfold postCompletionInfo at h
  dsimp only at h
  split at h
  · exact absurd h (by simp)
  · exact ⟨_, (Except.error.inj h).symm⟩
  · next e' hother hfails =>
      have hcms' : IsCms e' := by
        cases hmessage : resources.createMapMessage with
        | error e'' =>
            rw [hmessage] at hfails
            exact Except.error.inj hfails ▸ hcms.1 e'' hmessage
        | ok _ =>
            rw [hmessage] at hfails
            exact hcms.2 _ _ _ hfails
      obtain ⟨message, rfl⟩ := hcms'
      exact absurd rfl (hother message)

end CompletionInfoProducer

namespace CommandUtil

/-- `COMPLETED`, or `ERROR` with a text. -/
def Acceptable (response : HandlerResponse) : Prop :=
  response.response = .completed ∨ response.response = .error ∧ response.message ≠ []

theorem validCompletion_iff (response : HandlerResponse) :
    validCompletion response = true ↔ Acceptable response := by
  unfold validCompletion Acceptable
  cases response.response <;> simp

/-- How completion information is dealt with. -/
inductive Handled (resources : CompletionResources) (id : CInt) (s : CommandService) :
    Option HandlerResponse → Except Exn Status × CommandService → Prop
  | absent : Handled resources id s none (.ok .error, s)
  | refused {response : HandlerResponse} (hrefused : ¬ Acceptable response) :
      Handled resources id s (some response) (.ok .error, s)
  | failed {response : HandlerResponse} (haccepted : Acceptable response)
      (hfails : ¬ CompletionInfoProducer.Sends resources id response) (message : CxxString) :
      Handled resources id s (some response) (.error (.postException message), s)
  | sent {response : HandlerResponse} (haccepted : Acceptable response)
      (hsends : CompletionInfoProducer.Sends resources id response) (event : CommandEvent)
      (hevent : event.completionInfo = some (id, response.response, response.message)) :
      Handled resources id s (some response) (.ok .ok, { s with events := s.events ++ [event] })

theorem Handled.ok_iff {resources : CompletionResources} {id : CInt} {s : CommandService}
    {response : Option HandlerResponse} {outcome : Except Exn Status × CommandService}
    (h : Handled resources id s response outcome) :
    outcome.1 = .ok .ok ↔ ∃ r, response = some r ∧ Acceptable r ∧
      CompletionInfoProducer.Sends resources id r := by
  cases h with
  | absent => simp
  | refused hrefused => simp [hrefused]
  | failed _ hfails message => simp [hfails]
  | sent haccepted hsends event hevent => simp [haccepted, hsends]

/-- Once there is a singleton, the checks and the producer decide. -/
theorem postCompletionInfo_handled {resources : CompletionResources}
    (hcms : CompletionInfoProducer.ThrowsCms resources) {s : CommandService}
    {commandUtil : JmsCommandUtil} (hs : s.commandUtil = some commandUtil) (id : CInt)
    (source : Option ResponseSource) :
    Handled resources id s (source.map ResponseSource.make)
      (postCompletionInfo resources id (source.map ResponseSource.make) s) := by
  cases source with
  | none => exact .absent
  | some source =>
      have hinstance : JmsCommandUtil.getInstance resources.completionInfoProducer s
          = .ok commandUtil := by rw [JmsCommandUtil.getInstance, hs]
      obtain ⟨singleton, consumers, jmsUtil, events⟩ := s
      obtain rfl : singleton = some commandUtil := hs
      rw [Option.map_some, postCompletionInfo]
      by_cases hvalid : validCompletion source.make = true
      · have haccepted := (validCompletion_iff _).1 hvalid
        rw [if_neg (not_not_intro hvalid), hinstance]
        rcases CompletionInfoProducer.postCompletionInfo_cases resources id source.make with
          ⟨hsends, hpost⟩ | ⟨hfails, e, hpost⟩
        · simp only [hpost]
          refine .sent haccepted hsends _ ?_
          rw [CommandEvent.completionInfo, JmsUtil.readResponse_makeHandlerResponseMsg]
          rfl
        · obtain ⟨message, rfl⟩ := CompletionInfoProducer.postCompletionInfo_error hcms hpost
          simp only [hpost]
          exact .failed haccepted hfails message
      · rw [if_pos hvalid]
        exact .refused (fun haccepted => hvalid ((validCompletion_iff _).2 haccepted))

/-- Completion information is accepted if it is acceptable and can be sent; then one message is sent,
    which tells what was posted. Messages of different responses differ. -/
theorem completionInfo_faithful {resources : CompletionResources}
    (hcms : CompletionInfoProducer.ThrowsCms resources) {s : CommandService}
    {commandUtil : JmsCommandUtil} (hs : s.commandUtil = some commandUtil) (id : CInt)
    (source : Option ResponseSource) :
    ((postCompletionInfo resources id (source.map ResponseSource.make) s).1 = .ok .ok ↔
      ∃ response, source.map ResponseSource.make = some response ∧ Acceptable response ∧
        CompletionInfoProducer.Sends resources id response) ∧
    Handled resources id s (source.map ResponseSource.make)
      (postCompletionInfo resources id (source.map ResponseSource.make) s) ∧
    ∀ source source' : ResponseSource,
      (∀ key, JmsUtil.getString (JmsUtil.makeHandlerResponseMsg source.make) key
        = JmsUtil.getString (JmsUtil.makeHandlerResponseMsg source'.make) key) →
      source.make.response = source'.make.response ∧ source.make.message = source'.make.message := by
  have hhandled := postCompletionInfo_handled hcms hs id source
  exact ⟨hhandled.ok_iff, hhandled, fun _ _ => JmsUtil.makeHandlerResponseMsg_injective⟩

/-- A connection on which nothing fails. -/
def workingSession : CompletionResources :=
  { completionInfoProducer := .ok (), createMapMessage := .ok (), send := fun _ _ => .ok () }

/-- An error with a text is posted. -/
theorem focusError_posted :
    (postCompletionInfo workingSession 7 (some (ResponseSource.createError (str "focus")).make)
      { initial with commandUtil := some ⟨∅⟩ }).1 = .ok .ok := by
  have hcms : CompletionInfoProducer.ThrowsCms workingSession :=
    ⟨fun _ h => absurd h (by simp [workingSession]), fun _ _ _ h => absurd h (by simp [workingSession])⟩
  have hposted := @completionInfo_faithful workingSession hcms
    { initial with commandUtil := some ⟨∅⟩ } ⟨∅⟩ rfl 7 (some (.createError (str "focus")))
  exact hposted.1.2 ⟨_, rfl, Or.inr ⟨rfl, by decide⟩, rfl, rfl⟩

end CommandUtil

end Giapi
