import GiapiGlue.Gmp.GMPKeys
import GiapiGlue.Lib.UnorderedMap

set_option autoImplicit false

/-! # Translations between messages and GIAPI types

`JmsUtil`: topics, activities and handler responses. The dictionary of activities is the only one that
changes: reading it with a key it does not hold inserts the key. -/

namespace Giapi

/-- `HandlerResponse::Response`. -/
inductive Response
  | accepted
  | started
  | completed
  | error
deriving DecidableEq, Repr

/-- A `HandlerResponse`: the message is empty unless it was made by `createError`. -/
structure HandlerResponse where
  response : Response
  message : CxxString
deriving DecidableEq, Repr

namespace HandlerResponse

def create (response : Response) : HandlerResponse := { response, message := [] }

def createError (msg : CxxString) : HandlerResponse := { response := .error, message := msg }

end HandlerResponse

/-- The integer an enumerator of `command::Activity` converts to. -/
def Activity.toInt : Activity → CInt
  | .preset => 0
  | .start => 1
  | .presetStart => 2
  | .cancel => 3

/-- The cast `(command::Activity)`. The dictionary holds no other value. -/
def Activity.ofInt (value : CInt) : Activity :=
  if value = 1 then .start
  else if value = 2 then .presetStart
  else if value = 3 then .cancel
  else .preset

/-- The dictionaries of the singleton. Those for sequence commands and responses are complete and
    read with the keys they hold, so they stay what `getTopic` and `getHandlerResponse` say. -/
structure JmsUtil where
  activityMap : UnorderedMap CxxString CInt

namespace JmsUtil

open GMPKeys

/-- The name an activity has in a message. -/
def activityName : Activity → CxxString
  | .preset => gmpActivityPreset
  | .start => gmpActivityStart
  | .presetStart => gmpActivityPresetStart
  | .cancel => gmpActivityCancel

/-- The constructor. -/
def initial : JmsUtil :=
  { activityMap := (((AList.insert gmpActivityPreset Activity.preset.toInt
      (∅ : UnorderedMap CxxString CInt)).insert gmpActivityStart Activity.start.toInt).insert
      gmpActivityPresetStart Activity.presetStart.toInt).insert
      gmpActivityCancel Activity.cancel.toInt }

/-- `getTopic(id)`. -/
def getTopic (id : SequenceCommand) : CxxString := gmpSequenceCommand id

/-- `getTopic(prefix)`. -/
def getApplyTopic (applyPrefix : CxxString) : CxxString :=
  gmpSequenceCommand .apply ++ gmpSeparator ++ applyPrefix

/-- `upper`: `std::toupper` of a byte, in the C locale. -/
def upper (c : UInt8) : UInt8 := if 0x61 ≤ c ∧ c ≤ 0x7A then c - 0x20 else c

def getEpicsChannelTopic (channelName : CxxString) : CxxString :=
  gmpEpicsTopicPrefix ++ channelName.map upper

/-- `getActivity`: an unknown name is inserted with 0, which is `PRESET`. -/
def getActivity (id : CxxString) (jmsUtil : JmsUtil) : Activity × JmsUtil :=
  let (value, activityMap) := jmsUtil.activityMap.subscript 0 id
  (Activity.ofInt value, { activityMap })

def getHandlerResponse (response : HandlerResponse) : CxxString :=
  match response.response with
  | .accepted => gmpHandlerResponseAccepted
  | .started => gmpHandlerResponseStarted
  | .completed => gmpHandlerResponseCompleted
  | .error => gmpHandlerResponseError

/-- `makeHandlerResponseMsg`: the entries it sets, in order. -/
def makeHandlerResponseMsg (response : HandlerResponse) : List (CxxString × CxxString) :=
  (gmpHandlerResponseKey, getHandlerResponse response) ::
    (if response.response = .error then [(gmpHandlerResponseErrorKey, response.message)] else [])

/-! ## The dictionary of activities -/

/-- The four names mean what they meant at the start. -/
def Faithful (jmsUtil : JmsUtil) : Prop :=
  ∀ activity, jmsUtil.activityMap.lookup (activityName activity) = some activity.toInt

theorem initial_faithful : initial.Faithful := by
  intro activity
  cases activity <;> rfl

theorem getActivity_faithful {jmsUtil : JmsUtil} (h : jmsUtil.Faithful) (id : CxxString) :
    (jmsUtil.getActivity id).2.Faithful :=
  fun activity => UnorderedMap.lookup_subscript_of_some jmsUtil.activityMap 0 id (h activity)

theorem ofInt_toInt (activity : Activity) : Activity.ofInt activity.toInt = activity := by
  cases activity <;> rfl

/-- The name of an activity is read back as that activity. -/
theorem getActivity_activityName {jmsUtil : JmsUtil} (h : jmsUtil.Faithful) (activity : Activity) :
    (jmsUtil.getActivity (activityName activity)).1 = activity := by
  have hvalue := UnorderedMap.subscript_fst jmsUtil.activityMap 0 (activityName activity)
  rw [h activity, Option.getD_some] at hvalue
  show Activity.ofInt (jmsUtil.activityMap.subscript 0 (activityName activity)).1 = activity
  rw [hvalue, ofInt_toInt]

/-- Every name means what it meant at the start. A name that is not known is given the value it is read
    as anyway. -/
def Settled (jmsUtil : JmsUtil) : Prop :=
  ∀ id, (jmsUtil.activityMap.lookup id).getD 0 = (initial.activityMap.lookup id).getD 0

theorem getActivity_settled {jmsUtil : JmsUtil} (h : jmsUtil.Settled) (id : CxxString) :
    (jmsUtil.getActivity id).2.Settled :=
  fun name => (UnorderedMap.lookup_subscript_getD jmsUtil.activityMap 0 id name).trans (h name)

theorem getActivity_eq {jmsUtil : JmsUtil} (h : jmsUtil.Settled) (id : CxxString) :
    (jmsUtil.getActivity id).1 = (initial.getActivity id).1 := by
  have hvalue : (jmsUtil.activityMap.subscript 0 id).1 = (initial.activityMap.subscript 0 id).1 := by
    rw [UnorderedMap.subscript_fst, UnorderedMap.subscript_fst, h id]
  exact congrArg Activity.ofInt hvalue

theorem getActivity_unknown {id : CxxString} (h : ∀ activity, id ≠ activityName activity) :
    (initial.getActivity id).1 = .preset := by
  have hlookup : initial.activityMap.lookup id = none := by
    have hpreset : id ≠ gmpActivityPreset := h .preset
    have hstart : id ≠ gmpActivityStart := h .start
    have hpresetStart : id ≠ gmpActivityPresetStart := h .presetStart
    have hcancel : id ≠ gmpActivityCancel := h .cancel
    -- the constructor inserts the four names, the last one first in the map
    simp only [initial, UnorderedMap.lookup_insert_if]
    rw [if_neg hcancel, if_neg hpresetStart, if_neg hstart, if_neg hpreset]
    exact AList.lookup_empty id
  have hvalue := UnorderedMap.subscript_fst initial.activityMap 0 id
  rw [hlookup] at hvalue
  exact congrArg Activity.ofInt hvalue

/-! ## Responses -/

theorem getHandlerResponse_inj {response response' : HandlerResponse}
    (h : getHandlerResponse response = getHandlerResponse response') :
    response.response = response'.response := by
  unfold getHandlerResponse at h
  cases hr : response.response <;> cases hr' : response'.response <;> rw [hr, hr'] at h <;>
    first | rfl | exact absurd h (by decide)

/-- A reply says which response it is. -/
theorem makeHandlerResponseMsg_inj {response response' : HandlerResponse}
    (h : makeHandlerResponseMsg response = makeHandlerResponseMsg response') :
    response.response = response'.response := by
  have hhead := (List.cons.inj h).1
  exact getHandlerResponse_inj (Prod.mk.inj hhead).2

end JmsUtil

end Giapi
