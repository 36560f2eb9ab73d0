import GiapiGlue.Status.StatusUtil

set_option autoImplicit false

/-! # Status messages

Every item the API can produce holds a value of its declared type, so its message is the one the
reader of `StatusSerializerVisitor` undoes, and it is this message a JMS sender hands to the broker. -/

namespace Giapi

namespace StatusUtil

open StatusSerializerVisitor

/-- **Unique decodability.** The message of any item of the database tells its kind, type, name,
    value, timestamp and alarm, and nothing is left of it when that has been read. -/
theorem decode_accept (ops : List StatusOp) {p : Ptr} {item : StatusItem}
    (hp : (after ops).database.heap[p]? = some item) (hser : Serialized item.type)
    (hshort : ShortStrings item) :
    ∃ body, (accept item).run [] = .ok ((), body) ∧ decode.run body = .ok (messageOf item, []) := by
  have htyped : item.WellTyped := (coherent_after ops).typed p item hp
  exact ⟨_, writes_accept hser htyped hshort [], (reads_decode hser htyped hshort).run_eq⟩

/-- A high alarm on an item that still has its initial value. -/
def highAlarm : List StatusOp :=
  [.createAlarmStatusItem { gettimeofday := none, memory := 7 } (str "temp") .string,
    .setAlarm { gettimeofday := some { tvSec := 2, tvUsec := 345678 }, memory := 0 } (str "temp")
      .alarmFailure .alarmCauseHi (str "hot")]

/-- Its message, read back. -/
theorem highAlarm_decoded :
    ∃ item body, (accept item).run [] = .ok ((), body) ∧ decode.run body = .ok
      ({ kind := .alarm
         type := .string
         name := str "temp"
         value := .string (str " ")
         timestamp := 2345
         alarm := some (.alarmFailure, .alarmCauseHi, str "hot") }, []) := by
  obtain ⟨body, hbody, hdecode⟩ := decode_accept highAlarm (p := 0) rfl (by decide)
    { name := by unfold ShortUTF; decide
      value := by
        intro v hv
        cases hv
        unfold ShortUTF
        decide
      message := by
        intro alarm halarm
        cases halarm
        unfold ShortUTF
        decide }
  exact ⟨_, body, hbody, hdecode⟩

/-- What a JMS sender does with an item: its message goes to the topic of the item. -/
theorem post_sends_message (resources : JmsStatusSender.Resources) {item : StatusItem}
    (hser : Serialized item.type) (htyped : item.WellTyped) (hshort : ShortStrings item) :
    ∃ body, decode.run body = .ok (messageOf item, []) ∧
      JmsStatusSender.post resources item = (do
        resources.createBytesMessage
        resources.createTopic (GMPKeys.gmpStatusDestinationPrefix ++ item.name)
        resources.send (GMPKeys.gmpStatusDestinationPrefix ++ item.name) body) := by
  refine ⟨_, (reads_decode hser htyped hshort).run_eq, ?_⟩
  rw [JmsStatusSender.post, writes_accept hser htyped hshort []]
  rfl

end StatusUtil

end Giapi
