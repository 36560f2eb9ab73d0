import GiapiGlue.Cms.BytesMessage

set_option autoImplicit false

/-! # Replies on a temporary queue

A request names a temporary queue for its answer. The requester waits for one message there, then closes
the consumer and destroys the queue, whatever it got. -/

namespace Giapi

/-- A received message, as far as `dynamic_cast` tells its class. -/
inductive Message
  | bytesMessage (message : BytesMessage)
  /-- What `getText` answers. -/
  | textMessage (getText : Except Exn CxxString)
  | other

/-- What the wait for the reply meets, step by step. -/
structure ReplyQueue where
  /-- `receive(timeout)`, or `receive()`; null when there was no message in time. -/
  receive : Option Int → Except Exn (Option Message)
  close : Except Exn Unit
  destroy : Except Exn Unit

namespace ReplyQueue

/-- The wait: a timeout that is not positive means to wait for as long as it takes. -/
def awaitReply (queue : ReplyQueue) (timeout : Int) : Except Exn (Option Message) := do
  let reply ← queue.receive (if 0 < timeout then some timeout else none)
  queue.close
  queue.destroy
  return reply

/-- The wait ends with `reply`, which may be null. -/
def Answers (queue : ReplyQueue) (timeout : Int) (reply : Option Message) : Prop :=
  queue.awaitReply timeout = .ok reply

/-- A queue on which the reply is there at once. -/
def answering (reply : Option Message) : ReplyQueue :=
  { receive := fun _ => .ok reply, close := .ok (), destroy := .ok () }

theorem answering_answers (reply : Option Message) (timeout : Int) :
    (answering reply).Answers timeout reply := rfl

end ReplyQueue

end Giapi
