import GiapiGlue.Cms.ReplyQueue
import GiapiGlue.Epics.JmsEpicsFactory
import GiapiGlue.Gmp.GMPKeys

set_option autoImplicit false

/-! # Fetching a channel

`JmsEpicsFetcher::getChannel`: one request, one reply, which the factory decodes. The request is deleted
as soon as it is sent, and the `catch` block deletes it again. -/

namespace Giapi

namespace JmsEpicsFetcher

/-- What a call meets outside the library, step by step. -/
structure FetchEnv where
  createMessage : Except Exn Unit
  /-- Key and value. -/
  setStringProperty : CxxString → CxxString → Except Exn Unit
  createTemporaryQueue : Except Exn Unit
  createConsumer : Except Exn Unit
  setCMSReplyTo : Except Exn Unit
  send : Except Exn Unit
  queue : ReplyQueue

/-- The `try` block until the request is deleted. -/
def request (env : FetchEnv) (name : CxxString) : Except Exn Unit := do
  env.createMessage
  env.setStringProperty GMPKeys.gmpGeminiEpicsChannelProperty name
  env.createTemporaryQueue
  env.createConsumer
  env.setCMSReplyTo
  env.send

/-- What is made of a reply. -/
def decode : Option Message → Except Exn (Option EpicsStatusItem)
  | some (.bytesMessage message) => JmsEpicsFactory.buildEpicsStatusItem message
  | some _ => .error (.giapiException (str "Incorrect reply from the GMP"))
  | none => .error (.timeoutException (str "Time out while waiting for Epics Get"))

/-- The `try` block from there on. -/
def fetch (env : FetchEnv) (timeout : Int) : Except Exn (Option EpicsStatusItem) := do
  let reply ← env.queue.awaitReply timeout
  decode reply

def getChannel (env : FetchEnv) (name : CxxString) (timeout : Int) :
    Except Exn (Option EpicsStatusItem) :=
  match request env name with
  | .error (.cmsException message) => .error (.communicationException
      (str "Problem fetching the TCS Context " ++ message))
  | .error e => .error e
  | .ok () =>
    match fetch env timeout with
    -- the pointer to the deleted request is not null
    | .error (.cmsException _) => .error .outOfBounds
    | result => result

end JmsEpicsFetcher

end Giapi
