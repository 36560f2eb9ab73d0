import GiapiGlue.Cms.ReplyQueue
import GiapiGlue.Lib.Numerals

set_option autoImplicit false

/-! # Offsets for the TCS

`JmsApplyOffset`: an offset is sent to the TCS, whose reply is text: a number, a bar and a message. The
blocking call reads the reply itself; the other one leaves that to a detached thread, which passes what
it has read to a callback. -/

namespace Giapi

/-- The integer an enumerator of `status::Status` converts to. -/
def Status.toInt : Status → CInt
  | .error => -1
  | .ok => 0

/-- `OffsetType`. -/
inductive OffsetType
  | acq
  | slowguiding
deriving DecidableEq, Repr

/-- The integer an enumerator of `OffsetType` converts to. -/
def OffsetType.toInt : OffsetType → CInt
  | .acq => 0
  | .slowguiding => 1

/-- What leaves a function that uses `std::stoi`: an exception it knows of, or one of `stoi`. -/
inductive Escape
  | exn (e : Exn)
  | invalidArgument
  | outOfRange
deriving DecidableEq, Repr

/-- `std::stoi`: the integer the string begins with, which has to fit an `int`. -/
def stoi (s : CxxString) : Except Escape CInt :=
  match Numerals.scan s with
  | none => .error .invalidArgument
  | some z =>
    if -(2 ^ 31) ≤ z ∧ z < 2 ^ 31 then .ok (BitVec.ofInt 32 z) else .error .outOfRange

namespace JmsApplyOffset

/-- `'|'`. -/
def bar : UInt8 := 0x7C

/-- What stands before the first bar of a text and what after it, when there is one. -/
def splitReply (text : CxxString) : Option (CxxString × CxxString) :=
  match text.idxOf? bar with
  | none => none
  | some posResult => some (text.take posResult, text.drop (posResult + 1))

/-- An exception of the messaging library. -/
def lift {α : Type} (x : Except Exn α) : Except Escape α := x.mapError .exn

/-! ## The request -/

/-- What a call meets outside the library, step by step. -/
structure OffsetEnv where
  createBytesMessage : Except Exn Unit
  createTemporaryQueue : Except Exn Unit
  createConsumer : Except Exn Unit
  setCMSReplyTo : Except Exn Unit
  /-- Key and value. -/
  setStringProperty : CxxString → CxxString → Except Exn Unit
  /-- The body. -/
  send : List UInt8 → Except Exn Unit
  /-- The start of the thread. -/
  thread : Except Exn Unit
  queue : ReplyQueue

def writeOffset (p q : CDouble) (offsetType : OffsetType) : ByteWriter Exn Unit := do
  BytesMessage.writeDouble p
  BytesMessage.writeDouble q
  BytesMessage.writeInt offsetType.toInt

/-- The `try` block until the request is sent. -/
def request (env : OffsetEnv) (instName : CxxString) (p q : CDouble) (offsetType : OffsetType) :
    Except Exn Unit := do
  env.createBytesMessage
  env.createTemporaryQueue
  env.createConsumer
  env.setCMSReplyTo
  let ((), body) ← (writeOffset p q offsetType).run []
  env.setStringProperty (str "instName") instName
  env.send body

/-! ## The reply -/

/-- What the blocking call makes of the text of a reply. -/
def wasOffsetApplied (text : CxxString) : Except Escape CInt :=
  match splitReply text with
  | none => .ok 0
  | some (number, _) => stoi number

/-- The `try` block of a blocking call once the request is sent. -/
def awaitOffset (env : OffsetEnv) (timeout : Int) : Except Escape CInt := do
  let reply ← lift (env.queue.awaitReply timeout)
  match reply with
  | some (.textMessage getText) => do
    let text ← lift getText
    wasOffsetApplied text
  | some _ => return Status.error.toInt
  | none => throw (.exn (.timeoutException
      (str "Time out while waiting for TCS Offset executiong")))

/-- `sendOffset`, with or without a callback. -/
def sendOffset (env : OffsetEnv) (instName : CxxString) (p q : CDouble) (offsetType : OffsetType)
    (timeout : Int) (callbackOffset : Bool) : Except Escape CInt :=
  match request env instName p q offsetType with
  | .error (.cmsException message) => .error (.exn (.communicationException
      (str "Problem applying the Offset in the TCS.  " ++ message)))
  | .error e => .error (.exn e)
  | .ok () =>
    if callbackOffset then
      (lift env.thread).map (fun _ => 1)
    else
      match awaitOffset env timeout with
      -- the request has been deleted, and the `catch` block deletes it again
      | .error (.exn (.cmsException _)) => .error (.exn .outOfBounds)
      | result => result

/-! ## The thread -/

/-- What the thread makes of the text of a reply. -/
def callbackArguments (text : CxxString) : Except Escape (CInt × CxxString) :=
  match splitReply text with
  | none => .ok (Status.error.toInt, [])
  | some (number, msg) => do
    let status ← stoi number
    return (status, msg)

/-- What the thread passes to the callback. A reply that is not a text leads to a null pointer. -/
def offsetResult (queue : ReplyQueue) (timeout : CInt) : Except Escape (CInt × CxxString) := do
  let reply ← lift (queue.awaitReply timeout.toInt)
  match reply with
  | some (.textMessage getText) => do
    let text ← lift getText
    callbackArguments text
  | some _ => throw (.exn .outOfBounds)
  | none => return (Status.error.toInt, str "Time out while waiting for TCS Offset executiong")

/-- `callback`: the calls of the user's function, and how the thread ends. -/
def callback (queue : ReplyQueue) (timeout : CInt) :
    List (CInt × CxxString) × Except Escape Unit :=
  match offsetResult queue timeout with
  | .ok arguments => ([arguments], .ok ())
  | .error e => ([], .error e)

/-- The thread is given the timeout as an `int`. -/
def detached (env : OffsetEnv) (timeout : Int) : List (CInt × CxxString) × Except Escape Unit :=
  callback env.queue (BitVec.ofInt 32 timeout)

end JmsApplyOffset

end Giapi
