import GiapiGlue.Gmp.GMPKeys
import GiapiGlue.Status.StatusDatabase
import GiapiGlue.Status.StatusSerializerVisitor

set_option autoImplicit false

/-! # Status senders

`AbstractStatusSender` decides which items are posted and hands each to the `postStatus(pStatusItem)`
of its implementor, `JmsStatusSender` or `LogStatusSender`. The calls it makes to the implementor are
recorded, so that what the outside world was told can be compared with what the database holds. -/

namespace Giapi

/-- An implementor's `postStatus(pStatusItem)`, which answers `OK` or throws. The number of calls made
    before stands for everything else the outcome may depend on. -/
abbrev PostStatus : Type := Nat → StatusItem → Except Exn Unit

/-- A call of an implementor: the item as it was passed and what came of it. -/
structure Send where
  statusItem : Ptr
  item : StatusItem
  outcome : Except Exn Unit

def Send.succeeded (send : Send) : Bool := send.outcome.toBool

/-- The database, and all calls of implementors so far, the latest first. -/
structure StatusService where
  database : StatusDatabase
  sends : List Send

/-! ## The implementors -/

namespace LogStatusSender

def postStatus : PostStatus := fun _ _ => .ok ()

end LogStatusSender

namespace JmsStatusSender

/-- The session and the producer of a sender, as far as a post uses them. -/
structure Resources where
  createBytesMessage : Except Exn Unit
  createTopic : CxxString → Except Exn Unit
  /-- Destination and body. -/
  send : CxxString → List UInt8 → Except Exn Unit

/-- The `try` block of `postStatus`. -/
def post (resources : Resources) (item : StatusItem) : Except Exn Unit := do
  resources.createBytesMessage
  let (_, msg) ← (StatusSerializerVisitor.accept item).run []
  let destination := GMPKeys.gmpStatusDestinationPrefix ++ item.name
  resources.createTopic destination
  resources.send destination msg

/-- `postStatus`: a `CMSException` is turned into a `PostException`. -/
def postStatus (resources : Nat → Resources) : PostStatus := fun n item =>
  match post (resources n) item with
  | .error (.cmsException message) =>
    .error (.postException (str "Problem posting status : " ++ message))
  | result => result

end JmsStatusSender

/-! ## Posting -/

namespace AbstractStatusSender

/-- The state after the implementor was called with the item at `p`, marked clean before. -/
def sent (s : StatusService) (p : Ptr) (item : StatusItem) (outcome : Except Exn Unit) :
    StatusService :=
  { database := { s.database with heap := s.database.heap.set p item.clearChanged }
    sends := { statusItem := p, item := item.clearChanged, outcome } :: s.sends }

theorem sent_heap {s : StatusService} {p : Ptr} {item : StatusItem}
    (hp : s.database.heap[p]? = some item) (outcome : Except Exn Unit) (q : Ptr) :
    (sent s p item outcome).database.heap[q]?
      = if q = p then some item.clearChanged else s.database.heap[q]? :=
  ObjectHeap.getElem?_set_of_some hp item.clearChanged q

/-- `doPost`, for a pointer that is not null: an item that has not changed is not posted; any other
    is marked clean, then posted. -/
def doPost (post : PostStatus) (statusItem : Ptr) (s : StatusService) :
    Except Exn Status × StatusService :=
  match s.database.heap[statusItem]? with
  | none => (.error .outOfBounds, s)
  | some item =>
    if ¬ item.isChanged then
      (.ok .error, s)
    else
      let outcome := post s.sends.length item.clearChanged
      (outcome.map (fun _ => .ok), sent s statusItem item outcome)

/-- `postStatus(name)`. -/
def postStatusItem (post : PostStatus) (name : CxxString) (s : StatusService) :
    Except Exn Status × StatusService :=
  match s.database.getStatusItem name with
  | (none, database) => (.ok .error, { s with database })
  | (some statusItem, database) => doPost post statusItem { s with database }

/-- The loop of `postStatus()`: the answers of `doPost` are dropped, an exception ends it. -/
def postItems (post : PostStatus) : List Ptr → StatusService → Except Exn Status × StatusService
  | [], s => (.ok .ok, s)
  | item :: items, s =>
    match doPost post item s with
    | (.error e, s) => (.error e, s)
    | (.ok _, s) => postItems post items s

/-- `postStatus()`, over a copy of the vector. -/
def postStatus (post : PostStatus) (s : StatusService) : Except Exn Status × StatusService :=
  postItems post s.database.statusItemList s

end AbstractStatusSender

end Giapi
