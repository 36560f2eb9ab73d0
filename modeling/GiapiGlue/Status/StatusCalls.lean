import GiapiGlue.Status.StatusUtil

set_option autoImplicit false

/-! # What each call does

`step_outcome` bounds what a call may do; here each call is said to be exactly one of five things. A
property of single items that new items have, and that the setters and the posts keep, then holds of
all items (`items_step`), and what a call does to the record of sends is read off in the same way. -/

namespace Giapi

/-- The object a creation call makes. -/
def StatusOp.constructs : StatusOp → Option StatusItem
  | .createStatusItem env name type => some (StatusItem.construct env name type .statusItem)
  | .createAlarmStatusItem env name type =>
    some (StatusItem.construct env name type (.alarmStatusItem StatusItem.initialAlarm))
  | .createHealthStatusItem env name =>
    some (StatusItem.construct env name .int .healthStatusItem)
  | _ => none

/-- The name a set call is given, and the method of the item it calls. -/
def StatusOp.sets : StatusOp → Option (CxxString × (StatusItem → Except Exn Status × StatusItem))
  | .setValueAsInt env name value => some (name, StatusItem.setValueAsInt env value)
  | .setValueAsString env name value => some (name, StatusItem.setValueAsString env value)
  | .setValueAsDouble env name value => some (name, StatusItem.setValueAsDouble env value)
  | .setValueAsFloat env name value => some (name, StatusItem.setValueAsFloat env value)
  | .setHealth env name health => some (name, StatusItem.setHealth env health)
  | .setAlarm env name severity cause message =>
    some (name, StatusItem.setAlarm env severity cause message)
  | .clearAlarm env name => some (name, StatusItem.clearAlarm env)
  | _ => none

/-- The creation calls, one by one. -/
inductive StatusOp.Constructs : StatusOp → StatusItem → Prop
  | status (env : CallEnv) (name : CxxString) (type : ValueType) :
      Constructs (.createStatusItem env name type) (StatusItem.construct env name type .statusItem)
  | alarm (env : CallEnv) (name : CxxString) (type : ValueType) :
      Constructs (.createAlarmStatusItem env name type)
        (StatusItem.construct env name type (.alarmStatusItem StatusItem.initialAlarm))
  | health (env : CallEnv) (name : CxxString) :
      Constructs (.createHealthStatusItem env name)
        (StatusItem.construct env name .int .healthStatusItem)

theorem StatusOp.constructs_inv {op : StatusOp} {object : StatusItem}
    (hop : op.constructs = some object) : op.Constructs object := by
  cases op <;> simp only [StatusOp.constructs, Option.some.injEq, reduceCtorEq] at hop <;> subst hop
  case createStatusItem => exact .status _ _ _
  case createAlarmStatusItem => exact .alarm _ _ _
  case createHealthStatusItem => exact .health _ _

/-- The set calls, one by one. -/
inductive StatusOp.Sets :
    StatusOp → CxxString → (StatusItem → Except Exn Status × StatusItem) → Prop
  | int (env : CallEnv) (name : CxxString) (value : CInt) :
      Sets (.setValueAsInt env name value) name (StatusItem.setValueAsInt env value)
  | string (env : CallEnv) (name : CxxString) (value : CxxString) :
      Sets (.setValueAsString env name value) name (StatusItem.setValueAsString env value)
  | double (env : CallEnv) (name : CxxString) (value : CDouble) :
      Sets (.setValueAsDouble env name value) name (StatusItem.setValueAsDouble env value)
  | float (env : CallEnv) (name : CxxString) (value : CFloat) :
      Sets (.setValueAsFloat env name value) name (StatusItem.setValueAsFloat env value)
  | health (env : CallEnv) (name : CxxString) (health : Health) :
      Sets (.setHealth env name health) name (StatusItem.setHealth env health)
  | alarm (env : CallEnv) (name : CxxString) (severity : Severity) (cause : Cause)
      (message : CxxString) : Sets (.setAlarm env name severity cause message) name
        (StatusItem.setAlarm env severity cause message)
  | clear (env : CallEnv) (name : CxxString) :
      Sets (.clearAlarm env name) name (StatusItem.clearAlarm env)

theorem StatusOp.sets_inv {op : StatusOp} {name : CxxString}
    {f : StatusItem → Except Exn Status × StatusItem} (hop : op.sets = some (name, f)) :
    op.Sets name f := by
  cases op <;> simp only [StatusOp.sets, Option.some.injEq, Prod.mk.injEq, reduceCtorEq] at hop <;>
    obtain ⟨rfl, rfl⟩ := hop
  case setValueAsInt => exact .int _ _ _
  case setValueAsString => exact .string _ _ _
  case setValueAsDouble => exact .double _ _ _
  case setValueAsFloat => exact .float _ _ _
  case setHealth => exact .health _ _ _
  case setAlarm => exact .alarm _ _ _ _ _
  case clearAlarm => exact .clear _ _

/-- Every method of an item updates it. -/
theorem StatusOp.sets_updated {op : StatusOp} {name : CxxString}
    {f : StatusItem → Except Exn Status × StatusItem} (hop : op.sets = some (name, f))
    (item : StatusItem) : StatusItem.Updated item (f item).2 := by
  cases StatusOp.sets_inv hop with
  | int env _ value => exact StatusItem.setValueAsInt_updated env value item
  | string env _ value => exact StatusItem.setValueAsString_updated env value item
  | double env _ value => exact StatusItem.setValueAsDouble_updated env value item
  | float env _ value => exact StatusItem.setValueAsFloat_updated env value item
  | health env _ health => exact StatusItem.setHealth_updated env health item
  | alarm env _ severity cause message =>
      exact StatusItem.setAlarm_updated env severity cause message item
  | clear env _ => exact StatusItem.clearAlarm_updated env item

/-- The sender a post call is given. -/
def StatusOp.sender : StatusOp → Option (Except Exn PostStatus)
  | .postStatusItem sender _ => some sender
  | .postStatus sender => some sender
  | _ => none

/-- `Q` holds of every item of the database. -/
def StatusDatabase.Items (Q : StatusItem → Prop) (db : StatusDatabase) : Prop :=
  ∀ (p : Ptr) (item : StatusItem), db.heap[p]? = some item → Q item

namespace StatusUtil

open AbstractStatusSender (sent)

theorem call_of_constructs {op : StatusOp} {object : StatusItem} (h : op.constructs = some object) :
    call op = creation (·.create object.name object) := by
  cases StatusOp.constructs_inv h <;> rfl

theorem call_of_sets {op : StatusOp} {name : CxxString}
    {f : StatusItem → Except Exn Status × StatusItem} (h : op.sets = some (name, f)) :
    call op = onDatabase (·.update name f) := by
  cases StatusOp.sets_inv h <;> rfl

/-! ## Posts -/

/-- A part of a post through `post`: a lookup, or a send with the outcome `post` gives it. -/
inductive PostPart (post : PostStatus) (s : StatusService) : StatusService → Prop
  | lookup (name : CxxString) :
      PostPart post s { s with database := (s.database.getStatusItem name).2 }
  | sent (p : Ptr) (item : StatusItem) (hp : s.database.heap[p]? = some item)
      (hchanged : item.changedFlag = true) :
      PostPart post s (sent s p item (post s.sends.length item.clearChanged))

abbrev PostParts (post : PostStatus) : StatusService → StatusService → Prop :=
  Relation.ReflTransGen (PostPart post)

theorem doPost_parts (post : PostStatus) (p : Ptr) (s : StatusService) :
    PostParts post s (AbstractStatusSender.doPost post p s).2 := by
  unfold AbstractStatusSender.doPost
  split
  · exact .refl
  · next item hp =>
      dsimp only
      by_cases hchanged : item.isChanged = true
      · rw [if_neg (not_not_intro hchanged)]
        exact .single (.sent p item hp hchanged)
      · rw [if_pos hchanged]

theorem postItems_parts (post : PostStatus) (items : List Ptr) (s : StatusService) :
    PostParts post s (AbstractStatusSender.postItems post items s).2 := by
  induction items generalizing s with
  | nil => exact .refl
  | cons item items ih =>
      have hpost := doPost_parts post item s
      rw [AbstractStatusSender.postItems]
      split
      · next e s' heq => rwa [heq] at hpost
      · next status s' heq =>
          rw [heq] at hpost
          exact hpost.trans (ih s')

theorem postStatusItem_parts (post : PostStatus) (name : CxxString) (s : StatusService) :
    PostParts post s (AbstractStatusSender.postStatusItem post name s).2 := by
  have hlookup : PostParts post s { s with database := (s.database.getStatusItem name).2 } :=
    .single (.lookup name)
  unfold AbstractStatusSender.postStatusItem
  split
  · next database heq => rwa [heq] at hlookup
  · next statusItem database heq =>
      rw [heq] at hlookup
      exact hlookup.trans (doPost_parts post statusItem _)

/-! ## All calls -/

/-- What a call did: it created an object, called a setter of an item, looked an item up, posted, or
    was refused by the factory of senders. -/
inductive Called (op : StatusOp) (s : StatusService) : StatusService → Prop
  | created (object : StatusItem) (h : op.constructs = some object) :
      Called op s { s with database := (s.database.create object.name object).2 }
  | set (name : CxxString) (f : StatusItem → Except Exn Status × StatusItem)
      (h : op.sets = some (name, f)) :
      Called op s { s with database := (s.database.update name f).2 }
  | lookedUp (name : CxxString) :
      Called op s { s with database := (s.database.getStatusItem name).2 }
  | posted (post : PostStatus) (h : op.sender = some (.ok post)) {s' : StatusService}
      (hparts : PostParts post s s') : Called op s s'
  | refused : Called op s s

theorem onSender_called {op : StatusOp} {sender : Except Exn PostStatus}
    {method : PostStatus → StatusService → Except Exn Status × StatusService}
    (hop : op.sender = some sender) (s : StatusService)
    (hparts : ∀ post, PostParts post s (method post s).2) :
    Called op s (onSender sender method s).2 := by
  cases sender with
  | error e => exact .refused
  | ok post => exact .posted post hop (hparts post)

theorem step_called (s : StatusService) (op : StatusOp) : Called op s (step s op) := by
  cases op with
  | createStatusItem env name type =>
      exact .created (StatusItem.construct env name type .statusItem) rfl
  | createAlarmStatusItem env name type =>
      exact .created
        (StatusItem.construct env name type (.alarmStatusItem StatusItem.initialAlarm)) rfl
  | createHealthStatusItem env name =>
      exact .created (StatusItem.construct env name .int .healthStatusItem) rfl
  | setValueAsInt env name value => exact .set _ _ rfl
  | setValueAsString env name value => exact .set _ _ rfl
  | setValueAsDouble env name value => exact .set _ _ rfl
  | setValueAsFloat env name value => exact .set _ _ rfl
  | setHealth env name health => exact .set _ _ rfl
  | setAlarm env name severity cause message => exact .set _ _ rfl
  | clearAlarm env name => exact .set _ _ rfl
  | getStatusItem name => exact .lookedUp name
  | postStatusItem sender name =>
      exact onSender_called rfl s (fun post => postStatusItem_parts post name s)
  | postStatus sender =>
      exact onSender_called rfl s (fun post => postItems_parts post _ s)

/-- **Send rule.** What holds of every send a sender of the call makes holds of all sends after it. -/
theorem sends_step {R : Send → Prop} {s : StatusService} {op : StatusOp}
    (hpost : ∀ post, op.sender = some (.ok post) → ∀ n p item,
      R { statusItem := p, item, outcome := post n item })
    (h : ∀ send ∈ s.sends, R send) : ∀ send ∈ (step s op).sends, R send := by
  have hcalled := step_called s op
  generalize step s op = s' at hcalled ⊢
  cases hcalled with
  | created object _ => exact h
  | set name f _ => exact h
  | lookedUp name => exact h
  | refused => exact h
  | posted post hop hparts =>
      induction hparts with
      | refl => exact h
      | tail _ hpart ih =>
          cases hpart with
          | lookup name => exact ih
          | sent p item _ _ =>
              intro send hsend
              rcases List.mem_cons.1 hsend with rfl | hsend
              · exact hpost post hop _ p _
              · exact ih send hsend

/-! ## Properties of single items -/

section Items

variable {Q : StatusItem → Prop}

theorem items_sent {s : StatusService} (hclean : ∀ item, Q item → Q item.clearChanged)
    (h : s.database.Items Q) {p : Ptr} {item : StatusItem} (hp : s.database.heap[p]? = some item)
    (outcome : Except Exn Unit) : (sent s p item outcome).database.Items Q := by
  intro q other hq
  rw [AbstractStatusSender.sent_heap hp] at hq
  split at hq
  · rw [← Option.some.inj hq]
    exact hclean item (h p item hp)
  · exact h q other hq

/-- What a post sends, it sends of items that were in the database. -/
theorem items_postParts {post : PostStatus} {s s' : StatusService}
    (hclean : ∀ item, Q item → Q item.clearChanged) (hparts : PostParts post s s')
    (h : s.database.Items Q) (hsends : ∀ send ∈ s.sends, Q send.item) :
    s'.database.Items Q ∧ ∀ send ∈ s'.sends, Q send.item := by
  induction hparts with
  | refl => exact ⟨h, hsends⟩
  | tail _ hpart ih =>
      obtain ⟨hitems, hsent⟩ := ih
      cases hpart with
      | lookup name =>
          exact ⟨fun p item hp => hitems p item (by simpa using hp), hsent⟩
      | sent p item hp _ =>
          refine ⟨items_sent hclean hitems hp _, fun send hsend => ?_⟩
          rcases List.mem_cons.1 hsend with rfl | hsend
          · exact hclean item (hitems p item hp)
          · exact hsent send hsend

/-- **Item rule.** A property that new items have, and that is kept by the method a call applies to the
    item it finds and by `clearChanged`, is kept by the call, for the items of the database and for
    the items passed to senders. -/
theorem items_step {s : StatusService} {op : StatusOp}
    (hnew : ∀ object, op.constructs = some object → Q object)
    (hset : ∀ name f p item, op.sets = some (name, f) → s.database.lookup name = some p →
      s.database.heap[p]? = some item → Q item → Q (f item).2)
    (hclean : ∀ item, Q item → Q item.clearChanged)
    (h : s.database.Items Q) (hsends : ∀ send ∈ s.sends, Q send.item) :
    (step s op).database.Items Q ∧ ∀ send ∈ (step s op).sends, Q send.item := by
  have hcalled := step_called s op
  generalize step s op = s' at hcalled ⊢
  cases hcalled with
  | created object hobject =>
      refine ⟨fun p item hp => ?_, hsends⟩
      have hp' : (s.database.create object.name object).2.heap[p]? = some item := hp
      rw [StatusDatabase.create_heap] at hp'
      split at hp'
      · exact Option.some.inj hp' ▸ hnew object hobject
      · exact h p item hp'
  | set name f hop =>
      refine ⟨fun p item hp => ?_, hsends⟩
      have hp' : (s.database.update name f).2.heap[p]? = some item := hp
      rw [StatusDatabase.update_heap] at hp'
      split at hp'
      · next hfound =>
          obtain ⟨old, hold, rfl⟩ := Option.map_eq_some_iff.1 hp'
          exact hset name f p old hop hfound hold (h p old hold)
      · exact h p item hp'
  | lookedUp name => exact ⟨fun p item hp => h p item (by simpa using hp), hsends⟩
  | posted post _ hparts => exact items_postParts hclean hparts h hsends
  | refused => exact ⟨h, hsends⟩

/-- The item rule along a run, for a property that all methods keep of all items. -/
theorem items_after (hnew : ∀ op object, StatusOp.constructs op = some object → Q object)
    (hset : ∀ op name f item, StatusOp.sets op = some (name, f) → Q item → Q (f item).2)
    (hclean : ∀ item, Q item → Q item.clearChanged) (ops : List StatusOp) :
    (after ops).database.Items Q ∧ ∀ send ∈ (after ops).sends, Q send.item := by
  refine @Run.invariant _ _ step
    (fun s : StatusService => s.database.Items Q ∧ ∀ send ∈ s.sends, Q send.item) initial ?_ ?_ ops
  · refine ⟨fun p item hp => ?_, fun send hsend => ?_⟩
    · simp [initial, StatusDatabase.empty] at hp
    · simp [initial] at hsend
  · intro s op h
    exact items_step (hnew op) (fun name f _ item hop _ _ => hset op name f item hop) hclean h.1 h.2

end Items

end StatusUtil

end Giapi
