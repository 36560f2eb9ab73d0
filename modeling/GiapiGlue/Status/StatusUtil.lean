import GiapiGlue.Lib.Run
import GiapiGlue.Status.AbstractStatusSender

set_option autoImplicit false

/-! # The status service

`StatusUtil`: the calls of the status API, in any order, on the one database of the process. A call
changes the database, sends items, or both; `step_outcome` says how the parts of a call follow each
other, and everything that holds along a run is derived from it. -/

namespace Giapi

/-- A call of the status API, with what it meets outside the library. A post is given the sender the
    factory answers with, or the exception it throws. -/
inductive StatusOp
  | createStatusItem (env : CallEnv) (name : CxxString) (type : ValueType)
  | createAlarmStatusItem (env : CallEnv) (name : CxxString) (type : ValueType)
  | createHealthStatusItem (env : CallEnv) (name : CxxString)
  | setValueAsInt (env : CallEnv) (name : CxxString) (value : CInt)
  | setValueAsString (env : CallEnv) (name : CxxString) (value : CxxString)
  | setValueAsDouble (env : CallEnv) (name : CxxString) (value : CDouble)
  | setValueAsFloat (env : CallEnv) (name : CxxString) (value : CFloat)
  | setHealth (env : CallEnv) (name : CxxString) (health : Health)
  | setAlarm (env : CallEnv) (name : CxxString) (severity : Severity) (cause : Cause)
      (message : CxxString)
  | clearAlarm (env : CallEnv) (name : CxxString)
  | getStatusItem (name : CxxString)
  | postStatusItem (sender : Except Exn PostStatus) (name : CxxString)
  | postStatus (sender : Except Exn PostStatus)

/-- What a call asks to be created: the name, the kind and the type. -/
def StatusOp.created : StatusOp → Option (CxxString × ItemKind × ValueType)
  | .createStatusItem _ name type => some (name, .basic, type)
  | .createAlarmStatusItem _ name type => some (name, .alarm, type)
  | .createHealthStatusItem _ name => some (name, .health, .int)
  | _ => none

/-- The name a call asks to be created. -/
def StatusOp.creates (op : StatusOp) : Option CxxString := op.created.map Prod.fst

/-- What a call answers. -/
inductive Answer
  | status (status : Status)
  | statusItem (statusItem : Option Ptr)
deriving DecidableEq, Repr

namespace StatusUtil

/-- A call of a method of the database. -/
def onDatabase (method : StatusDatabase → Except Exn Status × StatusDatabase) (s : StatusService) :
    Except Exn Answer × StatusService :=
  let (result, database) := method s.database
  (result.map .status, { s with database })

/-- A call of a creation method, none of which throws. -/
def creation (method : StatusDatabase → Status × StatusDatabase) :
    StatusService → Except Exn Answer × StatusService :=
  onDatabase (fun db => let (status, db) := method db; (.ok status, db))

/-- A call of a method of the sender. -/
def onSender (sender : Except Exn PostStatus)
    (method : PostStatus → StatusService → Except Exn Status × StatusService) (s : StatusService) :
    Except Exn Answer × StatusService :=
  match sender with
  | .error e => (.error e, s)
  | .ok post =>
    let (result, s) := method post s
    (result.map .status, s)

def call : StatusOp → StatusService → Except Exn Answer × StatusService
  | .createStatusItem env name type => creation (·.createStatusItem env name type)
  | .createAlarmStatusItem env name type => creation (·.createAlarmStatusItem env name type)
  | .createHealthStatusItem env name => creation (·.createHealthStatusItem env name)
  | .setValueAsInt env name value => onDatabase (·.setStatusValueAsInt env name value)
  | .setValueAsString env name value => onDatabase (·.setStatusValueAsString env name value)
  | .setValueAsDouble env name value => onDatabase (·.setStatusValueAsDouble env name value)
  | .setValueAsFloat env name value => onDatabase (·.setStatusValueAsFloat env name value)
  | .setHealth env name health => onDatabase (·.setHealth env name health)
  | .setAlarm env name severity cause message =>
    onDatabase (·.setAlarm env name severity cause message)
  | .clearAlarm env name => onDatabase (·.clearAlarm env name)
  | .getStatusItem name => fun s =>
    let (statusItem, database) := s.database.getStatusItem name
    (.ok (.statusItem statusItem), { s with database })
  | .postStatusItem sender name =>
    onSender sender (fun post => AbstractStatusSender.postStatusItem post name)
  | .postStatus sender => onSender sender AbstractStatusSender.postStatus

/-- The state a call leaves behind, whether it returns or throws. -/
def step (s : StatusService) (op : StatusOp) : StatusService := (call op s).2

/-- Before the first call. -/
def initial : StatusService := { database := .empty, sends := [] }

/-- The state after a sequence of calls. -/
abbrev after (ops : List StatusOp) : StatusService := Run.after step initial ops

/-! ## What a call can do -/

open AbstractStatusSender (sent)

variable {creates : Option CxxString}

/-- A part of a call that does not throw. -/
inductive Effect (creates : Option CxxString) (s : StatusService) : StatusService → Prop
  | change (db : StatusDatabase) (h : s.database.Change creates db) :
      Effect creates s { s with database := db }
  | sent (p : Ptr) (item : StatusItem) (hp : s.database.heap[p]? = some item)
      (hchanged : item.changedFlag = true) : Effect creates s (sent s p item (.ok ()))

/-- The effects of a call so far. -/
abbrev Effects (creates : Option CxxString) : StatusService → StatusService → Prop :=
  Relation.ReflTransGen (Effect creates)

/-- All effects of a call: none of them throws, or exactly the last one, a send. -/
inductive Outcome (creates : Option CxxString) (s : StatusService) : StatusService → Prop
  | quiet {s' : StatusService} (h : Effects creates s s') : Outcome creates s s'
  | thrown {mid : StatusService} (h : Effects creates s mid) (p : Ptr) (item : StatusItem) (e : Exn)
      (hp : mid.database.heap[p]? = some item) (hchanged : item.changedFlag = true) :
      Outcome creates s (sent mid p item (.error e))

theorem Effects.ofChanges {db db' : StatusDatabase} (h : db.Changes creates db')
    (sends : List Send) :
    Effects creates { database := db, sends } { database := db', sends } := by
  induction h with
  | refl => exact .refl
  | tail _ hchange ih => exact ih.tail (.change _ hchange)

/-- A result of a post, with the state it left: what was thrown was thrown by the last send. -/
inductive Posted (s : StatusService) : Except Exn Status × StatusService → Prop
  | quiet {result : Except Exn Status} {s' : StatusService} (h : Effects none s s') :
      Posted s (result, s')
  | thrown {mid : StatusService} (h : Effects none s mid) (p : Ptr) (item : StatusItem) (e : Exn)
      (hp : mid.database.heap[p]? = some item) (hchanged : item.changedFlag = true) :
      Posted s (.error e, sent mid p item (.error e))

theorem Posted.outcome {s : StatusService} {r : Except Exn Status × StatusService}
    (h : Posted s r) : Outcome none s r.2 := by
  cases h with
  | quiet h => exact .quiet h
  | thrown h p item e hp hchanged => exact .thrown h p item e hp hchanged

theorem Posted.after {s mid : StatusService} {r : Except Exn Status × StatusService}
    (hbefore : Effects none s mid) (h : Posted mid r) : Posted s r := by
  cases h with
  | quiet h => exact .quiet (hbefore.trans h)
  | thrown h p item e hp hchanged => exact .thrown (hbefore.trans h) p item e hp hchanged

theorem doPost_posted (post : PostStatus) (p : Ptr) (s : StatusService) :
    Posted s (AbstractStatusSender.doPost post p s) := by
  unfold AbstractStatusSender.doPost
  split
  · exact .quiet .refl
  · next item hp =>
      by_cases hchanged : item.isChanged = true
      · rw [if_neg (not_not_intro hchanged)]
        dsimp only
        cases post s.sends.length item.clearChanged with
        | ok u => exact .quiet (.single (.sent p item hp hchanged))
        | error e => exact .thrown .refl p item e hp hchanged
      · rw [if_pos hchanged]
        exact .quiet .refl

theorem postItems_posted (post : PostStatus) (items : List Ptr) (s : StatusService) :
    Posted s (AbstractStatusSender.postItems post items s) := by
  induction items generalizing s with
  | nil => exact .quiet .refl
  | cons item items ih =>
      have hpost := doPost_posted post item s
      rw [AbstractStatusSender.postItems]
      split
      · next e s' heq =>
          rw [heq] at hpost
          exact hpost
      · next status s' heq =>
          rw [heq] at hpost
          cases hpost with
          | quiet h => exact (ih s').after h

theorem postStatusItem_posted (post : PostStatus) (name : CxxString) (s : StatusService) :
    Posted s (AbstractStatusSender.postStatusItem post name s) := by
  have hlookup : Effects none s { s with database := (s.database.getStatusItem name).2 } :=
    .single (.change _ (.lookup name))
  unfold AbstractStatusSender.postStatusItem
  split
  · next database heq =>
      rw [heq] at hlookup
      exact .quiet hlookup
  · next statusItem database heq =>
      rw [heq] at hlookup
      exact (doPost_posted post statusItem _).after hlookup

theorem onDatabase_outcome {method : StatusDatabase → Except Exn Status × StatusDatabase}
    (s : StatusService) (h : s.database.Changes creates (method s.database).2) :
    Outcome creates s (onDatabase method s).2 :=
  .quiet (Effects.ofChanges h s.sends)

theorem onSender_outcome {method : PostStatus → StatusService → Except Exn Status × StatusService}
    (s : StatusService) (h : ∀ post, Posted s (method post s)) (sender : Except Exn PostStatus) :
    Outcome none s (onSender sender method s).2 := by
  cases sender with
  | error e => exact .quiet .refl
  | ok post => exact (h post).outcome

theorem creation_outcome (env : CallEnv) (name : CxxString) (type : ValueType) (cls : ItemClass)
    (s : StatusService) :
    Outcome (some name) s (creation (·.create name (StatusItem.construct env name type cls)) s).2 :=
  onDatabase_outcome s (StatusDatabase.create_changes rfl
    (StatusItem.construct_wellTyped env name type cls) rfl s.database)

/-- **The calls of the API.** Each is a sequence of effects of which at most the last throws. -/
theorem step_outcome (s : StatusService) (op : StatusOp) : Outcome op.creates s (step s op) := by
  unfold step
  cases op with
  | createStatusItem env name type => exact creation_outcome env name type .statusItem s
  | createAlarmStatusItem env name type =>
      exact creation_outcome env name type (.alarmStatusItem StatusItem.initialAlarm) s
  | createHealthStatusItem env name => exact creation_outcome env name .int .healthStatusItem s
  | setValueAsInt env name value =>
      exact onDatabase_outcome s
        (StatusDatabase.update_changes (StatusItem.setValueAsInt_updated env value) name _)
  | setValueAsString env name value =>
      exact onDatabase_outcome s
        (StatusDatabase.update_changes (StatusItem.setValueAsString_updated env value) name _)
  | setValueAsDouble env name value =>
      exact onDatabase_outcome s
        (StatusDatabase.update_changes (StatusItem.setValueAsDouble_updated env value) name _)
  | setValueAsFloat env name value =>
      exact onDatabase_outcome s
        (StatusDatabase.update_changes (StatusItem.setValueAsFloat_updated env value) name _)
  | setHealth env name health =>
      exact onDatabase_outcome s
        (StatusDatabase.update_changes (StatusItem.setHealth_updated env health) name _)
  | setAlarm env name severity cause message =>
      exact onDatabase_outcome s (StatusDatabase.update_changes
        (StatusItem.setAlarm_updated env severity cause message) name _)
  | clearAlarm env name =>
      exact onDatabase_outcome s
        (StatusDatabase.update_changes (StatusItem.clearAlarm_updated env) name _)
  | getStatusItem name => exact .quiet (.single (.change _ (.lookup name)))
  | postStatusItem sender name =>
      exact onSender_outcome s (fun post => postStatusItem_posted post name s) sender
  | postStatus sender =>
      exact onSender_outcome s (fun post => postItems_posted post _ s) sender

/-- What the changes of the database and the sends keep, every call keeps. -/
theorem step_preserves {P : StatusService → Prop} {op : StatusOp}
    (hchange : ∀ (s : StatusService) (db : StatusDatabase), P s → s.database.Change op.creates db →
      P { s with database := db })
    (hsent : ∀ (s : StatusService) (p : Ptr) (item : StatusItem) (outcome : Except Exn Unit),
      P s → s.database.heap[p]? = some item → P (sent s p item outcome))
    (s : StatusService) (h : P s) : P (step s op) := by
  have heffects : ∀ s', Effects op.creates s s' → P s' := by
    intro s' heffects
    induction heffects with
    | refl => exact h
    | tail _ heffect ih =>
        cases heffect with
        | change db hdb => exact hchange _ db ih hdb
        | sent p item hp _ => exact hsent _ p item _ ih hp
  have hout := step_outcome s op
  generalize step s op = s' at hout ⊢
  cases hout with
  | quiet hquiet => exact heffects s' hquiet
  | thrown hmid p item e hp _ => exact hsent _ p item _ (heffects _ hmid) hp

theorem coherent_step (s : StatusService) (op : StatusOp) (h : s.database.Coherent) :
    (step s op).database.Coherent := by
  refine step_preserves (P := fun s => s.database.Coherent) ?_ ?_ s h
  · intro s db h hdb
    exact h.change hdb
  · intro s p item outcome h hp
    exact h.set hp rfl (h.typed p item hp)

/-- The database is coherent in every state reached. -/
theorem coherent_after (ops : List StatusOp) : (after ops).database.Coherent :=
  Run.invariant (I := fun s : StatusService => s.database.Coherent) StatusDatabase.Coherent.empty
    coherent_step ops

end StatusUtil

end Giapi
