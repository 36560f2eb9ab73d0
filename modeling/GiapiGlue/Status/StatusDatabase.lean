import GiapiGlue.Lib.ObjectHeap
import GiapiGlue.Lib.UnorderedMap
import GiapiGlue.Status.StatusItem

set_option autoImplicit false

/-! # The status database

`StatusDatabase`: a hash map from names to items and a vector of the same items, updated separately.
An item is shared between the two by reference, so the objects live in a heap and both containers
hold pointers into it. What any method does to the database is a sequence of three kinds of change
(`Change`), and `Coherent` is what all of them keep. -/

namespace Giapi

structure StatusDatabase where
  heap : ObjectHeap StatusItem
  map : UnorderedMap CxxString (Option Ptr)
  statusItemList : List Ptr

namespace StatusDatabase

/-- The database before the first call. -/
def empty : StatusDatabase := { heap := [], map := ∅, statusItemList := [] }

/-! ## Lookup and creation -/

/-- `getStatusItem`: the empty name finds nothing; any other name that is absent is inserted with a
    null pointer by `_map[name]`. -/
def getStatusItem (name : CxxString) (db : StatusDatabase) : Option Ptr × StatusDatabase :=
  if name.isEmpty then
    (none, db)
  else
    let (item, map) := db.map.subscript none name
    (item, { db with map })

/-- `_map[name] = item; _statusItemList.push_back(item)` for a new object. -/
def store (name : CxxString) (object : StatusItem) (db : StatusDatabase) : StatusDatabase :=
  { heap := db.heap ++ [object]
    map := db.map.insert name (some db.heap.length)
    statusItemList := db.statusItemList ++ [db.heap.length] }

/-- The body the three creation methods share; `object` is the new item. -/
def create (name : CxxString) (object : StatusItem) (db : StatusDatabase) :
    Status × StatusDatabase :=
  match db.getStatusItem name with
  | (some _, db) => (.error, db)
  | (none, db) => (.ok, db.store name object)

def createStatusItem (env : CallEnv) (name : CxxString) (type : ValueType) (db : StatusDatabase) :
    Status × StatusDatabase :=
  db.create name (StatusItem.construct env name type .statusItem)

def createAlarmStatusItem (env : CallEnv) (name : CxxString) (type : ValueType)
    (db : StatusDatabase) : Status × StatusDatabase :=
  db.create name (StatusItem.construct env name type (.alarmStatusItem StatusItem.initialAlarm))

def createHealthStatusItem (env : CallEnv) (name : CxxString) (db : StatusDatabase) :
    Status × StatusDatabase :=
  db.create name (StatusItem.construct env name .int .healthStatusItem)

/-! ## Setters -/

/-- The body the setters share: look the item up, then call its method `f`. -/
def update (name : CxxString) (f : StatusItem → Except Exn Status × StatusItem)
    (db : StatusDatabase) : Except Exn Status × StatusDatabase :=
  match db.getStatusItem name with
  | (none, db) => (.ok .error, db)
  | (some statusItem, db) =>
    match db.heap[statusItem]? with
    | none => (.error .outOfBounds, db)
    | some object =>
      let (result, object) := f object
      (result, { db with heap := db.heap.set statusItem object })

def setHealth (env : CallEnv) (name : CxxString) (health : Health) :
    StatusDatabase → Except Exn Status × StatusDatabase :=
  update name (StatusItem.setHealth env health)

def setStatusValueAsInt (env : CallEnv) (name : CxxString) (value : CInt) :
    StatusDatabase → Except Exn Status × StatusDatabase :=
  update name (StatusItem.setValueAsInt env value)

def setStatusValueAsString (env : CallEnv) (name : CxxString) (value : CxxString) :
    StatusDatabase → Except Exn Status × StatusDatabase :=
  update name (StatusItem.setValueAsString env value)

def setStatusValueAsDouble (env : CallEnv) (name : CxxString) (value : CDouble) :
    StatusDatabase → Except Exn Status × StatusDatabase :=
  update name (StatusItem.setValueAsDouble env value)

def setStatusValueAsFloat (env : CallEnv) (name : CxxString) (value : CFloat) :
    StatusDatabase → Except Exn Status × StatusDatabase :=
  update name (StatusItem.setValueAsFloat env value)

def setAlarm (env : CallEnv) (name : CxxString) (severity : Severity) (cause : Cause)
    (message : CxxString) : StatusDatabase → Except Exn Status × StatusDatabase :=
  update name (StatusItem.setAlarm env severity cause message)

def clearAlarm (env : CallEnv) (name : CxxString) :
    StatusDatabase → Except Exn Status × StatusDatabase :=
  update name (StatusItem.clearAlarm env)

/-! ## Lookup, as a function of the map -/

/-- The item registered under a name. -/
def lookup (db : StatusDatabase) (name : CxxString) : Option Ptr :=
  if name = [] then none else (db.map.lookup name).getD none

theorem getStatusItem_fst (name : CxxString) (db : StatusDatabase) :
    (db.getStatusItem name).1 = db.lookup name := by
  unfold getStatusItem lookup
  simp only [List.isEmpty_iff]
  split
  · rfl
  · exact UnorderedMap.subscript_fst db.map none name

@[simp] theorem getStatusItem_heap (name : CxxString) (db : StatusDatabase) :
    (db.getStatusItem name).2.heap = db.heap := by
  unfold getStatusItem
  split <;> rfl

@[simp] theorem getStatusItem_statusItemList (name : CxxString) (db : StatusDatabase) :
    (db.getStatusItem name).2.statusItemList = db.statusItemList := by
  unfold getStatusItem
  split <;> rfl

/-- A stored pointer is never touched by a lookup, and a lookup never stores one. -/
theorem getStatusItem_map (name k : CxxString) (p : Ptr) (db : StatusDatabase) :
    (db.getStatusItem name).2.map.lookup k = some (some p) ↔ db.map.lookup k = some (some p) := by
  unfold getStatusItem
  split
  · rfl
  · have hgetD := UnorderedMap.lookup_subscript_getD db.map none name k
    have hiff : ∀ o : Option (Option Ptr), o = some (some p) ↔ o.getD none = some p := by
      intro o
      rcases o with _ | _ | q <;> simp
    rw [hiff, hiff]
    exact iff_of_eq (congrArg (· = some p) hgetD)

@[simp] theorem getStatusItem_lookup (name k : CxxString) (db : StatusDatabase) :
    (db.getStatusItem name).2.lookup k = db.lookup k := by
  unfold lookup
  split
  · rfl
  · unfold getStatusItem
    split
    · rfl
    · exact UnorderedMap.lookup_subscript_getD db.map none name k

theorem lookup_eq_some_iff (db : StatusDatabase) (name : CxxString) (p : Ptr) :
    db.lookup name = some p ↔ name ≠ [] ∧ db.map.lookup name = some (some p) := by
  unfold lookup
  by_cases hname : name = []
  · simp [hname]
  · rw [if_neg hname]
    rcases h : db.map.lookup name with _ | _ | q <;> simp [hname]

theorem store_map (name k : CxxString) (object : StatusItem) (db : StatusDatabase) :
    (db.store name object).map.lookup k
      = if k = name then some (some db.heap.length) else db.map.lookup k :=
  UnorderedMap.lookup_insert_if db.map name (some db.heap.length) k

theorem store_lookup (name k : CxxString) (object : StatusItem) (db : StatusDatabase)
    (hk : k ≠ []) : (db.store name object).lookup k
      = if k = name then some db.heap.length else db.lookup k := by
  unfold lookup
  rw [store_map, if_neg hk, if_neg hk]
  split <;> rfl

/-! ## What a method can do -/

/-- One change of the database, by a call that asks for the creation of `creates`. -/
inductive Change (creates : Option CxxString) (db : StatusDatabase) : StatusDatabase → Prop
  | lookup (name : CxxString) : Change creates db (db.getStatusItem name).2
  /-- A new object of its type, under a name nothing is registered under. -/
  | store (name : CxxString) (object : StatusItem) (hcreates : creates = some name)
      (hfree : db.lookup name = none) (hname : object.name = name) (htyped : object.WellTyped)
      (hdirty : object.changedFlag = true) : Change creates db (db.store name object)
  /-- A setter call on an object of the heap. -/
  | update (p : Ptr) (object object' : StatusItem) (hp : db.heap[p]? = some object)
      (hupdated : StatusItem.Updated object object') :
      Change creates db { db with heap := db.heap.set p object' }

/-- A sequence of changes. -/
abbrev Changes (creates : Option CxxString) : StatusDatabase → StatusDatabase → Prop :=
  Relation.ReflTransGen (Change creates)

theorem create_ok_iff (name : CxxString) (object : StatusItem) (db : StatusDatabase) :
    (db.create name object).1 = .ok ↔ db.lookup name = none := by
  have hfst := db.getStatusItem_fst name
  unfold create
  split
  · next p db' h => rw [h] at hfst; simp [← hfst]
  · next db' h => rw [h] at hfst; simp [← hfst]

/-- A creation that answers `OK` stores the object after its lookup; any other only looks up. -/
theorem create_snd (name : CxxString) (object : StatusItem) (db : StatusDatabase) :
    (db.create name object).2 = if db.lookup name = none
      then (db.getStatusItem name).2.store name object else (db.getStatusItem name).2 := by
  have hfst := db.getStatusItem_fst name
  unfold create
  split
  · next p db' h => rw [h] at hfst; rw [if_neg (by simp [← hfst]), h]
  · next db' h => rw [h] at hfst; rw [if_pos hfst.symm, h]

theorem create_changes {name : CxxString} {object : StatusItem} (hname : object.name = name)
    (htyped : object.WellTyped) (hdirty : object.changedFlag = true) (db : StatusDatabase) :
    Changes (some name) db (db.create name object).2 := by
  have hlookup : Changes (some name) db (db.getStatusItem name).2 := .single (.lookup name)
  rw [create_snd]
  split
  · next hfree =>
      exact hlookup.tail (.store name object rfl (by simpa using hfree) hname htyped hdirty)
  · exact hlookup

theorem update_changes {f : StatusItem → Except Exn Status × StatusItem}
    (hf : ∀ object, StatusItem.Updated object (f object).2) (name : CxxString)
    (db : StatusDatabase) : Changes none db (db.update name f).2 := by
  have hlookup : Changes none db (db.getStatusItem name).2 := .single (.lookup name)
  unfold update
  split
  · next db' h => rwa [h] at hlookup
  · next p db' h =>
      rw [h] at hlookup
      split
      · exact hlookup
      · next object hp => exact hlookup.tail (.update p object (f object).2 hp (hf object))

/-! ## Where a method reaches

A creation adds one object and touches no other; a setter changes the object its name finds and no
other. The rest of the database is as a lookup leaves it. -/

theorem getStatusItem_eq (name : CxxString) (db : StatusDatabase) :
    db.getStatusItem name = (db.lookup name, (db.getStatusItem name).2) :=
  Prod.ext (db.getStatusItem_fst name) rfl

/-- Looking up a name that is registered inserts nothing. -/
theorem getStatusItem_of_found {name : CxxString} {db : StatusDatabase} {p : Ptr}
    (h : db.lookup name = some p) : db.getStatusItem name = (some p, db) := by
  obtain ⟨hname, hmap⟩ := (lookup_eq_some_iff db name p).1 h
  rw [getStatusItem, if_neg (by simpa using hname)]
  simp only [UnorderedMap.subscript, hmap]

theorem update_of_none {name : CxxString} {db : StatusDatabase} (h : db.lookup name = none)
    (f : StatusItem → Except Exn Status × StatusItem) :
    db.update name f = (.ok .error, (db.getStatusItem name).2) := by
  rw [update, getStatusItem_eq, h]

theorem update_of_some {name : CxxString} {db : StatusDatabase} {p : Ptr} {object : StatusItem}
    (h : db.lookup name = some p) (hp : db.heap[p]? = some object)
    (f : StatusItem → Except Exn Status × StatusItem) :
    db.update name f = ((f object).1,
      { (db.getStatusItem name).2 with heap := db.heap.set p (f object).2 }) := by
  rw [update, getStatusItem_eq, h]
  simp only [getStatusItem_heap, hp]

theorem update_dangling {name : CxxString} {db : StatusDatabase} {p : Ptr}
    (h : db.lookup name = some p) (hp : db.heap[p]? = none)
    (f : StatusItem → Except Exn Status × StatusItem) :
    db.update name f = (.error .outOfBounds, (db.getStatusItem name).2) := by
  rw [update, getStatusItem_eq, h]
  simp only [getStatusItem_heap, hp]

/-- The objects after a setter call. -/
theorem update_heap (name : CxxString) (f : StatusItem → Except Exn Status × StatusItem)
    (db : StatusDatabase) (q : Ptr) :
    (db.update name f).2.heap[q]? = if db.lookup name = some q
      then db.heap[q]?.map (fun object => (f object).2) else db.heap[q]? := by
  cases h : db.lookup name with
  | none => simp [update_of_none h]
  | some p =>
      cases hp : db.heap[p]? with
      | none =>
          rw [update_dangling h hp, getStatusItem_heap]
          split
          · next hq =>
              obtain rfl : p = q := Option.some.inj hq
              simp [hp]
          · rfl
      | some object =>
          rw [update_of_some h hp]
          show (db.heap.set p (f object).2)[q]? = _
          rw [ObjectHeap.getElem?_set_of_some hp]
          by_cases hq : q = p
          · subst hq
            simp [hp]
          · rw [if_neg hq, if_neg (fun heq => hq (Option.some.inj heq).symm)]

@[simp] theorem update_statusItemList (name : CxxString)
    (f : StatusItem → Except Exn Status × StatusItem) (db : StatusDatabase) :
    (db.update name f).2.statusItemList = db.statusItemList := by
  cases h : db.lookup name with
  | none => simp [update_of_none h]
  | some p =>
      cases hp : db.heap[p]? with
      | none => simp [update_dangling h hp]
      | some object => simp [update_of_some h hp]

@[simp] theorem update_lookup (name k : CxxString)
    (f : StatusItem → Except Exn Status × StatusItem) (db : StatusDatabase) :
    (db.update name f).2.lookup k = db.lookup k := by
  have hlookup := getStatusItem_lookup name k db
  cases h : db.lookup name with
  | none => rwa [update_of_none h]
  | some p =>
      cases hp : db.heap[p]? with
      | none => rwa [update_dangling h hp]
      | some object =>
          rw [update_of_some h hp]
          exact hlookup

/-- The objects after a creation call. -/
theorem create_heap (name : CxxString) (object : StatusItem) (db : StatusDatabase) (q : Ptr) :
    (db.create name object).2.heap[q]? = if db.lookup name = none ∧ q = db.heap.length
      then some object else db.heap[q]? := by
  rw [create_snd]
  by_cases hfree : db.lookup name = none
  · rw [if_pos hfree, store, getStatusItem_heap, ObjectHeap.getElem?_alloc]
    simp only [hfree, true_and]
  · rw [if_neg hfree, getStatusItem_heap, if_neg (fun h => hfree h.1)]

/-! ## Coherence

Holds of every database the methods produce, whatever names they are given. -/

structure Coherent (db : StatusDatabase) : Prop where
  /-- The vector holds every object once, in the order of creation. -/
  list : db.statusItemList = List.range db.heap.length
  /-- A stored pointer leads to an object of that name. -/
  mapped : ∀ name p, db.map.lookup name = some (some p) →
    ∃ object, db.heap[p]? = some object ∧ object.name = name
  /-- An object with a name is stored under it. -/
  registered : ∀ p object, db.heap[p]? = some object → object.name ≠ [] →
    db.map.lookup object.name = some (some p)
  typed : ∀ (p : Ptr) (object : StatusItem), db.heap[p]? = some object → object.WellTyped

theorem Coherent.empty : Coherent empty where
  list := rfl
  mapped := fun name p h => by simp [StatusDatabase.empty] at h
  registered := fun p object h => by simp [StatusDatabase.empty] at h
  typed := fun p object h => by simp [StatusDatabase.empty] at h

theorem Coherent.store {db : StatusDatabase} (h : db.Coherent) {object : StatusItem}
    (hfree : db.lookup object.name = none) (htyped : object.WellTyped) :
    (db.store object.name object).Coherent where
  list := by
    rw [StatusDatabase.store, h.list, List.length_append, List.length_singleton, List.range_succ]
  mapped := by
    intro name p hmap
    rw [store_map] at hmap
    rw [StatusDatabase.store, ObjectHeap.getElem?_alloc]
    by_cases hname : name = object.name
    · rw [if_pos hname, Option.some.injEq, Option.some.injEq] at hmap
      exact ⟨object, by rw [if_pos hmap.symm], hname.symm⟩
    · rw [if_neg hname] at hmap
      obtain ⟨old, hp, hold⟩ := h.mapped name p hmap
      exact ⟨old, by rw [if_neg (Nat.ne_of_lt (ObjectHeap.lt_of_getElem? hp)), hp], hold⟩
  registered := by
    intro p old hp hne
    rw [StatusDatabase.store, ObjectHeap.getElem?_alloc] at hp
    rw [store_map]
    by_cases hpnew : p = db.heap.length
    · rw [if_pos hpnew, Option.some.injEq] at hp
      rw [if_pos (by rw [hp]), hpnew]
    · rw [if_neg hpnew] at hp
      have hold := h.registered p old hp hne
      -- the name was free, so the older object has another one
      have hother : old.name ≠ object.name := by
        intro heq
        have hsome := (lookup_eq_some_iff db old.name p).2 ⟨hne, hold⟩
        rw [heq, hfree] at hsome
        exact absurd hsome (by simp)
      rw [if_neg hother, hold]
  typed := by
    intro p old hp
    rw [StatusDatabase.store, ObjectHeap.getElem?_alloc] at hp
    split at hp
    · rw [Option.some.injEq] at hp
      exact hp ▸ htyped
    · exact h.typed p old hp

/-- Coherence looks at the name and the type of an object only. -/
theorem Coherent.set {db : StatusDatabase} (h : db.Coherent) {p : Ptr} {object object' : StatusItem}
    (hp : db.heap[p]? = some object) (hname : object'.name = object.name)
    (htyped : object'.WellTyped) : Coherent { db with heap := db.heap.set p object' } where
  list := by simpa using h.list
  mapped := by
    intro name q hmap
    obtain ⟨old, hq, hold⟩ := h.mapped name q hmap
    rw [ObjectHeap.getElem?_set_of_some hp]
    by_cases hqp : q = p
    · rw [hqp, hp, Option.some.injEq] at hq
      exact ⟨object', by rw [if_pos hqp], by rw [hname, hq, hold]⟩
    · exact ⟨old, by rw [if_neg hqp, hq], hold⟩
  registered := by
    intro q old hq hne
    rw [ObjectHeap.getElem?_set_of_some hp] at hq
    by_cases hqp : q = p
    · rw [if_pos hqp, Option.some.injEq] at hq
      rw [← hq, hname, hqp]
      exact h.registered p object hp (by rw [← hname, hq]; exact hne)
    · rw [if_neg hqp] at hq
      exact h.registered q old hq hne
  typed := by
    intro q old hq
    rw [ObjectHeap.getElem?_set_of_some hp] at hq
    split at hq
    · rw [Option.some.injEq] at hq
      exact hq ▸ htyped
    · exact h.typed q old hq

theorem Coherent.change {creates : Option CxxString} {db db' : StatusDatabase} (h : db.Coherent)
    (hchange : Change creates db db') : db'.Coherent := by
  cases hchange with
  | lookup name =>
      exact
        { list := by rw [getStatusItem_statusItemList, getStatusItem_heap, h.list]
          mapped := fun k p hk => by
            rw [getStatusItem_heap]
            exact h.mapped k p ((getStatusItem_map name k p db).1 hk)
          registered := fun p object hp hne => by
            rw [getStatusItem_heap] at hp
            exact (getStatusItem_map name _ p db).2 (h.registered p object hp hne)
          typed := fun p object hp => h.typed p object (by rwa [getStatusItem_heap] at hp) }
  | store name object _ hfree hname htyped _ =>
      subst hname
      exact h.store hfree htyped
  | update p object object' hp hupdated =>
      exact h.set hp hupdated.name (hupdated.wellTyped (h.typed p object hp))

end StatusDatabase

end Giapi
