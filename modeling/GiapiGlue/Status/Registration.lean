import GiapiGlue.Status.StatusUtil

set_option autoImplicit false

/-! # Registration of status items

What the two containers of the status database say about each other, and how long an item stays
registered. Both rest on the creation methods consulting `getStatusItem`, which never finds anything
under the empty name. -/

namespace Giapi

namespace StatusDatabase

def nameOf (db : StatusDatabase) (p : Ptr) : Option CxxString := db.heap[p]?.map StatusItem.name

/-- The vector lists each registered item once, and each listed item is registered under its name. -/
structure RepInv (db : StatusDatabase) : Prop where
  distinct : db.statusItemList.Pairwise (fun p q => db.nameOf p ≠ db.nameOf q)
  found : ∀ p ∈ db.statusItemList, ∃ item, db.heap[p]? = some item ∧
    (db.getStatusItem item.name).1 = some p
  once : ∀ name p, (db.getStatusItem name).1 = some p → db.statusItemList.count p = 1

/-- No item has the empty name. -/
def NamesNonEmpty (db : StatusDatabase) : Prop :=
  ∀ (p : Ptr) (item : StatusItem), db.heap[p]? = some item → item.name ≠ []

theorem Coherent.lookup_eq_some {db : StatusDatabase} (h : db.Coherent) {p : Ptr}
    {item : StatusItem} (hp : db.heap[p]? = some item) (hname : item.name ≠ []) :
    db.lookup item.name = some p :=
  (lookup_eq_some_iff db item.name p).2 ⟨hname, h.registered p item hp hname⟩

theorem Coherent.name_of_lookup {db : StatusDatabase} (h : db.Coherent) {name : CxxString} {p : Ptr}
    (hfound : db.lookup name = some p) {item : StatusItem} (hp : db.heap[p]? = some item) :
    item.name = name := by
  obtain ⟨object, hobject, hname⟩ := h.mapped name p ((lookup_eq_some_iff db name p).1 hfound).2
  obtain rfl : object = item := Option.some.inj (hobject.symm.trans hp)
  exact hname

theorem Coherent.mem_statusItemList {db : StatusDatabase} (h : db.Coherent) (p : Ptr) :
    p ∈ db.statusItemList ↔ ∃ item, db.heap[p]? = some item := by
  rw [h.list, List.mem_range]
  constructor
  · intro hp
    exact ⟨db.heap[p], List.getElem?_eq_getElem hp⟩
  · rintro ⟨item, hp⟩
    exact ObjectHeap.lt_of_getElem? hp

/-- A coherent database represents its items properly precisely when none has the empty name. -/
theorem Coherent.repInv_iff {db : StatusDatabase} (h : db.Coherent) :
    RepInv db ↔ NamesNonEmpty db := by
  constructor
  · intro hrep p item hp hname
    obtain ⟨item', hp', hfound⟩ := hrep.found p ((h.mem_statusItemList p).2 ⟨item, hp⟩)
    obtain rfl : item' = item := Option.some.inj (hp'.symm.trans hp)
    rw [getStatusItem_fst, lookup_eq_some_iff] at hfound
    exact hfound.1 hname
  · intro hnames
    have hfound : ∀ p ∈ db.statusItemList, ∃ item, db.heap[p]? = some item ∧
        (db.getStatusItem item.name).1 = some p := by
      intro p hp
      obtain ⟨item, hitem⟩ := (h.mem_statusItemList p).1 hp
      exact ⟨item, hitem, by
        rw [getStatusItem_fst, h.lookup_eq_some hitem (hnames p item hitem)]⟩
    have hnodup : db.statusItemList.Nodup := h.list ▸ List.nodup_range
    refine ⟨hnodup.imp_of_mem ?_, hfound, ?_⟩
    · -- two items of one name would be one, since the name finds both
      intro p q hp hq hne hsame
      obtain ⟨x, hx, hfx⟩ := hfound p hp
      obtain ⟨y, hy, hfy⟩ := hfound q hq
      have hname : x.name = y.name := by simpa [nameOf, hx, hy] using hsame
      rw [hname, hfy] at hfx
      exact hne (Option.some.inj hfx).symm
    · intro name p hp
      rw [getStatusItem_fst, lookup_eq_some_iff] at hp
      obtain ⟨object, hobject, -⟩ := h.mapped name p hp.2
      exact List.count_eq_one_of_mem hnodup ((h.mem_statusItemList p).2 ⟨object, hobject⟩)

theorem NamesNonEmpty.change {creates : Option CxxString} (hcreates : creates ≠ some [])
    {db db' : StatusDatabase} (h : db.NamesNonEmpty) (hchange : Change creates db db') :
    db'.NamesNonEmpty := by
  intro p item hp
  cases hchange with
  | lookup name => exact h p item (by simpa using hp)
  | store name object hname hfree hobject _ _ =>
      rw [store, ObjectHeap.getElem?_alloc] at hp
      split at hp
      · rw [Option.some.injEq] at hp
        rw [← hp, hobject]
        rintro rfl
        exact hcreates hname
      · exact h p item hp
  | update q object object' hq hupdated =>
      rw [ObjectHeap.getElem?_set_of_some hq] at hp
      split at hp
      · rw [Option.some.injEq] at hp
        rw [← hp, hupdated.name]
        exact h q object hq
      · exact h p item hp

/-- The item at `p` is what `name` finds, and is of that name, kind and type. -/
structure Registered (db : StatusDatabase) (p : Ptr) (name : CxxString) (kind : ItemKind)
    (type : ValueType) : Prop where
  found : (db.getStatusItem name).1 = some p
  item : ∃ item, db.heap[p]? = some item ∧ item.name = name ∧ item.kind = kind ∧ item.type = type

section Registered

variable {db db' : StatusDatabase} {p : Ptr} {name : CxxString} {kind : ItemKind} {type : ValueType}

/-- Only a change of name, kind or type could end a registration. -/
theorem Registered.set (h : Registered db p name kind type) {q : Ptr} {object object' : StatusItem}
    (hq : db.heap[q]? = some object) (hname : object'.name = object.name)
    (hkind : object'.kind = object.kind) (htype : object'.type = object.type) :
    Registered { db with heap := db.heap.set q object' } p name kind type := by
  obtain ⟨hfound, item, hp, hitem⟩ := h
  refine ⟨by rw [getStatusItem_fst] at hfound ⊢; exact hfound, ?_⟩
  by_cases hpq : p = q
  · subst hpq
    obtain rfl : object = item := Option.some.inj (hq.symm.trans hp)
    refine ⟨object', ?_, ?_⟩
    · show (db.heap.set p object')[p]? = _
      rw [ObjectHeap.getElem?_set_of_some hq, if_pos rfl]
    · rwa [hname, hkind, htype]
  · refine ⟨item, ?_, hitem⟩
    show (db.heap.set q object')[p]? = _
    rw [ObjectHeap.getElem?_set_of_some hq, if_neg hpq, hp]

theorem Registered.change {creates : Option CxxString} (h : Registered db p name kind type)
    (hchange : Change creates db db') : Registered db' p name kind type := by
  cases hchange with
  | lookup k =>
      obtain ⟨hfound, hitem⟩ := h
      rw [getStatusItem_fst] at hfound
      exact ⟨by rwa [getStatusItem_fst, getStatusItem_lookup], by rwa [getStatusItem_heap]⟩
  | store k object _ hfree _ _ _ =>
      obtain ⟨hfound, item, hp, hitem⟩ := h
      rw [getStatusItem_fst] at hfound
      have hname : name ≠ [] := ((lookup_eq_some_iff db name p).1 hfound).1
      -- what is stored goes under a name that found nothing
      have hother : name ≠ k := by
        rintro rfl
        rw [hfree] at hfound
        exact absurd hfound (by simp)
      refine ⟨?_, item, ObjectHeap.getElem?_alloc_of_some hp object, hitem⟩
      rw [getStatusItem_fst, store_lookup k name object db hname, if_neg hother, hfound]
  | update q object object' hq hupdated =>
      exact h.set hq hupdated.name hupdated.kind hupdated.type

/-- A creation that answers `OK` registers its object, unless the name is empty. -/
theorem registered_create (object : StatusItem) (hobject : object.name = name) (hname : name ≠ [])
    (hok : (db.create name object).1 = .ok) :
    Registered (db.create name object).2 db.heap.length name object.kind object.type := by
  rw [create_snd, if_pos ((create_ok_iff name object db).1 hok)]
  refine ⟨?_, object, ?_, hobject, rfl, rfl⟩
  · rw [getStatusItem_fst, store_lookup _ _ _ _ hname, if_pos rfl, getStatusItem_heap]
  · rw [store, ObjectHeap.getElem?_alloc, getStatusItem_heap, if_pos rfl]

end Registered

end StatusDatabase

namespace StatusUtil

open StatusDatabase (RepInv NamesNonEmpty Registered)

/-- The three creation calls have one body. -/
theorem call_of_created {op : StatusOp} {name : CxxString} {kind : ItemKind} {type : ValueType}
    (h : op.created = some (name, kind, type)) :
    ∃ env cls, ItemClass.kind cls = kind ∧
      call op = creation (·.create name (StatusItem.construct env name type cls)) := by
  cases op with
  | createStatusItem env n t =>
      obtain ⟨rfl, rfl, rfl⟩ : n = name ∧ ItemKind.basic = kind ∧ t = type := by
        simpa [StatusOp.created] using h
      exact ⟨env, .statusItem, rfl, rfl⟩
  | createAlarmStatusItem env n t =>
      obtain ⟨rfl, rfl, rfl⟩ : n = name ∧ ItemKind.alarm = kind ∧ t = type := by
        simpa [StatusOp.created] using h
      exact ⟨env, .alarmStatusItem StatusItem.initialAlarm, rfl, rfl⟩
  | createHealthStatusItem env n =>
      obtain ⟨rfl, rfl, rfl⟩ : n = name ∧ ItemKind.health = kind ∧ ValueType.int = type := by
        simpa [StatusOp.created] using h
      exact ⟨env, .healthStatusItem, rfl, rfl⟩
  | _ => exact absurd h (by simp [StatusOp.created])

/-- Whatever is registered stays registered. -/
theorem registered_step {p : Ptr} {name : CxxString} {kind : ItemKind} {type : ValueType}
    (s : StatusService) (op : StatusOp) (h : Registered s.database p name kind type) :
    Registered (step s op).database p name kind type := by
  refine step_preserves (P := fun s => Registered s.database p name kind type) ?_ ?_ s h
  · intro s db h hdb
    exact h.change hdb
  · intro s q item outcome h hq
    exact h.set hq rfl rfl rfl

theorem namesNonEmpty_step (s : StatusService) (op : StatusOp) (h : s.database.NamesNonEmpty)
    (hop : op.creates ≠ some []) : (step s op).database.NamesNonEmpty := by
  refine step_preserves (P := fun s => s.database.NamesNonEmpty) ?_ ?_ s h
  · intro s db h hdb
    exact h.change hop hdb
  · intro s p item outcome h hp q other hq
    have hq' : (s.database.heap.set p item.clearChanged)[q]? = some other := hq
    rw [ObjectHeap.getElem?_set_of_some hp] at hq'
    split at hq'
    · rw [Option.some.injEq] at hq'
      rw [← hq']
      exact h p item hp
    · exact h q other hq'

/-- Every item created with `OK` is registered from then on, as the item it was created as. -/
def CreatedStay (ops : List StatusOp) : Prop :=
  ∀ pre op rest, ops = pre ++ op :: rest → ∀ name kind type, op.created = some (name, kind, type) →
    (call op (after pre)).1 = .ok (.status .ok) → ∀ later, later <+: rest →
      Registered (after (pre ++ op :: later)).database (after pre).database.heap.length name kind type

/-- No call asks for an item with the empty name. -/
def CreatesNamed (ops : List StatusOp) : Prop := ∀ op ∈ ops, op.creates ≠ some []

theorem creation_ok_iff {name : CxxString} {object : StatusItem} (s : StatusService) :
    (creation (·.create name object) s).1 = .ok (.status .ok) ↔
      (s.database.create name object).1 = .ok := by
  simp [creation, onDatabase, Except.map]

theorem createdStay_of_createsNamed {ops : List StatusOp} (h : CreatesNamed ops) :
    CreatedStay ops := by
  intro pre op rest hops name kind type hcreated hok later hlater
  obtain ⟨env, cls, rfl, hcall⟩ := call_of_created hcreated
  have hname : name ≠ [] := by
    rintro rfl
    exact h op (by simp [hops]) (by simp [StatusOp.creates, hcreated])
  rw [hcall, creation_ok_iff] at hok
  have hregistered := StatusDatabase.registered_create
    (StatusItem.construct env name type cls) rfl hname hok
  rw [after, Run.after_append, Run.after_cons]
  refine Run.persists
    (Q := fun s : StatusService => Registered s.database _ name cls.kind type)
    registered_step ?_ later
  show Registered (call op (after pre)).2.database _ name cls.kind type
  rw [hcall]
  exact hregistered

theorem repInv_of_createsNamed {ops : List StatusOp} (h : CreatesNamed ops) :
    Run.Always step (fun s : StatusService => s.database.RepInv) initial ops := by
  have hnames : Run.Always step (fun s : StatusService => s.database.NamesNonEmpty) initial ops := by
    refine Run.always_of_guarded (J := fun _ => True) (G := fun _ op => op.creates ≠ some [])
      (fun _ => trivial) (fun p item hp => ?_) (fun s op _ hs hop => namesNonEmpty_step s op hs hop)
      (fun pre op hpre => h op (hpre.subset (by simp)))
    simp [initial, StatusDatabase.empty] at hp
  exact fun pre hpre => (coherent_after pre).repInv_iff.2 (hnames pre hpre)

/-- **Registration.** The database represents its items properly in every state of a run and keeps
    what was created with `OK`, precisely if no call of the run creates an item without a name. -/
theorem repInv_and_createdStay_iff (ops : List StatusOp) :
    (Run.Always step (fun s : StatusService => s.database.RepInv) initial ops ∧ CreatedStay ops) ↔
      CreatesNamed ops := by
  constructor
  · rintro ⟨-, hstay⟩ op hop hcreates
    obtain ⟨⟨name, kind, type⟩, hcreated, rfl⟩ := Option.map_eq_some_iff.1 hcreates
    obtain ⟨pre, rest, hops⟩ := List.append_of_mem hop
    obtain ⟨env, cls, rfl, hcall⟩ := call_of_created hcreated
    have hok : (call op (after pre)).1 = .ok (.status .ok) := by
      rw [hcall, creation_ok_iff, StatusDatabase.create_ok_iff]
      rfl
    have hfound := (hstay pre op rest hops _ _ _ hcreated hok [] List.nil_prefix).found
    exact absurd hfound (by simp [StatusDatabase.getStatusItem])
  · intro h
    exact ⟨repInv_of_createsNamed h, createdStay_of_createsNamed h⟩

/-- Two items without a name; the clock cannot be read. -/
def unnamedItems : List StatusOp :=
  [.createStatusItem { gettimeofday := none, memory := 0 } [] .int,
    .createAlarmStatusItem { gettimeofday := none, memory := 0 } [] .string]

/-- Both creations answer `OK`, and two items of one name are listed. -/
theorem unnamedItems_not_distinct :
    ¬ (Run.Always step (fun s : StatusService => s.database.RepInv) initial unnamedItems ∧
      CreatedStay unnamedItems) := by
  rintro ⟨halways, -⟩
  have hdistinct := halways.final.distinct
  exact absurd hdistinct (by decide)

end StatusUtil

end Giapi
