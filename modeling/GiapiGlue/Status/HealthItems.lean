import GiapiGlue.Status.StatusCalls

set_option autoImplicit false

/-! # Health items

`setHealth` takes a `health::Health`, but a health item is an `INT` item as well, and `setValueAsInt`
reaches it by name with any integer. Its value is a health throughout a run precisely if no call of the
run does so with another integer. -/

namespace Giapi

/-- One of `GOOD`, `WARNING` and `BAD`. -/
def AnyValue.IsHealth (value : AnyValue) : Prop := ∃ health : Health, value = .int health.toInt

namespace StatusItem

/-- A health item holds a health. -/
def HoldsHealth (item : StatusItem) : Prop := item.kind = .health → item.value.IsHealth

/-- A health item is declared as `INT`. -/
def DeclaredInt (item : StatusItem) : Prop := item.kind = .health → item.type = .int

theorem kind_eq_health {item : StatusItem} :
    item.kind = .health ↔ item.dynamicClass = .healthStatusItem := by
  unfold kind
  cases item.dynamicClass <;> simp [ItemClass.kind]

/-- An integer item ends up with the integer it is given, whether it had it before or not. -/
theorem setValueAsInt_value (env : CallEnv) (value : CInt) {item : StatusItem} {v : CInt}
    (htype : item.type = .int) (hvalue : item.value = .int v) :
    (item.setValueAsInt env value).2.value = .int value := by
  unfold setValueAsInt setValueAs
  simp only [htype, hvalue, AnyValue.getValueAsInt, Functor.map, Except.map]
  by_cases hsame : value = v
  · simp [hsame, hvalue]
  · simp [hsame]

end StatusItem

/-- The health items of the database, and those passed to a sender, hold a health. -/
structure HealthsValid (s : StatusService) : Prop where
  items : s.database.Items StatusItem.HoldsHealth
  sends : ∀ send ∈ s.sends, send.item.HoldsHealth

/-- The call does not give a health item an integer that is no health. -/
def GivesHealth (s : StatusService) (op : StatusOp) : Prop :=
  ∀ env name value, op = .setValueAsInt env name value → ∀ p item,
    s.database.lookup name = some p → s.database.heap[p]? = some item → item.kind = .health →
      ∃ health : Health, value = health.toInt

namespace StatusUtil

/-- Only `createHealthStatusItem` makes health items. -/
theorem constructs_health {op : StatusOp} {object : StatusItem} (hop : op.constructs = some object)
    (hkind : object.kind = .health) :
    ∃ env name, object = StatusItem.construct env name .int .healthStatusItem := by
  rw [StatusItem.kind_eq_health] at hkind
  cases StatusOp.constructs_inv hop with
  | status env name type => exact ItemClass.noConfusion hkind
  | alarm env name type => exact ItemClass.noConfusion hkind
  | health env name => exact ⟨env, name, rfl⟩

theorem declaredInt_after (ops : List StatusOp) :
    (after ops).database.Items StatusItem.DeclaredInt := by
  refine (items_after (Q := StatusItem.DeclaredInt) ?_ ?_ (fun item h => h) ops).1
  · intro op object hop hkind
    obtain ⟨env, name, rfl⟩ := constructs_health hop hkind
    rfl
  · intro op name f item hop h hkind
    have hupdated := StatusOp.sets_updated hop item
    rw [hupdated.kind] at hkind
    rw [hupdated.type]
    exact h hkind

/-! ## One call -/

theorem holdsHealth_construct {op : StatusOp} {object : StatusItem}
    (hop : op.constructs = some object) : object.HoldsHealth := by
  intro hkind
  obtain ⟨env, name, rfl⟩ := constructs_health hop hkind
  exact ⟨.good, rfl⟩

/-- A setter for another type does not touch a health item. -/
theorem holdsHealth_setValueAs {α : Type} {type : ValueType}
    (getValue : AnyValue → Except Exn α) (equal : α → α → Bool) (store : α → AnyValue)
    (env : CallEnv) (value : α) {item : StatusItem} (htype : type ≠ .int)
    (hint : item.DeclaredInt) (h : item.HoldsHealth) :
    (StatusItem.setValueAs type getValue equal store env value item).2.HoldsHealth := by
  rcases StatusItem.setValueAs_snd type getValue equal store env value item with hsame | ⟨hdecl, hstored⟩
  · rwa [hsame]
  · intro hkind
    rw [hstored] at hkind
    exact absurd (hdecl.symm.trans (hint hkind)) htype

theorem holdsHealth_setValueAsInt (env : CallEnv) {value : CInt} {item : StatusItem}
    (hint : item.DeclaredInt) (h : item.HoldsHealth)
    (hvalue : item.kind = .health → ∃ health : Health, value = health.toInt) :
    (item.setValueAsInt env value).2.HoldsHealth := by
  intro hkind
  rw [(StatusItem.setValueAsInt_updated env value item).kind] at hkind
  obtain ⟨old, hold⟩ := h hkind
  obtain ⟨health, rfl⟩ := hvalue hkind
  exact ⟨health, StatusItem.setValueAsInt_value env _ (hint hkind) hold⟩

/-- An alarm item is no health item, before or after. -/
theorem holdsHealth_setAlarmState (env : CallEnv) (severity : Severity) (cause : Cause)
    (message : CxxString) {item : StatusItem} {alarm : AlarmFields}
    (hclass : item.dynamicClass = .alarmStatusItem alarm) :
    (StatusItem.setAlarmState env severity cause message item alarm).2.HoldsHealth := by
  intro hkind
  rw [(StatusItem.setAlarmState_updated env severity cause message hclass).kind,
    StatusItem.kind_eq_health, hclass] at hkind
  exact ItemClass.noConfusion hkind

/-- What a call makes of the item it finds. -/
theorem holdsHealth_sets {s : StatusService} {op : StatusOp} (hgives : GivesHealth s op)
    {name : CxxString} {f : StatusItem → Except Exn Status × StatusItem}
    (hop : op.sets = some (name, f)) {p : Ptr} {item : StatusItem}
    (hfound : s.database.lookup name = some p) (hp : s.database.heap[p]? = some item)
    (hint : item.DeclaredInt) (h : item.HoldsHealth) : (f item).2.HoldsHealth := by
  cases StatusOp.sets_inv hop with
  | int env _ value =>
      exact holdsHealth_setValueAsInt env hint h (hgives env name value rfl p item hfound hp)
  | string env _ value => exact holdsHealth_setValueAs _ _ _ env value (by simp) hint h
  | double env _ value => exact holdsHealth_setValueAs _ _ _ env value (by simp) hint h
  | float env _ value => exact holdsHealth_setValueAs _ _ _ env value (by simp) hint h
  | health env _ health =>
      unfold StatusItem.setHealth
      split
      · exact holdsHealth_setValueAsInt env hint h (fun _ => ⟨health, rfl⟩)
      · exact h
  | alarm env _ severity cause message =>
      unfold StatusItem.setAlarm
      split
      · next hclass => exact holdsHealth_setAlarmState env severity cause message hclass
      · exact h
  | clear env _ =>
      unfold StatusItem.clearAlarm
      split
      · next hclass =>
          rw [StatusItem.clearAlarmState_ok]
          exact holdsHealth_setAlarmState env .alarmOk .alarmCauseOk [] hclass
      · exact h

/-- **One call.** It keeps the healths valid precisely if it gives no other integer. -/
theorem healthsValid_step_iff {s : StatusService} {op : StatusOp}
    (hint : s.database.Items StatusItem.DeclaredInt) (h : HealthsValid s) :
    HealthsValid (step s op) ↔ GivesHealth s op := by
  constructor
  · intro hafter env name value hop p item hfound hp hkind
    subst hop
    obtain ⟨old, hold⟩ := h.items p item hp hkind
    have hp' : (step s (.setValueAsInt env name value)).database.heap[p]?
        = some (item.setValueAsInt env value).2 := by
      show (s.database.update name (StatusItem.setValueAsInt env value)).2.heap[p]? = _
      rw [StatusDatabase.update_heap, if_pos hfound, hp]
      rfl
    have hkind' : (item.setValueAsInt env value).2.kind = .health := by
      rw [(StatusItem.setValueAsInt_updated env value item).kind, hkind]
    obtain ⟨health, hhealth⟩ := hafter.items p _ hp' hkind'
    rw [StatusItem.setValueAsInt_value env value (hint p item hp hkind) hold] at hhealth
    exact ⟨health, AnyValue.int.inj hhealth⟩
  · intro hgives
    obtain ⟨hitems, hsends⟩ := items_step (Q := StatusItem.HoldsHealth)
      (fun object hop => holdsHealth_construct hop)
      (fun name f p item hop hfound hp hitem =>
        holdsHealth_sets hgives hop hfound hp (hint p item hp) hitem)
      (fun item hitem => hitem) h.items h.sends
    exact ⟨hitems, hsends⟩

/-! ## Runs -/

/-- **Health items.** In every state of a run, and in every message it sends, the health items hold a
    health, precisely if no `setValueAsInt` of the run gives a health item another integer. -/
theorem healthsValid_iff_givesHealth (ops : List StatusOp) :
    Run.Always step HealthsValid initial ops ↔ Run.Guarded step GivesHealth initial ops := by
  refine Run.always_iff_guarded
    (J := fun s : StatusService => s.database.Items StatusItem.DeclaredInt)
    declaredInt_after ⟨?_, ?_⟩ (fun s op hint h => healthsValid_step_iff hint h) ops
  · intro p item hp
    simp [initial, StatusDatabase.empty] at hp
  · intro send hsend
    simp [initial] at hsend

/-- A health item that is given a number. -/
def numberForHealth : List StatusOp :=
  [.createHealthStatusItem { gettimeofday := none, memory := 0 } (str "h"),
    .setValueAsInt { gettimeofday := none, memory := 0 } (str "h") 7]

/-- 7 is stored, and it is no health. -/
theorem number_in_health_item : ¬ Run.Always step HealthsValid initial numberForHealth := by
  intro h
  obtain ⟨health, hhealth⟩ := h.final.items 0 _ rfl rfl
  have hseven : AnyValue.int 7 = .int health.toInt := hhealth
  cases health <;> exact absurd hseven (by decide)

end StatusUtil

end Giapi
