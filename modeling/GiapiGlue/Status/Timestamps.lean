import GiapiGlue.Status.Mirror
import GiapiGlue.Util.TimeUtil

set_option autoImplicit false

/-! # The timestamps of status items

`_mark` stamps an item with the time of the clock, in milliseconds. As long as the clock does not go back,
neither do the timestamps a receiver sees on a topic, whatever happens to the sends; and as long as it can
be read, a timestamp tells since when its item has been what it is. -/

namespace Giapi

open StatusSerializerVisitor (StatusMessage messageOf Serialized)

/-! ## The clock -/

namespace Timeval

/-- The reading is normal, and its milliseconds fit into 64 bits. -/
structure Readable (tv : Timeval) : Prop where
  normal : tv.Normal
  lower : -2 ^ 63 ≤ tv.tvSec.toInt * 1000
  upper : tv.tvSec.toInt * 1000 + 999 < 2 ^ 63

/-- The milliseconds of a reading are the floor of its instant. -/
theorem toInt_toMillis {tv : Timeval} (h : tv.Readable) : tv.toMillis.toInt = tv.instant / 1000 := by
  obtain ⟨⟨hnonneg, hlt⟩, hlower, hupper⟩ := h
  have hthousand : (1000#64).toInt = 1000 := by decide
  have hsec : (tv.tvSec * 1000#64).toInt = tv.tvSec.toInt * 1000 := by
    rw [BitVec.toInt_mul, hthousand]
    exact Int.bmod_eq_of_le (by omega) (by omega)
  have husec : (tv.tvUsec.sdiv 1000#64).toInt = tv.tvUsec.toInt / 1000 := by
    rw [BitVec.toInt_sdiv, hthousand, Int.tdiv_eq_ediv_of_nonneg hnonneg]
    exact Int.bmod_eq_of_le (by omega) (by omega)
  have hsum : tv.toMillis.toInt = tv.tvSec.toInt * 1000 + tv.tvUsec.toInt / 1000 := by
    show (tv.tvSec * 1000#64 + tv.tvUsec.sdiv 1000#64).toInt = _
    rw [BitVec.toInt_add, hsec, husec]
    exact Int.bmod_eq_of_le (by omega) (by omega)
  rw [hsum, instant]
  omega

theorem toMillis_mono {tv tv' : Timeval} (h : tv.Readable) (h' : tv'.Readable)
    (hle : tv.instant ≤ tv'.instant) : tv.toMillis.toInt ≤ tv'.toMillis.toInt := by
  rw [toInt_toMillis h, toInt_toMillis h']
  omega

end Timeval

/-- What a call finds outside the library, if it makes or sets an item. -/
def StatusOp.env : StatusOp → Option CallEnv
  | .createStatusItem env _ _ => some env
  | .createAlarmStatusItem env _ _ => some env
  | .createHealthStatusItem env _ => some env
  | .setValueAsInt env _ _ => some env
  | .setValueAsString env _ _ => some env
  | .setValueAsDouble env _ _ => some env
  | .setValueAsFloat env _ _ => some env
  | .setHealth env _ _ => some env
  | .setAlarm env _ _ _ _ => some env
  | .clearAlarm env _ => some env
  | _ => none

/-- The clock reading of a call, if it has one. -/
def StatusOp.reading (op : StatusOp) : Option Timeval := op.env.bind CallEnv.gettimeofday

/-- The readings of a run, in order. -/
def readings (ops : List StatusOp) : List Timeval := ops.filterMap StatusOp.reading

/-- The clock can be read whenever an item is made, and it never goes back. -/
structure ClockRuns (ops : List StatusOp) : Prop where
  creations : ∀ op ∈ ops, op.constructs ≠ none → op.reading ≠ none
  readable : ∀ tv ∈ readings ops, tv.Readable
  forward : (readings ops).Pairwise (fun tv tv' => tv.instant ≤ tv'.instant)

theorem readings_concat (ops : List StatusOp) (op : StatusOp) :
    readings (ops ++ [op]) = readings ops ++ op.reading.toList := by
  cases h : op.reading <;> simp [readings, h]

theorem ClockRuns.init {ops : List StatusOp} {op : StatusOp} (h : ClockRuns (ops ++ [op])) :
    ClockRuns ops := by
  obtain ⟨hcreations, hreadable, hforward⟩ := h
  rw [readings_concat] at hreadable hforward
  exact ⟨fun o ho => hcreations o (List.mem_append_left _ ho),
    fun tv htv => hreadable tv (List.mem_append_left _ htv), (List.pairwise_append.1 hforward).1⟩

/-- A call that reads the clock finds it no earlier than the calls before. -/
theorem ClockRuns.last {ops : List StatusOp} {op : StatusOp} (h : ClockRuns (ops ++ [op])) {tv : Timeval}
    (hreading : op.reading = some tv) : ∀ earlier ∈ readings ops, earlier.toMillis.toInt ≤ tv.toMillis.toInt := by
  obtain ⟨-, hreadable, hforward⟩ := h
  rw [readings_concat, hreading] at hreadable hforward
  intro earlier hearlier
  exact Timeval.toMillis_mono (hreadable earlier (List.mem_append_left _ hearlier))
    (hreadable tv (by simp)) ((List.pairwise_append.1 hforward).2.2 earlier hearlier tv (by simp))

/-! ## What a call does to a timestamp -/

/-- The item at `p` is what the call made, or what it has set, by its name, an older one to. -/
inductive StatusOp.Leaves (op : StatusOp) (s : StatusService) (p : Ptr) (item : StatusItem) : Prop
  | made (hop : op.constructs = some item) (hnew : s.database.heap[p]? = none)
  | set {f : StatusItem → Except Exn Status × StatusItem} {old : StatusItem}
      (hop : op.sets = some (item.name, f)) (hfound : s.database.lookup item.name = some p)
      (hold : s.database.heap[p]? = some old) (hitem : (f old).2 = item)

/-- A call left the item alone apart from its flag, or changed it, or made it. -/
inductive Touched (op : StatusOp) (s : StatusService) (p : Ptr) (item : StatusItem) : Prop
  | kept (old : StatusItem) (hp : s.database.heap[p]? = some old)
      (h : item.clearChanged = old.clearChanged)
  | undated (old : StatusItem) (hp : s.database.heap[p]? = some old) (henv : op.env ≠ none)
      (hreading : op.reading = none) (htime : item.time = old.time)
  | dated (tv : Timeval) (hreading : op.reading = some tv) (htime : item.time = tv.toMillis)
      (hdirty : item.changedFlag = true) (hleaves : op.Leaves s p item)

/-- A method of an item leaves it alone, or marks it. -/
theorem StatusOp.sets_marks {op : StatusOp} {name : CxxString}
    {f : StatusItem → Except Exn Status × StatusItem} (hop : op.sets = some (name, f))
    (item : StatusItem) : ∃ env, op.env = some env ∧ ((f item).2 = item
      ∨ (f item).2.changedFlag = true ∧ (f item).2.time = (item.mark env).time) := by
  have hvalue : ∀ {α : Type} (type : ValueType) (getValue : AnyValue → Except Exn α)
      (equal : α → α → Bool) (store : α → AnyValue) (env : CallEnv) (value : α),
      (StatusItem.setValueAs type getValue equal store env value item).2 = item
        ∨ (StatusItem.setValueAs type getValue equal store env value item).2.changedFlag = true
          ∧ (StatusItem.setValueAs type getValue equal store env value item).2.time
            = (item.mark env).time := by
    intro α type getValue equal store env value
    rcases StatusItem.setValueAs_snd type getValue equal store env value item with hsame | ⟨-, hset⟩
    · exact Or.inl hsame
    · rw [hset]
      exact Or.inr ⟨rfl, rfl⟩
  have halarm : ∀ (env : CallEnv) (severity : Severity) (cause : Cause) (message : CxxString)
      (alarm : AlarmFields),
      (StatusItem.setAlarmState env severity cause message item alarm).2 = item
        ∨ (StatusItem.setAlarmState env severity cause message item alarm).2.changedFlag = true
          ∧ (StatusItem.setAlarmState env severity cause message item alarm).2.time
            = (item.mark env).time := by
    intro env severity cause message alarm
    unfold StatusItem.setAlarmState
    split_ifs
    · exact Or.inl rfl
    · exact Or.inl rfl
    · exact Or.inr ⟨rfl, rfl⟩
  cases StatusOp.sets_inv hop with
  | int env _ value => exact ⟨env, rfl, hvalue _ _ _ _ env value⟩
  | string env _ value => exact ⟨env, rfl, hvalue _ _ _ _ env value⟩
  | double env _ value => exact ⟨env, rfl, hvalue _ _ _ _ env value⟩
  | float env _ value => exact ⟨env, rfl, hvalue _ _ _ _ env value⟩
  | health env _ health =>
      refine ⟨env, rfl, ?_⟩
      unfold StatusItem.setHealth
      split
      · exact hvalue _ _ _ _ env health.toInt
      · exact Or.inl rfl
  | alarm env _ severity cause message =>
      refine ⟨env, rfl, ?_⟩
      unfold StatusItem.setAlarm
      split
      · next alarm _ => exact halarm env severity cause message alarm
      · exact Or.inl rfl
  | clear env _ =>
      refine ⟨env, rfl, ?_⟩
      unfold StatusItem.clearAlarm
      split
      · next alarm _ =>
          rw [StatusItem.clearAlarmState_ok]
          exact halarm env .alarmOk .alarmCauseOk [] alarm
      · exact Or.inl rfl

/-- A new item is marked. -/
theorem StatusOp.constructs_marks {op : StatusOp} {object : StatusItem}
    (hop : op.constructs = some object) : ∃ env, op.env = some env ∧ object.changedFlag = true ∧
      ∀ tv, env.gettimeofday = some tv → object.time = tv.toMillis := by
  cases StatusOp.constructs_inv hop with
  | status env name type =>
      exact ⟨env, rfl, rfl, fun tv htv => by simp [StatusItem.construct, StatusItem.mark, htv]⟩
  | alarm env name type =>
      exact ⟨env, rfl, rfl, fun tv htv => by simp [StatusItem.construct, StatusItem.mark, htv]⟩
  | health env name =>
      exact ⟨env, rfl, rfl, fun tv htv => by simp [StatusItem.construct, StatusItem.mark, htv]⟩

namespace StatusUtil

open AbstractStatusSender (sent sent_heap)

/-- **One call and one item.** -/
theorem step_touched {s : StatusService} (hcoherent : s.database.Coherent) {op : StatusOp}
    (hcreation : op.constructs ≠ none → op.reading ≠ none) {p : Ptr} {item : StatusItem}
    (hp : (step s op).database.heap[p]? = some item) : Touched op s p item := by
  have hcalled := step_called s op
  generalize step s op = s' at hcalled hp
  cases hcalled with
  | created object hop =>
      have hp' : (s.database.create object.name object).2.heap[p]? = some item := hp
      rw [StatusDatabase.create_heap] at hp'
      split at hp'
      · next hnew =>
          obtain rfl := Option.some.inj hp'
          obtain ⟨env, henv, hdirty, htime⟩ := StatusOp.constructs_marks hop
          have hsome := hcreation (by simp [hop])
          obtain ⟨tv, htv⟩ := Option.ne_none_iff_exists'.1 hsome
          have hclock : env.gettimeofday = some tv := by simpa [StatusOp.reading, henv] using htv
          have hfresh : s.database.heap[p]? = none := by rw [hnew.2, List.getElem?_eq_none le_rfl]
          exact .dated tv htv (htime tv hclock) hdirty (.made hop hfresh)
      · exact .kept item hp' rfl
  | set name f hop =>
      have hp' : (s.database.update name f).2.heap[p]? = some item := hp
      rw [StatusDatabase.update_heap] at hp'
      split at hp'
      · next hfound =>
          obtain ⟨old, hold, rfl⟩ := Option.map_eq_some_iff.1 hp'
          -- the item at `p` is of the name it was found under
          have hname : name = (f old).2.name := by
            rw [(StatusOp.sets_updated hop old).name]
            exact (hcoherent.name_of_lookup hfound hold).symm
          obtain ⟨env, henv, hsame | ⟨hdirty, htime⟩⟩ := StatusOp.sets_marks hop old
          · exact .kept old hold (by rw [hsame])
          · have hreading : op.reading = env.gettimeofday := by simp [StatusOp.reading, henv]
            cases hclock : env.gettimeofday with
            | some tv =>
                have hleaves : op.Leaves s p (f old).2 :=
                  .set (hop.trans (by rw [← hname])) (hname ▸ hfound) hold rfl
                refine .dated tv (hreading.trans hclock) ?_ hdirty hleaves
                rw [htime]
                simp [StatusItem.mark, hclock]
            | none =>
                refine .undated old hold (by simp [henv]) (hreading.trans hclock) ?_
                rw [htime]
                simp [StatusItem.mark, hclock]
      · exact .kept item hp' rfl
  | lookedUp name => exact .kept item (by simpa using hp) rfl
  | refused => exact .kept item hp rfl
  | posted post _ hparts =>
      cases hold : s.database.heap[p]? with
      | none =>
          rw [postParts_none hparts hold] at hp
          cases hp
      | some old =>
          rcases postParts_item hparts hold with ⟨hsame, -⟩ | ⟨-, hclean⟩
          · exact .kept old hold (by rw [Option.some.inj (hsame.symm.trans hp)])
          · exact .kept old hold (by rw [← Option.some.inj (hclean.symm.trans hp)]; rfl)

/-! ## The order of the timestamps -/

theorem time_of_kept {item old : StatusItem} (h : item.clearChanged = old.clearChanged) :
    item.time = old.time := by
  show item.clearChanged.time = old.clearChanged.time
  rw [h]

/-- Every timestamp of the database is a reading of the run. -/
theorem items_dated {ops : List StatusOp} (hclock : ClockRuns ops) {p : Ptr} {item : StatusItem}
    (hp : (after ops).database.heap[p]? = some item) : ∃ tv ∈ readings ops, item.time = tv.toMillis := by
  induction ops using List.reverseRecOn generalizing item with
  | nil => simp [initial, StatusDatabase.empty] at hp
  | append_singleton ops op ih =>
      have hrun : after (ops ++ [op]) = step (after ops) op := Run.after_concat step _ ops op
      rw [hrun] at hp
      rw [readings_concat]
      have hearlier : ∀ old, (after ops).database.heap[p]? = some old → item.time = old.time →
          ∃ tv ∈ readings ops ++ op.reading.toList, item.time = tv.toMillis := by
        intro old hold htime
        obtain ⟨tv, htv, hdated⟩ := ih hclock.init hold
        exact ⟨tv, List.mem_append_left _ htv, htime.trans hdated⟩
      cases step_touched (coherent_after ops) (hclock.creations op (by simp)) hp with
      | kept old hold hsame => exact hearlier old hold (time_of_kept hsame)
      | undated old hold _ _ htime => exact hearlier old hold htime
      | dated tv hreading htime _ _ => exact ⟨tv, by simp [hreading], htime⟩

/-- No item is older than a send of it, and no send of an item is older than the ones before. -/
structure Chronological (s : StatusService) : Prop where
  item : ∀ send ∈ s.sends, ∀ item, s.database.heap[send.statusItem]? = some item →
    send.item.time.toInt ≤ item.time.toInt
  order : s.sends.Pairwise (fun later earlier => later.statusItem = earlier.statusItem →
    earlier.item.time.toInt ≤ later.item.time.toInt)

theorem chronological_postParts {post : PostStatus} {s s' : StatusService}
    (hparts : PostParts post s s') (h : Chronological s) : Chronological s' := by
  induction hparts with
  | refl => exact h
  | tail _ hpart ih =>
      cases hpart with
      | lookup name => exact ⟨fun send hsend item hp => ih.item send hsend item (by simpa using hp), ih.order⟩
      | sent p object hobject _ =>
          constructor
          · intro send hsend item hp
            rw [sent_heap hobject] at hp
            rcases List.mem_cons.1 hsend with rfl | hsend
            · rw [if_pos rfl] at hp
              rw [← Option.some.inj hp]
            · by_cases hq : send.statusItem = p
              · rw [if_pos hq] at hp
                rw [← Option.some.inj hp]
                exact ih.item send hsend object (hq ▸ hobject)
              · rw [if_neg hq] at hp
                exact ih.item send hsend item hp
          · refine List.pairwise_cons.2 ⟨?_, ih.order⟩
            intro earlier hearlier heq
            have heq : p = earlier.statusItem := heq
            exact ih.item earlier hearlier object (heq ▸ hobject)

theorem chronological_after {ops : List StatusOp} (hclock : ClockRuns ops) : Chronological (after ops) := by
  induction ops using List.reverseRecOn with
  | nil => exact ⟨fun send hsend => by simp [initial] at hsend, List.Pairwise.nil⟩
  | append_singleton ops op ih =>
      have hrun : after (ops ++ [op]) = step (after ops) op := Run.after_concat step _ ops op
      have hbefore := ih hclock.init
      have hallocated := sends_allocated ops
      -- an item of the new state that was sent before is no older than it was then
      have hitem : ∀ send ∈ (after ops).sends, ∀ item,
          (step (after ops) op).database.heap[send.statusItem]? = some item →
            send.item.time.toInt ≤ item.time.toInt := by
        intro send hsend item hp
        have hold := List.getElem?_eq_getElem (hallocated send hsend)
        have hle := hbefore.item send hsend _ hold
        cases step_touched (coherent_after ops) (hclock.creations op (by simp)) hp with
        | kept old hp' hsame =>
            obtain rfl := Option.some.inj (hold.symm.trans hp')
            rwa [time_of_kept hsame]
        | undated old hp' _ _ htime =>
            obtain rfl := Option.some.inj (hold.symm.trans hp')
            rwa [htime]
        | dated tv hreading htime _ _ =>
            obtain ⟨earlier, hearlier, hdated⟩ := items_dated hclock.init hold
            have := hclock.last hreading earlier hearlier
            rw [htime]
            rw [hdated] at hle
            exact hle.trans this
      rw [hrun]
      have hcalled := step_called (after ops) op
      generalize step (after ops) op = s' at hcalled hitem ⊢
      cases hcalled with
      | created object _ => exact ⟨hitem, hbefore.order⟩
      | set name f _ => exact ⟨hitem, hbefore.order⟩
      | lookedUp name => exact ⟨hitem, hbefore.order⟩
      | refused => exact hbefore
      | posted post _ hparts => exact chronological_postParts hparts hbefore

open StatusReceiver (understand view)

/-- What a send that is understood on the topic of an item tells: the item is the one it was of. -/
theorem told_of_item {ops : List StatusOp} (hjms : ∀ op ∈ ops, op.ThroughJms) {p : Ptr}
    {item : StatusItem} (hp : (after ops).database.heap[p]? = some item) (hname : item.name ≠ [])
    (hser : Serialized item.type) {send : Send} (hsend : send ∈ (after ops).sends)
    {told : CxxString × StatusMessage} (htold : send.onWire.bind understand = some told)
    (htopic : told.1 = statusTopic item.name) :
    send.statusItem = p ∧ told.2.timestamp = send.item.time := by
  obtain ⟨message, hwire, hunderstood⟩ := Option.bind_eq_some_iff.1 htold
  have hsame : send.item.name = item.name := by
    rw [understand_fst hunderstood, topic_of_onWire hwire] at htopic
    exact statusTopic_injective htopic
  have hsendp := (sent_for_iff ops hp hname send hsend).1 hsame
  refine ⟨hsendp, ?_⟩
  have hregular := regular_after hjms send hsend
  have hsucceeded : send.succeeded = true := by
    by_contra hfailed
    rw [onWire_of_failed (by simpa using hfailed)] at hwire
    cases hwire
  obtain ⟨body, hbody⟩ := hregular.delivered hsucceeded
  have hdelivered := understand_delivered (serialized_sent ops hp hser send hsend hsendp)
    hregular.typed hbody
  rw [onWire_of_succeeded hsucceeded hbody] at hwire
  rw [← Option.some.inj hwire, hdelivered] at hunderstood
  rw [← Option.some.inj hunderstood]
  rfl

/-- The clock at 2.345678 s. -/
def laterClock : CallEnv := { gettimeofday := some { tvSec := 2, tvUsec := 345678 }, memory := 0 }

/-- An item is created and posted, set and not posted, and set once more while the clock cannot be
    read, and posted. -/
def datedRun : List StatusOp :=
  [newItem .int, postAll, .setValueAsInt laterClock (str "x") 5, .postAllThrough fun _ => brokenResources,
    .setValueAsInt { gettimeofday := none, memory := 0 } (str "x") 7, postAll]

theorem datedRun_throughJms : ∀ op ∈ datedRun, op.ThroughJms := by
  intro op hop
  simp only [datedRun, List.mem_cons, List.not_mem_nil, or_false] at hop
  rcases hop with rfl | rfl | rfl | rfl | rfl | rfl
  · exact fun _ hpost => absurd hpost (by simp [newItem, StatusOp.sender])
  · exact StatusOp.postAllThrough_throughJms _
  · exact fun _ hpost => absurd hpost (by simp [StatusOp.sender])
  · exact StatusOp.postAllThrough_throughJms _
  · exact fun _ hpost => absurd hpost (by simp [StatusOp.sender])
  · exact StatusOp.postAllThrough_throughJms _

theorem datedRun_clockRuns : ClockRuns datedRun where
  creations := by decide
  readable := by
    intro tv htv
    have hmem : tv ∈ [{ tvSec := 1, tvUsec := 0 }, { tvSec := 2, tvUsec := 345678 }] := htv
    simp only [List.mem_cons, List.not_mem_nil, or_false] at hmem
    rcases hmem with rfl | rfl
    · exact ⟨by unfold Timeval.Normal; decide, by decide, by decide⟩
    · exact ⟨by unfold Timeval.Normal; decide, by decide, by decide⟩
  forward := by decide

/-- The item at `p` was dated by the call after `pre`, and has been what it is ever since. -/
structure DatedBy (pre : List StatusOp) (op : StatusOp) (rest : List StatusOp) (p : Ptr)
    (item : StatusItem) : Prop where
  reading : ∃ tv, op.reading = some tv ∧ item.time = tv.toMillis
  /-- The call made the item, or set it, and left it dirty. -/
  leaves : op.Leaves (after pre) p { item with changedFlag := true }
  /-- The item was not there before, or was another one. -/
  changed : ∀ old, (after pre).database.heap[p]? = some old → old.clearChanged ≠ item.clearChanged
  marked : (after (pre ++ [op])).database.heap[p]? = some { item with changedFlag := true }
  since : ∀ later, later <+: rest → ∃ item',
    (after (pre ++ op :: later)).database.heap[p]? = some item' ∧ item'.clearChanged = item.clearChanged

/-- One more call, which leaves the item alone apart from its flag. -/
theorem DatedBy.concat {pre : List StatusOp} {first : StatusOp} {rest : List StatusOp} {p : Ptr}
    {old item : StatusItem} (h : DatedBy pre first rest p old) (hsame : item.clearChanged = old.clearChanged)
    {op : StatusOp} (hp : (after (pre ++ first :: (rest ++ [op]))).database.heap[p]? = some item) :
    DatedBy pre first (rest ++ [op]) p item := by
  have hdirty : ({ old with changedFlag := true } : StatusItem) = { item with changedFlag := true } := by
    show ({ old.clearChanged with changedFlag := true } : StatusItem)
      = { item.clearChanged with changedFlag := true }
    rw [hsame]
  constructor
  · obtain ⟨tv, hreading, htime⟩ := h.reading
    exact ⟨tv, hreading, (time_of_kept hsame).trans htime⟩
  · exact hdirty ▸ h.leaves
  · intro earlier hearlier
    rw [hsame]
    exact h.changed earlier hearlier
  · rw [h.marked, hdirty]
  · intro later hlater
    rcases List.prefix_concat_iff.1 hlater with rfl | hlater
    · exact ⟨item, hp, rfl⟩
    · obtain ⟨item', hp', hitem'⟩ := h.since later hlater
      exact ⟨item', hp', hitem'.trans hsame.symm⟩

/-- **What a timestamp tells.** In a run whose clock can always be read, the timestamp of an item is the
    reading of the call that made the item, or set it, to what it is, and nothing has changed it since. -/
theorem timestamp_tells_since {ops : List StatusOp}
    (hclock : ∀ op ∈ ops, op.env ≠ none → op.reading ≠ none) {p : Ptr} {item : StatusItem}
    (hp : (after ops).database.heap[p]? = some item) :
    ∃ pre op rest, ops = pre ++ op :: rest ∧ DatedBy pre op rest p item := by
  induction ops using List.reverseRecOn generalizing item with
  | nil => simp [initial, StatusDatabase.empty] at hp
  | append_singleton ops op ih =>
      have hrun : after (ops ++ [op]) = step (after ops) op := Run.after_concat step _ ops op
      have hop := hclock op (by simp)
      have hcreation : op.constructs ≠ none → op.reading ≠ none := by
        intro hne
        obtain ⟨object, hobject⟩ := Option.ne_none_iff_exists'.1 hne
        obtain ⟨env, henv, -⟩ := StatusOp.constructs_marks hobject
        exact hop (by simp [henv])
      -- an item that is what it was is dated by an earlier call
      have hkept : ∀ old, (after ops).database.heap[p]? = some old →
          item.clearChanged = old.clearChanged →
          ∃ pre first rest, ops ++ [op] = pre ++ first :: rest ∧ DatedBy pre first rest p item := by
        intro old hold hsame
        obtain ⟨pre, first, rest, rfl, hdated⟩ := ih (fun o ho => hclock o (List.mem_append_left _ ho)) hold
        exact ⟨pre, first, rest ++ [op], by simp, hdated.concat hsame (by simpa using hp)⟩
      have hstep := hp
      rw [hrun] at hstep
      cases step_touched (coherent_after ops) hcreation hstep with
      | kept old hold hsame => exact hkept old hold hsame
      | undated old hold henv hreading _ => exact absurd hreading (hop henv)
      | dated tv hreading htime hdirty hleaves =>
          by_cases hsame : ∃ old, (after ops).database.heap[p]? = some old
              ∧ item.clearChanged = old.clearChanged
          · -- set to what it was, at the time it was set before
            obtain ⟨old, hold, hsame⟩ := hsame
            exact hkept old hold hsame
          · have hdirty' : ({ item with changedFlag := true } : StatusItem) = item := by rw [← hdirty]
            refine ⟨ops, op, [], rfl, ?_⟩
            constructor
            · exact ⟨tv, hreading, htime⟩
            · rwa [hdirty']
            · exact fun old hold heq => hsame ⟨old, hold, heq.symm⟩
            · rw [hp, hdirty']
            · intro later hlater
              obtain rfl := List.prefix_nil.1 hlater
              exact ⟨item, hp, rfl⟩

/-- The timestamp of an item that was set and posted is that of the set. -/
theorem setItem_dated :
    ∃ pre op rest, [newItem .int, .setValueAsInt laterClock (str "x") 5, postAll] = pre ++ op :: rest ∧
      DatedBy pre op rest 0
        { name := str "x", value := .int 5, changedFlag := false, time := 2345, type := .int,
          dynamicClass := .statusItem } :=
  timestamp_tells_since (by decide) rfl

end StatusUtil

end Giapi
