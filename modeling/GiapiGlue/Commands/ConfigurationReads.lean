import GiapiGlue.Commands.SequenceCommandConsumer
import GiapiGlue.Lib.Run

set_option autoImplicit false

/-! # Reading a configuration

A handler is free to ask a configuration for any key. The entries should be those that were set, whatever
has been asked for; but `getValue` reads its map with `operator[]`, so that asking for a key that was
never set makes it one of the keys. Up to there, and as long as an `int` can count the keys, everything
is as it should be. -/

namespace Giapi

/-- A call of a `ConfigurationImpl` that may change it. -/
inductive ConfigurationOp
  | setValue (key value : CxxString)
  | getValue (key : CxxString)

namespace ConfigurationOp

/-- The key a call sets. -/
def keySet : ConfigurationOp → Option CxxString
  | .setValue key _ => some key
  | .getValue _ => none

/-- The value a call sets a key to. -/
def valueSet (key : CxxString) : ConfigurationOp → Option CxxString
  | .setValue key' value => if key = key' then some value else none
  | .getValue _ => none

end ConfigurationOp

namespace Configuration

def step (config : Configuration) : ConfigurationOp → Configuration
  | .setValue key value => config.setValue key value
  | .getValue key => (config.getValue key).2

/-- The configuration after a sequence of calls. -/
abbrev after (ops : List ConfigurationOp) : Configuration := Run.after step empty ops

/-! ## What a configuration should say -/

/-- The keys that were passed to `setValue`. -/
def keysSet (ops : List ConfigurationOp) : List CxxString := ops.filterMap ConfigurationOp.keySet

/-- What the last `setValue` of the key set it to. -/
def lastValue (key : CxxString) (ops : List ConfigurationOp) : Option CxxString :=
  (ops.filterMap (ConfigurationOp.valueSet key)).getLast?

/-- All calls answer the same. -/
def SameAnswers (config config' : Configuration) : Prop :=
  config.getKeys = config'.getKeys ∧ config.getSize = config'.getSize ∧
    ∀ key, (config.getValue key).1 = (config'.getValue key).1

/-- The keys are those that were set, the values those set last, and the answers do not depend on what
    was read before. -/
structure Lawful (ops : List ConfigurationOp) : Prop where
  keys_nodup : (after ops).getKeys.Nodup
  mem_keys : ∀ key, key ∈ (after ops).getKeys ↔ key ∈ keysSet ops
  size : (after ops).getSize.toInt = (keysSet ops).toFinset.card
  value : ∀ key, ((after ops).getValue key).1 = (lastValue key ops).getD []
  reads : ∀ before key later, ops = before ++ .getValue key :: later →
    SameAnswers (after ops) (after (before ++ later))

/-- Every key that is read was set before. -/
def ReadsKeysSet (ops : List ConfigurationOp) : Prop :=
  ∀ before key, before ++ [.getValue key] <+: ops → key ∈ keysSet before

/-! ## One call -/

theorem lookup_setValue (config : Configuration) (key value key' : CxxString) :
    (config.setValue key value).configMap.lookup key'
      = if key' = key then some value else config.configMap.lookup key' :=
  UnorderedMap.lookup_insert_if ..

theorem getValue_fst (config : Configuration) (key : CxxString) :
    (config.getValue key).1 = (config.configMap.lookup key).getD [] :=
  UnorderedMap.subscript_fst ..

/-- Reading a key that is there changes nothing. -/
theorem getValue_snd_of_isSome {config : Configuration} {key : CxxString}
    (h : (config.configMap.lookup key).isSome = true) : (config.getValue key).2 = config := by
  obtain ⟨value, hvalue⟩ := Option.isSome_iff_exists.1 h
  rw [getValue, UnorderedMap.subscript, hvalue]

theorem mem_getKeys_iff (config : Configuration) (key : CxxString) :
    key ∈ config.getKeys ↔ (config.configMap.lookup key).isSome = true := by
  rw [AList.lookup_isSome, AList.mem_keys]
  rfl

/-- A key that has been read is there. -/
theorem mem_getKeys_getValue (config : Configuration) (key : CxxString) :
    key ∈ (config.getValue key).2.getKeys := by
  rw [mem_getKeys_iff, getValue, UnorderedMap.subscript]
  cases hlookup : config.configMap.lookup key with
  | some value => simp [hlookup]
  | none => simp

/-! ## The calls so far -/

theorem lastValue_setValue (key key' value : CxxString) (ops : List ConfigurationOp) :
    lastValue key (ops ++ [.setValue key' value])
      = if key = key' then some value else lastValue key ops := by
  rw [lastValue, List.filterMap_append]
  by_cases h : key = key'
  · simp [ConfigurationOp.valueSet, h]
  · simp [ConfigurationOp.valueSet, h, lastValue]

theorem lastValue_getValue (key key' : CxxString) (ops : List ConfigurationOp) :
    lastValue key (ops ++ [.getValue key']) = lastValue key ops := by
  rw [lastValue, List.filterMap_append]
  simp [ConfigurationOp.valueSet, lastValue]

theorem keysSet_getValue (key : CxxString) (ops : List ConfigurationOp) :
    keysSet (ops ++ [.getValue key]) = keysSet ops := by
  simp [keysSet, ConfigurationOp.keySet]

theorem mem_keysSet_iff (key : CxxString) (ops : List ConfigurationOp) :
    key ∈ keysSet ops ↔ (lastValue key ops).isSome = true := by
  induction ops using List.reverseRecOn with
  | nil => simp [keysSet, lastValue]
  | append_singleton ops op ih =>
      cases op with
      | setValue key' value =>
          have hkeys : keysSet (ops ++ [.setValue key' value]) = keysSet ops ++ [key'] := by
            simp [keysSet, ConfigurationOp.keySet]
          rw [hkeys, lastValue_setValue, List.mem_append, List.mem_singleton, ih]
          by_cases h : key = key' <;> simp [h]
      | getValue key' => rw [keysSet_getValue, lastValue_getValue, ih]

theorem keysSet_subset {ops ops' : List ConfigurationOp} (h : ops <+: ops') :
    (keysSet ops).toFinset ⊆ (keysSet ops').toFinset := by
  intro key hkey
  rw [List.mem_toFinset] at hkey ⊢
  exact (h.sublist.filterMap _).subset hkey

theorem ReadsKeysSet.take {ops ops' : List ConfigurationOp} (h : ReadsKeysSet ops')
    (htake : ops <+: ops') : ReadsKeysSet ops :=
  fun before key hbefore => h before key (hbefore.trans htake)

/-! ## The configuration after them -/

/-- While only keys that were set are read, each has the value it was set to last. -/
theorem lookup_after {ops : List ConfigurationOp} (h : ReadsKeysSet ops) (key : CxxString) :
    (after ops).configMap.lookup key = lastValue key ops := by
  induction ops using List.reverseRecOn generalizing key with
  | nil => rfl
  | append_singleton ops op ih =>
      have hbefore := ih (h.take (List.prefix_append ops [op]))
      rw [after, Run.after_concat]
      cases op with
      | setValue key' value => rw [step, lookup_setValue, lastValue_setValue, hbefore]
      | getValue key' =>
          -- the key is there, so reading it leaves the map alone
          have hset := (mem_keysSet_iff key' ops).1 (h ops key' (List.prefix_refl _))
          rw [← hbefore] at hset
          rw [step, getValue_snd_of_isSome hset, lastValue_getValue, hbefore]

theorem mem_getKeys_after {ops : List ConfigurationOp} (h : ReadsKeysSet ops) (key : CxxString) :
    key ∈ (after ops).getKeys ↔ key ∈ keysSet ops := by
  rw [mem_getKeys_iff, lookup_after h, mem_keysSet_iff]

/-- A call that reads a key set before could as well be left out. -/
theorem after_without_read {before later : List ConfigurationOp} {key : CxxString}
    (h : ReadsKeysSet (before ++ .getValue key :: later)) :
    after (before ++ .getValue key :: later) = after (before ++ later) := by
  have htake : before ++ [.getValue key] <+: before ++ .getValue key :: later := ⟨later, by simp⟩
  have hset := (mem_keysSet_iff key before).1 (h before key htake)
  rw [← lookup_after (h.take (List.prefix_append _ _)) key] at hset
  rw [after, after, Run.after_append, Run.after_append, Run.after_cons, step,
    getValue_snd_of_isSome hset]

/-- The size is an `int`. -/
theorem toInt_getSize_iff (config : Configuration) {n : Nat} (h : config.getKeys.length = n) :
    config.getSize.toInt = n ↔ n < 2 ^ 31 := by
  have hlength : config.configMap.keys.length = n := h
  rw [getSize, hlength]
  constructor
  · intro heq
    have hlt := BitVec.toInt_lt (x := BitVec.ofNat 32 n)
    omega
  · intro hlt
    rw [BitVec.toInt_ofNat']
    exact Int.bmod_eq_of_le (by omega) (by omega)

theorem card_getKeys {config : Configuration} {keys : List CxxString}
    (h : ∀ key, key ∈ config.getKeys ↔ key ∈ keys) :
    config.getKeys.length = keys.toFinset.card := by
  have hkeys : config.getKeys.toFinset = keys.toFinset := by
    ext key
    rw [List.mem_toFinset, List.mem_toFinset, h]
  rw [← hkeys]
  exact (List.toFinset_card_of_nodup config.configMap.keys_nodup).symm

theorem lawful_of_readsKeysSet {ops : List ConfigurationOp} (h : ReadsKeysSet ops)
    (hsize : (keysSet ops).toFinset.card < 2 ^ 31) : Lawful ops := by
  have hkeys := mem_getKeys_after h
  refine ⟨(after ops).configMap.keys_nodup, hkeys, ?_, fun key => ?_, ?_⟩
  · exact (toInt_getSize_iff _ (card_getKeys hkeys)).2 hsize
  · rw [getValue_fst, lookup_after h]
  · rintro before key later rfl
    rw [after_without_read h]
    exact ⟨rfl, rfl, fun _ => rfl⟩

/-- A configuration is lawful all through a run, precisely if the run reads only keys it has set and sets
    no more of them than an `int` can count. -/
theorem alwaysLawful_iff (ops : List ConfigurationOp) :
    (∀ before, before <+: ops → Lawful before) ↔
      ReadsKeysSet ops ∧ (keysSet ops).toFinset.card < 2 ^ 31 := by
  constructor
  · intro h
    refine ⟨fun before key htake => ?_, ?_⟩
    · -- the key that is read is there afterwards, so it must have been set
      have hmem := mem_getKeys_getValue (after before) key
      have hkeys := (h _ htake).mem_keys key
      rw [after, Run.after_concat, step, keysSet_getValue] at hkeys
      exact hkeys.1 hmem
    · have hlawful := h ops (List.prefix_refl ops)
      exact (toInt_getSize_iff _ (card_getKeys hlawful.mem_keys)).1 hlawful.size
  · intro h before htake
    have hcard := Finset.card_le_card (keysSet_subset htake)
    exact lawful_of_readsKeysSet (h.1.take htake) (Nat.lt_of_le_of_lt hcard h.2)

/-- Asking an empty configuration for `DATA_LABEL` makes it a key. -/
theorem dataLabel_becomes_key :
    ¬ ∀ before, before <+: [.getValue (str "DATA_LABEL")] → Lawful before := by
  intro h
  have hkeys := (h _ (List.prefix_refl _)).mem_keys (str "DATA_LABEL")
  exact absurd (hkeys.1 (by decide)) (by decide)

end Configuration

end Giapi
