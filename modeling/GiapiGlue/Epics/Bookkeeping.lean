import GiapiGlue.Epics.ChannelIsolation

set_option autoImplicit false

/-! # The books of the EPICS manager

The valid channels and the consumers are kept apart. A subscription asks for the valid channels as long
as it knows none, and looks the name up there; an unsubscription looks there too, and not at the
consumers. It is right to: a consumer is only ever kept for a valid channel, and no channel becomes
invalid. -/

namespace Giapi

namespace JmsEpicsManager

/-- A consumer is kept for valid channels only. -/
def KeysValid (manager : JmsEpicsManager) : Prop :=
  ∀ channel, (manager.epicsConsumersMap.lookup channel).isSome = true →
    manager.epicsConfiguration.hasChannel channel = true

theorem KeysValid.not_valid {manager : JmsEpicsManager} (h : manager.KeysValid)
    {channel : CxxString} (hchannel : ¬ manager.epicsConfiguration.hasChannel channel = true) :
    manager.epicsConsumersMap.lookup channel = none := by
  cases hlookup : manager.epicsConsumersMap.lookup channel with
  | none => rfl
  | some consumer => exact absurd (h channel (by rw [hlookup]; rfl)) hchannel

/-- A subscription loses no channel. -/
theorem Subscribed.hasChannel {name : CxxString} {handler : Ptr} {manager manager' : JmsEpicsManager}
    {result : Except Exn Status} (h : Subscribed name handler manager (result, manager'))
    {channel : CxxString} (hchannel : manager.epicsConfiguration.hasChannel channel = true) :
    manager'.epicsConfiguration.hasChannel channel = true := by
  cases h with
  | refused _ _ hchannels => exact hchannels channel hchannel
  | stored _ _ _ _ _ hchannels => exact hchannels channel hchannel

theorem Subscribed.keysValid {name : CxxString} {handler : Ptr} {manager manager' : JmsEpicsManager}
    {result : Except Exn Status} (h : Subscribed name handler manager (result, manager'))
    (hkeys : manager.KeysValid) : manager'.KeysValid := by
  intro channel hchannel
  cases h with
  | refused _ hconsumers hchannels =>
      rw [hconsumers] at hchannel
      exact hchannels channel (hkeys channel hchannel)
  | stored consumer _ _ hvalid hconsumers hchannels =>
      rw [lookup_store] at hchannel
      split at hchannel
      · next heq => rwa [heq]
      · rw [hconsumers] at hchannel
        exact hchannels channel (hkeys channel hchannel)

theorem unsubscribe_hasChannel (manager : JmsEpicsManager) (name channel : CxxString) :
    (manager.unsubscribeEpicsStatus name).2.epicsConfiguration.hasChannel channel
      = manager.epicsConfiguration.hasChannel channel := by
  unfold unsubscribeEpicsStatus
  split <;> rfl

/-- An unsubscription drops at most one consumer, and no channel. -/
theorem unsubscribe_keysValid {manager : JmsEpicsManager} (name : CxxString)
    (hkeys : manager.KeysValid) : (manager.unsubscribeEpicsStatus name).2.KeysValid := by
  intro channel hchannel
  rw [unsubscribe_hasChannel]
  unfold unsubscribeEpicsStatus at hchannel
  split at hchannel
  · rw [lookup_erase] at hchannel
    split at hchannel
    · exact absurd hchannel (by simp)
    · exact hkeys channel hchannel
  · exact hkeys channel hchannel

end JmsEpicsManager

namespace GeminiUtil

/-! ## The books -/

/-- A consumer is kept for valid channels only. -/
def KeysValid (s : GeminiUtil) : Prop :=
  ∀ channel, (consumerOf channel s).isSome = true → s.hasChannel channel = true

/-- What a subscription may do to the consumers. -/
def SubscribesOnly (name : CxxString) (handler : Ptr) (s : GeminiUtil) :
    Except Exn Status × GeminiUtil → Prop
  | (.ok .ok, s') => (∃ consumer, consumerOf name s' = some consumer ∧
      consumer.channelName = name ∧ consumer.handler = handler) ∧
    ∀ channel, channel ≠ name → consumerOf channel s' = consumerOf channel s
  | (_, s') => ∀ channel, consumerOf channel s' = consumerOf channel s

/-- What an unsubscription may do to the consumers. -/
def UnsubscribesOnly (name : CxxString) (s : GeminiUtil) : Except Exn Status × GeminiUtil → Prop
  | (.ok .ok, s') => consumerOf name s' = none ∧
    ∀ channel, channel ≠ name → consumerOf channel s' = consumerOf channel s
  | (.ok .error, s') => consumerOf name s = none ∧
    ∀ channel, consumerOf channel s' = consumerOf channel s
  | (.error _, s') => ∀ channel, consumerOf channel s' = consumerOf channel s

theorem keysValid_iff {s : GeminiUtil} {epicsMgr : JmsEpicsManager}
    (h : s.epicsMgr = some epicsMgr) : KeysValid s ↔ epicsMgr.KeysValid := by
  simp only [KeysValid, JmsEpicsManager.KeysValid, consumerOf, hasChannel, h, Option.bind_some]

/-- The manager a call works on has the books of the one there is. -/
theorem KeysValid.getInstance {env : GeminiEnv} {s : GeminiUtil} {epicsMgr : JmsEpicsManager}
    (hkeys : KeysValid s) (h : s.getInstance env = .ok epicsMgr) : epicsMgr.KeysValid := by
  intro channel hchannel
  rw [(getInstance_ok h).1] at hchannel
  exact (getInstance_ok h).2 channel (hkeys channel hchannel)

/-- No channel becomes invalid, and the books stay in order. -/
theorem step_ordered (s : GeminiUtil) (op : EpicsOp) :
    (∀ channel, s.hasChannel channel = true → (step s op).hasChannel channel = true) ∧
      (KeysValid s → KeysValid (step s op)) := by
  cases op with
  | subscribeEpicsStatus env name handler =>
      cases hinstance : s.getInstance env with
      | error e =>
          rw [step, call_subscribe_error hinstance]
          exact ⟨fun _ hchannel => hchannel, fun hkeys => hkeys⟩
      | ok epicsMgr =>
          rw [step, call_subscribe hinstance]
          have hsubscribed := epicsMgr.subscribe_subscribed env name handler
          refine ⟨fun channel hchannel => ?_, fun hkeys => ?_⟩
          · exact hsubscribed.hasChannel ((getInstance_ok hinstance).2 channel hchannel)
          · exact (keysValid_iff rfl).2 (hsubscribed.keysValid (hkeys.getInstance hinstance))
  | unsubscribeEpicsStatus env name =>
      cases hinstance : s.getInstance env with
      | error e =>
          rw [step, call_unsubscribe_error hinstance]
          exact ⟨fun _ hchannel => hchannel, fun hkeys => hkeys⟩
      | ok epicsMgr =>
          rw [step, call_unsubscribe hinstance]
          refine ⟨fun channel hchannel => ?_, fun hkeys => ?_⟩
          · exact (epicsMgr.unsubscribe_hasChannel name channel).trans
              ((getInstance_ok hinstance).2 channel hchannel)
          · exact (keysValid_iff rfl).2
              (JmsEpicsManager.unsubscribe_keysValid name (hkeys.getInstance hinstance))

theorem subscribesOnly (env : GeminiEnv) (name : CxxString) (handler : Ptr) (s : GeminiUtil) :
    SubscribesOnly name handler s (call (.subscribeEpicsStatus env name handler) s) := by
  cases hinstance : s.getInstance env with
  | error e =>
      rw [call_subscribe_error hinstance]
      exact fun _ => rfl
  | ok epicsMgr =>
      rw [call_subscribe hinstance]
      have hbefore := (getInstance_ok hinstance).1
      have hsubscribed := epicsMgr.subscribe_subscribed env name handler
      generalize epicsMgr.subscribeEpicsStatus env name handler = outcome at hsubscribed ⊢
      cases hsubscribed with
      | @refused result ready hresult hconsumers _ =>
          -- at most the channels were asked for
          have hsame : ∀ channel, consumerOf channel ⟨some ready⟩ = consumerOf channel s := by
            intro channel
            rw [← hbefore, ← hconsumers]
            rfl
          rcases result with e | status
          · exact hsame
          · cases status with
            | ok => exact absurd rfl hresult
            | error => exact hsame
      | @stored ready consumer hname hhandler _ hconsumers _ =>
          have hlookup : ∀ channel, consumerOf channel ⟨some (ready.store name consumer hname)⟩
              = if channel = name then some consumer else consumerOf channel s := by
            intro channel
            rw [← hbefore, ← hconsumers]
            exact ready.lookup_store name consumer hname channel
          refine ⟨⟨consumer, ?_, hname, hhandler⟩, fun channel hchannel => ?_⟩
          · rw [hlookup, if_pos rfl]
          · rw [hlookup, if_neg hchannel]

/-- With the books in order, a channel that is not valid has no consumer to drop. -/
theorem unsubscribesOnly (env : GeminiEnv) (name : CxxString) {s : GeminiUtil} (h : KeysValid s) :
    UnsubscribesOnly name s (call (.unsubscribeEpicsStatus env name) s) := by
  cases hinstance : s.getInstance env with
  | error e =>
      rw [call_unsubscribe_error hinstance]
      exact fun _ => rfl
  | ok epicsMgr =>
      rw [call_unsubscribe hinstance, JmsEpicsManager.unsubscribeEpicsStatus]
      have hbefore := (getInstance_ok hinstance).1
      split
      · have hlookup : ∀ channel, consumerOf channel ⟨some (epicsMgr.erase name)⟩
            = if channel = name then none else consumerOf channel s := by
          intro channel
          rw [← hbefore]
          exact epicsMgr.lookup_erase name channel
        refine ⟨?_, fun channel hchannel => ?_⟩
        · rw [hlookup, if_pos rfl]
        · rw [hlookup, if_neg hchannel]
      · next hinvalid =>
          refine ⟨?_, fun channel => hbefore channel⟩
          rw [← hbefore]
          exact (h.getInstance hinstance).not_valid hinvalid

/-- After every run the consumers are kept for valid channels only, and a call changes no more than it
    says. -/
theorem books_in_order (ops : List EpicsOp) :
    KeysValid (after ops) ∧
      (∀ op channel, (after ops).hasChannel channel = true →
        (step (after ops) op).hasChannel channel = true) ∧
      (∀ env name handler, SubscribesOnly name handler (after ops)
        (call (.subscribeEpicsStatus env name handler) (after ops))) ∧
      ∀ env name, UnsubscribesOnly name (after ops)
        (call (.unsubscribeEpicsStatus env name) (after ops)) := by
  have hkeys : KeysValid (after ops) :=
    Run.invariant (fun _ h => absurd h (by simp [consumerOf, initial]))
      (fun s op => (step_ordered s op).2) ops
  exact ⟨hkeys, fun op => (step_ordered (after ops) op).1,
    fun env name handler => subscribesOnly env name handler (after ops),
    fun env name => unsubscribesOnly env name hkeys⟩

end GeminiUtil

end Giapi
