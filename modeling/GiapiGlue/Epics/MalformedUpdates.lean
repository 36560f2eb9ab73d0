import GiapiGlue.Epics.JmsEpicsFetcher
import GiapiGlue.Epics.JmsEpicsManager
import GiapiGlue.Epics.UpdateGrammar

set_option autoImplicit false

/-! # Malformed updates and the client

The factory is called from a message listener, which may not throw and passes on what it gets, and from
a fetch, whose callers expect an item or a `GiapiException`. Neither looks at the pointer, so a body
without a header reaches the client as null. What a builder throws ends the listener's process, and in
the fetch it is a `CMSException` for which the request is deleted twice, or none. -/

namespace Giapi

open BytesMessage ByteReader

/-- The exceptions of `giapiexcept.h`. -/
def Exn.isGiapiException : Exn → Bool
  | .giapiException _ => true
  | .communicationException _ => true
  | .gmpException _ => true
  | .postException _ => true
  | .invalidOperation _ => true
  | .timeoutException _ => true
  | _ => false

/-- `channelChanged` is called with an item that holds the update, and nothing is thrown. -/
def EpicsConsumer.HandsOver (message : BytesMessage) (consumer : EpicsConsumer) : Prop :=
  match consumer.onMessage message with
  | .error _ => False
  | .ok changed => ∃ item update rest, changed.item = some item ∧
    EpicsUpdate.update.run message.content = .ok (update, rest) ∧ update.HeldBy item

/-- The fetch returns an item or throws a `GiapiException`. -/
def JmsEpicsFetcher.Fetches (env : FetchEnv) (name : CxxString) (timeout : Int) : Prop :=
  match getChannel env name timeout with
  | .ok item => item.isSome = true
  | .error e => e.isGiapiException = true

namespace JmsEpicsFactory

/-- The bodies an item is made of that holds the update: the header is complete, the count is not
    negative, the elements are there, and none of them is a number of several bytes. -/
def Decodable (body : List UInt8) : Prop :=
  match EpicsUpdate.header.run body with
  | .error _ => False
  | .ok ((type, _, count), rest) => ElementsParsable type count rest

/-- What a builder needs to return an item: a negative number of strings is none of them, and bytes that
    are missing are not missed. -/
def ElementsBuildable (type : DataType) (count : CInt) (body : List UInt8) : Prop :=
  match type with
  | .string => ∃ values rest,
    (times (EpicsUpdate.element .string) count.toInt.toNat).run body = .ok (values, rest)
  | .byte => 0 ≤ count.toInt
  | _ => count = 0

/-- The bodies an item is made of. -/
def Buildable (body : List UInt8) : Prop :=
  match EpicsUpdate.header.run body with
  | .error _ => False
  | .ok ((type, _, count), rest) => ElementsBuildable type count rest

theorem header_shrinks {body mid : List UInt8} {type : DataType} {name : CxxString} {count : CInt}
    (h : EpicsUpdate.header.run body = .ok ((type, name, count), mid)) : mid.length ≤ body.length :=
  shrinks_chooseBuilder _ _ _ (chooseBuilder_of_header_ok h)

theorem buildable_of_header {body mid : List UInt8} {type : DataType} {name : CxxString}
    {count : CInt} (h : EpicsUpdate.header.run body = .ok ((type, name, count), mid)) :
    Buildable body ↔ ElementsBuildable type count mid := by
  rw [Buildable, h]

/-! ## When a builder returns -/

theorem numeric_returns_iff {α : Type} (numeric : NumericType α)
    (hbytes : ∀ val, (numeric.bytes val).length = numeric.sizeof) (hsize : 2 ≤ numeric.sizeof)
    (name : CxxString) (count : CInt) (body : List UInt8) :
    (∃ item rest, (numeric.getEpicsStatusItem name count).run body = .ok (item, rest)) ↔
      count = 0 := by
  constructor
  · intro h
    obtain ⟨item, rest, hrun⟩ := h
    exact numeric_ok numeric hbytes hsize hrun
  · intro h
    subst h
    exact ⟨_, _, numeric_zero numeric name body⟩

theorem string_returns_iff (name : CxxString) (count : CInt) {body : List UInt8}
    (hfits : body.length < 2 ^ 31) :
    (∃ item rest, (JmsStringEpicsBuilder.getEpicsStatusItem name count).run body = .ok (item, rest)) ↔
      ElementsBuildable .string count body := by
  constructor
  · intro h
    obtain ⟨item, rest, hrun⟩ := h
    obtain ⟨data, mid, hpack, -⟩ := run_bind_ok hrun
    rw [packStrings_eq] at hpack
    obtain ⟨values, mid', htimes, -⟩ := run_bind_ok hpack
    exact ⟨values, mid', htimes⟩
  · intro h
    obtain ⟨values, rest, htimes⟩ := h
    obtain ⟨size, hrun⟩ := string_run hfits htimes name
    exact ⟨_, rest, hrun⟩

theorem byte_returns_iff (name : CxxString) (count : CInt) (body : List UInt8) :
    (∃ item rest, (JmsByteEpicsBuilder.getEpicsStatusItem name count).run body = .ok (item, rest)) ↔
      0 ≤ count.toInt := by
  by_cases hneg : count.toInt < 0
  · rw [JmsByteEpicsBuilder.getEpicsStatusItem, if_pos hneg]
    refine iff_of_false ?_ (by omega)
    rintro ⟨item, rest, ⟨⟩⟩
  · obtain ⟨data, rest, hrun, -⟩ := @byte_run count (by omega) name body
    exact iff_of_true ⟨_, rest, hrun⟩ (by omega)

theorem builder_returns_iff (type : DataType) (name : CxxString) (count : CInt) {body : List UInt8}
    (hfits : body.length < 2 ^ 31) :
    (∃ item rest, (JmsEpicsBuilder.getEpicsStatusItem ⟨type, name, count⟩).run body
      = .ok (item, rest)) ↔ ElementsBuildable type count body := by
  cases type with
  | string => exact string_returns_iff name count hfits
  | byte => exact byte_returns_iff name count body
  | short =>
      exact numeric_returns_iff jmsShortEpicsBuilder (fun val => Words.length_toLE 2 val) (by decide)
        name count body
  | int =>
      exact numeric_returns_iff jmsIntEpicsBuilder (fun val => Words.length_toLE 4 val) (by decide)
        name count body
  | float =>
      exact numeric_returns_iff jmsFloatEpicsBuilder (fun val => Words.length_toLE 4 val.bits)
        (by decide) name count body
  | double =>
      exact numeric_returns_iff jmsDoubleEpicsBuilder (fun val => Words.length_toLE 8 val.bits)
        (by decide) name count body

/-! ## What a builder throws -/

/-- Nothing the client is told to expect. -/
def Unannounced (e : Exn) : Prop := e.isGiapiException = false

theorem unannounced_of_isCms {e : Exn} (h : IsCms e) : Unannounced e := by
  obtain ⟨message, rfl⟩ := h
  rfl

theorem FailsWith.unannounced {α : Type} {r : ByteReader Exn α} (h : FailsWith IsCms r) :
    FailsWith Unannounced r :=
  fun bs e he => unannounced_of_isCms (h bs e he)

theorem failsWith_store (data bytes : Block) (offset : Nat) :
    FailsWith Unannounced (data.store Exn.outOfBounds offset bytes : ByteReader Exn Block) := by
  refine FailsWith.lift fun e he => ?_
  rw [Block.store] at he
  split at he
  · exact absurd he (by simp)
  · rw [← Except.error.inj he]
    rfl

theorem failsWith_create (name : CxxString) (type : ValueType) (count : CInt) (data : Block)
    (size : CInt) : FailsWith Unannounced
      (EpicsStatusItem.create name type count data size : ByteReader Exn EpicsStatusItem) := by
  refine FailsWith.lift fun e he => ?_
  unfold EpicsStatusItem.create at he
  by_cases hsize : size.toInt < 0
  · rw [if_pos hsize] at he
    rw [← Except.error.inj he]
    rfl
  · rw [if_neg hsize, Block.load] at he
    split at he
    · exact absurd he (by rintro ⟨⟩)
    · rw [← Except.error.inj he]
      rfl

theorem failsWith_copyElements {α : Type} (numeric : NumericType α)
    (hread : FailsWith IsCms numeric.readValue) (remaining i : Nat) (data : Block) :
    FailsWith Unannounced (numeric.copyElements remaining i data) := by
  induction remaining generalizing i data with
  | zero => exact FailsWith.pure data
  | succ remaining ih =>
      exact (FailsWith.unannounced hread).bind fun val =>
        (failsWith_store _ _ _).bind fun data => ih (i + 1) data

theorem failsWith_badAlloc {α : Type} :
    FailsWith Unannounced (throw Exn.badAlloc : ByteReader Exn α) := by
  intro bs e he
  rw [← Except.error.inj he]
  rfl

theorem failsWith_numeric {α : Type} (numeric : NumericType α)
    (hread : FailsWith IsCms numeric.readValue) (name : CxxString) (count : CInt) :
    FailsWith Unannounced (numeric.getEpicsStatusItem name count) := by
  unfold NumericType.getEpicsStatusItem
  split
  · exact failsWith_badAlloc
  · exact (failsWith_copyElements numeric hread _ _ _).bind fun data => failsWith_create _ _ _ _ _

theorem failsWith_byte (name : CxxString) (count : CInt) :
    FailsWith Unannounced (JmsByteEpicsBuilder.getEpicsStatusItem name count) := by
  unfold JmsByteEpicsBuilder.getEpicsStatusItem
  split
  · exact failsWith_badAlloc
  · next hcount =>
      refine FailsWith.bind ?_ fun bytes => (failsWith_store _ _ _).bind fun data =>
        failsWith_create _ _ _ _ _
      intro bs e he
      rw [show (readBytes count.toInt).run bs = readBytes count.toInt bs from rfl, readBytes,
        if_neg hcount] at he
      exact absurd he (by simp)

theorem failsWith_string (name : CxxString) (count : CInt) :
    FailsWith Unannounced (JmsStringEpicsBuilder.getEpicsStatusItem name count) := by
  have hpack : ∀ (remaining : Nat) (data : Block),
      FailsWith Unannounced (JmsStringEpicsBuilder.packStrings remaining data) := by
    intro remaining
    induction remaining with
    | zero => exact fun data => FailsWith.pure data
    | succ remaining ih =>
        exact fun data => (FailsWith.unannounced failsWith_readUTF).bind fun val =>
          (failsWith_store _ _ _).bind fun data => ih data
  exact (hpack _ []).bind fun data => failsWith_create _ _ _ _ _

theorem failsWith_builder (builder : JmsEpicsBuilder) :
    FailsWith Unannounced builder.getEpicsStatusItem := by
  obtain ⟨type, name, count⟩ := builder
  cases type with
  | string => exact failsWith_string name count
  | byte => exact failsWith_byte name count
  | short => exact failsWith_numeric jmsShortEpicsBuilder (failsWith_readWord 16 2) name count
  | int => exact failsWith_numeric jmsIntEpicsBuilder failsWith_readInt name count
  | float =>
      exact failsWith_numeric jmsFloatEpicsBuilder
        (failsWith_readInt.bind fun bits => FailsWith.pure _) name count
  | double =>
      exact failsWith_numeric jmsDoubleEpicsBuilder
        ((failsWith_readWord 64 8).bind fun bits => FailsWith.pure _) name count

/-! ## The two callers -/

/-- With a complete header the item is never null, and holds the update when the parser is right. -/
theorem handsOver_of_header {message : BytesMessage} {mid : List UInt8} {type : DataType}
    {name : CxxString} {count : CInt}
    (hheader : EpicsUpdate.header.run message.content = .ok ((type, name, count), mid))
    (consumer : EpicsConsumer) :
    consumer.HandsOver message ↔ ElementsExactly ⟨type, name, count⟩ mid := by
  rw [← parsesExactly_of_header hheader, EpicsConsumer.HandsOver, EpicsConsumer.onMessage,
    ParsesExactly, build_of_header_ok hheader]
  cases (JmsEpicsBuilder.getEpicsStatusItem ⟨type, name, count⟩).run mid with
  | error e => exact Iff.rfl
  | ok x =>
      constructor
      · intro h
        obtain ⟨item, update, rest, hitem, hupdate, hheld⟩ := h
        obtain rfl : x.1 = item := Option.some.inj hitem
        exact ⟨update, rest, hupdate, hheld⟩
      · intro h
        obtain ⟨update, rest, hupdate, hheld⟩ := h
        exact ⟨x.1, update, rest, rfl, hupdate, hheld⟩

theorem handsOver_iff (message : BytesMessage) (consumer : EpicsConsumer) :
    consumer.HandsOver message ↔ Decodable message.content := by
  cases hheader : EpicsUpdate.header.run message.content with
  | error e =>
      rw [EpicsConsumer.HandsOver, EpicsConsumer.onMessage, build_of_header_error hheader, Decodable,
        hheader]
      refine iff_of_false ?_ not_false
      rintro ⟨item, update, rest, ⟨⟩, -⟩
  | ok x =>
      obtain ⟨⟨type, name, count⟩, mid⟩ := x
      have hmid := header_shrinks hheader
      have hfits := message.fits
      rw [handsOver_of_header hheader, Decodable, hheader]
      exact elementsExactly_iff type name count (by omega)

/-- The factory returns an item for the bodies that are buildable, and throws nothing the caller of a
    fetch is told of. -/
theorem build_cases (message : BytesMessage) :
    (∃ item, buildEpicsStatusItem message = .ok (some item)) ∧ Buildable message.content ∨
      (buildEpicsStatusItem message = .ok none ∨
        ∃ e, buildEpicsStatusItem message = .error e ∧ Unannounced e) ∧
        ¬ Buildable message.content := by
  cases hheader : EpicsUpdate.header.run message.content with
  | error e =>
      right
      rw [Buildable, hheader]
      exact ⟨Or.inl (build_of_header_error hheader), not_false⟩
  | ok x =>
      obtain ⟨⟨type, name, count⟩, mid⟩ := x
      have hmid := header_shrinks hheader
      have hfits := message.fits
      have hreturns := @builder_returns_iff type name count mid (by omega)
      rw [buildable_of_header hheader, build_of_header_ok hheader, ← hreturns]
      cases hrun : (JmsEpicsBuilder.getEpicsStatusItem ⟨type, name, count⟩).run mid with
      | error e =>
          right
          refine ⟨Or.inr ⟨e, rfl, failsWith_builder _ mid e hrun⟩, ?_⟩
          rintro ⟨item, rest, ⟨⟩⟩
      | ok x => exact Or.inl ⟨⟨x.1, rfl⟩, x.1, x.2, rfl⟩

theorem fetches_iff {message : BytesMessage} {env : JmsEpicsFetcher.FetchEnv} {name : CxxString}
    {timeout : Int} (hrequest : JmsEpicsFetcher.request env name = .ok ())
    (hreply : env.queue.Answers timeout (some (.bytesMessage message))) :
    JmsEpicsFetcher.Fetches env name timeout ↔ Buildable message.content := by
  have hfetch : JmsEpicsFetcher.fetch env timeout = buildEpicsStatusItem message := by
    rw [JmsEpicsFetcher.fetch, hreply]
    rfl
  rw [JmsEpicsFetcher.Fetches, JmsEpicsFetcher.getChannel, hrequest]
  dsimp only
  rw [hfetch]
  rcases build_cases message with ⟨⟨item, hbuild⟩, hbuildable⟩ | ⟨hbuild | ⟨e, hbuild, he⟩, hnot⟩
  · rw [hbuild]
    exact iff_of_true rfl hbuildable
  · rw [hbuild]
    exact iff_of_false (by simp) hnot
  · rw [hbuild]
    refine iff_of_false (fun h => ?_) hnot
    -- what is thrown is not a `GiapiException`, and what the `catch` block makes of it is not one
    cases e <;> simp [Unannounced, Exn.isGiapiException] at he h

/-- **Malformed updates.** The listener hands over an item that holds the update, and throws nothing,
    precisely for the decodable bodies; the fetch returns an item or throws a `GiapiException` precisely
    for the buildable ones. -/
theorem clients_spared_iff (message : BytesMessage) :
    (∀ consumer : EpicsConsumer, consumer.HandsOver message ↔ Decodable message.content) ∧
      ∀ (env : JmsEpicsFetcher.FetchEnv) (name : CxxString) (timeout : Int),
        JmsEpicsFetcher.request env name = .ok () →
        env.queue.Answers timeout (some (.bytesMessage message)) →
        (JmsEpicsFetcher.Fetches env name timeout ↔ Buildable message.content) :=
  ⟨handsOver_iff message, fun _ _ _ hrequest hreply => fetches_iff hrequest hreply⟩

/-- A fetch that is answered with a body. -/
def answeredWith (message : BytesMessage) : JmsEpicsFetcher.FetchEnv :=
  { createMessage := .ok ()
    setStringProperty := fun _ _ => .ok ()
    createTemporaryQueue := .ok ()
    createConsumer := .ok ()
    setCMSReplyTo := .ok ()
    send := .ok ()
    queue := ReplyQueue.answering (some (.bytesMessage message)) }

/-- The consumer of the channel `a`. -/
def consumerOfA : EpicsConsumer where
  channelName := str "a"
  handler := 1
  destination := JmsUtil.getEpicsChannelTopic (str "a")
  listens := rfl

/-- An update of `a` without elements. -/
def noStrings : BytesMessage where
  content := [0, 0, 1, 97, 0, 0, 0, 0]
  fits := by decide

theorem noStrings_spares_clients :
    consumerOfA.HandsOver noStrings ∧
      JmsEpicsFetcher.Fetches (answeredWith noStrings) (str "a") 0 := by
  have hheader : EpicsUpdate.header.run noStrings.content = .ok ((.string, str "a", 0), []) := by
    decide
  have hdecodable : Decodable noStrings.content := by
    rw [Decodable, hheader]
    exact ⟨by decide, fun _ => rfl, [], [], rfl⟩
  have hbuildable : Buildable noStrings.content := by
    rw [buildable_of_header hheader]
    exact ⟨[], [], rfl⟩
  exact ⟨((clients_spared_iff noStrings).1 consumerOfA).2 hdecodable,
    ((clients_spared_iff noStrings).2 (answeredWith noStrings) (str "a") 0 rfl rfl).2 hbuildable⟩

/-- A body without a header: the listener hands over null, and the fetch returns it. -/
def emptyBody : BytesMessage where
  content := []
  fits := by decide

theorem emptyBody_gives_null :
    consumerOfA.onMessage emptyBody = .ok { handler := 1, item := none } ∧
      JmsEpicsFetcher.getChannel (answeredWith emptyBody) (str "a") 0 = .ok none ∧
      ¬ consumerOfA.HandsOver emptyBody ∧
      ¬ JmsEpicsFetcher.Fetches (answeredWith emptyBody) (str "a") 0 := by
  have hitem : consumerOfA.onMessage emptyBody = .ok { handler := 1, item := none } := rfl
  have hchannel : JmsEpicsFetcher.getChannel (answeredWith emptyBody) (str "a") 0 = .ok none := rfl
  refine ⟨hitem, hchannel, ?_, ?_⟩
  · rw [EpicsConsumer.HandsOver, hitem]
    rintro ⟨item, update, rest, ⟨⟩, -⟩
  · rw [JmsEpicsFetcher.Fetches, hchannel]
    simp

end JmsEpicsFactory

end Giapi
