import GiapiGlue.Epics.JmsEpicsFactory

set_option autoImplicit false

/-! # The grammar of EPICS updates

An update is a type code, a name, a count and that many elements. A parser of such bodies yields an item
for the bodies of the grammar, made of their elements, and nothing for the others. The parser of the
factory does so for some bodies only. -/

namespace Giapi

open BytesMessage Words ByteReader

/-! ## The grammar -/

inductive EpicsValue
  | string (val : CxxString)
  | short (val : CShort)
  | float (val : CFloat)
  | byte (val : UInt8)
  | int (val : CInt)
  | double (val : CDouble)
deriving DecidableEq

/-- The bytes of an element in the memory of the host; a string ends at its first NUL. -/
def EpicsValue.memory : EpicsValue → List UInt8
  | .string val => JmsStringEpicsBuilder.cstr val
  | .short val => toLE 2 val
  | .float val => toLE 4 val.bits
  | .byte val => [val]
  | .int val => toLE 4 val
  | .double val => toLE 8 val.bits

/-- The type of the items that hold elements of a type. -/
def DataType.valueType : DataType → ValueType
  | .string => .string
  | .short => .short
  | .float => .float
  | .byte => .byte
  | .int => .int
  | .double => .double

/-- The types whose elements are numbers of several bytes. -/
def DataType.Numeric (type : DataType) : Prop := type ≠ .string ∧ type ≠ .byte

structure EpicsUpdate where
  type : DataType
  name : CxxString
  values : List EpicsValue
deriving DecidableEq

namespace EpicsUpdate

/-- The type, the name and the count an update starts with. -/
def header : ByteReader Exn (DataType × CxxString × CInt) := do
  let code ← readByte
  match DataType.ofCode code with
  | none => throw (.cmsException (str "unknown type code"))
  | some type => do
    let name ← readUTF
    let count ← readInt
    return (type, name, count)

def element : DataType → ByteReader Exn EpicsValue
  | .string => do return .string (← readUTF)
  | .short => do return .short (← readShort)
  | .float => do return .float (← readFloat)
  | .byte => do return .byte (← readByte)
  | .int => do return .int (← readInt)
  | .double => do return .double (← readDouble)

def elements (type : DataType) (count : CInt) : ByteReader Exn (List EpicsValue) :=
  if count.toInt < 0 then
    throw (.cmsException (str "negative count"))
  else
    times (element type) count.toInt.toNat

/-- Bytes after the last element are not looked at. -/
def update : ByteReader Exn EpicsUpdate := do
  let (type, name, count) ← header
  let values ← elements type count
  return { type, name, values }

/-- The item holds the update: its name, its type and all of its elements. -/
def HeldBy (update : EpicsUpdate) (item : EpicsStatusItem) : Prop :=
  item.name = update.name ∧ item.type = update.type.valueType ∧
    item.nElements.toInt = update.values.length ∧
    item.data = Block.ofBytes (update.values.flatMap EpicsValue.memory)

end EpicsUpdate

/-- The bodies of the grammar. -/
def WellFormed (body : List UInt8) : Prop :=
  ∃ update rest, EpicsUpdate.update.run body = .ok (update, rest)

namespace JmsEpicsFactory

/-- No exception escapes, a body of the grammar gives the item that holds its update, and any other
    body gives null. -/
def ParsesExactly (message : BytesMessage) : Prop :=
  match buildEpicsStatusItem message with
  | .error _ => False
  | .ok none => ¬ WellFormed message.content
  | .ok (some item) => ∃ update rest,
    EpicsUpdate.update.run message.content = .ok (update, rest) ∧ update.HeldBy item

/-- The bodies the parser is right about: those without a complete header, and those whose count is
    not negative, whose elements are all there, and which have no element that is a number of several
    bytes. -/
def Parsable (body : List UInt8) : Prop :=
  match EpicsUpdate.header.run body with
  | .error _ => True
  | .ok ((type, _, count), rest) =>
    0 ≤ count.toInt ∧ (type.Numeric → count = 0) ∧
      ∃ values rest', (EpicsUpdate.elements type count).run rest = .ok (values, rest')

/-! ## The header -/

/-- The factory has a builder when the header is complete. -/
theorem header_eq : EpicsUpdate.header = (do
    match ← chooseBuilder with
    | none => throw (.cmsException (str "unknown type code"))
    | some builder => return (builder.dataType, builder.name, builder.nElements)) := by
  rw [EpicsUpdate.header, chooseBuilder, bind_assoc]
  congr 1
  funext code
  cases DataType.ofCode code with
  | none => rfl
  | some type => simp only [JmsEpicsBuilder.construct, bind_assoc, pure_bind]

theorem failsWith_chooseBuilder : FailsWith IsCms chooseBuilder := by
  refine failsWith_readByte.bind (fun code => ?_)
  cases DataType.ofCode code with
  | none => exact FailsWith.pure none
  | some type =>
      refine FailsWith.bind ?_ (fun builder => FailsWith.pure (some builder))
      exact failsWith_readUTF.bind fun name => failsWith_readInt.bind fun count => FailsWith.pure _

theorem shrinks_chooseBuilder : Shrinks chooseBuilder := by
  have hbyte : Shrinks readByte :=
    (consumes_readWord 8 1).shrinks.bind fun b => .pure (UInt8.ofBitVec b)
  refine hbyte.bind fun code => ?_
  cases DataType.ofCode code with
  | none => exact .pure none
  | some type =>
      refine Shrinks.bind ?_ fun builder => .pure (some builder)
      exact consumes_readUTF.shrinks.bind fun name =>
        (consumes_readWord 32 4).shrinks.bind fun count => .pure _

/-- Without a complete header there is no item. -/
theorem build_of_header_error {message : BytesMessage} {e : Exn}
    (h : EpicsUpdate.header.run message.content = .error e) :
    buildEpicsStatusItem message = .ok none := by
  rw [header_eq, StateT.run_bind] at h
  rw [buildEpicsStatusItem]
  cases hrun : chooseBuilder.run message.content with
  | error e' =>
      obtain ⟨text, rfl⟩ := failsWith_chooseBuilder _ _ hrun
      rfl
  | ok x =>
      obtain ⟨builder, rest⟩ := x
      cases builder with
      | none => rfl
      | some builder => rw [hrun] at h; exact absurd h (by rintro ⟨⟩)

/-- With one, its builder reads on. -/
theorem chooseBuilder_of_header_ok {body rest : List UInt8} {type : DataType} {name : CxxString}
    {count : CInt} (h : EpicsUpdate.header.run body = .ok ((type, name, count), rest)) :
    chooseBuilder.run body = .ok (some ⟨type, name, count⟩, rest) := by
  rw [header_eq] at h
  obtain ⟨builder, mid, hbuilder, h'⟩ := run_bind_ok h
  cases builder with
  | none => exact absurd h' (by rintro ⟨⟩)
  | some builder =>
      obtain ⟨⟨rfl, rfl, rfl⟩, rfl⟩ :
          (builder.dataType = type ∧ builder.name = name ∧ builder.nElements = count) ∧ mid = rest := by
        simpa [pure, StateT.pure, StateT.run, Except.pure] using h'
      exact hbuilder

/-! ## The elements -/

/-- A numeric builder has no room for the elements it copies. -/
theorem copyElements_ok {α : Type} (numeric : NumericType α)
    (hbytes : ∀ val, (numeric.bytes val).length = numeric.sizeof) {remaining i : Nat}
    {data data' : Block} {body rest : List UInt8}
    (h : (numeric.copyElements remaining i data).run body = .ok (data', rest)) :
    remaining = 0 ∨ (i + remaining) * numeric.sizeof ≤ data.length := by
  induction remaining generalizing i data body with
  | zero => exact .inl rfl
  | succ remaining ih =>
      right
      obtain ⟨val, mid, -, h⟩ := run_bind_ok h
      obtain ⟨stored, mid', hstore, h⟩ := run_bind_ok h
      have hlen := Block.length_store _ (run_lift_ok hstore).1
      rw [Block.length_ofBytes, hbytes] at hlen
      rcases ih h with rfl | hroom
      · rw [Nat.add_mul, Nat.one_mul]
        exact hlen.2
      · rw [hlen.1] at hroom
        rwa [Nat.add_assoc, Nat.add_comm 1 remaining] at hroom

/-- Only the empty numeric array gives an item. -/
theorem numeric_ok {α : Type} (numeric : NumericType α)
    (hbytes : ∀ val, (numeric.bytes val).length = numeric.sizeof) (hsize : 2 ≤ numeric.sizeof)
    {name : CxxString} {count : CInt} {item : EpicsStatusItem} {body rest : List UInt8}
    (h : (numeric.getEpicsStatusItem name count).run body = .ok (item, rest)) : count = 0 := by
  rw [NumericType.getEpicsStatusItem] at h
  split at h
  · exact absurd h (by rintro ⟨⟩)
  · next hcount =>
      obtain ⟨data, mid, hcopy, -⟩ := run_bind_ok h
      have hroom := copyElements_ok numeric hbytes hcopy
      rw [Block.length_alloc, Nat.zero_add] at hroom
      have hzero : count.toInt.toNat = 0 := by
        by_contra hne
        have := Nat.mul_le_mul_left count.toInt.toNat hsize
        omega
      exact BitVec.eq_of_toInt_eq (by simpa using (by omega : count.toInt = 0))

theorem numeric_zero {α : Type} (numeric : NumericType α) (name : CxxString) (body : List UInt8) :
    (numeric.getEpicsStatusItem name 0).run body
      = .ok ({ name, type := numeric.type, nElements := 0, data := [], size := 0 }, body) := by
  have hsize : (0 : CInt) * BitVec.ofNat 32 numeric.sizeof = 0 := BitVec.zero_mul
  rw [NumericType.getEpicsStatusItem, hsize]
  rfl

/-- One byte after the other is all of them at once. -/
theorem run_elements_byte (n : Nat) (body : List UInt8) :
    (times (EpicsUpdate.element .byte) n).run body =
      if n ≤ body.length then .ok ((body.take n).map EpicsValue.byte, body.drop n)
      else .error eofException := by
  induction n generalizing body with
  | zero => rfl
  | succ n ih =>
      cases body with
      | nil => rfl
      | cons b body =>
          have hfirst : (EpicsUpdate.element .byte).run (b :: body) = .ok (.byte b, body) :=
            (reads_readByte b).map EpicsValue.byte body
          rw [times, StateT.run_bind, hfirst]
          show ((times (EpicsUpdate.element .byte) n >>= fun values =>
            pure (EpicsValue.byte b :: values)) : ByteReader Exn (List EpicsValue)).run body = _
          rw [StateT.run_bind, ih]
          by_cases hn : n ≤ body.length
          · rw [if_pos hn, if_pos (by simpa using hn)]
            rfl
          · rw [if_neg hn, if_neg (by simpa using hn)]
            rfl

theorem flatMap_memory_byte (bytes : List UInt8) :
    (bytes.map EpicsValue.byte).flatMap EpicsValue.memory = bytes := by
  induction bytes with
  | nil => rfl
  | cons b bytes ih => rw [List.map_cons, List.flatMap_cons, ih]; rfl

/-- The loop over strings packs the elements of the grammar. -/
theorem packStrings_eq (remaining : Nat) (data : Block) :
    JmsStringEpicsBuilder.packStrings remaining data = (do
      let values ← times (EpicsUpdate.element .string) remaining
      return data ++ Block.ofBytes (values.flatMap EpicsValue.memory)) := by
  induction remaining generalizing data with
  | zero => simp [JmsStringEpicsBuilder.packStrings, times, Block.ofBytes]
  | succ remaining ih =>
      simp only [JmsStringEpicsBuilder.packStrings, times, EpicsUpdate.element, bind_assoc,
        pure_bind]
      congr 1
      funext val
      have hstore := Block.store_realloc Exn.outOfBounds data
        (Block.ofBytes (JmsStringEpicsBuilder.cstr val))
      rw [Block.length_ofBytes] at hstore
      rw [hstore]
      show JmsStringEpicsBuilder.packStrings remaining
        (data ++ Block.ofBytes (JmsStringEpicsBuilder.cstr val)) = _
      rw [ih]
      congr 1
      funext values
      rw [List.append_assoc, List.flatMap_cons, Block.ofBytes_append]
      rfl

/-- What the strings of an update need is no more than what they cost on the wire. -/
theorem length_strings {n : Nat} {body rest : List UInt8} {values : List EpicsValue}
    (h : (times (EpicsUpdate.element .string) n).run body = .ok (values, rest)) :
    (values.flatMap EpicsValue.memory).length ≤ body.length := by
  have helement : Consumes (EpicsUpdate.element .string) (fun value => value.memory.length) := by
    intro bs value rest h
    obtain ⟨s, mid, hs, h'⟩ := run_bind_ok h
    obtain ⟨rfl, rfl⟩ : EpicsValue.string s = value ∧ mid = rest := by
      simpa [pure, StateT.pure, StateT.run, Except.pure] using h'
    have hcost : mid.length + (s.length + 2) ≤ bs.length := consumes_readUTF bs s mid hs
    have hcstr : (s.takeWhile (· ≠ 0)).length ≤ s.length := (List.takeWhile_prefix _).length_le
    show mid.length + (s.takeWhile (· ≠ 0) ++ [0]).length ≤ bs.length
    rw [List.length_append, List.length_singleton]
    omega
  have hcost : rest.length + (values.map fun value => value.memory.length).sum ≤ body.length :=
    helement.times n body values rest h
  rw [List.length_flatMap]
  omega

/-! ## What the parser is right about -/

/-- What `ParsesExactly` asks of a builder, once the header is read. -/
def ElementsExactly (builder : JmsEpicsBuilder) (body : List UInt8) : Prop :=
  match builder.getEpicsStatusItem.run body with
  | .error _ => False
  | .ok (item, _) => ∃ values rest,
    (EpicsUpdate.elements builder.dataType builder.nElements).run body = .ok (values, rest) ∧
      EpicsUpdate.HeldBy { type := builder.dataType, name := builder.name, values } item

/-- What `Parsable` asks of the elements. -/
def ElementsParsable (type : DataType) (count : CInt) (body : List UInt8) : Prop :=
  0 ≤ count.toInt ∧ (type.Numeric → count = 0) ∧
    ∃ values rest, (EpicsUpdate.elements type count).run body = .ok (values, rest)

theorem elements_of_nonneg {type : DataType} {count : CInt} (h : 0 ≤ count.toInt) :
    EpicsUpdate.elements type count = times (EpicsUpdate.element type) count.toInt.toNat := by
  rw [EpicsUpdate.elements, if_neg (by omega)]

/-- No elements are read of a negative count. -/
theorem nonneg_of_elements {type : DataType} {count : CInt} {body rest : List UInt8}
    {values : List EpicsValue}
    (h : (EpicsUpdate.elements type count).run body = .ok (values, rest)) : 0 ≤ count.toInt := by
  by_contra hneg
  rw [EpicsUpdate.elements, if_pos (by omega)] at h
  exact absurd h (by rintro ⟨⟩)

theorem elements_zero (type : DataType) (body : List UInt8) :
    (EpicsUpdate.elements type 0).run body = .ok ([], body) := rfl

/-- A numeric builder. -/
theorem elementsExactly_numeric {α : Type} (numeric : NumericType α) {type : DataType}
    (hnumeric : type.Numeric) (hbytes : ∀ val, (numeric.bytes val).length = numeric.sizeof)
    (hsize : 2 ≤ numeric.sizeof) (htype : numeric.type = type.valueType) {name : CxxString}
    {count : CInt} (hbuilder : JmsEpicsBuilder.getEpicsStatusItem ⟨type, name, count⟩
      = numeric.getEpicsStatusItem name count) (body : List UInt8) :
    ElementsExactly ⟨type, name, count⟩ body ↔ ElementsParsable type count body := by
  rw [ElementsExactly, hbuilder]
  constructor
  · intro h
    cases hrun : (numeric.getEpicsStatusItem name count).run body with
    | error e => rw [hrun] at h; exact h.elim
    | ok x =>
        rw [hrun] at h
        obtain ⟨values, rest, helements, -⟩ := h
        exact ⟨nonneg_of_elements helements, fun _ => numeric_ok numeric hbytes hsize hrun,
          values, rest, helements⟩
  · rintro ⟨-, hzero, -⟩
    rw [hzero hnumeric, numeric_zero]
    exact ⟨[], body, elements_zero type body, rfl, htype, rfl, rfl⟩

/-- The byte builder fills its buffer as far as there are bytes. -/
theorem store_bytes (n : Nat) (body : List UInt8) :
    ∃ data, (Block.alloc n).store Exn.outOfBounds 0 (Block.ofBytes (body.take n)) = .ok data ∧
      data.length = n ∧ (n ≤ body.length → data = Block.ofBytes (body.take n)) := by
  by_cases hn : n ≤ body.length
  · have hlen : (Block.ofBytes (body.take n)).length = (Block.alloc n).length := by
      rw [Block.length_ofBytes, Block.length_alloc, List.length_take, Nat.min_eq_left hn]
    exact ⟨_, Block.store_all _ hlen, hlen.trans (Block.length_alloc n), fun _ => rfl⟩
  · have hroom : 0 + (Block.ofBytes (body.take n)).length ≤ (Block.alloc n).length := by
      rw [Block.length_ofBytes, Block.length_alloc, List.length_take]
      omega
    obtain ⟨data, hstore, hlen⟩ := Block.store_ok Exn.outOfBounds hroom
    exact ⟨data, hstore, hlen.trans (Block.length_alloc n), fun h => absurd h hn⟩

/-- The byte builder, of a count that is not negative. -/
theorem byte_run {count : CInt} (h : 0 ≤ count.toInt) (name : CxxString) (body : List UInt8) :
    ∃ data rest, (JmsByteEpicsBuilder.getEpicsStatusItem name count).run body
        = .ok ({ name, type := .byte, nElements := count, data, size := count }, rest) ∧
      (count.toInt.toNat ≤ body.length → data = Block.ofBytes (body.take count.toInt.toNat)) := by
  obtain ⟨data, hstore, hlen, hdata⟩ := store_bytes count.toInt.toNat body
  have hcount : BitVec.ofNat 32 data.length = count := by
    rw [hlen, ← BitVec.ofInt_natCast, Int.toNat_of_nonneg h, BitVec.ofInt_toInt]
  have hlimit : count.toInt < 2 ^ 31 := BitVec.toInt_lt
  have hcreate := EpicsStatusItem.create_all name .byte count data (by omega)
  rw [hcount] at hcreate
  refine ⟨data, body.drop count.toInt.toNat, ?_, hdata⟩
  rw [JmsByteEpicsBuilder.getEpicsStatusItem, if_neg (by omega), StateT.run_bind,
    show (readBytes count.toInt).run body = readBytes count.toInt body from rfl, readBytes,
    if_neg (by omega)]
  show ((liftM ((Block.alloc count.toInt.toNat).store Exn.outOfBounds 0
      (Block.ofBytes (body.take count.toInt.toNat))) >>= fun data =>
    liftM (EpicsStatusItem.create name .byte count data count)) :
      ByteReader Exn EpicsStatusItem).run (body.drop count.toInt.toNat) = _
  rw [hstore, StateT.run_bind, run_lift]
  show (liftM (EpicsStatusItem.create name .byte count data count) :
    ByteReader Exn EpicsStatusItem).run (body.drop count.toInt.toNat) = _
  rw [hcreate, run_lift]
  rfl

theorem elementsExactly_byte (name : CxxString) (count : CInt) (body : List UInt8) :
    ElementsExactly ⟨.byte, name, count⟩ body ↔ ElementsParsable .byte count body := by
  have hbuilder : JmsEpicsBuilder.getEpicsStatusItem ⟨.byte, name, count⟩
    = JmsByteEpicsBuilder.getEpicsStatusItem name count := rfl
  rw [ElementsExactly, hbuilder]
  by_cases hneg : count.toInt < 0
  · rw [JmsByteEpicsBuilder.getEpicsStatusItem, if_pos hneg]
    exact ⟨False.elim, fun h => absurd h.1 (by omega)⟩
  · have hcount : 0 ≤ count.toInt := by omega
    obtain ⟨data, rest, hrun, hdata⟩ := byte_run hcount name body
    rw [hrun, ElementsParsable, elements_of_nonneg hcount, run_elements_byte]
    by_cases hall : count.toInt.toNat ≤ body.length
    · rw [if_pos hall]
      refine ⟨fun _ => ⟨hcount, fun h => absurd rfl h.2, _, _, rfl⟩, fun _ => ⟨_, _, rfl, ?_⟩⟩
      refine ⟨rfl, rfl, ?_, ?_⟩
      · show count.toInt = ((body.take count.toInt.toNat).map EpicsValue.byte).length
        rw [List.length_map, List.length_take, Nat.min_eq_left hall, Int.toNat_of_nonneg hcount]
      · show data = _
        rw [hdata hall, flatMap_memory_byte]
    · rw [if_neg hall]
      constructor
      · rintro ⟨_, _, h, -⟩
        exact absurd h (by simp)
      · rintro ⟨-, -, _, _, h⟩
        exact absurd h (by simp)

/-- The string builder keeps the strings it reads. -/
theorem string_run {count : CInt} {body rest : List UInt8} {values : List EpicsValue}
    (hfits : body.length < 2 ^ 31)
    (h : (times (EpicsUpdate.element .string) count.toInt.toNat).run body = .ok (values, rest))
    (name : CxxString) :
    ∃ size, (JmsStringEpicsBuilder.getEpicsStatusItem name count).run body
      = .ok (⟨name, .string, count, Block.ofBytes (values.flatMap EpicsValue.memory), size⟩,
        rest) := by
  have hmemory := length_strings h
  have hpack : (JmsStringEpicsBuilder.packStrings count.toInt.toNat []).run body
      = .ok (Block.ofBytes (values.flatMap EpicsValue.memory), rest) := by
    rw [packStrings_eq, StateT.run_bind, h]
    rfl
  have hcreate := EpicsStatusItem.create_all name .string count
    (Block.ofBytes (values.flatMap EpicsValue.memory))
    (by rw [Block.length_ofBytes]; omega)
  refine ⟨BitVec.ofNat 32 (Block.ofBytes (values.flatMap EpicsValue.memory)).length, ?_⟩
  rw [JmsStringEpicsBuilder.getEpicsStatusItem, StateT.run_bind, hpack]
  show (liftM (EpicsStatusItem.create name .string count _ _) :
    ByteReader Exn EpicsStatusItem).run rest = _
  rw [hcreate, run_lift]
  rfl

theorem elementsExactly_string (name : CxxString) (count : CInt) {body : List UInt8}
    (hfits : body.length < 2 ^ 31) :
    ElementsExactly ⟨.string, name, count⟩ body ↔ ElementsParsable .string count body := by
  have hbuilder : JmsEpicsBuilder.getEpicsStatusItem ⟨.string, name, count⟩
    = JmsStringEpicsBuilder.getEpicsStatusItem name count := rfl
  rw [ElementsExactly, hbuilder]
  constructor
  · intro h
    cases hrun : (JmsStringEpicsBuilder.getEpicsStatusItem name count).run body with
    | error e => rw [hrun] at h; exact h.elim
    | ok x =>
        rw [hrun] at h
        obtain ⟨values, rest, helements, -⟩ := h
        exact ⟨nonneg_of_elements helements, fun h => absurd rfl h.1, values, rest, helements⟩
  · rintro ⟨hcount, -, values, rest, helements⟩
    have htimes := helements
    rw [elements_of_nonneg hcount] at htimes
    obtain ⟨size, hrun⟩ := string_run hfits htimes name
    rw [hrun]
    refine ⟨values, rest, helements, rfl, rfl, ?_, rfl⟩
    show count.toInt = values.length
    rw [length_of_run_times htimes, Int.toNat_of_nonneg hcount]

theorem elementsExactly_iff (type : DataType) (name : CxxString) (count : CInt) {body : List UInt8}
    (hfits : body.length < 2 ^ 31) :
    ElementsExactly ⟨type, name, count⟩ body ↔ ElementsParsable type count body := by
  cases type with
  | string => exact elementsExactly_string name count hfits
  | byte => exact elementsExactly_byte name count body
  | short =>
      exact elementsExactly_numeric jmsShortEpicsBuilder (by simp [DataType.Numeric])
        (fun val => length_toLE 2 val) (Nat.le_refl 2) rfl rfl body
  | int =>
      exact elementsExactly_numeric jmsIntEpicsBuilder (by simp [DataType.Numeric])
        (fun val => length_toLE 4 val) (by decide) rfl rfl body
  | float =>
      exact elementsExactly_numeric jmsFloatEpicsBuilder (by simp [DataType.Numeric])
        (fun val => length_toLE 4 val.bits) (by decide) rfl rfl body
  | double =>
      exact elementsExactly_numeric jmsDoubleEpicsBuilder (by simp [DataType.Numeric])
        (fun val => length_toLE 8 val.bits) (by decide) rfl rfl body

/-- The grammar after a complete header. -/
theorem update_run {body mid rest : List UInt8} {type : DataType} {name : CxxString} {count : CInt}
    {values : List EpicsValue} (hheader : EpicsUpdate.header.run body = .ok ((type, name, count), mid))
    (helements : (EpicsUpdate.elements type count).run mid = .ok (values, rest)) :
    EpicsUpdate.update.run body = .ok ({ type, name, values }, rest) := by
  rw [EpicsUpdate.update, StateT.run_bind, hheader]
  show ((EpicsUpdate.elements type count >>= fun values =>
    pure ({ type, name, values } : EpicsUpdate)) : ByteReader Exn EpicsUpdate).run mid = _
  rw [StateT.run_bind, helements]
  rfl

/-- What an update starts with. -/
theorem update_run_inv {body rest : List UInt8} {update : EpicsUpdate}
    (h : EpicsUpdate.update.run body = .ok (update, rest)) :
    ∃ count mid, EpicsUpdate.header.run body = .ok ((update.type, update.name, count), mid) ∧
      (EpicsUpdate.elements update.type count).run mid = .ok (update.values, rest) := by
  obtain ⟨⟨type, name, count⟩, mid, hheader, h⟩ := run_bind_ok h
  obtain ⟨values, mid', helements, h⟩ := run_bind_ok h
  obtain ⟨rfl, rfl⟩ : ({ type, name, values } : EpicsUpdate) = update ∧ mid' = rest := by
    simpa [pure, StateT.pure, StateT.run, Except.pure] using h
  exact ⟨count, mid, hheader, helements⟩

/-- With a complete header, what the builder returns is what the factory returns. -/
theorem build_of_header_ok {message : BytesMessage} {mid : List UInt8} {type : DataType}
    {name : CxxString} {count : CInt}
    (hheader : EpicsUpdate.header.run message.content = .ok ((type, name, count), mid)) :
    buildEpicsStatusItem message
      = ((JmsEpicsBuilder.getEpicsStatusItem ⟨type, name, count⟩).run mid).map
          (fun x => some x.1) := by
  rw [buildEpicsStatusItem, chooseBuilder_of_header_ok hheader]
  dsimp only
  cases (JmsEpicsBuilder.getEpicsStatusItem ⟨type, name, count⟩).run mid <;> rfl

theorem parsesExactly_of_header {message : BytesMessage} {mid : List UInt8} {type : DataType}
    {name : CxxString} {count : CInt}
    (hheader : EpicsUpdate.header.run message.content = .ok ((type, name, count), mid)) :
    ParsesExactly message ↔ ElementsExactly ⟨type, name, count⟩ mid := by
  rw [ParsesExactly, ElementsExactly, build_of_header_ok hheader]
  cases (JmsEpicsBuilder.getEpicsStatusItem ⟨type, name, count⟩).run mid with
  | error e => exact Iff.rfl
  | ok x =>
      constructor
      · rintro ⟨update, rest, hupdate, hheld⟩
        obtain ⟨count', mid', hheader', helements⟩ := update_run_inv hupdate
        rw [hheader] at hheader'
        obtain ⟨⟨rfl, rfl, rfl⟩, rfl⟩ : (type = update.type ∧ name = update.name ∧ count = count') ∧
            mid = mid' := by
          simpa using hheader'
        exact ⟨update.values, rest, helements, hheld⟩
      · rintro ⟨values, rest, helements, hheld⟩
        exact ⟨_, rest, update_run hheader helements, hheld⟩

/-- The parser is right about a body exactly when the body is parsable. -/
theorem parsesExactly_iff (message : BytesMessage) :
    ParsesExactly message ↔ Parsable message.content := by
  cases hheader : EpicsUpdate.header.run message.content with
  | error e =>
      rw [ParsesExactly, build_of_header_error hheader, Parsable, hheader]
      refine iff_true_intro ?_
      rintro ⟨update, rest, hupdate⟩
      obtain ⟨count, mid, hok, -⟩ := update_run_inv hupdate
      rw [hheader] at hok
      exact absurd hok (by simp)
  | ok x =>
      obtain ⟨⟨type, name, count⟩, mid⟩ := x
      have hrest : mid.length ≤ message.content.length :=
        shrinks_chooseBuilder _ _ _ (chooseBuilder_of_header_ok hheader)
      have hfits := message.fits
      rw [parsesExactly_of_header hheader, Parsable, hheader]
      exact elementsExactly_iff type name count (by omega)

/-- An `INT` array of one element that is not there: the exception is thrown outside of the `try`
    block. -/
theorem truncatedInt_escapes :
    ¬ ParsesExactly { content := [5, 0, 1, 97, 0, 0, 0, 1], fits := by decide } := by
  have h : buildEpicsStatusItem { content := [5, 0, 1, 97, 0, 0, 0, 1], fits := by decide }
      = .error eofException := by
    decide
  rw [ParsesExactly, h]
  exact not_false

end JmsEpicsFactory

end Giapi
