import GiapiGlue.Epics.UpdateGrammar

set_option autoImplicit false

/-! # Updates of numeric channels

An update of a numeric channel as it is written: the code of the type, the name, the count and the
values. Reading it should give the values back. The buffer the builders copy to has one byte for each
value, so it does for the empty list only. -/

namespace Giapi

open BytesMessage Words ByteReader ByteWriter

inductive NumericKind
  | short
  | int
  | float
  | double
deriving DecidableEq, Repr

namespace NumericKind

def Value : NumericKind → Type
  | .short => CShort
  | .int => CInt
  | .float => CFloat
  | .double => CDouble

def dataType : NumericKind → DataType
  | .short => .short
  | .int => .int
  | .float => .float
  | .double => .double

def builder : (kind : NumericKind) → NumericType kind.Value
  | .short => jmsShortEpicsBuilder
  | .int => jmsIntEpicsBuilder
  | .float => jmsFloatEpicsBuilder
  | .double => jmsDoubleEpicsBuilder

def writeValue : (kind : NumericKind) → kind.Value → ByteWriter Exn Unit
  | .short, val => writeShort val
  | .int, val => writeInt val
  | .float, val => writeFloat val
  | .double, val => writeDouble val

/-- How the elements of an item are read back. -/
def getData : (kind : NumericKind) → EpicsStatusItem → CInt → Except Exn kind.Value
  | .short => EpicsStatusItem.getDataAsShort
  | .int => EpicsStatusItem.getDataAsInt
  | .float => EpicsStatusItem.getDataAsFloat
  | .double => EpicsStatusItem.getDataAsDouble

def writeValues (kind : NumericKind) : List kind.Value → ByteWriter Exn Unit
  | [] => return ()
  | val :: vals => do
    kind.writeValue val
    writeValues kind vals

/-- An update of the channel `name`. -/
def writeUpdate (kind : NumericKind) (name : CxxString) (vals : List kind.Value) :
    ByteWriter Exn Unit := do
  writeByte kind.dataType.code
  writeUTF name
  writeInt (BitVec.ofNat 32 vals.length)
  kind.writeValues vals

/-- The message holds an update of `name` with the values `vals`. -/
def Holds (kind : NumericKind) (name : CxxString) (vals : List kind.Value)
    (message : BytesMessage) : Prop :=
  (kind.writeUpdate name vals).run [] = .ok ((), message.content)

/-- No byte is written or read outside of a buffer, and the item has the name, the type, the count and
    the values of the update. -/
def DecodesTo (kind : NumericKind) (name : CxxString) (vals : List kind.Value)
    (message : BytesMessage) : Prop :=
  match JmsEpicsFactory.buildEpicsStatusItem message with
  | .error _ => False
  | .ok none => False
  | .ok (some item) => item.name = name ∧ item.type = kind.dataType.valueType ∧
    item.getCount.toInt = vals.length ∧
      ∀ (i : Nat) (hi : i < vals.length), kind.getData item (BitVec.ofNat 32 i) = .ok vals[i]

/-! ## The bytes of an update -/

/-- The bytes of one value on the wire. -/
def wire : (kind : NumericKind) → kind.Value → List UInt8
  | .short, val => toBE 2 val
  | .int, val => toBE 4 val
  | .float, val => toBE 4 val.bits
  | .double, val => toBE 8 val.bits

theorem writes_writeValue (kind : NumericKind) (val : kind.Value) :
    Writes (kind.writeValue val) (kind.wire val) := by
  cases kind <;> exact writes_put _

theorem writes_writeValues (kind : NumericKind) (vals : List kind.Value) :
    Writes (kind.writeValues vals) (vals.flatMap kind.wire) := by
  induction vals with
  | nil => exact Writes.pure
  | cons val vals ih => exact (kind.writes_writeValue val).bind ih

theorem length_wire (kind : NumericKind) (val : kind.Value) :
    (kind.wire val).length = kind.builder.sizeof := by
  cases kind <;> exact length_toBE _ _

theorem two_le_sizeof (kind : NumericKind) : 2 ≤ kind.builder.sizeof := by
  cases kind <;> decide

theorem length_bytes (kind : NumericKind) (val : kind.Value) :
    (kind.builder.bytes val).length = kind.builder.sizeof := by
  cases kind <;> exact length_toLE _ _

/-- A name that was written is short enough for `writeUTF`. -/
theorem Holds.name_fits {kind : NumericKind} {name : CxxString} {vals : List kind.Value}
    {message : BytesMessage} (h : kind.Holds name vals message) : countUTFLength name ≤ 65535 := by
  by_contra hlong
  rw [Holds, writeUpdate, StateT.run_bind, writeByte, writes_put _ [], writeUTF,
    if_pos (by omega)] at h
  exact absurd h (by rintro ⟨⟩)

theorem Holds.content_eq {kind : NumericKind} {name : CxxString} {vals : List kind.Value}
    {message : BytesMessage} (h : kind.Holds name vals message) :
    message.content = [kind.dataType.code] ++ (utfBytes name ++
      (toBE 4 (BitVec.ofNat 32 vals.length) ++ vals.flatMap kind.wire)) := by
  have hwrites : Writes (kind.writeUpdate name vals) _ :=
    (writes_put [kind.dataType.code]).bind ((writes_writeUTF h.name_fits).bind
      ((writes_put (toBE 4 (BitVec.ofNat 32 vals.length))).bind (kind.writes_writeValues vals)))
  rw [Holds, hwrites []] at h
  simpa using (Except.ok.inj h).symm

/-- A body is too short for more values than its count can tell. -/
theorem Holds.length_lt {kind : NumericKind} {name : CxxString} {vals : List kind.Value}
    {message : BytesMessage} (h : kind.Holds name vals message) : vals.length < 2 ^ 31 := by
  have hvals : vals.length ≤ (vals.flatMap kind.wire).length := by
    clear h
    induction vals with
    | nil => exact Nat.le_refl 0
    | cons val vals ih =>
        have hsize := kind.two_le_sizeof
        rw [List.flatMap_cons, List.length_append, kind.length_wire, List.length_cons]
        omega
  have hfits := message.fits
  rw [h.content_eq] at hfits
  simp only [List.length_append] at hfits
  omega

theorem ofCode_code (type : DataType) : DataType.ofCode type.code = some type := by
  cases type <;> rfl

/-- The header of an update is read as it was written. -/
theorem Holds.header {kind : NumericKind} {name : CxxString} {vals : List kind.Value}
    {message : BytesMessage} (h : kind.Holds name vals message) :
    EpicsUpdate.header.run message.content
      = .ok ((kind.dataType, name, BitVec.ofNat 32 vals.length), vals.flatMap kind.wire) := by
  have hreads : Reads EpicsUpdate.header ([kind.dataType.code] ++ (utfBytes name ++
      toBE 4 (BitVec.ofNat 32 vals.length))) (kind.dataType, name, BitVec.ofNat 32 vals.length) := by
    refine (reads_readByte kind.dataType.code).bind ?_
    rw [ofCode_code]
    exact (reads_readUTF h.name_fits).bind ((reads_readInt _).map _)
  rw [h.content_eq]
  simpa only [List.append_assoc] using hreads (vals.flatMap kind.wire)

/-! ## What is decoded -/

/-- An update decodes to what was sent exactly when nothing was sent. -/
theorem decodesTo_iff {kind : NumericKind} {name : CxxString} {vals : List kind.Value}
    {message : BytesMessage} (h : kind.Holds name vals message) :
    kind.DecodesTo name vals message ↔ vals = [] := by
  have hbuilder : JmsEpicsBuilder.getEpicsStatusItem
      ⟨kind.dataType, name, BitVec.ofNat 32 vals.length⟩
        = kind.builder.getEpicsStatusItem name (BitVec.ofNat 32 vals.length) := by
    cases kind <;> rfl
  rw [DecodesTo, JmsEpicsFactory.build_of_header_ok h.header, hbuilder]
  constructor
  · intro hdecodes
    cases hrun : (kind.builder.getEpicsStatusItem name (BitVec.ofNat 32 vals.length)).run
        (vals.flatMap kind.wire) with
    | error e => rw [hrun] at hdecodes; exact hdecodes.elim
    | ok x =>
        have hcount := JmsEpicsFactory.numeric_ok kind.builder kind.length_bytes
          kind.two_le_sizeof hrun
        have hlength := congrArg BitVec.toNat hcount
        have hlt := h.length_lt
        rw [BitVec.toNat_ofNat, Nat.mod_eq_of_lt (by omega)] at hlength
        exact List.length_eq_zero_iff.1 hlength
  · rintro rfl
    rw [show BitVec.ofNat 32 ([] : List kind.Value).length = (0 : CInt) from rfl,
      JmsEpicsFactory.numeric_zero]
    refine ⟨rfl, ?_, rfl, fun i hi => absurd hi (Nat.not_lt_zero i)⟩
    cases kind <;> rfl

/-- An `INT` channel without values. -/
theorem emptyInt_decodes :
    NumericKind.int.DecodesTo (str "a") []
      { content := [5, 0, 1, 97, 0, 0, 0, 0], fits := by decide } := by
  have h : NumericKind.int.Holds (str "a") []
      { content := [5, 0, 1, 97, 0, 0, 0, 0], fits := by decide } := rfl
  exact (decodesTo_iff h).2 rfl

/-- One `int` is copied to a buffer of one byte. -/
theorem oneInt_overflows :
    NumericKind.int.Holds (str "a") [(7 : CInt)]
        { content := [5, 0, 1, 97, 0, 0, 0, 1, 0, 0, 0, 7], fits := by decide } ∧
      ¬ NumericKind.int.DecodesTo (str "a") [(7 : CInt)]
        { content := [5, 0, 1, 97, 0, 0, 0, 1, 0, 0, 0, 7], fits := by decide } := by
  have h : JmsEpicsFactory.buildEpicsStatusItem
      { content := [5, 0, 1, 97, 0, 0, 0, 1, 0, 0, 0, 7], fits := by decide }
        = .error .outOfBounds := by
    decide
  refine ⟨rfl, ?_⟩
  rw [DecodesTo, h]
  exact not_false

end NumericKind

end Giapi
