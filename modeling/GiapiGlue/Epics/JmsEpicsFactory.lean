import GiapiGlue.Cms.BytesMessage
import GiapiGlue.Epics.EpicsStatusItem

set_option autoImplicit false

/-! # The EPICS update parser

`JmsEpicsFactory::buildEpicsStatusItem` and the six builders it chooses from. A builder reads the name
and the count when it is constructed, inside the `try` block; the elements are read afterwards, outside
of it. -/

namespace Giapi

open BytesMessage Words

/-! ## Numeric arrays -/

/-- What the four numeric builders differ in: the type, its size, how an element is read and how it
    lies in memory. -/
structure NumericType (α : Type) where
  type : ValueType
  sizeof : Nat
  readValue : ByteReader Exn α
  bytes : α → List UInt8

namespace NumericType

/-- `for (i …) { val = read(); memcpy(data + i * sizeof(val), &val, sizeof(val)); }`, for the
    `remaining` elements from `i` on. -/
def copyElements {α : Type} (numeric : NumericType α) : (remaining i : Nat) → Block →
    ByteReader Exn Block
  | 0, _, data => return data
  | remaining + 1, i, data => do
    let val ← numeric.readValue
    let data ← (data.store Exn.outOfBounds (i * numeric.sizeof)
      (Block.ofBytes (numeric.bytes val)) : Except Exn Block)
    copyElements numeric remaining (i + 1) data

/-- `getEpicsStatusItem`: the local buffer has one byte for each element. -/
def getEpicsStatusItem {α : Type} (numeric : NumericType α) (name : CxxString) (nElements : CInt) :
    ByteReader Exn EpicsStatusItem := do
  let size : CInt := nElements * BitVec.ofNat 32 numeric.sizeof
  if nElements.toInt < 0 then
    throw Exn.badAlloc
  else
    let count := nElements.toInt.toNat
    let data ← numeric.copyElements count 0 (Block.alloc count)
    (EpicsStatusItem.create name numeric.type nElements data size : Except Exn EpicsStatusItem)

end NumericType

def jmsShortEpicsBuilder : NumericType CShort :=
  { type := .short, sizeof := 2, readValue := readShort, bytes := toLE 2 }

def jmsIntEpicsBuilder : NumericType CInt :=
  { type := .int, sizeof := 4, readValue := readInt, bytes := toLE 4 }

def jmsFloatEpicsBuilder : NumericType CFloat :=
  { type := .float, sizeof := 4, readValue := readFloat, bytes := fun val => toLE 4 val.bits }

def jmsDoubleEpicsBuilder : NumericType CDouble :=
  { type := .double, sizeof := 8, readValue := readDouble, bytes := fun val => toLE 8 val.bits }

/-! ## Bytes and strings -/

namespace JmsByteEpicsBuilder

/-- `getEpicsStatusItem`: how many bytes were read is not looked at. -/
def getEpicsStatusItem (name : CxxString) (nElements : CInt) : ByteReader Exn EpicsStatusItem := do
  if nElements.toInt < 0 then
    throw Exn.badAlloc
  else
    let data := Block.alloc nElements.toInt.toNat
    let (_, bytes) ← readBytes nElements.toInt
    let data ← (data.store Exn.outOfBounds 0 (Block.ofBytes bytes) : Except Exn Block)
    (EpicsStatusItem.create name .byte nElements data nElements : Except Exn EpicsStatusItem)

end JmsByteEpicsBuilder

namespace JmsStringEpicsBuilder

/-- What `strcpy` copies of a string: all up to its first NUL, and a NUL. -/
def cstr (val : CxxString) : List UInt8 := val.takeWhile (· ≠ 0) ++ [0]

/-- The loop: the buffer is grown by each string, which is copied to its end. -/
def packStrings : (remaining : Nat) → Block → ByteReader Exn Block
  | 0, data => return data
  | remaining + 1, data => do
    let val ← readUTF
    let oldsize := data.length
    let size := oldsize + (cstr val).length
    let data ← ((data.realloc size).store Exn.outOfBounds oldsize (Block.ofBytes (cstr val)) :
      Except Exn Block)
    packStrings remaining data

/-- `getEpicsStatusItem`: a negative count makes no turn of the loop. -/
def getEpicsStatusItem (name : CxxString) (nElements : CInt) : ByteReader Exn EpicsStatusItem := do
  let data ← packStrings nElements.toInt.toNat []
  (EpicsStatusItem.create name .string nElements data (BitVec.ofNat 32 data.length) :
    Except Exn EpicsStatusItem)

end JmsStringEpicsBuilder

/-! ## The factory -/

/-- `DataType`. -/
inductive DataType
  | string
  | short
  | float
  | byte
  | int
  | double
deriving DecidableEq, Repr

/-- The code of a type in a message. -/
def DataType.code : DataType → UInt8
  | .string => 0
  | .short => 1
  | .float => 2
  | .byte => 4
  | .int => 5
  | .double => 6

/-- The type of a code, when it has one. -/
def DataType.ofCode (code : UInt8) : Option DataType :=
  [DataType.string, .short, .float, .byte, .int, .double].find? (fun type => type.code = code)

/-- A builder, with what its constructor read. -/
structure JmsEpicsBuilder where
  dataType : DataType
  name : CxxString
  nElements : CInt

namespace JmsEpicsBuilder

/-- The constructor. -/
def construct (dataType : DataType) : ByteReader Exn JmsEpicsBuilder := do
  let name ← readUTF
  let nElements ← readInt
  return { dataType, name, nElements }

def getEpicsStatusItem (builder : JmsEpicsBuilder) : ByteReader Exn EpicsStatusItem :=
  match builder.dataType with
  | .short => jmsShortEpicsBuilder.getEpicsStatusItem builder.name builder.nElements
  | .int => jmsIntEpicsBuilder.getEpicsStatusItem builder.name builder.nElements
  | .double => jmsDoubleEpicsBuilder.getEpicsStatusItem builder.name builder.nElements
  | .float => jmsFloatEpicsBuilder.getEpicsStatusItem builder.name builder.nElements
  | .string => JmsStringEpicsBuilder.getEpicsStatusItem builder.name builder.nElements
  | .byte => JmsByteEpicsBuilder.getEpicsStatusItem builder.name builder.nElements

end JmsEpicsBuilder

namespace JmsEpicsFactory

/-- The `try` block: no builder for an unknown type. -/
def chooseBuilder : ByteReader Exn (Option JmsEpicsBuilder) := do
  let type ← readByte
  match DataType.ofCode type with
  | none => return none
  | some dataType => do
    let builder ← JmsEpicsBuilder.construct dataType
    return some builder

/-- `buildEpicsStatusItem`: null without a builder. The builder reads on after the `try` block. -/
def buildEpicsStatusItem (message : BytesMessage) : Except Exn (Option EpicsStatusItem) :=
  match chooseBuilder.run message.content with
  | .error (.cmsException _) => .ok none
  | .error e => .error e
  | .ok (none, _) => .ok none
  | .ok (some builder, body) =>
    match builder.getEpicsStatusItem.run body with
    | .ok (item, _) => .ok (some item)
    | .error e => .error e

end JmsEpicsFactory

end Giapi
