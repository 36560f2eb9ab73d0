import GiapiGlue.Giapi
import GiapiGlue.Lib.Memory
import GiapiGlue.Lib.Words

set_option autoImplicit false

/-! # EPICS status items

`EpicsStatusItemImpl`: an array of elements of one type, kept as the bytes it was given. Elements are
taken out of the bytes when they are asked for, in the byte order of the host. -/

namespace Giapi

structure EpicsStatusItem where
  name : CxxString
  type : ValueType
  nElements : CInt
  data : Block
  size : CInt
deriving DecidableEq, Repr

namespace EpicsStatusItem

/-- `create`: `size` bytes of `data` are copied to a new allocation. A negative size asks `malloc` for
    more than there is, and what is copied to the null pointer is out of bounds. -/
def create (name : CxxString) (type : ValueType) (count : CInt) (data : Block) (size : CInt) :
    Except Exn EpicsStatusItem :=
  if size.toInt < 0 then
    .error .outOfBounds
  else do
    let bytes ← data.load Exn.outOfBounds 0 size.toInt.toNat
    return { name, type, nElements := count, data := bytes, size }

def getCount (item : EpicsStatusItem) : CInt := item.nElements

def getData (item : EpicsStatusItem) : Block := item.data

/-- `validateIndex`. -/
def validateIndex (item : EpicsStatusItem) (index : CInt) : Except Exn Unit :=
  if item.nElements.toInt ≤ index.toInt ∨ index.toInt < 0 then
    .error (.invalidOperation (str "Index out of range to get element from EPICS status item"))
  else
    .ok ()

/-- The `index`-th element of `sizeof` bytes of an array: bytes that were never written have no
    value. -/
def element (sizeof : Nat) (data : Block) (index : Nat) : Except Exn (List UInt8) := do
  let bytes ← data.load Exn.outOfBounds (index * sizeof) sizeof
  match bytes.known with
  | some bytes => return bytes
  | none => throw Exn.outOfBounds

/-- The body the typed getters share. -/
def getDataAs {α : Type} (type : ValueType) (complaint : CxxString) (sizeof : Nat)
    (ofBytes : List UInt8 → α) (item : EpicsStatusItem) (index : CInt) : Except Exn α :=
  if item.type ≠ type then
    .error (.invalidOperation complaint)
  else do
    item.validateIndex index
    let bytes ← element sizeof item.data index.toInt.toNat
    return ofBytes bytes

def getDataAsInt : EpicsStatusItem → CInt → Except Exn CInt :=
  getDataAs .int (str "EPICS status item does not contain integer data") 4 (Words.ofLE 32)

def getDataAsFloat : EpicsStatusItem → CInt → Except Exn CFloat :=
  getDataAs .float (str "EPICS status item does not contain float data") 4
    (fun bytes => ⟨Words.ofLE 32 bytes⟩)

def getDataAsDouble : EpicsStatusItem → CInt → Except Exn CDouble :=
  getDataAs .double (str "EPICS status item does not contain double data") 8
    (fun bytes => ⟨Words.ofLE 64 bytes⟩)

def getDataAsByte : EpicsStatusItem → CInt → Except Exn UInt8 :=
  getDataAs .byte (str "EPICS status item does not contain byte data") 1
    (fun bytes => UInt8.ofBitVec (Words.ofLE 8 bytes))

/-- The `index`-th short of `getData()`. -/
def getDataAsShort (item : EpicsStatusItem) (index : CInt) : Except Exn CShort := do
  let bytes ← element 2 item.getData index.toInt.toNat
  return Words.ofLE 16 bytes

/-- The C string a pointer into a block points to. -/
def cString : Block → Except Exn CxxString
  | [] => .error .outOfBounds
  | none :: _ => .error .outOfBounds
  | some c :: rest => if c = 0 then .ok [] else (c :: ·) <$> cString rest

/-- The block from its `n`-th C string on. -/
def skipStrings : Nat → Block → Except Exn Block
  | 0, data => .ok data
  | n + 1, data => do
    let skipped ← cString data
    skipStrings n (data.drop (skipped.length + 1))

def getDataAsString (item : EpicsStatusItem) (index : CInt) : Except Exn CxxString :=
  if item.type ≠ .string then
    .error (.invalidOperation (str "EPICS status item does not contain string data"))
  else do
    item.validateIndex index
    let data ← skipStrings index.toInt.toNat item.data
    cString data

/-- All bytes of a block are copied when its length is the size. -/
theorem create_all (name : CxxString) (type : ValueType) (count : CInt) (data : Block)
    (h : data.length < 2 ^ 31) :
    create name type count data (BitVec.ofNat 32 data.length)
      = .ok { name, type, nElements := count, data, size := BitVec.ofNat 32 data.length } := by
  have hsize : (BitVec.ofNat 32 data.length).toInt = data.length := by
    rw [BitVec.toInt_eq_toNat_of_lt (by rw [BitVec.toNat_ofNat]; omega), BitVec.toNat_ofNat]
    omega
  rw [create, if_neg (by omega), hsize, Int.toNat_natCast, Block.load_all]
  rfl

end EpicsStatusItem

end Giapi
