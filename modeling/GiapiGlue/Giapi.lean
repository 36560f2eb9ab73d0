import GiapiGlue.Lib.Ieee754

set_option autoImplicit false

/-! # The vocabulary of the library

The enumerations of `giapi.h`, the exceptions of `giapiexcept.h` and the built-in types they rest on:
a `std::string` is its bytes, an `int` its 32 bits, a `double` its IEEE pattern. -/

namespace Giapi

/-! ## Built-in types -/

/-- A `std::string`, byte by byte. -/
abbrev CxxString : Type := List UInt8

/-- The bytes of an ASCII literal. -/
def str (s : String) : CxxString := s.toList.map (fun c => UInt8.ofNat c.toNat)

/-- `short` and `unsigned short`. -/
abbrev CShort : Type := BitVec 16

/-- `int`. -/
abbrev CInt : Type := BitVec 32

/-- `long64`. -/
abbrev Long64 : Type := BitVec 64

/-- `float`. -/
abbrev CFloat : Type := Ieee754 8 23

/-- `double`. -/
abbrev CDouble : Type := Ieee754 11 52

/-- The address a smart pointer that is not null holds. -/
abbrev Ptr : Type := Nat

/-- `StringUtil::isEmpty`: blanks, tabs and newlines at the end do not count. -/
def StringUtil.isEmpty (s : CxxString) : Bool :=
  (s.rdropWhile (fun c => c = 0x20 ∨ c = 0x09 ∨ c = 0x0A)).isEmpty

/-! ## Enumerations of `giapi.h` -/

/-- `status::Status`. -/
inductive Status
  | error
  | ok
deriving DecidableEq, Repr

/-- `alarm::Severity`. -/
inductive Severity
  | alarmOk
  | alarmWarning
  | alarmFailure
deriving DecidableEq, Repr

/-- `alarm::Cause`. -/
inductive Cause
  | alarmCauseOk
  | alarmCauseHihi
  | alarmCauseHi
  | alarmCauseLolo
  | alarmCauseLo
  | alarmCauseOther
deriving DecidableEq, Repr

/-- `type::Type`. -/
inductive ValueType
  | boolean
  | int
  | float
  | double
  | string
  | byte
  | short
deriving DecidableEq, Repr

/-- `health::Health`. -/
inductive Health
  | good
  | warning
  | bad
deriving DecidableEq, Repr

/-- The integer an enumerator of `health::Health` converts to. -/
def Health.toInt : Health → CInt
  | .good => 0
  | .warning => 1
  | .bad => 2

/-- `command::SequenceCommand`. -/
inductive SequenceCommand
  | test
  | reboot
  | init
  | datum
  | park
  | verify
  | endVerify
  | guide
  | endGuide
  | apply
  | observe
  | endObserve
  | pause
  | continue
  | stop
  | stopCycle
  | abort
  | engineering
deriving DecidableEq, Repr

/-- `command::Activity`. -/
inductive Activity
  | preset
  | start
  | presetStart
  | cancel
deriving DecidableEq, Repr

/-- `command::ActivitySet`. -/
inductive ActivitySet
  | setPreset
  | setStart
  | setPresetStart
  | setCancel
  | setPresetCancel
  | setStartCancel
  | setPresetStartCancel
deriving DecidableEq, Repr

/-- `log::Level`, its end left out. -/
inductive Level
  | info
  | warning
  | severe
deriving DecidableEq, Repr

/-- `data::ObservationEvent`. -/
inductive ObservationEvent
  | obsPrep
  | obsStartAcq
  | obsEndAcq
  | obsStartReadout
  | obsEndReadout
  | obsStartDsetWrite
  | obsEndDsetWrite
deriving DecidableEq, Repr

/-! ## Exceptions -/

/-- What a call may end with instead of returning: the exceptions of `giapiexcept.h`, those of the
    libraries underneath, and an access outside an allocation or to bytes that were never written,
    which C++ leaves undefined. -/
inductive Exn
  | giapiException (message : CxxString)
  | communicationException (message : CxxString)
  | gmpException (message : CxxString)
  | postException (message : CxxString)
  | invalidOperation (message : CxxString)
  | timeoutException (message : CxxString)
  | cmsException (message : CxxString)
  | badAnyCast
  | badAlloc
  | outOfBounds
deriving DecidableEq, Repr

/-- A sequence of calls that returns: its first call returned. -/
theorem except_bind_ok {ε α β : Type} {x : Except ε α} {f : α → Except ε β} {b : β}
    (h : (x >>= f) = .ok b) : ∃ a, x = .ok a ∧ f a = .ok b := by
  cases x with
  | error e => exact absurd h (by simp [bind, Except.bind])
  | ok a => exact ⟨a, rfl, h⟩

end Giapi
