import GiapiGlue.Status.StatusItem

set_option autoImplicit false

/-! # The elapsed-time timer

`util::TimeUtil`: its three operations, what the exception specification `throw(std::logic_error)` makes
of the exceptions they throw, and the arithmetic of the elapsed time on a platform where `long`, `time_t`
and `suseconds_t` have 64 bits. -/

namespace Giapi

/-! ## Exception specifications -/

/-- What the timer throws, by type: an object, or a pointer to one. -/
inductive Thrown
  | logicError (what : CxxString)
  | logicErrorPointer (what : CxxString)
deriving DecidableEq, Repr

/-- How a call ends. -/
inductive Ending (α : Type)
  | returns (value : α)
  | throws (e : Thrown)
  /-- `std::unexpected` was called, and ended the program. -/
  | terminates
deriving DecidableEq, Repr

namespace Ending

variable {α β : Type}

/-- The exception specification `throw(std::logic_error)`: no other type may leave the function, and a
    pointer is another type. -/
def throwLogicError : Ending α → Ending α
  | .throws (.logicErrorPointer _) => .terminates
  | ending => ending

def map (f : α → β) : Ending α → Ending β
  | .returns value => .returns (f value)
  | .throws e => .throws e
  | .terminates => .terminates

def returned : Ending α → Bool
  | .returns _ => true
  | _ => false

@[simp] theorem throwLogicError_returns (value : α) :
    throwLogicError (.returns value) = .returns value := rfl

@[simp] theorem throwLogicError_pointer (what : CxxString) :
    throwLogicError (.throws (.logicErrorPointer what) : Ending α) = .terminates := rfl

/-- A function that passes on what another one with the same specification ends with. -/
theorem throwLogicError_throwLogicError (ending : Ending α) :
    throwLogicError (throwLogicError ending) = throwLogicError ending := by
  cases ending with
  | throws e => cases e <;> rfl
  | _ => rfl

end Ending

/-! ## The timer -/

/-- `TimeUtil::TimeUnit`. -/
inductive TimeUnit
  | usec
  | msec
  | sec
deriving DecidableEq, Repr

structure TimeUtil where
  startTime : Timeval
  endTime : Timeval
  running : Bool
  done : Bool
deriving DecidableEq, Repr

namespace TimeUtil

/-- The constructor. It leaves the two times as the memory had them. -/
def create (startTime endTime : Timeval) : TimeUtil :=
  { startTime, endTime, running := false, done := false }

/-- `startTimer`, at the time `now`. -/
def startTimer (now : Timeval) (timer : TimeUtil) : TimeUtil :=
  { timer with
    startTime := now
    running := true
    done := false }

/-- `stopTimer`, at the time `now`. -/
def stopTimer (now : Timeval) (timer : TimeUtil) : TimeUtil × Ending Unit :=
  if ¬ timer.running then
    (timer, Ending.throwLogicError (.throws (.logicErrorPointer
      (str "You must call TimeUtil::startTimer before TimeUtil::stopTimer"))))
  else
    ({ timer with
        endTime := now
        running := false
        done := true }, Ending.throwLogicError (.returns ()))

/-- What `getElapsedTime` computes once the timer is done. `long` wraps around, and the result is
    reinterpreted as unsigned. -/
def elapsed (startTime endTime : Timeval) (unit : TimeUnit) : BitVec 64 :=
  let seconds := endTime.tvSec - startTime.tvSec
  let useconds := seconds * 1000000#64 + endTime.tvUsec - startTime.tvUsec
  match unit with
  | .usec => useconds
  | .msec => useconds / 1000#64
  | .sec => seconds

def getElapsedTime (unit : TimeUnit) (timer : TimeUtil) : Ending (BitVec 64) :=
  Ending.throwLogicError <|
    if ¬ timer.done then
      .throws (.logicErrorPointer (str ("You must call TimeUtil::startTimer and " ++
        "TimeUtil::stopTimer before asking for the elapsed time")))
    else
      .returns (elapsed timer.startTime timer.endTime unit)

def getElapsedUSecs (timer : TimeUtil) : Ending (BitVec 64) :=
  Ending.throwLogicError (timer.getElapsedTime .usec)

def getElapsedMSecs (timer : TimeUtil) : Ending (BitVec 64) :=
  Ending.throwLogicError (timer.getElapsedTime .msec)

def getElapsedSecs (timer : TimeUtil) : Ending (BitVec 64) :=
  Ending.throwLogicError (timer.getElapsedTime .sec)

theorem stopTimer_running {timer : TimeUtil} (h : timer.running = true) (now : Timeval) :
    timer.stopTimer now
      = ({ timer with endTime := now, running := false, done := true }, .returns ()) := by
  simp [stopTimer, h]

theorem stopTimer_not_running {timer : TimeUtil} (h : timer.running = false) (now : Timeval) :
    timer.stopTimer now = (timer, .terminates) := by
  simp [stopTimer, h]

theorem getElapsedTime_done {timer : TimeUtil} (h : timer.done = true) (unit : TimeUnit) :
    timer.getElapsedTime unit = .returns (elapsed timer.startTime timer.endTime unit) := by
  simp [getElapsedTime, h]

theorem getElapsedTime_not_done {timer : TimeUtil} (h : timer.done = false) (unit : TimeUnit) :
    timer.getElapsedTime unit = .terminates := by
  simp [getElapsedTime, h]

end TimeUtil

/-! ## The units of the elapsed time -/

namespace Timeval

/-- Microseconds within the second. -/
def Normal (t : Timeval) : Prop := 0 ≤ t.tvUsec.toInt ∧ t.tvUsec.toInt ≤ 999999

/-- The instant in microseconds. -/
def instant (t : Timeval) : Int := t.tvSec.toInt * 1000000 + t.tvUsec.toInt

/-- The value a `long` can hold. -/
def FitsLong (n : Int) : Prop := -2 ^ 63 ≤ n ∧ n < 2 ^ 63

/-- No step of the difference leaves the range of `long`. -/
structure NoWrap (startTime endTime : Timeval) : Prop where
  seconds : FitsLong (endTime.tvSec.toInt - startTime.tvSec.toInt)
  scaled : FitsLong ((endTime.tvSec.toInt - startTime.tvSec.toInt) * 1000000)
  sum : FitsLong ((endTime.tvSec.toInt - startTime.tvSec.toInt) * 1000000 + endTime.tvUsec.toInt)
  difference : FitsLong (endTime.instant - startTime.instant)

end Timeval

namespace TimeUtil

open Timeval

/-- The timer after `startTimer` and `stopTimer`. -/
def measured (startTime endTime : Timeval) (timer : TimeUtil) : TimeUtil :=
  ((timer.startTimer startTime).stopTimer endTime).1

/-- The three elapsed values after one measurement: exact microseconds, and the floors of the other
    two. -/
def UnitsAgree (startTime endTime : Timeval) (timer : TimeUtil) : Prop :=
  ∃ usecs msecs secs,
    (timer.measured startTime endTime).getElapsedUSecs = .returns usecs
    ∧ (timer.measured startTime endTime).getElapsedMSecs = .returns msecs
    ∧ (timer.measured startTime endTime).getElapsedSecs = .returns secs
    ∧ NoWrap startTime endTime
    ∧ (usecs.toNat : Int) = endTime.instant - startTime.instant
    ∧ msecs.toNat = usecs.toNat / 1000
    ∧ secs.toNat = usecs.toNat / 1000000

theorem getElapsedTime_measured (startTime endTime : Timeval) (timer : TimeUtil) (unit : TimeUnit) :
    (timer.measured startTime endTime).getElapsedTime unit
      = .returns (elapsed startTime endTime unit) := by
  unfold measured
  rw [stopTimer_running rfl, getElapsedTime_done rfl]
  rfl

/-- Where `long` does not wrap, the difference of the seconds and that of the instants are exact. -/
theorem toInt_elapsed {startTime endTime : Timeval} (h : NoWrap startTime endTime) :
    (elapsed startTime endTime .sec).toInt = endTime.tvSec.toInt - startTime.tvSec.toInt
    ∧ (elapsed startTime endTime .usec).toInt = endTime.instant - startTime.instant := by
  obtain ⟨hseconds, hscaled, hsum, hdifference⟩ := h
  simp only [FitsLong, instant] at hseconds hscaled hsum hdifference
  have hmillion : (1000000#64).toInt = 1000000 := by decide
  have hsec : (endTime.tvSec - startTime.tvSec).toInt
      = endTime.tvSec.toInt - startTime.tvSec.toInt := by
    rw [BitVec.toInt_sub]
    exact Int.bmod_eq_of_le (by omega) (by omega)
  have hmul : ((endTime.tvSec - startTime.tvSec) * 1000000#64).toInt
      = (endTime.tvSec.toInt - startTime.tvSec.toInt) * 1000000 := by
    rw [BitVec.toInt_mul, hsec, hmillion]
    exact Int.bmod_eq_of_le (by omega) (by omega)
  have hadd : ((endTime.tvSec - startTime.tvSec) * 1000000#64 + endTime.tvUsec).toInt
      = (endTime.tvSec.toInt - startTime.tvSec.toInt) * 1000000 + endTime.tvUsec.toInt := by
    rw [BitVec.toInt_add, hmul]
    exact Int.bmod_eq_of_le (by omega) (by omega)
  refine ⟨hsec, ?_⟩
  have hsub : (elapsed startTime endTime .usec).toInt
      = (endTime.tvSec.toInt - startTime.tvSec.toInt) * 1000000 + endTime.tvUsec.toInt
        - startTime.tvUsec.toInt := by
    simp only [elapsed]
    rw [BitVec.toInt_sub, hadd]
    exact Int.bmod_eq_of_le (by omega) (by omega)
  rw [hsub]
  simp only [instant]
  omega

theorem toNat_of_toInt_nonneg {x : BitVec 64} (h : 0 ≤ x.toInt) : (x.toNat : Int) = x.toInt := by
  rw [BitVec.toInt_eq_toNat_cond] at h ⊢
  split_ifs at h ⊢
  · rfl
  · omega

/-- From one instant to a later one, `long` wraps precisely where the seconds scaled to microseconds,
    plus those of the end, leave its range. -/
theorem noWrap_iff {startTime endTime : Timeval} (hstart : startTime.Normal) (hend : endTime.Normal)
    (hle : startTime.instant ≤ endTime.instant) :
    NoWrap startTime endTime
      ↔ (endTime.tvSec.toInt - startTime.tvSec.toInt) * 1000000 + endTime.tvUsec.toInt < 2 ^ 63 := by
  simp only [Timeval.Normal] at hstart hend
  simp only [instant] at hle
  constructor
  · intro h
    exact h.sum.2
  · intro h
    -- The later instant is in the same second or in a later one.
    have hseconds : 0 ≤ endTime.tvSec.toInt - startTime.tvSec.toInt := by omega
    exact
      { seconds := ⟨by omega, by omega⟩
        scaled := ⟨by omega, by omega⟩
        sum := ⟨by omega, h⟩
        difference := ⟨by simp only [instant]; omega, by simp only [instant]; omega⟩ }

/-- **The three units agree**, and the microseconds are exact, precisely when the measurement borrows no
    second and is short enough for `long`. -/
theorem elapsed_units_agree_iff (timer : TimeUtil) (startTime endTime : Timeval)
    (hstart : startTime.Normal) (hend : endTime.Normal)
    (hle : startTime.instant ≤ endTime.instant) :
    timer.UnitsAgree startTime endTime
      ↔ startTime.tvUsec.toInt ≤ endTime.tvUsec.toInt
        ∧ (endTime.tvSec.toInt - startTime.tvSec.toInt) * 1000000 + endTime.tvUsec.toInt < 2 ^ 63 := by
  have hvalues : timer.UnitsAgree startTime endTime
      ↔ NoWrap startTime endTime
        ∧ ((elapsed startTime endTime .usec).toNat : Int) = endTime.instant - startTime.instant
        ∧ (elapsed startTime endTime .sec).toNat
            = (elapsed startTime endTime .usec).toNat / 1000000 := by
    have hmsec : (elapsed startTime endTime .msec).toNat
        = (elapsed startTime endTime .usec).toNat / 1000 := BitVec.toNat_udiv
    simp [UnitsAgree, getElapsedUSecs, getElapsedMSecs, getElapsedSecs, getElapsedTime_measured,
      hmsec]
  rw [hvalues, ← noWrap_iff hstart hend hle]
  have hnat : NoWrap startTime endTime →
      ((elapsed startTime endTime .usec).toNat : Int) = endTime.instant - startTime.instant
      ∧ ((elapsed startTime endTime .sec).toNat : Int)
          = endTime.tvSec.toInt - startTime.tvSec.toInt := by
    intro hwrap
    obtain ⟨hsec, husec⟩ := toInt_elapsed hwrap
    simp only [Timeval.Normal] at hstart hend
    simp only [instant] at hle husec ⊢
    refine ⟨?_, ?_⟩
    · rw [toNat_of_toInt_nonneg (by omega), husec]
    · rw [toNat_of_toInt_nonneg (by omega), hsec]
  simp only [Timeval.Normal] at hstart hend
  constructor
  · intro h
    obtain ⟨hwrap, -, hfloor⟩ := h
    obtain ⟨husec, hsec⟩ := hnat hwrap
    simp only [instant] at hle husec
    exact ⟨by omega, hwrap⟩
  · intro h
    obtain ⟨hborrow, hwrap⟩ := h
    obtain ⟨husec, hsec⟩ := hnat hwrap
    refine ⟨hwrap, husec, ?_⟩
    simp only [instant] at hle husec
    omega

theorem elapsed_units_agree_iff_on_hour :
    (create ⟨0, 0⟩ ⟨0, 0⟩).UnitsAgree ⟨3600, 250000⟩ ⟨7200, 250001⟩ :=
  (elapsed_units_agree_iff (create ⟨0, 0⟩ ⟨0, 0⟩) ⟨3600, 250000⟩ ⟨7200, 250001⟩
    (by unfold Timeval.Normal; decide) (by unfold Timeval.Normal; decide)
    (by unfold Timeval.instant; decide)).2 ⟨by decide, by decide⟩

/-- One microsecond across a second boundary counts as a whole second. -/
theorem elapsed_units_disagree_across_second :
    ¬ ∀ (timer : TimeUtil) (startTime endTime : Timeval), startTime.Normal → endTime.Normal →
        startTime.instant ≤ endTime.instant → timer.UnitsAgree startTime endTime := by
  intro h
  obtain ⟨usecs, msecs, secs, husecs, -, hsecs, -, -, -, hfloor⟩ :=
    h (create ⟨0, 0⟩ ⟨0, 0⟩) ⟨0, 999999⟩ ⟨1, 0⟩ (by unfold Timeval.Normal; decide)
      (by unfold Timeval.Normal; decide) (by unfold Timeval.instant; decide)
  have husecs1 : (Ending.returns usecs) = .returns 1#64 := husecs.symm.trans (by decide)
  have hsecs1 : (Ending.returns secs) = .returns 1#64 := hsecs.symm.trans (by decide)
  obtain rfl := Ending.returns.inj husecs1
  obtain rfl := Ending.returns.inj hsecs1
  exact absurd hfloor (by decide)

end TimeUtil

end Giapi
