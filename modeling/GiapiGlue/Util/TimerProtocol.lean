import GiapiGlue.Util.TimeUtil
import GiapiGlue.Lib.Run

set_option autoImplicit false

/-! # The order of the calls on a timer

A program calls its timer again and again, and reads the clock as it does. Calls out of turn are misuse:
the documentation promises a `std::logic_error` for them. -/

namespace Giapi

/-- A call on a timer. The first two read the time `now`. -/
inductive TimerCall
  | startTimer (now : Timeval)
  | stopTimer (now : Timeval)
  | getElapsedTime (unit : TimeUnit)
  | getElapsedUSecs
  | getElapsedMSecs
  | getElapsedSecs
deriving DecidableEq, Repr

namespace TimerCall

/-- The unit a `getElapsed*` call asks for. -/
def elapsedUnit : TimerCall → Option TimeUnit
  | .startTimer _ => none
  | .stopTimer _ => none
  | .getElapsedTime unit => some unit
  | .getElapsedUSecs => some .usec
  | .getElapsedMSecs => some .msec
  | .getElapsedSecs => some .sec

def isStartOrStop (call : TimerCall) : Bool := call.elapsedUnit.isNone

/-- The call may be made after `latest`, the latest successful `startTimer` or `stopTimer`. -/
def InTurn (latest : Option TimerCall) : TimerCall → Prop
  | .startTimer _ => True
  | .stopTimer _ => ∃ t, latest = some (.startTimer t)
  | _ => ∃ t, latest = some (.stopTimer t)

/-- What a call does to the timer, and how it ends. -/
def perform (call : TimerCall) (timer : TimeUtil) : TimeUtil × Ending (Option (BitVec 64)) :=
  match call with
  | .startTimer now => (timer.startTimer now, .returns none)
  | .stopTimer now => ((timer.stopTimer now).1, (timer.stopTimer now).2.map (fun _ => none))
  | .getElapsedTime unit => (timer, (timer.getElapsedTime unit).map some)
  | .getElapsedUSecs => (timer, timer.getElapsedUSecs.map some)
  | .getElapsedMSecs => (timer, timer.getElapsedMSecs.map some)
  | .getElapsedSecs => (timer, timer.getElapsedSecs.map some)

theorem inTurn_elapsed {call : TimerCall} {unit : TimeUnit} (h : call.elapsedUnit = some unit)
    (latest : Option TimerCall) : InTurn latest call ↔ ∃ t, latest = some (.stopTimer t) := by
  cases call <;> simp_all [elapsedUnit, InTurn]

theorem perform_elapsed {call : TimerCall} {unit : TimeUnit} (h : call.elapsedUnit = some unit)
    (timer : TimeUtil) : call.perform timer
      = (timer, if timer.done then
            .returns (some (TimeUtil.elapsed timer.startTime timer.endTime unit))
          else .terminates) := by
  have hending : ∀ unit, (timer.getElapsedTime unit).map some
      = if timer.done then .returns (some (TimeUtil.elapsed timer.startTime timer.endTime unit))
        else .terminates := by
    intro unit
    cases hdone : timer.done with
    | true => rw [TimeUtil.getElapsedTime_done hdone]; rfl
    | false => rw [TimeUtil.getElapsedTime_not_done hdone]; rfl
  have hspecified : ∀ unit, Ending.throwLogicError (timer.getElapsedTime unit)
      = timer.getElapsedTime unit := fun _ => Ending.throwLogicError_throwLogicError _
  cases call with
  | startTimer now => simp [elapsedUnit] at h
  | stopTimer now => simp [elapsedUnit] at h
  | getElapsedTime asked =>
      obtain rfl := Option.some.inj h
      rw [perform, hending]
  | getElapsedUSecs =>
      obtain rfl := Option.some.inj h
      rw [perform, TimeUtil.getElapsedUSecs, hspecified, hending]
  | getElapsedMSecs =>
      obtain rfl := Option.some.inj h
      rw [perform, TimeUtil.getElapsedMSecs, hspecified, hending]
  | getElapsedSecs =>
      obtain rfl := Option.some.inj h
      rw [perform, TimeUtil.getElapsedSecs, hspecified, hending]

end TimerCall

/-- A program with a timer: the timer, whether the program has been ended, and the calls it made, each
    with the way it ended. -/
structure TimerProgram where
  timer : TimeUtil
  terminated : Bool
  calls : List (TimerCall × Ending (Option (BitVec 64)))
deriving DecidableEq, Repr

namespace TimerProgram

open TimerCall

def initial (startTime endTime : Timeval) : TimerProgram :=
  { timer := TimeUtil.create startTime endTime, terminated := false, calls := [] }

/-- The next call. A program that has been ended makes none. -/
def step (program : TimerProgram) (call : TimerCall) : TimerProgram :=
  if program.terminated then
    program
  else
    let (timer, ending) := call.perform program.timer
    { timer
      terminated := ending = .terminates
      calls := program.calls ++ [(call, ending)] }

/-- The successful calls of `startTimer` and `stopTimer`, in order. -/
def successes (calls : List (TimerCall × Ending (Option (BitVec 64)))) : List TimerCall :=
  (calls.filter (fun call => call.1.isStartOrStop && call.2.returned)).map Prod.fst

/-- The latest successful `startTimer` or `stopTimer`. -/
def latest (program : TimerProgram) : Option TimerCall := (successes program.calls).getLast?

/-- The call ends as documented. -/
structure Documented (program : TimerProgram) (call : TimerCall) : Prop where
  stopTimer : ∀ now, call = .stopTimer now →
    ((call.perform program.timer).2.returned ↔ ∃ t, program.latest = some (.startTimer t))
  getElapsed : ∀ unit, call.elapsedUnit = some unit →
    ((call.perform program.timer).2.returned ↔ ∃ t, program.latest = some (.stopTimer t))
  lastPair : ∀ unit value, call.elapsedUnit = some unit →
    (call.perform program.timer).2 = .returns value →
    ∃ startTime endTime,
      [.startTimer startTime, .stopTimer endTime] <:+ successes program.calls
      ∧ value = some (TimeUtil.elapsed startTime endTime unit)
  misuse : (call.perform program.timer).2.returned = false →
    (∃ what, (call.perform program.timer).2 = .throws (.logicError what))
    ∧ (call.perform program.timer).1 = program.timer

/-- The two flags and the two times against the successful calls. -/
inductive Tracks (timer : TimeUtil) : List TimerCall → Prop
  | idle (hrunning : timer.running = false) (hdone : timer.done = false) : Tracks timer []
  | started (earlier : List TimerCall) (hrunning : timer.running = true)
      (hdone : timer.done = false) : Tracks timer (earlier ++ [.startTimer timer.startTime])
  | stopped (earlier : List TimerCall) (hrunning : timer.running = false)
      (hdone : timer.done = true) :
      Tracks timer (earlier ++ [.startTimer timer.startTime, .stopTimer timer.endTime])

theorem successes_concat (calls : List (TimerCall × Ending (Option (BitVec 64)))) (call : TimerCall)
    (ending : Ending (Option (BitVec 64))) :
    successes (calls ++ [(call, ending)])
      = successes calls ++ if call.isStartOrStop && ending.returned then [call] else [] := by
  unfold successes
  rw [List.filter_append, List.map_append]
  cases h : (call.isStartOrStop && ending.returned) <;> simp [h]

theorem Tracks.running_iff {timer : TimeUtil} {calls : List TimerCall} (h : Tracks timer calls) :
    timer.running = true ↔ ∃ t, calls.getLast? = some (.startTimer t) := by
  cases h with
  | idle hrunning hdone => simp [hrunning]
  | started earlier hrunning hdone => simp [hrunning]
  | stopped earlier hrunning hdone => simp [hrunning]

theorem Tracks.done_iff {timer : TimeUtil} {calls : List TimerCall} (h : Tracks timer calls) :
    timer.done = true ↔ ∃ t, calls.getLast? = some (.stopTimer t) := by
  cases h with
  | idle hrunning hdone => simp [hdone]
  | started earlier hrunning hdone => simp [hdone]
  | stopped earlier hrunning hdone => simp [hdone]

theorem Tracks.pair {timer : TimeUtil} {calls : List TimerCall} (h : Tracks timer calls)
    (hdone : timer.done = true) :
    [.startTimer timer.startTime, .stopTimer timer.endTime] <:+ calls := by
  cases h with
  | idle _ hnot => simp [hdone] at hnot
  | started _ _ hnot => simp [hdone] at hnot
  | stopped earlier _ _ => exact List.suffix_append earlier _

theorem Tracks.started_eq {timer : TimeUtil} {calls : List TimerCall} (h : Tracks timer calls)
    (hrunning : timer.running = true) :
    ∃ earlier, calls = earlier ++ [.startTimer timer.startTime] := by
  cases h with
  | idle hnot _ => simp [hrunning] at hnot
  | started earlier _ _ => exact ⟨earlier, rfl⟩
  | stopped _ hnot _ => simp [hrunning] at hnot

/-! ## One call -/

/-- The flags and times keep tracking the successful calls, whether or not this one was in turn. -/
theorem Tracks.perform {timer : TimeUtil} {calls : List TimerCall} (h : Tracks timer calls)
    (call : TimerCall) :
    Tracks (call.perform timer).1
      (calls ++ if call.isStartOrStop && (call.perform timer).2.returned then [call] else []) := by
  cases hunit : call.elapsedUnit with
  | some unit =>
      rw [perform_elapsed hunit]
      simpa [isStartOrStop, hunit] using h
  | none =>
      cases call with
      | startTimer now =>
          exact @Tracks.started (timer.startTimer now) calls rfl rfl
      | stopTimer now =>
          cases hrunning : timer.running with
          | true =>
              obtain ⟨earlier, rfl⟩ := h.started_eq hrunning
              simp only [TimerCall.perform, TimeUtil.stopTimer_running hrunning]
              have hafter := @Tracks.stopped { timer with
                endTime := now
                running := false
                done := true } earlier rfl rfl
              simpa [isStartOrStop, elapsedUnit, Ending.map, Ending.returned] using hafter
          | false =>
              simpa [TimerCall.perform, TimeUtil.stopTimer_not_running hrunning, Ending.map,
                Ending.returned] using h
      | getElapsedTime unit => simp [elapsedUnit] at hunit
      | getElapsedUSecs => simp [elapsedUnit] at hunit
      | getElapsedMSecs => simp [elapsedUnit] at hunit
      | getElapsedSecs => simp [elapsedUnit] at hunit

/-- A call returns in turn, and ends the program out of turn. -/
theorem Tracks.perform_ending {timer : TimeUtil} {calls : List TimerCall} (h : Tracks timer calls)
    (call : TimerCall) :
    ((call.perform timer).2.returned = true ∧ InTurn calls.getLast? call)
    ∨ (call.perform timer = (timer, .terminates) ∧ ¬ InTurn calls.getLast? call) := by
  cases hunit : call.elapsedUnit with
  | some unit =>
      rw [perform_elapsed hunit, inTurn_elapsed hunit, ← h.done_iff]
      cases hdone : timer.done with
      | true => exact Or.inl ⟨rfl, rfl⟩
      | false => exact Or.inr ⟨rfl, by simp⟩
  | none =>
      cases call with
      | startTimer now => exact Or.inl ⟨rfl, trivial⟩
      | stopTimer now =>
          simp only [InTurn, ← h.running_iff, TimerCall.perform]
          cases hrunning : timer.running with
          | true => exact Or.inl ⟨by rw [TimeUtil.stopTimer_running hrunning]; rfl, rfl⟩
          | false => exact Or.inr ⟨by rw [TimeUtil.stopTimer_not_running hrunning]; rfl, by simp⟩
      | getElapsedTime unit => simp [elapsedUnit] at hunit
      | getElapsedUSecs => simp [elapsedUnit] at hunit
      | getElapsedMSecs => simp [elapsedUnit] at hunit
      | getElapsedSecs => simp [elapsedUnit] at hunit

/-- A call ends as documented precisely when it is made in turn. -/
theorem documented_iff {program : TimerProgram}
    (h : Tracks program.timer (successes program.calls)) (call : TimerCall) :
    program.Documented call ↔ InTurn program.latest call := by
  rcases h.perform_ending call with hreturned | hmisuse
  · refine iff_of_true ?_ hreturned.2
    obtain ⟨hreturned, hturn⟩ := hreturned
    exact
      { stopTimer := fun now hcall => by
          subst hcall
          exact iff_of_true hreturned hturn
        getElapsed := fun unit hunit =>
          iff_of_true hreturned ((inTurn_elapsed hunit program.latest).1 hturn)
        lastPair := fun unit value hunit hvalue => by
          have hdone : program.timer.done = true :=
            h.done_iff.2 ((inTurn_elapsed hunit program.latest).1 hturn)
          rw [perform_elapsed hunit, if_pos hdone] at hvalue
          exact ⟨program.timer.startTime, program.timer.endTime, h.pair hdone,
            (Ending.returns.inj hvalue).symm⟩
        misuse := fun hnot => by
          rw [hreturned] at hnot
          exact absurd hnot (by simp) }
  · refine iff_of_false (fun hdocumented => ?_) hmisuse.2
    obtain ⟨what, hthrows⟩ := (hdocumented.misuse (by rw [hmisuse.1]; rfl)).1
    rw [hmisuse.1] at hthrows
    cases hthrows

/-! ## Whole programs -/

theorem step_of_terminated {program : TimerProgram} (h : program.terminated = true)
    (call : TimerCall) : program.step call = program := by
  simp [step, h]

theorem step_of_running {program : TimerProgram} (h : program.terminated = false)
    (call : TimerCall) :
    program.step call =
      { timer := (call.perform program.timer).1
        terminated := (call.perform program.timer).2 = .terminates
        calls := program.calls ++ [(call, (call.perform program.timer).2)] } := by
  simp [step, h]

variable (startTime endTime : Timeval)

/-- The program after a list of calls, whatever memory its timer was constructed in. -/
abbrev after (calls : List TimerCall) : TimerProgram :=
  Run.after step (initial startTime endTime) calls

theorem tracks_after (calls : List TimerCall) :
    Tracks (after startTime endTime calls).timer (successes (after startTime endTime calls).calls) := by
  refine @Run.invariant _ _ step (fun program => Tracks program.timer (successes program.calls)) _
    (Tracks.idle rfl rfl) (fun program call h => ?_) calls
  cases hterminated : program.terminated with
  | true => rwa [step_of_terminated hterminated]
  | false =>
      rw [step_of_running hterminated, successes_concat]
      exact h.perform call

/-- A program that still runs made all its calls, and they all returned. -/
theorem calls_after_of_running {calls : List TimerCall}
    (h : (after startTime endTime calls).terminated = false) :
    (after startTime endTime calls).calls.map Prod.fst = calls
    ∧ ∀ call ∈ (after startTime endTime calls).calls, call.2.returned = true := by
  induction calls using List.reverseRecOn with
  | nil => exact ⟨rfl, by simp [initial]⟩
  | append_singleton calls call ih =>
      rw [after, Run.after_concat] at h ⊢
      cases hterminated : (after startTime endTime calls).terminated with
      | true =>
          rw [step_of_terminated hterminated, hterminated] at h
          exact absurd h (by simp)
      | false =>
          rw [step_of_running hterminated] at h ⊢
          obtain ⟨hcalls, hreturned⟩ := ih hterminated
          refine ⟨by simp [hcalls], fun made hmade => ?_⟩
          rcases List.mem_append.1 hmade with hold | hnew
          · exact hreturned made hold
          · rw [List.mem_singleton.1 hnew]
            rcases (tracks_after startTime endTime calls).perform_ending call with hok | hmisuse
            · exact hok.1
            · simp [hmisuse.1] at h

/-- The latest `startTimer` or `stopTimer` of a list of calls. -/
def latestOf (calls : List TimerCall) : Option TimerCall :=
  (calls.filter isStartOrStop).getLast?

theorem latest_after_of_running {calls : List TimerCall}
    (h : (after startTime endTime calls).terminated = false) :
    (after startTime endTime calls).latest = latestOf calls := by
  obtain ⟨hcalls, hreturned⟩ := calls_after_of_running startTime endTime h
  have hfilter : (after startTime endTime calls).calls.filter
        (fun call => call.1.isStartOrStop && call.2.returned)
      = (after startTime endTime calls).calls.filter (isStartOrStop ∘ Prod.fst) := by
    refine List.filter_congr fun call hcall => ?_
    simp [hreturned call hcall]
  rw [latest, successes, hfilter, ← List.filter_map, hcalls, latestOf]

/-- Every call comes in turn: `stopTimer` with a `startTimer`, and `getElapsed*` with a `stopTimer`, as
    the latest call of these two before it. -/
def AllInTurn (calls : List TimerCall) : Prop :=
  ∀ pre call, pre ++ [call] <+: calls → InTurn (latestOf pre) call

/-- Every call the program gets to make ends as documented. -/
def AllDocumented (calls : List TimerCall) : Prop :=
  Run.Guarded step (fun program call => program.terminated = false → program.Documented call)
    (initial startTime endTime) calls

/-- A program whose calls all come in turn runs on. -/
theorem running_of_in_turn {calls : List TimerCall}
    (h : ∀ pre call, pre ++ [call] <+: calls → (after startTime endTime pre).terminated = false →
      InTurn (after startTime endTime pre).latest call) :
    ∀ pre, pre <+: calls → (after startTime endTime pre).terminated = false := by
  intro pre
  induction pre using List.reverseRecOn with
  | nil => exact fun _ => rfl
  | append_singleton pre call ih =>
      intro hpre
      have hrunning := ih ((List.prefix_append pre [call]).trans hpre)
      rw [after, Run.after_concat, step_of_running hrunning]
      rcases (tracks_after startTime endTime pre).perform_ending call with hok | hmisuse
      · cases hending : (call.perform (after startTime endTime pre).timer).2 with
        | returns value => rfl
        | throws e => simp [hending, Ending.returned] at hok
        | terminates => simp [hending, Ending.returned] at hok
      · exact absurd (h pre call hpre hrunning) hmisuse.2

/-- **Misuse of the timer.** A run keeps to the documentation throughout precisely when no call of it
    comes out of turn: the exception thrown then is a pointer, and `std::unexpected` ends the program. -/
theorem timer_documented_iff (calls : List TimerCall) :
    AllDocumented startTime endTime calls ↔ AllInTurn calls := by
  constructor
  · intro hdocumented
    have hturn : ∀ pre call, pre ++ [call] <+: calls →
        (after startTime endTime pre).terminated = false →
        InTurn (after startTime endTime pre).latest call := fun pre call hpre hrunning =>
      (documented_iff (tracks_after startTime endTime pre) call).1 (hdocumented pre call hpre hrunning)
    have hrunning := running_of_in_turn startTime endTime hturn
    intro pre call hpre
    have hpre' : pre <+: calls := (List.prefix_append pre [call]).trans hpre
    rw [← latest_after_of_running startTime endTime (hrunning pre hpre')]
    exact hturn pre call hpre (hrunning pre hpre')
  · intro hturn pre call hpre hrunning
    refine (documented_iff (tracks_after startTime endTime pre) call).2 ?_
    rw [latest_after_of_running startTime endTime hrunning]
    exact hturn pre call hpre

/-- `stopTimer` on a new timer ends the program. -/
theorem stopTimer_before_startTimer :
    ¬ ∀ (startTime endTime : Timeval) (calls : List TimerCall),
      AllDocumented startTime endTime calls := by
  intro h
  have hdocumented := h ⟨0, 0⟩ ⟨0, 0⟩ [.stopTimer ⟨5, 0⟩] [] (.stopTimer ⟨5, 0⟩) (by simp) rfl
  obtain ⟨what, hthrows⟩ := (hdocumented.misuse rfl).1
  cases hthrows

end TimerProgram

end Giapi
