import Mathlib

set_option autoImplicit false

/-! # Registers that are never written the same value twice

A trace of events, the latest first, some of which write a register or clear it. When no value is
written twice, the register holds a value it held before only if nobody wrote it in between. -/

namespace FreshRegister

universe u v

variable {ε : Type u} {ρ : Type v} (writes : ε → Option (Option ρ))

/-- What the register holds after a trace: what the latest write wrote. -/
def value : List ε → Option ρ
  | [] => none
  | event :: events =>
    match writes event with
    | some written => written
    | none => value events

/-- The values a trace has written. -/
def written (events : List ε) : List ρ := events.filterMap (fun event => (writes event).join)

/-- No event of the trace writes the register. -/
def Untouched (events : List ε) : Prop := ∀ event ∈ events, writes event = none

variable {writes}

theorem value_cons_of_none {event : ε} {events : List ε} (h : writes event = none) :
    value writes (event :: events) = value writes events := by
  rw [value, h]

theorem value_cons_of_some {event : ε} {events : List ε} {r : Option ρ} (h : writes event = some r) :
    value writes (event :: events) = r := by
  rw [value, h]

theorem written_cons_of_none {event : ε} {events : List ε} (h : (writes event).join = none) :
    written writes (event :: events) = written writes events := by
  rw [written, List.filterMap_cons, h]
  rfl

theorem written_cons_of_some {event : ε} {events : List ε} {r : ρ}
    (h : writes event = some (some r)) :
    written writes (event :: events) = r :: written writes events := by
  rw [written, List.filterMap_cons, h]
  rfl

/-- What a register holds has been written. -/
theorem mem_written_of_value {events : List ε} {r : ρ} (h : value writes events = some r) :
    r ∈ written writes events := by
  induction events with
  | nil => exact absurd h (by simp [value])
  | cons event events ih =>
      cases hevent : writes event with
      | none =>
          rw [value_cons_of_none hevent] at h
          rw [written_cons_of_none (by rw [hevent]; rfl)]
          exact ih h
      | some written =>
          rw [value_cons_of_some hevent] at h
          rw [written_cons_of_some (hevent.trans (congrArg some h))]
          exact List.mem_cons_self

theorem Untouched.value_append {mid rest : List ε} (h : Untouched writes mid) :
    value writes (mid ++ rest) = value writes rest := by
  induction mid with
  | nil => rfl
  | cons event mid ih =>
      rw [List.cons_append, value_cons_of_none (h event List.mem_cons_self)]
      exact ih fun event' h' => h event' (List.mem_cons_of_mem event h')

theorem Untouched.written_append {mid rest : List ε} (h : Untouched writes mid) :
    written writes (mid ++ rest) = written writes rest := by
  induction mid with
  | nil => rfl
  | cons event mid ih =>
      rw [List.cons_append, written_cons_of_none (by rw [h event List.mem_cons_self]; rfl)]
      exact ih fun event' h' => h event' (List.mem_cons_of_mem event h')

/-- A register that is never written a value twice holds what it held before exactly when it was not
    touched since. -/
theorem value_append_iff {mid rest : List ε} {r : ρ} (hfresh : (written writes (mid ++ rest)).Nodup)
    (hrest : value writes rest = some r) :
    value writes (mid ++ rest) = some r ↔ Untouched writes mid := by
  refine ⟨fun h => ?_, fun h => h.value_append.trans hrest⟩
  induction mid with
  | nil => exact fun event hevent => absurd hevent List.not_mem_nil
  | cons event mid ih =>
      rw [List.cons_append] at hfresh h
      cases hevent : writes event with
      | none =>
          rw [written_cons_of_none (by rw [hevent]; rfl)] at hfresh
          rw [value_cons_of_none hevent] at h
          intro event' hevent'
          rcases List.mem_cons.1 hevent' with rfl | hmid
          · exact hevent
          · exact ih hfresh h event' hmid
      | some v =>
          -- the latest write would repeat the one `rest` ends with
          rw [value_cons_of_some hevent] at h
          subst h
          rw [written_cons_of_some hevent] at hfresh
          have hagain : r ∈ written writes (mid ++ rest) := by
            rw [written, List.filterMap_append]
            exact List.mem_append_right _ (mem_written_of_value hrest)
          exact absurd hagain (List.nodup_cons.1 hfresh).1

end FreshRegister
