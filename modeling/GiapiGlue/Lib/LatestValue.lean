import Mathlib

set_option autoImplicit false

/-! # The latest value of each key

A receiver of a stream of keyed values that keeps, for each key, the value that came last. -/

namespace LatestValue

variable {κ ν : Type} [DecidableEq κ]

/-- One more value takes the place of the one its key had. -/
def keep (kept : κ → Option ν) (entry : κ × ν) : κ → Option ν :=
  Function.update kept entry.1 (some entry.2)

/-- What is kept of a stream. -/
def latest (stream : List (κ × ν)) : κ → Option ν := stream.foldl keep (fun _ => none)

@[simp] theorem latest_nil (k : κ) : latest ([] : List (κ × ν)) k = none := rfl

theorem latest_concat (stream : List (κ × ν)) (entry : κ × ν) :
    latest (stream ++ [entry]) = Function.update (latest stream) entry.1 (some entry.2) := by
  simp [latest, keep]

theorem latest_concat_self (stream : List (κ × ν)) (entry : κ × ν) :
    latest (stream ++ [entry]) entry.1 = some entry.2 := by
  simp [latest_concat]

theorem latest_concat_other (stream : List (κ × ν)) {entry : κ × ν} {k : κ} (h : k ≠ entry.1) :
    latest (stream ++ [entry]) k = latest stream k := by
  simp [latest_concat, h]

end LatestValue
