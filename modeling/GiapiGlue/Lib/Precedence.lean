import Mathlib

set_option autoImplicit false

/-! # Precedence in a trace

Some elements of a trace are effects, and each effect has elements that may be its cause. In a trace that
keeps precedence no effect comes before every cause of it. The lemmas say what appending to a trace does
to this. -/

namespace Trace

universe u

variable {α : Type u} {effect : α → Prop} {cause : α → α → Prop}

/-- Every effect has a cause of it among the elements before it. -/
def Preceded (effect : α → Prop) (cause : α → α → Prop) (trace : List α) : Prop :=
  ∀ before e, before ++ [e] <+: trace → effect e → ∃ c ∈ before, cause e c

theorem preceded_nil : Preceded effect cause [] := by
  intro before e h
  simp at h

theorem preceded_concat {trace : List α} {e : α} :
    Preceded effect cause (trace ++ [e]) ↔
      Preceded effect cause trace ∧ (effect e → ∃ c ∈ trace, cause e c) := by
  constructor
  · intro h
    exact ⟨fun before e' hbefore => h before e' (hbefore.trans (List.prefix_append trace [e])),
      h trace e (List.prefix_refl _)⟩
  · intro h before e' hbefore heffect
    rcases List.prefix_concat_iff.1 hbefore with heq | hbefore
    · obtain ⟨rfl, he⟩ := List.append_inj' heq rfl
      obtain rfl := List.singleton_inj.1 he
      exact h.2 heffect
    · exact h.1 before e' hbefore heffect

/-- What is no effect can be added. -/
theorem preceded_append_of_not_effect {trace es : List α} (h : ∀ e ∈ es, ¬ effect e) :
    Preceded effect cause (trace ++ es) ↔ Preceded effect cause trace := by
  induction es using List.reverseRecOn with
  | nil => rw [List.append_nil]
  | append_singleton es e ih =>
      have hlast : ¬ effect e := h e (by simp)
      rw [← List.append_assoc, preceded_concat, ih (fun e' he' => h e' (by simp [he'])),
        and_iff_left (fun he => absurd he hlast)]

end Trace
