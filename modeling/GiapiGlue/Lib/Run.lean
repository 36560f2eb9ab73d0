import Mathlib

set_option autoImplicit false

/-! # Runs of a deterministic step function

The states a list of operations passes through, the invariant rule over them, and the *exact guard*
rule: when a property survives a step precisely if a guard on the state before it holds, the property
holds in every state of a run precisely if the guard holds of every step of it. -/

namespace Run

universe u v

variable {σ : Type u} {α : Type v} (step : σ → α → σ)

/-- The state reached from `s` by `ops`, in order. -/
def after (s : σ) (ops : List α) : σ := ops.foldl step s

@[simp] theorem after_nil (s : σ) : after step s [] = s := rfl

@[simp] theorem after_cons (s : σ) (a : α) (ops : List α) :
    after step s (a :: ops) = after step (step s a) ops := rfl

@[simp] theorem after_append (s : σ) (xs ys : List α) :
    after step s (xs ++ ys) = after step (after step s xs) ys := by
  simp [after, List.foldl_append]

theorem after_concat (s : σ) (xs : List α) (a : α) :
    after step s (xs ++ [a]) = step (after step s xs) a := by
  simp

/-- `P` holds in every state the run passes through, the first and the last included. -/
def Always (P : σ → Prop) (s : σ) (ops : List α) : Prop :=
  ∀ pre, pre <+: ops → P (after step s pre)

/-- `G` holds of every step of the run, seen from the state before it. -/
def Guarded (G : σ → α → Prop) (s : σ) (ops : List α) : Prop :=
  ∀ pre a, pre ++ [a] <+: ops → G (after step s pre) a

variable {step}

theorem Always.final {P : σ → Prop} {s : σ} {ops : List α} (h : Always step P s ops) :
    P (after step s ops) :=
  h ops (List.prefix_refl ops)

theorem Always.take {P : σ → Prop} {s : σ} {pre ops : List α} (h : Always step P s ops)
    (hpre : pre <+: ops) : Always step P s pre :=
  fun pre' h' => h pre' (h'.trans hpre)

theorem Guarded.take {G : σ → α → Prop} {s : σ} {pre ops : List α} (h : Guarded step G s ops)
    (hpre : pre <+: ops) : Guarded step G s pre :=
  fun pre' a h' => h pre' a (h'.trans hpre)

theorem Guarded.nil (G : σ → α → Prop) (s : σ) : Guarded step G s [] := by
  intro pre a h
  have := h.length_le
  simp at this

/-- **Invariant rule.** What holds first and survives every step holds after every run. -/
theorem invariant {I : σ → Prop} {s : σ} (hinit : I s) (hstep : ∀ s a, I s → I (step s a)) :
    ∀ ops, I (after step s ops) := by
  intro ops
  induction ops using List.reverseRecOn with
  | nil => exact hinit
  | append_singleton ops a ih =>
      rw [after_concat]
      exact hstep _ a ih

/-- **Guarded invariant rule.** What holds first and survives every step that meets the guard holds
    in every state of a run whose steps all meet it. `J` is an invariant of all runs, for free. -/
theorem always_of_guarded {J P : σ → Prop} {G : σ → α → Prop} {s : σ}
    (hJ : ∀ ops, J (after step s ops)) (hinit : P s)
    (hstep : ∀ s a, J s → P s → G s a → P (step s a)) {ops : List α}
    (hG : Guarded step G s ops) : Always step P s ops := by
  intro pre hpre
  induction pre using List.reverseRecOn with
  | nil => exact hinit
  | append_singleton pre a ih =>
      rw [after_concat]
      have hpre' : pre <+: ops := (List.prefix_append pre [a]).trans hpre
      exact hstep _ a (hJ pre) (ih hpre') (hG pre a hpre)

/-- **Exact guard rule.** If a step from a good state is good precisely when the guard holds, a run
    is good throughout precisely when all its steps meet the guard. -/
theorem always_iff_guarded {J P : σ → Prop} {G : σ → α → Prop} {s : σ}
    (hJ : ∀ ops, J (after step s ops)) (hinit : P s)
    (hstep : ∀ s a, J s → P s → (P (step s a) ↔ G s a)) (ops : List α) :
    Always step P s ops ↔ Guarded step G s ops := by
  constructor
  · intro hP pre a hpre
    have hbefore : P (after step s pre) := hP pre ((List.prefix_append pre [a]).trans hpre)
    have hafter : P (step (after step s pre) a) := by
      have := hP (pre ++ [a]) hpre
      rwa [after_concat] at this
    exact (hstep _ a (hJ pre) hbefore).1 hafter
  · exact always_of_guarded hJ hinit (fun s a hj hp hg => (hstep s a hj hp).2 hg)

/-- **History rule.** `H` is a property of the record a run keeps, which no later step repairs. If
    after a step from a good state with a good record the state is good precisely when the record is,
    a run is good throughout precisely when its record is good at the end. -/
theorem always_iff_history {J P H : σ → Prop} {s : σ} (hJ : ∀ ops, J (after step s ops))
    (hinit : P s) (hrecord : H s) (hback : ∀ s a, J s → H (step s a) → H s)
    (hstep : ∀ s a, J s → P s → H s → (P (step s a) ↔ H (step s a))) (ops : List α) :
    Always step P s ops ↔ H (after step s ops) := by
  induction ops using List.reverseRecOn with
  | nil =>
      refine ⟨fun _ => hrecord, fun _ pre hpre => ?_⟩
      rw [List.prefix_nil.1 hpre]
      exact hinit
  | append_singleton ops a ih =>
      rw [after_concat]
      constructor
      · intro hP
        have hbefore : Always step P s ops := hP.take (List.prefix_append ops [a])
        have hafter := hP.final
        rw [after_concat] at hafter
        exact (hstep _ a (hJ ops) hbefore.final (ih.1 hbefore)).1 hafter
      · intro hH pre hpre
        have hH' := hback _ a (hJ ops) hH
        have hbefore := ih.2 hH'
        rcases List.prefix_concat_iff.1 hpre with rfl | hpre'
        · rw [after_concat]
          exact (hstep _ a (hJ ops) hbefore.final hH').2 hH
        · exact hbefore pre hpre'

variable (step) in
/-- `G` holds of some step of the run, seen from the state before it. -/
def Sometime (G : σ → α → Prop) (s : σ) (ops : List α) : Prop :=
  ∃ pre a, pre ++ [a] <+: ops ∧ G (after step s pre) a

theorem Sometime.not_nil (G : σ → α → Prop) (s : σ) : ¬ Sometime step G s [] := by
  intro h
  obtain ⟨pre, a, hpre, -⟩ := h
  simp at hpre

/-- The last step met `G`, or one before it did. -/
theorem sometime_concat {G : σ → α → Prop} {s : σ} {ops : List α} {a : α} :
    Sometime step G s (ops ++ [a]) ↔ Sometime step G s ops ∨ G (after step s ops) a := by
  constructor
  · intro h
    obtain ⟨pre, b, hpre, hb⟩ := h
    rcases List.prefix_concat_iff.1 hpre with heq | hpre
    · obtain ⟨rfl, hab⟩ := List.append_inj' heq rfl
      obtain rfl := List.singleton_inj.1 hab
      exact Or.inr hb
    · exact Or.inl ⟨pre, b, hpre, hb⟩
  · intro h
    rcases h with ⟨pre, b, hpre, hb⟩ | ha
    · exact ⟨pre, b, hpre.trans (List.prefix_append ops [a]), hb⟩
    · exact ⟨ops, a, List.prefix_refl _, ha⟩

/-- **Record rule.** What does not hold first, and holds after a step precisely if it held before or the
    step met `G`, holds after a run precisely if some step of it met `G`. -/
theorem holds_iff_sometime {Q : σ → Prop} {G : σ → α → Prop} {s : σ} (hinit : ¬ Q s)
    (hstep : ∀ s a, Q (step s a) ↔ Q s ∨ G s a) (ops : List α) :
    Q (after step s ops) ↔ Sometime step G s ops := by
  induction ops using List.reverseRecOn with
  | nil => exact iff_of_false hinit (Sometime.not_nil G s)
  | append_singleton ops a ih => rw [after_concat, hstep, ih, sometime_concat]

/-- What no step undoes still holds later in the run. -/
theorem persists {Q : σ → Prop} (hstep : ∀ s a, Q s → Q (step s a)) {s : σ} (h : Q s)
    (ops : List α) : Q (after step s ops) :=
  invariant h hstep ops

end Run
