import Mathlib

set_option autoImplicit false

/-! # Ledgers of acquired and released resources

A ledger lists what was acquired and what was released, in order. It is *balanced* when every resource
was acquired at most once and released exactly as often: nothing stays open, and nothing is released twice.
`Accounted` computations may fail, and keep a ledger of what they did until then. -/

/-- A line of a ledger. -/
inductive LedgerEntry (ρ : Type)
  | acquired (r : ρ)
  | released (r : ρ)
deriving DecidableEq, Repr

/-- The line in the name of the call with number `i`. -/
def LedgerEntry.tag {ρ : Type} (i : Nat) : LedgerEntry ρ → LedgerEntry (Nat × ρ)
  | .acquired r => .acquired (i, r)
  | .released r => .released (i, r)

theorem LedgerEntry.tag_injective {ρ : Type} (i : Nat) :
    Function.Injective (LedgerEntry.tag (ρ := ρ) i) := by
  intro x y h
  cases x <;> cases y <;> simp_all [tag]

abbrev Ledger (ρ : Type) : Type := List (LedgerEntry ρ)

namespace Ledger

variable {ρ : Type} [DecidableEq ρ]

/-- Every resource was released as often as acquired, and acquired at most once. -/
def Balanced (ledger : Ledger ρ) : Prop :=
  ∀ r, ledger.count (.acquired r) ≤ 1 ∧ ledger.count (.released r) = ledger.count (.acquired r)

instance [Fintype ρ] (ledger : Ledger ρ) : Decidable ledger.Balanced :=
  inferInstanceAs (Decidable (∀ _ : ρ, _ ∧ _))

theorem balanced_nil : Balanced ([] : Ledger ρ) := fun _ => ⟨Nat.zero_le 1, rfl⟩

/-- The order of the lines does not matter. -/
theorem Balanced.perm {xs ys : Ledger ρ} (h : xs.Perm ys) : xs.Balanced ↔ ys.Balanced := by
  simp only [Balanced, h.count_eq]

/-- What was acquired and not released keeps a ledger from being balanced. -/
theorem not_balanced_of_open {ledger : Ledger ρ} {r : ρ} (hacquired : .acquired r ∈ ledger)
    (hreleased : .released r ∉ ledger) : ¬ ledger.Balanced := by
  intro h
  have hcount := (h r).2
  rw [List.count_eq_zero.2 hreleased] at hcount
  have := List.count_pos_iff.2 hacquired
  omega

/-- Nothing was released more often than it was acquired. -/
def NoneTwice (ledger : Ledger ρ) : Prop :=
  ∀ r, ledger.count (.released r) ≤ ledger.count (.acquired r)

instance [Fintype ρ] (ledger : Ledger ρ) : Decidable ledger.NoneTwice :=
  inferInstanceAs (Decidable (∀ _ : ρ, _ ≤ _))

theorem NoneTwice.perm {xs ys : Ledger ρ} (h : xs.Perm ys) : xs.NoneTwice ↔ ys.NoneTwice := by
  simp only [NoneTwice, h.count_eq]

/-- The ledger has a line about the resource. -/
def Mentions (ledger : Ledger ρ) (r : ρ) : Prop := .acquired r ∈ ledger ∨ .released r ∈ ledger

theorem count_of_not_mentions {ledger : Ledger ρ} {r : ρ} (h : ¬ ledger.Mentions r) :
    ledger.count (.acquired r) = 0 ∧ ledger.count (.released r) = 0 := by
  rw [Mentions, not_or] at h
  exact ⟨List.count_eq_zero.2 h.1, List.count_eq_zero.2 h.2⟩

/-- Ledgers about different resources are balanced together precisely if each of them is. -/
theorem balanced_append_iff {xs ys : Ledger ρ} (h : ∀ r, xs.Mentions r → ¬ ys.Mentions r) :
    Balanced (xs ++ ys) ↔ xs.Balanced ∧ ys.Balanced := by
  have hcount : ∀ r, (xs.count (.acquired r) = 0 ∧ xs.count (.released r) = 0)
      ∨ (ys.count (.acquired r) = 0 ∧ ys.count (.released r) = 0) := by
    intro r
    by_cases hx : xs.Mentions r
    · exact Or.inr (count_of_not_mentions (h r hx))
    · exact Or.inl (count_of_not_mentions hx)
  simp only [Balanced, List.count_append, ← forall_and]
  refine forall_congr' fun r => ?_
  rcases hcount r with hr | hr <;> omega

/-! ## The ledgers of several calls -/

/-- The lines of the call with number `i`. -/
def tag (i : Nat) (ledger : Ledger ρ) : Ledger (Nat × ρ) := ledger.map (LedgerEntry.tag i)

/-- The ledgers of calls with the numbers from `i` on, one after the other. -/
def tagged : Nat → List (Ledger ρ) → Ledger (Nat × ρ)
  | _, [] => []
  | i, ledger :: ledgers => tag i ledger ++ tagged (i + 1) ledgers

omit [DecidableEq ρ] in
theorem mentions_tag {i j : Nat} {ledger : Ledger ρ} {r : ρ} (h : (tag i ledger).Mentions (j, r)) :
    j = i := by
  rcases h with h | h
  · obtain ⟨entry, -, heq⟩ := List.mem_map.1 h
    cases entry <;> simp_all [LedgerEntry.tag]
  · obtain ⟨entry, -, heq⟩ := List.mem_map.1 h
    cases entry <;> simp_all [LedgerEntry.tag]

omit [DecidableEq ρ] in
theorem mentions_tagged {i j : Nat} {ledgers : List (Ledger ρ)} {r : ρ}
    (h : (tagged i ledgers).Mentions (j, r)) : i ≤ j := by
  induction ledgers generalizing i with
  | nil => simp [tagged, Mentions] at h
  | cons ledger ledgers ih =>
      simp only [tagged, Mentions, List.mem_append] at h
      have hsplit : (tag i ledger).Mentions (j, r) ∨ (tagged (i + 1) ledgers).Mentions (j, r) :=
        or_or_or_comm.1 h
      rcases hsplit with hhere | hlater
      · exact (mentions_tag hhere).ge
      · exact (Nat.le_succ i).trans (ih hlater)

theorem balanced_tag_iff (i : Nat) (ledger : Ledger ρ) : (tag i ledger).Balanced ↔ ledger.Balanced := by
  have hacquired : ∀ r, (tag i ledger).count (.acquired (i, r)) = ledger.count (.acquired r) := fun r =>
    List.count_map_of_injective ledger _ (LedgerEntry.tag_injective i) (.acquired r)
  have hreleased : ∀ r, (tag i ledger).count (.released (i, r)) = ledger.count (.released r) := fun r =>
    List.count_map_of_injective ledger _ (LedgerEntry.tag_injective i) (.released r)
  constructor
  · intro h r
    rw [← hacquired, ← hreleased]
    exact h (i, r)
  · intro h r
    obtain ⟨j, r⟩ := r
    by_cases hj : j = i
    · subst hj
      rw [hacquired, hreleased]
      exact h r
    · have hnot : ¬ (tag i ledger).Mentions (j, r) := fun hmentions => hj (mentions_tag hmentions)
      obtain ⟨ha, hr⟩ := count_of_not_mentions hnot
      exact ⟨by omega, by omega⟩

/-- The calls leave a balanced ledger precisely if each of them does. -/
theorem balanced_tagged_iff (i : Nat) (ledgers : List (Ledger ρ)) :
    (tagged i ledgers).Balanced ↔ ∀ ledger ∈ ledgers, ledger.Balanced := by
  induction ledgers generalizing i with
  | nil => simp [tagged, balanced_nil]
  | cons ledger ledgers ih =>
      have hapart : ∀ r, (tag i ledger).Mentions r → ¬ (tagged (i + 1) ledgers).Mentions r := by
        intro r hhere hlater
        have := mentions_tag hhere
        have := mentions_tagged hlater
        omega
      rw [tagged, balanced_append_iff hapart, balanced_tag_iff, ih, List.forall_mem_cons]

theorem noneTwice_tag {ledger : Ledger ρ} (h : ledger.NoneTwice) (i : Nat) : (tag i ledger).NoneTwice := by
  intro r
  obtain ⟨j, r⟩ := r
  by_cases hmentions : (tag i ledger).Mentions (j, r)
  · obtain rfl := mentions_tag hmentions
    have hreleased := List.count_map_of_injective ledger _ (LedgerEntry.tag_injective j) (.released r)
    have hacquired := List.count_map_of_injective ledger _ (LedgerEntry.tag_injective j) (.acquired r)
    exact (hreleased.trans_le (h r)).trans_eq hacquired.symm
  · exact (count_of_not_mentions hmentions).2.trans_le (Nat.zero_le _)

/-- Calls that release nothing twice release nothing twice together. -/
theorem noneTwice_tagged {ledgers : List (Ledger ρ)} (h : ∀ ledger ∈ ledgers, ledger.NoneTwice) (i : Nat) :
    (tagged i ledgers).NoneTwice := by
  induction ledgers generalizing i with
  | nil => exact fun r => Nat.le_refl _
  | cons ledger ledgers ih =>
      intro r
      simp only [tagged, List.count_append]
      exact Nat.add_le_add (noneTwice_tag (h ledger List.mem_cons_self) i r)
        (ih (fun ledger hmem => h ledger (List.mem_cons_of_mem _ hmem)) (i + 1) r)

end Ledger

/-! ## Computations with a ledger -/

/-- A computation that may fail with an `ε`, and the ledger it leaves in either case. -/
def Accounted (ρ ε α : Type) : Type := Except ε α × Ledger ρ

namespace Accounted

variable {ρ ε α β : Type}

/-- How the computation ends. -/
def result (x : Accounted ρ ε α) : Except ε α := x.1

def ledger (x : Accounted ρ ε α) : Ledger ρ := x.2

instance : Monad (Accounted ρ ε) where
  pure a := (.ok a, [])
  bind x f := match x.1 with
    | .ok a => ((f a).1, x.2 ++ (f a).2)
    | .error e => (.error e, x.2)

/-- A computation that touches no resource. -/
def lift (x : Except ε α) : Accounted ρ ε α := (x, [])

def acquire (r : ρ) : Accounted ρ ε Unit := (.ok (), [.acquired r])

def release (r : ρ) : Accounted ρ ε Unit := (.ok (), [.released r])

/-- A thread that is left to itself: it adds to the ledger, and however it ends, its caller goes on. -/
def spawn (x : Accounted ρ ε α) : Accounted ρ ε Unit := (.ok (), x.2)

/-- A resource held by a smart pointer for as long as `x` runs. -/
def holding (r : ρ) (x : Accounted ρ ε α) : Accounted ρ ε α :=
  (x.1, .acquired r :: x.2 ++ [.released r])

/-- A handler for the errors it has an answer to. It sees the ledger up to there. -/
def catching (x : Accounted ρ ε α) (handler : ε → Option (Ledger ρ → Accounted ρ ε α)) :
    Accounted ρ ε α :=
  match x.1 with
  | .ok _ => x
  | .error e =>
    match handler e with
    | none => x
    | some handle => ((handle x.2).1, x.2 ++ (handle x.2).2)

@[simp] theorem result_pure (a : α) : (pure a : Accounted ρ ε α).result = .ok a := rfl

@[simp] theorem ledger_lift (x : Except ε α) : (lift x : Accounted ρ ε α).ledger = [] := rfl

/-- Without the ledger, computations compose as those without one do. -/
@[simp] theorem result_bind (x : Accounted ρ ε α) (f : α → Accounted ρ ε β) :
    (x >>= f).result = x.result >>= fun a => (f a).result := by
  obtain ⟨ending, before⟩ := x
  cases ending <;> rfl

@[simp] theorem result_acquire (r : ρ) : (acquire r : Accounted ρ ε Unit).result = .ok () := rfl

@[simp] theorem result_release (r : ρ) : (release r : Accounted ρ ε Unit).result = .ok () := rfl

@[simp] theorem result_holding (r : ρ) (x : Accounted ρ ε α) : (holding r x).result = x.result := rfl

/-- What is returned in the end leaves no line. -/
theorem ledger_bind_pure (x : Accounted ρ ε α) (b : β) :
    (x >>= fun _ => (pure b : Accounted ρ ε β)).ledger = x.ledger := by
  obtain ⟨ending, before⟩ := x
  cases ending with
  | ok a => exact List.append_nil before
  | error e => rfl

theorem bind_of_ok {x : Accounted ρ ε α} {a : α} {before : Ledger ρ} (h : x = (.ok a, before))
    (f : α → Accounted ρ ε β) : (x >>= f) = ((f a).result, before ++ (f a).ledger) := by
  subst h
  rfl

theorem bind_of_error {x : Accounted ρ ε α} {e : ε} {before : Ledger ρ} (h : x = (.error e, before))
    (f : α → Accounted ρ ε β) : (x >>= f) = (.error e, before) := by
  subst h
  rfl

end Accounted
