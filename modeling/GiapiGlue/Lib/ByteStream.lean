import Mathlib

set_option autoImplicit false

/-! # Readers and writers of byte streams

A reader consumes a prefix of a byte stream or fails; a writer appends to one or fails. `Reads r bs a`
says that `r` consumes exactly the bytes `bs`, whatever follows them, and returns `a`; `Writes w bs`
that `w` appends exactly `bs`. Both compose along `do` blocks, so the round trip of a format is
assembled from the round trips of its fields. -/

/-- A reader of bytes that may fail with an error of type `ε`. -/
abbrev ByteReader (ε α : Type) : Type := StateT (List UInt8) (Except ε) α

namespace ByteReader

variable {ε α β : Type}

/-- The next `n` bytes, or the error `eof` when fewer are left. -/
def take (eof : ε) (n : Nat) : ByteReader ε (List UInt8) := fun bs =>
  if n ≤ bs.length then .ok (bs.take n, bs.drop n) else .error eof

/-- Run `r` `n` times and collect the results. -/
def times (r : ByteReader ε α) : Nat → ByteReader ε (List α)
  | 0 => pure []
  | n + 1 => do
    let a ← r
    let as ← times r n
    return a :: as

/-- `r` consumes exactly `bs`, whatever follows, and returns `a`. -/
def Reads (r : ByteReader ε α) (bs : List UInt8) (a : α) : Prop :=
  ∀ rest, r.run (bs ++ rest) = .ok (a, rest)

theorem Reads.pure (a : α) : Reads (ε := ε) (Pure.pure a) [] a := fun _ => rfl

theorem Reads.bind {r : ByteReader ε α} {f : α → ByteReader ε β} {bs cs : List UInt8} {a : α} {b : β}
    (hr : Reads r bs a) (hf : Reads (f a) cs b) : Reads (r >>= f) (bs ++ cs) b := by
  intro rest
  rw [StateT.run_bind, List.append_assoc, hr (cs ++ rest)]
  exact hf rest

/-- The last field of a `do` block: nothing is read after it. -/
theorem Reads.map {r : ByteReader ε α} {bs : List UInt8} {a : α} (hr : Reads r bs a) (f : α → β) :
    Reads (r >>= fun x => Pure.pure (f x)) bs (f a) := by
  have h : Reads (r >>= fun x => Pure.pure (f x)) (bs ++ []) (f a) := hr.bind (Reads.pure (f a))
  rwa [List.append_nil] at h

theorem reads_take (eof : ε) (bs : List UInt8) : Reads (take eof bs.length) bs bs := by
  intro rest
  simp [take, StateT.run]

theorem Reads.of_take (eof : ε) {n : Nat} {bs : List UInt8} (h : bs.length = n) :
    Reads (take eof n) bs bs :=
  h ▸ reads_take eof bs

theorem Reads.times {r : ByteReader ε α} {enc : α → List UInt8} (as : List α)
    (hr : ∀ a ∈ as, Reads r (enc a) a) : Reads (times r as.length) (as.flatMap enc) as := by
  induction as with
  | nil => exact Reads.pure []
  | cons a as ih =>
      have hrest := ih (fun x hx => hr x (List.mem_cons_of_mem a hx))
      exact (hr a List.mem_cons_self).bind (hrest.map (a :: ·))

/-! ## What holds of any run of a reader -/

theorem run_take (eof : ε) (n : Nat) (bs : List UInt8) :
    (take eof n).run bs = if n ≤ bs.length then .ok (bs.take n, bs.drop n) else .error eof := rfl

/-- What ends a `do` block with a result ended its first line with one. -/
theorem run_bind_ok {r : ByteReader ε α} {f : α → ByteReader ε β} {bs rest : List UInt8} {b : β}
    (h : (r >>= f).run bs = .ok (b, rest)) :
    ∃ a mid, r.run bs = .ok (a, mid) ∧ (f a).run mid = .ok (b, rest) := by
  rw [StateT.run_bind] at h
  cases hr : r.run bs with
  | error e => rw [hr] at h; exact absurd h (by simp [bind, Except.bind])
  | ok x => rw [hr] at h; exact ⟨x.1, x.2, rfl, h⟩

/-- A computation that reads nothing leaves the stream as it was. -/
theorem run_lift (x : Except ε α) (bs : List UInt8) :
    (liftM x : ByteReader ε α).run bs = x.map (fun a => (a, bs)) := by
  cases x <;> rfl

theorem run_lift_ok {x : Except ε α} {bs rest : List UInt8} {a : α}
    (h : (liftM x : ByteReader ε α).run bs = .ok (a, rest)) : x = .ok a ∧ bs = rest := by
  rw [run_lift] at h
  cases x with
  | error e => exact absurd h (by simp [Except.map])
  | ok a' => simpa [Except.map] using h

theorem length_of_run_times {r : ByteReader ε α} {n : Nat} {bs rest : List UInt8} {as : List α}
    (h : (times r n).run bs = .ok (as, rest)) : as.length = n := by
  induction n generalizing bs as rest with
  | zero =>
      obtain ⟨rfl, rfl⟩ : [] = as ∧ bs = rest := by
        simpa [times, Pure.pure, StateT.pure, StateT.run, Except.pure] using h
      rfl
  | succ n ih =>
      obtain ⟨a, mid, -, h⟩ := run_bind_ok h
      obtain ⟨as', mid', has, h⟩ := run_bind_ok h
      obtain ⟨rfl, rfl⟩ : a :: as' = as ∧ mid' = rest := by
        simpa [Pure.pure, StateT.pure, StateT.run, Except.pure] using h
      rw [List.length_cons, ih has]

/-- Whatever `r` returns, it consumed exactly its encoding. -/
def Parses (r : ByteReader ε α) (enc : α → List UInt8) : Prop :=
  ∀ bs a rest, r.run bs = .ok (a, rest) → bs = enc a ++ rest

theorem Parses.times {r : ByteReader ε α} {enc : α → List UInt8} (hr : Parses r enc) (n : Nat) :
    Parses (times r n) (fun as => as.flatMap enc) := by
  induction n with
  | zero =>
      intro bs as rest h
      obtain ⟨rfl, rfl⟩ : [] = as ∧ bs = rest := by
        simpa [ByteReader.times, Pure.pure, StateT.pure, StateT.run, Except.pure] using h
      rfl
  | succ n ih =>
      intro bs as rest h
      obtain ⟨a, mid, ha, h⟩ := run_bind_ok h
      obtain ⟨as', mid', has, h⟩ := run_bind_ok h
      obtain ⟨rfl, rfl⟩ : a :: as' = as ∧ mid' = rest := by
        simpa [Pure.pure, StateT.pure, StateT.run, Except.pure] using h
      have hfirst := hr bs a mid ha
      have hothers := ih mid as' mid' has
      simp [hfirst, hothers]

/-- Each error of `r` meets `P`. -/
def FailsWith (P : ε → Prop) (r : ByteReader ε α) : Prop := ∀ bs e, r.run bs = .error e → P e

theorem FailsWith.pure {P : ε → Prop} (a : α) : FailsWith P (Pure.pure a : ByteReader ε α) :=
  fun _ _ h => absurd h (by simp [Pure.pure, StateT.pure, StateT.run, Except.pure])

theorem FailsWith.lift {P : ε → Prop} {x : Except ε α} (h : ∀ e, x = .error e → P e) :
    FailsWith P (x : ByteReader ε α) := by
  intro bs e he
  rw [show (x : ByteReader ε α).run bs = _ from run_lift x bs] at he
  cases x with
  | error e' => exact h e (congrArg Except.error (Except.error.inj he))
  | ok a => exact absurd he (by simp [Except.map])

theorem FailsWith.bind {P : ε → Prop} {r : ByteReader ε α} {f : α → ByteReader ε β}
    (hr : FailsWith P r) (hf : ∀ a, FailsWith P (f a)) : FailsWith P (r >>= f) := by
  intro bs e h
  rw [StateT.run_bind] at h
  cases hrun : r.run bs with
  | error e' =>
      rw [hrun] at h
      have he : e' = e := by simpa [Bind.bind, Except.bind] using h
      exact he ▸ hr bs e' hrun
  | ok x =>
      rw [hrun] at h
      exact hf x.1 x.2 e h

theorem FailsWith.take {P : ε → Prop} {eof : ε} (h : P eof) (n : Nat) : FailsWith P (take eof n) := by
  intro bs e he
  rw [run_take] at he
  split at he
  · exact absurd he (by simp)
  · exact Except.error.inj he ▸ h

/-- A result `a` costs at least `w a` bytes. -/
def Consumes (r : ByteReader ε α) (w : α → Nat) : Prop :=
  ∀ bs a rest, r.run bs = .ok (a, rest) → rest.length + w a ≤ bs.length

/-- What is left is not more than what there was. -/
def Shrinks (r : ByteReader ε α) : Prop := Consumes r (fun _ => 0)

theorem Consumes.bind {r : ByteReader ε α} {f : α → ByteReader ε β} {w : α → Nat}
    {u : α → β → Nat} {v : β → Nat} (hr : Consumes r w) (hf : ∀ a, Consumes (f a) (u a))
    (hv : ∀ a b, v b ≤ w a + u a b) : Consumes (r >>= f) v := by
  intro bs b rest h
  obtain ⟨a, mid, ha, hb⟩ := run_bind_ok h
  have h1 := hr bs a mid ha
  have h2 := hf a mid b rest hb
  have h3 := hv a b
  omega

theorem Consumes.pure (a : α) : Consumes (Pure.pure a : ByteReader ε α) (fun _ => 0) := by
  intro bs b rest h
  obtain ⟨rfl, rfl⟩ : a = b ∧ bs = rest := by
    simpa [Pure.pure, StateT.pure, StateT.run, Except.pure] using h
  exact Nat.le_refl _

theorem Consumes.take (eof : ε) (n : Nat) : Consumes (take eof n) List.length := by
  intro bs a rest h
  rw [run_take] at h
  split at h
  · obtain ⟨rfl, rfl⟩ : bs.take n = a ∧ bs.drop n = rest := by simpa using h
    simp only [List.length_take, List.length_drop]
    omega
  · exact absurd h (by simp)

theorem Consumes.times {r : ByteReader ε α} {w : α → Nat} (hr : Consumes r w) (n : Nat) :
    Consumes (times r n) (fun as => (as.map w).sum) := by
  induction n with
  | zero =>
      intro bs as rest h
      obtain ⟨rfl, rfl⟩ : [] = as ∧ bs = rest := by
        simpa [ByteReader.times, Pure.pure, StateT.pure, StateT.run, Except.pure] using h
      simp
  | succ n ih =>
      intro bs as rest h
      obtain ⟨a, mid, ha, h'⟩ := run_bind_ok h
      obtain ⟨as', mid', has, h''⟩ := run_bind_ok h'
      obtain ⟨rfl, rfl⟩ : a :: as' = as ∧ mid' = rest := by
        simpa [Pure.pure, StateT.pure, StateT.run, Except.pure] using h''
      have h1 := hr bs a mid ha
      have h2 : mid'.length + (as'.map w).sum ≤ mid.length := ih mid as' mid' has
      simp only [List.map_cons, List.sum_cons]
      omega

theorem Consumes.shrinks {r : ByteReader ε α} {w : α → Nat} (hr : Consumes r w) : Shrinks r := by
  intro bs a rest h
  have hcost := hr bs a rest h
  show rest.length + 0 ≤ bs.length
  omega

theorem Shrinks.pure (a : α) : Shrinks (Pure.pure a : ByteReader ε α) := Consumes.pure a

theorem Shrinks.bind {r : ByteReader ε α} {f : α → ByteReader ε β} (hr : Shrinks r)
    (hf : ∀ a, Shrinks (f a)) : Shrinks (r >>= f) :=
  Consumes.bind hr hf (fun _ _ => Nat.zero_le _)

/-- What is read whole from a stream with nothing after it. -/
theorem Reads.run_eq {r : ByteReader ε α} {bs : List UInt8} {a : α} (h : Reads r bs a) :
    r.run bs = .ok (a, []) := by
  simpa using h []

end ByteReader

/-- A writer of bytes that may fail with an error of type `ε`. -/
abbrev ByteWriter (ε α : Type) : Type := StateT (List UInt8) (Except ε) α

namespace ByteWriter

variable {ε : Type}

/-- Append `bs`. -/
def put (bs : List UInt8) : ByteWriter ε Unit := fun out => .ok ((), out ++ bs)

/-- `w` appends exactly `bs`, whatever stands before. -/
def Writes (w : ByteWriter ε Unit) (bs : List UInt8) : Prop :=
  ∀ out, w.run out = .ok ((), out ++ bs)

theorem writes_put (bs : List UInt8) : Writes (put (ε := ε) bs) bs := fun _ => rfl

/-- To Lean a writer is a reader of what stands before, so the rules about errors are the same. -/
theorem failsWith_put {P : ε → Prop} (bs : List UInt8) :
    ByteReader.FailsWith P (put (ε := ε) bs) :=
  fun _ _ h => absurd h (by simp [put, StateT.run])

theorem Writes.pure : Writes (ε := ε) (Pure.pure ()) [] := by
  intro out
  rw [List.append_nil]
  rfl

theorem Writes.bind {w : ByteWriter ε Unit} {f : Unit → ByteWriter ε Unit} {bs cs : List UInt8}
    (hw : Writes w bs) (hf : Writes (f ()) cs) : Writes (w >>= f) (bs ++ cs) := by
  intro out
  rw [StateT.run_bind, hw out]
  exact (hf (out ++ bs)).trans (by rw [List.append_assoc])

end ByteWriter
