import Mathlib

set_option autoImplicit false

/-! # Decimal numerals in byte strings

What a string of ASCII bytes says about an integer: the numerals that denote one, the numeral it is
written as, and the scan of C, which takes the longest numeral a string begins with, blanks and a sign
before it, and does not look at what follows. -/

namespace Numerals

/-! ## Characters -/

/-- The blanks of the C locale. -/
def isSpace (c : UInt8) : Bool := c = 0x20 ∨ 0x09 ≤ c ∧ c ≤ 0x0D

def isDigit (c : UInt8) : Bool := 0x30 ≤ c ∧ c ≤ 0x39

def digitVal (c : UInt8) : Nat := c.toNat - 0x30

def digit (d : Nat) : UInt8 := UInt8.ofNat (0x30 + d)

def minus : UInt8 := 0x2D

def plus : UInt8 := 0x2B

theorem toNat_digit {d : Nat} (h : d < 10) : (digit d).toNat = 0x30 + d := by
  rw [digit, UInt8.toNat_ofNat', Nat.mod_eq_of_lt (by omega)]

theorem isDigit_iff (c : UInt8) : isDigit c = true ↔ 48 ≤ c.toNat ∧ c.toNat ≤ 57 := by
  simp [isDigit, UInt8.le_iff_toNat_le]

theorem isSpace_iff (c : UInt8) :
    isSpace c = true ↔ c.toNat = 32 ∨ 9 ≤ c.toNat ∧ c.toNat ≤ 13 := by
  simp [isSpace, UInt8.le_iff_toNat_le, ← UInt8.toNat_inj]

@[simp] theorem isDigit_digit {d : Nat} (h : d < 10) : isDigit (digit d) = true := by
  rw [isDigit_iff, toNat_digit h]
  omega

@[simp] theorem digitVal_digit {d : Nat} (h : d < 10) : digitVal (digit d) = d := by
  rw [digitVal, toNat_digit h]
  omega

theorem not_isSpace_of_isDigit {c : UInt8} (h : isDigit c = true) : isSpace c = false := by
  rw [isDigit_iff] at h
  rw [Bool.eq_false_iff, ne_eq, isSpace_iff]
  omega

/-! ## Numerals -/

/-- The number the digits stand for, the most significant first. -/
def value (digits : List UInt8) : Nat := digits.foldl (fun n c => 10 * n + digitVal c) 0

/-- A run of digits that is not empty. -/
structure Digits (digits : List UInt8) : Prop where
  nonempty : digits ≠ []
  all : ∀ c ∈ digits, isDigit c = true

theorem Digits.of_all {digits : List UInt8} (hne : digits ≠ [])
    (h : digits.all isDigit = true) : Digits digits :=
  ⟨hne, List.all_eq_true.1 h⟩

/-- `s` is a numeral of `z`: digits, with a minus sign before them if need be. Zeros may stand first. -/
inductive Denotes : List UInt8 → Int → Prop
  | nonneg {digits : List UInt8} (h : Digits digits) : Denotes digits (value digits)
  | neg {digits : List UInt8} (h : Digits digits) : Denotes (minus :: digits) (-(value digits))

theorem Denotes.of_value {digits : List UInt8} (h : Digits digits) {z : Int}
    (hz : (value digits : Int) = z) : Denotes digits z :=
  hz ▸ Denotes.nonneg h

/-- The digits of `n`, without a zero that is not needed. -/
def digitsOf (n : Nat) : List UInt8 :=
  if n = 0 then [digit 0] else ((Nat.digits 10 n).map digit).reverse

/-- The numeral `z` is written as. -/
def decimal (z : Int) : List UInt8 :=
  if z < 0 then minus :: digitsOf z.natAbs else digitsOf z.natAbs

theorem value_concat (digits : List UInt8) (c : UInt8) :
    value (digits ++ [c]) = 10 * value digits + digitVal c := by
  simp [value]

theorem value_digits {ds : List Nat} (h : ∀ d ∈ ds, d < 10) :
    value ((ds.map digit).reverse) = Nat.ofDigits 10 ds := by
  induction ds with
  | nil => rfl
  | cons d ds ih =>
      have hd : d < 10 := h d List.mem_cons_self
      rw [List.map_cons, List.reverse_cons, value_concat, digitVal_digit hd,
        ih (fun e he => h e (List.mem_cons_of_mem d he)), Nat.ofDigits_cons, Nat.add_comm]

theorem digitsOf_digits (n : Nat) : Digits (digitsOf n) := by
  unfold digitsOf
  split
  · exact ⟨by simp, by simp⟩
  · next hn =>
      refine ⟨by simpa [Nat.digits_ne_nil_iff_ne_zero] using hn, fun c hc => ?_⟩
      obtain ⟨d, hd, rfl⟩ := List.mem_map.1 (List.mem_reverse.1 hc)
      exact isDigit_digit (Nat.digits_lt_base (by norm_num) hd)

theorem value_digitsOf (n : Nat) : value (digitsOf n) = n := by
  unfold digitsOf
  split
  · next hn => rw [hn]; rfl
  · rw [value_digits (fun d hd => Nat.digits_lt_base (by norm_num) hd), Nat.ofDigits_digits]

theorem length_digitsOf_le_iff {n k : Nat} (hk : 0 < k) : (digitsOf n).length ≤ k ↔ n < 10 ^ k := by
  unfold digitsOf
  split
  · next hn =>
      rw [hn, List.length_singleton]
      exact iff_of_true hk (Nat.pow_pos (by norm_num))
  · rw [List.length_reverse, List.length_map, Nat.digits_length_le_iff (by norm_num)]

/-- What an integer is written as denotes it. -/
theorem denotes_decimal (z : Int) : Denotes (decimal z) z := by
  have hdigits := digitsOf_digits z.natAbs
  unfold decimal
  split
  · next hneg =>
      have h := Denotes.neg hdigits
      rwa [value_digitsOf, show -((z.natAbs : Nat) : Int) = z by omega] at h
  · next hnonneg =>
      have h := Denotes.nonneg hdigits
      rwa [value_digitsOf, show ((z.natAbs : Nat) : Int) = z by omega] at h

/-- Nothing but digits and a minus sign stands in a numeral. -/
theorem Denotes.not_mem {s : List UInt8} {z : Int} (h : Denotes s z) {c : UInt8}
    (hdigit : isDigit c = false) (hminus : c ≠ minus) : c ∉ s := by
  intro hc
  cases h with
  | nonneg h =>
      rw [h.all c hc] at hdigit
      exact absurd hdigit (by simp)
  | neg h =>
      rcases List.mem_cons.1 hc with heq | hc
      · exact hminus heq
      · rw [h.all c hc] at hdigit
        exact absurd hdigit (by simp)

/-! ## The scan -/

/-- A sign at the start, if there is one, and what follows. -/
def scanSign : List UInt8 → Bool × List UInt8
  | [] => (false, [])
  | c :: s => if c = minus then (true, s) else if c = plus then (false, s) else (false, c :: s)

/-- The integer `s` begins with, when there is one. -/
def scan (s : List UInt8) : Option Int :=
  let (negative, s) := scanSign (s.dropWhile isSpace)
  let digits := s.takeWhile isDigit
  if digits = [] then none
  else some (if negative then -(value digits : Int) else value digits)

/-- `s` begins with a numeral of `z`, after blanks and maybe a sign; no further digit follows it. -/
inductive Begins : List UInt8 → Int → Prop
  | unsigned {blanks digits rest : List UInt8} (hblanks : ∀ c ∈ blanks, isSpace c = true)
      (h : Digits digits) (hrest : ∀ c ∈ rest.head?, isDigit c = false) :
      Begins (blanks ++ (digits ++ rest)) (value digits)
  | positive {blanks digits rest : List UInt8} (hblanks : ∀ c ∈ blanks, isSpace c = true)
      (h : Digits digits) (hrest : ∀ c ∈ rest.head?, isDigit c = false) :
      Begins (blanks ++ (plus :: (digits ++ rest))) (value digits)
  | negative {blanks digits rest : List UInt8} (hblanks : ∀ c ∈ blanks, isSpace c = true)
      (h : Digits digits) (hrest : ∀ c ∈ rest.head?, isDigit c = false) :
      Begins (blanks ++ (minus :: (digits ++ rest))) (-(value digits))

theorem dropWhile_blanks {blanks : List UInt8} (hblanks : ∀ c ∈ blanks, isSpace c = true)
    {c : UInt8} (hc : isSpace c = false) (s : List UInt8) :
    (blanks ++ c :: s).dropWhile isSpace = c :: s := by
  rw [List.dropWhile_append_of_pos hblanks, List.dropWhile_cons_of_neg (by simp [hc])]

theorem takeWhile_digits {digits rest : List UInt8} (h : Digits digits)
    (hrest : ∀ c ∈ rest.head?, isDigit c = false) :
    (digits ++ rest).takeWhile isDigit = digits := by
  rw [List.takeWhile_append_of_pos h.all]
  cases rest with
  | nil => simp
  | cons c rest => simp [hrest c rfl]

/-- The scan from a character on that is neither a blank nor a sign. -/
theorem scanSign_of_digit {c : UInt8} (hc : isDigit c = true) (s : List UInt8) :
    scanSign (c :: s) = (false, c :: s) := by
  have hminus : c ≠ minus := by
    intro heq
    rw [heq] at hc
    exact absurd hc (by decide)
  have hplus : c ≠ plus := by
    intro heq
    rw [heq] at hc
    exact absurd hc (by decide)
  rw [scanSign, if_neg hminus, if_neg hplus]

theorem scan_of_begins {s : List UInt8} {z : Int} (h : Begins s z) : scan s = some z := by
  cases h with
  | @unsigned blanks digits rest hblanks h hrest =>
      have hdigits := takeWhile_digits h hrest
      obtain ⟨c, digits, rfl⟩ := List.exists_cons_of_ne_nil h.nonempty
      have hc := h.all c List.mem_cons_self
      rw [List.cons_append] at hdigits ⊢
      simp only [scan, dropWhile_blanks hblanks (not_isSpace_of_isDigit hc), scanSign_of_digit hc,
        hdigits]
      rfl
  | @positive blanks digits rest hblanks h hrest =>
      have hsign : scanSign (plus :: (digits ++ rest)) = (false, digits ++ rest) := rfl
      simp only [scan, dropWhile_blanks hblanks (c := plus) rfl, hsign, takeWhile_digits h hrest,
        if_neg h.nonempty]
      rfl
  | @negative blanks digits rest hblanks h hrest =>
      have hsign : scanSign (minus :: (digits ++ rest)) = (true, digits ++ rest) := rfl
      simp only [scan, dropWhile_blanks hblanks (c := minus) rfl, hsign, takeWhile_digits h hrest,
        if_neg h.nonempty]
      rfl

/-- The digits a string begins with, and what follows them. -/
theorem digits_of_takeWhile {s : List UInt8} (h : s.takeWhile isDigit ≠ []) :
    Digits (s.takeWhile isDigit) ∧ ∀ c ∈ (s.dropWhile isDigit).head?, isDigit c = false := by
  refine ⟨⟨h, fun c => List.mem_takeWhile_imp⟩, fun c hc => ?_⟩
  have hnot := List.head?_dropWhile_not isDigit s
  rw [Option.mem_def.1 hc] at hnot
  simpa using hnot

/-- What `scanSign` may find. -/
theorem scanSign_cases (s : List UInt8) :
    scanSign s = (false, s) ∨ (∃ tail, s = plus :: tail ∧ scanSign s = (false, tail)) ∨
      ∃ tail, s = minus :: tail ∧ scanSign s = (true, tail) := by
  cases s with
  | nil => exact Or.inl rfl
  | cons c tail =>
      rw [scanSign]
      by_cases hminus : c = minus
      · rw [if_pos hminus]
        exact Or.inr (Or.inr ⟨tail, by rw [hminus], rfl⟩)
      · rw [if_neg hminus]
        by_cases hplus : c = plus
        · rw [if_pos hplus]
          exact Or.inr (Or.inl ⟨tail, by rw [hplus], rfl⟩)
        · rw [if_neg hplus]
          exact Or.inl rfl

theorem begins_of_scan {s : List UInt8} {z : Int} (h : scan s = some z) : Begins s z := by
  have hblanks : ∀ c ∈ s.takeWhile isSpace, isSpace c = true := fun c => List.mem_takeWhile_imp
  rw [← List.takeWhile_append_dropWhile (p := isSpace) (l := s)]
  unfold scan at h
  generalize s.dropWhile isSpace = tail at h ⊢
  by_cases hnone : (scanSign tail).2.takeWhile isDigit = []
  · simp only [if_pos hnone, reduceCtorEq] at h
  · obtain ⟨hdigits, hrest⟩ := digits_of_takeWhile hnone
    simp only [if_neg hnone, Option.some.injEq] at h
    have hsplit := List.takeWhile_append_dropWhile (p := isDigit) (l := (scanSign tail).2)
    rcases scanSign_cases tail with hsign | ⟨tail', rfl, hsign⟩ | ⟨tail', rfl, hsign⟩
    · rw [hsign] at h hdigits hrest hsplit
      have hbegins := Begins.unsigned hblanks hdigits hrest
      rw [hsplit] at hbegins
      rw [← h]
      exact hbegins
    · rw [hsign] at h hdigits hrest hsplit
      have hbegins := Begins.positive hblanks hdigits hrest
      rw [hsplit] at hbegins
      rw [← h]
      exact hbegins
    · rw [hsign] at h hdigits hrest hsplit
      have hbegins := Begins.negative hblanks hdigits hrest
      rw [hsplit] at hbegins
      rw [← h]
      exact hbegins

theorem scan_eq_some_iff (s : List UInt8) (z : Int) : scan s = some z ↔ Begins s z :=
  ⟨begins_of_scan, scan_of_begins⟩

/-- A numeral begins with itself. -/
theorem Denotes.begins {s : List UInt8} {z : Int} (h : Denotes s z) : Begins s z := by
  cases h with
  | nonneg h =>
      have hbegins := @Begins.unsigned [] s [] (by simp) h (by simp)
      rwa [List.nil_append, List.append_nil] at hbegins
  | @neg digits h =>
      have hbegins := @Begins.negative [] digits [] (by simp) h (by simp)
      rwa [List.nil_append, List.append_nil] at hbegins

end Numerals
