import GiapiGlue.Lib.Ledger

set_option autoImplicit false

/-! # Estates

Objects of several kinds are built and end, each with resources of its own. An *estate* numbers them in the
order they are built, and keeps one ledger for all of them. `Lives` says what the lines of an object of a kind
may be while it stands and after it has ended; `Kept` says that they are so in an estate, for a given set of
standing objects. An object can also go on with more lines while it stands. -/

/-! ## The lines of one object -/

/-- The line, if it is about the object with number `n`. -/
def LedgerEntry.untag {ρ : Type} (n : Nat) : LedgerEntry (Nat × ρ) → Option (LedgerEntry ρ)
  | .acquired (m, r) => if m = n then some (.acquired r) else none
  | .released (m, r) => if m = n then some (.released r) else none

namespace Ledger

variable {ρ : Type}

/-- The lines about the object with number `n`. -/
def lines (n : Nat) (ledger : Ledger (Nat × ρ)) : Ledger ρ := ledger.filterMap (LedgerEntry.untag n)

@[simp] theorem lines_nil (n : Nat) : lines n ([] : Ledger (Nat × ρ)) = [] := rfl

@[simp] theorem lines_append (n : Nat) (xs ys : Ledger (Nat × ρ)) :
    lines n (xs ++ ys) = lines n xs ++ lines n ys :=
  List.filterMap_append

theorem lines_tag_self (n : Nat) (ledger : Ledger ρ) : lines n (tag n ledger) = ledger := by
  induction ledger with
  | nil => rfl
  | cons entry ledger ih =>
      have hhead : LedgerEntry.untag n (LedgerEntry.tag n entry) = some entry := by
        cases entry <;> simp [LedgerEntry.untag, LedgerEntry.tag]
      change (LedgerEntry.tag n entry :: tag n ledger).filterMap (LedgerEntry.untag n) = _
      rw [List.filterMap_cons_some hhead]
      exact congrArg (entry :: ·) ih

theorem lines_tag_of_ne {n m : Nat} (h : m ≠ n) (ledger : Ledger ρ) : lines n (tag m ledger) = [] := by
  induction ledger with
  | nil => rfl
  | cons entry ledger ih =>
      have hhead : LedgerEntry.untag n (LedgerEntry.tag m entry) = none := by
        cases entry <;> simp [LedgerEntry.untag, LedgerEntry.tag, h]
      change (LedgerEntry.tag m entry :: tag m ledger).filterMap (LedgerEntry.untag n) = _
      rw [List.filterMap_cons_none hhead]
      exact ih

variable [DecidableEq ρ]

/-- Whenever `parent` is released, every `child` there ever is has been released before. -/
def Outlives (parent child : ρ) (ledger : Ledger ρ) : Prop :=
  ∀ i < ledger.length, ledger[i]? = some (.released parent) →
    (ledger.take i).count (.released child) = ledger.count (.acquired child)

instance (parent child : ρ) (ledger : Ledger ρ) : Decidable (ledger.Outlives parent child) :=
  inferInstanceAs (Decidable (∀ i < ledger.length, _ → _))

end Ledger

/-! ## Estates -/

/-- The kinds of the objects built so far; the index is the number. -/
structure Estate (κ ρ : Type) where
  objects : List κ
  ledger : Ledger (Nat × ρ)

/-- What the lines of an object are, by its kind. -/
structure Lives (κ ρ : Type) where
  /-- While it stands, by its number. -/
  begun : Nat → κ → Ledger ρ → Prop
  /-- After it has ended, or could not be built. -/
  ended : κ → Ledger ρ → Prop
  /-- The lines of its end, by those it has until then. -/
  ending : κ → Ledger ρ → Ledger ρ
  ends : ∀ n kind lines, begun n kind lines → ended kind (lines ++ ending kind lines)

namespace Estate

variable {κ ρ ε : Type}

def empty : Estate κ ρ := { objects := [], ledger := [] }

def lines (n : Nat) (estate : Estate κ ρ) : Ledger ρ := estate.ledger.lines n

/-- One more object, with the lines of its construction. -/
def build (kind : κ) (lines : Ledger ρ) (estate : Estate κ ρ) : Estate κ ρ :=
  { objects := estate.objects ++ [kind]
    ledger := estate.ledger ++ lines.tag estate.objects.length }

/-- An object goes on with more lines, by its kind and the lines it has. -/
def extend (more : κ → Ledger ρ → Ledger ρ) (estate : Estate κ ρ) (n : Nat) : Estate κ ρ :=
  match estate.objects[n]? with
  | none => estate
  | some kind => { estate with ledger := estate.ledger ++ (more kind (estate.lines n)).tag n }

/-- Several objects go on, in this order. -/
def extendAll (more : κ → Ledger ρ → Ledger ρ) (ns : List Nat) (estate : Estate κ ρ) : Estate κ ρ :=
  ns.foldl (extend more) estate

/-- Objects are built one after the other. If one fails, those before it end, the latest first. -/
def buildAll (construct : κ → Except ε Unit × Ledger ρ) (ending : κ → Ledger ρ → Ledger ρ) :
    List κ → Estate κ ρ → Except ε (List Nat) × Estate κ ρ
  | [], estate => (.ok [], estate)
  | kind :: kinds, estate =>
    match construct kind with
    | (.error e, lines) => (.error e, estate.build kind lines)
    | (.ok (), lines) =>
      match buildAll construct ending kinds (estate.build kind lines) with
      | (.error e, after) => (.error e, after.extend ending estate.objects.length)
      | (.ok ns, after) => (.ok (estate.objects.length :: ns), after)

@[simp] theorem objects_build (kind : κ) (lines : Ledger ρ) (estate : Estate κ ρ) :
    (estate.build kind lines).objects = estate.objects ++ [kind] := rfl

@[simp] theorem objects_extend (more : κ → Ledger ρ → Ledger ρ) (estate : Estate κ ρ) (n : Nat) :
    (estate.extend more n).objects = estate.objects := by
  unfold extend
  split <;> rfl

@[simp] theorem objects_extendAll (more : κ → Ledger ρ → Ledger ρ) (ns : List Nat) (estate : Estate κ ρ) :
    (estate.extendAll more ns).objects = estate.objects := by
  induction ns generalizing estate with
  | nil => rfl
  | cons n ns ih => exact (ih _).trans (objects_extend more estate n)

theorem lines_build (n : Nat) (kind : κ) (lines : Ledger ρ) (estate : Estate κ ρ) :
    (estate.build kind lines).lines n
      = estate.lines n ++ if n = estate.objects.length then lines else [] := by
  unfold build Estate.lines
  rw [Ledger.lines_append]
  split_ifs with h
  · rw [h, Ledger.lines_tag_self]
  · rw [Ledger.lines_tag_of_ne (Ne.symm h)]

theorem lines_extend (more : κ → Ledger ρ → Ledger ρ) (estate : Estate κ ρ) (n : Nat) {m : Nat} {kind : κ}
    (hm : estate.objects[m]? = some kind) : (estate.extend more m).lines n
      = estate.lines n ++ if n = m then more kind (estate.lines m) else [] := by
  unfold extend
  rw [hm]
  unfold Estate.lines
  dsimp only
  rw [Ledger.lines_append]
  split_ifs with h
  · rw [h, Ledger.lines_tag_self]
  · rw [Ledger.lines_tag_of_ne (Ne.symm h)]

theorem lines_extend_of_ne (more : κ → Ledger ρ → Ledger ρ) (estate : Estate κ ρ) {n m : Nat} (h : n ≠ m) :
    (estate.extend more m).lines n = estate.lines n := by
  cases hm : estate.objects[m]? with
  | none =>
      unfold extend
      rw [hm]
  | some kind => rw [lines_extend more estate n hm, if_neg h, List.append_nil]

theorem lines_extendAll_of_notMem (more : κ → Ledger ρ → Ledger ρ) {ns : List Nat} (estate : Estate κ ρ)
    {n : Nat} (hn : n ∉ ns) : (estate.extendAll more ns).lines n = estate.lines n := by
  induction ns generalizing estate with
  | nil => rfl
  | cons m ns ih =>
      have hrest := ih (estate.extend more m) fun h => hn (List.mem_cons_of_mem _ h)
      exact hrest.trans (lines_extend_of_ne more estate (List.ne_of_not_mem_cons hn))

/-- Each goes on once. -/
theorem lines_extendAll_of_mem (more : κ → Ledger ρ → Ledger ρ) {ns : List Nat} (hnodup : ns.Nodup)
    (estate : Estate κ ρ) {n : Nat} (hn : n ∈ ns) {kind : κ} (hkind : estate.objects[n]? = some kind) :
    (estate.extendAll more ns).lines n = estate.lines n ++ more kind (estate.lines n) := by
  induction ns generalizing estate with
  | nil => exact absurd hn List.not_mem_nil
  | cons m ns ih =>
      obtain ⟨hm, hrest⟩ := List.nodup_cons.1 hnodup
      rcases List.mem_cons.1 hn with rfl | hn
      · have hlater := lines_extendAll_of_notMem more (estate.extend more n) hm
        rw [lines_extend more estate n hkind, if_pos rfl] at hlater
        exact hlater
      · have hlater := ih hrest (estate.extend more m) hn (by rw [objects_extend, hkind])
        have hne : n ≠ m := fun h => hm (h ▸ hn)
        rw [lines_extend_of_ne more estate hne] at hlater
        exact hlater

/-! ## Kept estates -/

/-- The lines of the objects are as `lives` says, for these standing objects. -/
structure Kept (lives : Lives κ ρ) (standing : Set Nat) (estate : Estate κ ρ) : Prop where
  known : ∀ n ∈ standing, n < estate.objects.length
  begun : ∀ n kind, estate.objects[n]? = some kind → n ∈ standing → lives.begun n kind (estate.lines n)
  ended : ∀ n kind, estate.objects[n]? = some kind → n ∉ standing → lives.ended kind (estate.lines n)
  blank : ∀ n, estate.objects.length ≤ n → estate.lines n = []

variable {lives : Lives κ ρ} {standing : Set Nat} {estate : Estate κ ρ}

theorem kept_empty : Kept lives ∅ (empty : Estate κ ρ) where
  known := fun _ h => h.elim
  begun := fun _ _ _ h => h.elim
  ended := fun n kind h => by simp [empty] at h
  blank := fun _ _ => rfl

theorem getElem?_concat {objects : List κ} {kind other : κ} {n : Nat}
    (h : (objects ++ [kind])[n]? = some other) :
    objects[n]? = some other ∧ n ≠ objects.length ∨ n = objects.length ∧ kind = other := by
  rcases lt_trichotomy n objects.length with hlt | heq | hgt
  · rw [List.getElem?_append_left hlt] at h
    exact Or.inl ⟨h, hlt.ne⟩
  · subst heq
    exact Or.inr ⟨rfl, by simpa using h⟩
  · rw [List.getElem?_eq_none (by simp; omega)] at h
    cases h

/-- An object that could not be built has ended at once. -/
theorem Kept.build_ended (h : estate.Kept lives standing) {kind : κ} {lines : Ledger ρ}
    (hlines : lives.ended kind lines) : (estate.build kind lines).Kept lives standing := by
  constructor
  · intro n hn
    have := h.known n hn
    simp only [objects_build, List.length_append, List.length_singleton]
    omega
  · intro n other hother hn
    rcases getElem?_concat hother with ⟨hold, hne⟩ | ⟨rfl, -⟩
    · rw [lines_build, if_neg hne, List.append_nil]
      exact h.begun n other hold hn
    · exact absurd (h.known _ hn) (lt_irrefl _)
  · intro n other hother hn
    rcases getElem?_concat hother with ⟨hold, hne⟩ | ⟨rfl, rfl⟩
    · rw [lines_build, if_neg hne, List.append_nil]
      exact h.ended n other hold hn
    · rw [lines_build, if_pos rfl, h.blank _ le_rfl]
      exact hlines
  · intro n hn
    simp only [objects_build, List.length_append, List.length_singleton] at hn
    rw [lines_build, if_neg (by omega), h.blank n (by omega)]
    rfl

theorem Kept.build_begun (h : estate.Kept lives standing) {kind : κ} {lines : Ledger ρ}
    (hlines : lives.begun estate.objects.length kind lines) :
    (estate.build kind lines).Kept lives (insert estate.objects.length standing) := by
  constructor
  · intro n hn
    simp only [objects_build, List.length_append, List.length_singleton]
    rcases hn with rfl | hn
    · omega
    · have := h.known n hn
      omega
  · intro n other hother hn
    rcases getElem?_concat hother with ⟨hold, hne⟩ | ⟨rfl, rfl⟩
    · rw [lines_build, if_neg hne, List.append_nil]
      exact h.begun n other hold (hn.resolve_left hne)
    · rw [lines_build, if_pos rfl, h.blank _ le_rfl]
      exact hlines
  · intro n other hother hn
    rcases getElem?_concat hother with ⟨hold, hne⟩ | ⟨rfl, -⟩
    · rw [lines_build, if_neg hne, List.append_nil]
      exact h.ended n other hold fun hstanding => hn (Or.inr hstanding)
    · exact absurd (Or.inl rfl) hn
  · intro n hn
    simp only [objects_build, List.length_append, List.length_singleton] at hn
    rw [lines_build, if_neg (by omega), h.blank n (by omega)]
    rfl

theorem Kept.extend_ending (h : estate.Kept lives standing) {n : Nat} (hn : n ∈ standing) :
    (estate.extend lives.ending n).Kept lives (standing \ {n}) := by
  obtain ⟨kind, hkind⟩ : ∃ kind, estate.objects[n]? = some kind :=
    ⟨_, List.getElem?_eq_getElem (h.known n hn)⟩
  constructor
  · intro m hm
    rw [objects_extend]
    exact h.known m hm.1
  · intro m other hother hm
    rw [objects_extend] at hother
    have hne : m ≠ n := hm.2
    rw [lines_extend _ _ _ hkind, if_neg hne, List.append_nil]
    exact h.begun m other hother hm.1
  · intro m other hother hm
    rw [objects_extend] at hother
    rw [lines_extend _ _ _ hkind]
    split_ifs with heq
    · subst heq
      obtain rfl : kind = other := Option.some.inj (hkind.symm.trans hother)
      exact lives.ends m kind _ (h.begun m kind hother hn)
    · rw [List.append_nil]
      exact h.ended m other hother fun hstanding => hm ⟨hstanding, heq⟩
  · intro m hm
    rw [objects_extend] at hm
    have hlt := h.known n hn
    rw [lines_extend _ _ _ hkind, if_neg (by omega), h.blank m hm]
    rfl

/-- Standing objects end, each once. -/
theorem Kept.extendAll_ending (h : estate.Kept lives standing) {ns : List Nat} (hnodup : ns.Nodup)
    (hns : ∀ n ∈ ns, n ∈ standing) :
    (estate.extendAll lives.ending ns).Kept lives (standing \ {n | n ∈ ns}) := by
  induction ns generalizing estate standing with
  | nil =>
      have hsame : standing \ {n | n ∈ ([] : List Nat)} = standing := by simp
      rw [hsame]
      exact h
  | cons n ns ih =>
      obtain ⟨hn, hrest⟩ := List.nodup_cons.1 hnodup
      have hone := h.extend_ending (hns n List.mem_cons_self)
      have hstill : ∀ m ∈ ns, m ∈ standing \ {n} := fun m hm =>
        ⟨hns m (List.mem_cons_of_mem _ hm), fun heq => hn (heq ▸ hm)⟩
      have hall := ih hone hrest hstill
      have hset : (standing \ {n}) \ {m | m ∈ ns} = standing \ {m | m ∈ n :: ns} := by
        ext m
        simp [and_assoc]
      rwa [hset] at hall

/-- All objects go on, those that stand and those that have ended. -/
theorem Kept.extendAll (h : estate.Kept lives standing) {later : Lives κ ρ} {more : κ → Ledger ρ → Ledger ρ}
    (hbegun : ∀ n < estate.objects.length, ∀ kind lines, lives.begun n kind lines →
      later.begun n kind (lines ++ more kind lines))
    (hended : ∀ kind lines, lives.ended kind lines → later.ended kind (lines ++ more kind lines)) :
    (estate.extendAll more (List.range estate.objects.length)).Kept later standing := by
  have hlines : ∀ n kind, estate.objects[n]? = some kind →
      n < estate.objects.length ∧ (estate.extendAll more (List.range estate.objects.length)).lines n
        = estate.lines n ++ more kind (estate.lines n) := by
    intro n kind hkind
    have hlt := (List.getElem?_eq_some_iff.1 hkind).1
    exact ⟨hlt, lines_extendAll_of_mem more List.nodup_range estate (List.mem_range.2 hlt) hkind⟩
  constructor
  · intro n hn
    rw [objects_extendAll]
    exact h.known n hn
  · intro n kind hkind hn
    rw [objects_extendAll] at hkind
    obtain ⟨hlt, heq⟩ := hlines n kind hkind
    rw [heq]
    exact hbegun n hlt kind _ (h.begun n kind hkind hn)
  · intro n kind hkind hn
    rw [objects_extendAll] at hkind
    rw [(hlines n kind hkind).2]
    exact hended kind _ (h.ended n kind hkind hn)
  · intro n hn
    rw [objects_extendAll] at hn
    rw [lines_extendAll_of_notMem more estate (by simpa using hn)]
    exact h.blank n hn

/-! ## Building several objects -/

variable {construct : κ → Except ε Unit × Ledger ρ} {ending : κ → Ledger ρ → Ledger ρ}

/-- All were built, with the next numbers. -/
theorem buildAll_ok {kinds : List κ} {after : Estate κ ρ} {ns : List Nat}
    (h : buildAll construct ending kinds estate = (.ok ns, after)) :
    after.objects = estate.objects ++ kinds ∧ ns = List.range' estate.objects.length kinds.length := by
  induction kinds generalizing estate ns with
  | nil =>
      obtain ⟨hns, rfl⟩ := Prod.mk.inj h
      obtain rfl := Except.ok.inj hns
      exact ⟨(List.append_nil _).symm, rfl⟩
  | cons kind kinds ih =>
      unfold buildAll at h
      split at h
      · cases (Prod.mk.inj h).1
      · split at h
        · cases (Prod.mk.inj h).1
        · next rest after' hrest =>
            obtain ⟨hns, rfl⟩ := Prod.mk.inj h
            obtain rfl := Except.ok.inj hns
            obtain ⟨hobjects, rfl⟩ := ih hrest
            exact ⟨by simp [hobjects], by simp [List.range'_succ]⟩

theorem map_getElem?_range' (objects kinds : List κ) :
    (List.range' objects.length kinds.length).map (fun n => (objects ++ kinds)[n]?) = kinds.map some := by
  refine List.ext_getElem (by simp) fun i hi hi' => ?_
  rw [List.length_map] at hi'
  simp [hi']

/-- Whether all were built or not, the objects of before are there. -/
theorem objects_buildAll (kinds : List κ) (estate : Estate κ ρ) :
    estate.objects <+: (buildAll construct ending kinds estate).2.objects := by
  induction kinds generalizing estate with
  | nil => exact List.prefix_refl _
  | cons kind kinds ih =>
      unfold buildAll
      split
      · exact List.prefix_append _ _
      · next lines _ =>
          have hrest := (List.prefix_append _ _).trans (ih (estate.build kind lines))
          split
          · next e after heq =>
              rw [heq] at hrest
              simpa using hrest
          · next ns after heq => rwa [heq] at hrest

theorem Kept.buildAll (h : estate.Kept lives standing)
    (hok : ∀ n, estate.objects.length ≤ n → ∀ kind lines, construct kind = (.ok (), lines) →
      lives.begun n kind lines)
    (herror : ∀ kind e lines, construct kind = (.error e, lines) → lives.ended kind lines)
    (kinds : List κ) :
    (∀ e after, Estate.buildAll construct lives.ending kinds estate = (.error e, after) →
      after.Kept lives standing)
    ∧ ∀ ns after, Estate.buildAll construct lives.ending kinds estate = (.ok ns, after) →
      after.Kept lives (standing ∪ {n | n ∈ ns}) := by
  induction kinds generalizing estate standing with
  | nil =>
      refine ⟨fun e after heq => ?_, fun ns after heq => ?_⟩
      · cases (Prod.mk.inj heq).1
      · obtain ⟨hns, rfl⟩ := Prod.mk.inj heq
        obtain rfl := Except.ok.inj hns
        simpa using h
  | cons kind kinds ih =>
      unfold Estate.buildAll
      split
      · next e lines hconstruct =>
          refine ⟨fun e after heq => ?_, fun ns after heq => ?_⟩
          · obtain ⟨-, rfl⟩ := Prod.mk.inj heq
            exact h.build_ended (herror kind _ lines hconstruct)
          · cases (Prod.mk.inj heq).1
      · next lines hconstruct =>
          have hbegun := hok _ le_rfl kind lines hconstruct
          have hlater : ∀ n, (estate.build kind lines).objects.length ≤ n → ∀ kind lines,
              construct kind = (.ok (), lines) → lives.begun n kind lines := by
            intro n hn
            rw [objects_build, List.length_append] at hn
            exact hok n (by omega)
          obtain ⟨hfails, hbuilds⟩ := ih (h.build_begun hbegun) hlater
          split
          · next e after hrest =>
              refine ⟨fun e' after' heq => ?_, fun ns after' heq => ?_⟩
              · obtain ⟨-, rfl⟩ := Prod.mk.inj heq
                -- the object that was built first is the one that ends last
                have hend := (hfails e after hrest).extend_ending (Or.inl rfl)
                have hnew : estate.objects.length ∉ standing := fun hn => lt_irrefl _ (h.known _ hn)
                rwa [Set.insert_sdiff_self_of_notMem hnew] at hend
              · cases (Prod.mk.inj heq).1
          · next ns after hrest =>
              refine ⟨fun e after' heq => ?_, fun ns' after' heq => ?_⟩
              · cases (Prod.mk.inj heq).1
              · obtain ⟨hns, rfl⟩ := Prod.mk.inj heq
                obtain rfl := Except.ok.inj hns
                have hset : insert estate.objects.length standing ∪ {n | n ∈ ns}
                    = standing ∪ {n | n ∈ estate.objects.length :: ns} := by
                  ext n
                  simp only [Set.mem_union, Set.mem_insert_iff, Set.mem_ofPred_eq, List.mem_cons]
                  grind
                rw [← hset]
                exact hbuilds ns after hrest

end Estate
