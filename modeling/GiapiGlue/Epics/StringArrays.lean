import GiapiGlue.Epics.UpdateGrammar

set_option autoImplicit false

/-! # String arrays

A string array is kept as its strings one after the other, each up to its first NUL, with nothing that
tells where one starts. The scan for an element steps over as many terminators as its index, which is
where the packing put the element. -/

namespace Giapi

open BytesMessage ByteReader
open JmsStringEpicsBuilder (cstr)

/-- An update of a string channel. -/
def EpicsUpdate.ofStrings (name : CxxString) (strings : List CxxString) : EpicsUpdate :=
  { type := .string, name, values := strings.map EpicsValue.string }

namespace EpicsStatusItem

/-- The strings are what the indices of the item lead to, as far as a C string goes, and no other index
    leads anywhere. -/
structure HoldsStrings (strings : List CxxString) (item : EpicsStatusItem) : Prop where
  count : item.getCount.toInt = strings.length
  element : ∀ (i : Nat) (hi : i < strings.length),
    item.getDataAsString (BitVec.ofNat 32 i) = .ok (strings[i].takeWhile (· ≠ 0))
  whole : ∀ (i : Nat) (hi : i < strings.length), 0 ∉ strings[i] →
    item.getDataAsString (BitVec.ofNat 32 i) = .ok strings[i]
  outside : ∀ index : CInt, index.toInt < 0 ∨ (strings.length : Int) ≤ index.toInt →
    ∃ complaint, item.getDataAsString index = .error (.invalidOperation complaint)

/-! ## Scanning what was packed -/

/-- The bytes of packed strings. -/
def packed (strings : List CxxString) : Block := Block.ofBytes (strings.flatMap cstr)

theorem packed_cons (val : CxxString) (strings : List CxxString) :
    packed (val :: strings) = Block.ofBytes (cstr val) ++ packed strings := by
  rw [packed, List.flatMap_cons, Block.ofBytes_append, packed]

theorem cstr_cons_of_ne {c : UInt8} (h : c ≠ 0) (val : CxxString) :
    cstr (c :: val) = c :: cstr val := by
  simp [cstr, h]

/-- The scan of a string ends at the terminator the packing put there. -/
theorem cString_cstr (val : CxxString) (rest : Block) :
    cString (Block.ofBytes (cstr val) ++ rest) = .ok (val.takeWhile (· ≠ 0)) := by
  induction val with
  | nil => rfl
  | cons c val ih =>
      by_cases hc : c = 0
      · subst hc
        rfl
      · rw [cstr_cons_of_ne hc, List.takeWhile_cons_of_pos (by simpa using hc)]
        show cString (some c :: (Block.ofBytes (cstr val) ++ rest)) = _
        rw [cString, if_neg hc, ih]
        rfl

/-- Stepping over one string. -/
theorem drop_cstr (val : CxxString) (rest : Block) :
    (Block.ofBytes (cstr val) ++ rest).drop ((val.takeWhile (· ≠ 0)).length + 1) = rest := by
  have hlen : (Block.ofBytes (cstr val)).length = (val.takeWhile (· ≠ 0)).length + 1 := by
    rw [Block.length_ofBytes, cstr, List.length_append, List.length_singleton]
  rw [← hlen, List.drop_left]

/-- Stepping over `n` strings leaves the packed others: no byte behind the last terminator is read. -/
theorem skipStrings_packed {n : Nat} {strings : List CxxString} (h : n ≤ strings.length) :
    skipStrings n (packed strings) = .ok (packed (strings.drop n)) := by
  induction n generalizing strings with
  | zero => rfl
  | succ n ih =>
      cases strings with
      | nil => exact absurd h (by simp)
      | cons val strings =>
          rw [packed_cons, skipStrings, cString_cstr]
          show skipStrings n ((Block.ofBytes (cstr val) ++ packed strings).drop _) = _
          rw [drop_cstr, List.drop_succ_cons]
          exact ih (by simpa using h)

/-! ## Indexing -/

theorem toInt_ofNat_of_lt {i : Nat} (h : i < 2 ^ 31) : (BitVec.ofNat 32 i).toInt = i := by
  rw [BitVec.toInt_eq_toNat_of_lt (by rw [BitVec.toNat_ofNat]; omega), BitVec.toNat_ofNat]
  omega

section Indexing

variable {item : EpicsStatusItem} {strings : List CxxString}

theorem getDataAsString_of_packed (htype : item.type = .string)
    (hcount : item.nElements.toInt = strings.length) (hdata : item.data = packed strings) {i : Nat}
    (hi : i < strings.length) :
    item.getDataAsString (BitVec.ofNat 32 i) = .ok (strings[i].takeWhile (· ≠ 0)) := by
  have hlimit : item.nElements.toInt < 2 ^ 31 := BitVec.toInt_lt
  have hindex := toInt_ofNat_of_lt (i := i) (by omega)
  have hvalid : item.validateIndex (BitVec.ofNat 32 i) = .ok () := by
    rw [validateIndex, hindex, if_neg (by omega)]
  rw [getDataAsString, if_neg (by simp [htype]), hvalid, hindex, Int.toNat_natCast, hdata]
  show (do
    let data ← skipStrings i (packed strings)
    cString data) = _
  rw [skipStrings_packed (Nat.le_of_lt hi), ← List.cons_getElem_drop_succ (h := hi), packed_cons]
  exact cString_cstr strings[i] _

theorem getDataAsString_outside (htype : item.type = .string) {index : CInt}
    (h : index.toInt < 0 ∨ item.nElements.toInt ≤ index.toInt) :
    ∃ complaint, item.getDataAsString index = .error (.invalidOperation complaint) := by
  rw [getDataAsString, if_neg (by simp [htype]), validateIndex, if_pos h.symm]
  exact ⟨_, rfl⟩

theorem holdsStrings_of_packed (htype : item.type = .string)
    (hcount : item.nElements.toInt = strings.length) (hdata : item.data = packed strings) :
    item.HoldsStrings strings where
  count := hcount
  element := fun i hi => getDataAsString_of_packed htype hcount hdata hi
  whole := by
    intro i hi hnul
    have hall : strings[i].takeWhile (· ≠ 0) = strings[i] := by
      rw [List.takeWhile_eq_self_iff]
      intro c hc
      simpa using fun hzero : c = 0 => hnul (hzero ▸ hc)
    rw [getDataAsString_of_packed htype hcount hdata hi, hall]
  outside := fun index h => getDataAsString_outside htype (by rwa [hcount])

end Indexing

end EpicsStatusItem

namespace JmsEpicsFactory

theorem flatMap_memory_string (strings : List CxxString) :
    (strings.map EpicsValue.string).flatMap EpicsValue.memory = strings.flatMap cstr := by
  rw [List.flatMap_map]
  rfl

/-- **String arrays.** From a message that holds an update of a string channel an item is built in which
    every string is found at its index, up to its first NUL, and nothing at any other index. -/
theorem strings_survive {message : BytesMessage} {name : CxxString} {strings : List CxxString}
    {rest : List UInt8} (h : EpicsUpdate.update.run message.content
      = .ok (EpicsUpdate.ofStrings name strings, rest)) :
    ∃ item, buildEpicsStatusItem message = .ok (some item) ∧ item.name = name ∧
      item.HoldsStrings strings := by
  obtain ⟨count, mid, hheader, helements⟩ := update_run_inv h
  have hmid : mid.length ≤ message.content.length :=
    shrinks_chooseBuilder _ _ _ (chooseBuilder_of_header_ok hheader)
  have hfits := message.fits
  have hexact : ElementsExactly ⟨.string, name, count⟩ mid :=
    (elementsExactly_string name count (by omega)).2
      ⟨nonneg_of_elements helements, fun h => absurd rfl h.1, _, _, helements⟩
  rw [build_of_header_ok hheader]
  dsimp only [EpicsUpdate.ofStrings] at helements ⊢
  rw [ElementsExactly] at hexact
  cases hrun : (JmsEpicsBuilder.getEpicsStatusItem ⟨.string, name, count⟩).run mid with
  | error e =>
      rw [hrun] at hexact
      exact hexact.elim
  | ok x =>
      obtain ⟨item, rest'⟩ := x
      rw [hrun] at hexact
      obtain ⟨values, rest'', hvalues, hname, htype, hcount, hdata⟩ := hexact
      -- the builder reads the strings the grammar reads
      obtain rfl : strings.map EpicsValue.string = values :=
        congrArg Prod.fst (Except.ok.inj (helements.symm.trans hvalues))
      rw [List.length_map] at hcount
      rw [flatMap_memory_string] at hdata
      exact ⟨item, rfl, hname, EpicsStatusItem.holdsStrings_of_packed htype hcount hdata⟩

/-- An update of `a` with three strings: one with a NUL in it, an empty one and one after them. -/
def threeStrings : BytesMessage where
  content := [0, 0, 1, 97, 0, 0, 0, 3, 0, 4, 98, 0xC0, 0x80, 99, 0, 0, 0, 2, 100, 101]
  fits := by decide

theorem threeStrings_survive :
    ∃ item, buildEpicsStatusItem threeStrings = .ok (some item) ∧ item.name = str "a" ∧
      item.HoldsStrings [[98, 0, 99], [], str "de"] := by
  have h : EpicsUpdate.update.run threeStrings.content
      = .ok (EpicsUpdate.ofStrings (str "a") [[98, 0, 99], [], str "de"], []) := by
    decide
  exact strings_survive h

end JmsEpicsFactory

end Giapi
