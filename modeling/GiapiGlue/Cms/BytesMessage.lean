import GiapiGlue.Giapi
import GiapiGlue.Lib.Words
import GiapiGlue.Lib.ByteStream

set_option autoImplicit false

/-! # Typed reads and writes of a `BytesMessage`

What `ActiveMQBytesMessage` and the data streams under it do: words are written most significant byte
first, a string as a two-byte length and its bytes in (one- or two-byte) UTF-8. A read past the end
and a malformed string are `CMSException`s. -/

namespace Giapi

/-- A message body as received: ActiveMQ keeps its length in an `int`. -/
structure BytesMessage where
  content : List UInt8
  fits : content.length < 2 ^ 31

namespace BytesMessage

open Words

/-! ## Reads -/

/-- The exception `readAllData` ends with at the end of the body. -/
def eofException : Exn := .cmsException (str "DataInputStream::readLong - Reached EOF")

/-- A `w`-bit word in `k` bytes. -/
def readWord (w k : Nat) : ByteReader Exn (BitVec w) := do
  let bs ← ByteReader.take eofException k
  return ofBE w bs

def readByte : ByteReader Exn UInt8 := do
  let b ← readWord 8 1
  return UInt8.ofBitVec b

def readBoolean : ByteReader Exn Bool := do
  let b ← readByte
  return decide (b ≠ 0)

def readShort : ByteReader Exn CShort := readWord 16 2

def readUnsignedShort : ByteReader Exn CShort := readWord 16 2

def readInt : ByteReader Exn CInt := readWord 32 4

def readLong : ByteReader Exn Long64 := readWord 64 8

/-- The four bytes of an `int`, taken as a `float`. -/
def readFloat : ByteReader Exn CFloat := do
  let bits ← readInt
  return ⟨bits⟩

/-- The eight bytes of a `long`, taken as a `double`. -/
def readDouble : ByteReader Exn CDouble := do
  let bits ← readLong
  return ⟨bits⟩

/-- The decoding loop of `readUTF`: characters above 255 and malformed sequences are refused. -/
def decodeUTF : List UInt8 → Except Exn CxxString
  | [] => .ok []
  | a :: rest =>
    if a < 0x80 then
      (a :: ·) <$> decodeUTF rest
    else if a &&& 0xE0 = 0xC0 then
      match rest with
      | [] => .error (.cmsException
          (str "Invalid UTF-8 encoding found, start of two byte char found at end."))
      | b :: rest' =>
        if b &&& 0xC0 ≠ 0x80 then
          .error (.cmsException
            (str "Invalid UTF-8 encoding found, byte two does not start with 0x80."))
        else if a &&& 0x1C ≠ 0 then
          .error (.cmsException (str ("Invalid 2 byte UTF-8 encoding found, " ++
            "This method only supports encoded ASCII values of (0-255).")))
        else
          (((a &&& 0x1F) <<< 6 ||| (b &&& 0x3F)) :: ·) <$> decodeUTF rest'
    else if a &&& 0xF0 = 0xE0 then
      if rest.length < 2 then
        .error (.cmsException
          (str "Invalid UTF-8 encoding found, start of three byte char found at end."))
      else
        .error (.cmsException (str ("Invalid 3 byte UTF-8 encoding found, " ++
          "This method only supports encoded ASCII values of (0-255).")))
    else
      .error (.cmsException (str "Invalid UTF-8 encoding found, aborting."))

def readUTF : ByteReader Exn CxxString := do
  let utfLength ← readUnsignedShort
  if utfLength.toNat = 0 then
    return []
  else
    let buffer ← ByteReader.take (.cmsException (str "Reached EOF")) utfLength.toNat
    decodeUTF buffer

/-- `readBytes(buffer, length)`: the count it returns and the bytes it leaves at the start of
    `buffer`, which are fewer than `length` at the end of the body. -/
def readBytes (length : Int) : ByteReader Exn (Int × List UInt8) := fun body =>
  if length < 0 then
    .error (.cmsException (str "Array length given was negative"))
  else
    let bs := body.take length.toNat
    let count : Int := if bs.length = 0 ∧ 0 < length then -1 else bs.length
    .ok ((count, bs), body.drop length.toNat)

/-! ## Writes -/

def writeByte (value : UInt8) : ByteWriter Exn Unit := ByteWriter.put [value]

def writeBoolean (value : Bool) : ByteWriter Exn Unit := ByteWriter.put [if value then 1 else 0]

def writeShort (value : CShort) : ByteWriter Exn Unit := ByteWriter.put (toBE 2 value)

def writeInt (value : CInt) : ByteWriter Exn Unit := ByteWriter.put (toBE 4 value)

def writeLong (value : Long64) : ByteWriter Exn Unit := ByteWriter.put (toBE 8 value)

def writeFloat (value : CFloat) : ByteWriter Exn Unit := writeInt value.bits

def writeDouble (value : CDouble) : ByteWriter Exn Unit := writeLong value.bits

/-- The first byte of the two-byte form of a character. -/
def utfLead (c : UInt8) : UInt8 := (0xc0 : UInt8) ||| ((0x1f : UInt8) &&& (c >>> 6))

/-- The second byte of the two-byte form of a character. -/
def utfTail (c : UInt8) : UInt8 := (0x80 : UInt8) ||| ((0x3f : UInt8) &&& c)

/-- The bytes `writeUTF` makes of one character. A `char` never exceeds 255, so the three-byte form
    of the source is out of reach. -/
def encodeUTFChar (c : UInt8) : List UInt8 :=
  if 0 < c ∧ c ≤ 127 then [c] else [utfLead c, utfTail c]

def countUTFLength (value : CxxString) : Nat :=
  value.foldl (fun utfCount c => if 0 < c ∧ c ≤ 127 then utfCount + 1 else utfCount + 2) 0

def writeUTF (value : CxxString) : ByteWriter Exn Unit :=
  if 65535 < countUTFLength value then
    throw (.cmsException (str ("Attempted to write a string as UTF-8 whose length is longer " ++
      "than the supported 65535 bytes")))
  else do
    ByteWriter.put (toBE 2 (BitVec.ofNat 16 (countUTFLength value)))
    ByteWriter.put (value.flatMap encodeUTFChar)

/-! ## What a write appends is what the read of its type consumes -/

section RoundTrip

open ByteReader ByteWriter

theorem reads_readWord {w k : Nat} (hk : w ≤ 8 * k) (x : BitVec w) :
    Reads (readWord w k) (toBE k x) x := by
  have h := (Reads.of_take eofException (length_toBE k x)).map (ofBE w)
  rwa [ofBE_toBE hk] at h

theorem reads_readByte (b : UInt8) : Reads readByte [b] b := by
  intro rest
  have hb : UInt8.ofBitVec (ofBE 8 [b]) = b := by
    apply UInt8.toNat_inj.1
    simp [ofBE, ofLE, natLE]
  simp [readByte, readWord, ByteReader.take, StateT.run, bind, StateT.bind, Except.bind, pure,
    StateT.pure, Except.pure, hb]

theorem reads_readBoolean (v : Bool) : Reads readBoolean [if v then 1 else 0] v := by
  have h := (reads_readByte (if v then 1 else 0)).map (fun b => decide (b ≠ 0))
  cases v <;> simpa [readBoolean] using h

theorem reads_readInt (x : CInt) : Reads readInt (toBE 4 x) x :=
  reads_readWord (by norm_num) x

theorem reads_readLong (x : Long64) : Reads readLong (toBE 8 x) x :=
  reads_readWord (by norm_num) x

theorem reads_readShort (x : CShort) : Reads readShort (toBE 2 x) x :=
  reads_readWord (by norm_num) x

theorem reads_readFloat (x : CFloat) : Reads readFloat (toBE 4 x.bits) x :=
  (reads_readInt x.bits).map (fun bits => (⟨bits⟩ : CFloat))

theorem reads_readDouble (x : CDouble) : Reads readDouble (toBE 8 x.bits) x :=
  (reads_readLong x.bits).map (fun bits => (⟨bits⟩ : CDouble))

theorem decodeUTF_one {a : UInt8} (ha : a < 0x80) (rest : List UInt8) :
    decodeUTF (a :: rest) = (a :: ·) <$> decodeUTF rest := by
  cases rest <;> simp [decodeUTF, ha]

theorem decodeUTF_two {a b : UInt8} (ha : ¬ a < 0x80) (hlead : a &&& 0xE0 = 0xC0)
    (hb : b &&& 0xC0 = 0x80) (hsmall : a &&& 0x1C = 0) (rest : List UInt8) :
    decodeUTF (a :: b :: rest)
      = (((a &&& 0x1F) <<< 6 ||| (b &&& 0x3F)) :: ·) <$> decodeUTF rest := by
  rw [decodeUTF]
  simp only [if_neg ha, if_pos hlead, hb, hsmall, ne_eq, not_true_eq_false, if_false]

/-- What the decoder tests of the two-byte form of a character, and what it puts together again. -/
theorem utfLead_utfTail (c : UInt8) :
    ¬ utfLead c < 0x80 ∧ utfLead c &&& 0xE0 = 0xC0 ∧ utfTail c &&& 0xC0 = 0x80 ∧
      utfLead c &&& 0x1C = 0 ∧ ((utfLead c &&& 0x1F) <<< 6 ||| (utfTail c &&& 0x3F)) = c := by
  have htable : ∀ n : Fin 256,
      ¬ utfLead (UInt8.ofNat n) < 0x80 ∧ utfLead (UInt8.ofNat n) &&& 0xE0 = 0xC0 ∧
        utfTail (UInt8.ofNat n) &&& 0xC0 = 0x80 ∧ utfLead (UInt8.ofNat n) &&& 0x1C = 0 ∧
        ((utfLead (UInt8.ofNat n) &&& 0x1F) <<< 6 ||| (utfTail (UInt8.ofNat n) &&& 0x3F))
          = UInt8.ofNat n := by
    decide +kernel
  have hc : UInt8.ofNat c.toNat = c := by simp
  have h := htable ⟨c.toNat, c.toNat_lt⟩
  rwa [hc] at h

/-- Every byte survives the one- or two-byte form it is written in. -/
theorem decodeUTF_encodeUTFChar (c : UInt8) (rest : List UInt8) :
    decodeUTF (encodeUTFChar c ++ rest) = (c :: ·) <$> decodeUTF rest := by
  by_cases hc : 0 < c ∧ c ≤ 127
  · have h80 : c < 0x80 := by
      have := UInt8.le_iff_toNat_le.1 hc.2
      exact UInt8.lt_iff_toNat_lt.2 (Nat.lt_succ_of_le this)
    rw [encodeUTFChar, if_pos hc, List.singleton_append, decodeUTF_one h80]
  · obtain ⟨h1, h2, h3, h4, h5⟩ := utfLead_utfTail c
    rw [encodeUTFChar, if_neg hc, List.cons_append, List.singleton_append,
      decodeUTF_two h1 h2 h3 h4, h5]

theorem decodeUTF_flatMap (s : CxxString) : decodeUTF (s.flatMap encodeUTFChar) = .ok s := by
  induction s with
  | nil => rfl
  | cons c s ih =>
      rw [List.flatMap_cons, decodeUTF_encodeUTFChar, ih]
      rfl

/-- `countUTFLength` counts the bytes `writeUTF` appends after the length. -/
theorem length_flatMap_encodeUTFChar (s : CxxString) :
    (s.flatMap encodeUTFChar).length = countUTFLength s := by
  have hfold : ∀ (s : CxxString) (n : Nat),
      s.foldl (fun utfCount c => if 0 < c ∧ c ≤ 127 then utfCount + 1 else utfCount + 2) n
        = n + (s.flatMap encodeUTFChar).length := by
    intro s
    induction s with
    | nil => intro n; rfl
    | cons c s ih =>
        intro n
        rw [List.foldl_cons, ih, List.flatMap_cons, List.length_append, encodeUTFChar]
        by_cases hc : 0 < c ∧ c ≤ 127
        · simp only [if_pos hc, List.length_singleton]; omega
        · simp only [if_neg hc, List.length_cons, List.length_nil]; omega
  rw [countUTFLength, hfold s 0, Nat.zero_add]

/-- The bytes of a string on the wire. -/
def utfBytes (s : CxxString) : List UInt8 :=
  toBE 2 (BitVec.ofNat 16 (countUTFLength s)) ++ s.flatMap encodeUTFChar

theorem writes_writeUTF {s : CxxString} (h : countUTFLength s ≤ 65535) :
    Writes (writeUTF s) (utfBytes s) := by
  rw [writeUTF, if_neg (by omega)]
  exact (writes_put _).bind (writes_put _)

theorem reads_readUTF {s : CxxString} (h : countUTFLength s ≤ 65535) :
    Reads readUTF (utfBytes s) s := by
  have hlen : (BitVec.ofNat 16 (countUTFLength s)).toNat = countUTFLength s := by
    rw [BitVec.toNat_ofNat, Nat.mod_eq_of_lt (by omega)]
  refine Reads.bind (reads_readShort _) ?_
  simp only [hlen]
  by_cases h0 : countUTFLength s = 0
  · have hnil : s.flatMap encodeUTFChar = [] := by
      rw [← List.length_eq_zero_iff, length_flatMap_encodeUTFChar, h0]
    have hs : s = [] := by
      have := decodeUTF_flatMap s
      rw [hnil] at this
      exact (Except.ok.inj this).symm
    subst hs
    rw [if_pos h0, hnil]
    exact Reads.pure []
  · rw [if_neg h0]
    have htake := Reads.of_take (Exn.cmsException (str "Reached EOF"))
      (length_flatMap_encodeUTFChar s)
    intro rest
    rw [StateT.run_bind, htake rest]
    show (liftM (decodeUTF (s.flatMap encodeUTFChar)) : ByteReader Exn CxxString).run rest = _
    rw [decodeUTF_flatMap]
    rfl

end RoundTrip

/-! ## What any run of a read does -/

section AnyRun

open ByteReader

/-- A `CMSException`. -/
def IsCms (e : Exn) : Prop := ∃ message, e = .cmsException message

theorem map_cons_ok {c : UInt8} {x : Except Exn CxxString} {s : CxxString}
    (h : (c :: ·) <$> x = .ok s) : ∃ t, x = .ok t ∧ s = c :: t := by
  cases x with
  | error e => exact absurd h (by simp [Functor.map, Except.map])
  | ok t => exact ⟨t, rfl, by simpa [Functor.map, Except.map, eq_comm] using h⟩

theorem map_cons_error {c : UInt8} {x : Except Exn CxxString} {e : Exn}
    (h : (c :: ·) <$> x = .error e) : x = .error e := by
  cases x with
  | error e' => simpa [Functor.map, Except.map] using h
  | ok t => exact absurd h (by simp [Functor.map, Except.map])

theorem decodeUTF_error {bs : List UInt8} {e : Exn} (h : decodeUTF bs = .error e) : IsCms e := by
  fun_induction decodeUTF bs with
  | case1 => exact absurd h (by simp)
  | case2 a rest _ ih => exact ih (map_cons_error h)
  | case3 => exact ⟨_, (Except.error.inj h).symm⟩
  | case4 => exact ⟨_, (Except.error.inj h).symm⟩
  | case5 => exact ⟨_, (Except.error.inj h).symm⟩
  | case6 a _ _ b rest _ _ ih => exact ih (map_cons_error h)
  | case7 => exact ⟨_, (Except.error.inj h).symm⟩
  | case8 => exact ⟨_, (Except.error.inj h).symm⟩
  | case9 => exact ⟨_, (Except.error.inj h).symm⟩

/-- No character comes from nothing. -/
theorem length_decodeUTF {bs : List UInt8} {s : CxxString} (h : decodeUTF bs = .ok s) :
    s.length ≤ bs.length := by
  fun_induction decodeUTF bs generalizing s with
  | case1 =>
      rw [← Except.ok.inj h]
  | case2 a rest _ ih =>
      obtain ⟨t, ht, rfl⟩ := map_cons_ok h
      simpa using ih ht
  | case6 a _ _ b rest _ _ ih =>
      obtain ⟨t, ht, rfl⟩ := map_cons_ok h
      have := ih ht
      simp only [List.length_cons]
      omega
  | case3 => exact absurd h (by simp)
  | case4 => exact absurd h (by simp)
  | case5 => exact absurd h (by simp)
  | case7 => exact absurd h (by simp)
  | case8 => exact absurd h (by simp)
  | case9 => exact absurd h (by simp)

theorem failsWith_readWord (w k : Nat) : FailsWith IsCms (readWord w k) :=
  (FailsWith.take ⟨_, rfl⟩ k).bind (fun bs => FailsWith.pure (ofBE w bs))

theorem failsWith_readByte : FailsWith IsCms readByte :=
  (failsWith_readWord 8 1).bind (fun b => FailsWith.pure (UInt8.ofBitVec b))

theorem failsWith_readInt : FailsWith IsCms readInt := failsWith_readWord 32 4

theorem failsWith_readUTF : FailsWith IsCms readUTF := by
  refine (failsWith_readWord 16 2).bind (fun utfLength => ?_)
  split
  · exact FailsWith.pure []
  · exact (FailsWith.take ⟨_, rfl⟩ _).bind (fun buffer => FailsWith.lift fun e => decodeUTF_error)

theorem failsWith_writeUTF (value : CxxString) : FailsWith IsCms (writeUTF value) := by
  unfold writeUTF
  split
  · intro out e h
    exact ⟨_, (Except.error.inj h).symm⟩
  · exact (ByteWriter.failsWith_put _).bind (fun _ => ByteWriter.failsWith_put _)

theorem consumes_readWord (w k : Nat) : Consumes (readWord w k) (fun _ => k) := by
  intro bs a rest h
  obtain ⟨buffer, mid, hbuffer, h'⟩ := run_bind_ok h
  obtain ⟨-, rfl⟩ : ofBE w buffer = a ∧ mid = rest := by
    simpa [pure, StateT.pure, StateT.run, Except.pure] using h'
  rw [run_take] at hbuffer
  split at hbuffer
  · obtain ⟨-, rfl⟩ : bs.take k = buffer ∧ bs.drop k = mid := by simpa using hbuffer
    show (bs.drop k).length + k ≤ bs.length
    rw [List.length_drop]
    omega
  · exact absurd hbuffer (by simp)

/-- A string costs the two bytes of its length and a byte for each character. -/
theorem consumes_readUTF : Consumes readUTF (fun s => s.length + 2) := by
  refine (consumes_readWord 16 2).bind (u := fun _ s => s.length) (fun utfLength => ?_)
    (fun _ s => by omega)
  split
  · intro bs s rest h
    obtain ⟨rfl, rfl⟩ : [] = s ∧ bs = rest := by
      simpa [pure, StateT.pure, StateT.run, Except.pure] using h
    simp
  · intro bs s rest h
    obtain ⟨buffer, mid, hbuffer, h'⟩ := run_bind_ok h
    have hcost := Consumes.take _ _ bs buffer mid hbuffer
    obtain ⟨hdecode, rfl⟩ := run_lift_ok h'
    have hlen := length_decodeUTF hdecode
    show mid.length + s.length ≤ bs.length
    omega

/-- A word that was read stood in the stream. -/
theorem parses_readWord {w k : Nat} (hk : w = 8 * k) : Parses (readWord w k) (toBE k) := by
  intro bs x rest h
  obtain ⟨buffer, mid, hbuffer, h'⟩ := run_bind_ok h
  obtain ⟨rfl, rfl⟩ : ofBE w buffer = x ∧ mid = rest := by
    simpa [pure, StateT.pure, StateT.run, Except.pure] using h'
  rw [run_take] at hbuffer
  split_ifs at hbuffer with hlen
  obtain ⟨rfl, rfl⟩ : bs.take k = buffer ∧ bs.drop k = mid := by simpa using hbuffer
  rw [toBE_ofBE hk (List.length_take_of_le hlen), List.take_append_drop]

theorem parses_readInt : Parses readInt (toBE 4) := parses_readWord rfl

theorem parses_readDouble : Parses readDouble (fun value => toBE 8 value.bits) := by
  intro bs value rest h
  obtain ⟨bits, mid, hbits, h'⟩ := run_bind_ok h
  obtain ⟨rfl, rfl⟩ : (⟨bits⟩ : CDouble) = value ∧ mid = rest := by
    simpa [pure, StateT.pure, StateT.run, Except.pure] using h'
  exact parses_readWord (w := 64) (k := 8) rfl bs bits mid hbits

end AnyRun

end BytesMessage

end Giapi
