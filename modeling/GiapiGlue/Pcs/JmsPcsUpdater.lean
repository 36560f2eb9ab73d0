import GiapiGlue.Cms.BytesMessage
import GiapiGlue.Gmp.GMPKeys
import GiapiGlue.Lib.FixedNotation

set_option autoImplicit false

/-! # Zernike updates for the PCS

`GeminiUtilImpl::postPcsUpdate` prints the coefficients for the log, each in a buffer of its own, and
leaves the rest to `JmsPcsUpdater`, which sends them as they are. -/

namespace Giapi

/-- The arguments of `postPcsUpdate`: an array, and a size the caller vouches for. -/
structure ZernikeArray where
  size : CInt
  memory : List CDouble
  inBounds : size.toInt ≤ memory.length

/-- The coefficients the size covers. -/
def ZernikeArray.zernikes (array : ZernikeArray) : List CDouble := array.memory.take array.size.toInt.toNat

/-- The session and the producer of the updater. -/
structure PcsEnv where
  createBytesMessage : Except Exn Unit
  /-- The destination and the body. -/
  send : CxxString → List UInt8 → Except Exn Unit

namespace JmsPcsUpdater

/-- The loop that writes the coefficients. -/
def writeZernikes : List CDouble → ByteWriter Exn Unit
  | [] => pure ()
  | zernike :: zernikes => do
    BytesMessage.writeDouble zernike
    writeZernikes zernikes

def writeUpdate (array : ZernikeArray) : ByteWriter Exn Unit := do
  BytesMessage.writeInt array.size
  writeZernikes array.zernikes

/-- The body of the `try` block. It returns what it has sent. -/
def trySend (env : PcsEnv) (array : ZernikeArray) : Except Exn (List UInt8) := do
  env.createBytesMessage
  let ((), body) ← (writeUpdate array).run []
  env.send GMPKeys.gmpPcsUpdateDestination body
  return body

/-- What the call answers, and the messages it puts on the wire. -/
def postPcsUpdate (env : PcsEnv) (array : ZernikeArray) : Except Exn Status × List (List UInt8) :=
  if array.size.toInt ≤ 0 then
    (.ok .error, [])
  else
    match trySend env array with
    | .ok body => (.ok .ok, [body])
    | .error (.cmsException message) =>
      (.error (.communicationException (str "Problem posting updates to the PCS: " ++ message)), [])
    | .error e => (.error e, [])

end JmsPcsUpdater

namespace GeminiUtilImpl

/-- The size of the buffer `z`. -/
def bufferSize : Nat := 25

/-- `"%.2f "`. -/
def format (zernike : CDouble) : CxxString := zernike.fixedNotation 2 ++ str " "

/-- `sprintf` into the buffer: the text and a terminator have to fit. -/
def sprintf (text : CxxString) : Except Exn CxxString :=
  if text.length + 1 ≤ bufferSize then .ok text else .error .outOfBounds

/-- The loop that puts the text for the log together. -/
def logText : List CDouble → CxxString → Except Exn CxxString
  | [], text => .ok text
  | zernike :: zernikes, text => do
    let z ← sprintf (format zernike)
    logText zernikes (text ++ z)

def postPcsUpdate (env : PcsEnv) (array : ZernikeArray) : Except Exn Status × List (List UInt8) :=
  match logText array.zernikes [] with
  | .error e => (.error e, [])
  | .ok _ => JmsPcsUpdater.postPcsUpdate env array

end GeminiUtilImpl

/-! ## The message -/

open Words ByteWriter

/-- An update on the wire. -/
def ZernikeArray.wire (array : ZernikeArray) : List UInt8 :=
  toBE 4 array.size ++ array.zernikes.flatMap (fun zernike => toBE 8 zernike.bits)

namespace JmsPcsUpdater

theorem writes_writeZernikes (zernikes : List CDouble) :
    Writes (writeZernikes zernikes) (zernikes.flatMap (fun zernike => toBE 8 zernike.bits)) := by
  induction zernikes with
  | nil => exact Writes.pure
  | cons zernike zernikes ih => exact (writes_put _).bind ih

theorem writes_writeUpdate (array : ZernikeArray) : Writes (writeUpdate array) array.wire :=
  (writes_put _).bind (writes_writeZernikes array.zernikes)

/-- With a positive size and JMS calls that succeed, one message is sent, and it holds the size and the
    coefficients. -/
theorem postPcsUpdate_sends {env : PcsEnv} {array : ZernikeArray} (hsize : 0 < array.size.toInt)
    (hcreate : env.createBytesMessage = .ok ())
    (hsend : env.send GMPKeys.gmpPcsUpdateDestination array.wire = .ok ()) :
    postPcsUpdate env array = (.ok .ok, [array.wire]) := by
  have hbody := writes_writeUpdate array []
  rw [List.nil_append] at hbody
  have htried : trySend env array = .ok array.wire := by
    unfold trySend
    rw [hcreate, hbody]
    simp only [bind, Except.bind, hsend]
    rfl
  rw [postPcsUpdate, if_neg (by omega), htried]

end JmsPcsUpdater

/-! ## The buffer -/

namespace GeminiUtilImpl

/-- The text of a coefficient, with its terminator, fits the buffer. -/
def Fits (zernike : CDouble) : Prop := (format zernike).length + 1 ≤ bufferSize

/-- A coefficient is printable if it is below `10 ^ 20`, and if a negative one is above `-10 ^ 19`. -/
def Printable (zernike : CDouble) : Prop :=
  zernike.magnitude < if zernike.negative then 10 ^ 19 else 10 ^ 20

theorem fits_iff {zernike : CDouble} (hfinite : zernike.isFinite) : Fits zernike ↔ Printable zernike := by
  have hformat : (format zernike).length = (zernike.fixedNotation 2).length + 1 := by
    rw [format, List.length_append]
    rfl
  rw [Fits, Printable, hformat, bufferSize]
  cases hsign : zernike.negative with
  | true =>
      have hlength := Ieee754.length_fixedNotation_le_iff 2 hfinite (k := 19) (by norm_num) (by norm_num)
      simp only [Ieee754.signLength, hsign, if_true] at hlength
      rw [if_pos rfl, ← hlength]
      omega
  | false =>
      have hlength := Ieee754.length_fixedNotation_le_iff 2 hfinite (k := 20) (by norm_num) (by norm_num)
      simp only [Ieee754.signLength, hsign, Bool.false_eq_true, if_false] at hlength
      rw [if_neg (by simp), ← hlength]
      omega

/-- The log text is put together precisely if every coefficient fits. -/
theorem logText_ok_iff (zernikes : List CDouble) (text : CxxString) :
    (∃ logged, logText zernikes text = .ok logged) ↔ ∀ zernike ∈ zernikes, Fits zernike := by
  induction zernikes generalizing text with
  | nil => simp [logText]
  | cons zernike zernikes ih =>
      rw [List.forall_mem_cons, ← ih (text ++ format zernike)]
      by_cases hfits : Fits zernike
      · have hz : sprintf (format zernike) = .ok (format zernike) := if_pos hfits
        simp only [logText, hz, bind, Except.bind, hfits, true_and]
      · have hz : sprintf (format zernike) = .error .outOfBounds := if_neg hfits
        simp only [logText, hz, bind, Except.bind, hfits, false_and]
        simp

/-- What the caller of `postPcsUpdate` may rely on: no coefficient overruns the buffer, a size that is not
    positive is refused, and else one message with the size and the coefficients is sent, if the JMS
    calls succeed. -/
structure PostsSafely (array : ZernikeArray) : Prop where
  fits : ∀ zernike ∈ array.zernikes, Fits zernike
  refused : array.size.toInt ≤ 0 → ∀ env, postPcsUpdate env array = (.ok .error, [])
  sent : 0 < array.size.toInt → ∀ env : PcsEnv, env.createBytesMessage = .ok () →
    env.send GMPKeys.gmpPcsUpdateDestination array.wire = .ok () →
    postPcsUpdate env array = (.ok .ok, [array.wire])

/-- **Zernike updates.** Posting finite coefficients is safe precisely if all of them are printable. -/
theorem postPcsUpdate_safe_iff (array : ZernikeArray)
    (hfinite : ∀ zernike ∈ array.zernikes, zernike.isFinite) :
    PostsSafely array ↔ ∀ zernike ∈ array.zernikes, Printable zernike := by
  have hall : (∀ zernike ∈ array.zernikes, Fits zernike)
      ↔ ∀ zernike ∈ array.zernikes, Printable zernike :=
    forall₂_congr fun zernike hmem => fits_iff (hfinite zernike hmem)
  rw [← hall]
  refine ⟨fun hsafe => hsafe.fits, fun hfits => ?_⟩
  obtain ⟨logged, hlogged⟩ := (logText_ok_iff array.zernikes []).2 hfits
  have hpost : ∀ env, postPcsUpdate env array = JmsPcsUpdater.postPcsUpdate env array := by
    intro env
    rw [postPcsUpdate, hlogged]
  refine { fits := hfits, refused := fun hsize env => ?_, sent := fun hsize env hcreate hsend => ?_ }
  · rw [hpost, JmsPcsUpdater.postPcsUpdate, if_pos hsize]
  · rw [hpost, JmsPcsUpdater.postPcsUpdate_sends hsize hcreate hsend]

/-- A value with a fractional part is printable. -/
theorem printable_of_shift_neg {zernike : CDouble} (h : zernike.shift < 0) : Printable zernike := by
  have hsignificand : (zernike.significand : ℚ) < 10 ^ 19 := by
    have hlt := zernike.significand_lt
    exact_mod_cast hlt.trans (by norm_num : 2 ^ (52 + 1) < 10 ^ 19)
  have hmagnitude := Ieee754.magnitude_le_significand h
  unfold Printable
  split_ifs <;> linarith

/-- `1.5` and `-0.25`. -/
theorem postPcsUpdate_safe_ordinary :
    PostsSafely ⟨2#32, [⟨0x3FF8000000000000#64⟩, ⟨0xBFD0000000000000#64⟩], by decide⟩ :=
  (postPcsUpdate_safe_iff ⟨2#32, [⟨0x3FF8000000000000#64⟩, ⟨0xBFD0000000000000#64⟩], by decide⟩
    (by decide)).2 (by
      have hshift : ∀ zernike ∈ [(⟨0x3FF8000000000000#64⟩ : CDouble), ⟨0xBFD0000000000000#64⟩],
          zernike.shift < 0 := by decide
      exact fun zernike hmem => printable_of_shift_neg (hshift zernike hmem))

/-- `1e20` is finite, and its text takes 25 characters and the terminator. -/
theorem postPcsUpdate_overruns :
    ¬ ∀ array : ZernikeArray, (∀ zernike ∈ array.zernikes, zernike.isFinite) → PostsSafely array := by
  intro h
  have hsafe := h ⟨1#32, [⟨0x4415AF1D78B58C40#64⟩], by decide⟩ (by decide)
  have hfits := hsafe.fits ⟨0x4415AF1D78B58C40#64⟩ (by decide)
  have hprintable := (fits_iff (by decide)).1 hfits
  have hvalue : (⟨0x4415AF1D78B58C40#64⟩ : CDouble).magnitude = ((10 ^ 20 : Nat) : ℚ) := by
    rw [Ieee754.magnitude_of_shift_nonneg (by decide)]
    exact congrArg _ (by decide)
  rw [Printable, hvalue, if_neg (by decide)] at hprintable
  exact absurd hprintable (by norm_num)

end GeminiUtilImpl

end Giapi
