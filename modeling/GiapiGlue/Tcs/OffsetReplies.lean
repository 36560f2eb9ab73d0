import GiapiGlue.Tcs.JmsApplyOffset

set_option autoImplicit false

/-! # Replies to an offset

A reply says that an offset was applied by a number that is not zero. Both calls hand that number on as
a status, of which `OK` is zero; and `stoi`, which reads it, throws at what does not begin with a number
and overlooks what stands behind one. -/

namespace Giapi

open Numerals

/-! ## Reading the number -/

theorem stoi_of_scan {s : CxxString} {k : CInt} (h : scan s = some k.toInt) : stoi s = .ok k := by
  have hlow := BitVec.le_toInt k
  have hhigh := BitVec.toInt_lt (x := k)
  rw [stoi, h]
  dsimp only
  rw [if_pos ⟨by simpa using hlow, by simpa using hhigh⟩, BitVec.ofInt_toInt]

theorem scan_of_stoi {s : CxxString} {k : CInt} (h : stoi s = .ok k) : scan s = some k.toInt := by
  unfold stoi at h
  split at h
  · exact absurd h (by simp)
  · next z hz =>
      split at h
      · next hrange =>
          rw [hz, ← Except.ok.inj h, BitVec.toInt_ofInt_eq_self (by norm_num) hrange.1 hrange.2]
      · exact absurd h (by simp)

theorem stoi_eq_ok_iff (s : CxxString) (k : CInt) : stoi s = .ok k ↔ Begins s k.toInt := by
  rw [← scan_eq_some_iff]
  exact ⟨scan_of_stoi, stoi_of_scan⟩

namespace JmsApplyOffset

theorem splitReply_append {number msg : CxxString} (h : bar ∉ number) :
    splitReply (number ++ bar :: msg) = some (number, msg) := by
  have hindex : (number ++ bar :: msg).idxOf? bar = some number.length := by
    rw [List.idxOf?, List.findIdx?_append, List.findIdx?_eq_none_iff.2]
    · simp [List.findIdx?_cons]
    · intro c hc
      exact beq_false_of_ne fun heq => h (heq ▸ hc)
  rw [splitReply, hindex]
  simp [List.drop_append]

theorem splitReply_none {text : CxxString} (h : bar ∉ text) : splitReply text = none := by
  rw [splitReply, List.idxOf?_eq_none_iff.2 h]

/-- A text is split in one way only. -/
theorem split_unique {number number' msg msg' : CxxString} (h : bar ∉ number) (h' : bar ∉ number')
    (heq : number ++ bar :: msg = number' ++ bar :: msg') : number = number' ∧ msg = msg' := by
  have hsplit := @splitReply_append number msg h
  rw [heq, splitReply_append h', Option.some.injEq, Prod.mk.injEq] at hsplit
  exact ⟨hsplit.1.symm, hsplit.2.symm⟩

/-! ## What a reply says -/

/-- A reply of the TCS: no bar, or a 32-bit number before the first one. -/
def TcsReply (text : CxxString) : Prop :=
  bar ∉ text ∨ ∃ (number msg : CxxString) (k : CInt),
    text = number ++ bar :: msg ∧ Denotes number k.toInt

/-- The reply says that the offset was applied. -/
def Applied (text : CxxString) : Prop :=
  ∃ (number msg : CxxString) (k : CInt), text = number ++ bar :: msg ∧ Denotes number k.toInt ∧ k ≠ 0

/-- The blocking call returns what the callback is given, and that is `OK` precisely if the offset was
    applied. -/
def ReportAlike (text : CxxString) (blocking : Except Escape CInt)
    (thread : List (CInt × CxxString) × Except Escape Unit) : Prop :=
  ∃ status msg, blocking = .ok status ∧ thread = ([(status, msg)], .ok ()) ∧
    (status = Status.ok.toInt ↔ Applied text)

theorem bar_not_mem {number : CxxString} {z : Int} (h : Denotes number z) : bar ∉ number :=
  h.not_mem (by decide) (by decide)

theorem stoi_of_denotes {number : CxxString} {k : CInt} (h : Denotes number k.toInt) :
    stoi number = .ok k :=
  (stoi_eq_ok_iff number k).2 h.begins

/-- The number before the first bar is the only one the reply can mean. -/
theorem applied_iff {number msg : CxxString} {k : CInt} (hnumber : Denotes number k.toInt) :
    Applied (number ++ bar :: msg) ↔ k ≠ 0 := by
  constructor
  · intro h
    obtain ⟨number', msg', k', htext, hnumber', hk'⟩ := h
    obtain ⟨rfl, -⟩ := split_unique (bar_not_mem hnumber) (bar_not_mem hnumber') htext
    have hsame := (stoi_of_denotes hnumber).symm.trans (stoi_of_denotes hnumber')
    rwa [Except.ok.inj hsame]
  · intro hk
    exact ⟨number, msg, k, rfl, hnumber, hk⟩

/-! ## The two calls -/

section Text

variable {text : CxxString}

theorem sendOffset_text {env : OffsetEnv} {instName : CxxString} {p q : CDouble}
    {offsetType : OffsetType} {timeout : Int} (hrequest : request env instName p q offsetType = .ok ())
    (hreply : env.queue.Answers timeout (some (.textMessage (.ok text)))) {status : CInt}
    (h : wasOffsetApplied text = .ok status) :
    sendOffset env instName p q offsetType timeout false = .ok status := by
  have hawait : awaitOffset env timeout = .ok status := by
    rw [awaitOffset, hreply, ← h]
    rfl
  rw [sendOffset, hrequest]
  simp only [Bool.false_eq_true, if_false, hawait]

theorem offsetResult_of_answer {queue : ReplyQueue} {timeout : CInt} {reply : Option Message}
    (hreply : queue.Answers timeout.toInt reply) :
    offsetResult queue timeout = match reply with
      | some (.textMessage getText) => lift getText >>= callbackArguments
      | some _ => .error (.exn .outOfBounds)
      | none => .ok (Status.error.toInt,
          str "Time out while waiting for TCS Offset executiong") := by
  rw [offsetResult, hreply]
  rcases reply with _ | message
  · rfl
  · cases message <;> rfl

theorem callbackArguments_append {number msg : CxxString} (h : bar ∉ number) :
    callbackArguments (number ++ bar :: msg) = (do
      let status ← stoi number
      return (status, msg)) := by
  rw [callbackArguments, splitReply_append h]

theorem callbackArguments_none (h : bar ∉ text) :
    callbackArguments text = .ok (Status.error.toInt, []) := by
  rw [callbackArguments, splitReply_none h]

/-- The thread calls back with what it has made of the reply. -/
theorem callback_of_arguments {queue : ReplyQueue} {timeout : CInt}
    (hreply : queue.Answers timeout.toInt (some (.textMessage (.ok text))))
    {arguments : CInt × CxxString} (h : callbackArguments text = .ok arguments) :
    callback queue timeout = ([arguments], .ok ()) := by
  have hresult : offsetResult queue timeout = .ok arguments :=
    (offsetResult_of_answer hreply).trans h
  rw [callback, hresult]

end Text

/-- **Status of an offset.** For no reply of the TCS do the two calls report the same status and `OK`
    precisely if the offset was applied: without a bar they differ, and with a number they report it,
    so that `OK` says that the offset was not applied. -/
theorem never_reportAlike {text : CxxString} (htext : TcsReply text) {env env' : OffsetEnv}
    {instName : CxxString} {p q : CDouble} {offsetType : OffsetType} {timeout timeout' : Int}
    (hrequest : request env instName p q offsetType = .ok ())
    (hreply : env.queue.Answers timeout (some (.textMessage (.ok text))))
    (hreply' : env'.queue.Answers (BitVec.ofInt 32 timeout').toInt
      (some (.textMessage (.ok text)))) :
    ¬ ReportAlike text (sendOffset env instName p q offsetType timeout false)
      (detached env' timeout') := by
  intro h
  obtain ⟨status, msg, hblocking, hthread, hok⟩ := h
  rcases htext with hbar | ⟨number, tail, k, rfl, hnumber⟩
  · have hzero : wasOffsetApplied text = .ok 0 := by rw [wasOffsetApplied, splitReply_none hbar]
    rw [sendOffset_text hrequest hreply hzero] at hblocking
    rw [detached, callback_of_arguments hreply' (callbackArguments_none hbar)] at hthread
    -- the callback is given `ERROR`, the blocking call returns zero
    obtain ⟨hstatus, -⟩ : Status.error.toInt = status ∧ msg = [] := by
      simpa using congrArg Prod.fst hthread
    rw [← Except.ok.inj hblocking] at hstatus
    exact absurd hstatus (by decide)
  · have hnumeral : wasOffsetApplied (number ++ bar :: tail) = .ok k := by
      rw [wasOffsetApplied, splitReply_append (bar_not_mem hnumber)]
      exact stoi_of_denotes hnumber
    rw [sendOffset_text hrequest hreply hnumeral] at hblocking
    rw [applied_iff hnumber, ← Except.ok.inj hblocking] at hok
    -- `OK` is zero, and a number that is not zero says that the offset was applied
    exact absurd hok (by simp [Status.toInt])

/-- A broker and a TCS that answers with a text. -/
def answeredWith (text : CxxString) : OffsetEnv :=
  { createBytesMessage := .ok ()
    createTemporaryQueue := .ok ()
    createConsumer := .ok ()
    setCMSReplyTo := .ok ()
    setStringProperty := fun _ _ => .ok ()
    send := fun _ => .ok ()
    thread := .ok ()
    queue := ReplyQueue.answering (some (.textMessage (.ok text))) }

/-- The reply `0|limit`: the offset was not applied. -/
theorem refusedOffset_not_reportAlike :
    ¬ ReportAlike (str "0|limit")
      (sendOffset (answeredWith (str "0|limit")) (str "dummyInst") Ieee754.zero Ieee754.zero .acq 0
        false)
      (detached (answeredWith (str "0|limit")) 0) :=
  never_reportAlike
    (Or.inr ⟨str "0", str "limit", 0, rfl, Denotes.of_value (.of_all (by decide) (by decide)) (by decide)⟩)
    rfl rfl rfl

/-- The reply `1|done`: the offset was applied, and both calls report 1, which is not `OK`. -/
theorem appliedOffset_not_ok :
    TcsReply (str "1|done") ∧
      ¬ ReportAlike (str "1|done")
        (sendOffset (answeredWith (str "1|done")) (str "dummyInst") Ieee754.zero Ieee754.zero .acq 0
          false)
        (detached (answeredWith (str "1|done")) 0) := by
  have hnumber : Denotes (str "1") (1 : CInt).toInt :=
    Denotes.of_value (.of_all (by decide) (by decide)) (by decide)
  refine ⟨Or.inr ⟨str "1", str "done", 1, rfl, hnumber⟩, fun h => ?_⟩
  obtain ⟨status, msg, hblocking, -, hok⟩ := h
  have hone : sendOffset (answeredWith (str "1|done")) (str "dummyInst") Ieee754.zero Ieee754.zero
      .acq 0 false = .ok 1 := by
    decide
  obtain rfl : status = 1 := Except.ok.inj (hblocking.symm.trans hone)
  exact absurd (hok.2 ⟨str "1", str "done", 1, rfl, hnumber, by decide⟩) (by decide)

/-! ## The callback -/

/-- The callback is called once, and nothing leaves the thread; a text that is a numeral, a bar and a
    message is passed on as the number and the message, any other one as `ERROR`. -/
def FiresOnce (reply : Option Message)
    (thread : List (CInt × CxxString) × Except Escape Unit) : Prop :=
  ∃ status msg, thread = ([(status, msg)], .ok ()) ∧
    ∀ text, reply = some (.textMessage (.ok text)) →
      (∀ (k : CInt) (m : CxxString), text = decimal k.toInt ++ bar :: m → status = k ∧ msg = m) ∧
      ((¬ ∃ (k : CInt) (m : CxxString), text = decimal k.toInt ++ bar :: m) →
        status = Status.error.toInt)

/-- The replies the thread does right by: none in time, a text without a bar, and one with a numeral of
    a 32-bit number before it, or with something there that is no numeral but begins with -1, which
    happens to be `ERROR`. -/
def HandledReply : Option Message → Prop
  | none => True
  | some (.textMessage (.ok text)) => bar ∉ text ∨ ∃ number msg, text = number ++ bar :: msg ∧
      bar ∉ number ∧ ((∃ k : CInt, number = decimal k.toInt) ∨ Begins number (-1))
  | some _ => False

theorem decimal_split {number msg m : CxxString} {k : CInt} (h : bar ∉ number)
    (heq : number ++ bar :: msg = decimal k.toInt ++ bar :: m) :
    number = decimal k.toInt ∧ msg = m :=
  split_unique h (bar_not_mem (denotes_decimal k.toInt)) heq

theorem stoi_decimal (k : CInt) : stoi (decimal k.toInt) = .ok k :=
  stoi_of_denotes (denotes_decimal k.toInt)

/-- `ERROR` is what is read where a text begins with -1. -/
theorem stoi_error_iff (number : CxxString) :
    stoi number = .ok Status.error.toInt ↔ Begins number (-1) :=
  stoi_eq_ok_iff number Status.error.toInt

/-- The number can be read as 32 bits. -/
theorem firesOnce_of_stoi {number msg : CxxString} {status : CInt} (hbar : bar ∉ number)
    (h : stoi number = .ok status) :
    FiresOnce (some (.textMessage (.ok (number ++ bar :: msg)))) ([(status, msg)], .ok ()) ↔
      (∃ k : CInt, number = decimal k.toInt) ∨ Begins number (-1) := by
  constructor
  · intro hfires
    obtain ⟨status', msg', hthread, htext⟩ := hfires
    obtain ⟨rfl, -⟩ : status = status' ∧ msg = msg' := by simpa using congrArg Prod.fst hthread
    by_cases hnumeral : ∃ k : CInt, number = decimal k.toInt
    · exact Or.inl hnumeral
    · have hform : ¬ ∃ (k : CInt) (m : CxxString),
          number ++ bar :: msg = decimal k.toInt ++ bar :: m := by
        intro hform
        obtain ⟨k, m, heq⟩ := hform
        exact hnumeral ⟨k, (decimal_split hbar heq).1⟩
      rw [(htext _ rfl).2 hform] at h
      exact Or.inr ((stoi_error_iff number).1 h)
  · intro hhandled
    refine ⟨status, msg, rfl, fun text htext => ?_⟩
    obtain rfl : number ++ bar :: msg = text := by simpa using htext
    refine ⟨fun k m heq => ?_, fun hform => ?_⟩
    · obtain ⟨rfl, rfl⟩ := decimal_split hbar heq
      exact ⟨Except.ok.inj (h.symm.trans (stoi_decimal k)), rfl⟩
    · rcases hhandled with ⟨k, rfl⟩ | hbegins
      · exact absurd ⟨k, msg, rfl⟩ hform
      · exact Except.ok.inj (h.symm.trans ((stoi_error_iff number).2 hbegins))

theorem not_firesOnce_of_error {queue : ReplyQueue} {timeout : CInt} {e : Escape}
    (h : offsetResult queue timeout = .error e) (reply : Option Message) :
    ¬ FiresOnce reply (callback queue timeout) := by
  intro hfires
  obtain ⟨status, msg, hthread, -⟩ := hfires
  rw [callback, h] at hthread
  exact absurd (congrArg Prod.fst hthread) (by simp)

theorem handledReply_append_iff {number msg : CxxString} (hnumber : bar ∉ number) :
    HandledReply (some (.textMessage (.ok (number ++ bar :: msg)))) ↔
      (∃ k : CInt, number = decimal k.toInt) ∨ Begins number (-1) := by
  constructor
  · intro h
    rcases h with hnone | ⟨number', msg', heq, hnumber', h⟩
    · exact absurd (List.mem_append_right number List.mem_cons_self) hnone
    · obtain ⟨rfl, -⟩ := split_unique hnumber hnumber' heq
      exact h
  · intro h
    exact Or.inr ⟨number, msg, rfl, hnumber, h⟩

/-- What `stoi` throws at is not handled. -/
theorem not_handled_of_stoi_error {number : CxxString} {e : Escape} (h : stoi number = .error e) :
    ¬ ((∃ k : CInt, number = decimal k.toInt) ∨ Begins number (-1)) := by
  intro hhandled
  rcases hhandled with ⟨k, rfl⟩ | hbegins
  · rw [stoi_decimal] at h
    exact absurd h (by simp)
  · rw [(stoi_error_iff number).2 hbegins] at h
    exact absurd h (by simp)

theorem firesOnce_text {text : CxxString} {queue : ReplyQueue} {timeout : CInt}
    (hreply : queue.Answers timeout.toInt (some (.textMessage (.ok text)))) :
    FiresOnce (some (.textMessage (.ok text))) (callback queue timeout) ↔
      HandledReply (some (.textMessage (.ok text))) := by
  by_cases hbar : bar ∈ text
  · obtain ⟨number, msg, rfl, hnumber⟩ := List.eq_append_cons_of_mem hbar
    rw [handledReply_append_iff hnumber]
    have harguments := @callbackArguments_append number msg hnumber
    cases hstoi : stoi number with
    | error e =>
        rw [hstoi] at harguments
        have hresult := (offsetResult_of_answer hreply).trans harguments
        exact iff_of_false (not_firesOnce_of_error hresult _) (not_handled_of_stoi_error hstoi)
    | ok status =>
        rw [hstoi] at harguments
        rw [callback_of_arguments hreply harguments]
        exact firesOnce_of_stoi hnumber hstoi
  · -- without a bar the thread reports `ERROR`, and no numeral was there to report
    rw [callback_of_arguments hreply (callbackArguments_none hbar)]
    refine iff_of_true ⟨_, _, rfl, fun text' htext => ?_⟩ (Or.inl hbar)
    obtain rfl : text = text' := by simpa using htext
    refine ⟨fun k m heq => absurd ?_ hbar, fun _ => rfl⟩
    rw [heq]
    simp

/-- **The callback.** Whatever the wait ends with, the thread does right by it precisely if it is a
    reply that is handled. -/
theorem firesOnce_iff {queue : ReplyQueue} {timeout : CInt} {reply : Option Message}
    (hreply : queue.Answers timeout.toInt reply) :
    FiresOnce reply (callback queue timeout) ↔ HandledReply reply := by
  have hresult := offsetResult_of_answer hreply
  cases reply with
  | none =>
      rw [callback, hresult]
      exact iff_of_true ⟨_, _, rfl, fun text h => absurd h (by simp)⟩ trivial
  | some message =>
      cases message with
      | textMessage getText =>
          cases getText with
          | ok text => exact firesOnce_text hreply
          | error e => exact iff_of_false (not_firesOnce_of_error hresult _) id
      | bytesMessage message => exact iff_of_false (not_firesOnce_of_error hresult _) id
      | other => exact iff_of_false (not_firesOnce_of_error hresult _) id

/-- The number 12 and a message with a bar in it. -/
theorem twelve_firesOnce :
    FiresOnce (some (.textMessage (.ok (decimal 12 ++ bar :: str "a|b"))))
      (callback (ReplyQueue.answering (some (.textMessage (.ok (decimal 12 ++ bar :: str "a|b"))))) 0) :=
  (firesOnce_iff (ReplyQueue.answering_answers _ _)).2 (Or.inr ⟨decimal 12, str "a|b", rfl,
    bar_not_mem (denotes_decimal 12), Or.inl ⟨12, rfl⟩⟩)

/-- A bar with no number before it: what `stoi` throws ends the process. -/
theorem wrongNumber_not_firesOnce :
    callback (ReplyQueue.answering (some (.textMessage (.ok (str "done|"))))) 0
        = ([], .error .invalidArgument) ∧
      ¬ FiresOnce (some (.textMessage (.ok (str "done|"))))
        (callback (ReplyQueue.answering (some (.textMessage (.ok (str "done|"))))) 0) := by
  have hresult : offsetResult (ReplyQueue.answering (some (.textMessage (.ok (str "done|"))))) 0
      = .error .invalidArgument := rfl
  refine ⟨?_, not_firesOnce_of_error hresult _⟩
  rw [callback, hresult]

end JmsApplyOffset

end Giapi
