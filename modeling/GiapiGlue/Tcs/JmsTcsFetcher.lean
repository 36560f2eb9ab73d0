import GiapiGlue.Cms.ReplyQueue

set_option autoImplicit false

/-! # The TCS context

`JmsTcsFetcher`: the TCS answers a request with its context, 39 doubles in a fixed order. They go into the
fields of a `TcsContext`, with constants between them for what the TCS does not send. -/

namespace Giapi

/-! ## The context -/

/-- `TcsContext::Tel`. -/
structure Tel where
  fl : CDouble
  rma : CDouble
  an : CDouble
  aw : CDouble
  pnpae : CDouble
  ca : CDouble
  ce : CDouble
  pox : CDouble
  poy : CDouble
deriving DecidableEq

/-- `TcsContext::PO`. -/
structure PO where
  mx : CDouble
  my : CDouble
  ax : CDouble
  ay : CDouble
  bx : CDouble
  by' : CDouble
  cx : CDouble
  cy : CDouble
deriving DecidableEq

structure TcsContext where
  time : CDouble
  x : CDouble
  y : CDouble
  z : CDouble
  tel : Tel
  aoprms : Vector CDouble 15
  m2xy : Vector (Vector CDouble 2) 3
  po : PO
  ao2t : Vector CDouble 6
deriving DecidableEq

/-- The literal `0.0`. -/
def zeroLiteral : CDouble := ⟨0#64⟩

/-- The literal `1.0`. -/
def oneLiteral : CDouble := ⟨0x3FF0000000000000#64⟩

namespace JmsTcsFetcher

open BytesMessage ByteReader

/-- `TCS_CTX_SIZE`. -/
def tcsCtxSize : Int := 39

/-- The size, and as many doubles, unless the size is too small. -/
def readValues : ByteReader Exn (Option (List CDouble)) := do
  let size ← readInt
  if size.toInt < tcsCtxSize then
    return none
  else do
    let values ← times readDouble size.toInt.toNat
    return some values

/-- The assignments to the fields of `ctx`. There are at least `tcsCtxSize` values. -/
def copyValues (values : List CDouble) (ctx : TcsContext) : TcsContext :=
  let value := fun i => values.getD i zeroLiteral
  { ctx with
    time := value 0
    x := value 1
    y := value 2
    z := value 3
    tel :=
      { ctx.tel with
        fl := value 4
        rma := value 5
        an := value 6
        aw := value 7
        pnpae := value 8
        ca := value 9
        ce := value 10
        pox := zeroLiteral
        poy := zeroLiteral }
    aoprms := ctx.aoprms
      |>.set 0 (value 11)
      |>.set 1 (value 12)
      |>.set 2 (value 13)
      |>.set 3 (value 14)
      |>.set 4 (value 15)
      |>.set 5 (value 16)
      |>.set 6 (value 17)
      |>.set 7 (value 18)
      |>.set 8 (value 19)
      |>.set 9 (value 20)
      |>.set 10 (value 21)
      |>.set 11 (value 22)
      |>.set 12 zeroLiteral
      |>.set 13 (value 23)
      |>.set 14 (value 24)
    m2xy := ctx.m2xy
      |>.set 0 (ctx.m2xy[0] |>.set 0 (value 25) |>.set 1 (value 26))
      |>.set 1 (ctx.m2xy[1] |>.set 0 (value 27) |>.set 1 (value 28))
      |>.set 2 (ctx.m2xy[2] |>.set 0 (value 29) |>.set 1 (value 30))
    po :=
      { ctx.po with
        mx := value 31
        my := value 32
        ax := value 33
        ay := value 34
        bx := value 35
        by' := value 36
        cx := value 37
        cy := value 38 }
    ao2t := ctx.ao2t
      |>.set 0 zeroLiteral
      |>.set 1 oneLiteral
      |>.set 2 zeroLiteral
      |>.set 3 zeroLiteral
      |>.set 4 zeroLiteral
      |>.set 5 oneLiteral }

/-- `_buildTcsContext`: its result, and what it leaves in `ctx`. -/
def buildTcsContext (ctx : TcsContext) : Message → Except Exn Status × TcsContext
  | .bytesMessage bytesMessage =>
    match readValues.run bytesMessage.content with
    | .ok (some values, _) => (.ok .ok, copyValues values ctx)
    | .ok (none, _) => (.ok .error, ctx)
    | .error e => (.error e, ctx)
  | _ => (.ok .error, ctx)

end JmsTcsFetcher

/-! ## The fields -/

/-- A field of the context, array elements by their indices. -/
inductive TcsField
  | time
  | x
  | y
  | z
  | fl
  | rma
  | an
  | aw
  | pnpae
  | ca
  | ce
  | pox
  | poy
  | aoprms (i : Fin 15)
  | m2xy (i : Fin 3) (j : Fin 2)
  | mx
  | my
  | ax
  | ay
  | bx
  | by'
  | cx
  | cy
  | ao2t (i : Fin 6)
deriving DecidableEq

namespace TcsContext

def get (ctx : TcsContext) : TcsField → CDouble
  | .time => ctx.time
  | .x => ctx.x
  | .y => ctx.y
  | .z => ctx.z
  | .fl => ctx.tel.fl
  | .rma => ctx.tel.rma
  | .an => ctx.tel.an
  | .aw => ctx.tel.aw
  | .pnpae => ctx.tel.pnpae
  | .ca => ctx.tel.ca
  | .ce => ctx.tel.ce
  | .pox => ctx.tel.pox
  | .poy => ctx.tel.poy
  | .aoprms i => ctx.aoprms[i]
  | .m2xy i j => ctx.m2xy[i][j]
  | .mx => ctx.po.mx
  | .my => ctx.po.my
  | .ax => ctx.po.ax
  | .ay => ctx.po.ay
  | .bx => ctx.po.bx
  | .by' => ctx.po.by'
  | .cx => ctx.po.cx
  | .cy => ctx.po.cy
  | .ao2t i => ctx.ao2t[i]

/-- A context is what its fields hold. -/
theorem ext_get {ctx ctx' : TcsContext} (h : ∀ field, ctx.get field = ctx'.get field) :
    ctx = ctx' := by
  obtain ⟨time, x, y, z, tel, aoprms, m2xy, po, ao2t⟩ := ctx
  obtain ⟨time', x', y', z', tel', aoprms', m2xy', po', ao2t'⟩ := ctx'
  obtain ⟨fl, rma, an, aw, pnpae, ca, ce, pox, poy⟩ := tel
  obtain ⟨fl', rma', an', aw', pnpae', ca', ce', pox', poy'⟩ := tel'
  obtain ⟨mx, my, ax, ay, bx, byy, cx, cy⟩ := po
  obtain ⟨mx', my', ax', ay', bx', byy', cx', cy'⟩ := po'
  have haoprms : aoprms = aoprms' := Vector.ext fun i hi => h (.aoprms ⟨i, hi⟩)
  have hm2xy : m2xy = m2xy' :=
    Vector.ext fun i hi => Vector.ext fun j hj => h (.m2xy ⟨i, hi⟩ ⟨j, hj⟩)
  have hao2t : ao2t = ao2t' := Vector.ext fun i hi => h (.ao2t ⟨i, hi⟩)
  have htel := And.intro (h .fl) <| And.intro (h .rma) <| And.intro (h .an) <| And.intro (h .aw) <|
    And.intro (h .pnpae) <| And.intro (h .ca) <| And.intro (h .ce) <| And.intro (h .pox) (h .poy)
  have hpo := And.intro (h .mx) <| And.intro (h .my) <| And.intro (h .ax) <| And.intro (h .ay) <|
    And.intro (h .bx) <| And.intro (h .by') <| And.intro (h .cx) (h .cy)
  have hpoint := And.intro (h .time) <| And.intro (h .x) <| And.intro (h .y) (h .z)
  simp only [get] at htel hpo hpoint
  simp [haoprms, hm2xy, hao2t, htel, hpo, hpoint]

end TcsContext

namespace JmsTcsFetcher

/-- Where a field comes from: one of the values, or a constant of the code. -/
inductive FieldSource
  | value (i : Fin 39)
  | constant (c : CDouble)
deriving DecidableEq

def source : TcsField → FieldSource
  | .time => .value 0
  | .x => .value 1
  | .y => .value 2
  | .z => .value 3
  | .fl => .value 4
  | .rma => .value 5
  | .an => .value 6
  | .aw => .value 7
  | .pnpae => .value 8
  | .ca => .value 9
  | .ce => .value 10
  | .pox => .constant zeroLiteral
  | .poy => .constant zeroLiteral
  | .aoprms i =>
    if i = 12 then .constant zeroLiteral
    else if i < 12 then .value (11 + i.castLE (by decide))
    else .value (10 + i.castLE (by decide))
  | .m2xy i j => .value (25 + 2 * i.castLE (by decide) + j.castLE (by decide))
  | .mx => .value 31
  | .my => .value 32
  | .ax => .value 33
  | .ay => .value 34
  | .bx => .value 35
  | .by' => .value 36
  | .cx => .value 37
  | .cy => .value 38
  | .ao2t i => .constant (if i = 1 ∨ i = 5 then oneLiteral else zeroLiteral)

/-- The field a value is stored in. -/
def fieldOf (i : Fin 39) : TcsField :=
  #v[.time, .x, .y, .z, .fl, .rma, .an, .aw, .pnpae, .ca, .ce, .aoprms 0, .aoprms 1, .aoprms 2,
    .aoprms 3, .aoprms 4, .aoprms 5, .aoprms 6, .aoprms 7, .aoprms 8, .aoprms 9, .aoprms 10, .aoprms 11,
    .aoprms 13, .aoprms 14, .m2xy 0 0, .m2xy 0 1, .m2xy 1 0, .m2xy 1 1, .m2xy 2 0, .m2xy 2 1, .mx, .my,
    .ax, .ay, .bx, .by', .cx, .cy][i]

theorem source_fieldOf (i : Fin 39) : source (fieldOf i) = .value i := by
  fin_cases i <;> rfl

theorem eq_fieldOf {field : TcsField} {i : Fin 39} (h : source field = .value i) :
    field = fieldOf i := by
  cases field with
  | aoprms j => fin_cases j <;> cases h <;> rfl
  | m2xy j k => fin_cases j <;> fin_cases k <;> cases h <;> rfl
  | _ => cases h <;> rfl

/-- No two fields share a value, and none of the values is left out. -/
theorem source_value_unique (i : Fin 39) : ∃! field, source field = .value i :=
  ⟨fieldOf i, source_fieldOf i, fun _ h => eq_fieldOf h⟩

/-- What a source stands for, given the values. -/
def FieldSource.eval (values : List CDouble) : FieldSource → CDouble
  | .value i => values.getD i zeroLiteral
  | .constant c => c

theorem get_copyValues (values : List CDouble) (ctx : TcsContext) (field : TcsField) :
    (copyValues values ctx).get field = (source field).eval values := by
  cases field with
  | aoprms i =>
      -- an element is read past the assignments to the others
      simp only [TcsContext.get, copyValues, Fin.getElem_fin, Vector.getElem_set]
      fin_cases i <;> rfl
  | m2xy i j =>
      fin_cases i <;> fin_cases j <;>
        simp [TcsContext.get, copyValues, source, FieldSource.eval]
  | ao2t i =>
      simp only [TcsContext.get, copyValues, Fin.getElem_fin, Vector.getElem_set]
      fin_cases i <;> rfl
  | _ => rfl

/-! ## Which replies fill the context -/

open BytesMessage ByteReader Words

/-- The reply declares at least 39 doubles and holds as many as it declares, with `values` first among
    whatever it holds. -/
def Declares (message : Message) (values : List CDouble) : Prop :=
  ∃ (bytesMessage : BytesMessage) (size : CInt) (rest : List UInt8),
    message = .bytesMessage bytesMessage
    ∧ bytesMessage.content = toBE 4 size ++ values.flatMap (fun value => toBE 8 value.bits) ++ rest
    ∧ tcsCtxSize ≤ size.toInt
    ∧ values.length = size.toInt.toNat

theorem reads_readValues {size : CInt} {values : List CDouble} (hsize : tcsCtxSize ≤ size.toInt)
    (hlen : values.length = size.toInt.toNat) :
    Reads readValues (toBE 4 size ++ values.flatMap (fun value => toBE 8 value.bits))
      (some values) := by
  refine (reads_readInt size).bind ?_
  rw [if_neg (by omega), ← hlen]
  exact (Reads.times values (fun value _ => reads_readDouble value)).map some

/-- What is read is what the reply declares. -/
theorem declares_of_readValues {bytesMessage : BytesMessage} {values : List CDouble}
    {rest : List UInt8} (h : readValues.run bytesMessage.content = .ok (some values, rest)) :
    Declares (.bytesMessage bytesMessage) values := by
  obtain ⟨size, mid, hsize, h⟩ := run_bind_ok h
  have hcontent := parses_readInt _ _ _ hsize
  split_ifs at h with hsmall
  · cases h
  · obtain ⟨values', mid', hvalues, h⟩ := run_bind_ok h
    obtain ⟨rfl, rfl⟩ : values' = values ∧ mid' = rest := by
      simpa [pure, StateT.pure, StateT.run, Except.pure] using h
    have hmid := parses_readDouble.times _ _ _ _ hvalues
    refine ⟨bytesMessage, size, mid', rfl, ?_, by omega, length_of_run_times hvalues⟩
    rw [hcontent, hmid, List.append_assoc]

/-- The context is filled from the values, or the call has another result and leaves it alone. -/
theorem buildTcsContext_cases (ctx : TcsContext) (message : Message) :
    (∃ values, Declares message values
      ∧ buildTcsContext ctx message = (.ok .ok, copyValues values ctx))
    ∨ ((∀ values, ¬ Declares message values)
      ∧ ∃ result, result ≠ .ok .ok ∧ buildTcsContext ctx message = (result, ctx)) := by
  cases message with
  | bytesMessage bytesMessage =>
      have hnot : (∀ values rest, readValues.run bytesMessage.content ≠ .ok (some values, rest)) →
          ∀ values, ¬ Declares (.bytesMessage bytesMessage) values := by
        intro hread values hdeclares
        obtain ⟨_, size, rest, heq, hcontent, hsize, hlen⟩ := hdeclares
        obtain rfl := Message.bytesMessage.inj heq
        exact hread values rest (hcontent ▸ reads_readValues hsize hlen rest)
      cases hread : readValues.run bytesMessage.content with
      | error e =>
          refine Or.inr ⟨hnot (by simp [hread]), .error e, by simp, ?_⟩
          simp [buildTcsContext, hread]
      | ok result =>
          obtain ⟨result, rest⟩ := result
          cases result with
          | none =>
              refine Or.inr ⟨hnot (by simp [hread]), .ok .error, by simp, ?_⟩
              simp [buildTcsContext, hread]
          | some values =>
              refine Or.inl ⟨values, declares_of_readValues hread, ?_⟩
              simp [buildTcsContext, hread]
  | textMessage getText =>
      refine Or.inr ⟨fun values hdeclares => ?_, .ok .error, by simp, rfl⟩
      obtain ⟨_, _, _, heq, -⟩ := hdeclares
      cases heq
  | other =>
      refine Or.inr ⟨fun values hdeclares => ?_, .ok .error, by simp, rfl⟩
      obtain ⟨_, _, _, heq, -⟩ := hdeclares
      cases heq

/-- A reply holds one list of values. -/
theorem Declares.unique {message : Message} {values values' : List CDouble}
    (h : Declares message values) (h' : Declares message values') : values = values' := by
  obtain ⟨bytesMessage, size, rest, rfl, hcontent, hsize, hlen⟩ := h
  obtain ⟨bytesMessage', size', rest', heq, hcontent', hsize', hlen'⟩ := h'
  obtain rfl := Message.bytesMessage.inj heq
  have hread := reads_readValues hsize hlen rest
  have hread' := reads_readValues hsize' hlen' rest'
  rw [← hcontent] at hread
  rw [← hcontent', hread] at hread'
  have hboth : values = values' ∧ rest = rest' := by simpa using hread'
  exact hboth.1

theorem Declares.length {message : Message} {values : List CDouble} (h : Declares message values) :
    39 ≤ values.length := by
  obtain ⟨_, size, _, -, -, hsize, hlen⟩ := h
  simp only [tcsCtxSize] at hsize
  omega

/-- Only the first 39 values matter, and nothing of the prior context. -/
theorem copyValues_congr {values values' : List CDouble} (h : values.take 39 = values'.take 39)
    (ctx ctx' : TcsContext) : copyValues values ctx = copyValues values' ctx' := by
  refine TcsContext.ext_get fun field => ?_
  rw [get_copyValues, get_copyValues]
  cases source field with
  | constant c => rfl
  | value i =>
      have hi : (values.take 39)[i.val]? = (values'.take 39)[i.val]? := by rw [h]
      rw [List.getElem?_take_of_lt i.isLt, List.getElem?_take_of_lt i.isLt] at hi
      simp [FieldSource.eval, hi]

/-- The values a context was filled with. -/
def recoverValues (ctx : TcsContext) : List CDouble :=
  (List.finRange 39).map (fun i => ctx.get (fieldOf i))

theorem recoverValues_copyValues {values : List CDouble} (h : 39 ≤ values.length) (ctx : TcsContext) :
    recoverValues (copyValues values ctx) = values.take 39 := by
  refine List.ext_getElem (by simp [recoverValues, h]) fun i hi hi' => ?_
  have hlt : i < values.length := by
    simp only [recoverValues, List.length_map, List.length_finRange] at hi
    omega
  simp [recoverValues, get_copyValues, source_fieldOf, FieldSource.eval, hlt]

/-- **All or nothing.** The call returns `OK` precisely for a complete reply, and leaves the context as
    it was otherwise. After `OK`, every field holds its own one of the first 39 values or its constant,
    so that these values are recovered, and nothing else of the reply or the prior context matters. -/
theorem buildTcsContext_all_or_nothing (ctx : TcsContext) (message : Message) :
    ((buildTcsContext ctx message).1 ≠ .ok .ok → (buildTcsContext ctx message).2 = ctx)
    ∧ ((buildTcsContext ctx message).1 = .ok .ok ↔ ∃ values, Declares message values)
    ∧ (∀ values, Declares message values →
        (∀ field, (buildTcsContext ctx message).2.get field = (source field).eval values)
        ∧ recoverValues (buildTcsContext ctx message).2 = values.take 39
        ∧ ∀ ctx' message' values', Declares message' values' → values'.take 39 = values.take 39 →
            buildTcsContext ctx' message' = buildTcsContext ctx message)
    ∧ (∀ i, ∃! field, source field = .value i) := by
  have hfilled : ∀ ctx message values, Declares message values →
      buildTcsContext ctx message = (.ok .ok, copyValues values ctx) := by
    intro ctx message values hdeclares
    rcases buildTcsContext_cases ctx message with ⟨values', hdeclares', hbuild⟩ | ⟨hnone, -⟩
    · rw [hbuild, hdeclares'.unique hdeclares]
    · exact absurd hdeclares (hnone values)
  refine ⟨fun hresult => ?_, ?_, fun values hdeclares => ?_, source_value_unique⟩
  · rcases buildTcsContext_cases ctx message with ⟨values, -, hbuild⟩ | ⟨-, result, -, hbuild⟩
    · exact absurd (by rw [hbuild]) hresult
    · rw [hbuild]
  · constructor
    · intro hok
      rcases buildTcsContext_cases ctx message with ⟨values, hdeclares, -⟩ | ⟨-, result, hresult, hbuild⟩
      · exact ⟨values, hdeclares⟩
      · rw [hbuild] at hok
        exact absurd hok hresult
    · intro h
      obtain ⟨values, hdeclares⟩ := h
      rw [hfilled ctx message values hdeclares]
  · rw [hfilled ctx message values hdeclares]
    refine ⟨get_copyValues values ctx, recoverValues_copyValues hdeclares.length ctx,
      fun ctx' message' values' hdeclares' htake => ?_⟩
    rw [hfilled ctx' message' values' hdeclares', copyValues_congr htake]

end JmsTcsFetcher

end Giapi
