/-
  HwEfat.Aicpu.CpuKernel.UpdateTensor — `CpuKernelCache::UpdateTensor` of
  `cpu_kernel_cache.cc`: put the addresses and shapes of this call into the
  tensors of a context.

  The loops mutate the context tensor by tensor and stop at the first tensor they
  reject, so a rejected call leaves a half-updated context behind.  When nothing
  is rejected every tensor keeps its data type, gets a data address and a data
  size from this call, and gets its dims from this call only if the extend info
  carries them; otherwise it keeps the dims it had (`updateTensor_spec`).
-/
import HwEfat.Aicpu.ExtInfo.Def
import HwEfat.Aicpu.CpuKernel.Context

namespace HwEfat.Aicpu

open HwEfat.Lib (Mem)

namespace CpuKernelCache

/-! ## §1. The code. -/

/-- A signed word. -/
def loadI64 (mem : Mem) (a : Nat) : Int64 := (mem.load64 a).toInt64

/-- `GetDimsFromShapeAndType`; LLONG_MIN for dim end flag. -/
def getDimsFromShapeAndType (A : FwkAdapter) (mem : Mem) (shapeAndType : Nat) : List Int64 :=
  ((List.range A.kMaxShapeDims).map fun index =>
    loadI64 mem (shapeAndType + A.dimsOffset + 8 * index)).takeWhile (· ≠ Int64.minValue)

/-- `GetDimsFromArrays` -/
def getDimsFromArrays (mem : Mem) (shape len : Nat) : List Int64 :=
  (List.range len).map fun index => loadI64 mem (shape + 8 * index)

variable {AttrValue : Type}

/-- The second half of a turn of either loop: the shape from the extend info,
the check of the element number, the data size. -/
def setShapeAndSize (A : FwkAdapter) (P : Platform AttrValue) (mem : Mem) (unknownShape : Bool)
    (shapeAndType : List Nat) (accepts : List Int64 → Bool) (i : Nat) (t : Tensor) :
    UInt32 × Tensor :=
  let t :=
    if unknownShape then
      { t with dims := getDimsFromShapeAndType A mem (shapeAndType.getD i 0) }
    else t
  if !accepts t.dims then (KERNEL_STATUS_PARAM_INVALID, t)
  else
    (KERNEL_STATUS_OK,
      { t with dataSize := max 0 (P.calcDataSizeByShape t.dataType t.dims).toUInt64 })

/-- One turn of the loop over the inputs. -/
def updateInput (A : FwkAdapter) (P : Platform AttrValue) (mem : Mem) (i : Nat) (ioAddr : UInt64)
    (msg : ExtInfoMsg) (input : Tensor) : UInt32 × ExtInfoMsg × Tensor :=
  let rest (msg : ExtInfoMsg) (input : Tensor) :=
    (setShapeAndSize A P mem msg.unknownShape msg.inputShapeAndType
      (fun dims => 0 ≤ P.numElements dims) i input)
  match msg.unknownShapeInputIndexAddr[UInt32.ofNat i]? with
  | some _ =>
      let msg := { msg with
        unknownShapeInputIndexAddr :=
          msg.unknownShapeInputIndexAddr.insert (UInt32.ofNat i) ioAddr }
      let tensorDesc := ioAddr.toNat
      let shape0 := loadI64 mem (tensorDesc + A.shapeOffset)
      if ¬ shape0 ≤ Int64.ofNat A.kMaxDimSize then (KERNEL_STATUS_PARAM_INVALID, msg, input)
      else
        let dims := getDimsFromArrays mem (tensorDesc + A.shapeOffset + 8) shape0.toUInt64.toNat
        let (ret, input) := rest msg
          { input with dims := dims, data := mem.load64 (tensorDesc + A.dataAddrOffset) }
        (ret, msg, input)
  | none =>
      let (ret, input) := rest msg { input with data := ioAddr }
      (ret, msg, input)

/-- One turn of the loop over the outputs. -/
def updateOutput (A : FwkAdapter) (P : Platform AttrValue) (mem : Mem) (noTiling : Bool) (i : Nat)
    (ioAddr : UInt64) (msg : ExtInfoMsg) (output : Tensor) : UInt32 × ExtInfoMsg × Tensor :=
  let rest (msg : ExtInfoMsg) (output : Tensor) :=
    (setShapeAndSize A P mem msg.unknownShape msg.outputShapeAndType
      (fun dims => msg.unknownShape || !noTiling || 0 ≤ P.numElements dims) i output)
  match msg.unknownShapeOutputIndexAddr[UInt32.ofNat i]? with
  | some _ =>
      let msg := { msg with
        unknownShapeOutputIndexAddr :=
          msg.unknownShapeOutputIndexAddr.insert (UInt32.ofNat i) ioAddr }
      let tensorDesc := ioAddr.toNat
      let (ret, output) := rest msg
        { output with data := mem.load64 (tensorDesc + A.dataAddrOffset) }
      (ret, msg, output)
  | none =>
      let (ret, output) := rest msg { output with data := ioAddr }
      (ret, msg, output)

/-- A loop over tensors, each with its io address; it stops at the first turn
that fails. -/
def updateLoop (turn : Nat → UInt64 → ExtInfoMsg → Tensor → UInt32 × ExtInfoMsg × Tensor) :
    Nat → ExtInfoMsg → List (Tensor × UInt64) → UInt32 × ExtInfoMsg × List Tensor
  | _, msg, [] => (KERNEL_STATUS_OK, msg, [])
  | i, msg, (t, ioAddr) :: rest =>
      let (ret, msg, t) := turn i ioAddr msg t
      if ret ≠ KERNEL_STATUS_OK then (ret, msg, t :: rest.map Prod.fst)
      else
        let (ret, msg, ts) := updateLoop turn (i + 1) msg rest
        (ret, msg, t :: ts)

/-- The checks at the beginning of `UpdateTensor`. -/
def sizesAgree (ioAddrs : List UInt64) (msg : ExtInfoMsg) (ctx : CpuKernelContext AttrValue) :
    Bool :=
  ioAddrs.length == ctx.inputs.length + ctx.outputs.length &&
  !(msg.unknownShape &&
    (msg.inputShapeAndType.length != ctx.inputs.length ||
     msg.outputShapeAndType.length != ctx.outputs.length))

/-- `bool no_tiling = ext_info_msg.unknown_shape_output_index_addr.empty();` -/
def noTiling (msg : ExtInfoMsg) : Bool := msg.unknownShapeOutputIndexAddr.isEmpty

/-- `UpdateTensor`: the return code, the message and the context after it. -/
def updateTensor (A : FwkAdapter) (P : Platform AttrValue) (mem : Mem) (ioAddrs : List UInt64)
    (msg : ExtInfoMsg) (ctx : CpuKernelContext AttrValue) :
    UInt32 × ExtInfoMsg × CpuKernelContext AttrValue :=
  if !sizesAgree ioAddrs msg ctx then (KERNEL_STATUS_PARAM_INVALID, msg, ctx)
  else
    let (ret, msg, inputs) :=
      updateLoop (updateInput A P mem) 0 msg (ctx.inputs.zip ioAddrs)
    if ret ≠ KERNEL_STATUS_OK then (ret, msg, { ctx with inputs := inputs })
    else
      let (ret, msg, outputs) :=
        updateLoop (updateOutput A P mem (noTiling msg)) 0 msg
          (ctx.outputs.zip (ioAddrs.drop ctx.inputs.length))
      (ret, msg, { ctx with inputs := inputs, outputs := outputs })

/-! ## §2. What a turn does. -/

/-- What the loops and the code after them read of the message, and no turn of a
loop changes: it only fills in addresses. -/
structure SameView (msg msg' : ExtInfoMsg) : Prop where
  asyncFlag : msg.asyncFlag = msg'.asyncFlag
  waitType : msg.waitType = msg'.waitType
  waitId : msg.waitId = msg'.waitId
  unknownShape : msg.unknownShape = msg'.unknownShape
  inputShapeAndType : msg.inputShapeAndType = msg'.inputShapeAndType
  outputShapeAndType : msg.outputShapeAndType = msg'.outputShapeAndType
  inputIndex : ∀ k : UInt32, (msg.unknownShapeInputIndexAddr[k]?).isSome
    = (msg'.unknownShapeInputIndexAddr[k]?).isSome
  outputIndex : ∀ k : UInt32, (msg.unknownShapeOutputIndexAddr[k]?).isSome
    = (msg'.unknownShapeOutputIndexAddr[k]?).isSome

theorem SameView.refl (msg : ExtInfoMsg) : SameView msg msg :=
  ⟨rfl, rfl, rfl, rfl, rfl, rfl, fun _ => rfl, fun _ => rfl⟩

theorem SameView.trans {m m' m'' : ExtInfoMsg} (h : SameView m m') (h' : SameView m' m'') :
    SameView m m'' :=
  ⟨h.asyncFlag.trans h'.asyncFlag, h.waitType.trans h'.waitType, h.waitId.trans h'.waitId,
    h.unknownShape.trans h'.unknownShape, h.inputShapeAndType.trans h'.inputShapeAndType,
    h.outputShapeAndType.trans h'.outputShapeAndType,
    fun k => (h.inputIndex k).trans (h'.inputIndex k),
    fun k => (h.outputIndex k).trans (h'.outputIndex k)⟩

/-- `iter->second = …` keeps the key set. -/
theorem isSome_insert_of_isSome {m : Std.ExtTreeMap UInt32 UInt64} {i : UInt32}
    (hi : (m[i]?).isSome) (v : UInt64) (k : UInt32) : ((m.insert i v)[k]?).isSome = (m[k]?).isSome := by
  rw [Std.ExtTreeMap.getElem?_insert]
  by_cases hik : i = k
  · rw [if_pos (by rwa [Std.compare_eq_iff_eq]), ← hik, hi]
    rfl
  · rw [if_neg (by rwa [Std.compare_eq_iff_eq])]

/-- Where the final dims, the data address and the verdict on a tensor come from.
`dims` maps the dims a tensor had to those it ends with. -/
structure Plan where
  descOk : Bool
  dims : List Int64 → List Int64
  accepts : List Int64 → Bool
  data : UInt64

/-- The tensor is accepted ... -/
def Plan.ok (plan : Plan) (t : Tensor) : Prop :=
  plan.descOk = true ∧ plan.accepts (plan.dims t.dims) = true

/-- ... and is then this one. -/
def Plan.result (P : Platform AttrValue) (plan : Plan) (t : Tensor) : Tensor :=
  { dataType := t.dataType
    dims := plan.dims t.dims
    data := plan.data
    dataSize := max 0 (P.calcDataSizeByShape t.dataType (plan.dims t.dims)).toUInt64 }

/-- The plan for input `i`. -/
def inputPlan (A : FwkAdapter) (P : Platform AttrValue) (mem : Mem) (msg : ExtInfoMsg) (i : Nat)
    (ioAddr : UInt64) : Plan :=
  let found := (msg.unknownShapeInputIndexAddr[UInt32.ofNat i]?).isSome
  let shape0 := loadI64 mem (ioAddr.toNat + A.shapeOffset)
  { descOk := !found || shape0 ≤ Int64.ofNat A.kMaxDimSize
    dims := fun dims =>
      if msg.unknownShape then getDimsFromShapeAndType A mem (msg.inputShapeAndType.getD i 0)
      else if found then
        getDimsFromArrays mem (ioAddr.toNat + A.shapeOffset + 8) shape0.toUInt64.toNat
      else dims
    accepts := fun dims => 0 ≤ P.numElements dims
    data := if found then mem.load64 (ioAddr.toNat + A.dataAddrOffset) else ioAddr }

/-- The plan for output `i`. -/
def outputPlan (A : FwkAdapter) (P : Platform AttrValue) (mem : Mem) (noTiling : Bool)
    (msg : ExtInfoMsg) (i : Nat) (ioAddr : UInt64) : Plan :=
  { descOk := true
    dims := fun dims =>
      if msg.unknownShape then getDimsFromShapeAndType A mem (msg.outputShapeAndType.getD i 0)
      else dims
    accepts := fun dims => msg.unknownShape || !noTiling || 0 ≤ P.numElements dims
    data :=
      if (msg.unknownShapeOutputIndexAddr[UInt32.ofNat i]?).isSome then
        mem.load64 (ioAddr.toNat + A.dataAddrOffset)
      else ioAddr }

/-- A turn follows its plan. -/
structure Follows (P : Platform AttrValue) (plan : Plan) (msg : ExtInfoMsg) (t : Tensor)
    (out : UInt32 × ExtInfoMsg × Tensor) : Prop where
  view : SameView msg out.2.1
  dataType : out.2.2.dataType = t.dataType
  ok : out.1 = KERNEL_STATUS_OK ↔ plan.ok t
  result : out.1 = KERNEL_STATUS_OK → out.2.2 = plan.result P t

variable {A : FwkAdapter} {P : Platform AttrValue} {mem : Mem}

/-- The second half of a turn. -/
theorem setShapeAndSize_eq (unknownShape : Bool) (shapeAndType : List Nat)
    (accepts : List Int64 → Bool) (i : Nat) (t : Tensor) {dims : List Int64}
    (hdims : (if unknownShape then getDimsFromShapeAndType A mem (shapeAndType.getD i 0)
      else t.dims) = dims) :
    setShapeAndSize A P mem unknownShape shapeAndType accepts i t =
      if accepts dims then
        (KERNEL_STATUS_OK,
          { t with
            dims := dims
            dataSize := max 0 (P.calcDataSizeByShape t.dataType dims).toUInt64 })
      else (KERNEL_STATUS_PARAM_INVALID, { t with dims := dims }) := by
  subst hdims
  unfold setShapeAndSize
  generalize getDimsFromShapeAndType A mem (shapeAndType.getD i 0) = d
  cases unknownShape with
  | true => cases h : accepts d <;> simp [h]
  | false => cases h : accepts t.dims <;> simp [h]

/-- What follows from it for a whole turn, which starts by turning `t` into `t'`. -/
theorem follows_of_rest (plan : Plan) {msg msg' : ExtInfoMsg} (t t' : Tensor)
    (unknownShape : Bool) (shapeAndType : List Nat) (i : Nat) (hview : SameView msg msg')
    (hdesc : plan.descOk = true) (htype : t'.dataType = t.dataType) (hdata : t'.data = plan.data)
    (hdims : (if unknownShape then getDimsFromShapeAndType A mem (shapeAndType.getD i 0)
      else t'.dims) = plan.dims t.dims) :
    Follows P plan msg t
      ((setShapeAndSize A P mem unknownShape shapeAndType plan.accepts i t').1, msg',
        (setShapeAndSize A P mem unknownShape shapeAndType plan.accepts i t').2) := by
  rw [setShapeAndSize_eq _ _ _ _ _ hdims]
  by_cases haccept : plan.accepts (plan.dims t.dims) = true
  · rw [if_pos haccept]
    refine ⟨hview, htype, ⟨fun _ => ⟨hdesc, haccept⟩, fun _ => rfl⟩, fun _ => ?_⟩
    rw [Plan.result, ← htype, ← hdata]
  · rw [if_neg haccept]
    have hne : KERNEL_STATUS_PARAM_INVALID ≠ KERNEL_STATUS_OK := by decide
    exact ⟨hview, htype, ⟨fun h => absurd h hne, fun h => absurd h.2 haccept⟩,
      fun h => absurd h hne⟩

/-- **A turn of the input loop** follows the plan for its input. -/
theorem updateInput_follows (i : Nat) (ioAddr : UInt64) (msg : ExtInfoMsg) (input : Tensor) :
    Follows P (inputPlan A P mem msg i ioAddr) msg input
      (updateInput A P mem i ioAddr msg input) := by
  unfold updateInput
  cases hfound : msg.unknownShapeInputIndexAddr[UInt32.ofNat i]? with
  | none =>
      -- the address is that of the data itself
      refine follows_of_rest (inputPlan A P mem msg i ioAddr) input { input with data := ioAddr }
        msg.unknownShape msg.inputShapeAndType i (.refl msg) ?_ rfl ?_ ?_
      all_goals simp [inputPlan, hfound]
  | some v =>
      -- the address is that of a descriptor, which is also recorded in the message
      have hview : SameView msg { msg with
          unknownShapeInputIndexAddr :=
            msg.unknownShapeInputIndexAddr.insert (UInt32.ofNat i) ioAddr } :=
        ⟨rfl, rfl, rfl, rfl, rfl, rfl,
          fun k => (isSome_insert_of_isSome (by rw [hfound]; rfl) ioAddr k).symm, fun _ => rfl⟩
      by_cases hdesc : loadI64 mem (ioAddr.toNat + A.shapeOffset) ≤ Int64.ofNat A.kMaxDimSize
      · simp only [hdesc, not_true_eq_false, if_false]
        refine follows_of_rest (inputPlan A P mem msg i ioAddr) input _
          msg.unknownShape msg.inputShapeAndType i hview ?_ rfl ?_ ?_
        all_goals simp [inputPlan, hfound, hdesc]
      · -- the descriptor is rejected before anything is written
        have hne : KERNEL_STATUS_PARAM_INVALID ≠ KERNEL_STATUS_OK := by decide
        simp only [hdesc, not_false_eq_true, if_true]
        refine ⟨hview, rfl, ⟨fun h => absurd h hne, fun h => ?_⟩, fun h => absurd h hne⟩
        have hok := h.1
        simp [inputPlan, hfound, hdesc] at hok

/-- **A turn of the output loop** follows the plan for its output. -/
theorem updateOutput_follows (noTiling : Bool) (i : Nat) (ioAddr : UInt64) (msg : ExtInfoMsg)
    (output : Tensor) :
    Follows P (outputPlan A P mem noTiling msg i ioAddr) msg output
      (updateOutput A P mem noTiling i ioAddr msg output) := by
  unfold updateOutput
  cases hfound : msg.unknownShapeOutputIndexAddr[UInt32.ofNat i]? with
  | none =>
      refine follows_of_rest (outputPlan A P mem noTiling msg i ioAddr) output
        { output with data := ioAddr } msg.unknownShape msg.outputShapeAndType i (.refl msg)
        rfl rfl ?_ rfl
      simp [outputPlan, hfound]
  | some v =>
      have hview : SameView msg { msg with
          unknownShapeOutputIndexAddr :=
            msg.unknownShapeOutputIndexAddr.insert (UInt32.ofNat i) ioAddr } :=
        ⟨rfl, rfl, rfl, rfl, rfl, rfl, fun _ => rfl,
          fun k => (isSome_insert_of_isSome (by rw [hfound]; rfl) ioAddr k).symm⟩
      refine follows_of_rest (outputPlan A P mem noTiling msg i ioAddr) output _
        msg.unknownShape msg.outputShapeAndType i hview rfl rfl ?_ rfl
      simp [outputPlan, hfound]

/-! ## §3. The loops. -/

/-- The plans depend only on what no turn changes. -/
theorem inputPlan_congr {msg msg' : ExtInfoMsg} (h : SameView msg msg') (i : Nat)
    (ioAddr : UInt64) : inputPlan A P mem msg i ioAddr = inputPlan A P mem msg' i ioAddr := by
  unfold inputPlan
  rw [h.unknownShape, h.inputShapeAndType, h.inputIndex]

/-- The plan of an output depends on the view of the message only. -/
theorem outputPlan_congr {msg msg' : ExtInfoMsg} (h : SameView msg msg') (noTiling : Bool)
    (i : Nat) (ioAddr : UInt64) :
    outputPlan A P mem noTiling msg i ioAddr = outputPlan A P mem noTiling msg' i ioAddr := by
  unfold outputPlan
  rw [h.unknownShape, h.outputShapeAndType, h.outputIndex]

section Turn

variable {turn : Nat → UInt64 → ExtInfoMsg → Tensor → UInt32 × ExtInfoMsg × Tensor} {i : Nat}
  {msg : ExtInfoMsg} {t : Tensor} {a : UInt64} {rest : List (Tensor × UInt64)}

/-- After a turn that succeeds the loop goes on ... -/
theorem updateLoop_cons_of_ok (hret : (turn i a msg t).1 = KERNEL_STATUS_OK) :
    updateLoop turn i msg ((t, a) :: rest) =
      ((updateLoop turn (i + 1) (turn i a msg t).2.1 rest).1,
        (updateLoop turn (i + 1) (turn i a msg t).2.1 rest).2.1,
        (turn i a msg t).2.2 :: (updateLoop turn (i + 1) (turn i a msg t).2.1 rest).2.2) := by
  rw [updateLoop]
  exact if_neg (fun h => h hret)

/-- ... and after one that fails it stops. -/
theorem updateLoop_cons_of_error (hret : (turn i a msg t).1 ≠ KERNEL_STATUS_OK) :
    updateLoop turn i msg ((t, a) :: rest) =
      ((turn i a msg t).1, (turn i a msg t).2.1, (turn i a msg t).2.2 :: rest.map Prod.fst) := by
  rw [updateLoop]
  exact if_pos hret

end Turn

/-- **A loop in closed form.**  With a plan for each tensor, the loop keeps the
data types; it succeeds exactly when every tensor is accepted, and then every
tensor is the result of its plan. -/
theorem updateLoop_spec {turn : Nat → UInt64 → ExtInfoMsg → Tensor → UInt32 × ExtInfoMsg × Tensor}
    {plan : ExtInfoMsg → Nat → UInt64 → Plan}
    (hcongr : ∀ msg msg', SameView msg msg' → ∀ i a, plan msg i a = plan msg' i a)
    (hturn : ∀ i a msg t, Follows P (plan msg i a) msg t (turn i a msg t)) :
    ∀ (l : List (Tensor × UInt64)) (i : Nat) (msg : ExtInfoMsg),
      SameView msg (updateLoop turn i msg l).2.1 ∧
      (updateLoop turn i msg l).2.2.map Tensor.dataType = l.map (fun p => p.1.dataType) ∧
      ((updateLoop turn i msg l).1 = KERNEL_STATUS_OK ↔
        ∀ j p, l[j]? = some p → (plan msg (i + j) p.2).ok p.1) ∧
      ((updateLoop turn i msg l).1 = KERNEL_STATUS_OK →
        (updateLoop turn i msg l).2.2 =
          l.mapIdx (fun j p => (plan msg (i + j) p.2).result P p.1))
  | [], i, msg => by
      refine ⟨.refl msg, rfl, ⟨fun _ j p h => ?_, fun _ => rfl⟩, fun _ => rfl⟩
      cases h
  | (t, a) :: rest, i, msg => by
      have hfirst := hturn i a msg t
      obtain ⟨hview, htypes, hok, hresult⟩ :=
        updateLoop_spec hcongr hturn rest (i + 1) (turn i a msg t).2.1
      -- what the first turn did to the message is invisible to the later plans
      have hplan : ∀ j p, plan (turn i a msg t).2.1 (i + 1 + j) p = plan msg (i + (j + 1)) p := by
        intro j p
        rw [← hcongr _ _ hfirst.view, Nat.add_assoc, Nat.add_comm 1 j]
      by_cases hret : (turn i a msg t).1 = KERNEL_STATUS_OK
      · rw [updateLoop_cons_of_ok hret]
        refine ⟨hfirst.view.trans hview, ?_, ?_, ?_⟩
        · rw [List.map_cons, htypes, hfirst.dataType]
          rfl
        · show (updateLoop turn (i + 1) (turn i a msg t).2.1 rest).1 = _ ↔ _
          rw [hok]
          constructor
          · intro h j p hj
            cases j with
            | zero =>
                cases hj
                exact hfirst.ok.mp hret
            | succ j =>
                rw [← hplan j]
                exact h j p hj
          · intro h j p hj
            rw [hplan j]
            exact h (j + 1) p hj
        · intro h
          show (turn i a msg t).2.2 :: _ = _
          rw [hresult h, hfirst.result hret, List.mapIdx_cons]
          congr 1
          simp only [hplan]
      · rw [updateLoop_cons_of_error hret]
        refine ⟨hfirst.view, ?_, ⟨fun h => absurd h hret, fun h => ?_⟩, fun h => absurd h hret⟩
        · rw [List.map_cons, hfirst.dataType, List.map_map]
          rfl
        · exact absurd (hfirst.ok.mpr (h 0 (t, a) rfl)) hret

/-! ## §4. `UpdateTensor`. -/

/-- The tensors a loop leaves when it accepts all of them. -/
def results (P : Platform AttrValue) (plan : Nat → UInt64 → Plan) (ts : List Tensor)
    (ioAddrs : List UInt64) : List Tensor :=
  (ts.zip ioAddrs).mapIdx fun j p => (plan j p.2).result P p.1

/-- All of them are accepted. -/
def allOk (plan : Nat → UInt64 → Plan) (ts : List Tensor) (ioAddrs : List UInt64) : Prop :=
  ∀ j t a, ts[j]? = some t → ioAddrs[j]? = some a → (plan j a).ok t

/-- Whether outputs are tiled, too. -/
theorem noTiling_congr {msg msg' : ExtInfoMsg} (h : SameView msg msg') :
    noTiling msg = noTiling msg' := by
  have hiff : ∀ m : Std.ExtTreeMap UInt32 UInt64, m.isEmpty = true ↔
      ∀ k : UInt32, (m[k]?).isSome = false := by
    intro m
    rw [Std.ExtTreeMap.isEmpty_iff]
    constructor
    · intro hm k
      rw [hm, Std.ExtTreeMap.getElem?_empty]
      rfl
    · intro hm
      refine Std.ExtTreeMap.ext_getElem? (fun k => ?_)
      rw [Std.ExtTreeMap.getElem?_empty]
      exact Option.not_isSome_iff_eq_none.mp (by rw [hm k]; decide)
  unfold noTiling
  rw [Bool.eq_iff_iff, hiff, hiff]
  refine forall_congr' (fun k => ?_)
  rw [h.outputIndex k]

/-- A loop is fine if all its turns are. -/
theorem loop_ok_iff (plan : Nat → UInt64 → Plan) (ts : List Tensor) (ioAddrs : List UInt64) :
    (∀ j p, (ts.zip ioAddrs)[j]? = some p → (plan (0 + j) p.2).ok p.1) ↔
      allOk plan ts ioAddrs := by
  constructor
  · intro h j t a ht ha
    have hj := h j (t, a) (List.getElem?_zip_eq_some.mpr ⟨ht, ha⟩)
    rwa [Nat.zero_add] at hj
  · intro h j p hj
    obtain ⟨ht, ha⟩ := List.getElem?_zip_eq_some.mp hj
    rw [Nat.zero_add]
    exact h j p.1 p.2 ht ha

/-- There is an address for each input and each output. -/
theorem length_of_sizesAgree {ioAddrs : List UInt64} {msg : ExtInfoMsg}
    {ctx : CpuKernelContext AttrValue} (h : sizesAgree ioAddrs msg ctx = true) :
    ioAddrs.length = ctx.inputs.length + ctx.outputs.length := by
  rw [sizesAgree, Bool.and_eq_true] at h
  exact beq_iff_eq.mp h.1

/-- **`UpdateTensor` in closed form.**  It fills in addresses of the message, and
changes dims, addresses and sizes of the tensors only; it succeeds exactly when the
sizes agree and every tensor is accepted, and then every tensor is the result of its
plan. -/
theorem updateTensor_spec (ioAddrs : List UInt64) (msg : ExtInfoMsg)
    (ctx : CpuKernelContext AttrValue) :
    SameView msg (updateTensor A P mem ioAddrs msg ctx).2.1 ∧
    ctx.SameFrame (updateTensor A P mem ioAddrs msg ctx).2.2 ∧
    ((updateTensor A P mem ioAddrs msg ctx).1 = KERNEL_STATUS_OK ↔
      sizesAgree ioAddrs msg ctx = true ∧
      allOk (inputPlan A P mem msg) ctx.inputs ioAddrs ∧
      allOk (outputPlan A P mem (noTiling msg) msg) ctx.outputs
        (ioAddrs.drop ctx.inputs.length)) ∧
    ((updateTensor A P mem ioAddrs msg ctx).1 = KERNEL_STATUS_OK →
      (updateTensor A P mem ioAddrs msg ctx).2.2 = { ctx with
        inputs := results P (inputPlan A P mem msg) ctx.inputs ioAddrs
        outputs := results P (outputPlan A P mem (noTiling msg) msg) ctx.outputs
          (ioAddrs.drop ctx.inputs.length) }) := by
  have hne : KERNEL_STATUS_PARAM_INVALID ≠ KERNEL_STATUS_OK := by decide
  unfold updateTensor
  by_cases hsizes : sizesAgree ioAddrs msg ctx = true
  · have hlen := length_of_sizesAgree hsizes
    have hdrop : ctx.outputs.length ≤ (ioAddrs.drop ctx.inputs.length).length := by
      rw [List.length_drop]
      omega
    -- a loop over zipped lists keeps the data types of its tensors
    have hzip : ∀ (ts : List Tensor) (addrs : List UInt64), ts.length ≤ addrs.length →
        (ts.zip addrs).map (fun p => p.1.dataType) = ts.map Tensor.dataType := by
      intro ts addrs hle
      conv => rhs; rw [← List.map_fst_zip hle, List.map_map]
      rfl
    have hin := updateLoop_spec (P := P) (fun m m' h i a => inputPlan_congr h i a)
      (fun i a m t => @updateInput_follows _ A P mem i a m t)
      (ctx.inputs.zip ioAddrs) 0 msg
    rw [loop_ok_iff, hzip _ _ (by omega)] at hin
    simp only [Nat.zero_add] at hin
    generalize updateLoop (updateInput A P mem) 0 msg (ctx.inputs.zip ioAddrs) = out at hin ⊢
    obtain ⟨ret, msg₁, inputs⟩ := out
    obtain ⟨hview, htypes, hok, hresult⟩ := hin
    have hout := updateLoop_spec (P := P) (fun m m' h i a => outputPlan_congr h (noTiling msg₁) i a)
      (fun i a m t => @updateOutput_follows _ A P mem (noTiling msg₁) i a m t)
      (ctx.outputs.zip (ioAddrs.drop ctx.inputs.length)) 0 msg₁
    rw [loop_ok_iff, hzip _ _ hdrop] at hout
    simp only [Nat.zero_add] at hout
    -- the output loop runs on the message of the input loop, which looks the same
    have hplan : ∀ j a, outputPlan A P mem (noTiling msg₁) msg₁ j a
        = outputPlan A P mem (noTiling msg) msg j a := by
      intro j a
      rw [← noTiling_congr hview, outputPlan_congr hview]
    simp only [hsizes, Bool.not_true, Bool.false_eq_true, if_false]
    by_cases hret : ret = KERNEL_STATUS_OK
    · rw [if_neg (fun h => h hret)]
      generalize updateLoop (updateOutput A P mem (noTiling msg₁)) 0 msg₁
        (ctx.outputs.zip (ioAddrs.drop ctx.inputs.length)) = out at hout ⊢
      obtain ⟨hview', htypes', hok', hresult'⟩ := hout
      have hall : allOk (outputPlan A P mem (noTiling msg₁) msg₁) ctx.outputs
            (ioAddrs.drop ctx.inputs.length) ↔
          allOk (outputPlan A P mem (noTiling msg) msg) ctx.outputs
            (ioAddrs.drop ctx.inputs.length) := by
        unfold allOk
        simp only [hplan]
      refine ⟨hview.trans hview', ⟨rfl, rfl, rfl, htypes.symm, htypes'.symm⟩, ?_, fun h => ?_⟩
      · show out.1 = _ ↔ _
        rw [hok', hall]
        exact ⟨fun h => ⟨trivial, hok.mp hret, h⟩, fun h => h.2.2⟩
      · have hinputs : inputs = results P (inputPlan A P mem msg) ctx.inputs ioAddrs :=
          hresult hret
        have houtputs : out.2.2 = results P (outputPlan A P mem (noTiling msg) msg) ctx.outputs
            (ioAddrs.drop ctx.inputs.length) := by
          rw [hresult' h]
          unfold results
          simp only [hplan]
        rw [← hinputs, ← houtputs]
    · rw [if_pos hret]
      refine ⟨hview, ⟨rfl, rfl, rfl, htypes.symm, rfl⟩, ⟨fun h => absurd h hret, fun h => ?_⟩,
        fun h => absurd h hret⟩
      exact hok.mpr h.2.1
  · rw [Bool.not_eq_true] at hsizes
    simp only [hsizes, Bool.not_false, if_true]
    exact ⟨.refl msg, .refl ctx, ⟨fun h => absurd h hne, fun h => absurd h.1 (by decide)⟩,
      fun h => absurd h hne⟩

/-! ## §5. One call on two contexts. -/

/-- Tensors with the same types are as many. -/
theorem length_eq_of_types {ts ts' : List Tensor}
    (h : ts.map Tensor.dataType = ts'.map Tensor.dataType) : ts.length = ts'.length := by
  simpa only [List.length_map] using congrArg List.length h

/-- The result of one tensor is that of its plan. -/
theorem getElem?_results (plan : Nat → UInt64 → Plan) {ts : List Tensor} {ioAddrs : List UInt64}
    {j : Nat} {t : Tensor} {a : UInt64} (ht : ts[j]? = some t) (ha : ioAddrs[j]? = some a) :
    (results P plan ts ioAddrs)[j]? = some ((plan j a).result P t) := by
  have hzip : (ts.zip ioAddrs)[j]? = some (t, a) := List.getElem?_zip_eq_some.mpr ⟨ht, ha⟩
  rw [results, List.getElem?_mapIdx, hzip]
  rfl

/-- On tensors of the same data types, the loops leave the same tensors exactly
when they give them the same dims. -/
theorem results_eq_iff (plan : Nat → UInt64 → Plan) {ts ts' : List Tensor}
    {ioAddrs : List UInt64} (hlen : ts.length ≤ ioAddrs.length)
    (htypes : ts.map Tensor.dataType = ts'.map Tensor.dataType) :
    results P plan ts ioAddrs = results P plan ts' ioAddrs ↔
      ∀ j t t' a, ts[j]? = some t → ts'[j]? = some t' → ioAddrs[j]? = some a →
        (plan j a).dims t.dims = (plan j a).dims t'.dims := by
  constructor
  · intro heq j t t' a ht ht' ha
    have hj := getElem?_results (P := P) plan ht ha
    rw [heq, getElem?_results (P := P) plan ht' ha, Option.some.injEq] at hj
    exact (congrArg Tensor.dims hj).symm
  · intro h
    have hlen' : ts.length = ts'.length := length_eq_of_types htypes
    refine List.ext_getElem? (fun j => ?_)
    by_cases hj : j < ts.length
    · obtain ⟨t, ht⟩ : ∃ t, ts[j]? = some t := ⟨_, List.getElem?_eq_getElem hj⟩
      obtain ⟨t', ht'⟩ : ∃ t', ts'[j]? = some t' := ⟨_, List.getElem?_eq_getElem (by omega)⟩
      obtain ⟨a, ha⟩ : ∃ a, ioAddrs[j]? = some a := ⟨_, List.getElem?_eq_getElem (by omega)⟩
      rw [getElem?_results plan ht ha, getElem?_results plan ht' ha]
      have htype := congrArg (fun l => l[j]?) htypes
      simp only [List.getElem?_map, ht, ht', Option.map_some, Option.some.injEq] at htype
      unfold Plan.result
      rw [h j _ _ _ ht ht' ha, htype]
    · -- past the end of both lists
      rw [List.getElem?_eq_none, List.getElem?_eq_none]
      · rw [results, List.length_mapIdx, List.length_zip]
        omega
      · rw [results, List.length_mapIdx, List.length_zip]
        omega

/-- Whether this call gives input `j` its dims. -/
def inputReapplied (msg : ExtInfoMsg) (j : Nat) : Bool :=
  msg.unknownShape || (msg.unknownShapeInputIndexAddr[UInt32.ofNat j]?).isSome

/-- Tensors whose dims this call leaves alone have the same dims in both lists. -/
def SameDims (reapplied : Nat → Bool) (ts ts' : List Tensor) : Prop :=
  ∀ j t t', ts[j]? = some t → ts'[j]? = some t' → reapplied j = true ∨ t.dims = t'.dims

/-- Acceptance, too, depends on the final dims only. -/
theorem allOk_congr (plan : Nat → UInt64 → Plan) {ts ts' : List Tensor} {ioAddrs : List UInt64}
    (hlen : ts.length = ts'.length)
    (hdims : ∀ j t t' a, ts[j]? = some t → ts'[j]? = some t' → ioAddrs[j]? = some a →
      (plan j a).dims t.dims = (plan j a).dims t'.dims) (h : allOk plan ts ioAddrs) :
    allOk plan ts' ioAddrs := by
  intro j t' a ht' ha
  have hj : j < ts'.length := (List.getElem?_eq_some_iff.mp ht').1
  obtain ⟨t, ht⟩ : ∃ t, ts[j]? = some t := ⟨_, List.getElem?_eq_getElem (by omega)⟩
  obtain ⟨hdesc, haccept⟩ := h j t a ht ha
  exact ⟨hdesc, by rwa [← hdims j t t' a ht ht' ha]⟩

/-- A plan replaces the dims, or leaves them alone. -/
def Replaces (reapplied : Nat → Bool) (plan : Nat → UInt64 → Plan) : Prop :=
  ∀ j a, if reapplied j then ∀ d d', (plan j a).dims d = (plan j a).dims d'
    else ∀ d, (plan j a).dims d = d

/-- The plan of an input replaces the dimensions where it is applied again, -/
theorem inputPlan_replaces (msg : ExtInfoMsg) :
    Replaces (inputReapplied msg) (inputPlan A P mem msg) := by
  intro j a
  unfold inputReapplied inputPlan
  cases msg.unknownShape <;> cases (msg.unknownShapeInputIndexAddr[UInt32.ofNat j]?).isSome <;>
    simp

/-- that of an output where the shapes are unknown. -/
theorem outputPlan_replaces (msg : ExtInfoMsg) :
    Replaces (fun _ => msg.unknownShape) (outputPlan A P mem (noTiling msg) msg) := by
  intro j a
  unfold outputPlan
  cases msg.unknownShape <;> simp

/-- **Two contexts end with the same dimensions** if they had the same where none is replaced. -/
theorem sameDims_iff {reapplied : Nat → Bool} {plan : Nat → UInt64 → Plan}
    (hplan : Replaces reapplied plan) {ts ts' : List Tensor} {ioAddrs : List UInt64}
    (hlen : ts.length ≤ ioAddrs.length) :
    (∀ j t t' a, ts[j]? = some t → ts'[j]? = some t' → ioAddrs[j]? = some a →
      (plan j a).dims t.dims = (plan j a).dims t'.dims) ↔ SameDims reapplied ts ts' := by
  constructor
  · intro h j t t' ht ht'
    obtain ⟨a, ha⟩ : ∃ a, ioAddrs[j]? = some a :=
      ⟨_, List.getElem?_eq_getElem (Nat.lt_of_lt_of_le (List.getElem?_eq_some_iff.mp ht).1 hlen)⟩
    have hdims := h j t t' a ht ht' ha
    have hj := hplan j a
    cases hr : reapplied j with
    | true => exact Or.inl rfl
    | false =>
        rw [hr] at hj
        simp only [Bool.false_eq_true, if_false] at hj
        rw [hj, hj] at hdims
        exact Or.inr hdims
  · intro h j t t' a ht ht' _
    have hj := hplan j a
    rcases h j t t' ht ht' with hr | hdims
    · rw [hr] at hj
      simp only [if_true] at hj
      exact hj t.dims t'.dims
    · rw [hdims]

/-- Both questions about two lists of tensors, in terms of the dims the call
leaves alone. -/
theorem results_eq_iff_sameDims {reapplied : Nat → Bool} {plan : Nat → UInt64 → Plan}
    (hplan : Replaces reapplied plan) {ts ts' : List Tensor} {ioAddrs : List UInt64}
    (hlen : ts.length ≤ ioAddrs.length)
    (htypes : ts.map Tensor.dataType = ts'.map Tensor.dataType) (hok : allOk plan ts ioAddrs) :
    (allOk plan ts' ioAddrs ∧ results P plan ts ioAddrs = results P plan ts' ioAddrs) ↔
      SameDims reapplied ts ts' := by
  have hlen' : ts.length = ts'.length := length_eq_of_types htypes
  rw [results_eq_iff plan hlen htypes, sameDims_iff hplan hlen]
  constructor
  · exact fun h => h.2
  · intro h
    exact ⟨allOk_congr plan hlen' ((sameDims_iff hplan hlen).mpr h) hok, h⟩

/-- Tensors that agree but for dims and data sizes, and in these too where the call
gives the dims. -/
def AgreeBut (reapplied : Nat → Bool) (ts ts' : List Tensor) : Prop :=
  ts.length = ts'.length ∧ ∀ j t t', ts[j]? = some t → ts'[j]? = some t' →
    t.dataType = t'.dataType ∧ t.data = t'.data ∧
      (reapplied j = true → t.dims = t'.dims ∧ t.dataSize = t'.dataSize)

/-- One call makes tensors of the same data types agree that far. -/
theorem agreeBut_results {reapplied : Nat → Bool} {plan : Nat → UInt64 → Plan}
    (hplan : Replaces reapplied plan) {ts ts' : List Tensor} {ioAddrs : List UInt64}
    (htypes : ts.map Tensor.dataType = ts'.map Tensor.dataType) :
    AgreeBut reapplied (results P plan ts ioAddrs) (results P plan ts' ioAddrs) := by
  have hlen : ts.length = ts'.length := length_eq_of_types htypes
  -- element `j` of the results comes from element `j` of the tensors
  have hfrom : ∀ (l : List Tensor) j t, (results P plan l ioAddrs)[j]? = some t →
      ∃ t₀ a, l[j]? = some t₀ ∧ ioAddrs[j]? = some a ∧ t = (plan j a).result P t₀ := by
    intro l j t ht
    rw [results, List.getElem?_mapIdx, Option.map_eq_some_iff] at ht
    obtain ⟨⟨t₀, a⟩, hzip, rfl⟩ := ht
    obtain ⟨ht₀, ha⟩ := List.getElem?_zip_eq_some.mp hzip
    exact ⟨t₀, a, ht₀, ha, rfl⟩
  refine ⟨by simp [results, hlen], fun j t t' ht ht' => ?_⟩
  obtain ⟨t₀, a, ht₀, ha, rfl⟩ := hfrom ts j t ht
  obtain ⟨t₀', a', ht₀', ha', rfl⟩ := hfrom ts' j t' ht'
  obtain rfl : a' = a := Option.some.inj (ha'.symm.trans ha)
  have htype : t₀.dataType = t₀'.dataType := by
    have hj := congrArg (fun l => l[j]?) htypes
    simpa [List.getElem?_map, ht₀, ht₀'] using hj
  refine ⟨htype, rfl, fun hre => ?_⟩
  have hj := hplan j a'
  rw [hre] at hj
  simp only [if_true] at hj
  unfold Plan.result
  rw [hj t₀.dims t₀'.dims, htype]
  exact ⟨rfl, rfl⟩

/-- **When one call makes two contexts equal.**  Two contexts of the same op and
the same data types, the first of which `UpdateTensor` accepts, end up equal
exactly when they have the same device type and attributes, and the same dims
wherever the call leaves the dims alone. -/
theorem updateTensor_agree_iff {ioAddrs : List UInt64} {msg : ExtInfoMsg}
    {c c' : CpuKernelContext AttrValue} (hop : c.op = c'.op)
    (hin : c.inputs.map Tensor.dataType = c'.inputs.map Tensor.dataType)
    (hout : c.outputs.map Tensor.dataType = c'.outputs.map Tensor.dataType)
    (hok : (updateTensor A P mem ioAddrs msg c).1 = KERNEL_STATUS_OK) :
    ((updateTensor A P mem ioAddrs msg c').1 = KERNEL_STATUS_OK ∧
      (updateTensor A P mem ioAddrs msg c).2.2 = (updateTensor A P mem ioAddrs msg c').2.2) ↔
    c.deviceType = c'.deviceType ∧ c.attrs = c'.attrs ∧
      SameDims (inputReapplied msg) c.inputs c'.inputs ∧
      SameDims (fun _ => msg.unknownShape) c.outputs c'.outputs := by
  obtain ⟨-, -, hiff, hresult⟩ := @updateTensor_spec _ A P mem ioAddrs msg c
  obtain ⟨-, -, hiff', hresult'⟩ := @updateTensor_spec _ A P mem ioAddrs msg c'
  obtain ⟨hsizes, hinok, houtok⟩ := hiff.mp hok
  have hlenin : c.inputs.length = c'.inputs.length := length_eq_of_types hin
  have hlenout : c.outputs.length = c'.outputs.length := length_eq_of_types hout
  have hlen := length_of_sizesAgree hsizes
  have hsizes' : sizesAgree ioAddrs msg c' = true := by
    rw [← hsizes]
    unfold sizesAgree
    rw [hlenin, hlenout]
  have hdrop : c.outputs.length ≤ (ioAddrs.drop c.inputs.length).length := by
    rw [List.length_drop]
    omega
  -- Inputs and outputs separately: what the call gives does not tell the contexts apart.
  have hdimsin := results_eq_iff_sameDims (P := P) (inputPlan_replaces msg)
    (by omega : c.inputs.length ≤ ioAddrs.length) hin hinok
  have hdimsout := results_eq_iff_sameDims (P := P) (outputPlan_replaces msg) hdrop hout houtok
  rw [← hdimsin, ← hdimsout, hiff', hresult hok]
  constructor
  · intro ⟨hok', heq⟩
    rw [hresult' (hiff'.mpr hok'), CpuKernelContext.mk.injEq, ← hlenin] at heq
    obtain ⟨-, hdevice, hinputs, houtputs, hattrs⟩ := heq
    rw [← hlenin] at hok'
    exact ⟨hdevice, hattrs, ⟨hok'.2.1, hinputs⟩, hok'.2.2, houtputs⟩
  · intro ⟨hdevice, hattrs, ⟨hinok', hinputs⟩, houtok', houtputs⟩
    rw [← hlenin]
    refine ⟨⟨hsizes', hinok', houtok'⟩, ?_⟩
    have hok' : (updateTensor A P mem ioAddrs msg c').1 = KERNEL_STATUS_OK :=
      hiff'.mpr ⟨hsizes', hinok', by rwa [← hlenin]⟩
    rw [hresult' hok', CpuKernelContext.mk.injEq, ← hlenin]
    exact ⟨hop, hdevice, hinputs, houtputs, hattrs⟩

/-- However two such contexts differ, the call makes them agree in op, data types
and addresses, and in the dims it gives. -/
theorem updateTensor_agreeBut {ioAddrs : List UInt64} {msg : ExtInfoMsg}
    {c c' : CpuKernelContext AttrValue} (hop : c.op = c'.op)
    (hin : c.inputs.map Tensor.dataType = c'.inputs.map Tensor.dataType)
    (hout : c.outputs.map Tensor.dataType = c'.outputs.map Tensor.dataType)
    (hok : (updateTensor A P mem ioAddrs msg c).1 = KERNEL_STATUS_OK)
    (hok' : (updateTensor A P mem ioAddrs msg c').1 = KERNEL_STATUS_OK) :
    (updateTensor A P mem ioAddrs msg c).2.2.op = (updateTensor A P mem ioAddrs msg c').2.2.op ∧
      AgreeBut (inputReapplied msg) (updateTensor A P mem ioAddrs msg c).2.2.inputs
        (updateTensor A P mem ioAddrs msg c').2.2.inputs ∧
      AgreeBut (fun _ => msg.unknownShape) (updateTensor A P mem ioAddrs msg c).2.2.outputs
        (updateTensor A P mem ioAddrs msg c').2.2.outputs := by
  obtain ⟨-, -, -, hresult⟩ := @updateTensor_spec _ A P mem ioAddrs msg c
  obtain ⟨-, -, -, hresult'⟩ := @updateTensor_spec _ A P mem ioAddrs msg c'
  have hlen : c.inputs.length = c'.inputs.length := length_eq_of_types hin
  rw [hresult hok, hresult' hok', ← hlen]
  exact ⟨hop, agreeBut_results (inputPlan_replaces msg) hin,
    agreeBut_results (outputPlan_replaces msg) hout⟩

end CpuKernelCache

end HwEfat.Aicpu
