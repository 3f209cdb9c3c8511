/-
  HwEfat.Aicpu.CpuKernel.Context — `CpuKernelContext` of `context.cc`.

  A context is built from a parsed `NodeDef`: it takes over the op type, the
  tensors and the attributes.  Parsing a `NodeDef`, adding an attribute to it and
  the size computations of a `Tensor` are done by code outside this repository;
  they are the parameter `Platform`, functions of their arguments.
-/
import Mathlib.Logic.Function.Basic
import Mathlib.Tactic.SplitIfs
import HwEfat.Aicpu.Basic
import HwEfat.Lib.Except

namespace HwEfat.Aicpu

open HwEfat.Lib (bind_eq_ok)

/-- Where a kernel runs. -/
inductive DeviceType where
  | host
  | device
  deriving Repr, DecidableEq

/-- A `Tensor` with its shape. -/
structure Tensor where
  dataType : Int32
  dims : List Int64
  data : UInt64
  dataSize : UInt64
  deriving Repr, DecidableEq

/-- A parsed `NodeDef`.  `MutableInputs`, `MutableOutputs` and the values of
`Attrs()` are pointers and may be null (`none`). -/
structure NodeDef (AttrValue : Type) where
  opType : String
  inputs : List (Option Tensor)
  outputs : List (Option Tensor)
  attrs : List (String × Option AttrValue)

/-- The members of `CpuKernelContext`; `attrs` is the map `attrs_`. -/
structure CpuKernelContext (AttrValue : Type) where
  op : String
  deviceType : DeviceType
  inputs : List Tensor
  outputs : List Tensor
  attrs : String → Option AttrValue

/-- The code outside the repository.  `AddAttrs` inserts an attribute under its
name and leaves everything else of the `NodeDef` alone. -/
structure Platform (AttrValue : Type) where
  parseFromString : List UInt8 → Option (NodeDef AttrValue)
  addAttrs : NodeDef AttrValue → String → AttrValue → NodeDef AttrValue
  setInt : Int → AttrValue
  numElements : List Int64 → Int64
  calcDataSizeByShape : Int32 → List Int64 → Int64
  addAttrs_opType : ∀ nd name v, (addAttrs nd name v).opType = nd.opType
  addAttrs_inputs : ∀ nd name v, (addAttrs nd name v).inputs = nd.inputs
  addAttrs_outputs : ∀ nd name v, (addAttrs nd name v).outputs = nd.outputs
  mem_addAttrs : ∀ nd name v key,
    key ∈ (addAttrs nd name v).attrs.map Prod.fst ↔ key = name ∨ key ∈ nd.attrs.map Prod.fst

/-- One concrete platform.  Attributes are integers and are inserted unless the name
is taken; of all byte strings only the empty one parses, to the empty `NodeDef`. -/
def Platform.bare : Platform Int where
  parseFromString bytes :=
    if bytes = [] then some { opType := "", inputs := [], outputs := [], attrs := [] } else none
  addAttrs nd name v :=
    if name ∈ nd.attrs.map Prod.fst then nd else { nd with attrs := nd.attrs ++ [(name, some v)] }
  setInt v := v
  numElements dims := dims.foldl (· * ·) 1
  calcDataSizeByShape _ dims := dims.foldl (· * ·) 1
  addAttrs_opType nd name v := by split_ifs <;> rfl
  addAttrs_inputs nd name v := by split_ifs <;> rfl
  addAttrs_outputs nd name v := by split_ifs <;> rfl
  mem_addAttrs nd name v key := by
    split_ifs with h
    · exact ⟨Or.inr, fun h' => h'.elim (fun heq => heq ▸ h) id⟩
    · simp [or_comm]

variable {AttrValue : Type}

namespace CpuKernelContext

/-! ## §1. `Init`. -/

/-- The loop over `MutableInputs(i)` (or `MutableOutputs(i)`). -/
def collect : List (Option Tensor) → Except UInt32 (List Tensor)
  | [] => .ok []
  | none :: _ => .error KERNEL_STATUS_PARAM_INVALID
  | some t :: ts => (collect ts).map (t :: ·)

/-- The loop that inserts the attributes into `attrs_`. -/
def insertAttrs : List (String × Option AttrValue) → (String → Option AttrValue) →
    Except UInt32 (String → Option AttrValue)
  | [], attrs => .ok attrs
  | (_, none) :: _, _ => .error KERNEL_STATUS_PARAM_INVALID
  | (name, some v) :: rest, attrs =>
      if (attrs name).isSome then .error KERNEL_STATUS_INNER_ERROR
      else insertAttrs rest (Function.update attrs name (some v))

/-- `CpuKernelContext(type)` followed by `Init(nodeDef)`. -/
def init (deviceType : DeviceType) (nodeDef : NodeDef AttrValue) :
    Except UInt32 (CpuKernelContext AttrValue) := do
  let inputs ← collect nodeDef.inputs
  let outputs ← collect nodeDef.outputs
  let attrs ← insertAttrs nodeDef.attrs (fun _ => none)
  .ok { op := nodeDef.opType, deviceType := deviceType, inputs := inputs, outputs := outputs,
        attrs := attrs }

/-- What `Init` builds, member by member. -/
theorem init_ok {deviceType : DeviceType} {nodeDef : NodeDef AttrValue}
    {ctx : CpuKernelContext AttrValue} (h : init deviceType nodeDef = .ok ctx) :
    ctx.op = nodeDef.opType ∧ ctx.deviceType = deviceType ∧
      collect nodeDef.inputs = .ok ctx.inputs ∧ collect nodeDef.outputs = .ok ctx.outputs ∧
      insertAttrs nodeDef.attrs (fun _ => none) = .ok ctx.attrs := by
  obtain ⟨inputs, hin, h⟩ := bind_eq_ok.mp h
  obtain ⟨outputs, hout, h⟩ := bind_eq_ok.mp h
  obtain ⟨attrs, hattrs, h⟩ := bind_eq_ok.mp h
  cases h
  exact ⟨rfl, rfl, hin, hout, hattrs⟩

/-- Node defs that differ in attributes only give contexts that differ in
attributes and device type only. -/
theorem init_agree {deviceType deviceType' : DeviceType} {nodeDef nodeDef' : NodeDef AttrValue}
    {ctx ctx' : CpuKernelContext AttrValue} (hop : nodeDef.opType = nodeDef'.opType)
    (hin : nodeDef.inputs = nodeDef'.inputs) (hout : nodeDef.outputs = nodeDef'.outputs)
    (h : init deviceType nodeDef = .ok ctx) (h' : init deviceType' nodeDef' = .ok ctx') :
    ctx.op = ctx'.op ∧ ctx.inputs = ctx'.inputs ∧ ctx.outputs = ctx'.outputs := by
  obtain ⟨hctx, -, hinputs, houtputs, -⟩ := init_ok h
  obtain ⟨hctx', -, hinputs', houtputs', -⟩ := init_ok h'
  rw [hin, hinputs', Except.ok.injEq] at hinputs
  rw [hout, houtputs', Except.ok.injEq] at houtputs
  exact ⟨by rw [hctx, hctx', hop], hinputs.symm, houtputs.symm⟩

/-- The attributes after the loop: those from before, and those of the list. -/
theorem insertAttrs_isSome : ∀ (l : List (String × Option AttrValue))
    (attrs attrs' : String → Option AttrValue), insertAttrs l attrs = .ok attrs' →
    ∀ key, (attrs' key).isSome ↔ (attrs key).isSome ∨ key ∈ l.map Prod.fst
  | [], attrs, attrs', h, key => by
      cases h
      simp
  | (_, none) :: _, _, _, h, _ => by cases h
  | (name, some v) :: rest, attrs, attrs', h, key => by
      rw [insertAttrs] at h
      by_cases hname : (attrs name).isSome
      · rw [if_pos hname] at h
        cases h
      · rw [if_neg hname] at h
        rw [insertAttrs_isSome rest _ _ h key, List.map_cons, List.mem_cons]
        by_cases hkey : key = name
        · simp [hkey]
        · simp [hkey]

/-- A context has exactly the attributes its `NodeDef` names. -/
theorem init_attrs_isSome {deviceType : DeviceType} {nodeDef : NodeDef AttrValue}
    {ctx : CpuKernelContext AttrValue} (h : init deviceType nodeDef = .ok ctx) (key : String) :
    (ctx.attrs key).isSome ↔ key ∈ nodeDef.attrs.map Prod.fst := by
  obtain ⟨-, -, -, -, hattrs⟩ := init_ok h
  rw [insertAttrs_isSome _ _ _ hattrs key]
  simp

/-! ## §2. What a kernel may change. -/

/-- Write new dims into the output shapes. -/
def setOutputDims (ctx : CpuKernelContext AttrValue) (dims : Nat → List Int64) :
    CpuKernelContext AttrValue :=
  { ctx with outputs := ctx.outputs.mapIdx fun i t => { t with dims := dims i } }

/-- The two contexts differ in dims, data addresses and data sizes only. -/
structure SameFrame (c c' : CpuKernelContext AttrValue) : Prop where
  op : c.op = c'.op
  deviceType : c.deviceType = c'.deviceType
  attrs : c.attrs = c'.attrs
  inputs : c.inputs.map Tensor.dataType = c'.inputs.map Tensor.dataType
  outputs : c.outputs.map Tensor.dataType = c'.outputs.map Tensor.dataType

theorem SameFrame.refl (c : CpuKernelContext AttrValue) : SameFrame c c :=
  ⟨rfl, rfl, rfl, rfl, rfl⟩

/-- One change of dimensions after the other. -/
theorem SameFrame.trans {c c' c'' : CpuKernelContext AttrValue} (h : SameFrame c c')
    (h' : SameFrame c' c'') : SameFrame c c'' :=
  ⟨h.op.trans h'.op, h.deviceType.trans h'.deviceType, h.attrs.trans h'.attrs,
    h.inputs.trans h'.inputs, h.outputs.trans h'.outputs⟩

/-- Setting the dimensions of the outputs leaves everything else. -/
theorem sameFrame_setOutputDims (ctx : CpuKernelContext AttrValue) (dims : Nat → List Int64) :
    SameFrame ctx (ctx.setOutputDims dims) := by
  refine ⟨rfl, rfl, rfl, rfl, ?_⟩
  show _ = (ctx.outputs.mapIdx fun i t => { t with dims := dims i }).map Tensor.dataType
  refine List.ext_getElem? (fun i => ?_)
  rw [List.getElem?_map, List.getElem?_map, List.getElem?_mapIdx, Option.map_map]
  rfl

end CpuKernelContext

end HwEfat.Aicpu
