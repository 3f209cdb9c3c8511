/-
  HwEfat.Main.TbeOp.Outcomes — what the steps of a runner come to.

  A step that puts a parameter on the device, builds one, or makes one for an output, gives the
  parameter a new buffer or raises; then there is at most one buffer that it has obtained for
  nothing.  What is said of these steps elsewhere is read off their outcomes.
-/
import HwEfat.Main.TbeOp.Accounts

namespace HwEfat.Main

open HwEfat.Lib (PyError PyM Heap getIndex)

namespace TbeOp

open RtsApi (Api Rts SameBuffers Obtains)

/-! ## §1. Parameters. -/

section Params

variable {env : TbeEnv} {s : Runner} {k : Nat} {param : AscendOpKernelParam}

theorem onDevice_apply {α : Type} (x : Rts α) (s : Runner) :
    onDevice x s = ((x s.api).1, { s with api := (x s.api).2 }) := rfl

/-- Reading a parameter that is there. -/
theorem readParam_eq (h : s.params.read k = some param) : readParam k s = (.ok param, s) := by
  unfold readParam
  rw [PyM.bind_apply, PyM.read_apply]
  dsimp only
  rw [h]
  rfl

/-- Reading one that is not raises. -/
theorem readParam_none (h : s.params.read k = none) : ∃ e, readParam k s = (.error e, s) := by
  unfold readParam
  rw [PyM.bind_apply, PyM.read_apply]
  dsimp only
  rw [h]
  exact ⟨_, rfl⟩

/-- Changing a parameter that is there. -/
theorem updateParam_eq (f : AscendOpKernelParam → AscendOpKernelParam)
    (h : s.params.read k = some param) :
    updateParam k f s = (.ok (), { s with params := s.params.write k (f param) }) := by
  unfold updateParam
  rw [PyM.bind_apply, readParam_eq h]
  rfl

/-- A new parameter comes behind the others. -/
theorem newParam_eq (x : Except PyError AscendOpKernelParam) :
    newParam x s = match x with
      | .ok param => (.ok s.params.size, { s with params := s.params.alloc param })
      | .error e => (.error e, s) := by
  cases x with
  | ok param => rfl
  | error e => rfl

/-- What a parameter that could be made holds. -/
theorem initParam_ok {npData : Option NpData} {shape : Option (List Int)} {dtype : Option String}
    {ascendDevice : Bool} {hbmPointer : Option Nat}
    (h : initParam env npData shape dtype ascendDevice hbmPointer = .ok param) :
    param.npData = npData ∧ param.hbmPointer = hbmPointer ∧ param.ascendDevice = ascendDevice ∧
      (npData = none → param.shape = shape ∧ param.dtype = dtype) := by
  unfold initParam at h
  obtain ⟨shapeSize, _, h⟩ := HwEfat.Lib.bind_eq_ok.mp h
  dsimp only at h
  split at h
  · obtain ⟨u, hu, _⟩ := HwEfat.Lib.bind_eq_ok.mp h
    cases hu
  · obtain ⟨size, _, h⟩ := HwEfat.Lib.bind_eq_ok.mp h
    cases h
    refine ⟨rfl, rfl, rfl, fun hnone => ?_⟩
    rw [hnone]
    exact ⟨rfl, rfl⟩

/-- What a parameter adds to the arguments. -/
theorem concatIntoKernelArgs_eq (h : s.params.read k = some param) :
    concatIntoKernelArgs k s = (.ok param.hbmPointer, s) := by
  unfold concatIntoKernelArgs
  rw [PyM.bind_apply, readParam_eq h]
  rfl

/-- Nothing can be added for what is no parameter. -/
theorem concatIntoKernelArgs_none (h : s.params.read k = none) :
    ∃ e, concatIntoKernelArgs k s = (.error e, s) := by
  obtain ⟨e, he⟩ := readParam_none h
  unfold concatIntoKernelArgs
  rw [PyM.bind_apply, he]
  exact ⟨e, rfl⟩

/-- The cache of parameters is apart from the parameters. -/
theorem read_withParam (j k : Nat) (s : Runner) :
    (withParam k s).params.read j = s.params.read j := by
  unfold withParam
  split
  · rfl
  · rfl

/-- A parameter is cached once. -/
theorem withParam_of_mem (h : k ∈ s.kernelParams) : withParam k s = s := if_pos h

end Params

/-! ## §2. Inputs. -/

section Inputs

variable {env : TbeEnv} {s : Runner} {k : Nat} {param : AscendOpKernelParam}

/-- At most one buffer is obtained in between. -/
def Loses (s s' : Api) : Prop := SameBuffers s s' ∨ ∃ p, Obtains s s' p

theorem Loses.refl (s : Api) : Loses s s := Or.inl (SameBuffers.refl s)

/-- Buffers that were given out stay so. -/
theorem Loses.handles {s s' : Api} (h : Loses s s') : s.handles ≤ s'.handles := by
  rcases h with h | ⟨p, h⟩
  · exact h.handles
  · exact (Nat.le_of_lt h.new).trans h.handles

/-- `sync_to_device`, once the parameter says that it is on the device. -/
def syncData (env : TbeEnv) (k : Nat) : Run Unit := do
  let param ← readParam k
  match param.npData with
  | none => PyM.lift (.error (.attributeError "'NoneType' object has no attribute 'tobytes'"))
  | some npData => do
      let p ← onDevice (RtsApi.copyBinToHbm env.rts npData.nbytes)
      updateParam k fun param => { param with hbmPointer := some p }

/-- **A parameter is put on the device**: it says so before, and also if the call raises. -/
theorem syncToDevice_cases (env : TbeEnv) (hread : s.params.read k = some param) :
    (∃ e a, Loses s.api a ∧ syncToDevice env k s = (.error e, { s with
        api := a, params := s.params.write k { param with ascendDevice := true } })) ∨
      ∃ p a, Obtains s.api a p ∧ syncToDevice env k s = (.ok (), { s with
        api := a
        params := s.params.write k
          { param with ascendDevice := true, hbmPointer := some p } }) := by
  obtain ⟨param₁, hparam₁⟩ : ∃ q : AscendOpKernelParam, q = { param with ascendDevice := true } :=
    ⟨_, rfl⟩
  have hread₁ : (s.params.write k param₁).read k = some param₁ :=
    Heap.read_write_self (Heap.lt_size_of_read hread) _
  have hrun : syncToDevice env k s
      = syncData env k { s with params := s.params.write k param₁ } := by
    unfold syncToDevice
    rw [PyM.bind_apply, updateParam_eq _ hread, hparam₁]
    rfl
  rw [hrun]
  unfold syncData
  rw [PyM.bind_apply, readParam_eq hread₁]
  dsimp only
  cases param₁.npData with
  | none =>
      left
      rw [← hparam₁]
      exact ⟨_, s.api, Loses.refl s.api, rfl⟩
  | some npData =>
      dsimp only
      rw [PyM.bind_apply, onDevice_apply]
      -- The flag is set before the copy, and stays set if that fails.
      rcases RtsApi.copyBinToHbm_cases env.rts npData.nbytes s.api with
        ⟨p, a, hcopy, h⟩ | ⟨e, a, hcopy, h⟩
      · right
        rw [hcopy]
        have hupdate := updateParam_eq (s := { s with api := a, params := s.params.write k param₁ })
          (fun param => { param with hbmPointer := some p }) hread₁
        rw [Heap.write_write] at hupdate
        refine ⟨p, a, h, hupdate.trans ?_⟩
        rw [hparam₁]
      · left
        rw [hcopy, ← hparam₁]
        exact ⟨e, a, h, rfl⟩

/-- The array of an input that is no parameter. -/
def npDataOf (env : TbeEnv) (shape : Option (List Int)) (dtype : Option String) :
    ParamData → Except PyError NpData
  | .array npData => .ok npData
  | .file path => loadNpData env path dtype shape

/-- The parameter of an array or file, if there is one. -/
theorem buildParam_cases (env : TbeEnv) (data : ParamData) (shape : Option (List Int))
    (dtype : Option String) (s : Runner) :
    (∃ e, buildParam env data shape dtype s = (.error e, s)) ∨ ∃ npData param,
      npDataOf env shape dtype data = .ok npData ∧ param.npData = some npData ∧
      param.hbmPointer = none ∧ buildParam env data shape dtype s
        = (.ok s.params.size, { s with params := s.params.alloc param }) := by
  -- Nothing is copied yet, so an error leaves the state.
  have hnew : ∀ npData, (∃ e, buildOpParamByNpData env npData s = (.error e, s)) ∨
      ∃ param, param.npData = some npData ∧ param.hbmPointer = none ∧
        buildOpParamByNpData env npData s
          = (.ok s.params.size, { s with params := s.params.alloc param }) := by
    intro npData
    unfold buildOpParamByNpData
    rw [newParam_eq]
    cases hinit : initParam env (some npData) none none false none with
    | error e => exact Or.inl ⟨e, rfl⟩
    | ok param => exact Or.inr ⟨param, (initParam_ok hinit).1, (initParam_ok hinit).2.1, rfl⟩
  cases data with
  | array npData =>
      rcases hnew npData with h | ⟨param, h⟩
      · exact Or.inl h
      · exact Or.inr ⟨npData, param, rfl, h⟩
  | file path =>
      unfold buildParam buildOpParamByDataFile npDataOf
      dsimp only
      rw [PyM.bind_apply, PyM.lift_apply]
      cases loadNpData env path dtype shape with
      | error e => exact Or.inl ⟨e, rfl⟩
      | ok npData =>
          rcases hnew npData with h | ⟨param, h⟩
          · exact Or.inl h
          · exact Or.inr ⟨npData, param, rfl, h⟩

/-- **A parameter is built** and put on the device; it is added to `_kernel_params` last. -/
theorem buildKernelParam_cases (env : TbeEnv) (data : ParamData) (shape : Option (List Int))
    (dtype : Option String) (s : Runner) :
    (∃ e, buildKernelParam env data shape dtype s = (.error e, s)) ∨
    (∃ e a param, Loses s.api a ∧ param.hbmPointer = none ∧
      buildKernelParam env data shape dtype s
        = (.error e, { s with api := a, params := s.params.alloc param })) ∨
    ∃ p a param npData, Obtains s.api a p ∧ npDataOf env shape dtype data = .ok npData ∧
      param.npData = some npData ∧ param.hbmPointer = some p ∧ param.ascendDevice = true ∧
      buildKernelParam env data shape dtype s = (.ok s.params.size, { s with
        api := a
        params := s.params.alloc param
        kernelParams := s.kernelParams ++ [s.params.size] }) := by
  unfold buildKernelParam
  rw [PyM.bind_apply]
  rcases buildParam_cases env data shape dtype s with
    ⟨e, hbuild⟩ | ⟨npData, param, hdata, hnpData, hnone, hbuild⟩
  · rw [hbuild]
    exact Or.inl ⟨e, rfl⟩
  · right
    rw [hbuild]
    dsimp only
    rw [PyM.bind_apply]
    -- The object is the last one, and stays so when it is written.
    rcases syncToDevice_cases (s := { s with params := s.params.alloc param }) env
      (Heap.read_alloc_fresh s.params param) with ⟨e, a, h, hsync⟩ | ⟨p, a, h, hsync⟩
    · rw [hsync]
      dsimp only
      rw [Heap.write_alloc]
      exact Or.inl ⟨e, a, { param with ascendDevice := true }, h, hnone, rfl⟩
    · rw [hsync]
      dsimp only
      rw [Heap.write_alloc]
      exact Or.inr ⟨p, a, { param with ascendDevice := true, hbmPointer := some p }, npData, h,
        hdata, hnpData, rfl, rfl, rfl⟩

/-- An input that is no parameter cannot be filled in. -/
theorem fillInput_none (env : TbeEnv) (hread : s.params.read k = none) :
    ∃ e, fillInput env (.param k) s = (.error e, s) := by
  obtain ⟨e, he⟩ := readParam_none hread
  refine ⟨e, ?_⟩
  unfold fillInput
  dsimp only
  rw [PyM.bind_apply, he]

/-- A parameter is cached, and put on the device unless it is there. -/
theorem fillInput_param (hread : s.params.read k = some param) :
    fillInput env (.param k) s
      = (if param.hbmPointer.isNone then
          syncToDevice env k >>= fun _ =>
            concatIntoKernelArgs k >>= fun arg => pure (arg, some k)
        else concatIntoKernelArgs k >>= fun arg => pure (arg, some k) :
          Run (Option Nat × Option Nat)) (withParam k s) := by
  have hrun : fillInput env (.param k) s
      = (readParam k >>= fun _ => cacheKernelParam k >>= fun _ => readParam k >>= fun param =>
          if param.hbmPointer.isNone then
            syncToDevice env k >>= fun _ =>
              concatIntoKernelArgs k >>= fun arg => pure (arg, some k)
          else concatIntoKernelArgs k >>= fun arg => pure (arg, some k)) s := rfl
  have hcacheRun : cacheKernelParam k s = (.ok (), withParam k s) := rfl
  have hread₁ : (withParam k s).params.read k = some param := by
    rw [read_withParam]
    exact hread
  rw [hrun, PyM.bind_apply, readParam_eq hread]
  dsimp only
  rw [PyM.bind_apply, hcacheRun]
  dsimp only
  rw [PyM.bind_apply, readParam_eq hread₁]

end Inputs

/-! ## §3. Outputs. -/

section Outputs

variable {env : TbeEnv} {s : Runner}

/-- The parameter of an output that refers to no input: it is new. -/
theorem outputParam_new (env : TbeEnv) {outputInputRef : List (Int × Int)} {outputIdx : Int}
    (href : refOf outputInputRef outputIdx = none) (inputParams : List Nat) (info : OutputInfo)
    (s : Runner) :
    (∃ e a, Loses s.api a ∧ outputParam env outputInputRef inputParams outputIdx info s
        = (.error e, { s with api := a })) ∨
      ∃ p a param, Obtains s.api a p ∧ param.hbmPointer = some p ∧ param.ascendDevice = true ∧
        (param.npData, param.shape, param.dtype) = (none, info.outShape, info.dtype) ∧
        outputParam env outputInputRef inputParams outputIdx info s
          = (.ok s.params.size, { s with api := a, params := s.params.alloc param }) := by
  unfold outputParam
  rw [href]
  dsimp only
  rw [PyM.bind_apply, PyM.lift_apply]
  cases outSize env info with
  | error e => exact Or.inl ⟨e, s.api, Loses.refl s.api, rfl⟩
  | ok size =>
      dsimp only
      rw [PyM.bind_apply, onDevice_apply]
      rcases RtsApi.malloc_cases env.rts size s.api with
        ⟨p, a, hmalloc, hobtains⟩ | ⟨e, a, hmalloc, hsame⟩
      · rw [hmalloc]
        dsimp only
        rw [PyM.bind_apply, onDevice_apply]
        -- From here on the buffer is held, so an error loses it.
        have hmemset : SameBuffers a (RtsApi.memset env.rts p size a).2 :=
          RtsApi.same_callChecked (fun _ => ⟨rfl, rfl⟩) "" a
        cases hrun : RtsApi.memset env.rts p size a with
        | mk r a₁ =>
            rw [hrun] at hmemset
            have hnew := hobtains.same hmemset
            cases r with
            | error e => exact Or.inl ⟨e, a₁, Or.inr ⟨p, hnew⟩, rfl⟩
            | ok u =>
                dsimp only
                rw [newParam_eq]
                cases hinit : initParam env none info.outShape info.dtype true (some p) with
                | error e => exact Or.inl ⟨e, a₁, Or.inr ⟨p, hnew⟩, rfl⟩
                | ok param =>
                    obtain ⟨hnpData, hpointer, htrue, hrest⟩ := initParam_ok hinit
                    obtain ⟨hshape, hdtype⟩ := hrest rfl
                    refine Or.inr ⟨p, a₁, param, hnew, hpointer, htrue, ?_, rfl⟩
                    rw [hnpData, hshape, hdtype]
      · rw [hmalloc]
        exact Or.inl ⟨e, a, Or.inl hsame, rfl⟩

/-- The parameter of an output is appended and cached. -/
theorem fillOutput_of_param {outputInputRef : List (Int × Int)} {inputParams : List Nat}
    {outputIdx : Int} {info : OutputInfo} {k : Nat} {s₁ : Runner} {param : AscendOpKernelParam}
    (hparam : outputParam env outputInputRef inputParams outputIdx info s = (.ok k, s₁))
    (hread : s₁.params.read k = some param) :
    fillOutput env outputInputRef inputParams outputIdx info s
      = (.ok (k, param.hbmPointer), withParam k s₁) := by
  unfold fillOutput
  rw [PyM.bind_apply, hparam]
  dsimp only
  rw [PyM.bind_apply, concatIntoKernelArgs_eq hread]
  rfl

/-- **A step of `_fill_outputs`**: it takes the parameter of an input, or a new one with a new
buffer. -/
theorem fillOutput_cases (env : TbeEnv) (outputInputRef : List (Int × Int))
    (inputParams : List Nat) (outputIdx : Int) (info : OutputInfo) (s : Runner) :
    (∃ e a, Loses s.api a ∧ fillOutput env outputInputRef inputParams outputIdx info s
        = (.error e, { s with api := a })) ∨
    (∃ i k param, refOf outputInputRef outputIdx = some i ∧ getIndex inputParams i = .ok k ∧
      s.params.read k = some param ∧ fillOutput env outputInputRef inputParams outputIdx info s
        = (.ok (k, param.hbmPointer), withParam k s)) ∨
    ∃ p a param, refOf outputInputRef outputIdx = none ∧ Obtains s.api a p ∧
      param.hbmPointer = some p ∧ param.ascendDevice = true ∧
      (param.npData, param.shape, param.dtype) = (none, info.outShape, info.dtype) ∧
      fillOutput env outputInputRef inputParams outputIdx info s = (.ok (s.params.size, some p),
        withParam s.params.size { s with api := a, params := s.params.alloc param }) := by
  have herror : ∀ {e : PyError} {s₁ : Runner},
      outputParam env outputInputRef inputParams outputIdx info s = (.error e, s₁) →
        fillOutput env outputInputRef inputParams outputIdx info s = (.error e, s₁) := by
    intro e s₁ h
    unfold fillOutput
    rw [PyM.bind_apply, h]
  cases href : refOf outputInputRef outputIdx with
  -- An output that is an input takes the parameter of that; nothing is allocated.
  | some i =>
      have hparam : outputParam env outputInputRef inputParams outputIdx info s
          = (getIndex inputParams i, s) := by
        unfold outputParam
        rw [href]
        rfl
      cases hindex : getIndex inputParams i with
      | error e =>
          rw [hindex] at hparam
          exact Or.inl ⟨e, s.api, Loses.refl s.api, herror hparam⟩
      | ok k =>
          rw [hindex] at hparam
          cases hread : s.params.read k with
          | none =>
              left
              obtain ⟨e, he⟩ := concatIntoKernelArgs_none hread
              refine ⟨e, s.api, Loses.refl s.api, ?_⟩
              unfold fillOutput
              rw [PyM.bind_apply, hparam]
              dsimp only
              rw [PyM.bind_apply, he]
          | some param =>
              exact Or.inr (Or.inl ⟨i, k, param, rfl, hindex, hread,
                fillOutput_of_param hparam hread⟩)
  | none =>
      -- Any other one gets a buffer, and a parameter at the end of the list.
      rcases outputParam_new env href inputParams info s with
        ⟨e, a, h, hparam⟩ | ⟨p, a, param, h, hpointer, htrue, hcontent, hparam⟩
      · exact Or.inl ⟨e, a, h, herror hparam⟩
      · refine Or.inr (Or.inr ⟨p, a, param, rfl, h, hpointer, htrue, hcontent, ?_⟩)
        rw [← hpointer]
        exact fillOutput_of_param hparam (Heap.read_alloc_fresh s.params param)

end Outputs

end TbeOp

end HwEfat.Main
