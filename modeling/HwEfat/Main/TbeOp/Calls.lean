/-
  HwEfat.Main.TbeOp.Calls — which calls of the runtime the steps of a runner make.

  Inputs, outputs, workspaces and tiling data need calls about memory only.  A kernel is launched
  in `_execute_kernel`, always with the same arguments.
-/
import HwEfat.Main.RtsApi.Calls
import HwEfat.Main.TbeOp.Def

namespace HwEfat.Main

open HwEfat.Lib (PyError PyM Heap getIndex)

namespace TbeOp

open RtsApi (Rts RtCall Only)

/-! ## §1. Calls of a runner. -/

/-- All calls of the runtime in between satisfy `P`. -/
def ApiOnly (P : RtCall → Prop) (s s' : Runner) : Prop := Only P s.api s'.api

/-- So they do, and the parameters stay as they are. -/
def CallsOnly (P : RtCall → Prop) (s s' : Runner) : Prop :=
  Only P s.api s'.api ∧ s'.params = s.params

/-- Calls about the memory of the device. -/
structure AllowsMemory (P : RtCall → Prop) : Prop where
  malloc : ∀ p size, P (.rtMalloc p size)
  memcpy : ∀ p size, P (.rtMemcpy p size)
  memset : ∀ p size, P (.rtMemset p size)
  free : ∀ p, P (.rtFree p)
  info : P .rtMemGetInfoEx

/-- All calls allow those of the memory. -/
theorem any_memory : AllowsMemory fun _ => True :=
  ⟨fun _ _ => trivial, fun _ _ => trivial, fun _ _ => trivial, fun _ => trivial, trivial⟩

section Only

variable {env : TbeEnv} {P : RtCall → Prop} {α β : Type}

theorem ApiOnly.refl (s : Runner) : ApiOnly P s s := Only.refl s.api

/-- One part of a run after the other makes only such calls. -/
theorem ApiOnly.trans (s₁ s₂ s₃ : Runner) (h : ApiOnly P s₁ s₂) (h' : ApiOnly P s₂ s₃) :
    ApiOnly P s₁ s₃ := Only.trans _ _ _ h h'

/-- A composition makes only such calls if both parts do. -/
theorem api_bind {x : Run α} {f : α → Run β} (hx : x.Keeps (ApiOnly P))
    (hf : ∀ a, (f a).Keeps (ApiOnly P)) : (x >>= f).Keeps (ApiOnly P) := hx.bind ApiOnly.trans hf

/-- What does not touch the device makes no call. -/
theorem api_lift (x : Except PyError α) : (PyM.lift x : Run α).Keeps (ApiOnly P) :=
  PyM.keeps_lift ApiOnly.refl x

theorem api_pure (a : α) : (pure a : Run α).Keeps (ApiOnly P) := PyM.keeps_pure ApiOnly.refl a

theorem api_read : (PyM.read : Run Runner).Keeps (ApiOnly P) := PyM.keeps_read ApiOnly.refl

/-- A change of the runner that leaves the runtime alone. -/
theorem api_modify {f : Runner → Runner} (h : ∀ s, (f s).api = s.api) :
    (PyM.modify f : Run Unit).Keeps (ApiOnly P) := by
  intro s
  show Only P s.api (f s).api
  rw [h]
  exact Only.refl _

/-- What the runtime calls is what the run calls. -/
theorem api_onDevice {x : Rts α} (h : x.Keeps (Only P)) : (onDevice x).Keeps (ApiOnly P) :=
  fun s => h s.api

/-- Reading a parameter makes no call. -/
theorem api_readParam (k : Nat) : (readParam k).Keeps (ApiOnly P) := by
  refine api_bind api_read fun runner => ?_
  split
  · exact api_pure _
  · exact api_lift _

/-- Changing a parameter makes no call. -/
theorem api_updateParam (k : Nat) (f : AscendOpKernelParam → AscendOpKernelParam) :
    (updateParam k f).Keeps (ApiOnly P) :=
  api_bind (api_readParam k) fun _ => api_modify fun _ => rfl

theorem api_newParam (x : Except PyError AscendOpKernelParam) : (newParam x).Keeps (ApiOnly P) :=
  api_bind (api_lift x) fun _ => api_bind api_read fun _ =>
    api_bind (api_modify fun _ => rfl) fun _ => api_pure _

theorem api_cacheKernelParam (k : Nat) : (cacheKernelParam k).Keeps (ApiOnly P) := by
  refine api_modify fun s => ?_
  split
  · rfl
  · rfl

theorem api_concatIntoKernelArgs (k : Nat) : (concatIntoKernelArgs k).Keeps (ApiOnly P) :=
  api_bind (api_readParam k) fun _ => api_pure _

/-- Bringing a parameter to the device allocates and copies. -/
theorem api_syncToDevice (hP : AllowsMemory P) (k : Nat) :
    (syncToDevice env k).Keeps (ApiOnly P) := by
  refine api_bind (api_updateParam k _) fun _ => api_bind (api_readParam k) fun param => ?_
  cases param.npData with
  | none => exact api_lift _
  | some npData =>
      exact api_bind
        (api_onDevice (RtsApi.only_copyBinToHbm hP.malloc hP.info hP.memcpy npData.nbytes))
        fun p => api_updateParam k _

/-- So does building one. -/
theorem api_buildKernelParam (hP : AllowsMemory P) (data : ParamData) (shape : Option (List Int))
    (dtype : Option String) : (buildKernelParam env data shape dtype).Keeps (ApiOnly P) := by
  refine api_bind ?_ fun k => api_bind (api_syncToDevice hP k) fun _ =>
    api_bind (api_modify fun _ => rfl) fun _ => api_pure k
  cases data with
  | array npData => exact api_newParam _
  | file path => exact api_bind (api_lift _) fun _ => api_newParam _

/-- So does filling in an input. -/
theorem api_fillInput (hP : AllowsMemory P) (input : OpInput) :
    (fillInput env input).Keeps (ApiOnly P) := by
  have hrest : ∀ (k : Nat) (r : Option Nat),
      (concatIntoKernelArgs k >>= fun arg =>
        (pure (arg, r) : Run (Option Nat × Option Nat))).Keeps (ApiOnly P) := fun k r =>
    api_bind (api_concatIntoKernelArgs k) fun _ => api_pure _
  cases input with
  | data data => exact api_bind (api_buildKernelParam hP data none none) fun k => hrest k none
  | param k =>
      refine api_bind (api_readParam k) fun _ => api_bind (api_cacheKernelParam k) fun _ =>
        api_bind (api_readParam k) fun param => PyM.keeps_ite (fun _ => ?_) fun _ =>
          hrest k (some k)
      exact api_bind (api_syncToDevice hP k) fun _ => hrest k (some k)

/-- So does filling in an output. -/
theorem api_fillOutput (hP : AllowsMemory P) (outputInputRef : List (Int × Int))
    (inputParams : List Nat) (outputIdx : Int) (info : OutputInfo) :
    (fillOutput env outputInputRef inputParams outputIdx info).Keeps (ApiOnly P) := by
  refine api_bind ?_ fun k => api_bind (api_concatIntoKernelArgs k) fun _ =>
    api_bind (api_cacheKernelParam k) fun _ => api_pure _
  unfold outputParam
  cases refOf outputInputRef outputIdx with
  | some i => exact api_lift _
  | none =>
      exact api_bind (api_lift _) fun size =>
        api_bind (api_onDevice (RtsApi.only_malloc hP.malloc size)) fun p =>
          api_bind (api_onDevice (RtsApi.only_callChecked (hP.memset p size) "")) fun _ =>
            api_newParam _

end Only

/-! ## §2. Calls only. -/

section Calls

variable {env : TbeEnv} {P : RtCall → Prop} {α β : Type}

theorem CallsOnly.refl (s : Runner) : CallsOnly P s s := ⟨Only.refl s.api, rfl⟩

/-- The same for runs that leave the parameters alone. -/
theorem CallsOnly.trans (s₁ s₂ s₃ : Runner) (h : CallsOnly P s₁ s₂) (h' : CallsOnly P s₂ s₃) :
    CallsOnly P s₁ s₃ := ⟨Only.trans _ _ _ h.1 h'.1, h'.2.trans h.2⟩

/-- A composition leaves the parameters alone if both parts do. -/
theorem calls_bind {x : Run α} {f : α → Run β} (hx : x.Keeps (CallsOnly P))
    (hf : ∀ a, (f a).Keeps (CallsOnly P)) : (x >>= f).Keeps (CallsOnly P) :=
  hx.bind CallsOnly.trans hf

theorem calls_lift (x : Except PyError α) : (PyM.lift x : Run α).Keeps (CallsOnly P) :=
  PyM.keeps_lift CallsOnly.refl x

theorem calls_pure (a : α) : (pure a : Run α).Keeps (CallsOnly P) :=
  PyM.keeps_pure CallsOnly.refl a

theorem calls_read : (PyM.read : Run Runner).Keeps (CallsOnly P) := PyM.keeps_read CallsOnly.refl

/-- The runtime does not know the parameters. -/
theorem calls_onDevice {x : Rts α} (h : x.Keeps (Only P)) : (onDevice x).Keeps (CallsOnly P) :=
  fun s => ⟨h s.api, rfl⟩

/-- Workspaces are buffers of the device only. -/
theorem calls_fillWorkspace (hP : AllowsMemory P) (workspace : List Int) :
    (fillWorkspace env workspace).Keeps (CallsOnly P) :=
  PyM.keeps_collect CallsOnly.refl CallsOnly.trans
    (fun size => calls_onDevice (RtsApi.only_malloc hP.malloc (size + 32))) workspace

/-- Tiling data are, too. -/
theorem calls_fillTiling (hP : AllowsMemory P) (kernel : AscendOpKernel) (tiling : Option Nat) :
    (fillTiling env kernel tiling).Keeps (CallsOnly P) := by
  have hcopy : (do
      let p ← onDevice (RtsApi.copyBinToHbm env.rts (tiling.getD 0))
      return [p] : Run (List Nat)).Keeps (CallsOnly P) :=
    calls_bind (calls_onDevice (RtsApi.only_copyBinToHbm hP.malloc hP.info hP.memcpy _))
      fun p => calls_pure [p]
  exact PyM.keeps_ite (fun _ => calls_pure []) fun _ =>
    PyM.keeps_ite (fun _ => calls_bind (calls_lift _) fun _ => hcopy) fun _ => hcopy

/-- Handing buffers back is a call for each of them. -/
theorem calls_freeAll (hP : AllowsMemory P) (ps : List Nat) :
    (freeAll env ps).Keeps (CallsOnly P) := by
  induction ps with
  | nil => exact calls_pure ()
  | cons p ps ih =>
      exact calls_bind (calls_onDevice (RtsApi.only_callChecked (hP.free p) "")) fun _ => ih

end Calls

/-! ## §3. Launches. -/

/-- If the call launches a kernel, it does so with these arguments. -/
def LaunchesWith (args : List Nat) (call : RtCall) : Prop :=
  ∀ stubFunc blockDim args', call = .rtKernelLaunch stubFunc blockDim args' → args' = args

/-- The call launches no kernel. -/
def NoLaunch (call : RtCall) : Prop := ∀ stubFunc blockDim args,
  call ≠ .rtKernelLaunch stubFunc blockDim args

/-- No call of the memory launches a kernel. -/
theorem noLaunch_memory : AllowsMemory NoLaunch where
  malloc _ _ := fun _ _ _ h => nomatch h
  memcpy _ _ := fun _ _ _ h => nomatch h
  memset _ _ := fun _ _ _ h => nomatch h
  free _ := fun _ _ _ h => nomatch h
  info := fun _ _ _ h => nomatch h

section Launches

variable {env : TbeEnv} {kernel : AscendOpKernel} {args : List Nat}

/-- Calls that launch nothing launch nothing with other arguments. -/
theorem launchesWith_of_noLaunch {call : RtCall} (h : NoLaunch call) : LaunchesWith args call :=
  fun stubFunc blockDim args' heq => absurd heq (h stubFunc blockDim args')

/-- Registering a kernel launches nothing. -/
theorem calls_registerKernel :
    (registerKernel env kernel).Keeps (CallsOnly (LaunchesWith args)) := by
  refine calls_bind calls_read fun runner => ?_
  cases runner.stubFuncs.lookup kernel.ref with
  | some stubFunc => exact calls_pure _
  | none =>
      exact calls_bind (calls_onDevice (RtsApi.only_registerDeviceBinaryKernel
          (fun _ => launchesWith_of_noLaunch fun _ _ _ h => nomatch h) _ _)) fun handle =>
        calls_bind (calls_onDevice (RtsApi.only_registerFunction
          (launchesWith_of_noLaunch fun _ _ _ h => nomatch h))) fun stubFunc =>
            calls_bind (fun _ => ⟨Only.refl _, rfl⟩) fun _ => calls_pure _

/-- All launches of a kernel have the same arguments. -/
theorem calls_launchTimes (stubFunc : String) (blockDim : Int) (stream n : Nat) :
    (launchTimes env stubFunc blockDim args stream n).Keeps (CallsOnly (LaunchesWith args)) := by
  induction n with
  | zero => exact calls_pure ()
  | succ n ih =>
      refine calls_bind (calls_onDevice (RtsApi.only_callChecked ?_ "")) fun _ =>
        calls_bind (calls_onDevice (RtsApi.only_callChecked ?_ "")) fun _ => ih
      · rintro _ _ _ ⟨⟩
        rfl
      · exact launchesWith_of_noLaunch fun _ _ _ h => nomatch h

/-- **Every launch of a run** has the arguments that `_execute_kernel` was called with. -/
theorem calls_executeKernel (blockDim : Option Int) :
    (executeKernel env kernel args blockDim).Keeps (CallsOnly (LaunchesWith args)) := by
  have hcall : ∀ {call : RtCall}, NoLaunch call →
      (onDevice (RtsApi.callChecked env.rts call "")).Keeps (CallsOnly (LaunchesWith args)) :=
    fun h => calls_onDevice (RtsApi.only_callChecked (launchesWith_of_noLaunch h) "")
  have hrest : ∀ runner : Runner, (do
      let stubFunc ← registerKernel env kernel
      let dim ← PyM.lift (cBlockDim blockDim)
      launchTimes env stubFunc dim args runner.stream
        (if runner.profiling then runner.profilingTimes else 1)
      if runner.profiling then do
        onDevice (RtsApi.getOnlineProfilingData env.rts runner.stream runner.profilingTimes)
        onDevice (RtsApi.stopOnlineProfiling env.rts runner.stream) : Run Unit).Keeps
          (CallsOnly (LaunchesWith args)) := fun runner =>
    calls_bind calls_registerKernel fun _ => calls_bind (calls_lift _) fun _ =>
      calls_bind (calls_launchTimes _ _ _ _) fun _ => PyM.keeps_ite
        (fun _ => calls_bind (hcall fun _ _ _ h => nomatch h) fun _ =>
          hcall fun _ _ _ h => nomatch h)
        fun _ => calls_pure ()
  refine calls_bind calls_read fun runner => PyM.keeps_ite (fun _ => ?_) fun _ => hrest runner
  exact calls_bind (hcall fun _ _ _ h => nomatch h) fun _ => hrest runner

end Launches

/-! ## §4. Launches of a run. -/

/-- A kernel is launched with these arguments. -/
def Launches {α : Type} (x : Run α) (s : Runner) (args : List Nat) : Prop :=
  ∃ new stubFunc blockDim code, (x s).2.api.calls = s.api.calls ++ new ∧
    (RtCall.rtKernelLaunch stubFunc blockDim args, code) ∈ new

section Launches

variable {α β : Type} {x : Run α} {f : α → Run β} {s : Runner} {args args' : List Nat}

/-- A run whose calls launch nothing has launched nothing. -/
theorem not_launches (hx : x.Keeps (ApiOnly NoLaunch)) : ¬ Launches x s args := by
  rintro ⟨new, stubFunc, blockDim, code, hnew, hmem⟩
  obtain ⟨new', hnew', hP⟩ := (hx s).calls
  rw [hnew', List.append_cancel_left_eq] at hnew
  exact hP _ (hnew ▸ hmem) stubFunc blockDim args rfl

/-- The arguments of a launch, where there is one list of them only. -/
theorem Launches.with (h : Launches x s args') (hx : x.Keeps (ApiOnly (LaunchesWith args))) :
    args' = args := by
  obtain ⟨new, stubFunc, blockDim, code, hnew, hmem⟩ := h
  obtain ⟨new', hnew', hP⟩ := (hx s).calls
  rw [hnew', List.append_cancel_left_eq] at hnew
  exact hP _ (hnew ▸ hmem) stubFunc blockDim args' rfl

/-- One of two programs has launched the kernel. -/
theorem Launches.of_bind {P Q : RtCall → Prop} (h : Launches (x >>= f) s args)
    (hx : x.Keeps (ApiOnly P)) (hf : ∀ a, (f a).Keeps (ApiOnly Q)) :
    Launches x s args ∨ ∃ a s₁, x s = (.ok a, s₁) ∧ Launches (f a) s₁ args := by
  obtain ⟨new, stubFunc, blockDim, code, hnew, hmem⟩ := h
  obtain ⟨new₁, hnew₁, _⟩ := (hx s).calls
  rw [PyM.bind_apply] at hnew
  cases hrun : x s with
  | mk r s₁ =>
      rw [hrun] at hnew hnew₁
      cases r with
      | error e =>
          refine Or.inl ⟨new, stubFunc, blockDim, code, ?_, hmem⟩
          rw [hrun]
          exact hnew
      | ok a =>
          obtain ⟨new₂, hnew₂, _⟩ := (hf a s₁).calls
          dsimp only at hnew hnew₁
          rw [hnew₂, hnew₁, List.append_assoc, List.append_cancel_left_eq] at hnew
          rw [← hnew] at hmem
          rcases List.mem_append.mp hmem with hmem | hmem
          · refine Or.inl ⟨new₁, stubFunc, blockDim, code, ?_, hmem⟩
            rw [hrun]
            exact hnew₁
          · exact Or.inr ⟨a, s₁, rfl, new₂, stubFunc, blockDim, code, hnew₂, hmem⟩

/-- The second program has launched the kernel, if the first does not. -/
theorem Launches.second {Q : RtCall → Prop} (h : Launches (x >>= f) s args)
    (hx : x.Keeps (ApiOnly NoLaunch)) (hf : ∀ a, (f a).Keeps (ApiOnly Q)) :
    ∃ a s₁, x s = (.ok a, s₁) ∧ Launches (f a) s₁ args :=
  (h.of_bind hx hf).resolve_left (not_launches hx)

/-- The first program has launched the kernel, if the second does not. -/
theorem Launches.first {P : RtCall → Prop} (h : Launches (x >>= f) s args)
    (hx : x.Keeps (ApiOnly P)) (hf : ∀ a, (f a).Keeps (ApiOnly NoLaunch)) :
    Launches x s args :=
  (h.of_bind hx hf).resolve_right fun ⟨a, _, _, ha⟩ => not_launches (hf a) ha

end Launches

end TbeOp

end HwEfat.Main
