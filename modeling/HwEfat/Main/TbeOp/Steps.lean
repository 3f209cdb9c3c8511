/-
  HwEfat.Main.TbeOp.Steps — what the steps of a runner do to its accounts.

  A step that puts a parameter on the device, or makes one for an output, gives the buffer an
  owner if it returns.  The buffers of workspaces and tiling data are loose until they are freed,
  at the end of `run`.
-/
import HwEfat.Main.TbeOp.Outcomes

namespace HwEfat.Main

open HwEfat.Lib (PyError PyM Ledger Heap getIndex)

namespace TbeOp

open RtsApi (Api Rts RtsEnv RtCall obtainedBy freeOf SameBuffers Obtains called)

/-! ## §1. Calls of the runtime. -/

section Runtime

variable {env : TbeEnv} {α β : Type}

/-- What counts is the log of the frees. -/
theorem freesSucceed_congr {s s' : Runner}
    (h : s'.api.calls.filterMap freeOf = s.api.calls.filterMap freeOf) :
    FreesSucceed s' ↔ FreesSucceed s := by
  unfold FreesSucceed
  rw [h]

/-- A program that does not call the runtime. -/
theorem back_of_api {x : Run α} (h : ∀ s, (x s).2.api = s.api) : ledger.Back x := by
  intro s hsound
  refine (freesSucceed_congr ?_).mp hsound
  rw [h]

/-- A call that touches no buffer is neutral. -/
theorem neutral_onDevice {x : Rts α} (h : x.Keeps SameBuffers) : ledger.Neutral (onDevice x) := by
  refine ⟨fun s hsound => (freesSucceed_congr (h s.api).frees).mp hsound,
    fun s loose hinv _ => ⟨0, ?_, ?_, fun _ _ => rfl⟩⟩
  · rw [add_zero]
    exact hinv.api_same (h s.api)
  · rw [add_zero]
    exact obtained_same (h s.api)

/-- An allocation opens the buffer it returns. -/
theorem opens_malloc (size : Int) :
    ledger.Opens (onDevice (RtsApi.malloc env.rts size)) fun p extra => extra = {p} := by
  refine ⟨fun s hsound => (freesSucceed_congr ?_).mp hsound, fun s loose hinv _ => ?_⟩
  · rw [onDevice_apply]
    rcases RtsApi.malloc_cases env.rts size s.api with ⟨p, a, hrun, h⟩ | ⟨e, a, hrun, h⟩
    · rw [hrun]
      exact h.frees
    · rw [hrun]
      exact h.frees
  · rw [onDevice_apply]
    rcases RtsApi.malloc_cases env.rts size s.api with ⟨p, a, hrun, h⟩ | ⟨e, a, hrun, h⟩
    · rw [hrun]
      obtain ⟨hinv', hobtained⟩ := hinv.api_obtains h
      exact ⟨{p}, hinv', hobtained, fun q hq => (by cases hq; rfl)⟩
    · rw [hrun]
      refine ⟨0, ?_, ?_, fun q hq => (by cases hq)⟩
      · rw [add_zero]
        exact hinv.api_same h
      · rw [add_zero]
        exact obtained_same h

/-- So does a copy to the device. -/
theorem opens_copyBinToHbm (dataSize : Nat) :
    ledger.Opens (onDevice (RtsApi.copyBinToHbm env.rts dataSize)) fun p extra => extra = {p} := by
  refine ⟨fun s hsound => (freesSucceed_congr ?_).mp hsound, fun s loose hinv _ => ?_⟩
  · rw [onDevice_apply]
    rcases RtsApi.copyBinToHbm_cases env.rts dataSize s.api with
      ⟨p, a, hrun, h⟩ | ⟨e, a, hrun, h | ⟨p, h⟩⟩
    · rw [hrun]
      exact h.frees
    · rw [hrun]
      exact h.frees
    · rw [hrun]
      exact h.frees
  · rw [onDevice_apply]
    rcases RtsApi.copyBinToHbm_cases env.rts dataSize s.api with
      ⟨p, a, hrun, h⟩ | ⟨e, a, hrun, h | ⟨p, h⟩⟩
    · rw [hrun]
      obtain ⟨hinv', hobtained⟩ := hinv.api_obtains h
      exact ⟨{p}, hinv', hobtained, fun q hq => (by cases hq; rfl)⟩
    · rw [hrun]
      refine ⟨0, ?_, ?_, fun q hq => (by cases hq)⟩
      · rw [add_zero]
        exact hinv.api_same h
      · rw [add_zero]
        exact obtained_same h
    · rw [hrun]
      obtain ⟨hinv', hobtained⟩ := hinv.api_obtains h
      exact ⟨{p}, hinv', hobtained, fun q hq => (by cases hq)⟩

end Runtime

/-! ## §2. Workspaces and tiling data. -/

section Execute

variable {env : TbeEnv} {kernel : AscendOpKernel}

/-- The workspaces open the buffers they return. -/
theorem opens_fillWorkspace (workspace : List Int) :
    ledger.Opens (fillWorkspace env workspace) fun ps extra => extra = (ps : Multiset Nat) :=
  Ledger.Opens.collect (fun size => opens_malloc (size + 32)) rfl
    (fun p ps e₁ e₂ h₁ h₂ => by rw [h₁, h₂, Multiset.singleton_add, Multiset.cons_coe]) workspace

/-- So do the tiling data. -/
theorem opens_fillTiling (tiling : Option Nat) :
    ledger.Opens (fillTiling env kernel tiling) fun ps extra => extra = (ps : Multiset Nat) := by
  have hcopy : ledger.Opens (do
      let p ← onDevice (RtsApi.copyBinToHbm env.rts (tiling.getD 0))
      return [p] : Run (List Nat)) fun ps extra => extra = (ps : Multiset Nat) :=
    (opens_copyBinToHbm _).bind (fun p => Ledger.opens_pure [p]) fun p ps e₁ e₂ h₁ h₂ => by
      rw [h₁, h₂.1, h₂.2, add_zero, Multiset.coe_singleton]
  refine Ledger.opens_ite (fun _ => ?_) fun _ => Ledger.opens_ite (fun _ => ?_) fun _ => hcopy
  · refine (Ledger.opens_pure []).mono fun ps extra h => ?_
    rw [h.1, h.2]
    rfl
  · exact Ledger.Neutral.opens_bind (Ledger.neutral_lift _) fun _ => hcopy

/-- Registering a kernel is neutral. -/
theorem neutral_registerKernel : ledger.Neutral (registerKernel env kernel) := by
  refine Ledger.Neutral.bind Ledger.opens_read fun runner => ?_
  cases runner.stubFuncs.lookup kernel.ref with
  | some stubFunc => exact Ledger.neutral_pure _
  | none =>
      refine Ledger.Neutral.bind
        (neutral_onDevice (RtsApi.sameBuffers
          (RtsApi.only_registerDeviceBinaryKernel (fun _ _ => ⟨rfl, rfl⟩) _ _))) fun handle => ?_
      refine Ledger.Neutral.bind
        (neutral_onDevice (RtsApi.sameBuffers
          (RtsApi.only_registerFunction fun _ => ⟨rfl, rfl⟩))) fun stubFunc => ?_
      refine Ledger.Neutral.bind ?_ fun _ => Ledger.neutral_pure _
      refine ⟨back_of_api fun _ => rfl, fun s loose hinv _ => ⟨0, ?_, ?_, fun _ _ => rfl⟩⟩
      · rw [add_zero]
        exact hinv.same rfl rfl (le_refl _) (fun _ => rfl) hinv.device
      · rw [add_zero]
        rfl

/-- So is launching it, as often as that is done. -/
theorem neutral_launchTimes (stubFunc : String) (blockDim : Int) (args : List Nat)
    (stream n : Nat) : ledger.Neutral (launchTimes env stubFunc blockDim args stream n) := by
  induction n with
  | zero => exact Ledger.neutral_pure ()
  | succ n ih =>
      refine Ledger.Neutral.bind (neutral_onDevice ?_) fun _ =>
        Ledger.Neutral.bind (neutral_onDevice ?_) fun _ => ih
      · exact RtsApi.same_callChecked (fun _ => ⟨rfl, rfl⟩) ""
      · exact RtsApi.same_callChecked (fun _ => ⟨rfl, rfl⟩) ""

/-- So is executing it. -/
theorem neutral_executeKernel (args : List Nat) (blockDim : Option Int) :
    ledger.Neutral (executeKernel env kernel args blockDim) := by
  have hcall : ∀ {call : RtCall}, RtsApi.Bufferless call →
      ledger.Neutral (onDevice (RtsApi.callChecked env.rts call "")) := fun h =>
    neutral_onDevice (RtsApi.same_callChecked h "")
  have hrest : ∀ runner : Runner, ledger.Neutral (do
      let stubFunc ← registerKernel env kernel
      let dim ← PyM.lift (cBlockDim blockDim)
      launchTimes env stubFunc dim args runner.stream
        (if runner.profiling then runner.profilingTimes else 1)
      if runner.profiling then do
        onDevice (RtsApi.getOnlineProfilingData env.rts runner.stream runner.profilingTimes)
        onDevice (RtsApi.stopOnlineProfiling env.rts runner.stream) : Run Unit) := fun runner =>
    Ledger.Neutral.bind neutral_registerKernel fun _ =>
      Ledger.Neutral.bind (Ledger.neutral_lift _) fun _ =>
        Ledger.Neutral.bind (neutral_launchTimes _ _ _ _ _) fun _ =>
          Ledger.opens_ite
            (fun _ => Ledger.Neutral.bind (hcall fun _ => ⟨rfl, rfl⟩) fun _ =>
              hcall fun _ => ⟨rfl, rfl⟩)
            fun _ => Ledger.neutral_pure ()
  refine Ledger.Neutral.bind Ledger.opens_read fun runner =>
    Ledger.opens_ite (fun _ => ?_) fun _ => hrest runner
  exact Ledger.Neutral.bind (hcall fun _ => ⟨rfl, rfl⟩) fun _ => hrest runner

/-- What is obtained for a run is returned, if the kernel is executed. -/
theorem opens_executeWith (kernelArgs : List (Option Nat)) (tiling : Option Nat)
    (blockDim : Option Int) :
    ledger.Opens (executeWith env kernel kernelArgs tiling blockDim) fun held extra =>
      extra = (held.1 : Multiset Nat) + (held.2 : Multiset Nat) := by
  have hrest : ∀ ws ts : List Nat, ledger.Opens (do
      let args ← PyM.lift (knlArgs (kernelArgs ++ ws.map some ++ ts.map some))
      executeKernel env kernel args (if blockDim.getD 0 = 0 then kernel.blockDim else blockDim)
      return (ws, ts) : Run (List Nat × List Nat)) fun held extra =>
        held = (ws, ts) ∧ extra = 0 := fun ws ts =>
    Ledger.Neutral.opens_bind (Ledger.neutral_lift _) fun args =>
      Ledger.Neutral.opens_bind (neutral_executeKernel args _) fun _ => Ledger.opens_pure (ws, ts)
  have htiling : ∀ ws : List Nat, ledger.Opens (do
      let ts ← fillTiling env kernel tiling
      let args ← PyM.lift (knlArgs (kernelArgs ++ ws.map some ++ ts.map some))
      executeKernel env kernel args (if blockDim.getD 0 = 0 then kernel.blockDim else blockDim)
      return (ws, ts) : Run (List Nat × List Nat)) fun held extra =>
        ∃ ts : List Nat, held = (ws, ts) ∧ extra = (ts : Multiset Nat) := fun ws =>
    (opens_fillTiling tiling).bind (hrest ws) fun ts held e₁ e₂ h₁ h₂ =>
      ⟨ts, h₂.1, by rw [h₁, h₂.2, add_zero]⟩
  refine (opens_fillWorkspace kernel.workspace).bind htiling fun ws held e₁ e₂ h₁ h₂ => ?_
  obtain ⟨ts, rfl, rfl⟩ := h₂
  rw [h₁]

end Execute

/-! ## §3. The end of a run. -/

section Frees

variable {env : TbeEnv}

/-- A free does not make good one that has failed before. -/
theorem back_free (p : Nat) : ledger.Back (onDevice (RtsApi.free env.rts p)) := by
  intro s hsound f hf
  refine hsound f ?_
  obtain ⟨r, hrun, _⟩ := RtsApi.free_cases env.rts p s.api
  rw [onDevice_apply, hrun]
  dsimp only
  rw [frees_called]
  exact List.mem_append_left _ hf

/-- A free that has succeeded. -/
theorem free_eq (p : Nat) {s : Runner} (hsound : FreesSucceed (onDevice (RtsApi.free env.rts p) s).2) :
    env.rts.code s.api.calls.length = 0 ∧ onDevice (RtsApi.free env.rts p) s
      = (.ok (), { s with api := called env.rts (.rtFree p) s.api }) := by
  obtain ⟨r, hrun, hok⟩ := RtsApi.free_cases env.rts p s.api
  rw [onDevice_apply, hrun] at hsound ⊢
  have hcode : env.rts.code s.api.calls.length = 0 := by
    refine hsound (p, env.rts.code s.api.calls.length) ?_
    dsimp only
    rw [frees_called]
    exact List.mem_append_right _ (List.mem_singleton_self _)
  rw [hok hcode]
  exact ⟨hcode, rfl⟩

/-- Nor do several frees. -/
theorem back_freeAll (ps : List Nat) : ledger.Back (freeAll env ps) := by
  induction ps with
  | nil => exact fun _ h => h
  | cons p ps ih => exact (back_free p).bind fun _ => ih

/-- **Loose buffers are freed**, and none of these calls raises. -/
theorem freeAll_accounted (ps : List Nat) {s : Runner} {loose : Multiset Nat}
    (h : Accounted s (loose + ps)) (hsound : FreesSucceed (freeAll env ps s).2) :
    ∃ s', freeAll env ps s = (.ok (), s') ∧ Accounted s' loose := by
  induction ps generalizing s with
  | nil =>
      refine ⟨s, rfl, ?_⟩
      rw [Multiset.coe_nil, add_zero] at h
      exact h
  | cons p ps ih =>
      have hfirst : FreesSucceed (onDevice (RtsApi.free env.rts p) s).2 :=
        Ledger.sound_first (fun _ => back_freeAll ps) hsound
      obtain ⟨hcode, hrun⟩ := free_eq p hfirst
      have hbind : freeAll env (p :: ps) s
          = freeAll env ps { s with api := called env.rts (.rtFree p) s.api } := by
        show (onDevice (RtsApi.free env.rts p) >>= fun _ => freeAll env ps) s = _
        rw [PyM.bind_apply, hrun]
      rw [hbind] at hsound ⊢
      refine ih ?_ hsound
      have hp : Accounted s (loose + ps + {p}) := by
        rw [← Multiset.cons_coe, ← Multiset.singleton_add] at h
        rw [add_assoc, add_comm (ps : Multiset Nat)]
        exact h
      exact hp.free hcode

/-- **The part behind the inputs and outputs** leaves nothing loose if it returns, or obtains
nothing. -/
theorem accounts_runWith (kernel : AscendOpKernel) (kernelArgs : List (Option Nat))
    (tiling : Option Nat) (blockDim : Option Int) :
    ledger.Accounts (runWith env kernel kernelArgs tiling blockDim)
      (ledger.Clean (runWith env kernel kernelArgs tiling blockDim)) := by
  refine (opens_executeWith kernelArgs tiling blockDim).accounts_bind
    (fun held => (back_freeAll held.1).bind fun _ => back_freeAll held.2) ?_
  -- What was obtained for the run is freed, and the frees do not raise.
  rintro ⟨workspaces, tilings⟩ extra s loose rfl hinv hsound
  dsimp only at hinv hsound ⊢
  have hinv' : Accounted s (loose + tilings + workspaces) := by
    rw [add_assoc, add_comm (tilings : Multiset Nat)]
    exact hinv
  have hfirst : FreesSucceed (freeAll env workspaces s).2 :=
    Ledger.sound_first (fun _ => back_freeAll tilings) hsound
  obtain ⟨s₁, hrun₁, hinv₁⟩ := freeAll_accounted workspaces hinv' hfirst
  rw [PyM.bind_apply, hrun₁] at hsound ⊢
  obtain ⟨s₂, hrun₂, hinv₂⟩ := freeAll_accounted tilings hinv₁ hsound
  exact ⟨(), s₂, hrun₂, hinv₂⟩

end Frees

/-! ## §4. Parameters. -/

section Params

variable {s : Runner} {api : Api} {loose : Multiset Nat} {k p : Nat} {param : AscendOpKernelParam}

/-- What is obtained for nothing is loose. -/
theorem Accounted.loses (h : Accounted s loose) (hapi : Loses s.api api) :
    ∃ extra, Accounted { s with api } (loose + extra) ∧
      obtained { s with api } = obtained s + extra := by
  rcases hapi with hsame | ⟨p, hobtains⟩
  · refine ⟨0, ?_, ?_⟩
    · rw [add_zero]
      exact h.api_same hsame
    · rw [add_zero]
      exact obtained_same hsame
  · exact ⟨{p}, h.api_obtains hobtains⟩

/-- The heap after a parameter without a buffer has got one. -/
theorem device_write {params : Heap AscendOpKernelParam}
    (hdevice : ∀ j param, params.read j = some param → param.hbmPointer ≠ none →
      param.ascendDevice = true) (hread : params.read k = some param) (j : Nat)
    (param' : AscendOpKernelParam)
    (hread' : (params.write k { param with ascendDevice := true, hbmPointer := some p }).read j
      = some param') (hne : param'.hbmPointer ≠ none) : param'.ascendDevice = true := by
  by_cases hj : j = k
  · subst hj
    rw [Heap.read_write_self (Heap.lt_size_of_read hread), Option.some.injEq] at hread'
    subst hread'
    rfl
  · rw [Heap.read_write_ne params hj] at hread'
    exact hdevice j param' hread' hne

/-- A loose buffer is given to a parameter of the runner that has none. -/
theorem Accounted.give (h : Accounted s (loose + {p})) (hk : k ∈ s.kernelParams)
    (hread : s.params.read k = some param) (hnone : param.hbmPointer = none) :
    Accounted { s with
      params := s.params.write k
        { param with ascendDevice := true, hbmPointer := some p } } loose := by
  have hlt := Heap.lt_size_of_read hread
  refine h.own (k := k) rfl ?_ ?_ ?_ ?_ (pointerOf_write hlt) (fun j hj => pointerOf_write_ne hj)
    (device_write h.device hread)
  · rw [withParam_of_mem hk]
  · show k < (s.params.write k _).size
    rw [Heap.size_write]
    exact hlt
  · exact (Heap.size_write s.params k _).ge
  · unfold pointerOf
    rw [hread, Option.bind_some, hnone]

/-- A loose buffer is given to a new parameter, and the parameter to the runner. -/
theorem Accounted.giveNew (h : Accounted s (loose + {p})) (hp : param.hbmPointer = some p)
    (htrue : param.ascendDevice = true) :
    Accounted { s with
      params := s.params.alloc param
      kernelParams := s.kernelParams ++ [s.params.size] } loose := by
  have hnew : s.params.size ∉ s.kernelParams := fun hmem => Nat.lt_irrefl _ (h.valid _ hmem)
  refine h.own (k := s.params.size) rfl ?_ ?_ ?_ (pointerOf_of_size_le (le_refl _)) ?_
    (fun j hj => pointerOf_alloc_ne hj) fun j param' hread hne => ?_
  · unfold withParam
    rw [if_neg hnew]
  · show s.params.size < (s.params.alloc param).size
    rw [Heap.size_alloc]
    exact Nat.lt_succ_self _
  · show s.params.size ≤ (s.params.alloc param).size
    rw [Heap.size_alloc]
    exact Nat.le_succ _
  · exact pointerOf_alloc.trans hp
  · have hlt := Heap.lt_size_of_read hread
    rw [Heap.size_alloc] at hlt
    rcases Nat.lt_or_eq_of_le (Nat.le_of_lt_succ hlt) with hj | rfl
    · rw [Heap.read_alloc_old s.params param hj] at hread
      exact h.device j param' hread hne
    · rw [Heap.read_alloc_fresh, Option.some.injEq] at hread
      subst hread
      exact htrue

/-- A new parameter that is put into the cache takes over its buffer. -/
theorem Accounted.withParam_size (h : Accounted s loose) :
    withParam s.params.size { s with api, params := s.params.alloc param }
      = { s with
          api
          params := s.params.alloc param
          kernelParams := s.kernelParams ++ [s.params.size] } :=
  if_neg fun hmem => Nat.lt_irrefl _ (h.valid _ hmem)

end Params

/-! ## §5. Inputs and outputs. -/

section Fill

variable {env : TbeEnv} {s : Runner} {loose : Multiset Nat} {k : Nat}

/-- Reading a parameter frees nothing. -/
theorem back_readParam (k : Nat) : ledger.Back (readParam k) := by
  refine back_of_api fun s => ?_
  cases hread : s.params.read k with
  | none =>
      obtain ⟨e, hrun⟩ := readParam_none hread
      rw [hrun]
  | some param => rw [readParam_eq hread]

theorem back_updateParam (k : Nat) (f : AscendOpKernelParam → AscendOpKernelParam) :
    ledger.Back (updateParam k f) :=
  (back_readParam k).bind fun _ => back_of_api fun _ => rfl

theorem back_newParam (x : Except PyError AscendOpKernelParam) : ledger.Back (newParam x) := by
  refine back_of_api fun s => ?_
  rw [newParam_eq]
  cases x with
  | ok param => rfl
  | error e => rfl

theorem back_cacheKernelParam (k : Nat) : ledger.Back (cacheKernelParam k) := by
  refine back_of_api fun s => ?_
  show (if k ∈ s.kernelParams then s else _).api = s.api
  split
  · rfl
  · rfl

theorem back_concatIntoKernelArgs (k : Nat) : ledger.Back (concatIntoKernelArgs k) :=
  (back_readParam k).bind fun _ => Ledger.back_lift _

theorem back_syncToDevice (k : Nat) : ledger.Back (syncToDevice env k) := by
  refine (back_updateParam k _).bind fun _ => (back_readParam k).bind fun param => ?_
  cases param.npData with
  | none => exact Ledger.back_lift _
  | some npData => exact (opens_copyBinToHbm _).back.bind fun p => back_updateParam k _

/-- Building a parameter does not make good a free that has failed. -/
theorem back_buildKernelParam (data : ParamData) (shape : Option (List Int))
    (dtype : Option String) : ledger.Back (buildKernelParam env data shape dtype) := by
  refine Ledger.Back.bind ?_ fun k => (back_syncToDevice k).bind fun _ =>
    Ledger.Back.bind (fun _ h => h) fun _ => Ledger.back_lift _
  cases data with
  | array npData => exact back_newParam _
  | file path => exact (Ledger.back_lift _).bind fun _ => back_newParam _

/-- **A parameter that is built** has a buffer, and belongs to the runner. -/
theorem buildKernelParam_spec (env : TbeEnv) (data : ParamData) (shape : Option (List Int))
    (dtype : Option String) (h : Accounted s loose) :
    (∃ e s' extra, buildKernelParam env data shape dtype s = (.error e, s') ∧
        Accounted s' (loose + extra) ∧ obtained s' = obtained s + extra) ∨
      ∃ k s' param, buildKernelParam env data shape dtype s = (.ok k, s') ∧ Accounted s' loose ∧
        s'.params.read k = some param ∧ param.hbmPointer.isSome = true := by
  rcases buildKernelParam_cases env data shape dtype s with ⟨e, hrun⟩ |
    ⟨e, a, param, hloses, hnone, hrun⟩ | ⟨p, a, param, npData, hobtains, _, _, hp, htrue, hrun⟩
  · refine Or.inl ⟨e, s, 0, hrun, ?_, (add_zero _).symm⟩
    rw [add_zero]
    exact h
  · obtain ⟨extra, hinv, hobtained⟩ := h.loses hloses
    exact Or.inl ⟨e, _, extra, hrun, hinv.alloc hnone, hobtained⟩
  · refine Or.inr ⟨s.params.size, _, param, hrun,
      (h.api_obtains hobtains).1.giveNew hp htrue, Heap.read_alloc_fresh s.params param, ?_⟩
    rw [hp]
    rfl

/-- **A step of `_fill_inputs`** gives the buffer an owner if it returns. -/
theorem fillInput_spec (env : TbeEnv) (input : OpInput) (h : Accounted s loose) :
    (∃ e s' extra, fillInput env input s = (.error e, s') ∧ Accounted s' (loose + extra) ∧
        obtained s' = obtained s + extra) ∨
      ∃ r s', fillInput env input s = (.ok r, s') ∧ Accounted s' loose := by
  cases input with
  -- Host data gets a buffer of its own, which is lost if it cannot be filled.
  | data data =>
      have hrun : fillInput env (.data data) s
          = (buildKernelParam env data none none >>= fun k =>
              concatIntoKernelArgs k >>= fun arg => pure (arg, none)) s := rfl
      rw [hrun, PyM.bind_apply]
      rcases buildKernelParam_spec env data none none h with
        ⟨e, s', extra, hbuild, hinv, hobtained⟩ | ⟨k, s', param, hbuild, hinv, hread, _⟩
      · left
        rw [hbuild]
        exact ⟨e, s', extra, rfl, hinv, hobtained⟩
      · right
        rw [hbuild]
        dsimp only
        rw [PyM.bind_apply, concatIntoKernelArgs_eq hread]
        exact ⟨_, s', rfl, hinv⟩
  | param k =>
      cases hread : s.params.read k with
      | none =>
          left
          obtain ⟨e, he⟩ := fillInput_none env hread
          refine ⟨e, s, 0, he, ?_, (add_zero _).symm⟩
          rw [add_zero]
          exact h
      | some param =>
          have hcache := h.cache (Heap.lt_size_of_read hread)
          have hreadc : (withParam k s).params.read k = some param := by
            rw [read_withParam]
            exact hread
          have hobtainedc : obtained (withParam k s) = obtained s := by
            unfold withParam
            split
            · rfl
            · rfl
          rw [fillInput_param hread]
          -- A parameter without a buffer is copied to the device; any other has its pointer.
          by_cases hnone : param.hbmPointer.isNone = true
          · rw [if_pos hnone, PyM.bind_apply]
            rcases syncToDevice_cases env hreadc with
              ⟨e, a, hloses, hsync⟩ | ⟨p, a, hobtains, hsync⟩
            · left
              rw [hsync]
              obtain ⟨extra, hinv, hobtained⟩ := hcache.loses hloses
              exact ⟨e, _, extra, rfl, hinv.setDevice hreadc, by rw [← hobtainedc]; exact hobtained⟩
            · right
              rw [hsync]
              dsimp only
              rw [PyM.bind_apply, concatIntoKernelArgs_eq
                (Heap.read_write_self (Heap.lt_size_of_read hreadc) _)]
              exact ⟨_, _, rfl, (hcache.api_obtains hobtains).1.give (mem_withParam k s) hreadc
                (Option.isNone_iff_eq_none.mp hnone)⟩
          · right
            rw [if_neg hnone, PyM.bind_apply, concatIntoKernelArgs_eq hreadc]
            exact ⟨_, _, rfl, hcache⟩

/-- Nor does filling in an input. -/
theorem back_fillInput (input : OpInput) : ledger.Back (fillInput env input) := by
  have hrest : ∀ (k : Nat) (r : Option Nat), ledger.Back
      (concatIntoKernelArgs k >>= fun arg => (pure (arg, r) : Run (Option Nat × Option Nat))) :=
    fun k r => (back_concatIntoKernelArgs k).bind fun _ => Ledger.back_lift _
  cases input with
  | data data => exact (back_buildKernelParam data none none).bind fun k => hrest k none
  | param k =>
      refine (back_readParam k).bind fun _ => (back_cacheKernelParam k).bind fun _ =>
        (back_readParam k).bind fun param => ?_
      dsimp only
      split
      · exact (back_syncToDevice k).bind fun _ => hrest k (some k)
      · exact hrest k (some k)

/-- A step of `_fill_inputs` leaves nothing loose if it returns, or obtains nothing. -/
theorem accounts_fillInput (input : OpInput) :
    ledger.Accounts (fillInput env input) (ledger.Clean (fillInput env input)) :=
  Ledger.accounts_of_cases (back_fillInput input) fun _ _ hinv _ => fillInput_spec env input hinv

/-- **Building a parameter** leaves nothing loose exactly if it is clean. -/
theorem accounts_buildKernelParam (data : ParamData) (shape : Option (List Int))
    (dtype : Option String) :
    ledger.Accounts (buildKernelParam env data shape dtype)
      (ledger.Clean (buildKernelParam env data shape dtype)) := by
  refine Ledger.accounts_of_cases (back_buildKernelParam data shape dtype) fun s loose hinv _ => ?_
  rcases buildKernelParam_spec env data shape dtype hinv with h | ⟨k, s', param, hrun, hinv', _⟩
  · exact Or.inl h
  · exact Or.inr ⟨k, s', hrun, hinv'⟩

/-- **A step of `_fill_outputs`** gives the buffer an owner if it returns. -/
theorem fillOutput_spec (env : TbeEnv) (outputInputRef : List (Int × Int))
    (inputParams : List Nat) (outputIdx : Int) (info : OutputInfo) (h : Accounted s loose) :
    (∃ e s' extra, fillOutput env outputInputRef inputParams outputIdx info s = (.error e, s') ∧
        Accounted s' (loose + extra) ∧ obtained s' = obtained s + extra) ∨
      ∃ r s', fillOutput env outputInputRef inputParams outputIdx info s = (.ok r, s') ∧
        Accounted s' loose := by
  rcases fillOutput_cases env outputInputRef inputParams outputIdx info s with
    ⟨e, a, hloses, hrun⟩ | ⟨i, k, param, _, _, hread, hrun⟩ |
      ⟨p, a, param, _, hobtains, hp, htrue, _, hrun⟩
  · obtain ⟨extra, hinv, hobtained⟩ := h.loses hloses
    exact Or.inl ⟨e, _, extra, hrun, hinv, hobtained⟩
  · exact Or.inr ⟨_, _, hrun, h.cache (Heap.lt_size_of_read hread)⟩
  · rw [h.withParam_size] at hrun
    exact Or.inr ⟨_, _, hrun, (h.api_obtains hobtains).1.giveNew hp htrue⟩

/-- Nor does filling in an output. -/
theorem back_fillOutput (outputInputRef : List (Int × Int)) (inputParams : List Nat)
    (outputIdx : Int) (info : OutputInfo) :
    ledger.Back (fillOutput env outputInputRef inputParams outputIdx info) := by
  refine Ledger.Back.bind ?_ fun k => (back_concatIntoKernelArgs k).bind fun _ =>
    (back_cacheKernelParam k).bind fun _ => Ledger.back_lift _
  unfold outputParam
  cases refOf outputInputRef outputIdx with
  | some i => exact Ledger.back_lift _
  | none =>
      exact (Ledger.back_lift _).bind fun size => (opens_malloc size).back.bind fun p =>
        (neutral_onDevice (RtsApi.same_callChecked (fun _ => ⟨rfl, rfl⟩) "")).back.bind fun _ =>
          back_newParam _

/-- A step of `_fill_outputs` leaves nothing loose if it returns, or obtains nothing. -/
theorem accounts_fillOutput (outputInputRef : List (Int × Int)) (inputParams : List Nat)
    (outputIdx : Int) (info : OutputInfo) :
    ledger.Accounts (fillOutput env outputInputRef inputParams outputIdx info)
      (ledger.Clean (fillOutput env outputInputRef inputParams outputIdx info)) :=
  Ledger.accounts_of_cases (back_fillOutput _ _ _ _) fun _ _ hinv _ =>
    fillOutput_spec env _ _ _ _ hinv

end Fill

end TbeOp

end HwEfat.Main
