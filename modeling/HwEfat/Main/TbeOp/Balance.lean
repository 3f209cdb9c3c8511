/-
  HwEfat.Main.TbeOp.Balance — the memory of the device over a session.

  Every buffer with an owner is freed once when the runner is left.  A buffer is lost if the
  program raises while it is only held by a local variable: between `malloc` and the end of
  `sync_to_device`, between `malloc` and `cache_kernel_param`, or, for workspaces and tiling data,
  anywhere before the end of `run`.

  Main result: `session_balanced_iff`.
-/
import Mathlib.Algebra.Ring.Int.Defs
import HwEfat.Main.TbeOp.Steps
import Mathlib.Algebra.BigOperators.Group.List.Defs

namespace HwEfat.Main

open HwEfat.Lib (PyError PyM Ledger Heap)

namespace TbeOp

open RtsApi (Api Rts RtsEnv RtCall obtainedBy freeOf SameBuffers Obtains called)

/-! ## §1. Calls in a session. -/

/-- No step of the run raises with a buffer in its hands: each input, each output, and what
comes behind them either returns or has obtained nothing. -/
structure RunClean (env : TbeEnv) (a : RunArgs) (s : Runner) : Prop where
  inputs : PyM.EachStep (fillInput env) (fun input => ledger.Clean (fillInput env input)) a.inputs s
  outputs : ∀ ins s₁, fillInputs env a.inputs s = (.ok ins, s₁) →
    PyM.EachStep (fillOutput env a.outputInputRef (ins.filterMap Prod.snd) 0)
      (fun info => ledger.Clean
        (fillOutput env a.outputInputRef (ins.filterMap Prod.snd) 0 info))
      (a.outputInfos.filterMap id) s₁
  rest : ∀ ins s₁ outs s₂, fillInputs env a.inputs s = (.ok ins, s₁) →
    fillOutputs env a.outputInputRef (ins.filterMap Prod.snd) a.outputInfos s₁ = (.ok outs, s₂) →
    ledger.Clean (runWith env a.kernel (ins.map Prod.fst ++ outs.map Prod.snd) a.tiling a.blockDim)
      s₂

/-- No step of the call raises with a buffer in its hands. -/
def CallClean (env : TbeEnv) (s : Runner) : SessionCall → Prop
  | .buildKernelParam data shape dtype => ledger.Clean (buildKernelParam env data shape dtype) s
  | .run a => RunClean env a s

/-- All calls of the session are so, at the objects before them. -/
def SessionClean (env : TbeEnv) : List SessionCall → Runner → Prop
  | [], _ => True
  | call :: calls, s =>
      CallClean env s call ∧ SessionClean env calls (sessionCall env call s).2

section Calls

variable {env : TbeEnv}

/-- **A run** leaves nothing loose exactly if it is clean. -/
theorem accounts_run (a : RunArgs) : ledger.Accounts (run env a) (RunClean env a) := by
  have hrest : ∀ (ins : List (Option Nat × Option Nat)) (outs : List (Nat × Option Nat)),
      ledger.Accounts (do
          runWith env a.kernel (ins.map Prod.fst ++ outs.map Prod.snd) a.tiling a.blockDim
          return outs.map Prod.fst : Run (List Nat)) _ := fun ins outs =>
    (accounts_runWith a.kernel _ a.tiling a.blockDim).bind fun _ =>
      Ledger.accounts_lift (.ok (outs.map Prod.fst))
  have houts : ∀ ins : List (Option Nat × Option Nat), ledger.Accounts (do
      let outs ← fillOutputs env a.outputInputRef (ins.filterMap Prod.snd) a.outputInfos
      runWith env a.kernel (ins.map Prod.fst ++ outs.map Prod.snd) a.tiling a.blockDim
      return outs.map Prod.fst : Run (List Nat)) _ := fun ins =>
    (Ledger.Accounts.collect (accounts_fillOutput a.outputInputRef (ins.filterMap Prod.snd) 0)
      (a.outputInfos.filterMap id)).bind (hrest ins)
  refine ((Ledger.Accounts.collect accounts_fillInput a.inputs).bind houts).congr fun s => ?_
  constructor
  · rintro ⟨hinputs, h⟩
    exact ⟨hinputs, fun ins s₁ hins => (h ins s₁ hins).1,
      fun ins s₁ outs s₂ hins houts => ((h ins s₁ hins).2 outs s₂ houts).1⟩
  · intro h
    exact ⟨h.inputs, fun ins s₁ hins => ⟨h.outputs ins s₁ hins, fun outs s₂ houts =>
      ⟨h.rest ins s₁ outs s₂ hins houts, fun _ _ _ => trivial⟩⟩⟩

/-- **A call of a session**, too. -/
theorem accounts_sessionCall (call : SessionCall) :
    ledger.Accounts (sessionCall env call) fun s => CallClean env s call := by
  cases call with
  | buildKernelParam data shape dtype =>
      refine ((accounts_buildKernelParam data shape dtype).bind fun _ =>
        Ledger.accounts_lift (.ok ())).congr fun s => ?_
      exact and_iff_left fun _ _ _ => trivial
  | run a =>
      refine ((accounts_run a).bind fun _ => Ledger.accounts_lift (.ok ())).congr fun s => ?_
      exact and_iff_left fun _ _ _ => trivial

/-- If all frees have succeeded behind a session, those before it have. -/
theorem freesSucceed_of_sessionRun (calls : List SessionCall) {s : Runner}
    (h : FreesSucceed (sessionRun env calls s)) : FreesSucceed s := by
  induction calls generalizing s with
  | nil => exact h
  | cons call calls ih => exact (accounts_sessionCall call).back s (ih h)

/-- **A session leaves nothing loose** exactly if no step raises with a buffer in its hands. -/
theorem sessionRun_accounted (calls : List SessionCall) {s : Runner} {loose : Multiset Nat}
    (h : Accounted s loose) (hsound : FreesSucceed (sessionRun env calls s)) :
    ∃ extra, Accounted (sessionRun env calls s) (loose + extra) ∧
      (extra = 0 ↔ SessionClean env calls s) := by
  induction calls generalizing s loose with
  | nil =>
      refine ⟨0, ?_, iff_of_true rfl trivial⟩
      rw [add_zero]
      exact h
  | cons call calls ih =>
      obtain ⟨e₁, hinv₁, hclean₁⟩ := (accounts_sessionCall call).settles s loose h
        (freesSucceed_of_sessionRun calls hsound)
      obtain ⟨e₂, hinv₂, hclean₂⟩ := ih hinv₁ hsound
      refine ⟨e₁ + e₂, ?_, ?_⟩
      · rw [← add_assoc]
        exact hinv₂
      · rw [← Multiset.card_eq_zero, Multiset.card_add, Nat.add_eq_zero_iff,
          Multiset.card_eq_zero, Multiset.card_eq_zero, hclean₁, hclean₂]
        rfl

end Calls

/-! ## §2. The end of a session. -/

section Exit

variable {env : TbeEnv} {s : Runner} {loose : Multiset Nat} {k : Nat}

/-- A parameter without a buffer forgets the device. -/
theorem Accounted.forget {param : AscendOpKernelParam} (h : Accounted s loose)
    (hread : s.params.read k = some param) (hnone : param.hbmPointer = none) :
    Accounted { s with params := s.params.write k { param with ascendDevice := false } } loose := by
  refine h.same rfl rfl (Heap.size_write s.params k _).ge (fun j => ?_)
    fun j param' hread' hne => ?_
  · by_cases hj : j = k
    · subst hj
      rw [pointerOf_write (Heap.lt_size_of_read hread)]
      unfold pointerOf
      rw [hread, Option.bind_some]
    · exact pointerOf_write_ne hj
  · by_cases hj : j = k
    · subst hj
      rw [Heap.read_write_self (Heap.lt_size_of_read hread), Option.some.injEq] at hread'
      subst hread'
      exact absurd hnone hne
    · rw [Heap.read_write_ne s.params hj] at hread'
      exact h.device j param' hread' hne

/-- Releasing a buffer does not make good a free that has failed. -/
theorem back_releaseDevice (k : Nat) : ledger.Back (releaseDevice env k) := by
  refine (back_readParam k).bind fun param => Ledger.Back.bind ?_ fun _ => back_updateParam k _
  unfold releasePointer
  split
  · exact (back_free _).bind fun _ => back_updateParam k _
  · exact Ledger.back_lift _

/-- The release of a parameter without a buffer. -/
theorem releaseDevice_none {param : AscendOpKernelParam} (hread : s.params.read k = some param)
    (hnone : param.hbmPointer = none) :
    releaseDevice env k s = (.ok (), { s with
      params := s.params.write k { param with ascendDevice := false } }) := by
  have hskip : releasePointer env k param s = (.ok (), s) := by
    unfold releasePointer
    rw [hnone]
    cases param.ascendDevice with
    | false => rfl
    | true => rfl
  unfold releaseDevice
  rw [PyM.bind_apply, readParam_eq hread]
  dsimp only
  rw [PyM.bind_apply, hskip]
  exact updateParam_eq _ hread

/-- The release of a parameter with a buffer is no more than the free, if that raises. -/
theorem releaseDevice_some {param : AscendOpKernelParam} {p : Nat}
    (hread : s.params.read k = some param) (hp : param.hbmPointer = some p)
    (htrue : param.ascendDevice = true) :
    releaseDevice env k s = (onDevice (RtsApi.free env.rts p) >>= fun _ =>
      updateParam k (fun param => { param with hbmPointer := none }) >>= fun _ =>
        updateParam k fun param => { param with ascendDevice := false }) s := by
  have hfree : releasePointer env k param = (onDevice (RtsApi.free env.rts p) >>= fun _ =>
      updateParam k fun param => { param with hbmPointer := none }) := by
    unfold releasePointer
    rw [hp, htrue]
  unfold releaseDevice
  rw [PyM.bind_apply, readParam_eq hread]
  dsimp only
  rw [hfree, PyM.bind_assoc]

/-- A parameter has no buffer any more. -/
theorem pointerOf_release (api : Api) {param : AscendOpKernelParam} (hk : k < s.params.size)
    (hnone : param.hbmPointer = none) :
    pointerOf { s with api, params := s.params.write k param } k = none ∧
      ∀ j, pointerOf s j = none →
        pointerOf { s with api, params := s.params.write k param } j = none := by
  have hself : pointerOf { s with api, params := s.params.write k param } k = none :=
    (pointerOf_write (s := { s with api }) hk).trans hnone
  refine ⟨hself, fun j hj => ?_⟩
  by_cases hjk : j = k
  · rw [hjk]
    exact hself
  · exact (pointerOf_write_ne (s := { s with api }) hjk).trans hj

/-- **A parameter is released**: its buffer is freed, if it has one. -/
theorem releaseDevice_spec (env : TbeEnv) (h : Accounted s loose) (hk : k < s.params.size)
    (hsound : FreesSucceed (releaseDevice env k s).2) :
    ∃ s', releaseDevice env k s = (.ok (), s') ∧ Accounted s' loose ∧
      s'.kernelParams = s.kernelParams ∧ s'.params.size = s.params.size ∧
      pointerOf s' k = none ∧ ∀ j, pointerOf s j = none → pointerOf s' j = none := by
  obtain ⟨param, hread⟩ := Heap.read_of_lt_size hk
  cases hpointer : param.hbmPointer with
  | none =>
      exact ⟨_, releaseDevice_none hread hpointer, h.forget hread hpointer, rfl,
        Heap.size_write _ _ _, pointerOf_release s.api hk hpointer⟩
  | some p =>
      have htrue : param.ascendDevice = true := by
        refine h.device k param hread ?_
        rw [hpointer]
        exact Option.some_ne_none p
      rw [releaseDevice_some hread hpointer htrue] at hsound ⊢
      obtain ⟨hcode, hcall⟩ := free_eq p (Ledger.sound_first
        (fun _ => (back_updateParam k _).bind fun _ => back_updateParam k _) hsound)
      rw [PyM.bind_apply, hcall]
      dsimp only
      rw [PyM.bind_apply,
        updateParam_eq (s := { s with api := called env.rts (.rtFree p) s.api }) _ hread]
      dsimp only
      rw [updateParam_eq _ (Heap.read_write_self hk _)]
      dsimp only
      rw [Heap.write_write]
      -- For the accounts the order of the free and of the writes does not matter.
      exact ⟨_, rfl, (h.disown hread hpointer).free hcode, rfl, Heap.size_write _ _ _,
        pointerOf_release _ hk rfl⟩

/-- Nor does releasing all of them. -/
theorem back_releaseAll (ks : List Nat) : ledger.Back (releaseAll env ks) := by
  induction ks with
  | nil => exact fun _ h => h
  | cons k ks ih => exact (back_releaseDevice k).bind fun _ => ih

/-- **All parameters are released.** -/
theorem releaseAll_spec (env : TbeEnv) (ks : List Nat) (h : Accounted s loose)
    (hks : ∀ k ∈ ks, k < s.params.size) (hsound : FreesSucceed (releaseAll env ks s).2) :
    ∃ s', releaseAll env ks s = (.ok (), s') ∧ Accounted s' loose ∧
      s'.kernelParams = s.kernelParams ∧ (∀ k ∈ ks, pointerOf s' k = none) ∧
      ∀ j, pointerOf s j = none → pointerOf s' j = none := by
  induction ks generalizing s with
  | nil => exact ⟨s, rfl, h, rfl, fun k hk => absurd hk List.not_mem_nil, fun _ hj => hj⟩
  | cons k ks ih =>
      have hrun : releaseAll env (k :: ks) s
          = (releaseDevice env k >>= fun _ => releaseAll env ks) s := rfl
      rw [hrun] at hsound ⊢
      obtain ⟨s₁, hfirst, hinv₁, hkernelParams₁, hsize₁, hnone₁, hkeep₁⟩ :=
        releaseDevice_spec env h (hks k List.mem_cons_self)
          (Ledger.sound_first (fun _ => back_releaseAll ks) hsound)
      rw [PyM.bind_apply, hfirst] at hsound ⊢
      obtain ⟨s', hrest, hinv', hkernelParams', hnone', hkeep'⟩ :=
        ih hinv₁ (fun j hj => by rw [hsize₁]; exact hks j (List.mem_cons_of_mem k hj)) hsound
      refine ⟨s', hrest, hinv', hkernelParams'.trans hkernelParams₁, fun j hj => ?_,
        fun j hj => hkeep' j (hkeep₁ j hj)⟩
      rcases List.mem_cons.mp hj with rfl | hj
      · exact hkeep' j hnone₁
      · exact hnone' j hj

/-- Only the runtime was called, and not for a buffer. -/
def OnlyCalls (s s' : Runner) : Prop := SameBuffers s.api s'.api ∧ s' = { s with api := s'.api }

/-- Two calls that change the device only, one after the other. -/
theorem OnlyCalls.trans (s₁ s₂ s₃ : Runner) (h : OnlyCalls s₁ s₂) (h' : OnlyCalls s₂ s₃) :
    OnlyCalls s₁ s₃ := by
  refine ⟨h.1.trans _ _ _ h'.1, ?_⟩
  rw [h'.2, h.2]

/-- A call of the runtime that touches no buffer changes the device only. -/
theorem onlyCalls_onDevice {α : Type} {x : Rts α} (h : x.Keeps SameBuffers) :
    (onDevice x).Keeps OnlyCalls := fun s => ⟨h s.api, rfl⟩

/-- The end of `__exit__`. -/
theorem exit_onlyCalls (env : TbeEnv) (stream : Nat) (deviceId : Int) : (do
    onDevice (RtsApi.destroyStream env.rts stream)
    onDevice (RtsApi.reset env.rts (some deviceId)) : Run Unit).Keeps OnlyCalls :=
  (onlyCalls_onDevice (RtsApi.same_callChecked (fun _ => ⟨rfl, rfl⟩) "")).bind OnlyCalls.trans
    fun _ => onlyCalls_onDevice (RtsApi.sameBuffers (RtsApi.only_reset (fun _ _ => ⟨rfl, rfl⟩) _))

/-- The end of a session frees nothing. -/
theorem back_exitEnd (env : TbeEnv) (stream : Nat) (deviceId : Int) : ledger.Back (do
    onDevice (RtsApi.destroyStream env.rts stream)
    onDevice (RtsApi.reset env.rts (some deviceId)) : Run Unit) :=
  fun s hsound => (freesSucceed_congr (exit_onlyCalls env stream deviceId s).1.frees).mp hsound

/-- Leaving a session does not make good a free that has failed. -/
theorem back_exit : ledger.Back (exit env) :=
  Ledger.Back.bind (fun _ h => h) fun runner =>
    (back_releaseAll runner.kernelParams).bind fun _ =>
      back_exitEnd env runner.stream runner.deviceId

/-- **When the runner is left**, nothing has an owner any more. -/
theorem exit_accounted (h : Accounted s loose) (hsound : FreesSucceed (exit env s).2) :
    Accounted (exit env s).2 loose ∧ owned (exit env s).2 = 0 := by
  have hrun : exit env s = (releaseAll env s.kernelParams >>= fun _ => do
      onDevice (RtsApi.destroyStream env.rts s.stream)
      onDevice (RtsApi.reset env.rts (some s.deviceId))) s := rfl
  rw [hrun] at hsound ⊢
  obtain ⟨s₁, hrelease, hinv₁, hkernelParams, hnone, _⟩ := releaseAll_spec env s.kernelParams h
    h.valid (Ledger.sound_first (fun _ => back_exitEnd env s.stream s.deviceId) hsound)
  have howned : owned s₁ = 0 := by
    unfold owned
    rw [hkernelParams, List.filterMap_eq_nil_iff.mpr hnone]
    rfl
  rw [PyM.bind_apply, hrelease]
  obtain ⟨hbuffers, hsame⟩ := exit_onlyCalls env s.stream s.deviceId s₁
  refine ⟨?_, ?_⟩
  · rw [hsame]
    exact hinv₁.api_same hbuffers
  · rw [hsame]
    exact howned

end Exit

/-! ## §3. Sessions. -/

/-- A new runner: no buffer was obtained, and no parameter is on the device. -/
structure Started (s : Runner) : Prop where
  kernelParams : s.kernelParams = []
  params : ∀ k, pointerOf s k = none
  buffers : s.api.calls.filterMap obtainedBy = [] ∧ s.api.calls.filterMap freeOf = []

/-- **The constructor** makes a new runner, for an object of the runtime with no buffers. -/
theorem initRunner_started (env : TbeEnv) {simulatorMode socVersion simulatorLibPath : Option String}
    {simulatorDumpPath : String} {deviceId : Int} {profiling : Bool} {profilingTimes : Nat}
    {s s' : Runner} (hparams : ∀ k, pointerOf s k = none)
    (hbuffers : s.api.calls.filterMap obtainedBy = [] ∧ s.api.calls.filterMap freeOf = [])
    (h : initRunner env simulatorMode socVersion simulatorLibPath simulatorDumpPath deviceId
      profiling profilingTimes s = (.ok (), s')) : Started s' := by
  unfold initRunner at h
  have hrest : ∀ u : Unit, (do
      PyM.modify fun runner : Runner => { runner with deviceId }
      onDevice (RtsApi.init env.rts simulatorMode socVersion simulatorLibPath simulatorDumpPath)
      onDevice (RtsApi.setDevice env.rts deviceId)
      let stream ← onDevice (RtsApi.createStream env.rts)
      PyM.modify fun runner : Runner =>
        { runner with stream, kernelParams := [], profiling, profilingTimes } : Run Unit) s
      = (.ok (), s') → Started s' := by
    intro _ h
    obtain ⟨_, s₁, h₁, h⟩ := PyM.bind_eq_ok.mp h
    obtain ⟨_, s₂, h₂, h⟩ := PyM.bind_eq_ok.mp h
    obtain ⟨_, s₃, h₃, h⟩ := PyM.bind_eq_ok.mp h
    obtain ⟨stream, s₄, h₄, h⟩ := PyM.bind_eq_ok.mp h
    have hs₁ : s₁ = { s with deviceId } := (congrArg Prod.snd h₁).symm
    have hinit : OnlyCalls s₁ (onDevice (RtsApi.init env.rts simulatorMode socVersion
        simulatorLibPath simulatorDumpPath) s₁).2 :=
      onlyCalls_onDevice (RtsApi.sameBuffers (RtsApi.only_init _ _ _ _)) s₁
    have hdevice : OnlyCalls s₂ (onDevice (RtsApi.setDevice env.rts deviceId) s₂).2 :=
      onlyCalls_onDevice (RtsApi.sameBuffers (RtsApi.only_setDevice fun _ => ⟨rfl, rfl⟩)) s₂
    have hstream : OnlyCalls s₃ (onDevice (RtsApi.createStream env.rts) s₃).2 :=
      onlyCalls_onDevice (RtsApi.sameBuffers (RtsApi.only_createStream fun _ _ => ⟨rfl, rfl⟩)) s₃
    rw [h₂, hs₁] at hinit
    rw [h₃] at hdevice
    rw [h₄] at hstream
    -- None of the calls that open the device allocates.
    have hall : OnlyCalls { s with deviceId } s₄ :=
      (hinit.trans _ _ _ hdevice).trans _ _ _ hstream
    obtain rfl : _ = s' := congrArg Prod.snd h
    refine ⟨rfl, fun k => ?_, ?_, ?_⟩
    · have hread : s₄.params = s.params := by rw [hall.2]
      have hnone := hparams k
      unfold pointerOf at hnone ⊢
      rw [← hread] at hnone
      exact hnone
    · exact hall.1.obtained.trans hbuffers.1
    · exact hall.1.frees.trans hbuffers.2
  split at h
  · obtain ⟨_, s₁, h₁, _⟩ := PyM.bind_eq_ok.mp h
    cases h₁
  · exact hrest () h

/-- Every buffer that was obtained was freed exactly once. -/
def Balanced (s : Runner) : Prop := ∀ p ∈ obtained s, (released s).count p = 1

/-- A runner that has just been started has nothing to account for. -/
theorem Started.accounted {s : Runner} (h : Started s) : Accounted s 0 := by
  have hobtained : obtained s = 0 := by
    unfold obtained
    rw [h.buffers.1]
    rfl
  refine ⟨?_, ?_, fun p hp => ?_, fun k hk => ?_, ?_, fun k p hp => ?_, fun k param hread hne => ?_⟩
  · have hreleased : released s = 0 := by
      unfold released
      rw [h.buffers.2]
      rfl
    have howned : owned s = 0 := by
      unfold owned
      rw [h.kernelParams]
      rfl
    rw [hobtained, hreleased, howned]
    rfl
  · rw [hobtained]
    exact Multiset.nodup_zero
  · rw [hobtained] at hp
    exact absurd hp (Multiset.notMem_zero p)
  · rw [h.kernelParams] at hk
    exact absurd hk List.not_mem_nil
  · rw [h.kernelParams]
    exact List.nodup_nil
  · rw [h.params k] at hp
    cases hp
  · have hnone := h.params k
    unfold pointerOf at hnone
    rw [hread, Option.bind_some] at hnone
    exact absurd hnone hne

/-- Of what was obtained, and has no owner, everything was freed if nothing is loose. -/
theorem balanced_iff {s : Runner} {loose : Multiset Nat} (h : Accounted s loose)
    (howned : owned s = 0) : Balanced s ↔ loose = 0 := by
  have hbalance := h.balance
  rw [howned, add_zero] at hbalance
  constructor
  · intro hbalanced
    refine Multiset.eq_zero_iff_forall_notMem.mpr fun p hp => ?_
    have hmem : p ∈ obtained s := by
      rw [hbalance]
      exact Multiset.mem_add.mpr (Or.inr hp)
    have hone := Multiset.count_eq_one_of_mem h.distinct hmem
    rw [hbalance, Multiset.count_add, hbalanced p hmem] at hone
    have hpos := Multiset.count_pos.mpr hp
    omega
  · rintro rfl p hp
    rw [add_zero] at hbalance
    rw [← hbalance]
    exact Multiset.count_eq_one_of_mem h.distinct hp

/-- **The memory of the device is balanced** after a session exactly if no step of it raised
with a buffer in its hands, provided that the frees succeed. -/
theorem session_balanced_iff (env : TbeEnv) (calls : List SessionCall) (s : Runner)
    (hs : Started s) (hfrees : FreesSucceed (session env calls s).2) :
    Balanced (session env calls s).2 ↔ SessionClean env calls s := by
  have hrun : FreesSucceed (sessionRun env calls s) := back_exit _ hfrees
  obtain ⟨extra, hinv, hclean⟩ := sessionRun_accounted calls hs.accounted hrun
  rw [zero_add] at hinv
  obtain ⟨hinv', howned⟩ := exit_accounted hinv hfrees
  exact (balanced_iff hinv' howned).trans hclean

/-- A device on which every call succeeds. -/
def willingDevice : TbeEnv where
  rts :=
    { code _ := 0
      readFile _ := .ok []
      pathExists _ := true
      realpath path := path
      loads _ := true }
  calcShapeSize
    | none => .error (.typeError "object of type 'NoneType' has no len()")
    | some shape => .ok shape.prod
  fromfile _ _ := .error (.osError "No such file or directory")
  reshape _ _ := .error (.valueError "cannot reshape array")

/-- A new runner. -/
def newRunner : Runner := { api := { deviceId := some 0 } }

/-- The runner of a new session has just been started. -/
theorem started_newRunner : Started newRunner :=
  ⟨rfl, fun _ => rfl, rfl, rfl⟩

/-- A kernel with a workspace that needs tiling data. -/
def tiledKernel : AscendOpKernel where
  ref := 0
  binPath := "kernel_meta/add.o"
  stubFuncName := "add"
  blockDim := some 1
  workspace := [64]
  needDoTiling := true

/-- A run of such a kernel with tiling data, on an array and with an output. -/
def tiledRun : RunArgs where
  kernel :=
    { tiledKernel with outputInfos := [some { shape := some [2], dtype := some "float16" }] }
  inputs := [.data (.array ⟨[2], some "float16", 4⟩)]
  tiling := some 8

/-- The workspace and the tiling data are freed at the end of the run, the buffers of the input and
the output when the runner is left; so no step has lost one. -/
theorem session_balanced_iff_tiled :
    obtained (session willingDevice [.run tiledRun] newRunner).2 = {1, 2, 3, 4} ∧
      released (session willingDevice [.run tiledRun] newRunner).2 = {3, 4, 1, 2} ∧
      SessionClean willingDevice [.run tiledRun] newRunner := by
  have hobtained : obtained (session willingDevice [.run tiledRun] newRunner).2 = {1, 2, 3, 4} := by
    decide +kernel
  have hreleased : released (session willingDevice [.run tiledRun] newRunner).2 = {3, 4, 1, 2} := by
    decide +kernel
  have hfrees : FreesSucceed (session willingDevice [.run tiledRun] newRunner).2 := by
    have hall : (session willingDevice [.run tiledRun] newRunner).2.api.calls.filterMap freeOf
        = [(3, 0), (4, 0), (1, 0), (2, 0)] := by decide +kernel
    unfold FreesSucceed
    rw [hall]
    decide
  refine ⟨hobtained, hreleased, (session_balanced_iff willingDevice [.run tiledRun] newRunner
    started_newRunner hfrees).mp fun p hp => ?_⟩
  rw [hobtained] at hp
  rw [hreleased]
  revert p
  decide

/-- Without tiling data the run raises with the workspace in its hands, and nobody frees it. -/
theorem workspace_lost :
    (run willingDevice { kernel := tiledKernel, inputs := [] } newRunner).1
        = .error (.runtimeError "Tiling data is None") ∧
      (session willingDevice [.run { kernel := tiledKernel, inputs := [] }] newRunner).1
        = .ok () ∧
      obtained (session willingDevice [.run { kernel := tiledKernel, inputs := [] }]
        newRunner).2 = {1} ∧
      ¬ Balanced (session willingDevice [.run { kernel := tiledKernel, inputs := [] }]
        newRunner).2 := by
  have hobtained : obtained (session willingDevice
      [.run { kernel := tiledKernel, inputs := [] }] newRunner).2 = {1} := rfl
  have hreleased : released (session willingDevice
      [.run { kernel := tiledKernel, inputs := [] }] newRunner).2 = 0 := rfl
  refine ⟨rfl, rfl, hobtained, fun h => ?_⟩
  have hone := h 1 (by rw [hobtained]; exact Multiset.mem_singleton_self 1)
  rw [hreleased, Multiset.count_zero] at hone
  cases hone

end TbeOp

end HwEfat.Main
