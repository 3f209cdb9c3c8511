/-
  HwEfat.Main.RtsApi.Calls — which calls a function makes.

  The functions of `AscendRTSApi` only append to the calls, and what they append satisfies `P` if
  all the calls do that they make (`Only`).
-/
import HwEfat.Lib.Frame
import HwEfat.Main.RtsApi.Codes

namespace HwEfat.Main

open HwEfat.Lib (PyError PyM)

namespace RtsApi

/-- All calls in between satisfy `P`. -/
structure Only (P : RtCall → Prop) (s s' : Api) : Prop where
  calls : ∃ new, s'.calls = s.calls ++ new ∧ ∀ e ∈ new, P e.1
  handles : s.handles ≤ s'.handles

section Only

variable {env : RtsEnv} {P : RtCall → Prop} {α β : Type}

theorem Only.refl (s : Api) : Only P s s :=
  ⟨⟨[], (List.append_nil _).symm, fun _ h => absurd h List.not_mem_nil⟩, le_refl _⟩

theorem Only.trans (s₁ s₂ s₃ : Api) (h : Only P s₁ s₂) (h' : Only P s₂ s₃) : Only P s₁ s₃ := by
  obtain ⟨new, hnew, hP⟩ := h.calls
  obtain ⟨new', hnew', hP'⟩ := h'.calls
  refine ⟨⟨new ++ new', by rw [hnew', hnew, List.append_assoc], fun e he => ?_⟩,
    h.handles.trans h'.handles⟩
  exact (List.mem_append.mp he).elim (hP e) (hP' e)

/-- What the calls are looked at for does not change. -/
theorem Only.filterMap {γ : Type} {g : RtCall × UInt64 → Option γ} {s s' : Api} (h : Only P s s')
    (hg : ∀ call code, P call → g (call, code) = none) :
    s'.calls.filterMap g = s.calls.filterMap g := by
  obtain ⟨new, hnew, hP⟩ := h.calls
  rw [hnew, List.filterMap_append, List.filterMap_eq_nil_iff.mpr fun e he => hg e.1 e.2 (hP e he),
    List.append_nil]

theorem only_lift (x : Except PyError α) : (PyM.lift x : Rts α).Keeps (Only P) :=
  PyM.keeps_lift Only.refl x

theorem only_pure (a : α) : (pure a : Rts α).Keeps (Only P) :=
  PyM.keeps_pure Only.refl a

theorem only_read : (PyM.read : Rts Api).Keeps (Only P) := PyM.keeps_read Only.refl

theorem only_bind {x : Rts α} {f : α → Rts β} (hx : x.Keeps (Only P))
    (hf : ∀ a, (f a).Keeps (Only P)) : (x >>= f).Keeps (Only P) :=
  hx.bind Only.trans hf

/-- A change of the object that leaves the calls alone. -/
theorem only_modify {f : Api → Api} (hcalls : ∀ s, (f s).calls = s.calls)
    (hhandles : ∀ s, s.handles ≤ (f s).handles) :
    (PyM.modify f : Rts Unit).Keeps (Only P) :=
  fun s => ⟨⟨[], by rw [PyM.modify_apply, hcalls, List.append_nil],
    fun _ h => absurd h List.not_mem_nil⟩, hhandles s⟩

/-- A call of the library. -/
theorem only_called {call : RtCall} (h : P call) (s : Api) : Only P s (called env call s) := by
  refine ⟨⟨[(call, env.code s.calls.length)], rfl, fun e he => ?_⟩, le_refl _⟩
  rw [List.mem_singleton.mp he]
  exact h

theorem only_callChecked {call : RtCall} (h : P call) (extraInfo : String) :
    (callChecked env call extraInfo).Keeps (Only P) := by
  intro s
  rcases callChecked_cases env call extraInfo s with ⟨_, hcall⟩ | ⟨_, e, _, hcall⟩
  · rw [hcall]
    exact only_called h s
  · rw [hcall]
    exact only_called h s

theorem only_newHandle : newHandle.Keeps (Only P) :=
  only_bind only_read fun _ =>
    only_bind (only_modify (fun _ => rfl) fun _ => Nat.le_succ _) fun _ => only_pure _

theorem only_setDevice {deviceId : Int} (h : P (.rtSetDevice deviceId)) :
    (setDevice env deviceId).Keeps (Only P) :=
  only_bind (only_callChecked h "") fun _ =>
    only_modify (fun _ => rfl) fun _ => le_refl _

theorem only_createStream (h : ∀ stream, P (.rtStreamCreate stream)) :
    (createStream env).Keeps (Only P) :=
  only_bind only_newHandle fun stream =>
    only_bind (only_callChecked (h stream) "") fun _ => only_pure _

theorem only_registerDeviceBinaryKernel (h : ∀ handle, P (.rtDevBinaryRegister handle))
    (kernelPath : String) (magic : Option String) :
    (registerDeviceBinaryKernel env kernelPath magic).Keeps (Only P) :=
  only_bind (only_lift _) fun _ => only_bind (only_lift _) fun _ =>
    only_bind only_newHandle fun handle =>
      only_bind (only_callChecked (h handle) "") fun _ =>
        only_bind (only_modify (fun _ => rfl) fun _ => le_refl _) fun _ => only_pure _

theorem only_registerFunction {handle : Nat} {kernelName : String}
    (h : P (.rtFunctionRegister handle kernelName)) :
    (registerFunction env handle kernelName).Keeps (Only P) := by
  have hrest : ∀ u : Unit, (do
      callChecked env (.rtFunctionRegister handle kernelName)
        (", kernel_name is: " ++ kernelName)
      let api ← PyM.read
      let names := (api.kernelNameStorage.lookup handle).getD [] ++ [kernelName]
      PyM.modify fun api =>
        { api with kernelNameStorage := setHandle api.kernelNameStorage handle names }
      return kernelName : Rts String).Keeps (Only P) := fun _ =>
    only_bind (only_callChecked h _) fun _ => only_bind only_read fun _ =>
      only_bind (only_modify (fun _ => rfl) fun _ => le_refl _) fun _ => only_pure _
  refine only_bind only_read fun api => PyM.keeps_ite (fun _ => ?_) fun _ => hrest ()
  exact only_bind (only_modify (fun _ => rfl) fun _ => le_refl _) hrest

theorem only_getLdLibraryPath : getLdLibraryPath.Keeps (Only P) := by
  refine only_bind only_read fun api => ?_
  split
  · exact only_pure _
  · exact only_lift _

theorem only_clearEnv : clearEnv.Keeps (Only P) := by
  refine only_bind only_read fun api => PyM.keeps_ite (fun _ => ?_) fun _ => only_pure _
  exact only_bind only_getLdLibraryPath fun path => only_modify (fun _ => rfl) fun _ => le_refl _

theorem only_reset (h : ∀ deviceId, P (.rtDeviceReset deviceId)) (deviceId : Option Int) :
    (reset env deviceId).Keeps (Only P) :=
  only_bind only_read fun _ => only_bind (only_lift _) fun id =>
    only_bind (only_callChecked (h id) "") fun _ => only_clearEnv

theorem only_loadRuntimeSo : (loadRuntimeSo env).Keeps (Only P) := by
  unfold loadRuntimeSo
  refine only_bind only_getLdLibraryPath fun path =>
    PyM.keeps_ite (fun _ => only_bind (only_lift _) fun _ => ?_) fun _ => ?_
  · dsimp only
    split
    · exact only_lift _
    · exact only_lift _
  · dsimp only
    split
    · exact only_lift _
    · exact only_lift _

theorem only_loadSimulatorSo (simulatorMode : String) (socVersion simulatorLibPath : Option String)
    (simulatorDumpPath : String) :
    (loadSimulatorSo env simulatorMode socVersion simulatorLibPath
      simulatorDumpPath).Keeps (Only P) := by
  unfold loadSimulatorSo
  cases MODEL_SO_LIST.lookup simulatorMode with
  | none => exact only_lift _
  | some soNames =>
      have hload : (PyM.lift (initSimulatorSoPath env soNames socVersion simulatorLibPath) >>=
          fun paths => dllSimulatorSo env paths.1 paths.2 : Rts Unit).Keeps (Only P) :=
        only_bind (only_lift _) fun paths => only_bind only_getLdLibraryPath fun path =>
          only_bind (only_modify (fun _ => rfl) fun _ => le_refl _) fun _ => only_lift _
      exact PyM.keeps_ite (fun _ => only_bind (only_lift _) fun _ => hload) fun _ => hload

theorem only_init (simulatorMode socVersion simulatorLibPath : Option String)
    (simulatorDumpPath : String) :
    (init env simulatorMode socVersion simulatorLibPath simulatorDumpPath).Keeps (Only P) := by
  unfold init
  refine only_bind (only_modify (fun _ => rfl) fun _ => le_refl _) fun _ => ?_
  cases simulatorMode with
  | none =>
      exact only_bind only_loadRuntimeSo fun _ =>
        only_modify (fun _ => rfl) fun _ => le_refl _
  | some mode =>
      exact only_bind (only_loadSimulatorSo mode _ _ _) fun _ =>
        only_modify (fun _ => rfl) fun _ => le_refl _

theorem only_memcpyRetries {p size : Nat} (h : P (.rtMemcpy p size)) (retries : Nat) :
    (memcpyRetries env p size retries).Keeps (Only P) := by
  have honce : (memcpyOnce env p size).Keeps (Only P) := only_called h
  induction retries with
  | zero =>
      refine only_bind honce fun r => ?_
      cases r with
      | ok u => exact only_pure _
      | error e => exact only_lift _
  | succ retries ih =>
      refine only_bind honce fun r => ?_
      cases r with
      | ok u => exact only_pure _
      | error e => exact PyM.keeps_ite (fun _ => ih) fun _ => only_lift _

theorem only_malloc (h : ∀ p size, P (.rtMalloc p size)) (memorySize : Int) :
    (malloc env memorySize).Keeps (Only P) :=
  only_bind only_newHandle fun p =>
    only_bind (only_callChecked (h p memorySize) _) fun _ => only_pure p

theorem only_hbmMalloc (h : ∀ p size, P (.rtMalloc p size)) (hinfo : P .rtMemGetInfoEx)
    (dataSize : Nat) : (hbmMalloc env dataSize).Keeps (Only P) := by
  intro s
  have hmalloc : Only P s (malloc env (hbmSize dataSize) s).2 := only_malloc h (hbmSize dataSize) s
  have hlog : ∀ e, (do getMemoryInfoEx env; PyM.lift (.error e) : Rts Nat).Keeps (Only P) :=
    fun e => only_bind (only_callChecked hinfo "") fun _ => only_lift _
  unfold hbmMalloc
  cases hrun : malloc env (hbmSize dataSize) s with
  | mk r s₁ =>
      rw [hrun] at hmalloc
      cases r with
      | ok p => exact hmalloc
      | error e => exact hmalloc.trans _ _ _ (hlog e s₁)

theorem only_copyBinToHbm (h : ∀ p size, P (.rtMalloc p size)) (hinfo : P .rtMemGetInfoEx)
    (hcopy : ∀ p size, P (.rtMemcpy p size)) (dataSize : Nat) :
    (copyBinToHbm env dataSize).Keeps (Only P) :=
  only_bind (only_hbmMalloc h hinfo dataSize) fun p =>
    only_bind (only_memcpyRetries (hcopy p dataSize) _) fun _ => only_pure p

end Only

end RtsApi

end HwEfat.Main
