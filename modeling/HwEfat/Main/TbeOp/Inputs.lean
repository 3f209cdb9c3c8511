/-
  HwEfat.Main.TbeOp.Inputs — where the inputs and outputs of a kernel are.

  A step of `_fill_inputs` or `_fill_outputs` that returns appends the buffer of a parameter.
  What parameters hold stays where it is (`Grows`), and two of them never hold the same buffer
  (`Separate`).
-/
import HwEfat.Main.TbeOp.Balance
import HwEfat.Main.TbeOp.Calls

namespace HwEfat.Main

open HwEfat.Lib (PyError PyM Heap getIndex)

namespace TbeOp

open RtsApi (Api Rts RtCall Obtains SameBuffers)

/-! ## §1. Separate buffers. -/

/-- What a parameter is about: its array, its shape and its type. -/
def contentOf (s : Runner) (k : Nat) :
    Option (Option NpData × Option (List Int) × Option String) :=
  (s.params.read k).map fun param => (param.npData, param.shape, param.dtype)

/-- No two parameters hold the same buffer, and all buffers were given out. -/
structure Separate (s : Runner) : Prop where
  distinct : ∀ j k p, pointerOf s j = some p → pointerOf s k = some p → j = k
  handles : ∀ k p, pointerOf s k = some p → p ≤ s.api.handles

/-- Parameters and buffers are added, and the others stay as they are. -/
structure Grows (s s' : Runner) : Prop where
  separate : Separate s → Separate s'
  handles : s.api.handles ≤ s'.api.handles
  size : s.params.size ≤ s'.params.size
  keeps : ∀ k p, pointerOf s k = some p → pointerOf s' k = some p
  content : ∀ k, k < s.params.size → contentOf s' k = contentOf s k

section Grows

variable {s s' : Runner} {k p : Nat}

theorem Grows.refl (s : Runner) : Grows s s :=
  ⟨id, le_refl _, le_refl _, fun _ _ => id, fun _ _ => rfl⟩

/-- One step after the other gives out more and changes nothing that was there. -/
theorem Grows.trans (s₁ s₂ s₃ : Runner) (h : Grows s₁ s₂) (h' : Grows s₂ s₃) : Grows s₁ s₃ where
  separate hs := h'.separate (h.separate hs)
  handles := h.handles.trans h'.handles
  size := h.size.trans h'.size
  keeps k _ hp := h'.keeps k _ (h.keeps k _ hp)
  content k hk := (h'.content k (Nat.lt_of_lt_of_le hk h.size)).trans (h.content k hk)

/-- The same buffers. -/
theorem grows_same (hhandles : s.api.handles ≤ s'.api.handles)
    (hsize : s.params.size ≤ s'.params.size) (hsame : ∀ j, pointerOf s' j = pointerOf s j)
    (hcontent : ∀ j, j < s.params.size → contentOf s' j = contentOf s j) : Grows s s' where
  separate hs :=
    ⟨fun j k p hj hk => hs.distinct j k p (hsame j ▸ hj) (hsame k ▸ hk),
      fun k p hk => (hs.handles k p (hsame k ▸ hk)).trans hhandles⟩
  handles := hhandles
  size := hsize
  keeps k _ hk := (hsame k).trans hk
  content := hcontent

/-- A parameter has got a new buffer. -/
theorem grows_new (hlt : s.api.handles < p) (hle : p ≤ s'.api.handles)
    (hsize : s.params.size ≤ s'.params.size) (hbefore : pointerOf s k = none)
    (hafter : pointerOf s' k = some p) (hsame : ∀ j, j ≠ k → pointerOf s' j = pointerOf s j)
    (hcontent : ∀ j, j < s.params.size → contentOf s' j = contentOf s j) : Grows s s' := by
  have hhandles : s.api.handles ≤ s'.api.handles := by omega
  have hkeeps : ∀ j q, pointerOf s j = some q → pointerOf s' j = some q := by
    intro j q hq
    have hj : j ≠ k := by
      rintro rfl
      rw [hbefore] at hq
      cases hq
    rw [hsame j hj]
    exact hq
  have hcases : ∀ j q, pointerOf s' j = some q → pointerOf s j = some q ∨ (j = k ∧ q = p) := by
    intro j q hq
    by_cases hj : j = k
    · subst hj
      rw [hafter, Option.some.injEq] at hq
      exact Or.inr ⟨rfl, hq.symm⟩
    · rw [hsame j hj] at hq
      exact Or.inl hq
  refine ⟨fun hs => ⟨fun i j q hi hj => ?_, fun j q hj => ?_⟩, hhandles, hsize, hkeeps, hcontent⟩
  · -- A buffer from before is below the new one.
    rcases hcases i q hi with hi' | ⟨rfl, rfl⟩
    · rcases hcases j q hj with hj' | ⟨rfl, rfl⟩
      · exact hs.distinct i j q hi' hj'
      · exact absurd (hs.handles i q hi') (by omega)
    · rcases hcases j q hj with hj' | ⟨rfl, _⟩
      · exact absurd (hs.handles j q hj') (by omega)
      · rfl
  · rcases hcases j q hj with hj' | ⟨_, rfl⟩
    · exact (hs.handles j q hj').trans hhandles
    · exact hle

/-- Only parameters have a pointer. -/
theorem lt_size_of_pointerOf (h : pointerOf s k = some p) : k < s.params.size := by
  by_contra hk
  rw [pointerOf_of_size_le (Nat.not_lt.mp hk)] at h
  cases h

/-- The pointer of a parameter that is there. -/
theorem pointerOf_eq {param : AscendOpKernelParam} (hread : s.params.read k = some param) :
    pointerOf s k = param.hbmPointer := by
  unfold pointerOf
  rw [hread, Option.bind_some]

end Grows

/-! ## §2. Steps. -/

section Steps

variable {env : TbeEnv} {s : Runner} {k p : Nat} {param : AscendOpKernelParam}

/-- A parameter may be written with the same content. -/
theorem contentOf_write {param' : AscendOpKernelParam} (hread : s.params.read k = some param)
    (hsame : (param'.npData, param'.shape, param'.dtype) = (param.npData, param.shape, param.dtype))
    (j : Nat) : contentOf { s with params := s.params.write k param' } j = contentOf s j := by
  unfold contentOf
  dsimp only
  by_cases hj : j = k
  · rw [hj, Heap.read_write_self (Heap.lt_size_of_read hread), hread, Option.map_some,
      Option.map_some, hsame]
  · rw [Heap.read_write_ne s.params hj]

/-- A new parameter leaves the contents of the others. -/
theorem contentOf_alloc {j : Nat} (hj : j < s.params.size) :
    contentOf { s with params := s.params.alloc param } j = contentOf s j := by
  unfold contentOf
  dsimp only
  rw [Heap.read_alloc_old s.params param hj]

/-- A parameter that is added to `_kernel_params` stays as it is. -/
theorem grows_withParam (k : Nat) (s : Runner) : Grows s (withParam k s) := by
  unfold withParam
  split
  · exact Grows.refl s
  · exact grows_same (le_refl _) (le_refl _) (fun _ => rfl) fun _ _ => rfl

/-- A parameter learns of the device. -/
theorem grows_setDevice {api : Api} (hread : s.params.read k = some param)
    (hle : s.api.handles ≤ api.handles) :
    Grows s { s with api, params := s.params.write k { param with ascendDevice := true } } := by
  refine grows_same hle (Heap.size_write s.params k _).ge (fun j => ?_) fun j _ =>
    contentOf_write (s := { s with api }) hread ?_ j
  · by_cases hj : j = k
    · rw [hj, pointerOf_eq hread]
      exact pointerOf_write (s := { s with api }) (Heap.lt_size_of_read hread)
    · exact pointerOf_write_ne (s := { s with api }) hj
  · rfl

/-- **A parameter without a buffer is put on the device**, and holds a new one. -/
theorem grows_give {api : Api} (hread : s.params.read k = some param)
    (hnone : param.hbmPointer = none) (h : Obtains s.api api p) :
    Grows s { s with
        api
        params := s.params.write k
          { param with ascendDevice := true, hbmPointer := some p } } ∧
      pointerOf { s with
        api
        params := s.params.write k
          { param with ascendDevice := true, hbmPointer := some p } } k = some p := by
  have hafter : pointerOf { s with
      api
      params := s.params.write k
        { param with ascendDevice := true, hbmPointer := some p } } k = some p :=
    pointerOf_write (s := { s with api }) (Heap.lt_size_of_read hread)
  refine ⟨grows_new h.new h.handles (Heap.size_write s.params k _).ge ?_ hafter (fun j hj => ?_)
    fun j _ => contentOf_write (s := { s with api }) hread ?_ j, hafter⟩
  · rw [pointerOf_eq hread, hnone]
  · exact pointerOf_write_ne (s := { s with api }) hj
  · rfl

/-- A new parameter with a new buffer. -/
theorem grows_allocParam {api : Api} (hpointer : param.hbmPointer = some p)
    (h : Obtains s.api api p) :
    Grows s { s with api, params := s.params.alloc param } ∧
      pointerOf { s with api, params := s.params.alloc param } s.params.size = some p := by
  have hread : (s.params.alloc param).read s.params.size = some param :=
    Heap.read_alloc_fresh _ _
  have hp : pointerOf { s with api, params := s.params.alloc param } s.params.size = some p :=
    (pointerOf_eq hread).trans hpointer
  refine ⟨grows_new (k := s.params.size) h.new h.handles ?_ (pointerOf_of_size_le (le_refl _)) hp
    (fun j hj => ?_) fun j hj => ?_, hp⟩
  · show _ ≤ (s.params.alloc param).size
    rw [Heap.size_alloc]
    exact Nat.le_succ _
  · exact pointerOf_alloc_ne (s := { s with api }) hj
  · exact contentOf_alloc (s := { s with api }) hj

/-- A new parameter without a buffer. -/
theorem grows_allocNone {api : Api} (hnone : param.hbmPointer = none)
    (hle : s.api.handles ≤ api.handles) :
    Grows s { s with api, params := s.params.alloc param } := by
  refine grows_same hle ?_ (fun j => ?_) fun j hj => contentOf_alloc (s := { s with api }) hj
  · show _ ≤ (s.params.alloc param).size
    rw [Heap.size_alloc]
    exact Nat.le_succ _
  · by_cases hj : j = s.params.size
    · rw [hj, pointerOf_of_size_le (le_refl s.params.size)]
      exact (pointerOf_eq (Heap.read_alloc_fresh s.params param)).trans hnone
    · exact pointerOf_alloc_ne (s := { s with api }) hj

/-- **The parameter of an array or file** is new, and so is its buffer. -/
theorem buildKernelParam_grows (env : TbeEnv) (data : ParamData) (shape : Option (List Int))
    (dtype : Option String) (s : Runner) :
    (∃ e s', buildKernelParam env data shape dtype s = (.error e, s') ∧ Grows s s') ∨
      ∃ p k npData s', buildKernelParam env data shape dtype s = (.ok k, s') ∧ Grows s s' ∧
        s.api.handles < p ∧ p ≤ s'.api.handles ∧ s.params.size ≤ k ∧ pointerOf s' k = some p ∧
        npDataOf env shape dtype data = .ok npData ∧
        (contentOf s' k).map Prod.fst = some (some npData) := by
  rcases buildKernelParam_cases env data shape dtype s with ⟨e, hrun⟩ |
    ⟨e, a, param, hloses, hnone, hrun⟩ |
      ⟨p, a, param, npData, hobtains, hdata, hnpData, hpointer, _, hrun⟩
  · exact Or.inl ⟨e, s, hrun, Grows.refl s⟩
  · exact Or.inl ⟨e, _, hrun, grows_allocNone hnone hloses.handles⟩
  · right
    obtain ⟨hgrows, hp⟩ := grows_allocParam hpointer hobtains
    have hlast : Grows { s with api := a, params := s.params.alloc param } { s with
        api := a
        params := s.params.alloc param
        kernelParams := s.kernelParams ++ [s.params.size] } :=
      grows_same (le_refl _) (le_refl _) (fun _ => rfl) fun _ _ => rfl
    refine ⟨p, s.params.size, npData, _, hrun, hgrows.trans _ _ _ hlast, hobtains.new,
      hobtains.handles, le_refl _, hp, hdata, ?_⟩
    unfold contentOf
    dsimp only
    rw [Heap.read_alloc_fresh, Option.map_some, Option.map_some, hnpData]

/-- What a step of `_fill_inputs` has appended. -/
def FilledInput (env : TbeEnv) (s s' : Runner) :
    OpInput → Option Nat × Option Nat → Prop
  | .param k, r => ∃ p, r = (some p, some k) ∧ pointerOf s' k = some p
  | .data data, r => ∃ p k npData, r = (some p, none) ∧ s.api.handles < p ∧ p ≤ s'.api.handles ∧
      s.params.size ≤ k ∧ pointerOf s' k = some p ∧ npDataOf env none none data = .ok npData ∧
      (contentOf s' k).map Prod.fst = some (some npData)

/-- What was filled in stays so while the runner goes on. -/
theorem FilledInput.mono {s₁ s₂ s₃ s₄ : Runner} {input : OpInput} {r : Option Nat × Option Nat}
    (h : FilledInput env s₂ s₃ input r) (hbefore : Grows s₁ s₂) (hafter : Grows s₃ s₄) :
    FilledInput env s₁ s₄ input r := by
  cases input with
  | param k =>
      obtain ⟨p, hr, hp⟩ := h
      exact ⟨p, hr, hafter.keeps k p hp⟩
  | data data =>
      obtain ⟨p, k, npData, hr, hlt, hle, hk, hp, hdata, hcontent⟩ := h
      refine ⟨p, k, npData, hr, Nat.lt_of_le_of_lt hbefore.handles hlt, hle.trans hafter.handles,
        hbefore.size.trans hk, hafter.keeps k p hp, hdata, ?_⟩
      rw [hafter.content k (lt_size_of_pointerOf hp)]
      exact hcontent

/-- The buffer of a parameter is appended. -/
theorem concatIntoKernelArgs_pointer (hp : pointerOf s k = some p) :
    concatIntoKernelArgs k s = (.ok (some p), s) := by
  obtain ⟨param, hread⟩ := Heap.read_of_lt_size (lt_size_of_pointerOf hp)
  rw [concatIntoKernelArgs_eq hread, ← pointerOf_eq hread, hp]

/-- **A step of `_fill_inputs`** appends the buffer of its input, if it returns. -/
theorem fillInput_grows (env : TbeEnv) (input : OpInput) (s : Runner) :
    (∃ e s', fillInput env input s = (.error e, s') ∧ Grows s s') ∨
      ∃ r s', fillInput env input s = (.ok r, s') ∧ Grows s s' ∧ FilledInput env s s' input r := by
  cases input with
  | data data =>
      have hrun : fillInput env (.data data) s
          = (buildKernelParam env data none none >>= fun k =>
              concatIntoKernelArgs k >>= fun arg => pure (arg, none)) s := rfl
      rw [hrun, PyM.bind_apply]
      rcases buildKernelParam_grows env data none none s with ⟨e, s', hbuild, hgrows⟩ |
        ⟨p, k, npData, s', hbuild, hgrows, hlt, hle, hk, hp, hdata, hcontent⟩
      · rw [hbuild]
        exact Or.inl ⟨e, s', rfl, hgrows⟩
      · right
        rw [hbuild]
        dsimp only
        rw [PyM.bind_apply, concatIntoKernelArgs_pointer hp]
        exact ⟨_, s', rfl, hgrows, p, k, npData, rfl, hlt, hle, hk, hp, hdata, hcontent⟩
  | param k =>
      cases hread : s.params.read k with
      | none =>
          obtain ⟨e, he⟩ := fillInput_none env hread
          exact Or.inl ⟨e, s, he, Grows.refl s⟩
      | some param =>
          have hread₁ : (withParam k s).params.read k = some param := by
            rw [read_withParam]
            exact hread
          have hgrows₁ := grows_withParam k s
          rw [fillInput_param hread]
          -- A parameter is copied to the device once; later turns read the pointer it has.
          by_cases hnone : param.hbmPointer.isNone = true
          · rw [if_pos hnone, PyM.bind_apply]
            rcases syncToDevice_cases env hread₁ with
              ⟨e, a, hloses, hsync⟩ | ⟨p, a, hobtains, hsync⟩
            · rw [hsync]
              exact Or.inl ⟨e, _, rfl,
                hgrows₁.trans _ _ _ (grows_setDevice hread₁ hloses.handles)⟩
            · right
              obtain ⟨hgrows, hp⟩ :=
                grows_give hread₁ (Option.isNone_iff_eq_none.mp hnone) hobtains
              rw [hsync]
              dsimp only
              rw [PyM.bind_apply, concatIntoKernelArgs_pointer hp]
              exact ⟨_, _, rfl, hgrows₁.trans _ _ _ hgrows, p, rfl, hp⟩
          · right
            obtain ⟨p, hpointer⟩ := Option.ne_none_iff_exists'.mp
              fun h => hnone (Option.isNone_iff_eq_none.mpr h)
            have hp : pointerOf (withParam k s) k = some p := (pointerOf_eq hread₁).trans hpointer
            rw [if_neg hnone, PyM.bind_apply, concatIntoKernelArgs_pointer hp]
            exact ⟨_, _, rfl, hgrows₁, p, rfl, hp⟩

/-- What a step of `_fill_outputs` has appended. -/
structure FilledOutput (outputInputRef : List (Int × Int)) (inputParams : List Nat)
    (s s' : Runner) (info : OutputInfo) (r : Nat × Option Nat) : Prop where
  pointer : ∀ p, r.2 = some p → pointerOf s' r.1 = some p
  ref : ∀ i, refOf outputInputRef 0 = some i → getIndex inputParams i = .ok r.1
  new : refOf outputInputRef 0 = none → ∃ p, r.2 = some p ∧ s.api.handles < p ∧
    p ≤ s'.api.handles ∧ contentOf s' r.1 = some (none, info.outShape, info.dtype)

/-- The same for an output. -/
theorem FilledOutput.mono {outputInputRef : List (Int × Int)} {inputParams : List Nat}
    {s₁ s₂ s₃ s₄ : Runner} {info : OutputInfo} {r : Nat × Option Nat}
    (h : FilledOutput outputInputRef inputParams s₂ s₃ info r) (hbefore : Grows s₁ s₂)
    (hafter : Grows s₃ s₄) : FilledOutput outputInputRef inputParams s₁ s₄ info r where
  pointer p hp := hafter.keeps _ p (h.pointer p hp)
  ref := h.ref
  new hnone := by
    obtain ⟨p, hp, hlt, hle, hcontent⟩ := h.new hnone
    refine ⟨p, hp, Nat.lt_of_le_of_lt hbefore.handles hlt, hle.trans hafter.handles, ?_⟩
    rw [hafter.content _ (lt_size_of_pointerOf (h.pointer p hp))]
    exact hcontent

/-- **A step of `_fill_outputs`** appends the buffer of a parameter from an input, or a new
one. -/
theorem fillOutput_grows (env : TbeEnv) (outputInputRef : List (Int × Int))
    (inputParams : List Nat) (info : OutputInfo) (s : Runner) :
    (∃ e s', fillOutput env outputInputRef inputParams 0 info s = (.error e, s') ∧ Grows s s') ∨
      ∃ r s', fillOutput env outputInputRef inputParams 0 info s = (.ok r, s') ∧ Grows s s' ∧
        FilledOutput outputInputRef inputParams s s' info r := by
  rcases fillOutput_cases env outputInputRef inputParams 0 info s with
    ⟨e, a, hloses, hrun⟩ | ⟨i, k, param, href, hindex, hread, hrun⟩ |
      ⟨p, a, param, href, hobtains, hpointer, _, hcontent, hrun⟩
  · exact Or.inl ⟨e, _, hrun, grows_same hloses.handles (le_refl _) (fun _ => rfl) fun _ _ => rfl⟩
  · right
    have hgrows := grows_withParam k s
    refine ⟨_, _, hrun, hgrows, fun p hp => ?_, fun i' hi' => ?_, fun h => ?_⟩
    · exact hgrows.keeps k p ((pointerOf_eq hread).trans hp)
    · rw [href, Option.some.injEq] at hi'
      rw [← hi']
      exact hindex
    · rw [href] at h
      cases h
  · right
    obtain ⟨hgrows, hp⟩ := grows_allocParam hpointer hobtains
    -- The new parameter is at the end, so the ones before are as they were.
    have hlast := grows_withParam s.params.size
      { s with api := a, params := s.params.alloc param }
    refine ⟨_, _, hrun, hgrows.trans _ _ _ hlast, fun q hq => ?_, fun i hi => ?_,
      fun _ => ⟨p, rfl, hobtains.new, hobtains.handles.trans hlast.handles, ?_⟩⟩
    · rw [← hq]
      exact hlast.keeps _ p hp
    · rw [href] at hi
      cases hi
    · refine (hlast.content _ (lt_size_of_pointerOf hp)).trans ?_
      unfold contentOf
      dsimp only
      rw [Heap.read_alloc_fresh, Option.map_some, hcontent]

end Steps

/-! ## §3. Sessions. -/

section Sessions

variable {env : TbeEnv}

/-- Filling in the inputs only adds. -/
theorem grows_fillInputs (inputs : List OpInput) : (fillInputs env inputs).Keeps Grows := by
  refine PyM.keeps_collect Grows.refl Grows.trans (fun input s => ?_) inputs
  rcases fillInput_grows env input s with ⟨e, s', hrun, h⟩ | ⟨r, s', hrun, h, _⟩
  · rw [hrun]
    exact h
  · rw [hrun]
    exact h

/-- Filling in the outputs, too. -/
theorem grows_fillOutputs (outputInputRef : List (Int × Int)) (inputParams : List Nat)
    (infos : List (Option OutputInfo)) :
    (fillOutputs env outputInputRef inputParams infos).Keeps Grows := by
  refine PyM.keeps_collect Grows.refl Grows.trans (fun info s => ?_) _
  rcases fillOutput_grows env outputInputRef inputParams info s with
    ⟨e, s', hrun, h⟩ | ⟨r, s', hrun, h, _⟩
  · rw [hrun]
    exact h
  · rw [hrun]
    exact h

/-- A call of the runtime leaves the parameters as they are. -/
theorem CallsOnly.grows {P : RtCall → Prop} {s s' : Runner} (h : CallsOnly P s s') :
    Grows s s' := by
  have hpointer : ∀ j, pointerOf s' j = pointerOf s j := by
    intro j
    unfold pointerOf
    rw [h.2]
  have hcontent : ∀ j, contentOf s' j = contentOf s j := by
    intro j
    unfold contentOf
    rw [h.2]
  exact grows_same h.1.handles (by rw [h.2]) hpointer fun j _ => hcontent j

/-- Calls of one kind are calls of a wider kind. -/
theorem CallsOnly.mono {P Q : RtCall → Prop} {s s' : Runner} (h : CallsOnly P s s')
    (hPQ : ∀ call, P call → Q call) : CallsOnly Q s s' := by
  obtain ⟨new, hnew, hP⟩ := h.1.calls
  exact ⟨⟨⟨new, hnew, fun e he => hPQ e.1 (hP e he)⟩, h.1.handles⟩, h.2⟩

/-- Behind the inputs and outputs there are calls only. -/
theorem calls_executeWith (kernel : AscendOpKernel) (kernelArgs : List (Option Nat))
    (tiling : Option Nat) (blockDim : Option Int) :
    (executeWith env kernel kernelArgs tiling blockDim).Keeps (CallsOnly fun _ => True) := by
  refine calls_bind (calls_fillWorkspace any_memory _) fun ws =>
    calls_bind (calls_fillTiling any_memory _ _) fun ts => calls_bind (calls_lift _) fun args =>
      calls_bind (fun s => ?_) fun _ => calls_pure _
  have hexecute : (executeKernel env kernel args
      (if blockDim.getD 0 = 0 then kernel.blockDim else blockDim)).Keeps
        (CallsOnly (LaunchesWith args)) := calls_executeKernel _
  exact (hexecute s).mono fun _ _ => trivial

/-- Running a kernel leaves the parameters alone. -/
theorem calls_runWith (kernel : AscendOpKernel) (kernelArgs : List (Option Nat))
    (tiling : Option Nat) (blockDim : Option Int) :
    (runWith env kernel kernelArgs tiling blockDim).Keeps (CallsOnly fun _ => True) := by
  exact calls_bind (calls_executeWith kernel kernelArgs tiling blockDim) fun held =>
    calls_bind (calls_freeAll any_memory _) fun _ => calls_freeAll any_memory _

/-- **A run only adds** to what the runner has. -/
theorem grows_run (a : RunArgs) : (run env a).Keeps Grows :=
  (grows_fillInputs a.inputs).bind Grows.trans fun _ =>
    (grows_fillOutputs a.outputInputRef _ a.outputInfos).bind Grows.trans fun _ =>
      PyM.Keeps.bind Grows.trans (fun s => (calls_runWith a.kernel _ a.tiling a.blockDim s).grows)
        fun _ => PyM.keeps_pure Grows.refl _

/-- So does any call of a session. -/
theorem grows_sessionCall (call : SessionCall) : (sessionCall env call).Keeps Grows := by
  cases call with
  | run a => exact (grows_run a).bind Grows.trans fun _ => PyM.keeps_pure Grows.refl ()
  | buildKernelParam data shape dtype =>
      refine PyM.Keeps.bind Grows.trans (fun s => ?_) fun _ => PyM.keeps_pure Grows.refl ()
      rcases buildKernelParam_grows env data shape dtype s with
        ⟨e, s', hrun, h⟩ | ⟨_, _, _, s', hrun, h, _⟩
      · rw [hrun]
        exact h
      · rw [hrun]
        exact h

/-- In a runner that has just been started no two parameters share a buffer. -/
theorem Started.separate {s : Runner} (h : Started s) : Separate s where
  distinct j _ p hj := by
    rw [h.params j] at hj
    cases hj
  handles k p hk := by
    rw [h.params k] at hk
    cases hk

/-- **In a session** no two parameters ever hold the same buffer. -/
theorem sessionRun_separate (calls : List SessionCall) {s : Runner} (h : Separate s) :
    Separate (sessionRun env calls s) := by
  induction calls generalizing s with
  | nil => exact h
  | cons call calls ih => exact ih ((grows_sessionCall call s).separate h)

end Sessions

end TbeOp

end HwEfat.Main
