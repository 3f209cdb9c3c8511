/-
  HwEfat.Main.TbeOp.Layout — the arguments a kernel is launched with.

  They are the buffers of the inputs, of the outputs, of the workspaces and of the tiling data.
  An output that refers to an input should be in its buffer; but `_fill_outputs` looks every
  output up as number 0, and counts only inputs that were given as parameters.

  Main result: `launched_layout_iff`.
-/
import HwEfat.Main.TbeOp.Inputs

namespace HwEfat.Main

open HwEfat.Lib (PyError PyM Heap getIndex)

namespace TbeOp

open RtsApi (Api Rts RtCall Obtains SameBuffers)

/-! ## §1. The layout. -/

/-- The outputs that are asked for, with their numbers.  Entries that are `None` are counted as
well or not. -/
def numberedOutputs (counted : Bool) (infos : List (Option OutputInfo)) :
    List (Int × OutputInfo) :=
  if counted then infos.zipIdx.filterMap fun e => e.1.map fun info => ((e.2 : Int), info)
  else (infos.filterMap id).zipIdx.map fun e => ((e.2 : Int), e.1)

/-- The inputs that were given as parameters. -/
def paramInputs (inputs : List OpInput) : List Nat :=
  inputs.filterMap fun
    | .param k => some k
    | .data _ => none

/-- A buffer that was given out in between, and stands in one place only. -/
structure Own (s : Runner) (args : List Nat) (p : Nat) : Prop where
  new : s.api.handles < p
  once : args.count p = 1

/-- The buffer of an input: that of the parameter, or of a new one with the array. -/
def InputBuffer (env : TbeEnv) (s s' : Runner) : OpInput → Nat → Prop
  | .param k, p => pointerOf s' k = some p
  | .data data, p => ∃ k npData, s.params.size ≤ k ∧ pointerOf s' k = some p ∧
      npDataOf env none none data = .ok npData ∧
      (contentOf s' k).map Prod.fst = some (some npData)

/-- The buffer of an output: that of the input it refers to, or its own. -/
def OutputBuffer (outputInputRef : List (Int × Int)) (ins args : List Nat) (s s' : Runner)
    (output : Int × OutputInfo) (p : Nat) : Prop :=
  match refOf outputInputRef output.1 with
  | some i => getIndex ins i = .ok p
  | none => Own s args p ∧ ∃ k, pointerOf s' k = some p ∧
      contentOf s' k = some (none, output.2.outShape, output.2.dtype)

/-- **The arguments of a launch**: inputs, outputs, workspaces and tiling data. -/
structure Layout (env : TbeEnv) (a : RunArgs) (counted : Bool) (s s' : Runner)
    (args ins outs workspaces tilings : List Nat) : Prop where
  order : args = ins ++ outs ++ workspaces ++ tilings
  eachInput : List.Forall₂ (InputBuffer env s s') a.inputs ins
  apart : ∀ (i j p : Nat), ins[i]? = some p → ins[j]? = some p →
    i = j ∨ ∃ k, a.inputs[i]? = some (OpInput.param k) ∧ a.inputs[j]? = some (OpInput.param k)
  eachOutput : List.Forall₂ (OutputBuffer a.outputInputRef ins args s s')
    (numberedOutputs counted a.outputInfos) outs
  eachWorkspace : List.Forall₂ (fun _ p => Own s args p) a.kernel.workspace workspaces
  eachTiling : List.Forall₂ (fun _ p => Own s args p)
    (if a.kernel.needDoTiling then [a.tiling] else []) tilings

/-- **A launch is laid out as it should be**, and the parameters that are returned are those of
the outputs, in their order. -/
def LaidOut (env : TbeEnv) (a : RunArgs) (counted : Bool) (s : Runner) (args : List Nat) : Prop :=
  ∃ ins outs workspaces tilings,
    Layout env a counted s (run env a s).2 args ins outs workspaces tilings ∧
      ∀ ks, (run env a s).1 = .ok ks →
        List.Forall₂ (fun k p => pointerOf (run env a s).2 k = some p) ks outs

/-- The output is in the buffer where output number 0 is put: neither refers to an input, or it
refers to the parameter that is found for number 0 among the parameters. -/
def PairedAt (a : RunArgs) (j : Int) : Prop :=
  match refOf a.outputInputRef j, refOf a.outputInputRef 0 with
  | none, none => True
  | some i, some i₀ => ∃ k, getIndex a.inputs i = .ok (.param k) ∧
      getIndex (paramInputs a.inputs) i₀ = .ok k
  | _, _ => False

/-- All outputs are so. -/
def Paired (a : RunArgs) (counted : Bool) : Prop :=
  ∀ output ∈ numberedOutputs counted a.outputInfos, PairedAt a output.1

/-! ## §2. Lists of buffers. -/

section Lists

/-- The numbers are only put beside the outputs. -/
theorem outputs_of_numbered (counted : Bool) (infos : List (Option OutputInfo)) :
    (numberedOutputs counted infos).map Prod.snd = infos.filterMap id := by
  unfold numberedOutputs
  split
  · have hnumbered : ∀ n, ((infos.zipIdx n).filterMap fun e =>
        e.1.map fun info => ((e.2 : Int), info)).map Prod.snd = infos.filterMap id := by
      induction infos with
      | nil => exact fun _ => rfl
      | cons info infos ih =>
          intro n
          rw [List.zipIdx_cons]
          cases info with
          | none => exact ih (n + 1)
          | some info => exact congrArg (info :: ·) (ih (n + 1))
    exact hnumbered 0
  · rw [List.map_map]
    exact List.zipIdx_map_fst 0 _

/-- The arguments of a kernel are buffers that are all there. -/
theorem knlArgs_eq_ok {l : List (Option Nat)} {args : List Nat} :
    knlArgs l = .ok args ↔ l = args.map some := by
  induction l generalizing args with
  | nil =>
      constructor
      · rintro ⟨⟩
        rfl
      · intro h
        rw [List.map_eq_nil_iff.mp h.symm]
        rfl
  | cons arg l ih =>
      -- A missing pointer raises.
      cases arg with
      | none =>
          constructor
          · rintro ⟨⟩
          · intro h
            cases args with
            | nil => cases h
            | cons p args => cases h
      | some p =>
          have hrun : knlArgs (some p :: l) = (knlArgs l >>= fun args => pure (p :: args)) := rfl
          rw [hrun]
          constructor
          · intro h
            obtain ⟨args', hargs, h⟩ := HwEfat.Lib.bind_eq_ok.mp h
            cases h
            rw [ih.mp hargs, List.map_cons]
          · intro h
            cases args with
            | nil => cases h
            | cons q args =>
                rw [List.map_cons, List.cons.injEq, Option.some.injEq] at h
                rw [ih.mpr h.2, h.1]
                rfl

/-- Buffers in increasing order up to a bound, and others above it. -/
theorem ordered_append {l l' : List Nat} {bound bound' : Nat} (hle : bound ≤ bound')
    (hl : l.Pairwise (· < ·)) (hbetween : ∀ p ∈ l, bound < p ∧ p ≤ bound')
    (hl' : l'.Pairwise (· < ·)) (habove : ∀ p ∈ l', bound' < p) :
    (l ++ l').Pairwise (· < ·) ∧ ∀ p ∈ l ++ l', bound < p := by
  constructor
  · exact List.pairwise_append.mpr ⟨hl, hl', fun p hp q hq =>
      Nat.lt_of_le_of_lt (hbetween p hp).2 (habove q hq)⟩
  · intro p hp
    rcases List.mem_append.mp hp with hp | hp
    · exact (hbetween p hp).1
    · exact Nat.lt_of_le_of_lt hle (habove p hp)

/-- Buffers above all that stand before them, in increasing order, stand in one place only. -/
theorem count_eq_one {before l : List Nat} {bound p : Nat} (hbefore : ∀ q ∈ before, q ≤ bound)
    (hl : l.Pairwise (· < ·)) (hbound : ∀ q ∈ l, bound < q) (hp : p ∈ l) :
    (before ++ l).count p = 1 := by
  have hnot : p ∉ before := fun h => absurd (hbefore p h) (Nat.not_le.mpr (hbound p hp))
  rw [List.count_append, List.count_eq_zero_of_not_mem hnot, Nat.zero_add]
  exact List.count_eq_one_of_mem (hl.imp Nat.ne_of_lt) hp

end Lists

/-! ## §3. Loops that return. -/

section Loops

variable {env : TbeEnv} {s s' : Runner}

/-- **Inputs that are filled in**: each is in its buffer, and those of arrays are all different.
-/
theorem fillInputs_ok {inputs : List OpInput} {ins : List (Option Nat × Option Nat)}
    (h : fillInputs env inputs s = (.ok ins, s')) :
    Grows s s' ∧ List.Forall₂ (FilledInput env s s') inputs ins ∧
      ins.Pairwise fun r r' => r.2 = none → r'.2 = none → r.1 ≠ r'.1 := by
  have hstep : ∀ input s r s', fillInput env input s = (.ok r, s') →
      Grows s s' ∧ FilledInput env s s' input r := by
    intro input s r s' hrun
    rcases fillInput_grows env input s with ⟨e, s₁, herror, _⟩ | ⟨r₁, s₁, hok, hgrows, hfilled⟩
    · rw [herror] at hrun
      cases hrun
    · rw [hok] at hrun
      cases hrun
      exact ⟨hgrows, hfilled⟩
  obtain ⟨hgrows, hfilled⟩ := PyM.collect_forall₂ Grows.refl Grows.trans
    (fun _ _ _ _ _ _ hbefore hq hafter => hq.mono hbefore hafter) hstep h
  refine ⟨hgrows, hfilled, ?_⟩
  -- The buffers of arrays and files go up.
  let known : Runner → Option Nat × Option Nat → Prop :=
    fun s r => r.2 = none → ∀ p, r.1 = some p → p ≤ s.api.handles
  refine (PyM.collect_pairwise (fun input s r s' hrun => ?_ : ∀ input s r s',
    fillInput env input s = (.ok r, s') → known s' r ∧ ∀ c, known s c → known s' c ∧ _) h).1
  obtain ⟨hgrows, hfilled⟩ := hstep input s r s' hrun
  cases input with
  | param k =>
      obtain ⟨p, rfl, _⟩ := hfilled
      refine ⟨fun hnone => ?_, fun c hc => ⟨fun hnone q hq => ?_, fun _ hnone => ?_⟩⟩
      · cases hnone
      · exact (hc hnone q hq).trans hgrows.handles
      · cases hnone
  | data data =>
      obtain ⟨p, k, npData, rfl, hlt, hle, _⟩ := hfilled
      refine ⟨fun _ q hq => ?_, fun c hc => ⟨fun hnone q hq => ?_, fun hnone _ heq => ?_⟩⟩
      · cases hq
        exact hle
      · exact (hc hnone q hq).trans hgrows.handles
      · exact absurd (hc hnone p heq) (Nat.not_le.mpr hlt)

/-- **Outputs that are filled in**: those that refer to no input have buffers in increasing order.
-/
theorem fillOutputs_ok {outputInputRef : List (Int × Int)} {inputParams : List Nat}
    {infos : List (Option OutputInfo)} {outs : List (Nat × Option Nat)}
    (h : fillOutputs env outputInputRef inputParams infos s = (.ok outs, s')) :
    Grows s s' ∧
      List.Forall₂ (FilledOutput outputInputRef inputParams s s') (infos.filterMap id) outs ∧
      (refOf outputInputRef 0 = none → outs.Pairwise fun r r' =>
        ∀ p p', r.2 = some p → r'.2 = some p' → p < p') := by
  have hstep : ∀ info s r s', fillOutput env outputInputRef inputParams 0 info s = (.ok r, s') →
      Grows s s' ∧ FilledOutput outputInputRef inputParams s s' info r := by
    intro info s r s' hrun
    rcases fillOutput_grows env outputInputRef inputParams info s with
      ⟨e, s₁, herror, _⟩ | ⟨r₁, s₁, hok, hgrows, hfilled⟩
    · rw [herror] at hrun
      cases hrun
    · rw [hok] at hrun
      cases hrun
      exact ⟨hgrows, hfilled⟩
  obtain ⟨hgrows, hfilled⟩ := PyM.collect_forall₂ Grows.refl Grows.trans
    (fun _ _ _ _ _ _ hbefore hq hafter => hq.mono hbefore hafter) hstep h
  refine ⟨hgrows, hfilled, fun hnone => ?_⟩
  -- Without references every pointer is a new handle, and handles grow.
  let known : Runner → Nat × Option Nat → Prop := fun s r => ∀ p, r.2 = some p → p ≤ s.api.handles
  refine (PyM.collect_pairwise (fun info s r s' hrun => ?_ : ∀ info s r s',
    fillOutput env outputInputRef inputParams 0 info s = (.ok r, s') →
      known s' r ∧ ∀ c, known s c → known s' c ∧ _) h).1
  obtain ⟨hgrows, hfilled⟩ := hstep info s r s' hrun
  obtain ⟨p, hp, hlt, hle, _⟩ := hfilled.new hnone
  refine ⟨fun q hq => ?_, fun c hc => ⟨fun q hq => (hc q hq).trans hgrows.handles, ?_⟩⟩
  · rw [hp, Option.some.injEq] at hq
    exact hq ▸ hle
  · intro q q' hq hq'
    rw [hp, Option.some.injEq] at hq'
    exact hq' ▸ Nat.lt_of_le_of_lt (hc q hq) hlt

/-- A buffer that was obtained from the runtime. -/
theorem malloc_new {size : Int} {p : Nat}
    (h : onDevice (RtsApi.malloc env.rts size) s = (.ok p, s')) :
    s.api.handles < p ∧ p ≤ s'.api.handles := by
  rw [onDevice_apply] at h
  rcases RtsApi.malloc_cases env.rts size s.api with ⟨q, a, hrun, hobtains⟩ | ⟨e, a, hrun, _⟩
  · rw [hrun] at h
    cases h
    exact ⟨hobtains.new, hobtains.handles⟩
  · rw [hrun] at h
    cases h

/-- **Workspaces that are filled in** have new buffers in increasing order. -/
theorem fillWorkspace_ok {workspace : List Int} {ps : List Nat}
    (h : fillWorkspace env workspace s = (.ok ps, s')) :
    s.api.handles ≤ s'.api.handles ∧ ps.Pairwise (· < ·) ∧
      List.Forall₂ (fun _ p => s.api.handles < p ∧ p ≤ s'.api.handles) workspace ps := by
  have hforall := PyM.collect_forall₂ (Q := fun s s' _ p => s.api.handles < p ∧ p ≤ s'.api.handles)
    (R := fun s s' => s.api.handles ≤ s'.api.handles) (fun _ => le_refl _)
    (fun _ _ _ => le_trans)
    (fun _ _ _ _ _ _ hbefore hq hafter =>
      ⟨Nat.lt_of_le_of_lt hbefore hq.1, hq.2.trans hafter⟩)
    (fun size s p s' hrun =>
      ⟨(Nat.le_of_lt (malloc_new hrun).1).trans (malloc_new hrun).2, malloc_new hrun⟩) h
  refine ⟨hforall.1, ?_, hforall.2⟩
  let known : Runner → Nat → Prop := fun s p => p ≤ s.api.handles
  refine (PyM.collect_pairwise (fun size s p s' hrun => ?_ : ∀ size s p s',
    onDevice (RtsApi.malloc env.rts (size + 32)) s = (.ok p, s') →
      known s' p ∧ ∀ c, known s c → known s' c ∧ _) h).1
  obtain ⟨hlt, hle⟩ := malloc_new hrun
  exact ⟨hle, fun c hc => ⟨(Nat.le_of_lt (Nat.lt_of_le_of_lt hc hlt)).trans hle,
    Nat.lt_of_le_of_lt hc hlt⟩⟩

/-- **Tiling data that are filled in**: one new buffer, where they are needed. -/
theorem fillTiling_ok {kernel : AscendOpKernel} {tiling : Option Nat} {ps : List Nat}
    (h : fillTiling env kernel tiling s = (.ok ps, s')) :
    (kernel.needDoTiling = false ∧ ps = []) ∨
      kernel.needDoTiling = true ∧ ∃ p, ps = [p] ∧ s.api.handles < p := by
  have hcopy : ∀ s, (do
      let p ← onDevice (RtsApi.copyBinToHbm env.rts (tiling.getD 0))
      return [p] : Run (List Nat)) s = (.ok ps, s') → ∃ p, ps = [p] ∧ s.api.handles < p := by
    intro s h
    obtain ⟨p, s₁, hrun, h⟩ := PyM.bind_eq_ok.mp h
    cases h
    rw [onDevice_apply] at hrun
    rcases RtsApi.copyBinToHbm_cases env.rts (tiling.getD 0) s.api with
      ⟨q, a, hcall, hobtains⟩ | ⟨e, a, hcall, _⟩
    · rw [hcall] at hrun
      cases hrun
      exact ⟨p, rfl, hobtains.new⟩
    · rw [hcall] at hrun
      cases hrun
  unfold fillTiling at h
  -- Without tiling nothing is copied; with it, the data has to be there.
  by_cases hneed : kernel.needDoTiling = false
  · rw [if_pos hneed] at h
    cases h
    exact Or.inl ⟨hneed, rfl⟩
  · right
    rw [if_neg hneed] at h
    refine ⟨Bool.of_not_eq_false hneed, ?_⟩
    split at h
    · obtain ⟨u, s₁, hrun, _⟩ := PyM.bind_eq_ok.mp h
      cases hrun
    · exact hcopy s h

/-- Workspaces and tiling data are given out one after the other. -/
theorem fillRest_ordered {kernel : AscendOpKernel} {tiling : Option Nat} {s₁ : Runner}
    {workspace : List Int} {ps ts : List Nat}
    (hworkspace : fillWorkspace env workspace s = (.ok ps, s₁))
    (htiling : fillTiling env kernel tiling s₁ = (.ok ts, s')) :
    (ps ++ ts).Pairwise (· < ·) ∧ ∀ p ∈ ps ++ ts, s.api.handles < p := by
  obtain ⟨hhandles, hordered, hnew⟩ := fillWorkspace_ok hworkspace
  have hts : ts.Pairwise (· < ·) ∧ ∀ p ∈ ts, s₁.api.handles < p := by
    rcases fillTiling_ok htiling with ⟨_, rfl⟩ | ⟨_, p, rfl, hp⟩
    · exact ⟨.nil, fun p hp => absurd hp List.not_mem_nil⟩
    · exact ⟨List.pairwise_singleton _ _, fun q hq => List.mem_singleton.mp hq ▸ hp⟩
  refine ordered_append hhandles hordered (fun p hp => ?_) hts.1 hts.2
  obtain ⟨_, _, h⟩ := HwEfat.Lib.exists_of_forall₂ hnew hp
  exact h

end Loops

/-- **A run that has launched a kernel** has filled in all its arguments before. -/
theorem run_launched {env : TbeEnv} {a : RunArgs} {s : Runner} {args : List Nat}
    (h : Launches (run env a) s args) :
    ∃ ins s₁ outs s₂ workspaces s₃ tilings s₄,
      fillInputs env a.inputs s = (.ok ins, s₁) ∧
      fillOutputs env a.outputInputRef (ins.filterMap Prod.snd) a.outputInfos s₁ = (.ok outs, s₂) ∧
      fillWorkspace env a.kernel.workspace s₂ = (.ok workspaces, s₃) ∧
      fillTiling env a.kernel a.tiling s₃ = (.ok tilings, s₄) ∧
      ins.map Prod.fst ++ outs.map Prod.snd ++ workspaces.map some ++ tilings.map some
        = args.map some ∧
      CallsOnly (fun _ => True) s₂ (run env a s).2 ∧
      ∀ ks, (run env a s).1 = .ok ks → ks = outs.map Prod.fst := by
  have hmemory : AllowsMemory NoLaunch := noLaunch_memory
  have hrest : ∀ (ins : List (Option Nat × Option Nat)) (outs : List (Nat × Option Nat)),
      (do
        runWith env a.kernel (ins.map Prod.fst ++ outs.map Prod.snd) a.tiling a.blockDim
        return outs.map Prod.fst : Run (List Nat)).Keeps (CallsOnly fun _ => True) :=
    fun ins outs => calls_bind (calls_runWith _ _ _ _) fun _ => calls_pure _
  -- Filling inputs and outputs launches nothing, so the launch comes after both.
  obtain ⟨ins, s₁, hins, h⟩ := h.second
    (PyM.keeps_collect ApiOnly.refl ApiOnly.trans (fun input => api_fillInput hmemory input) _)
    (fun ins => api_bind
      (PyM.keeps_collect ApiOnly.refl ApiOnly.trans
        (fun info => api_fillOutput any_memory _ _ _ info) _)
      fun outs s => (hrest ins outs s).1)
  obtain ⟨outs, s₂, houts, h⟩ := h.second
    (PyM.keeps_collect ApiOnly.refl ApiOnly.trans
      (fun info => api_fillOutput hmemory _ _ _ info) _)
    fun outs s => (hrest ins outs s).1
  have hrun : run env a s = (do
      runWith env a.kernel (ins.map Prod.fst ++ outs.map Prod.snd) a.tiling a.blockDim
      return outs.map Prod.fst : Run (List Nat)) s₂ := by
    unfold run
    rw [PyM.bind_apply, hins]
    dsimp only
    rw [PyM.bind_apply, houts]
  rw [hrun]
  have hcalls := hrest ins outs s₂
  -- What frees the buffers afterwards launches nothing either.
  have hnoLaunch : ∀ held : List Nat × List Nat, (do
      freeAll env held.1
      freeAll env held.2 : Run Unit).Keeps (ApiOnly NoLaunch) := fun held s =>
    ((calls_bind (calls_freeAll hmemory held.1) fun _ => calls_freeAll hmemory held.2) s).1
  have hexecute : Launches (executeWith env a.kernel (ins.map Prod.fst ++ outs.map Prod.snd)
      a.tiling a.blockDim) s₂ args :=
    (h.first (fun s => (calls_runWith _ _ _ _ s).1) fun _ => api_pure _).first
      (fun s => (calls_executeWith _ _ _ _ s).1) hnoLaunch
  have hdone : ∀ (ws ts args : List Nat), (do
      executeKernel env a.kernel args
        (if a.blockDim.getD 0 = 0 then a.kernel.blockDim else a.blockDim)
      return (ws, ts) : Run (List Nat × List Nat)).Keeps (CallsOnly (LaunchesWith args)) :=
    fun ws ts args => calls_bind (calls_executeKernel _) fun _ => calls_pure _
  have hargs : ∀ ws ts : List Nat, (do
      let args ← PyM.lift
        (knlArgs (ins.map Prod.fst ++ outs.map Prod.snd ++ ws.map some ++ ts.map some))
      executeKernel env a.kernel args
        (if a.blockDim.getD 0 = 0 then a.kernel.blockDim else a.blockDim)
      return (ws, ts) : Run (List Nat × List Nat)).Keeps (CallsOnly fun _ => True) := fun ws ts =>
    calls_bind (calls_lift _) fun args s => (hdone ws ts args s).mono fun _ _ => trivial
  obtain ⟨ws, s₃, hws, hexecute⟩ := hexecute.second
    (fun s => (calls_fillWorkspace hmemory _ s).1)
    fun ws s => ((calls_bind (calls_fillTiling any_memory _ _) fun ts => hargs ws ts) s).1
  obtain ⟨ts, s₄, hts, hexecute⟩ := hexecute.second
    (fun s => (calls_fillTiling hmemory _ _ s).1) fun ts s => (hargs ws ts s).1
  -- The arguments of the launch are those that were put together.
  obtain ⟨args', s₅, hlift, hexecute⟩ := hexecute.second (api_lift _)
    fun args s => ((hdone ws ts args s).mono fun _ _ => trivial : CallsOnly (fun _ => True) _ _).1
  have hknl := (PyM.lift_eq_ok.mp hlift).1
  obtain rfl : args = args' := hexecute.with fun s => (hdone ws ts args' s).1
  refine ⟨ins, s₁, outs, s₂, ws, s₃, ts, _, hins, houts, hws, hts, knlArgs_eq_ok.mp hknl, hcalls,
    fun ks hks => ?_⟩
  obtain ⟨r, s', hall⟩ : ∃ r s', (do
      runWith env a.kernel (ins.map Prod.fst ++ outs.map Prod.snd) a.tiling a.blockDim
      return outs.map Prod.fst : Run (List Nat)) s₂ = (r, s') := ⟨_, _, rfl⟩
  rw [hall] at hks
  dsimp only at hks
  rw [hks] at hall
  obtain ⟨_, _, _, hlast⟩ := PyM.bind_eq_ok.mp hall
  cases hlast
  rfl

/-! ## §4. The arguments. -/

/-- What the arguments of a launch are: `bound` is the last buffer that was given out when the
inputs were filled in. -/
structure Arguments (env : TbeEnv) (a : RunArgs) (s s' : Runner)
    (args ins outs workspaces tilings : List Nat) (bound : Nat) : Prop where
  order : args = ins ++ outs ++ workspaces ++ tilings
  separate : Separate s'
  eachInput : List.Forall₂ (InputBuffer env s s') a.inputs ins
  apart : ∀ (i j p : Nat), ins[i]? = some p → ins[j]? = some p →
    i = j ∨ ∃ k, a.inputs[i]? = some (OpInput.param k) ∧ a.inputs[j]? = some (OpInput.param k)
  handles : s.api.handles ≤ bound
  below : ∀ p ∈ ins, p ≤ bound
  shared : ∀ i, refOf a.outputInputRef 0 = some i → ∀ p ∈ outs,
    ∃ k, getIndex (paramInputs a.inputs) i = .ok k ∧ pointerOf s' k = some p
  fresh : refOf a.outputInputRef 0 = none → ∀ p ∈ outs, bound < p ∧ args.count p = 1
  eachOutput : List.Forall₂ (fun info p => refOf a.outputInputRef 0 = none →
    ∃ k, pointerOf s' k = some p ∧ contentOf s' k = some (none, info.outShape, info.dtype))
      (a.outputInfos.filterMap id) outs
  eachWorkspace : List.Forall₂ (fun _ p => Own s args p) a.kernel.workspace workspaces
  eachTiling : List.Forall₂ (fun _ p => Own s args p)
    (if a.kernel.needDoTiling then [a.tiling] else []) tilings

section Arguments

variable {env : TbeEnv} {a : RunArgs} {s s' : Runner} {args : List Nat}

/-- The inputs that were given as parameters are those that are handed on as parameters. -/
theorem paramInputs_of_filled {inputs : List OpInput} {ins : List (Option Nat × Option Nat)}
    (h : List.Forall₂ (FilledInput env s s') inputs ins) :
    ins.filterMap Prod.snd = paramInputs inputs := by
  induction h with
  | nil => rfl
  | @cons input r _ _ hfilled _ ih =>
      cases input with
      | param k =>
          obtain ⟨p, rfl, _⟩ := hfilled
          exact congrArg (k :: ·) ih
      | data data =>
          obtain ⟨p, _, _, rfl, _⟩ := hfilled
          exact ih

/-- The buffer of an input that was filled in. -/
theorem inputBuffer_of_filled {input : OpInput} {r : Option Nat × Option Nat} {p : Nat}
    (h : FilledInput env s s' input r) (hp : r.1 = some p) : InputBuffer env s s' input p := by
  cases input with
  | param k =>
      obtain ⟨q, rfl, hq⟩ := h
      cases hp
      exact hq
  | data data =>
      obtain ⟨q, k, npData, rfl, _, _, hk, hq, hdata, hcontent⟩ := h
      cases hp
      exact ⟨k, npData, hk, hq, hdata, hcontent⟩

/-- The parameter behind the buffer of an input. -/
theorem InputBuffer.exists_param {input : OpInput} {p : Nat} (h : InputBuffer env s s' input p) :
    ∃ k, pointerOf s' k = some p := by
  cases input with
  | param k => exact ⟨k, h⟩
  | data data =>
      obtain ⟨k, _, _, hp, _⟩ := h
      exact ⟨k, hp⟩

/-- Two inputs have the same buffer only if they are the same parameter. -/
theorem inputs_apart {inputs : List OpInput} {ins : List (Option Nat × Option Nat)}
    {ps : List Nat} (hseparate : Separate s') (hparams : ∀ k, .param k ∈ inputs → k < s.params.size)
    (hps : List.Forall₂ (InputBuffer env s s') inputs ps)
    (hins : ps.map some = ins.map Prod.fst)
    (hnone : List.Forall₂ (FilledInput env s s') inputs ins)
    (hfiles : ins.Pairwise fun r r' => r.2 = none → r'.2 = none → r.1 ≠ r'.1) {i j p : Nat}
    (hi : ps[i]? = some p) (hj : ps[j]? = some p) :
    i = j ∨ ∃ k, inputs[i]? = some (OpInput.param k) ∧ inputs[j]? = some (OpInput.param k) := by
  have hat : ∀ n : Nat, ps[n]? = some p → ∃ input r, inputs[n]? = some input ∧ ins[n]? = some r ∧
      InputBuffer env s s' input p ∧ FilledInput env s s' input r ∧ r.1 = some p := by
    intro n hn
    obtain ⟨hlt, hn⟩ := List.getElem?_eq_some_iff.mp hn
    have hlt₁ : n < inputs.length := hps.length_eq ▸ hlt
    have hlt₂ : n < ins.length := hnone.length_eq ▸ hlt₁
    refine ⟨_, _, List.getElem?_eq_getElem hlt₁, List.getElem?_eq_getElem hlt₂, ?_,
      hnone.get hlt₁ hlt₂, ?_⟩
    · rw [← hn]
      exact hps.get hlt₁ hlt
    · have hmap : (ps.map some)[n]? = (ins.map Prod.fst)[n]? := by rw [hins]
      rw [List.getElem?_map, List.getElem?_map, List.getElem?_eq_getElem hlt,
        List.getElem?_eq_getElem hlt₂, hn, Option.map_some, Option.map_some,
        Option.some.injEq] at hmap
      exact hmap.symm
  obtain ⟨input, r, hinput, hr, hp, hfilled, hrp⟩ := hat i hi
  obtain ⟨input', r', hinput', hr', hp', hfilled', hrp'⟩ := hat j hj
  have hold : ∀ {n k : Nat}, inputs[n]? = some (.param k) → k < s.params.size := fun h =>
    hparams _ (List.mem_of_getElem? h)
  cases input with
  | param k =>
      cases input' with
      | param k' =>
          obtain rfl : k = k' := hseparate.distinct k k' p hp hp'
          exact Or.inr ⟨k, hinput, hinput'⟩
      | data data' =>
          -- A new parameter is not one from before.
          obtain ⟨k', _, hk', hp', _⟩ := hp'
          obtain rfl : k = k' := hseparate.distinct k k' p hp hp'
          exact absurd (hold hinput) (Nat.not_lt.mpr hk')
  | data data =>
      cases input' with
      | param k' =>
          obtain ⟨k, _, hk, hp, _⟩ := hp
          obtain rfl : k = k' := hseparate.distinct k k' p hp hp'
          exact absurd (hold hinput') (Nat.not_lt.mpr hk)
      | data data' =>
          left
          obtain ⟨q, _, _, rfl, _⟩ := hfilled
          obtain ⟨q', _, _, rfl, _⟩ := hfilled'
          have hpairwise := List.pairwise_iff_getElem.mp hfiles
          obtain ⟨hlt, hr⟩ := List.getElem?_eq_some_iff.mp hr
          obtain ⟨hlt', hr'⟩ := List.getElem?_eq_some_iff.mp hr'
          rcases Nat.lt_trichotomy i j with hij | hij | hij
          · have hne := hpairwise i j hlt hlt' hij
            rw [hr, hr'] at hne
            exact absurd (hrp.trans hrp'.symm) (hne rfl rfl)
          · exact hij
          · have hne := hpairwise j i hlt' hlt hij
            rw [hr, hr'] at hne
            exact absurd (hrp'.trans hrp.symm) (hne rfl rfl)

/-- The buffers of the inputs have been given out. -/
theorem inputs_le {inputs : List OpInput} {ins : List (Option Nat × Option Nat)} {ps : List Nat}
    (hseparate : Separate s') (hinputs : List.Forall₂ (FilledInput env s s') inputs ins)
    (hps : ps.map some = ins.map Prod.fst) : ∀ p ∈ ps, p ≤ s'.api.handles := by
  intro p hp
  obtain ⟨input, _, r, hfilled, hr⟩ :=
    HwEfat.Lib.exists_of_forall₂ (HwEfat.Lib.forall₂_of_map hinputs hps.symm) hp
  obtain ⟨k, hk⟩ := (inputBuffer_of_filled hfilled hr).exists_param
  exact hseparate.handles k p hk

section Outputs

variable {outputInputRef : List (Int × Int)} {inputParams : List Nat} {infos : List OutputInfo}
  {outs : List (Nat × Option Nat)} {ps : List Nat}

/-- Those of the outputs, too. -/
theorem outputs_le (hseparate : Separate s')
    (houtputs : List.Forall₂ (FilledOutput outputInputRef inputParams s s') infos outs)
    (hps : ps.map some = outs.map Prod.snd) : ∀ p ∈ ps, p ≤ s'.api.handles := by
  intro p hp
  obtain ⟨info, _, r, hfilled, hr⟩ :=
    HwEfat.Lib.exists_of_forall₂ (HwEfat.Lib.forall₂_of_map houtputs hps.symm) hp
  exact hseparate.handles _ p (hfilled.pointer p hr)

/-- Where output 0 refers to no input, every output has a new buffer. -/
theorem outputs_new (hnone : refOf outputInputRef 0 = none)
    (houtputs : List.Forall₂ (FilledOutput outputInputRef inputParams s s') infos outs)
    (hordered : outs.Pairwise fun r r' => ∀ p p', r.2 = some p → r'.2 = some p' → p < p')
    (hps : ps.map some = outs.map Prod.snd) :
    ps.Pairwise (· < ·) ∧ ∀ p ∈ ps, s.api.handles < p := by
  constructor
  · have hmap : (outs.map Prod.snd).Pairwise fun o o' =>
        ∀ p p', o = some p → o' = some p' → p < p' := List.pairwise_map.mpr hordered
    rw [← hps] at hmap
    exact (List.pairwise_map.mp hmap).imp fun h => h _ _ rfl rfl
  · intro p hp
    obtain ⟨info, _, r, hfilled, hr⟩ :=
      HwEfat.Lib.exists_of_forall₂ (HwEfat.Lib.forall₂_of_map houtputs hps.symm) hp
    obtain ⟨q, hq, hlt, _⟩ := hfilled.new hnone
    rw [hr, Option.some.injEq] at hq
    exact hq ▸ hlt

/-- The parameters of the outputs have their buffers. -/
theorem outputs_returned
    (houtputs : List.Forall₂ (FilledOutput outputInputRef inputParams s s') infos outs)
    (hps : ps.map some = outs.map Prod.snd) :
    List.Forall₂ (fun k p => pointerOf s' k = some p) (outs.map Prod.fst) ps := by
  rw [List.forall₂_map_left_iff]
  have heq : List.Forall₂ (fun r p => r.2 = some p) outs ps := by
    have hboth : List.Forall₂ Eq (outs.map Prod.snd) (ps.map some) :=
      List.forall₂_eq_eq_eq ▸ hps.symm
    exact List.forall₂_map_right_iff.mp (List.forall₂_map_left_iff.mp hboth)
  refine (HwEfat.Lib.forall₂_mem heq).imp fun r p h => ?_
  obtain ⟨info, _, hfilled⟩ := HwEfat.Lib.exists_of_forall₂ houtputs h.2.1
  exact hfilled.pointer p h.1

end Outputs

/-- **What a kernel is launched with.** -/
theorem arguments_of_launch (hs : Separate s)
    (hparams : ∀ k, .param k ∈ a.inputs → k < s.params.size) (h : Launches (run env a) s args) :
    ∃ ins outs workspaces tilings bound,
      Arguments env a s (run env a s).2 args ins outs workspaces tilings bound ∧
        ∀ ks, (run env a s).1 = .ok ks →
          List.Forall₂ (fun k p => pointerOf (run env a s).2 k = some p) ks outs := by
  obtain ⟨rs, s₁, ts, s₂, ws, s₃, tiling, s₄, hins, houts, hws, htiling, hargs, hcalls,
    hreturned⟩ :=
    run_launched h
  obtain ⟨hgrows₁, hinputs, hfiles⟩ := fillInputs_ok hins
  obtain ⟨hgrows₂, houtputs, hordered⟩ := fillOutputs_ok houts
  have hseparate₁ := hgrows₁.separate hs
  have hseparate₂ := hgrows₂.separate hseparate₁
  obtain ⟨s', hs'⟩ : ∃ t, t = (run env a s).2 := ⟨_, rfl⟩
  rw [← hs'] at hcalls ⊢
  have hgrows₃ := hcalls.grows
  have hseparate := hgrows₃.separate hseparate₂
  have hinputs' := hinputs.imp fun _ _ h => h.mono (Grows.refl s) (hgrows₂.trans _ _ _ hgrows₃)
  have houtputs' := houtputs.imp fun _ _ h => h.mono (Grows.refl s₁) hgrows₃
  -- The arguments come in four parts.
  obtain ⟨ps₃, tilings, rfl, hps₃, htilings⟩ := List.append_eq_map_iff.mp hargs
  obtain ⟨ps₂, workspaces, rfl, hps₂, hworkspaces⟩ := List.append_eq_map_iff.mp hps₃.symm
  obtain ⟨ins, outs, rfl, hinsMap, houtsMap⟩ := List.append_eq_map_iff.mp hps₂.symm
  obtain rfl : workspaces = ws :=
    List.map_injective_iff.mpr (Option.some_injective Nat) hworkspaces
  obtain rfl : tilings = tiling := List.map_injective_iff.mpr (Option.some_injective Nat) htilings
  have heachInput : List.Forall₂ (InputBuffer env s s') a.inputs ins :=
    (HwEfat.Lib.forall₂_of_map hinputs' hinsMap.symm).imp
      fun _ _ ⟨_, hfilled, hp⟩ => inputBuffer_of_filled hfilled hp
  have heachOutput := HwEfat.Lib.forall₂_of_map houtputs' houtsMap.symm
  -- The buffers of inputs and outputs were given out before the others.
  have hbelow : ∀ p ∈ ins, p ≤ s₁.api.handles := inputs_le hseparate₁ hinputs hinsMap
  have hbelow₂ : ∀ p ∈ ins ++ outs, p ≤ s₂.api.handles := by
    intro p hp
    rcases List.mem_append.mp hp with hp | hp
    · exact (hbelow p hp).trans hgrows₂.handles
    · exact outputs_le hseparate₂ houtputs houtsMap p hp
  obtain ⟨hrest, habove⟩ := fillRest_ordered hws htiling
  have hown : ∀ p ∈ workspaces ++ tilings, Own s (ins ++ outs ++ workspaces ++ tilings) p := by
    intro p hp
    refine ⟨Nat.lt_of_le_of_lt (hgrows₁.handles.trans hgrows₂.handles) (habove p hp), ?_⟩
    rw [List.append_assoc (ins ++ outs)]
    exact count_eq_one hbelow₂ hrest habove hp
  refine ⟨ins, outs, workspaces, tilings, s₁.api.handles, ⟨rfl, hseparate, heachInput,
    fun i j p => inputs_apart hseparate hparams heachInput hinsMap hinputs' hfiles, hgrows₁.handles,
    hbelow, fun i hi p hp => ?_, fun hnone p hp => ?_, ?_, ?_, ?_⟩, fun ks hks => ?_⟩
  · -- Output 0 refers to an input: all outputs are in the buffer of that parameter.
    obtain ⟨info, _, r, hfilled, hr⟩ := HwEfat.Lib.exists_of_forall₂ heachOutput hp
    refine ⟨r.1, ?_, hfilled.pointer p hr⟩
    rw [← paramInputs_of_filled hinputs']
    exact hfilled.ref i hi
  · -- It refers to none: the outputs stand between the inputs and the rest.
    obtain ⟨houtsOrdered, houtsNew⟩ := outputs_new hnone houtputs (hordered hnone) houtsMap
    obtain ⟨hall, hallNew⟩ := ordered_append hgrows₂.handles houtsOrdered
      (fun q hq => ⟨houtsNew q hq, hbelow₂ q (List.mem_append_right _ hq)⟩) hrest habove
    refine ⟨houtsNew p hp, ?_⟩
    rw [List.append_assoc, List.append_assoc]
    exact count_eq_one hbelow hall hallNew (List.mem_append_left _ hp)
  · -- The content of an output of its own.
    refine heachOutput.imp fun info p ⟨r, hfilled, hr⟩ hnone => ?_
    obtain ⟨_, _, _, _, hcontent⟩ := hfilled.new hnone
    exact ⟨r.1, hfilled.pointer p hr, hcontent⟩
  · exact (HwEfat.Lib.forall₂_mem (fillWorkspace_ok hws).2.2).imp
      fun _ p h => hown p (List.mem_append_left _ h.2.2)
  · rcases fillTiling_ok htiling with ⟨hneed, rfl⟩ | ⟨hneed, p, rfl, _⟩
    · rw [hneed]
      exact .nil
    · rw [hneed]
      exact .cons (hown p (List.mem_append_right _ (List.mem_singleton_self p))) .nil
  · rw [hreturned ks hks]
    exact outputs_returned houtputs' houtsMap

end Arguments

/-! ## §5. Launches that are laid out. -/

section Layout

variable {env : TbeEnv} {a : RunArgs} {s s' : Runner}
  {args ins outs workspaces tilings : List Nat} {bound : Nat}

/-- The inputs that were given as parameters. -/
theorem mem_paramInputs {inputs : List OpInput} {k : Nat} :
    k ∈ paramInputs inputs ↔ OpInput.param k ∈ inputs := by
  unfold paramInputs
  rw [List.mem_filterMap]
  constructor
  · rintro ⟨input, hinput, hk⟩
    cases input with
    | param j =>
        cases hk
        exact hinput
    | data data => cases hk
  · exact fun h => ⟨_, h, rfl⟩

/-- **An output is where it should be** exactly if it is paired: what `_fill_outputs` gives it is
the buffer for number 0. -/
theorem Arguments.outputBuffer_iff (H : Arguments env a s s' args ins outs workspaces tilings bound)
    (hparams : ∀ k, .param k ∈ a.inputs → k < s.params.size) {output : Int × OutputInfo} {p : Nat}
    (hp : p ∈ outs) (hcontent : refOf a.outputInputRef 0 = none → ∃ k, pointerOf s' k = some p ∧
      contentOf s' k = some (none, output.2.outShape, output.2.dtype)) :
    OutputBuffer a.outputInputRef ins args s s' output p ↔ PairedAt a output.1 := by
  unfold OutputBuffer PairedAt
  cases hzero : refOf a.outputInputRef 0 with
  | none =>
      obtain ⟨hlt, hone⟩ := H.fresh hzero p hp
      cases refOf a.outputInputRef output.1 with
      | none =>
          exact iff_of_true ⟨⟨Nat.lt_of_le_of_lt H.handles hlt, hone⟩, hcontent hzero⟩ trivial
      | some i =>
          -- Its own buffer is not that of an input.
          refine iff_of_false (fun h => ?_) id
          obtain ⟨n, hn⟩ := HwEfat.Lib.exists_of_getIndex h
          exact absurd (H.below p (List.mem_of_getElem? hn)) (Nat.not_le.mpr hlt)
  | some i₀ =>
      obtain ⟨k, hk, hpointer⟩ := H.shared i₀ hzero p hp
      have hinput : OpInput.param k ∈ a.inputs := by
        obtain ⟨n, hn⟩ := HwEfat.Lib.exists_of_getIndex hk
        exact mem_paramInputs.mp (List.mem_of_getElem? hn)
      cases refOf a.outputInputRef output.1 with
      | none =>
          -- The buffer stands among the inputs, too.
          refine iff_of_false (fun h => ?_) id
          have hmem : p ∈ ins := by
            obtain ⟨n, hn⟩ := List.getElem?_of_mem hinput
            obtain ⟨hlt, hn⟩ := List.getElem?_eq_some_iff.mp hn
            have hlt' : n < ins.length := H.eachInput.length_eq ▸ hlt
            have hbuffer := H.eachInput.get hlt hlt'
            have hparam : a.inputs.get ⟨n, hlt⟩ = .param k := hn
            rw [hparam] at hbuffer
            have heq : ins.get ⟨n, hlt'⟩ = p := Option.some.inj (hbuffer.symm.trans hpointer)
            exact heq ▸ List.get_mem ins ⟨n, hlt'⟩
          have hone := h.1.once
          rw [H.order, List.append_assoc, List.append_assoc, List.count_append,
            List.count_append] at hone
          have hins := List.count_pos_iff.mpr hmem
          have houts := List.count_pos_iff.mpr hp
          omega
      | some i =>
          dsimp only
          rcases HwEfat.Lib.getIndex_forall₂ H.eachInput i with
            ⟨input, q, hinputs, hins, hbuffer⟩ | ⟨⟨e, he⟩, e', he'⟩
          · rw [hinputs, hins]
            constructor
            · intro h
              obtain rfl : q = p := Except.ok.inj h
              refine ⟨k, ?_, hk⟩
              cases input with
              | param j => rw [H.separate.distinct j k q hbuffer hpointer]
              | data data =>
                  obtain ⟨j, _, hj, hq, _⟩ := hbuffer
                  obtain rfl : j = k := H.separate.distinct j k q hq hpointer
                  exact absurd (hparams j hinput) (Nat.not_lt.mpr hj)
            · rintro ⟨j, h, hj⟩
              cases h
              obtain rfl : k = j := Except.ok.inj (hk.symm.trans hj)
              rw [Option.some.inj (hbuffer.symm.trans hpointer)]
          · rw [he, he']
            exact iff_of_false (fun h => nomatch h) fun ⟨_, h, _⟩ => nomatch h

/-- The outputs are looked up as number 0, and not found. -/
theorem run_missing_reference {i : Int} {e : PyError} {rs : List (Option Nat × Option Nat)}
    {s₁ : Runner} (hzero : refOf a.outputInputRef 0 = some i)
    (hmissing : getIndex (paramInputs a.inputs) i = .error e)
    (houts : a.outputInfos.filterMap id ≠ [])
    (hins : fillInputs env a.inputs s = (.ok rs, s₁)) : run env a s = (.error e, s₁) := by
  obtain ⟨info, infos, hinfos⟩ := List.exists_cons_of_ne_nil houts
  have hfirst : fillOutput env a.outputInputRef (rs.filterMap Prod.snd) 0 info s₁
      = (.error e, s₁) := by
    unfold fillOutput outputParam
    rw [PyM.bind_apply, hzero, paramInputs_of_filled (fillInputs_ok hins).2.1]
    dsimp only
    rw [PyM.lift_apply, hmissing]
  have hfill : fillOutputs env a.outputInputRef (rs.filterMap Prod.snd) a.outputInfos s₁
      = (.error e, s₁) := by
    unfold fillOutputs
    rw [hinfos]
    show (fillOutput env a.outputInputRef (rs.filterMap Prod.snd) 0 info >>= fun _ => _) s₁ = _
    rw [PyM.bind_apply, hfirst]
  unfold run
  rw [PyM.bind_apply, hins]
  dsimp only
  rw [PyM.bind_apply, hfill]

/-- **A launch is laid out as it should be** exactly if every output is paired with number 0.  If
number 0 refers to an input that is not found among the parameters, there is no launch: the
run raises when it comes to the outputs. -/
theorem launched_layout_iff (env : TbeEnv) (a : RunArgs) (counted : Bool) (s : Runner)
    (hs : Separate s) (hparams : ∀ k, .param k ∈ a.inputs → k < s.params.size) :
    (∀ args, Launches (run env a) s args → (LaidOut env a counted s args ↔ Paired a counted)) ∧
      ∀ i e, refOf a.outputInputRef 0 = some i →
        getIndex (paramInputs a.inputs) i = .error e → a.outputInfos.filterMap id ≠ [] →
        ∀ ins s₁, fillInputs env a.inputs s = (.ok ins, s₁) → run env a s = (.error e, s₁) := by
  refine ⟨fun args hlaunch => ?_, fun i e hzero hmissing houts ins s₁ hins =>
    run_missing_reference hzero hmissing houts hins⟩
  obtain ⟨ins, outs, workspaces, tilings, bound, H, hreturned⟩ :=
    arguments_of_launch hs hparams hlaunch
  have heach : List.Forall₂ (fun output p =>
      OutputBuffer a.outputInputRef ins args s (run env a s).2 output p ↔ PairedAt a output.1)
      (numberedOutputs counted a.outputInfos) outs := by
    have hnumbered := H.eachOutput
    rw [← outputs_of_numbered counted, List.forall₂_map_left_iff] at hnumbered
    exact (HwEfat.Lib.forall₂_mem hnumbered).imp
      fun output p h => H.outputBuffer_iff hparams h.2.2 h.1
  constructor
  · rintro ⟨ins', outs', workspaces', tilings', H', _⟩
    -- The arguments tell where the inputs end and the outputs begin.
    have horder := H'.order.symm.trans H.order
    have hins : ins'.length = ins.length :=
      H'.eachInput.length_eq.symm.trans H.eachInput.length_eq
    have houts : outs'.length = outs.length :=
      H'.eachOutput.length_eq.symm.trans heach.length_eq
    rw [List.append_assoc, List.append_assoc, List.append_assoc, List.append_assoc] at horder
    obtain ⟨hinsEq, hrest⟩ := List.append_inj horder hins
    obtain ⟨houtsEq, _⟩ := List.append_inj hrest houts
    rw [← hinsEq, ← houtsEq] at heach
    exact (HwEfat.Lib.forall₂_iff_forall heach).mp H'.eachOutput
  · intro hpaired
    exact ⟨ins, outs, workspaces, tilings, ⟨H.order, H.eachInput, H.apart,
      (HwEfat.Lib.forall₂_iff_forall heach).mpr hpaired, H.eachWorkspace, H.eachTiling⟩, hreturned⟩

end Layout

/-- Two numbers of type `float16`. -/
def twoHalves : NpData := ⟨[2], some "float16", 4⟩

/-- A kernel with one output. -/
def negKernel : AscendOpKernel where
  ref := 0
  binPath := "kernel_meta/neg.o"
  stubFuncName := "neg"
  blockDim := some 1
  outputInfos := [some { shape := some [2], dtype := some "float16" }]

/-- A runner with a parameter that is not on the device. -/
def paramRunner : Runner :=
  { newRunner with
    params := Heap.empty.alloc
      { npData := some twoHalves, shape := some [2], dtype := some "float16", size := 4,
        shapeSize := 2, hbmPointer := none, ascendDevice := false } }

/-- The runner with a parameter has just been started. -/
theorem started_paramRunner : Started paramRunner where
  kernelParams := rfl
  params k := by
    cases k with
    | zero => rfl
    | succ k => rfl
  buffers := started_newRunner.buffers

/-- The parameter is negated in place; the kernel has an array to look up, a workspace and tiling
data. -/
def negRun : RunArgs where
  kernel := { negKernel with workspace := [64], needDoTiling := true }
  inputs := [.param 0, .data (.array twoHalves)]
  outputInputRef := [(0, 0)]
  tiling := some 8

theorem calls_negRun : (run willingDevice negRun paramRunner).2.api.calls
    = [(.rtMalloc 1 64, 0), (.rtMemcpy 1 4, 0), (.rtMalloc 2 64, 0), (.rtMemcpy 2 4, 0),
      (.rtMalloc 3 96, 0), (.rtMalloc 4 64, 0), (.rtMemcpy 4 8, 0),
      (.rtDevBinaryRegister 5, 0), (.rtFunctionRegister 5 "neg", 0),
      (.rtKernelLaunch "neg" 1 [1, 2, 1, 3, 4], 0), (.rtStreamSynchronize 0, 0),
      (.rtFree 3, 0), (.rtFree 4, 0)] := by decide +kernel

/-- The run is laid out as it should be: an array, a workspace and tiling data behind the
parameter. -/
theorem launched_layout_iff_neg :
    LaidOut willingDevice negRun true paramRunner [1, 2, 1, 3, 4] := by
  have hlaunch : Launches (run willingDevice negRun) paramRunner [1, 2, 1, 3, 4] :=
    ⟨_, "neg", 1, 0, calls_negRun, by decide⟩
  have hparams : ∀ k, .param k ∈ negRun.inputs → k < paramRunner.params.size := by
    intro k hk
    cases hk with
    | head => decide
    | tail _ h =>
        cases h with
        | tail _ h => cases h
  refine ((launched_layout_iff willingDevice negRun true paramRunner started_paramRunner.separate
    hparams).1 [1, 2, 1, 3, 4] hlaunch).mpr fun output houtput => ?_
  -- The only output has number 0, which refers to the parameter.
  rw [List.mem_singleton.mp houtput]
  exact ⟨0, rfl, rfl⟩

/-- A kernel with two outputs, of which number 0 is in the buffer of the input. -/
def splitRun : RunArgs where
  kernel :=
    { negKernel with
      outputInfos := [some { shape := some [2], dtype := some "float16" },
        some { shape := some [2], dtype := some "float16" }] }
  inputs := [.param 0]
  outputInputRef := [(0, 0)]

theorem calls_splitRun : (run willingDevice splitRun paramRunner).2.api.calls
    = [(.rtMalloc 1 64, 0), (.rtMemcpy 1 4, 0), (.rtDevBinaryRegister 2, 0),
      (.rtFunctionRegister 2 "neg", 0), (.rtKernelLaunch "neg" 1 [1, 1, 1], 0),
      (.rtStreamSynchronize 0, 0)] := by decide +kernel

/-- Output number 1 is put in the buffer of the input, too, and has none of its own. -/
theorem output_without_buffer :
    Launches (run willingDevice splitRun) paramRunner [1, 1, 1] ∧
      ∀ counted, ¬ LaidOut willingDevice splitRun counted paramRunner [1, 1, 1] := by
  refine ⟨⟨_, "neg", 1, 0, calls_splitRun, by decide⟩, ?_⟩
  rintro counted ⟨ins, outs, workspaces, tilings, H, _⟩
  have hmem : ∃ info, ((1 : Int), info) ∈ numberedOutputs counted splitRun.outputInfos := by
    cases counted with
    | false => exact ⟨_, List.mem_cons_of_mem _ (List.mem_singleton_self _)⟩
    | true => exact ⟨_, List.mem_cons_of_mem _ (List.mem_singleton_self _)⟩
  obtain ⟨info, hmem⟩ := hmem
  obtain ⟨p, _, hbuffer⟩ := HwEfat.Lib.exists_of_forall₂ H.eachOutput.flip hmem
  have hown : Own paramRunner [1, 1, 1] p := hbuffer.1
  have honce := hown.once
  by_cases hp : p = 1
  · rw [hp] at honce
    cases honce
  · rw [List.count_eq_zero_of_not_mem fun h => hp (by simpa using h)] at honce
    cases honce

end TbeOp

end HwEfat.Main
