/-
  HwEfat.Main.TbeOp.Accounts — the accounts of a runner.

  A buffer that was obtained has been freed, is that of a parameter in `_kernel_params`, or is
  loose: a local variable of a call, or lost.
-/
import HwEfat.Lib.Ledger
import HwEfat.Main.RtsApi.Buffers
import HwEfat.Main.TbeOp.Def

namespace HwEfat.Main

open HwEfat.Lib (PyError PyM Ledger Heap)

namespace TbeOp

open RtsApi (Api Rts RtsEnv RtCall obtainedBy freeOf SameBuffers Obtains called)

/-! ## §1. Accounts. -/

/-- The buffers that were obtained. -/
def obtained (s : Runner) : Multiset Nat := s.api.calls.filterMap obtainedBy

/-- The buffers that were freed. -/
def released (s : Runner) : Multiset Nat :=
  ((s.api.calls.filterMap freeOf).filter fun f => f.2 = 0).map Prod.fst

/-- The buffer of a parameter. -/
def pointerOf (s : Runner) (k : Nat) : Option Nat :=
  (s.params.read k).bind AscendOpKernelParam.hbmPointer

/-- The buffers that will be freed when the runner is left. -/
def owned (s : Runner) : Multiset Nat := s.kernelParams.filterMap (pointerOf s)

/-- Every buffer that was obtained has been freed, or has an owner, or is loose. -/
structure Accounted (s : Runner) (loose : Multiset Nat) : Prop where
  balance : obtained s = released s + owned s + loose
  distinct : (obtained s).Nodup
  handles : ∀ p ∈ obtained s, p ≤ s.api.handles
  valid : ∀ k ∈ s.kernelParams, k < s.params.size
  once : s.kernelParams.Nodup
  cached : ∀ k p, pointerOf s k = some p → k ∈ s.kernelParams
  device : ∀ k param, s.params.read k = some param → param.hbmPointer ≠ none →
    param.ascendDevice = true

/-- Every buffer that was handed back was taken back by the runtime. -/
def FreesSucceed (s : Runner) : Prop := ∀ f ∈ s.api.calls.filterMap freeOf, f.2 = 0

/-- The ledger of the runner. -/
def ledger : Ledger Runner Nat := ⟨obtained, Accounted, FreesSucceed⟩

/-! ## §2. Lists of owners. -/

section Owners

variable {l : List Nat} {f g : Nat → Option Nat} {k p : Nat}

/-- Two functions that differ at an element that is not in the list. -/
theorem filterMap_congr_of_ne (hsame : ∀ j, j ≠ k → g j = f j) (hk : k ∉ l) :
    l.filterMap g = l.filterMap f :=
  List.filterMap_congr fun j hj => hsame j fun h => hk (h ▸ hj)

/-- One of the owners gets a buffer. -/
theorem filterMap_own (hl : l.Nodup) (hsame : ∀ j, j ≠ k → g j = f j) (hf : f k = none)
    (hg : g k = some p) (hk : k ∈ l) :
    (l.filterMap g : Multiset Nat) = (l.filterMap f : Multiset Nat) + {p} := by
  induction l with
  | nil => exact absurd hk List.not_mem_nil
  | cons j l ih =>
      obtain ⟨hj, hl⟩ := List.nodup_cons.mp hl
      by_cases hjk : j = k
      · subst hjk
        rw [List.filterMap_cons_none hf, List.filterMap_cons_some hg,
          filterMap_congr_of_ne hsame hj, ← Multiset.cons_coe, ← Multiset.singleton_add, add_comm]
      · have hrest := ih hl ((List.mem_cons.mp hk).resolve_left (Ne.symm hjk))
        cases hfj : f j with
        | none =>
            rw [List.filterMap_cons_none hfj, List.filterMap_cons_none (hsame j hjk ▸ hfj), hrest]
        | some q =>
            rw [List.filterMap_cons_some hfj, List.filterMap_cons_some (hsame j hjk ▸ hfj),
              ← Multiset.cons_coe, ← Multiset.cons_coe, hrest, Multiset.cons_add]

end Owners

/-! ## §3. Steps of the accounts. -/

section Steps

variable {s : Runner} {loose : Multiset Nat} {api : Api} {p : Nat}

/-- A call that touches no buffer leaves the account as it is. -/
theorem Accounted.api_same (h : Accounted s loose) (hapi : SameBuffers s.api api) :
    Accounted { s with api } loose where
  balance := by
    have hbalance := h.balance
    unfold obtained released at hbalance ⊢
    rw [hapi.obtained, hapi.frees]
    exact hbalance
  distinct := by
    have hdistinct := h.distinct
    unfold obtained at hdistinct ⊢
    rw [hapi.obtained]
    exact hdistinct
  handles := by
    have hhandles := h.handles
    unfold obtained at hhandles ⊢
    rw [hapi.obtained]
    exact fun p hp => (hhandles p hp).trans hapi.handles
  valid := h.valid
  once := h.once
  cached := h.cached
  device := h.device

/-- Such a call obtains nothing. -/
theorem obtained_same (hapi : SameBuffers s.api api) :
    obtained { s with api } = obtained s := by
  unfold obtained
  rw [hapi.obtained]

/-- A new buffer is loose. -/
theorem Accounted.api_obtains (h : Accounted s loose) (hapi : Obtains s.api api p) :
    Accounted { s with api } (loose + {p}) ∧ obtained { s with api } = obtained s + {p} := by
  have hobtained : obtained { s with api } = obtained s + {p} := by
    unfold obtained
    rw [hapi.obtained, ← Multiset.coe_add, Multiset.coe_singleton]
  refine ⟨⟨?_, ?_, ?_, h.valid, h.once, h.cached, h.device⟩, hobtained⟩
  · have hreleased : released { s with api } = released s := by
      unfold released
      rw [hapi.frees]
    rw [hobtained, hreleased, h.balance, add_assoc]
    rfl
  · rw [hobtained, add_comm, Multiset.singleton_add, Multiset.nodup_cons]
    refine ⟨fun hp => ?_, h.distinct⟩
    exact absurd (h.handles p hp) (Nat.not_le.mpr hapi.new)
  · rw [hobtained]
    intro q hq
    rcases Multiset.mem_add.mp hq with hq | hq
    · exact (h.handles q hq).trans (Nat.le_of_lt (Nat.lt_of_lt_of_le hapi.new hapi.handles))
    · rw [Multiset.mem_singleton.mp hq]
      exact hapi.handles

end Steps

section Params

variable {s s' : Runner} {loose : Multiset Nat} {k p : Nat} {param : AscendOpKernelParam}

/-- Writing a parameter leaves the pointers of the others. -/
theorem pointerOf_write_ne {j : Nat} (hj : j ≠ k) :
    pointerOf { s with params := s.params.write k param } j = pointerOf s j := by
  unfold pointerOf
  dsimp only
  rw [Heap.read_write_ne s.params hj]

/-- The pointer of a parameter after it was written. -/
theorem pointerOf_write (hk : k < s.params.size) :
    pointerOf { s with params := s.params.write k param } k = param.hbmPointer := by
  unfold pointerOf
  dsimp only
  rw [Heap.read_write_self hk, Option.bind_some]

/-- The pointer of a new parameter. -/
theorem pointerOf_alloc :
    pointerOf { s with params := s.params.alloc param } s.params.size = param.hbmPointer := by
  unfold pointerOf
  dsimp only
  rw [Heap.read_alloc_fresh, Option.bind_some]

/-- What is no parameter has no pointer. -/
theorem pointerOf_of_size_le {j : Nat} (hj : s.params.size ≤ j) : pointerOf s j = none := by
  unfold pointerOf
  rw [Heap.read_eq_none.mpr hj, Option.bind_none]

/-- A new parameter leaves the pointers of the others. -/
theorem pointerOf_alloc_ne {j : Nat} (hj : j ≠ s.params.size) :
    pointerOf { s with params := s.params.alloc param } j = pointerOf s j := by
  rcases Nat.lt_or_gt_of_ne hj with hlt | hgt
  · unfold pointerOf
    dsimp only
    rw [Heap.read_alloc_old s.params param hlt]
  · rw [pointerOf_of_size_le (Nat.le_of_lt hgt), pointerOf_of_size_le]
    show (s.params.alloc param).size ≤ j
    rw [Heap.size_alloc]
    exact hgt

/-- The objects with `k` in `_kernel_params`. -/
def withParam (k : Nat) (s : Runner) : Runner :=
  if k ∈ s.kernelParams then s else { s with kernelParams := s.kernelParams ++ [k] }

/-- A parameter that was put into the cache is in it. -/
theorem mem_withParam (k : Nat) (s : Runner) : k ∈ (withParam k s).kernelParams := by
  unfold withParam
  split
  · assumption
  · exact List.mem_append_right _ (List.mem_singleton_self k)

/-- **A loose buffer gets an owner**: a parameter in `_kernel_params` that had none. -/
theorem Accounted.own (h : Accounted s (loose + {p})) (hapi : s'.api = s.api)
    (hkernelParams : s'.kernelParams = (withParam k s).kernelParams) (hk : k < s'.params.size)
    (hsize : s.params.size ≤ s'.params.size) (hbefore : pointerOf s k = none)
    (hafter : pointerOf s' k = some p) (hsame : ∀ j, j ≠ k → pointerOf s' j = pointerOf s j)
    (hdevice : ∀ j param, s'.params.read j = some param → param.hbmPointer ≠ none →
      param.ascendDevice = true) : Accounted s' loose := by
  -- The parameter is counted once, whether or not it has been listed before.
  have howned : owned s' = owned s + {p} := by
    unfold owned
    rw [hkernelParams]
    unfold withParam
    split
    · next hmem => exact filterMap_own h.once hsame hbefore hafter hmem
    · next hmem =>
        rw [List.filterMap_append, filterMap_congr_of_ne hsame hmem,
          List.filterMap_cons_some hafter, List.filterMap_nil, ← Multiset.coe_add,
          Multiset.coe_singleton]
  have hmem : ∀ j, j ∈ s'.kernelParams ↔ j ∈ s.kernelParams ∨ j = k := by
    intro j
    rw [hkernelParams]
    unfold withParam
    split
    · next hmem => exact ⟨Or.inl, fun hj => hj.elim id fun hj => hj ▸ hmem⟩
    · rw [List.mem_append, List.mem_singleton]
  refine ⟨?_, ?_, ?_, fun j hj => ?_, ?_, fun j q hq => ?_, hdevice⟩
  · have hbalance := h.balance
    unfold obtained released at hbalance ⊢
    rw [howned, hapi, hbalance]
    ac_rfl
  · unfold obtained
    rw [hapi]
    exact h.distinct
  · unfold obtained
    rw [hapi]
    exact h.handles
  · rcases (hmem j).mp hj with hj | rfl
    · exact Nat.lt_of_lt_of_le (h.valid j hj) hsize
    · exact hk
  · rw [hkernelParams]
    unfold withParam
    split
    · exact h.once
    · next hmem =>
        exact List.nodup_append.mpr ⟨h.once, List.nodup_singleton k, fun a ha b hb hab =>
          hmem (by rw [← List.mem_singleton.mp hb, ← hab]; exact ha)⟩
  · rw [hmem]
    by_cases hj : j = k
    · exact Or.inr hj
    · rw [hsame j hj] at hq
      exact Or.inl (h.cached j q hq)

/-- Objects that hold the same buffers. -/
theorem Accounted.same (h : Accounted s loose) (hapi : s'.api = s.api)
    (hkernelParams : s'.kernelParams = s.kernelParams) (hsize : s.params.size ≤ s'.params.size)
    (hsame : ∀ j, pointerOf s' j = pointerOf s j)
    (hdevice : ∀ j param, s'.params.read j = some param → param.hbmPointer ≠ none →
      param.ascendDevice = true) : Accounted s' loose := by
  have hpointers : pointerOf s' = pointerOf s := funext hsame
  refine ⟨?_, ?_, ?_, fun j hj => ?_, ?_, fun j q hq => ?_, hdevice⟩
  · have hbalance := h.balance
    unfold obtained released owned at hbalance ⊢
    rw [hapi, hkernelParams, hpointers]
    exact hbalance
  · unfold obtained
    rw [hapi]
    exact h.distinct
  · unfold obtained
    rw [hapi]
    exact h.handles
  · rw [hkernelParams] at hj
    exact Nat.lt_of_lt_of_le (h.valid j hj) hsize
  · rw [hkernelParams]
    exact h.once
  · rw [hkernelParams]
    rw [hsame] at hq
    exact h.cached j q hq

/-- A parameter without a buffer is added to `_kernel_params`. -/
theorem Accounted.cache (h : Accounted s loose) (hk : k < s.params.size) :
    Accounted (withParam k s) loose := by
  unfold withParam
  split
  · exact h
  · next hmem =>
      have hnone : pointerOf s k = none := by
        cases hpointer : pointerOf s k with
        | none => rfl
        | some q => exact absurd (h.cached k q hpointer) hmem
      refine ⟨?_, h.distinct, h.handles, fun j hj => ?_, ?_, fun j q hq => ?_, h.device⟩
      · have howned : owned { s with kernelParams := s.kernelParams ++ [k] } = owned s := by
          show ((s.kernelParams ++ [k]).filterMap (pointerOf s) : Multiset Nat) = _
          rw [List.filterMap_append, List.filterMap_cons_none hnone, List.filterMap_nil,
            List.append_nil]
          rfl
        rw [howned]
        exact h.balance
      · rcases List.mem_append.mp hj with hj | hj
        · exact h.valid j hj
        · rw [List.mem_singleton.mp hj]
          exact hk
      · exact List.nodup_append.mpr ⟨h.once, List.nodup_singleton k, fun a ha b hb hab =>
          hmem (by rw [← List.mem_singleton.mp hb, ← hab]; exact ha)⟩
      · exact List.mem_append_left _ (h.cached j q hq)

/-- A new parameter without a buffer. -/
theorem Accounted.alloc (h : Accounted s loose) (hnone : param.hbmPointer = none) :
    Accounted { s with params := s.params.alloc param } loose := by
  refine h.same rfl rfl ?_ (fun j => ?_) fun j param' hread hne => ?_
  · show s.params.size ≤ (s.params.alloc param).size
    rw [Heap.size_alloc]
    exact Nat.le_succ _
  · by_cases hj : j = s.params.size
    · rw [hj, pointerOf_alloc, hnone, pointerOf_of_size_le (le_refl _)]
    · exact pointerOf_alloc_ne hj
  · have hlt := Heap.lt_size_of_read hread
    rw [Heap.size_alloc] at hlt
    rcases Nat.lt_or_eq_of_le (Nat.le_of_lt_succ hlt) with hj | rfl
    · rw [Heap.read_alloc_old s.params param hj] at hread
      exact h.device j param' hread hne
    · rw [Heap.read_alloc_fresh, Option.some.injEq] at hread
      subst hread
      exact absurd hnone hne

/-- A parameter learns of the device. -/
theorem Accounted.setDevice (h : Accounted s loose) (hread : s.params.read k = some param) :
    Accounted { s with params := s.params.write k { param with ascendDevice := true } } loose := by
  refine h.same rfl rfl ?_ (fun j => ?_) fun j param' hread' hne => ?_
  · exact (Heap.size_write s.params k _).ge
  · by_cases hj : j = k
    · subst hj
      rw [pointerOf_write (Heap.lt_size_of_read hread)]
      unfold pointerOf
      rw [hread, Option.bind_some]
    · exact pointerOf_write_ne hj
  · by_cases hj : j = k
    · subst hj
      rw [Heap.read_write_self (Heap.lt_size_of_read hread), Option.some.injEq] at hread'
      subst hread'
      rfl
    · rw [Heap.read_write_ne s.params hj] at hread'
      exact h.device j param' hread' hne

/-- A parameter gives up its buffer, which is loose then, and forgets the device. -/
theorem Accounted.disown (h : Accounted s loose) (hread : s.params.read k = some param)
    (hp : param.hbmPointer = some p) :
    Accounted { s with
      params := s.params.write k { param with hbmPointer := none, ascendDevice := false } }
      (loose + {p}) := by
  have hpointer : pointerOf s k = some p := by
    unfold pointerOf
    rw [hread, Option.bind_some, hp]
  have hlt := Heap.lt_size_of_read hread
  refine ⟨?_, h.distinct, h.handles, fun j hj => ?_, h.once, fun j q hq => ?_,
    fun j param' hread' hne => ?_⟩
  · -- What the parameter held is loose now, so that the sum stays.
    have howned : owned s = owned { s with
        params := s.params.write k { param with hbmPointer := none, ascendDevice := false } }
          + {p} :=
      filterMap_own h.once (fun j hj => (pointerOf_write_ne hj).symm) (pointerOf_write hlt)
        hpointer (h.cached k p hpointer)
    have hbalance := h.balance
    rw [howned] at hbalance
    refine hbalance.trans ?_
    unfold released
    ac_rfl
  · show j < (s.params.write k _).size
    rw [Heap.size_write]
    exact h.valid j hj
  · by_cases hj : j = k
    · subst hj
      rw [pointerOf_write hlt] at hq
      cases hq
    · rw [pointerOf_write_ne hj] at hq
      exact h.cached j q hq
  · by_cases hj : j = k
    · subst hj
      rw [Heap.read_write_self hlt, Option.some.injEq] at hread'
      subst hread'
      exact absurd rfl hne
    · rw [Heap.read_write_ne s.params hj] at hread'
      exact h.device j param' hread' hne

end Params

/-! ## §4. Frees. -/

section Frees

variable {env : RtsEnv} {s : Runner} {loose : Multiset Nat} {p : Nat}

/-- A call of `rtFree` is the last one of the log, with the code that came back. -/
theorem frees_called (env : RtsEnv) (p : Nat) (api : Api) :
    (called env (.rtFree p) api).calls.filterMap freeOf
      = api.calls.filterMap freeOf ++ [(p, env.code api.calls.length)] := by
  show (api.calls ++ [_]).filterMap freeOf = _
  rw [List.filterMap_append]
  rfl

/-- **A loose buffer is freed.** -/
theorem Accounted.free (h : Accounted s (loose + {p})) (hcode : env.code s.api.calls.length = 0) :
    Accounted { s with api := called env (.rtFree p) s.api } loose := by
  have hobtained : (called env (.rtFree p) s.api).calls.filterMap obtainedBy
      = s.api.calls.filterMap obtainedBy := by
    show (s.api.calls ++ [_]).filterMap obtainedBy = _
    rw [List.filterMap_append]
    exact List.append_nil _
  have hreleased : released { s with api := called env (.rtFree p) s.api } = released s + {p} := by
    unfold released
    dsimp only
    rw [frees_called, List.filter_append, List.map_append, hcode, ← Multiset.coe_add]
    rfl
  refine ⟨?_, ?_, ?_, h.valid, h.once, h.cached, h.device⟩
  · have hbalance := h.balance
    unfold obtained at hbalance ⊢
    rw [hreleased, hobtained, hbalance]
    show released s + owned s + (loose + {p}) = released s + {p} + owned s + loose
    ac_rfl
  · have hdistinct := h.distinct
    unfold obtained at hdistinct ⊢
    rw [hobtained]
    exact hdistinct
  · have hhandles := h.handles
    unfold obtained at hhandles ⊢
    rw [hobtained]
    exact hhandles

end Frees

end TbeOp

end HwEfat.Main
