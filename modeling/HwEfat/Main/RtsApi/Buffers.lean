/-
  HwEfat.Main.RtsApi.Buffers — which calls obtain and free buffers of the device.

  `malloc` obtains one if it returns, `copy_bin_to_hbm` may have done so when it raises, since
  the copy comes behind it; `free` frees one.  All other calls leave the buffers as they are.
-/
import HwEfat.Main.RtsApi.Calls

namespace HwEfat.Main

open HwEfat.Lib (PyError PyM)

namespace RtsApi

/-! ## §1. Buffers in the calls. -/

/-- The buffer that a call has obtained. -/
def obtainedBy (e : RtCall × UInt64) : Option Nat :=
  match e.1 with
  | .rtMalloc p _ => if e.2 = 0 then some p else none
  | _ => none

/-- The buffer that a call should free, and whether it did. -/
def freeOf (e : RtCall × UInt64) : Option (Nat × UInt64) :=
  match e.1 with
  | .rtFree p => some (p, e.2)
  | _ => none

/-- Nothing is obtained or freed in between. -/
structure SameBuffers (s s' : Api) : Prop where
  obtained : s'.calls.filterMap obtainedBy = s.calls.filterMap obtainedBy
  frees : s'.calls.filterMap freeOf = s.calls.filterMap freeOf
  handles : s.handles ≤ s'.handles

theorem SameBuffers.refl (s : Api) : SameBuffers s s := ⟨rfl, rfl, le_refl _⟩

theorem SameBuffers.trans (s₁ s₂ s₃ : Api) (h : SameBuffers s₁ s₂) (h' : SameBuffers s₂ s₃) :
    SameBuffers s₁ s₃ :=
  ⟨h'.obtained.trans h.obtained, h'.frees.trans h.frees, h.handles.trans h'.handles⟩

/-- A new buffer is obtained in between. -/
structure Obtains (s s' : Api) (p : Nat) : Prop where
  obtained : s'.calls.filterMap obtainedBy = s.calls.filterMap obtainedBy ++ [p]
  frees : s'.calls.filterMap freeOf = s.calls.filterMap freeOf
  new : s.handles < p
  handles : p ≤ s'.handles

theorem Obtains.same {s s₁ s₂ : Api} {p : Nat} (h : Obtains s s₁ p) (h' : SameBuffers s₁ s₂) :
    Obtains s s₂ p :=
  ⟨h'.obtained.trans h.obtained, h'.frees.trans h.frees, h.new, h.handles.trans h'.handles⟩

/-- A call of the library that is not about a buffer. -/
def Bufferless (call : RtCall) : Prop :=
  ∀ code, obtainedBy (call, code) = none ∧ freeOf (call, code) = none

/-- Other calls leave the buffers alone. -/
theorem sameBuffers {α : Type} {x : Rts α} (h : x.Keeps (Only Bufferless)) :
    x.Keeps SameBuffers := fun s =>
  ⟨(h s).filterMap fun _ code hcall => (hcall code).1,
    (h s).filterMap fun _ code hcall => (hcall code).2, (h s).handles⟩

theorem same_callChecked {env : RtsEnv} {call : RtCall} (h : Bufferless call)
    (extraInfo : String) : (callChecked env call extraInfo).Keeps SameBuffers :=
  sameBuffers (only_callChecked h extraInfo)

theorem same_memcpy {env : RtsEnv} (p size : Nat) : (memcpy env p size 0).Keeps SameBuffers :=
  sameBuffers (only_memcpyRetries (fun _ => ⟨rfl, rfl⟩) _)

/-! ## §2. Calls about a buffer. -/

section Buffers

variable (env : RtsEnv)

/-- `malloc` obtains a buffer exactly if it returns. -/
theorem malloc_cases (memorySize : Int) (s : Api) :
    (∃ p s', malloc env memorySize s = (.ok p, s') ∧ Obtains s s' p) ∨
      ∃ e s', malloc env memorySize s = (.error e, s') ∧ SameBuffers s s' := by
  have hrun : malloc env memorySize s
      = (do
          callChecked env (.rtMalloc (s.handles + 1) memorySize)
            (", trying to allocate " ++ toString memorySize ++ " bytes")
          return s.handles + 1 : Rts Nat) { s with handles := s.handles + 1 } := rfl
  rw [hrun, PyM.bind_apply]
  rcases callChecked_cases env (.rtMalloc (s.handles + 1) memorySize)
      (", trying to allocate " ++ toString memorySize ++ " bytes")
      { s with handles := s.handles + 1 } with ⟨hcode, hcall⟩ | ⟨hcode, e, _, hcall⟩
  · left
    rw [hcall]
    refine ⟨_, _, rfl, ?_, ?_, Nat.lt_succ_self _, le_refl _⟩
    · show (s.calls ++ [_]).filterMap obtainedBy = _
      rw [List.filterMap_append]
      congr 1
      show [(RtCall.rtMalloc (s.handles + 1) memorySize, env.code s.calls.length)].filterMap
        obtainedBy = _
      rw [show env.code s.calls.length = 0 from hcode]
      rfl
    · show (s.calls ++ [_]).filterMap freeOf = _
      rw [List.filterMap_append]
      exact List.append_nil _
  · right
    rw [hcall]
    refine ⟨_, _, rfl, ?_, ?_, Nat.le_succ _⟩
    · show (s.calls ++ [_]).filterMap obtainedBy = _
      rw [List.filterMap_append]
      -- A refused call obtains nothing, though the handle has been used.
      have hnone : obtainedBy (RtCall.rtMalloc (s.handles + 1) memorySize,
          env.code s.calls.length) = none := if_neg hcode
      rw [List.filterMap_cons_none hnone]
      exact List.append_nil _
    · show (s.calls ++ [_]).filterMap freeOf = _
      rw [List.filterMap_append]
      exact List.append_nil _

theorem hbmMalloc_cases (dataSize : Nat) (s : Api) :
    (∃ p s', hbmMalloc env dataSize s = (.ok p, s') ∧ Obtains s s' p) ∨
      ∃ e s', hbmMalloc env dataSize s = (.error e, s') ∧ SameBuffers s s' := by
  unfold hbmMalloc
  rcases malloc_cases env (hbmSize dataSize) s with
    ⟨p, s₁, hmalloc, hobtains⟩ | ⟨e, s₁, hmalloc, hsame⟩
  · rw [hmalloc]
    exact Or.inl ⟨p, s₁, rfl, hobtains⟩
  · rw [hmalloc]
    right
    have hinfo : (getMemoryInfoEx env).Keeps SameBuffers :=
      same_callChecked (fun _ => ⟨rfl, rfl⟩) ""
    have hboth := hsame.trans _ _ _ (hinfo s₁)
    dsimp only
    rw [PyM.bind_apply]
    cases hrun : getMemoryInfoEx env s₁ with
    | mk r s₂ =>
        rw [hrun] at hboth
        cases r with
        | ok u => exact ⟨e, s₂, rfl, hboth⟩
        | error e' => exact ⟨e', s₂, rfl, hboth⟩

/-- `copy_bin_to_hbm` may have obtained a buffer when it raises. -/
theorem copyBinToHbm_cases (dataSize : Nat) (s : Api) :
    (∃ p s', copyBinToHbm env dataSize s = (.ok p, s') ∧ Obtains s s' p) ∨
      ∃ e s', copyBinToHbm env dataSize s = (.error e, s') ∧
        (SameBuffers s s' ∨ ∃ p, Obtains s s' p) := by
  unfold copyBinToHbm
  rw [PyM.bind_apply]
  rcases hbmMalloc_cases env dataSize s with
    ⟨p, s₁, hmalloc, hobtains⟩ | ⟨e, s₁, hmalloc, hsame⟩
  · rw [hmalloc]
    dsimp only
    rw [PyM.bind_apply]
    have hcopy : SameBuffers s₁ (memcpy env p dataSize 0 s₁).2 := same_memcpy p dataSize s₁
    cases hrun : memcpy env p dataSize 0 s₁ with
    | mk r s₂ =>
        rw [hrun] at hcopy
        cases r with
        | ok u => exact Or.inl ⟨p, s₂, rfl, hobtains.same hcopy⟩
        | error e => exact Or.inr ⟨e, s₂, rfl, Or.inr ⟨p, hobtains.same hcopy⟩⟩
  · rw [hmalloc]
    exact Or.inr ⟨e, s₁, rfl, Or.inl hsame⟩

/-- `free` returns if the buffer was freed. -/
theorem free_cases (p : Nat) (s : Api) :
    ∃ r, free env p s = (r, called env (.rtFree p) s) ∧
      (env.code s.calls.length = 0 → r = .ok ()) := by
  rcases callChecked_cases env (.rtFree p) "" s with ⟨_, hcall⟩ | ⟨hcode, e, _, hcall⟩
  · exact ⟨.ok (), hcall, fun _ => rfl⟩
  · exact ⟨.error e, hcall, fun h => absurd h hcode⟩

end Buffers

end RtsApi

end HwEfat.Main
