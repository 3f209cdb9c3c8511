/-
  HwEfat.Main.RtsApi.Codes — what becomes of the codes of the library.

  `parse_error` returns for the code 0.  Every other code is raised: as a `RuntimeError`, unless
  the simulator "ca" gives a type that the table of codes does not have.  A call that is
  checked is added to the calls in any case.
-/
import HwEfat.Main.RtsApi.Def

namespace HwEfat.Main

open HwEfat.Lib (PyError PyM)

namespace RtsApi

open RtsInfo

/-! ## §1. Decoding. -/

/-- The code has a name, or the lack of one is noticed. -/
def Decodable (camodel : Bool) (rtError : Nat) : Prop :=
  camodel = true → rtError &&& 0x0000FFFF = 3 ∨
    (RT_ERROR_CODE_DICT.lookup (rtError &&& 0x00FF0000)).isSome = true

section Codes

variable {camodel : Bool} {rtError : Nat} {extraInfo : String}

/-- A type that is not in the table is a `KeyError`. -/
theorem parseErrorCode_cases (camodel : Bool) (errorType errorCode : Nat) :
    (((camodel = true ∧ errorCode = 3) ∨ (RT_ERROR_CODE_DICT.lookup errorType).isSome = true) ∧
        ((∃ name, parseErrorCode camodel errorType errorCode = .ok name) ∨
          ∃ m, parseErrorCode camodel errorType errorCode = .error (.runtimeError m))) ∨
      (¬ (camodel = true ∧ errorCode = 3) ∧
        (RT_ERROR_CODE_DICT.lookup errorType).isSome = false ∧
        ∃ key, parseErrorCode camodel errorType errorCode = .error (.keyError key)) := by
  unfold parseErrorCode
  by_cases hthree : camodel = true ∧ errorCode = 3
  · obtain ⟨rfl, rfl⟩ := hthree
    exact Or.inl ⟨Or.inl ⟨rfl, rfl⟩, Or.inl ⟨_, rfl⟩⟩
  · have hcond : ¬ (camodel && errorCode == 3) = true := by
      rw [Bool.and_eq_true, beq_iff_eq]
      exact hthree
    rw [if_neg hcond]
    cases RT_ERROR_CODE_DICT.lookup errorType with
    | none => exact Or.inr ⟨hthree, rfl, _, rfl⟩
    | some names =>
        refine Or.inl ⟨Or.inr rfl, ?_⟩
        dsimp only
        cases names[errorCode]? with
        | some name => exact Or.inl ⟨name, rfl⟩
        | none => exact Or.inr ⟨_, rfl⟩

/-- **Every other code is raised**, and as a `RuntimeError` if it can be decoded. -/
theorem parseError_of_ne (camodel : Bool) (extraInfo : String) (hne : rtError ≠ 0) :
    (Decodable camodel rtError ∧
        ∃ m, parseError camodel rtError extraInfo = .error (.runtimeError m)) ∨
      (¬ Decodable camodel rtError ∧
        ∃ key, parseError camodel rtError extraInfo = .error (.keyError key)) := by
  have hfalse : camodel = false → Decodable camodel rtError := by
    rintro rfl htrue
    cases htrue
  unfold parseError
  rw [if_neg hne]
  -- Without the model, an unknown magic number or type is told and raised.
  by_cases hmagic : rtError &&& 0xFF000000 ≠ 0x07000000 ∧ camodel = false
  · rw [if_pos hmagic]
    exact Or.inl ⟨hfalse hmagic.2, _, rfl⟩
  · rw [if_neg hmagic]
    dsimp only
    by_cases htype : (RT_ERROR_CODE_DICT.lookup (rtError &&& 0x00FF0000)).isNone ∧ camodel = false
    · rw [if_pos htype]
      exact Or.inl ⟨hfalse htype.2, _, rfl⟩
    · rw [if_neg htype]
      rcases parseErrorCode_cases camodel (rtError &&& 0x00FF0000) (rtError &&& 0x0000FFFF) with
        ⟨hknown, hname⟩ | ⟨hthree, hnone, key, hkey⟩
      · refine Or.inl ⟨fun _ => hknown.imp And.right id, ?_⟩
        rcases hname with ⟨name, hname⟩ | ⟨m, hm⟩
        · exact ⟨_, by rw [hname]; rfl⟩
        · exact ⟨m, by rw [hm]; rfl⟩
      · -- With the model neither is checked, and the look-up of the type raises the `KeyError`.
        have hca : camodel = true := by
          by_contra hca
          refine htype ⟨?_, Bool.eq_false_iff.mpr hca⟩
          rw [← Option.not_isSome, hnone]
          rfl
        refine Or.inr ⟨fun hdec => ?_, key, by rw [hkey]; rfl⟩
        rcases hdec hca with hcode | hsome
        · exact hthree ⟨hca, hcode⟩
        · rw [hnone] at hsome
          cases hsome

theorem parseError_eq_ok : parseError camodel rtError extraInfo = .ok () ↔ rtError = 0 := by
  constructor
  · intro h
    by_contra hne
    rcases parseError_of_ne camodel extraInfo hne with
      ⟨_, m, hm⟩ | ⟨_, key, hkey⟩
    · rw [hm] at h
      cases h
    · rw [hkey] at h
      cases h
  · rintro rfl
    rfl

end Codes

/-! ## §2. Calls. -/

section Calls

variable {env : RtsEnv} {call : RtCall} {extraInfo : String} {s : Api}

theorem toNat_eq_zero {code : UInt64} : code.toNat = 0 ↔ code = 0 := by
  rw [← UInt64.toNat_inj, UInt64.toNat_zero]

/-- The object after a call. -/
def called (env : RtsEnv) (call : RtCall) (s : Api) : Api :=
  { s with calls := s.calls ++ [(call, env.code s.calls.length)] }

/-- **A checked call**: it returns if its code is 0, and what it raises otherwise is no
`ValueError`. -/
theorem callChecked_cases (env : RtsEnv) (call : RtCall) (extraInfo : String) (s : Api) :
    (env.code s.calls.length = 0 ∧ callChecked env call extraInfo s = (.ok (), called env call s)) ∨
      (env.code s.calls.length ≠ 0 ∧ ∃ e, (∀ m, e ≠ .valueError m) ∧
        callChecked env call extraInfo s = (.error e, called env call s)) := by
  have hrun : callChecked env call extraInfo s
      = (parseError s.camodel (env.code s.calls.length).toNat extraInfo, called env call s) := rfl
  by_cases hcode : env.code s.calls.length = 0
  · refine Or.inl ⟨hcode, ?_⟩
    rw [hrun, hcode]
    rfl
  · refine Or.inr ⟨hcode, ?_⟩
    rcases parseError_of_ne s.camodel extraInfo fun h => hcode (toNat_eq_zero.mp h) with
      ⟨_, m, hm⟩ | ⟨_, key, hkey⟩
    · exact ⟨.runtimeError m, fun _ => by simp, by rw [hrun, hm]⟩
    · exact ⟨.keyError key, fun _ => by simp, by rw [hrun, hkey]⟩

end Calls

end RtsApi

end HwEfat.Main
