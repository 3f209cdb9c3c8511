/-
  HwEfat.Main.RtsApi.Retry — how often `memcpy` is tried.

  A failing attempt is repeated up to three times, unless its code cannot be decoded: the
  simulator "ca" may give a type that the table of codes does not have, and the `KeyError` of the
  lookup is not caught.

  Main result: `memcpy_retries_iff`.
-/
import HwEfat.Main.RtsApi.Codes

namespace HwEfat.Main

open HwEfat.Lib (PyError PyM)

namespace RtsApi

/-! ## §1. Attempts. -/

section Attempts

variable {env : RtsEnv} {p size : Nat} {s : Api}

/-- The code of the `i`-th call from here on. -/
def codeAt (env : RtsEnv) (s : Api) (i : Nat) : UInt64 := env.code (s.calls.length + i)

/-- The objects after so many attempts. -/
def attempted (env : RtsEnv) (p size : Nat) (s : Api) (n : Nat) : Api :=
  { s with calls := s.calls ++
      (List.range n).map fun i => (RtCall.rtMemcpy p size, codeAt env s i) }

/-- How the attempts end, `k` after the first one. -/
inductive Ends (env : RtsEnv) (s : Api) (retries k : Nat) : Except PyError Unit → Prop where
  | returned (hcode : codeAt env s k = 0) : Ends env s retries k (.ok ())
  | undecodable (key : String) (hcode : codeAt env s k ≠ 0)
      (hdec : ¬ Decodable s.camodel (codeAt env s k).toNat) :
      Ends env s retries k (.error (.keyError key))
  | failed (m : String) (hcode : codeAt env s k ≠ 0)
      (hdec : Decodable s.camodel (codeAt env s k).toNat) (hlast : k = retries) :
      Ends env s retries k (.error (.runtimeError m))

theorem memcpyOnce_apply : memcpyOnce env p size s
    = (.ok (parseError s.camodel (codeAt env s 0).toNat ""), attempted env p size s 1) := rfl

theorem codeAt_attempted (n i : Nat) :
    codeAt env (attempted env p size s n) i = codeAt env s (n + i) := by
  unfold codeAt attempted
  dsimp only
  rw [List.length_append, List.length_map, List.length_range, Nat.add_assoc]

theorem attempted_attempted (n k : Nat) :
    attempted env p size (attempted env p size s n) k = attempted env p size s (n + k) := by
  have hcodes : ∀ i, codeAt env (attempted env p size s n) i = codeAt env s (n + i) :=
    codeAt_attempted n
  unfold attempted at hcodes ⊢
  dsimp only
  rw [List.append_assoc, List.range_add, List.map_append, List.map_map]
  congr 3
  refine List.map_congr_left fun i _ => ?_
  rw [Function.comp_apply, ← hcodes i]

/-- **The attempts of `memcpy`**: all but the last one have failed and could be decoded. -/
theorem memcpyRetries_spec (env : RtsEnv) (p size retries : Nat) (s : Api) :
    ∃ k ≤ retries, (memcpyRetries env p size retries s).2 = attempted env p size s (k + 1) ∧
      (∀ i < k, codeAt env s i ≠ 0 ∧ Decodable s.camodel (codeAt env s i).toNat) ∧
      Ends env s retries k (memcpyRetries env p size retries s).1 := by
  induction retries generalizing s with
  | zero =>
      refine ⟨0, le_refl 0, ?_⟩
      unfold memcpyRetries
      rw [HwEfat.Lib.PyM.bind_apply, memcpyOnce_apply]
      dsimp only
      by_cases hcode : codeAt env s 0 = 0
      · rw [hcode]
        exact ⟨rfl, fun i hi => absurd hi (Nat.not_lt_zero i), .returned hcode⟩
      · rcases parseError_of_ne s.camodel ""
            (fun h => hcode (toNat_eq_zero.mp h)) with ⟨hdec, m, hm⟩ | ⟨hdec, key, hkey⟩
        · rw [hm]
          exact ⟨rfl, fun i hi => absurd hi (Nat.not_lt_zero i), .failed _ hcode hdec rfl⟩
        · rw [hkey]
          exact ⟨rfl, fun i hi => absurd hi (Nat.not_lt_zero i), .undecodable key hcode hdec⟩
  | succ retries ih =>
      unfold memcpyRetries
      rw [HwEfat.Lib.PyM.bind_apply, memcpyOnce_apply]
      dsimp only
      by_cases hcode : codeAt env s 0 = 0
      · rw [hcode]
        exact ⟨0, Nat.zero_le _, rfl, fun i hi => absurd hi (Nat.not_lt_zero i), .returned hcode⟩
      · rcases parseError_of_ne s.camodel ""
            (fun h => hcode (toNat_eq_zero.mp h)) with ⟨hdec, m, hm⟩ | ⟨hdec, key, hkey⟩
        · -- Tried again, from the objects after the first attempt.
          obtain ⟨k, hk, hstate, hbefore, hends⟩ := ih (attempted env p size s 1)
          rw [hm]
          refine ⟨k + 1, Nat.succ_le_succ hk, ?_, ?_, ?_⟩
          · refine hstate.trans ?_
            rw [attempted_attempted, Nat.add_comm 1]
          · intro i hi
            cases i with
            | zero => exact ⟨hcode, hdec⟩
            | succ i =>
                have hlater := hbefore i (by omega)
                rw [codeAt_attempted, Nat.add_comm 1] at hlater
                exact hlater
          · show Ends env s (retries + 1) (k + 1)
              (memcpyRetries env p size retries (attempted env p size s 1)).1
            generalize (memcpyRetries env p size retries (attempted env p size s 1)).1 = r at hends
            cases hends with
            | returned hlast =>
                rw [codeAt_attempted, Nat.add_comm 1] at hlast
                exact .returned hlast
            | undecodable key hlast hundec =>
                rw [codeAt_attempted, Nat.add_comm 1] at hlast hundec
                exact .undecodable key hlast hundec
            | failed m hlast hdec' hk' =>
                rw [codeAt_attempted, Nat.add_comm 1] at hlast hdec'
                exact .failed m hlast hdec' (by omega)
        · rw [hkey]
          exact ⟨0, Nat.zero_le _, rfl, fun i hi => absurd hi (Nat.not_lt_zero i),
            .undecodable key hcode hdec⟩

end Attempts

/-! ## §2. `memcpy`. -/

/-- The semantics of the retries, for the codes from here on: `r` is how `memcpy` ends, after
so many attempts. -/
structure Retries (env : RtsEnv) (s : Api) (r : Except PyError Unit) (attempts : Nat) : Prop where
  atMost : 1 ≤ attempts ∧ attempts ≤ 4
  returns : r = .ok () ↔ ∃ i < 4, codeAt env s i = 0
  stops : ∀ i, i + 1 < attempts → codeAt env s i ≠ 0
  raises : r ≠ .ok () → ∃ m, r = .error (.runtimeError m)

/-- `parse_error` returns for 0, and raises a `RuntimeError` for every other code. -/
structure Parses (camodel : Bool) (code : UInt64) (extraInfo : String) : Prop where
  returns : parseError camodel code.toNat extraInfo = .ok () ↔ code = 0
  raises : code ≠ 0 → ∃ m, parseError camodel code.toNat extraInfo = .error (.runtimeError m)

section Memcpy

variable (env : RtsEnv) (p size : Nat) (s : Api)

/-- **The retries are as described exactly if the codes of the attempts can be decoded**, and
so are the errors. -/
theorem memcpy_retries_iff :
    (Retries env s (memcpy env p size 0 s).1
          ((memcpy env p size 0 s).2.calls.length - s.calls.length) ↔
        ∀ i < 4, (∀ j ≤ i, codeAt env s j ≠ 0) →
          Decodable s.camodel (codeAt env s i).toNat) ∧
      ∀ camodel code extraInfo, Parses camodel code extraInfo ↔
        code = 0 ∨ Decodable camodel code.toNat := by
  refine ⟨?_, fun camodel code extraInfo => ?_⟩
  · obtain ⟨k, hk, hstate, hbefore, hends⟩ := memcpyRetries_spec env p size 3 s
    have hcount : (memcpy env p size 0 s).2.calls.length - s.calls.length = k + 1 := by
      unfold memcpy
      rw [hstate]
      unfold attempted
      dsimp only
      rw [List.length_append, List.length_map, List.length_range, Nat.add_sub_cancel_left]
    rw [hcount]
    have hrun : (memcpy env p size 0 s).1 = (memcpyRetries env p size 3 s).1 := rfl
    rw [hrun]
    generalize (memcpyRetries env p size 3 s).1 = r at hends
    have hstops : ∀ i, i + 1 < k + 1 → codeAt env s i ≠ 0 := fun i hi =>
      (hbefore i (Nat.lt_of_succ_lt_succ hi)).1
    -- The attempts end in one of three ways, and only one of them is not what the retry is for.
    cases hends with
    | returned hcode =>
        refine iff_of_true ⟨by omega, iff_of_true rfl ⟨k, by omega, hcode⟩, hstops, ?_⟩ ?_
        · exact fun h => absurd rfl h
        · intro i _ hall
          refine (hbefore i ?_).2
          by_contra hge
          exact hall k (by omega) hcode
    | undecodable key hcode hdec =>
        -- The `KeyError` of the decoding leaves the loop.
        refine iff_of_false (fun h => ?_) fun h => hdec (h k (by omega) fun j hj => ?_)
        · obtain ⟨m, hm⟩ := h.raises (by simp)
          cases hm
        · rcases Nat.lt_or_eq_of_le hj with hlt | rfl
          · exact (hbefore j hlt).1
          · exact hcode
    | failed m hcode hdec hlast =>
        -- All attempts are made, and the last code is raised.
        subst hlast
        have hnone : ∀ i < 4, codeAt env s i ≠ 0 := by
          intro i hi
          rcases Nat.lt_or_eq_of_le (Nat.le_of_lt_succ hi) with hlt | rfl
          · exact (hbefore i hlt).1
          · exact hcode
        refine iff_of_true ⟨by omega, iff_of_false (by simp) ?_, hstops, fun _ => ⟨m, rfl⟩⟩ ?_
        · rintro ⟨i, hi, hzero⟩
          exact hnone i hi hzero
        · intro i hi _
          rcases Nat.lt_or_eq_of_le (Nat.le_of_lt_succ hi) with hlt | rfl
          · exact (hbefore i hlt).2
          · exact hdec
  · by_cases hcode : code = 0
    · subst hcode
      exact iff_of_true ⟨iff_of_true rfl rfl, fun h => absurd rfl h⟩ (Or.inl rfl)
    · have hne : code.toNat ≠ 0 := fun h => hcode (toNat_eq_zero.mp h)
      have hreturns : parseError camodel code.toNat extraInfo = .ok () ↔ code = 0 :=
        parseError_eq_ok.trans toNat_eq_zero
      rcases parseError_of_ne camodel extraInfo hne with ⟨hdec, hraised⟩ | ⟨hdec, key, hkey⟩
      · exact iff_of_true ⟨hreturns, fun _ => hraised⟩ (Or.inr hdec)
      · refine iff_of_false (fun h => ?_) fun h => h.elim hcode hdec
        obtain ⟨m, hm⟩ := h.raises hcode
        rw [hkey] at hm
        cases hm

end Memcpy

/-- A simulator that fails once, with a type that has no names. -/
def onceUnknown : RtsEnv where
  code n := if n = 0 then 0x07180001 else 0
  readFile _ := .error (.osError "No such file or directory")
  pathExists _ := false
  realpath path := path
  loads _ := false

/-- The second attempt would succeed, but the first one ends `memcpy` with a `KeyError`. -/
theorem unknown_type_not_retried :
    memcpy onceUnknown 1 32 0 { camodel := true }
      = (.error (.keyError "1572864"),
        { camodel := true, calls := [(.rtMemcpy 1 32, 0x07180001)] }) ∧
    codeAt onceUnknown { camodel := true } 1 = 0 ∧
    ¬ Retries onceUnknown { camodel := true } (memcpy onceUnknown 1 32 0 { camodel := true }).1
      ((memcpy onceUnknown 1 32 0 { camodel := true }).2.calls.length - 0) := by
  have hrun : memcpy onceUnknown 1 32 0 { camodel := true }
      = (.error (.keyError "1572864"),
        { camodel := true, calls := [(.rtMemcpy 1 32, 0x07180001)] }) := by rfl
  refine ⟨hrun, rfl, fun h => ?_⟩
  obtain ⟨m, hm⟩ := h.raises (by rw [hrun]; simp)
  rw [hrun] at hm
  cases hm

end RtsApi

end HwEfat.Main
