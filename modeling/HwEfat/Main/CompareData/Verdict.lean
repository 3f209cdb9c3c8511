/-
  HwEfat.Main.CompareData.Verdict — when `CompareData.compare` passes, and what that says.

  Only positions at which both numbers are finite can count as errors: an infinite
  difference becomes NaN when it is made relative, and NaN drops out of both filters.  So
  NaN and infinities in the NPU output are passed over where the expected number is finite.

  Main result: `never_passes_bad_iff`.
-/
import HwEfat.Main.CompareData.Def
import Mathlib.Algebra.Order.Ring.Rat
import Mathlib.Tactic.Linarith
import Mathlib.Tactic.NormNum
import Mathlib.Tactic.Positivity

namespace HwEfat.Main

open HwEfat.Lib (Extended positionsWhere readAt)
open HwEfat.Lib.Extended (fin inf nan IsFinite)

namespace CompareData

variable {K : Type} [Field K] [LinearOrder K]

/-! ## §1. Relative differences. -/

/-- A position that counts as an error. -/
def exceeds (diffThd : K) (p : Extended K × Extended K) : Bool :=
  (fin diffThd).lt (relativeDiff diffThd p.1 p.2)

section Differences

variable [IsStrictOrderedRing K] {diffThd : K}

theorem relativeDiff_fin (hthd : 0 < diffThd) (a b : K) :
    relativeDiff diffThd (fin a) (fin b) = fin (finiteDiff diffThd a b) := by
  have hadd : max (max |a| |b|) ((1 / 2 ^ 14) / diffThd) + 10 / 10 ^ 10 ≠ 0 := by
    have hdiff : 0 < (1 / 2 ^ 14) / diffThd := by positivity
    have hmax := hdiff.trans_le (le_max_right (max |a| |b|) _)
    positivity
  unfold relativeDiff finiteDiff
  simp only [Extended.sub_fin, Extended.abs_fin, Extended.maximum_fin, Extended.add_fin,
    Extended.lt_fin, decide_eq_true_eq, Extended.div_fin _ hadd, apply_ite fin]

/-- **Only finite numbers make an error.** -/
theorem exceeds_iff (hthd : 0 < diffThd) {p : Extended K × Extended K} :
    exceeds diffThd p = true
      ↔ ∃ a b, p = (fin a, fin b) ∧ diffThd < finiteDiff diffThd a b := by
  obtain ⟨x, y⟩ := p
  unfold exceeds
  constructor
  · intro h
    cases x with
    | nan => cases y <;> cases h
    | inf negative =>
        cases y with
        | nan => cases h
        | fin b => cases negative <;> cases h
        | inf negative' => cases negative <;> cases negative' <;> cases h
    | fin a =>
        cases y with
        | nan => cases h
        | inf negative => cases negative <;> cases h
        | fin b =>
            dsimp only at h
            rw [relativeDiff_fin hthd, Extended.lt_fin, decide_eq_true_iff] at h
            exact ⟨a, b, rfl, h⟩
  · rintro ⟨a, b, hp, h⟩
    cases hp
    rw [relativeDiff_fin hthd, Extended.lt_fin]
    exact decide_eq_true h

/-- The first filter drops no error. -/
theorem differs_of_exceeds (hthd : 0 < diffThd) {p : Extended K × Extended K}
    (h : exceeds diffThd p = true) : (fin 0).lt (p.1.sub p.2).abs = true := by
  obtain ⟨a, b, rfl, hlt⟩ := (exceeds_iff hthd).mp h
  rw [Extended.sub_fin, Extended.abs_fin, Extended.lt_fin, decide_eq_true_iff, abs_pos]
  intro heq
  have hzero : finiteDiff diffThd a b = 0 := by
    unfold finiteDiff
    rw [heq, abs_zero, if_pos hthd]
  exact absurd (hzero ▸ hlt) hthd.asymm

end Differences

/-! ## §2. The verdict. -/

/-- The numbers of a position, if both are finite. -/
def finitePair : Extended K × Extended K → Option (K × K)
  | (fin a, fin b) => some (a, b)
  | _ => none

/-- The positions at which both numbers are finite. -/
def finitePairs (npu cpu : List (Extended K)) : List (K × K) :=
  (npu.zip cpu).filterMap finitePair

/-- The relative differences above the threshold, where both numbers are finite. -/
def errors (diffThd : K) (npu cpu : List (Extended K)) : List K :=
  ((finitePairs npu cpu).map fun p => finiteDiff diffThd p.1 p.2).filter (diffThd < ·)

/-- No more errors than the thresholds allow. -/
structure FewErrors (errThr : K × K) (npu cpu : List (Extended K)) : Prop where
  fraction : ((errors errThr.1 npu cpu).length : K) ≤ errThr.2 * npu.length
  largest : ∀ diff ∈ errors errThr.1 npu cpu, diff < 1 / 10

theorem pyMax_map_fin {L : Type} [LinearOrder L] (l : List L) :
    Lib.pyMax (l.map fin) = (Lib.pyMax l).map fin := by
  cases l with
  | nil => rfl
  | cons a l =>
      show Except.ok ((l.map fin).foldl max (fin a)) = .ok (fin (l.foldl max a))
      rw [List.foldl_map]
      exact congrArg Except.ok (List.foldl_hom fin Extended.max_fin)

section Verdict

variable [IsStrictOrderedRing K] {errThr : K × K} {diffThd : K}

/-- What exceeds the threshold are the errors. -/
theorem map_exceeds (hthd : 0 < diffThd) (npu cpu : List (Extended K)) :
    ((npu.zip cpu).filter (exceeds diffThd)).map (fun p => relativeDiff diffThd p.1 p.2)
      = (errors diffThd npu cpu).map fin := by
  unfold errors finitePairs
  induction npu.zip cpu with
  | nil => rfl
  | cons p l ih =>
      -- Only finite pairs can exceed the bound.
      by_cases hfin : ∃ a b, p = (fin a, fin b)
      · obtain ⟨a, b, rfl⟩ := hfin
        have hpair : finitePair (fin a, fin b) = some (a, b) := rfl
        rw [List.filterMap_cons_some hpair, List.map_cons]
        by_cases hlt : diffThd < finiteDiff diffThd a b
        · rw [List.filter_cons_of_pos ((exceeds_iff hthd).mpr ⟨a, b, rfl, hlt⟩),
            List.filter_cons_of_pos (by simpa using hlt), List.map_cons, List.map_cons, ih,
            relativeDiff_fin hthd]
        · have hnot : ¬ exceeds diffThd (fin a, fin b) = true := by
            rw [exceeds_iff hthd]
            rintro ⟨a', b', heq, hlt'⟩
            cases heq
            exact hlt hlt'
          rw [List.filter_cons_of_neg hnot, List.filter_cons_of_neg (by simpa using hlt), ih]
      · have hnot : ¬ exceeds diffThd p = true := by
          rw [exceeds_iff hthd]
          rintro ⟨a, b, heq, _⟩
          exact hfin ⟨a, b, heq⟩
        have hnone : finitePair p = none := by
          unfold finitePair
          split
          · next a b => exact absurd ⟨a, b, rfl⟩ hfin
          · rfl
        rw [List.filter_cons_of_neg hnot, List.filterMap_cons_none hnone, ih]

/-- **The error list of `_get_error_percent`** holds the errors: the filters on the way drop
none, and let nothing else through. -/
theorem errDiff_eq (hthd : 0 < diffThd) {npu cpu : List (Extended K)}
    (hlen : npu.length = cpu.length) (maxDiffHd : K) (splitCount : Nat) (pctThd : K) :
    (getErrorPercent ⟨npu, cpu, errThr⟩
        (List.zipWith (fun real expect => (real.sub expect).abs) npu cpu) diffThd maxDiffHd
        splitCount pctThd).2.1.errDiff
      = (errors diffThd npu cpu).map fin := by
  set l := npu.zip cpu with hl
  have hnpu : npu = l.map Prod.fst := (List.map_fst_zip hlen.le).symm
  have hcpu : cpu = l.map Prod.snd := (List.map_snd_zip hlen.ge).symm
  have hdiffs : (List.zipWith (fun real expect => (real.sub expect).abs) npu cpu).map
      (fun diff => (fin 0).lt diff) = l.map fun p => (fin 0).lt (p.1.sub p.2).abs := by
    rw [hl, List.zip_eq_zipWith, List.map_zipWith, List.map_zipWith]
  have hread : calRelativeDiffNp
      (readAt npu (positionsWhere (l.map fun p => (fin 0).lt (p.1.sub p.2).abs)))
      (readAt cpu (positionsWhere (l.map fun p => (fin 0).lt (p.1.sub p.2).abs))) diffThd
        = (l.filter fun p => (fin 0).lt (p.1.sub p.2).abs).map
          fun p => relativeDiff diffThd p.1 p.2 := by
    unfold calRelativeDiffNp
    rw [hnpu, hcpu, Lib.readAt_positionsWhere, Lib.readAt_positionsWhere, List.zipWith_map,
      List.zipWith_self]
  -- A pair that exceeds the bound differs, so the first filter loses none.
  have herrors : (l.filter fun p => (fin 0).lt (p.1.sub p.2).abs).filter (exceeds diffThd)
      = l.filter (exceeds diffThd) := by
    rw [List.filter_filter]
    refine List.filter_congr fun p _ => ?_
    cases hp : exceeds diffThd p with
    | false => rfl
    | true => rw [differs_of_exceeds hthd hp]; rfl
  show List.filter _ (calRelativeDiffNp _ _ diffThd) = _
  dsimp only
  rw [hdiffs, hread, List.filter_map, ← map_exceeds hthd, ← herrors]
  rfl

/-- The verdict, from the error list. -/
theorem result_eq_pass {self : CompareData K} {diffAbs : List (Extended K)} {maxDiffHd : K}
    {splitCount : Nat} {pctThd : K} {errs : List K}
    (herrs : (self.getErrorPercent diffAbs diffThd maxDiffHd splitCount pctThd).2.1.errDiff
      = errs.map fin) :
    (self.getErrorPercent diffAbs diffThd maxDiffHd splitCount pctThd).1 = "Pass"
      ↔ 1 - pctThd ≤ ((splitCount : K) - (errs.length : K)) / (splitCount : K) ∧
        ∀ diff ∈ errs, diff < maxDiffHd := by
  unfold getErrorPercent at herrs ⊢
  dsimp only at herrs ⊢
  rw [herrs, pyMax_map_fin, List.length_map, ← Lib.pyMax_lt_iff]
  have hne : ¬ "Failed" = "Pass" := by decide
  cases hmax : Lib.pyMax errs with
  | error e => simp [Except.map, hne]
  | ok m =>
      simp only [Except.map, Extended.le_fin, decide_eq_true_eq, Except.ok.injEq, forall_eq']
      by_cases hle : maxDiffHd ≤ m
      · rw [if_pos hle]
        exact iff_of_false hne fun h => absurd h.2 hle.not_gt
      · rw [if_neg hle, and_iff_left (not_le.mp hle)]
        simp [hne]

/-- **`compare` passes exactly if there are few errors.** -/
theorem compare_eq_pass (hthd : 0 < errThr.1) {npu cpu : List (Extended K)}
    (hlen : npu.length = cpu.length) :
    (compare errThr npu cpu).result = "Pass" ↔ FewErrors errThr npu cpu := by
  by_cases hempty : npu.length = 0
  · -- Nothing is compared.
    have hnil : errors errThr.1 npu cpu = [] := by
      rw [List.length_eq_zero_iff.mp hempty]
      rfl
    unfold compare
    rw [if_pos ⟨hempty, hlen⟩]
    refine iff_of_true rfl ⟨?_, fun diff hdiff => ?_⟩
    · rw [hnil, hempty, List.length_nil, Nat.cast_zero, mul_zero]
    · rw [hnil] at hdiff
      cases hdiff
  · have hsize : (getDataSize (K := K) ⟨npu, cpu, errThr⟩).2.2 = npu.length := by
      unfold getDataSize
      dsimp only
      split <;> omega
    have hpos : (0 : K) < npu.length := Nat.cast_pos.mpr (Nat.pos_of_ne_zero hempty)
    have hcompare : (compare errThr npu cpu).result
        = (getErrorPercent ⟨npu, cpu, errThr⟩
          (List.zipWith (fun real expect => (real.sub expect).abs) npu cpu) errThr.1 (1 / 10)
          npu.length errThr.2).1 := by
      unfold compare getCompareResult
      rw [if_neg fun h => hempty h.1]
      dsimp only
      rw [if_neg (not_not.mpr hlen), hsize]
    rw [hcompare, result_eq_pass (errDiff_eq hthd hlen _ _ _)]
    refine ⟨fun h => ⟨?_, h.2⟩, fun h => ⟨?_, h.largest⟩⟩
    · have hle := (le_div_iff₀ hpos).mp h.1
      linarith
    · have hle := h.fraction
      rw [le_div_iff₀ hpos]
      linarith

end Verdict

/-- The verdict is one of two. -/
theorem compare_verdict (errThr : K × K) (npu cpu : List (Extended K)) :
    (compare errThr npu cpu).result = "Pass" ∨ (compare errThr npu cpu).result = "Failed" := by
  unfold compare getCompareResult getErrorPercent
  dsimp only
  split
  · exact Or.inl rfl
  · split
    · exact Or.inr rfl
    · have hfraction : ∀ c : Prop, [Decidable c] →
          (if c then "Pass" else "Failed") = "Pass" ∨
            (if c then "Pass" else "Failed") = "Failed" := by
        intro c _
        by_cases hc : c
        · exact Or.inl (if_pos hc)
        · exact Or.inr (if_neg hc)
      split
      · split
        · exact Or.inr rfl
        · exact hfraction _
      · exact hfraction _

/-! ## §3. What a pass says. -/

section Main

variable [IsStrictOrderedRing K]

/-- The data are good: finite where they should be, and within the thresholds. -/
structure GoodData (errThr : K × K) (npu cpu : List (Extended K)) : Prop where
  finite : ∀ p ∈ npu.zip cpu, p.2.IsFinite → p.1.IsFinite
  fraction : (((npu.zip cpu).countP (exceeds errThr.1) : Nat) : K) ≤ errThr.2 * npu.length
  largest : ∀ p ∈ npu.zip cpu, exceeds errThr.1 p = true →
    (fin (1 / 10)).le (relativeDiff errThr.1 p.1 p.2) = false

/-- The NPU output is finite wherever the expected number is. -/
def NpuFinite (npu cpu : List (Extended K)) : Prop :=
  ∀ p ∈ npu.zip cpu, p.2.IsFinite → p.1.IsFinite

/-- Few errors are all that the last two clauses ask for. -/
theorem goodData_of_few {errThr : K × K} {npu cpu : List (Extended K)} (hthd : 0 < errThr.1)
    (hfew : FewErrors errThr npu cpu) (hfinite : NpuFinite npu cpu) :
    GoodData errThr npu cpu := by
  have hmap := map_exceeds hthd npu cpu
  refine ⟨hfinite, ?_, fun p hp hexceeds => ?_⟩
  · have hlength := congrArg List.length hmap
    rw [List.length_map, List.length_map, ← List.countP_eq_length_filter] at hlength
    rw [hlength]
    exact hfew.fraction
  · have hmem : relativeDiff errThr.1 p.1 p.2 ∈ (errors errThr.1 npu cpu).map fin :=
      hmap ▸ List.mem_map_of_mem (f := fun p => relativeDiff errThr.1 p.1 p.2)
        (List.mem_filter.mpr ⟨hp, hexceeds⟩)
    obtain ⟨diff, hdiff, heq⟩ := List.mem_map.mp hmem
    rw [← heq, Extended.le_fin]
    exact decide_eq_false (hfew.largest diff hdiff).not_ge

/-- **A pass never lets bad data through exactly if the NPU output is finite wherever the
expected number is, or the finite numbers alone do not pass.** -/
theorem never_passes_bad_iff (errThr : K × K) (hthd : 0 < errThr.1)
    (npu cpu : List (Extended K)) (hlen : npu.length = cpu.length) :
    ((compare errThr npu cpu).result = "Pass" → GoodData errThr npu cpu)
      ↔ NpuFinite npu cpu ∨
        errThr.2 * npu.length < ((errors errThr.1 npu cpu).length : K) ∨
        ∃ diff ∈ errors errThr.1 npu cpu, 1 / 10 ≤ diff := by
  rw [compare_eq_pass hthd hlen]
  constructor
  · intro h
    by_cases hfew : FewErrors errThr npu cpu
    · exact Or.inl (h hfew).finite
    · right
      by_contra hnone
      rw [not_or, not_lt, not_exists] at hnone
      exact hfew ⟨hnone.1, fun diff hdiff => not_le.mp fun hle => hnone.2 diff ⟨hdiff, hle⟩⟩
  · rintro (hfinite | hmany | ⟨diff, hdiff, hlarge⟩) hfew
    · exact goodData_of_few hthd hfew hfinite
    · exact absurd hfew.fraction hmany.not_ge
    · exact absurd (hfew.largest diff hdiff) hlarge.not_gt

/-- Equal arrays. -/
theorem never_passes_bad_iff_equal :
    ((compare ((1 : ℚ) / 1000, 1 / 1000) [fin 1, inf true] [fin 1, inf true]).result = "Pass" →
        GoodData ((1 : ℚ) / 1000, 1 / 1000) [fin 1, inf true] [fin 1, inf true])
      ↔ NpuFinite [fin (1 : ℚ), inf true] [fin 1, inf true] ∨
        (1 : ℚ) / 1000 * (2 : Nat)
          < ((errors ((1 : ℚ) / 1000) [fin 1, inf true] [fin 1, inf true]).length : ℚ) ∨
        ∃ diff ∈ errors ((1 : ℚ) / 1000) [fin 1, inf true] [fin 1, inf true], 1 / 10 ≤ diff :=
  never_passes_bad_iff ((1 : ℚ) / 1000, 1 / 1000) (by norm_num) [fin 1, inf true]
    [fin 1, inf true] rfl

/-- NaN and an infinity, where one and two are expected. -/
theorem nan_passes :
    (compare ((1 : ℚ) / 1000, 1 / 1000) [nan, inf false] [fin 1, fin 2]).result = "Pass" ∧
      ¬ GoodData ((1 : ℚ) / 1000, 1 / 1000) [nan, inf false] [fin 1, fin 2] := by
  constructor
  · have hlen : [nan, inf false].length = [fin (1 : ℚ), fin 2].length := rfl
    have hnone : errors ((1 : ℚ) / 1000) [nan, inf false] [fin 1, fin 2] = [] := rfl
    refine (compare_eq_pass ?_ hlen).mpr ⟨?_, fun diff hdiff => ?_⟩
    · norm_num
    · rw [hnone]
      norm_num
    · rw [hnone] at hdiff
      cases hdiff
  · intro h
    obtain ⟨x, hx⟩ := h.finite (nan, fin 1) (List.mem_cons_self ..) ⟨1, rfl⟩
    cases hx

end Main

end CompareData

end HwEfat.Main
