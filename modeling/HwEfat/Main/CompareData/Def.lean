/-
  HwEfat.Main.CompareData.Def — `CompareData` of `compare_data.py`.

  Arrays are flat, their numbers are exact, and `astype(np.float32)` leaves them as they
  are.  What is only printed, or saved as an error report, is left out.
-/
import HwEfat.Lib.Extended
import HwEfat.Lib.Python

namespace HwEfat.Main

open HwEfat.Lib (Extended positionsWhere readAt)

variable {K : Type} [Field K] [LinearOrder K]

/-- The arrays, and the two error thresholds. -/
structure CompareData (K : Type) where
  realData : List (Extended K)
  dataCompare : List (Extended K)
  errThr : K × K

namespace CompareData

/-- `result, error_percent, max_error` -/
structure Verdict (K : Type) where
  result : String
  errorPercent : K
  maxError : K

/-- The error list: positions and relative differences. -/
structure ErrList (K : Type) where
  errIdx : List Nat
  errDiff : List (Extended K)

/-- One element of `_cal_relative_diff_np`. -/
def relativeDiff (diffThd : K) (real expect : Extended K) : Extended K :=
  let uintData := (real.sub expect).abs
  let maxData := real.abs.maximum expect.abs
  let diffData := (1 / 2 ^ 14) / diffThd
  let dataAdd := (maxData.maximum (.fin diffData)).add (.fin (10 / 10 ^ 10))
  if uintData.lt (.fin diffThd) then uintData else uintData.div dataAdd

/-- The relative difference of finite numbers. -/
def finiteDiff (diffThd a b : K) : K :=
  if |a - b| < diffThd then |a - b|
  else |a - b| / (max (max |a| |b|) ((1 / 2 ^ 14) / diffThd) + 10 / 10 ^ 10)

/-- `_cal_relative_diff_np` -/
def calRelativeDiffNp (realData expectData : List (Extended K)) (diffThd : K) :
    List (Extended K) :=
  List.zipWith (relativeDiff diffThd) realData expectData

/-- `_get_data_size` -/
def getDataSize (self : CompareData K) : Nat × Nat × Nat :=
  let start := 0
  let last := self.realData.length - 1
  let realDataSize := if last ≠ start then last - start + 1 else 1
  (start, last, realDataSize)

/-- `_get_error_percent` -/
def getErrorPercent (self : CompareData K) (diffAbs : List (Extended K)) (diffThd maxDiffHd : K)
    (splitCount : Nat) (pctThd : K) : String × ErrList K × K :=
  let diffIndex := positionsWhere (diffAbs.map fun diff => (Extended.fin 0).lt diff)
  let rdiff := calRelativeDiffNp (readAt self.realData diffIndex)
    (readAt self.dataCompare diffIndex) diffThd
  let errDiff := rdiff.filter fun diff => (Extended.fin diffThd).lt diff
  let errIdx := readAt diffIndex
    (positionsWhere (rdiff.map fun diff => (Extended.fin diffThd).lt diff))
  let fulfillNum : K := (splitCount : K) - (errDiff.length : K)
  let fulfillPercent := fulfillNum / (splitCount : K)
  let result := if fulfillPercent ≥ 1 - pctThd then "Pass" else "Failed"
  let result := match Lib.pyMax errDiff with
    | .ok maxError => if (Extended.fin maxDiffHd).le maxError then "Failed" else result
    -- There is no error.
    | .error _ => result
  (result, ⟨errIdx, errDiff⟩, fulfillPercent * 100)

/-- `_get_compare_result` -/
def getCompareResult (self : CompareData K) : Verdict K :=
  let (diffThd, pctThd) := self.errThr
  let maxDiffHd : K := 1 / 10
  if self.realData.length ≠ self.dataCompare.length then
    { result := "Failed", errorPercent := 0, maxError := 0 }
  else
    let (_, _, realDataSize) := self.getDataSize
    let diffAbs := List.zipWith (fun real expect => (real.sub expect).abs) self.realData
      self.dataCompare
    let (result, _, errorPercent) := self.getErrorPercent diffAbs diffThd maxDiffHd realDataSize
      pctThd
    { result, errorPercent, maxError := 0 }

/-- `compare` -/
def compare (errThr : K × K) (npuOutput cpuOutput : List (Extended K)) : Verdict K :=
  if npuOutput.length = 0 ∧ npuOutput.length = cpuOutput.length then
    { result := "Pass", errorPercent := 0, maxError := 0 }
  else
    getCompareResult { realData := npuOutput, dataCompare := cpuOutput, errThr }

end CompareData

end HwEfat.Main
