/-
  HwEfat.Aicpu.Sharder — `CpuKernelUtils::ParallelFor` and the two sharders behind it
  (`host_sharder.cc` with `eigen_threadpool.cc`, `device_sharder.cc`): hand out the
  units of work `[0, total)` in ranges.

  `ParallelFor` of a sharder returns nothing.  The device sharder always has a way to
  get the work done; the host sharder does without it when there is no thread pool, or
  when it does not like an argument.  `CpuKernelUtils::ParallelFor` returns
  `KERNEL_STATUS_OK` all the same.

  The thread pool of Eigen and the function of `libaicpu_sharder.so` are outside this
  repository: they are in `Platform`, with what is known of them, that they partition.

  Main result: `parallel_for_partition_iff` — a success means that the work is done
  exactly if the sharder is the device one, or there is a thread pool and the arguments
  are positive.
-/
import Mathlib.Algebra.Order.Field.Rat
import HwEfat.Aicpu.Basic

namespace HwEfat.Aicpu

namespace Sharding

/-! ## §1. Ranges. -/

/-- How often a unit is in one of the ranges. -/
def hits (ranges : List (Int64 × Int64)) (unit : Int) : Nat :=
  ranges.countP fun r => r.1.toInt ≤ unit ∧ unit < r.2.toInt

/-- Every unit of `[0, total)` is processed once, and nothing else. -/
def Partition (ranges : List (Int64 × Int64)) (total : Int64) : Prop :=
  ∀ unit : Int, hits ranges unit = if 0 ≤ unit ∧ unit < total.toInt then 1 else 0

/-- One range does it. -/
theorem partition_single (total : Int64) : Partition [(0, total)] total := by
  intro unit
  show (List.countP _ [(0, total)]) = _
  rw [List.countP_singleton]
  have hzero : (0 : Int64).toInt = 0 := rfl
  simp only [hzero, decide_eq_true_eq]

/-- Doing nothing does not. -/
theorem not_partition_nil {total : Int64} (h : 0 < total.toInt) : ¬ Partition [] total := by
  intro hpart
  have hfirst := hpart 0
  rw [if_pos ⟨Int.le_refl 0, h⟩] at hfirst
  cases hfirst

/-! ## §2. The thread pool. -/

/-- What is outside the repository. -/
structure Platform where
  /-- `get_nprocs()` -/
  getNprocs : Int32
  /-- `static_cast<int64_t>(static_cast<Eigen::Index>(total))` -/
  throughIndex : Int64 → Int64
  /-- `threadpool_device_->parallelFor`, by total and cost: the ranges it hands out. -/
  eigenParallelFor : Int64 → ℚ → List (Int64 × Int64)
  eigen_partition : ∀ total cost, 0 < total.toInt → Partition (eigenParallelFor total cost) total
  /-- `ParallelFor` of the shared object, if both are there. -/
  deviceParallelFor : Option (Int64 → Int64 → List (Int64 × Int64))
  device_partition : ∀ f, deviceParallelFor = some f →
    ∀ total perUnitSize, 0 < total.toInt → Partition (f total perUnitSize) total

/-- `init_flag_` and `core_num_` -/
structure EigenThreadPool where
  initFlag : Bool
  coreNum : Int32
  positive : initFlag = true → 0 < coreNum.toInt

namespace EigenThreadPool

/-- Before the first call. -/
def uninitialised : EigenThreadPool := ⟨false, 0, nofun⟩

def kTaskSize : ℚ := 40000
def kMaxOverShardingFactor : ℚ := 4
def kTotalCostFactor : ℚ := 210000
def kMaxTaskSize : ℚ := kTaskSize * kMaxOverShardingFactor

/-- `GetInstance`: whether there is one, and the statics after the call. -/
def getInstance (P : Platform) (pool : EigenThreadPool) : Bool × EigenThreadPool :=
  if hinit : pool.initFlag then (true, pool)
  else if hcores : P.getNprocs.toInt ≤ 0 then
    (false, ⟨pool.initFlag, P.getNprocs, fun h => absurd h hinit⟩)
  else (true, ⟨true, P.getNprocs, fun _ => Int.not_le.mp hcores⟩)

/-- `per_unit_cost` -/
def perUnitCost (pool : EigenThreadPool) (total perUnitSize : Int64) : ℚ :=
  if total ≤ perUnitSize then
    -- use the current thread to process the task
    1 * kTaskSize / total.toInt
  else if perUnitSize ≤ total / pool.coreNum.toInt64 then
    -- run tasks with the maximum number of threads
    if 1 * kTotalCostFactor / total.toInt < 1 * kMaxTaskSize * pool.coreNum.toInt / total.toInt then
      1 * kMaxTaskSize * pool.coreNum.toInt / total.toInt
    else 1 * kTotalCostFactor / total.toInt
  else
    -- the task is fragmented based on the number of data slices.
    1 * kMaxTaskSize / perUnitSize.toInt

/-- `ParallelFor`: the ranges passed to `work`; `work` says whether it is not null. -/
def parallelFor (P : Platform) (pool : EigenThreadPool) (total perUnitSize : Int64) (work : Bool) :
    List (Int64 × Int64) :=
  if total ≤ 0 || !work || perUnitSize ≤ 0 then []
  else if P.throughIndex total ≠ total then []
  else P.eigenParallelFor total (pool.perUnitCost total perUnitSize)

end EigenThreadPool

/-! ## §3. The sharders. -/

/-- The two sharders. -/
inductive Sharder where
  | host
  | device
  deriving Repr, DecidableEq

/-- `HostSharder::ParallelFor` -/
def hostParallelFor (P : Platform) (pool : EigenThreadPool) (total perUnitSize : Int64)
    (work : Bool) : List (Int64 × Int64) × EigenThreadPool :=
  let (found, pool) := EigenThreadPool.getInstance P pool
  if !found then ([], pool) else (pool.parallelFor P total perUnitSize work, pool)

/-- `DeviceSharder::ParallelFor`, of a `work` that is not null. -/
def deviceParallelFor (P : Platform) (total perUnitSize : Int64) : List (Int64 × Int64) :=
  match P.deviceParallelFor with
  | some parallelFor => parallelFor total perUnitSize
  | none => [(0, total)]

/-- `ParallelFor` of a sharder. -/
def Sharder.parallelFor (P : Platform) (pool : EigenThreadPool) (total perUnitSize : Int64)
    (work : Bool) : Sharder → List (Int64 × Int64) × EigenThreadPool
  | .host => hostParallelFor P pool total perUnitSize work
  | .device => (deviceParallelFor P total perUnitSize, pool)

/-- A `Device`; its sharder is null if it could not be allocated. -/
structure Device where
  sharder : Option Sharder
  deriving Repr, DecidableEq

/-- `CpuKernelUtils::ParallelFor`: the status, the ranges passed to `work`, the statics. -/
def parallelFor (P : Platform) (pool : EigenThreadPool) (device : Option Device)
    (total perUnitSize : Int64) (work : Bool) :
    UInt32 × List (Int64 × Int64) × EigenThreadPool :=
  match device with
  | none => (KERNEL_STATUS_INNER_ERROR, [], pool)
  | some d =>
      match d.sharder with
      | none => (KERNEL_STATUS_INNER_ERROR, [], pool)
      | some sharder =>
          (KERNEL_STATUS_OK, sharder.parallelFor P pool total perUnitSize work)

/-! ## §4. When the work is done. -/

section Done

variable {P : Platform} {pool : EigenThreadPool} {total perUnitSize : Int64}

/-- There is a thread pool: from an earlier call, or there are cores for it. -/
def EigenThreadPool.Available (P : Platform) (pool : EigenThreadPool) : Prop :=
  pool.initFlag = true ∨ 0 < P.getNprocs.toInt

/-- When there is a thread pool. -/
theorem EigenThreadPool.getInstance_iff :
    (EigenThreadPool.getInstance P pool).1 = true ↔ pool.Available P := by
  unfold EigenThreadPool.getInstance EigenThreadPool.Available
  by_cases hinit : pool.initFlag = true
  · simp [hinit]
  · by_cases hcores : P.getNprocs.toInt ≤ 0
    · simp [hinit, hcores]
    · simp [hinit, hcores]
      omega

/-- The early returns of the thread pool. -/
theorem EigenThreadPool.parallelFor_eq (htotal : 0 < total.toInt) :
    pool.parallelFor P total perUnitSize true =
      if 0 < perUnitSize.toInt ∧ P.throughIndex total = total then
        P.eigenParallelFor total (pool.perUnitCost total perUnitSize)
      else [] := by
  have hpos : ¬ total ≤ 0 := by
    rw [Int64.le_iff_toInt_le]
    exact Int.not_le.mpr htotal
  unfold EigenThreadPool.parallelFor
  by_cases hunit : perUnitSize ≤ 0
  · have hneg : ¬ 0 < perUnitSize.toInt := Int.not_lt.mpr (Int64.le_iff_toInt_le.mp hunit)
    simp [hpos, hunit, hneg]
  · have hunit' : 0 < perUnitSize.toInt := by
      rw [Int64.le_iff_toInt_le] at hunit
      exact Int.not_le.mp hunit
    simp [hpos, hunit, hunit']

/-- On the host the work is done exactly if nothing returns early. -/
theorem host_partition_iff (htotal : 0 < total.toInt) :
    Partition (hostParallelFor P pool total perUnitSize true).1 total ↔
      pool.Available P ∧ 0 < perUnitSize.toInt ∧ P.throughIndex total = total := by
  unfold hostParallelFor
  rw [← EigenThreadPool.getInstance_iff]
  generalize EigenThreadPool.getInstance P pool = out
  obtain ⟨found, pool'⟩ := out
  -- No thread pool, or one with checks of its own.
  cases found with
  | false => simpa using not_partition_nil htotal
  | true =>
      simp only [Bool.not_true, Bool.false_eq_true, if_false, true_and]
      rw [EigenThreadPool.parallelFor_eq htotal]
      split_ifs with hargs
      · exact ⟨fun _ => hargs, fun _ => P.eigen_partition _ _ htotal⟩
      · exact ⟨fun h => absurd h (not_partition_nil htotal), fun h => absurd h hargs⟩

/-- On the device it always is. -/
theorem device_partition (htotal : 0 < total.toInt) :
    Partition (deviceParallelFor P total perUnitSize) total := by
  unfold deviceParallelFor
  cases hf : P.deviceParallelFor with
  | none => exact partition_single total
  | some f => exact P.device_partition f hf total perUnitSize htotal

/-- **What `KERNEL_STATUS_OK` of `ParallelFor` means.**  It means that the units of
`[0, total)` have been processed, each of them once, exactly if the sharder of the
context is not the host one, or if there is a thread pool, `perUnitSize` is positive
and `total` is an index of Eigen. -/
theorem parallel_for_partition_iff (P : Platform) (pool : EigenThreadPool)
    (device : Option Device) (total perUnitSize : Int64) (htotal : 0 < total.toInt) :
    ((parallelFor P pool device total perUnitSize true).1 = KERNEL_STATUS_OK →
      Partition (parallelFor P pool device total perUnitSize true).2.1 total) ↔
    (device = some ⟨some .host⟩ →
      pool.Available P ∧ 0 < perUnitSize.toInt ∧ P.throughIndex total = total) := by
  have hne : KERNEL_STATUS_INNER_ERROR ≠ KERNEL_STATUS_OK := by decide
  match device with
  | none => exact ⟨fun _ h => by simp at h, fun _ h => absurd h hne⟩
  | some ⟨none⟩ => exact ⟨fun _ h => by simp at h, fun _ h => absurd h hne⟩
  | some ⟨some .device⟩ =>
      exact ⟨fun _ h => by simp at h, fun _ _ => device_partition htotal⟩
  | some ⟨some .host⟩ =>
      show (KERNEL_STATUS_OK = KERNEL_STATUS_OK →
        Partition (hostParallelFor P pool total perUnitSize true).1 total) ↔ _
      rw [host_partition_iff htotal]
      exact ⟨fun h _ => h rfl, fun h _ => h rfl⟩

end Done

/-! ## One range for all. -/

/-- Four cores, no shared object; everything goes to one thread. -/
def oneThread : Platform where
  getNprocs := 4
  throughIndex total := total
  eigenParallelFor total _ := [(0, total)]
  eigen_partition total _ _ := partition_single total
  deviceParallelFor := none
  device_partition := nofun

/-- `parallel_for_partition_iff` on ten units for the host, at most three in a range. -/
theorem parallel_for_partition_iff_ten :
    ((parallelFor oneThread .uninitialised (some ⟨some .host⟩) 10 3 true).1 = KERNEL_STATUS_OK →
      Partition (parallelFor oneThread .uninitialised (some ⟨some .host⟩) 10 3 true).2.1 10) ↔
    (some (Device.mk (some .host)) = some ⟨some .host⟩ →
      EigenThreadPool.uninitialised.Available oneThread ∧ 0 < (3 : Int64).toInt ∧
        oneThread.throughIndex 10 = 10) :=
  parallel_for_partition_iff oneThread .uninitialised (some ⟨some .host⟩) 10 3 (by decide)

/-- Ten units, none in a range: a success, and nothing is done. -/
theorem zero_per_unit_skipped :
    ¬ ((parallelFor oneThread .uninitialised (some ⟨some .host⟩) 10 0 true).1 = KERNEL_STATUS_OK →
      Partition (parallelFor oneThread .uninitialised (some ⟨some .host⟩) 10 0 true).2.1 10) := by
  intro h
  exact absurd (h rfl 0) (by decide +kernel)

end Sharding

end HwEfat.Aicpu
