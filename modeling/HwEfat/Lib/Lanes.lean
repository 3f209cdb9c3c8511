/-
  HwEfat.Lib.Lanes — the elements that a masked vector instruction works on.

  An instruction with `repeats` works on `repeats * lanes` consecutive elements,
  `lanes` of them at a time; of each such block it works on the elements whose bit is
  set in the mask (`elements`).  Under a mask of the lowest bits these are intervals
  from zero (`elements_full`, `elements_low`), and a length is made up of full blocks
  and a rest (`range_blocks`, `range_div_add_mod`).
-/
import Mathlib.Data.List.Range
import Mathlib.Data.Nat.Bitwise

namespace HwEfat.Lib.Lanes

/-- The lanes whose bit is set. -/
def active (mask lanes : Nat) : List Nat := (List.range lanes).filter mask.testBit

/-- The elements an instruction works on, in order. -/
def elements (mask lanes repeats : Nat) : List Nat :=
  (List.range repeats).flatMap fun k => (active mask lanes).map (lanes * k + ·)

/-- Of the lowest bits, those below `lanes` count. -/
theorem active_low (n lanes : Nat) : active (2 ^ n - 1) lanes = List.range (min n lanes) := by
  unfold active
  induction lanes with
  | zero => simp
  | succ lanes ih =>
      rw [List.range_succ, List.filter_append, ih]
      -- The last lane is active if its bit is among the lowest `n`.
      by_cases h : lanes < n
      · rw [show min n (lanes + 1) = min n lanes + 1 by omega, List.range_succ]
        simp [h, show min n lanes = lanes by omega]
      · rw [show min n (lanes + 1) = min n lanes by omega]
        simp [h]

/-- Blocks of one length, one behind the other. -/
theorem range_blocks (block count : Nat) :
    (List.range count).flatMap (fun k => (List.range block).map (block * k + ·)) =
      List.range (block * count) := by
  induction count with
  | zero => rfl
  | succ count ih =>
      rw [List.range_succ, List.flatMap_append, ih, Nat.mul_succ, List.range_add]
      simp

/-- A mask of all lanes. -/
theorem elements_full {n lanes : Nat} (h : lanes ≤ n) (repeats : Nat) :
    elements (2 ^ n - 1) lanes repeats = List.range (lanes * repeats) := by
  unfold elements
  rw [active_low, Nat.min_eq_right h]
  exact range_blocks lanes repeats

/-- One repeat under a mask of the lowest bits. -/
theorem elements_low {n lanes : Nat} (h : n ≤ lanes) :
    elements (2 ^ n - 1) lanes 1 = List.range n := by
  unfold elements
  rw [active_low, Nat.min_eq_left h]
  simp

/-- Full blocks and the rest. -/
theorem range_div_add_mod (n block : Nat) :
    List.range (block * (n / block)) ++ (List.range (n % block)).map (block * (n / block) + ·) =
      List.range n := by
  conv => rhs; rw [← Nat.div_add_mod n block]
  rw [List.range_add]

end HwEfat.Lib.Lanes
