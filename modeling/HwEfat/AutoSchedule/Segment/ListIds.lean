/-
  HwEfat.AutoSchedule.Segment.ListIds — what the list implementation computes, said without
  a list.

  A segment is the set of its rows.  Its value is the sum, the mean, the product, the
  minimum or the maximum over that set, or the init value if the set is empty
  (`segmentValue`).  The marking loop, the chain of selects and the construction for ids
  that are all negative come to this value.

  Main result: `segmentOp_value`.
-/
import Mathlib.Algebra.BigOperators.Group.Finset.Basic
import Mathlib.Data.Finset.Lattice.Fold
import HwEfat.AutoSchedule.Segment.Agreement

namespace HwEfat.AutoSchedule

open HwEfat.Lib (PyError raiseIf index first pyMax Best)

variable {α : Type} [Field α] [LinearOrder α]

/-! ## §1. The value of a segment. -/

/-- The rows with id `s`. -/
def segmentRows (segmentIds : List Int) (s : Int) : Finset Nat :=
  (Finset.range segmentIds.length).filter fun k => segmentIds[k]? = some s

/-- What an operation makes of the values on some rows. -/
def reduceRows (op : SegmentOp) (rows : Finset Nat) (hrows : rows.Nonempty) (f : Nat → α) : α :=
  match op with
  | .sum => ∑ k ∈ rows, f k
  | .mean => (∑ k ∈ rows, f k) / (rows.card : α)
  | .prod => ∏ k ∈ rows, f k
  | .min => rows.inf' hrows f
  | .max => rows.sup' hrows f

/-- What the operation is for: the rows of segment `s` reduced, each of them once. -/
def segmentValue (segmentIds : List Int) (initValue : α) (op : SegmentOp) (s : Int)
    (f : Nat → α) : α :=
  if h : (segmentRows segmentIds s).Nonempty then reduceRows op (segmentRows segmentIds s) h f
  else initValue

/-- The rows of a segment are those with its id. -/
theorem mem_segmentRows {segmentIds : List Int} {s : Int} {k : Nat} :
    k ∈ segmentRows segmentIds s ↔ segmentIds[k]? = some s := by
  unfold segmentRows
  rw [Finset.mem_filter, Finset.mem_range]
  exact ⟨fun h => h.2, fun h => ⟨(List.getElem?_eq_some_iff.mp h).1, h⟩⟩

/-- A segment has a row exactly if its number is among the ids. -/
theorem segmentRows_nonempty {segmentIds : List Int} {s : Int} :
    (segmentRows segmentIds s).Nonempty ↔ s ∈ segmentIds := by
  constructor
  · intro ⟨k, hk⟩
    exact List.mem_of_getElem? (mem_segmentRows.mp hk)
  · intro hs
    obtain ⟨k, hk⟩ := List.getElem?_of_mem hs
    exact ⟨k, mem_segmentRows.mpr hk⟩

/-! ## §2. From the rows in order to the set of rows. -/

/-- The rows that the program visits are the rows of the segment. -/
theorem toFinset_rowsOf (segmentIds : List Int) (s : Int) :
    (rowsOf segmentIds s).toFinset = segmentRows segmentIds s := by
  ext k
  rw [List.mem_toFinset, mem_rowsOf, mem_segmentRows]

/-- It visits each of them once. -/
theorem nodup_rowsOf (segmentIds : List Int) (s : Int) : (rowsOf segmentIds s).Nodup :=
  (rowsOf_sorted segmentIds s).imp Nat.ne_of_lt

/-- Their number is the count that the mean divides by. -/
theorem card_segmentRows (segmentIds : List Int) (s : Int) :
    (segmentRows segmentIds s).card = segmentIds.count s := by
  rw [← toFinset_rowsOf, List.toFinset_card_of_nodup (nodup_rowsOf segmentIds s), length_rowsOf]

omit [Field α] in

/-- What is best for `≤` is the least value over the rows. -/
theorem best_inf' {rows : Finset Nat} {l : List Nat} (hl : l.toFinset = rows)
    (hrows : rows.Nonempty) {f : Nat → α} {v : α} (h : Best (fun a b => a ≤ b) (l.map f) v) :
    v = rows.inf' hrows f := by
  obtain ⟨k, hk, hkv⟩ := List.mem_map.mp h.mem
  have hle : v ≤ rows.inf' hrows f := by
    refine Finset.le_inf' hrows f fun j hj => h.best _ (List.mem_map_of_mem ?_)
    rwa [← hl, List.mem_toFinset] at hj
  have hge : rows.inf' hrows f ≤ v := by
    rw [← hkv]
    exact Finset.inf'_le f (by rwa [← hl, List.mem_toFinset])
  exact le_antisymm hle hge

omit [Field α] in

/-- What is best for `≥` is the greatest one. -/
theorem best_sup' {rows : Finset Nat} {l : List Nat} (hl : l.toFinset = rows)
    (hrows : rows.Nonempty) {f : Nat → α} {v : α} (h : Best (fun a b => b ≤ a) (l.map f) v) :
    v = rows.sup' hrows f := by
  obtain ⟨k, hk, hkv⟩ := List.mem_map.mp h.mem
  have hge : rows.sup' hrows f ≤ v := by
    refine Finset.sup'_le hrows f fun j hj => h.best _ (List.mem_map_of_mem ?_)
    rwa [← hl, List.mem_toFinset] at hj
  have hle : v ≤ rows.sup' hrows f := by
    rw [← hkv]
    exact Finset.le_sup' f (by rwa [← hl, List.mem_toFinset])
  exact le_antisymm hle hge

omit [LinearOrder α] in
/-- The rows added up from the second one on. -/
theorem sum_rows (tensor : Tensor α) {segmentIds : List Int} {s : Int} {k : Nat}
    {later : List Nat} (hrows : rowsOf segmentIds s = k :: later) (rest : List Int) :
    later.foldl (fun acc j => row tensor j (s :: rest) + acc) (row tensor k (s :: rest)) =
      ∑ j ∈ segmentRows segmentIds s, tensor.data (j :: rest) := by
  have hfold := foldl_flip add_assoc add_comm add_zero
    (later.map fun (j : Nat) => tensor.data (j :: rest)) (tensor.data (k :: rest))
  rw [List.foldl_map] at hfold
  rw [← toFinset_rowsOf, List.sum_toFinset _ (nodup_rowsOf segmentIds s), hrows, List.map_cons,
    List.sum_cons]
  exact hfold

omit [LinearOrder α] in

/-- The rows multiplied up from the second one on. -/
theorem prod_rows (tensor : Tensor α) {segmentIds : List Int} {s : Int} {k : Nat}
    {later : List Nat} (hrows : rowsOf segmentIds s = k :: later) (rest : List Int) :
    later.foldl (fun acc j => row tensor j (s :: rest) * acc) (row tensor k (s :: rest)) =
      ∏ j ∈ segmentRows segmentIds s, tensor.data (j :: rest) := by
  have hfold := foldl_mul
    (later.map fun (j : Nat) => tensor.data (j :: rest)) (tensor.data (k :: rest))
  rw [List.foldl_map] at hfold
  rw [← toFinset_rowsOf, List.prod_toFinset _ (nodup_rowsOf segmentIds s), hrows, List.map_cons,
    List.prod_cons]
  exact hfold

/-- The fold over the rows in order is the reduction over the set of rows. -/
theorem rowsValue_eq (tensor : Tensor α) (segmentIds : List Int) (initValue : α)
    (op : SegmentOp) (s : Int) (rest : List Int) :
    rowsValue tensor segmentIds initValue op s (s :: rest) =
      segmentValue segmentIds initValue op s fun k => tensor.data (k :: rest) := by
  by_cases hs : s ∈ segmentIds
  · have hne := segmentRows_nonempty.mpr hs
    have hset := toFinset_rowsOf segmentIds s
    have hvalue : segmentValue segmentIds initValue op s (fun k => tensor.data (k :: rest)) =
        reduceRows op (segmentRows segmentIds s) hne fun k => tensor.data (k :: rest) :=
      dif_pos hne
    -- The first row starts the fold.
    obtain ⟨k, later, hrows⟩ : ∃ k later, rowsOf segmentIds s = k :: later := by
      refine List.exists_cons_of_ne_nil fun hnil => ?_
      rw [hnil, List.toFinset_nil] at hset
      exact Finset.nonempty_iff_ne_empty.mp hne hset.symm
    rw [hvalue]
    cases op with
    | sum =>
        simp only [rowsValue, hrows, reduceCtorEq, if_false]
        exact sum_rows tensor hrows rest
    | mean =>
        simp only [rowsValue, hrows, if_true]
        show _ = (∑ j ∈ segmentRows segmentIds s, tensor.data (j :: rest)) / _
        rw [← sum_rows tensor hrows rest, card_segmentRows]
        rfl
    | prod =>
        simp only [rowsValue, hrows, reduceCtorEq, if_false]
        exact prod_rows tensor hrows rest
    | min =>
        exact best_inf' hset hne
          (best_rowsValue Lib.chooses_min (fun _ _ => rfl) (by decide) tensor initValue hs rest)
    | max =>
        exact best_sup' hset hne
          (best_rowsValue Lib.chooses_max (fun _ _ => rfl) (by decide) tensor initValue hs rest)
  · have hinit : segmentValue segmentIds initValue op s (fun k => tensor.data (k :: rest)) =
        initValue := dif_neg fun h => hs (segmentRows_nonempty.mp h)
    rw [hinit, rowsValue_of_not_mem tensor initValue op hs]

/-! ## §3. The list implementation. -/

/-- The checks pass for a tensor with one row for each id, and ids below `num_segments`. -/
theorem segmentOp_returns {tensor : Tensor α} {segmentIds : List Int} {numSegments : Int}
    (hshape : ∀ n ∈ tensor.shape, 0 < n)
    (hrows : tensor.shape.head? = some (segmentIds.length : Int))
    (hids : ∀ i ∈ segmentIds, i + 1 ≤ numSegments) (initValue : α) (op : SegmentOp) :
    ∃ out, segmentOp tensor segmentIds numSegments initValue op = .ok out := by
  obtain ⟨others, hcons⟩ : ∃ others, tensor.shape = (segmentIds.length : Int) :: others :=
    ⟨_, (List.cons_head?_tail hrows).symm⟩
  have hcheck := checkInputTensorShape_of_pos hshape
  rw [hcons] at hcheck
  have hlength := hshape segmentIds.length (by rw [hcons]; exact List.mem_cons_self)
  obtain ⟨maxId, hmax⟩ : ∃ maxId, pyMax segmentIds = .ok maxId := by
    cases segmentIds with
    | nil => exact absurd hlength (by simp)
    | cons i segmentIds => exact ⟨_, rfl⟩
  have hlast := hids maxId (Lib.pyMax_spec hmax).mem
  obtain ⟨expr, hexpr, _⟩ := segmentCompute_spec tensor segmentIds numSegments initValue op
  unfold segmentOp
  simp only [hcheck, hcons, first, raiseIf, hmax, hexpr, bind, Except.bind]
  rw [if_neg (by simp), if_neg (by omega)]
  by_cases hneg : maxId < 0
  · rw [if_pos hneg]
    exact ⟨_, rfl⟩
  · rw [if_neg hneg]
    exact ⟨_, rfl⟩

/-- **What `__segment_op` computes.**  For every list of ids, repeated, negative or missing
ones included, the value at an output index is that of its segment.  The expression of
`__segment_compute` has this value too, also where all ids are negative and the output is
constructed otherwise. -/
theorem segmentOp_value (tensor : Tensor α) (segmentIds : List Int) (numSegments : Int)
    (initValue : α) (op : SegmentOp) (hshape : ∀ n ∈ tensor.shape, 0 < n)
    (hrows : tensor.shape.head? = some (segmentIds.length : Int))
    (hids : ∀ i ∈ segmentIds, i + 1 ≤ numSegments) :
    ∃ out expr, segmentOp tensor segmentIds numSegments initValue op = .ok out ∧
      out.shape = numSegments :: tensor.shape.tail ∧
      segmentCompute tensor segmentIds numSegments initValue op = .ok expr ∧
      ∀ s rest, 0 ≤ s → s < numSegments →
        out.data (s :: rest) =
            segmentValue segmentIds initValue op s (fun k => tensor.data (k :: rest)) ∧
          expr (s :: rest) = out.data (s :: rest) := by
  obtain ⟨out, hout⟩ := segmentOp_returns hshape hrows hids initValue op
  obtain ⟨_, _, houtShape, hdata⟩ := segmentOp_spec hout
  obtain ⟨expr, hexpr, hvalue⟩ :=
    segmentCompute_spec tensor segmentIds numSegments initValue op
  refine ⟨out, expr, hout, houtShape, hexpr, fun s rest hs hlt => ?_⟩
  rw [hvalue s rest hs hlt, hdata s rest hs hlt]
  exact ⟨rowsValue_eq tensor segmentIds initValue op s rest, rfl⟩

/-! ## Three rows, three segments. -/

/-- The rows 5, 7 and 9. -/
def threeRows : Tensor ℚ where
  dtype := "float32"
  shape := [3]
  data indices := if indices = [0] then 5 else if indices = [1] then 7 else 9

/-- The mean with one negative id, segment 2 repeated and segments 0 and 1 missing. -/
theorem segmentOp_value_threeRows :
    ∃ out expr, segmentOp threeRows [2, -1, 2] 3 0 .mean = .ok out ∧
      out.shape = 3 :: threeRows.shape.tail ∧
      segmentCompute threeRows [2, -1, 2] 3 0 .mean = .ok expr ∧
      ∀ s rest, 0 ≤ s → s < 3 →
        out.data (s :: rest) =
            segmentValue [2, -1, 2] 0 .mean s (fun k => threeRows.data (k :: rest)) ∧
          expr (s :: rest) = out.data (s :: rest) :=
  segmentOp_value threeRows [2, -1, 2] 3 0 .mean (by decide) (by decide) (by decide)

end HwEfat.AutoSchedule
