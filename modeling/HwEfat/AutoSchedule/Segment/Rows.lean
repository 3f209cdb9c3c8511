/-
  HwEfat.AutoSchedule.Segment.Rows — what the unrolled expression of `__segment_op`
  computes.

  The loop of `__compute_outer_dim` finds the rows of a segment by marking the row just
  taken in a copy of the ids and asking for the index of the segment again.  It visits
  the rows of the segment in order, each once, and `index` never raises
  (`addRows_spec`); so the value at an output index is the fold over these rows, or the
  init value where there is none (`segmentOp_spec`).
-/
import HwEfat.AutoSchedule.Segment.Def

namespace HwEfat.AutoSchedule

open HwEfat.Lib (PyError raiseIf index first pyMax)

variable {α : Type} [Field α] [LinearOrder α]

/-! ## §1. The rows of a segment. -/

/-- The rows with id `s`, in order. -/
def rowsOf (segmentIds : List Int) (s : Int) : List Nat :=
  (segmentIds.zipIdx.filter fun p => p.1 = s).map Prod.snd

/-- The rows of a segment are those with its id. -/
theorem mem_rowsOf {segmentIds : List Int} {s : Int} {k : Nat} :
    k ∈ rowsOf segmentIds s ↔ segmentIds[k]? = some s := by
  unfold rowsOf
  rw [List.mem_map]
  constructor
  · intro ⟨⟨x, j⟩, hmem, heq⟩
    obtain ⟨hzip, hx⟩ := List.mem_filter.mp hmem
    rw [List.mem_zipIdx_iff_getElem?] at hzip
    simp only [decide_eq_true_eq] at hx
    subst heq hx
    exact hzip
  · intro h
    exact ⟨(s, k), List.mem_filter.mpr ⟨List.mem_zipIdx_iff_getElem?.mpr h, by simp⟩, rfl⟩

/-- They come in order. -/
theorem rowsOf_sorted (segmentIds : List Int) (s : Int) :
    (rowsOf segmentIds s).Pairwise (· < ·) := by
  have hall : (segmentIds.zipIdx.map Prod.snd).Pairwise (· < ·) := by
    rw [List.zipIdx_map_snd]
    exact List.pairwise_lt_range'
  exact hall.sublist (List.filter_sublist.map Prod.snd)

/-- There are as many as the id occurs. -/
theorem length_rowsOf (segmentIds : List Int) (s : Int) :
    (rowsOf segmentIds s).length = segmentIds.count s := by
  unfold rowsOf
  rw [List.length_map, ← List.countP_eq_length_filter]
  have hfst : segmentIds.count s = (segmentIds.zipIdx.map Prod.fst).count s := by
    rw [List.zipIdx_map_fst]
  rw [hfst, List.count, List.countP_map]
  refine List.countP_congr fun p _ => ?_
  simp

/-- An id that does not occur has no rows. -/
theorem rowsOf_of_not_mem {segmentIds : List Int} {s : Int} (hs : s ∉ segmentIds) :
    rowsOf segmentIds s = [] := by
  rw [← List.length_eq_zero_iff, length_rowsOf, List.count_eq_zero]
  exact hs

/-- The loop collects every id, and no other. -/
theorem mem_uniqueId {segmentIds : List Int} {i : Int} :
    i ∈ uniqueId segmentIds ↔ i ∈ segmentIds := by
  have hfold : ∀ (l unique : List Int),
      i ∈ l.foldl (fun unique i => if i ∈ unique then unique else unique ++ [i]) unique ↔
        i ∈ unique ∨ i ∈ l := by
    intro l
    induction l with
    | nil => simp
    | cons a l ih =>
        intro unique
        rw [List.foldl_cons, ih, List.mem_cons]
        by_cases ha : a ∈ unique
        · rw [if_pos ha]
          constructor
          · intro h
            exact h.elim Or.inl fun h => Or.inr (Or.inr h)
          · intro h
            rcases h with h | rfl | h
            · exact Or.inl h
            · exact Or.inl ha
            · exact Or.inr h
        · rw [if_neg ha, List.mem_append, List.mem_singleton, or_assoc]
  unfold uniqueId
  rw [hfold]
  simp

/-! ## §2. The marking loop. -/

/-- The copy of the ids in which the rows `done` are marked, and at most row `idx` too. -/
structure Marked (segmentIds : List Int) (done : List Nat) (idx : Nat)
    (newSegmentId : List Int) : Prop where
  length : newSegmentId.length = segmentIds.length
  marked : ∀ k ∈ done, newSegmentId[k]? = some (-1)
  rest : ∀ k, k ∉ done → k ≠ idx → newSegmentId[k]? = segmentIds[k]?

/-- `index` finds the next row of the segment. -/
theorem index_marked {segmentIds : List Int} {i : Int} (hi : 0 ≤ i) {done later : List Nat}
    {idx next : Nat} {newSegmentId : List Int} (h : Marked segmentIds done idx newSegmentId)
    (hrows : rowsOf segmentIds i = done ++ idx :: next :: later) :
    index (newSegmentId.set idx (-1)) i = .ok next ∧
      Marked segmentIds (done ++ [idx]) next (newSegmentId.set idx (-1)) := by
  have hsorted : (done ++ idx :: next :: later).Pairwise (· < ·) := by
    rw [← hrows]
    exact rowsOf_sorted segmentIds i
  obtain ⟨-, hcons, hcross⟩ := List.pairwise_append.mp hsorted
  have hidx : idx < segmentIds.length := by
    have hmem : idx ∈ rowsOf segmentIds i := by simp [hrows]
    exact (List.getElem?_eq_some_iff.mp (mem_rowsOf.mp hmem)).1
  -- every row up to `idx` is marked, every later one still has its id
  have hmarked : ∀ k ∈ done ++ [idx], (newSegmentId.set idx (-1))[k]? = some (-1) := by
    intro k hk
    rcases List.mem_append.mp hk with hk | hk
    · have hne : idx ≠ k := by
        have := hcross k hk idx List.mem_cons_self
        omega
      rw [List.getElem?_set_ne hne]
      exact h.marked k hk
    · rw [List.mem_singleton.mp hk, List.getElem?_set_self (by rw [h.length]; exact hidx)]
  have hrest : ∀ k, k ∉ done ++ [idx] → (newSegmentId.set idx (-1))[k]? = segmentIds[k]? := by
    intro k hk
    rw [List.mem_append, List.mem_singleton, not_or] at hk
    rw [List.getElem?_set_ne (Ne.symm hk.2)]
    exact h.rest k hk.1 hk.2
  have hnext : next ∉ done ++ [idx] := by
    rw [List.mem_append, List.mem_singleton, not_or]
    refine ⟨fun hmem => ?_, ?_⟩
    · have := hcross next hmem next (List.mem_cons_of_mem _ List.mem_cons_self)
      omega
    · have := (List.pairwise_cons.mp hcons).1 next List.mem_cons_self
      omega
  refine ⟨?_, ?_⟩
  · rw [Lib.index_eq_ok]
    constructor
    · rw [hrest next hnext]
      exact mem_rowsOf.mp (by simp [hrows])
    · intro j hj hcontra
      by_cases hmem : j ∈ done ++ [idx]
      · rw [hmarked j hmem, Option.some.injEq] at hcontra
        omega
      · -- an earlier unmarked row of the segment would come before `next`
        rw [hrest j hmem] at hcontra
        have hrow : j ∈ done ++ idx :: next :: later := by
          rw [← hrows]
          exact mem_rowsOf.mpr hcontra
        rw [List.mem_append, List.mem_singleton, not_or] at hmem
        rcases List.mem_append.mp hrow with hrow | hrow
        · exact hmem.1 hrow
        · rcases List.mem_cons.mp hrow with hrow | hrow
          · exact hmem.2 hrow
          · rcases List.mem_cons.mp hrow with rfl | hrow
            · omega
            · have hlater := (List.pairwise_cons.mp hcons).2
              have := (List.pairwise_cons.mp hlater).1 j hrow
              omega
  · exact ⟨by rw [List.length_set]; exact h.length, hmarked, fun k hk _ => hrest k hk⟩

/-- **The loop takes the rows of the segment in order, each once.** -/
theorem addRows_spec (tensor : Tensor α) (op : SegmentOp) {segmentIds : List Int} {i : Int}
    (hi : 0 ≤ i) : ∀ (later done : List Nat) (idx : Nat) (newSegmentId : List Int) (tmp : Expr α),
      Marked segmentIds done idx newSegmentId → rowsOf segmentIds i = done ++ idx :: later →
      addRows tensor op i later.length newSegmentId idx tmp = .ok fun indices =>
        later.foldl (fun acc k => op.combine (row tensor k indices) acc) (tmp indices)
  | [], _, _, _, _, _, _ => rfl
  | next :: later, done, idx, newSegmentId, tmp, h, hrows => by
      obtain ⟨hindex, hmarked⟩ := index_marked hi h hrows
      have hrows' : rowsOf segmentIds i = (done ++ [idx]) ++ next :: later := by
        rw [hrows, List.append_assoc, List.singleton_append]
      rw [List.length_cons, addRows, hindex]
      exact addRows_spec tensor op hi later _ next _ _ hmarked hrows'

/-! ## §3. The value at an output index. -/

/-- What segment `s` comes to: the fold over its rows, or the init value. -/
def rowsValue (tensor : Tensor α) (segmentIds : List Int) (initValue : α) (op : SegmentOp)
    (s : Int) : Expr α := fun indices =>
  match rowsOf segmentIds s with
  | [] => initValue
  | k :: later =>
      let tmp := later.foldl (fun acc k => op.combine (row tensor k indices) acc)
        (row tensor k indices)
      if op = .mean then tmp / (segmentIds.count s : α) else tmp

/-- A segment without rows has the init value. -/
theorem rowsValue_of_not_mem (tensor : Tensor α) {segmentIds : List Int} (initValue : α)
    (op : SegmentOp) {s : Int} (hs : s ∉ segmentIds) (indices : List Int) :
    rowsValue tensor segmentIds initValue op s indices = initValue := by
  rw [rowsValue, rowsOf_of_not_mem hs]

/-- `__compute_outer_dim` comes to the value of the segment. -/
theorem computeOuterDim_spec (tensor : Tensor α) (segmentIds : List Int) (initValue : α)
    (op : SegmentOp) {i : Int} (hi : 0 ≤ i) :
    computeOuterDim tensor segmentIds initValue op i =
      .ok (rowsValue tensor segmentIds initValue op i) := by
  have hlen := length_rowsOf segmentIds i
  unfold computeOuterDim rowsValue
  by_cases hmem : i ∈ segmentIds
  · rw [if_pos (mem_uniqueId.mpr hmem)]
    cases hrows : rowsOf segmentIds i with
    | nil =>
        rw [hrows, List.length_nil] at hlen
        exact absurd hmem (List.count_eq_zero.mp hlen.symm)
    | cons k later =>
        rw [hrows, List.length_cons] at hlen
        have hk : segmentIds[k]? = some i := mem_rowsOf.mp (by simp [hrows])
        -- The first row of the segment is the one that `index` finds.
        have hindex : index segmentIds i = .ok k := by
          refine Lib.index_eq_ok.mpr ⟨hk, fun j hj hcontra => ?_⟩
          have hrow : j ∈ k :: later := by
            rw [← hrows]
            exact mem_rowsOf.mpr hcontra
          have hsorted : (k :: later).Pairwise (· < ·) := by
            rw [← hrows]
            exact rowsOf_sorted segmentIds i
          rcases List.mem_cons.mp hrow with rfl | hrow
          · omega
          · have := (List.pairwise_cons.mp hsorted).1 j hrow
            omega
        have hfirst : Marked segmentIds [] k (segmentIds.set k (-1)) := by
          refine ⟨List.length_set, fun j hj => absurd hj List.not_mem_nil, fun j _ hj => ?_⟩
          exact List.getElem?_set_ne (Ne.symm hj)
        have hloop := addRows_spec tensor op hi later [] k _ (row tensor k) hfirst hrows
        have hturns : segmentIds.count i - 1 = later.length := by omega
        simp only [hindex, hturns, hloop, bind, Except.bind]
        cases op <;> rfl
  · rw [if_neg (fun h => hmem (mem_uniqueId.mp h))]
    rw [rowsOf_of_not_mem hmem]
    rfl

/-- The alternatives of these segments, in front of `res`. -/
theorem foldlM_selectFirst (tensor : Tensor α) (segmentIds : List Int) (initValue : α)
    (op : SegmentOp) : ∀ (segments : List Nat) (res : Expr α), ∃ expr,
      segments.foldlM (fun res (i : Nat) => do
        let other ← computeOuterDim tensor segmentIds initValue op i
        return selectFirst i other res) res = Except.ok (ε := PyError) expr ∧
      ∀ (s : Nat) rest, expr (s :: rest) =
        if s ∈ segments then rowsValue tensor segmentIds initValue op s (s :: rest)
        else res (s :: rest) := by
  intro segments
  induction segments with
  | nil =>
      intro res
      exact ⟨res, rfl, fun s rest => by simp⟩
  | cons i segments ih =>
      intro res
      -- A later alternative for the same segment has the same value.
      obtain ⟨expr, hexpr, hvalue⟩ :=
        ih (selectFirst i (rowsValue tensor segmentIds initValue op i) res)
      refine ⟨expr, ?_, fun s rest => ?_⟩
      · rw [List.foldlM_cons, computeOuterDim_spec tensor segmentIds initValue op (by omega)]
        exact hexpr
      · rw [hvalue s rest]
        by_cases hs : s ∈ segments
        · rw [if_pos hs, if_pos (List.mem_cons_of_mem _ hs)]
        · rw [if_neg hs]
          by_cases hsi : s = i
          · subst hsi
            rw [if_pos List.mem_cons_self]
            exact if_pos rfl
          · rw [if_neg (by simp [hsi, hs])]
            exact if_neg (by simp [hsi])

/-- The chain of selects picks the segment of the index. -/
theorem segmentCompute_spec (tensor : Tensor α) (segmentIds : List Int) (numSegments : Int)
    (initValue : α) (op : SegmentOp) :
    ∃ expr, segmentCompute tensor segmentIds numSegments initValue op = .ok expr ∧
      ∀ s rest, 0 ≤ s → s < numSegments →
        expr (s :: rest) = rowsValue tensor segmentIds initValue op s (s :: rest) := by
  obtain ⟨expr, hexpr, hvalue⟩ := foldlM_selectFirst tensor segmentIds initValue op
    ((List.range numSegments.toNat).drop 1)
    (rowsValue tensor segmentIds initValue op 0)
  refine ⟨expr, ?_, fun s rest hs hlt => ?_⟩
  · unfold segmentCompute
    rw [computeOuterDim_spec tensor segmentIds initValue op (le_refl 0)]
    exact hexpr
  · obtain ⟨n, rfl⟩ := Int.eq_ofNat_of_zero_le hs
    rw [hvalue n rest]
    by_cases hn : n = 0
    · subst hn
      split_ifs <;> rfl
    · rw [if_pos]
      rw [List.range_eq_range', List.drop_range', List.mem_range']
      exact ⟨n - 1, by omega, by omega⟩

omit [Field α] [LinearOrder α] in

/-- A shape that passes has positive dimensions. -/
theorem checkInputTensorShape_ok {u : Unit} : ∀ {shape : List Int},
    checkInputTensorShape shape = .ok u → ∀ n ∈ shape, 0 < n
  | [], _, n, hn => absurd hn List.not_mem_nil
  | val :: shape, h, n, hn => by
      rw [checkInputTensorShape] at h
      by_cases hval : val ≤ 0
      · rw [if_pos hval] at h
        cases h
      · rw [if_neg hval] at h
        rcases List.mem_cons.mp hn with rfl | hn
        · omega
        · exact checkInputTensorShape_ok h n hn

omit [Field α] [LinearOrder α] in

/-- And the other way. -/
theorem checkInputTensorShape_of_pos : ∀ {shape : List Int},
    (∀ n ∈ shape, 0 < n) → checkInputTensorShape shape = .ok ()
  | [], _ => rfl
  | val :: shape, h => by
      have hval := h val List.mem_cons_self
      rw [checkInputTensorShape, if_neg (by omega)]
      exact checkInputTensorShape_of_pos fun n hn => h n (List.mem_cons_of_mem _ hn)

/-- **The list implementation.**  When it does not raise, every output value is the one
of its segment. -/
theorem segmentOp_spec {tensor out : Tensor α} {segmentIds : List Int} {numSegments : Int}
    {initValue : α} {op : SegmentOp}
    (h : segmentOp tensor segmentIds numSegments initValue op = .ok out) :
    segmentIds ≠ [] ∧ (∀ n ∈ tensor.shape, 0 < n) ∧ out.shape = numSegments :: tensor.shape.tail ∧
      ∀ s rest, 0 ≤ s → s < numSegments →
        out.data (s :: rest) = rowsValue tensor segmentIds initValue op s (s :: rest) := by
  unfold segmentOp at h
  obtain ⟨_, hpos, h⟩ := Lib.bind_eq_ok.mp h
  obtain ⟨_, -, h⟩ := Lib.bind_eq_ok.mp h
  obtain ⟨_, -, h⟩ := Lib.bind_eq_ok.mp h
  obtain ⟨maxId, hmax, h⟩ := Lib.bind_eq_ok.mp h
  obtain ⟨_, -, h⟩ := Lib.bind_eq_ok.mp h
  have hbest := Lib.pyMax_spec hmax
  refine ⟨List.ne_nil_of_mem hbest.mem, checkInputTensorShape_ok hpos, ?_⟩
  by_cases hneg : maxId < 0
  · simp only [if_pos hneg] at h
    cases h
    refine ⟨rfl, fun s rest hs _ => ?_⟩
    -- all ids are negative, so no row belongs to `s`
    have hnone : s ∉ segmentIds := by
      intro hmem
      have := hbest.best s hmem
      omega
    rw [rowsValue_of_not_mem tensor initValue op hnone]
    show _ - _ + initValue = initValue
    rw [sub_self, zero_add]
  · simp only [if_neg hneg] at h
    obtain ⟨expr, hexpr, h⟩ := Lib.bind_eq_ok.mp h
    cases h
    obtain ⟨expr', hexpr', hvalue⟩ :=
      segmentCompute_spec tensor segmentIds numSegments initValue op
    rw [hexpr, Except.ok.injEq] at hexpr'
    subst hexpr'
    exact ⟨rfl, hvalue⟩

end HwEfat.AutoSchedule
