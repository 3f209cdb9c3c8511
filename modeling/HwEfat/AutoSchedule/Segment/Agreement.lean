/-
  HwEfat.AutoSchedule.Segment.Agreement — the two implementations of
  `unsorted_segment_prod`, `unsorted_segment_min` and `unsorted_segment_max` against
  each other.

  The masked reduction sees one value for every row: the data of the row, or the init
  value where the row belongs to another segment.  The unrolled expression sees the rows
  of the segment only, and the init value only when there is none.  For `prod` the first
  takes 1 in place of the init value.

  Main result: `segments_agree_iff`, exactly when the two agree at every output index.
-/
import Mathlib.Algebra.BigOperators.Group.List.Basic
import Mathlib.Tactic.Ring
import HwEfat.AutoSchedule.Segment.Rows

namespace HwEfat.AutoSchedule

open HwEfat.Lib (PyError raiseIf index first pyMax Chooses Best)

variable {α : Type} [Field α] [LinearOrder α]

/-! ## §1. The masked reduction. -/

/-- The int32 tensor that holds a list of ids. -/
def idsTensor (segmentIds : List Int) : Tensor Int where
  dtype := "int32"
  shape := [segmentIds.length]
  data indices := segmentIds.getD (indices.headD 0).toNat 0

/-- The values that the reduction sees for segment `s`. -/
def masked (tensor : Tensor α) (segmentIds : List Int) (initValue : α) (s : Int)
    (rest : List Int) : List α :=
  segmentIds.zipIdx.map fun p => if p.1 = s then tensor.data (p.2 :: rest) else initValue

omit [Field α] [LinearOrder α] in

/-- The values that a segment is reduced over: its rows, and the init value elsewhere. -/
theorem map_segmentSelect (tensor : Tensor α) (segmentIds : List Int) (initValue : α) (s : Int)
    (rest : List Int) :
    ((List.range segmentIds.length).map fun k =>
      segmentSelect tensor (idsTensor segmentIds) initValue k (s :: rest)) =
        masked tensor segmentIds initValue s rest := by
  have hrange : List.range segmentIds.length = segmentIds.zipIdx.map Prod.snd := by
    rw [List.zipIdx_map_snd, List.range_eq_range']
  rw [hrange, List.map_map]
  refine List.map_congr_left fun p hp => ?_
  have hid : segmentIds[p.2]? = some p.1 := List.mem_zipIdx_iff_getElem?.mp hp
  have hdata : (idsTensor segmentIds).data [(p.2 : Int)] = p.1 := by
    simp [idsTensor, hid]
  show (if s = (idsTensor segmentIds).data [(p.2 : Int)] then _ else _) = _
  rw [hdata]
  exact if_congr eq_comm rfl rfl

/-- The operation and the starting value of `tvm.prod`, `tvm.min` and `tvm.max`. -/
def reducer (L : Limits α) : SegmentOp → Option ((α → α → α) × α)
  | .prod => some ((· * ·), 1)
  | .min => some (min, L.maxValue)
  | .max => some (max, L.minValue)
  | _ => none

/-- What the reduction computes, where it does not raise. -/
theorem segmentTensorOp_spec {L : Limits α} {tensor out : Tensor α} {segmentIds : List Int}
    {numSegments : Int} {initValue : α} {op : SegmentOp}
    (h : segmentTensorOp L tensor (idsTensor segmentIds) numSegments initValue op = .ok out)
    {f : α → α → α} {identity : α} (hop : reducer L op = some (f, identity)) (s : Int)
    (rest : List Int) :
    out.data (s :: rest) = reduce f identity (masked tensor segmentIds initValue s rest) := by
  unfold segmentTensorOp at h
  obtain ⟨reduceK, hreduceK, h⟩ := Lib.bind_eq_ok.mp h
  obtain ⟨_, -, h⟩ := Lib.bind_eq_ok.mp h
  obtain ⟨_, -, h⟩ := Lib.bind_eq_ok.mp h
  obtain ⟨_, -, h⟩ := Lib.bind_eq_ok.mp h
  obtain ⟨_, -, h⟩ := Lib.bind_eq_ok.mp h
  obtain ⟨_, -, h⟩ := Lib.bind_eq_ok.mp h
  have hK : reduceK = segmentIds.length := (Except.ok.inj hreduceK).symm
  subst hK
  rw [← map_segmentSelect]
  -- Sum and mean are not supported with a tensor of ids.
  cases op with
  | prod =>
      cases h
      cases hop
      rfl
  | min =>
      cases h
      cases hop
      rfl
  | max =>
      cases h
      cases hop
      rfl
  | sum => cases hop
  | mean => cases hop

omit [Field α] [LinearOrder α] in

/-- One of these values is a row of the segment, or the init value of another row. -/
theorem mem_masked {tensor : Tensor α} {segmentIds : List Int} {initValue : α} {s : Int}
    {rest : List Int} {v : α} :
    v ∈ masked tensor segmentIds initValue s rest ↔
      (∃ k : Nat, segmentIds[k]? = some s ∧ v = tensor.data (k :: rest)) ∨
        (∃ x ∈ segmentIds, x ≠ s) ∧ v = initValue := by
  unfold masked
  rw [List.mem_map]
  constructor
  · intro ⟨⟨x, k⟩, hmem, hv⟩
    rw [List.mem_zipIdx_iff_getElem?] at hmem
    by_cases hx : x = s
    · simp only [if_pos hx] at hv
      subst hx
      exact Or.inl ⟨k, hmem, hv.symm⟩
    · simp only [if_neg hx] at hv
      exact Or.inr ⟨⟨x, List.mem_of_getElem? hmem, hx⟩, hv.symm⟩
  · rintro (⟨k, hk, rfl⟩ | ⟨⟨x, hx, hne⟩, rfl⟩)
    · exact ⟨(s, k), List.mem_zipIdx_iff_getElem?.mpr hk, if_pos rfl⟩
    · obtain ⟨k, hk⟩ := List.getElem?_of_mem hx
      exact ⟨(x, k), List.mem_zipIdx_iff_getElem?.mpr hk, if_neg hne⟩

/-! ## §2. `min` and `max`. -/

section Choice

variable {f : α → α → α} {R : α → α → Prop} {op : SegmentOp}

/-- The unrolled fold finds the best row of the segment. -/
theorem best_rowsValue (hf : Chooses f R) (hop : ∀ a b, op.combine a b = f a b)
    (hmean : op ≠ .mean) (tensor : Tensor α) {segmentIds : List Int} (initValue : α) {s : Int}
    (hs : s ∈ segmentIds) (rest : List Int) :
    Best R ((rowsOf segmentIds s).map fun (k : Nat) => tensor.data (k :: rest))
      (rowsValue tensor segmentIds initValue op s (s :: rest)) := by
  unfold rowsValue
  cases hrows : rowsOf segmentIds s with
  | nil =>
      obtain ⟨k, hk⟩ := List.getElem?_of_mem hs
      have hmem := mem_rowsOf.mpr hk
      rw [hrows] at hmem
      cases hmem
  | cons k later =>
      have hfold : later.foldl (fun acc k => op.combine (row tensor k (s :: rest)) acc)
          (row tensor k (s :: rest)) =
          (later.map fun (k : Nat) => tensor.data (k :: rest)).foldl (fun a b => f b a)
            (tensor.data (k :: rest)) := by
        rw [List.foldl_map]
        simp only [hop]
        rfl
      simp only [if_neg hmean, hfold]
      exact hf.flip.foldl _ _

/-- Where the two folds agree: the segment has no row, or all of them, or a row that `R`
prefers to the init value. -/
theorem choice_agree_iff (hf : Chooses f R) (hop : ∀ a b, op.combine a b = f a b)
    (hmean : op ≠ .mean) (tensor : Tensor α) {segmentIds : List Int} (hne : segmentIds ≠ [])
    (initValue identity : α) (s : Int) (rest : List Int) :
    reduce f identity (masked tensor segmentIds initValue s rest) =
        rowsValue tensor segmentIds initValue op s (s :: rest) ↔
      (s ∈ segmentIds → (∃ x ∈ segmentIds, x ≠ s) →
        ∃ k : Nat, segmentIds[k]? = some s ∧ R (tensor.data (k :: rest)) initValue) := by
  have hbest : Best R (masked tensor segmentIds initValue s rest)
      (reduce f identity (masked tensor segmentIds initValue s rest)) := by
    cases hm : masked tensor segmentIds initValue s rest with
    | nil =>
        have hlen := congrArg List.length hm
        rw [masked, List.length_map, List.length_zipIdx, List.length_nil] at hlen
        exact absurd (List.length_eq_zero_iff.mp hlen) hne
    | cons a l => exact hf.foldl l a
  by_cases hs : s ∈ segmentIds
  · have hrows := best_rowsValue hf hop hmean tensor initValue hs rest
    obtain ⟨k, hk, hkv⟩ := List.mem_map.mp hrows.mem
    rw [mem_rowsOf] at hk
    constructor
    · intro heq _ hother
      refine ⟨k, hk, ?_⟩
      rw [hkv, ← heq]
      exact hbest.best initValue (mem_masked.mpr (Or.inr ⟨hother, rfl⟩))
    · intro hcond
      -- the best row of the segment is the best of all the reduction sees
      refine hbest.unique hf ⟨mem_masked.mpr (Or.inl ⟨k, hk, hkv.symm⟩), fun v hv => ?_⟩
      have hrow : ∀ j : Nat, segmentIds[j]? = some s →
          R (rowsValue tensor segmentIds initValue op s (s :: rest)) (tensor.data (j :: rest)) :=
        fun j hj => hrows.best _ (List.mem_map.mpr ⟨j, mem_rowsOf.mpr hj, rfl⟩)
      rcases mem_masked.mp hv with ⟨j, hj, rfl⟩ | ⟨hother, rfl⟩
      · exact hrow j hj
      · obtain ⟨j, hj, hR⟩ := hcond hs hother
        exact hf.trans _ _ _ (hrow j hj) hR
  · -- without a row both are the init value
    refine iff_of_true ?_ fun h => absurd h hs
    rw [rowsValue_of_not_mem tensor initValue op hs]
    rcases mem_masked.mp hbest.mem with ⟨k, hk, -⟩ | ⟨-, hinit⟩
    · exact absurd (List.mem_of_getElem? hk) hs
    · exact hinit

end Choice

/-! ## §3. `prod`. -/

omit [Field α] [LinearOrder α] in
/-- The order of the rows and the side on which they come in do not matter. -/
theorem foldl_flip {f : α → α → α} {e : α} (hassoc : ∀ a b c, f (f a b) c = f a (f b c))
    (hcomm : ∀ a b, f a b = f b a) (hright : ∀ a, f a e = a) (l : List α) :
    ∀ c, l.foldl (fun acc a => f a acc) c = f c (l.foldr f e) := by
  induction l with
  | nil =>
      intro c
      exact (hright c).symm
  | cons a l ih =>
      intro c
      rw [List.foldl_cons, ih, List.foldr_cons, hcomm a c, hassoc]

omit [LinearOrder α] in

/-- A product that is accumulated. -/
theorem foldl_mul (l : List α) (c : α) : l.foldl (fun acc a => a * acc) c = c * l.prod :=
  foldl_flip mul_assoc mul_comm mul_one l c

omit [LinearOrder α] in

/-- The reduction with the product is the product. -/
theorem reduce_mul (l : List α) : reduce (· * ·) 1 l = l.prod := by
  cases l with
  | nil => rfl
  | cons a l =>
      have hflip : l.foldl (· * ·) a = l.foldl (fun acc b => b * acc) a := by
        congr 1
        funext acc b
        exact mul_comm acc b
      show l.foldl (· * ·) a = _
      rw [hflip, foldl_mul, List.prod_cons]

omit [LinearOrder α] in
/-- Rows of other segments count as 1. -/
theorem prod_masked (tensor : Tensor α) (segmentIds : List Int) (s : Int) (rest : List Int) :
    (masked tensor segmentIds 1 s rest).prod =
      ((rowsOf segmentIds s).map fun (k : Nat) => tensor.data (k :: rest)).prod := by
  have hfilter : ∀ l : List (Int × Nat),
      (l.map fun p => if p.1 = s then tensor.data (p.2 :: rest) else 1).prod =
        ((l.filter fun p => p.1 = s).map fun p => tensor.data (p.2 :: rest)).prod := by
    intro l
    induction l with
    | nil => rfl
    | cons p l ih =>
        rw [List.map_cons, List.prod_cons, ih]
        by_cases hp : p.1 = s
        · rw [List.filter_cons_of_pos (by simpa using hp), if_pos hp, List.map_cons, List.prod_cons]
        · rw [List.filter_cons_of_neg (by simpa using hp), if_neg hp, one_mul]
  unfold masked rowsOf
  rw [hfilter, List.map_map]
  rfl

/-- Where the two products agree: the segment has a row, or the init value is 1. -/
theorem prod_agree_iff (tensor : Tensor α) (segmentIds : List Int) (initValue : α) (s : Int)
    (rest : List Int) :
    reduce (· * ·) 1 (masked tensor segmentIds 1 s rest) =
        rowsValue tensor segmentIds initValue .prod s (s :: rest) ↔
      (s ∉ segmentIds → initValue = 1) := by
  have hlen := length_rowsOf segmentIds s
  rw [reduce_mul, prod_masked]
  unfold rowsValue
  -- A segment without rows has the init value in one and 1 in the other.
  cases hrows : rowsOf segmentIds s with
  | nil =>
      rw [hrows, List.length_nil] at hlen
      have hs : s ∉ segmentIds := List.count_eq_zero.mp hlen.symm
      show (1 : α) = initValue ↔ _
      exact ⟨fun h _ => h.symm, fun h => (h hs).symm⟩
  | cons k later =>
      have hs : s ∈ segmentIds := by
        refine List.mem_of_getElem? (mem_rowsOf.mp (?_ : k ∈ rowsOf segmentIds s))
        rw [hrows]
        exact List.mem_cons_self
      refine iff_of_true ?_ fun h => absurd hs h
      have hfold : later.foldl (fun acc k => SegmentOp.prod.combine (row tensor k (s :: rest)) acc)
          (row tensor k (s :: rest)) =
          (later.map fun (k : Nat) => tensor.data (k :: rest)).foldl (fun acc a => a * acc)
            (tensor.data (k :: rest)) := by
        rw [List.foldl_map]
        rfl
      simp only [reduceCtorEq, if_false, hfold]
      rw [foldl_mul, List.map_cons, List.prod_cons]

/-! ## §4. The two implementations. -/

/-- The indices of a tensor of this shape. -/
def IsIndex (shape indices : List Int) : Prop :=
  List.Forall₂ (fun i n => 0 ≤ i ∧ i < n) indices shape

/-- Every positive shape has an index that begins with a given one. -/
theorem exists_isIndex {numSegments s : Int} {shape : List Int} (hs : 0 ≤ s) (hlt : s < numSegments)
    (hpos : ∀ n ∈ shape, 0 < n) : ∃ rest, IsIndex (numSegments :: shape) (s :: rest) := by
  refine ⟨shape.map fun _ => 0, List.Forall₂.cons ⟨hs, hlt⟩ ?_⟩
  rw [List.forall₂_map_left_iff, List.forall₂_same]
  exact fun n hn => ⟨le_refl 0, hpos n hn⟩

/-- The same value at every index of the second tensor. -/
def Agree (out out' : Tensor α) : Prop :=
  ∀ indices, IsIndex out'.shape indices → out.data indices = out'.data indices

/-- Every segment with rows, but not all of them, has at each inner index a row that `R`
prefers to the init value. -/
def RowsPreferred (R : α → α → Prop) (tensor : Tensor α) (segmentIds : List Int) (shape : List Int)
    (initValue : α) : Prop :=
  ∀ s rest, IsIndex shape (s :: rest) → s ∈ segmentIds → (∃ x ∈ segmentIds, x ≠ s) →
    ∃ k : Nat, segmentIds[k]? = some s ∧ R (tensor.data (k :: rest)) initValue

omit [Field α] [LinearOrder α] in

/-- Two outputs agree if they do in each segment at each inner index. -/
theorem agree_iff_forall {out out' : Tensor α} {numSegments : Int} {shape : List Int}
    (hshape : out'.shape = numSegments :: shape) {Q : Int → List Int → Prop}
    (hQ : ∀ s rest, 0 ≤ s → s < numSegments →
      (out.data (s :: rest) = out'.data (s :: rest) ↔ Q s rest)) :
    Agree out out' ↔ ∀ s rest, IsIndex out'.shape (s :: rest) → Q s rest := by
  unfold Agree
  rw [hshape]
  constructor
  · intro h s rest hindex
    obtain ⟨⟨hs, hlt⟩, -⟩ := List.forall₂_cons.mp hindex
    exact (hQ s rest hs hlt).mp (h _ hindex)
  · intro h indices hindex
    cases hindex with
    | cons hbounds hrest =>
        exact (hQ _ _ hbounds.1 hbounds.2).mpr (h _ _ (List.Forall₂.cons hbounds hrest))

/-- **When the two implementations agree.**  Where neither raises, the one with a tensor
of ids and the one with the list of the same ids give the same value at every output
index exactly if: for `prod`, the init value is 1 or every segment has a row; for `min`
(and `max`), every segment with rows but not all of them has, at each inner index, a
row not above (not below) the init value. -/
theorem segments_agree_iff (L : Limits α) (tensor : Tensor α) (segmentIds : List Int)
    (numSegments : Int) (initValue : α) (out out' : Tensor α) :
    (unsortedSegmentProd L tensor (.tensor (idsTensor segmentIds)) numSegments initValue = .ok out →
      unsortedSegmentProd L tensor (.list segmentIds) numSegments initValue = .ok out' →
        (Agree out out' ↔ ∀ s, 0 ≤ s → s < numSegments → s ∉ segmentIds → initValue = 1)) ∧
    (unsortedSegmentMin L tensor (.tensor (idsTensor segmentIds)) numSegments initValue = .ok out →
      unsortedSegmentMin L tensor (.list segmentIds) numSegments initValue = .ok out' →
        (Agree out out' ↔
          RowsPreferred (fun a b => a ≤ b) tensor segmentIds out'.shape initValue)) ∧
    (unsortedSegmentMax L tensor (.tensor (idsTensor segmentIds)) numSegments initValue = .ok out →
      unsortedSegmentMax L tensor (.list segmentIds) numSegments initValue = .ok out' →
        (Agree out out' ↔
          RowsPreferred (fun a b => b ≤ a) tensor segmentIds out'.shape initValue)) := by
  -- Both results are compared at each output index: a masked fold, and a fold over rows.
  refine ⟨fun hmasked hlist => ?_, fun hmasked hlist => ?_, fun hmasked hlist => ?_⟩
  · obtain ⟨-, hpos, hshape, hvalue⟩ := segmentOp_spec hlist
    rw [agree_iff_forall hshape (Q := fun s _ => s ∉ segmentIds → initValue = 1)]
    · rw [hshape]
      constructor
      · intro h s hs hlt
        obtain ⟨rest, hindex⟩ := exists_isIndex hs hlt fun n hn => hpos n (List.mem_of_mem_tail hn)
        exact h s rest hindex
      · intro h s rest hindex
        obtain ⟨⟨hs, hlt⟩, -⟩ := List.forall₂_cons.mp hindex
        exact h s hs hlt
    · intro s rest hs hlt
      have htensor : segmentTensorOp L tensor (idsTensor segmentIds) numSegments 1 .prod
          = .ok out := hmasked
      rw [segmentTensorOp_spec htensor rfl, hvalue s rest hs hlt]
      exact prod_agree_iff tensor segmentIds initValue s rest
  · obtain ⟨hne, -, hshape, hvalue⟩ := segmentOp_spec hlist
    refine agree_iff_forall hshape fun s rest hs hlt => ?_
    have htensor : segmentTensorOp L tensor (idsTensor segmentIds) numSegments initValue .min
        = .ok out := hmasked
    rw [segmentTensorOp_spec htensor rfl, hvalue s rest hs hlt]
    exact choice_agree_iff Lib.chooses_min (fun _ _ => rfl) (by decide) tensor hne initValue _ s
      rest
  · obtain ⟨hne, -, hshape, hvalue⟩ := segmentOp_spec hlist
    refine agree_iff_forall hshape fun s rest hs hlt => ?_
    have htensor : segmentTensorOp L tensor (idsTensor segmentIds) numSegments initValue .max
        = .ok out := hmasked
    rw [segmentTensorOp_spec htensor rfl, hvalue s rest hs hlt]
    exact choice_agree_iff Lib.chooses_max (fun _ _ => rfl) (by decide) tensor hne initValue _ s
      rest

/-! ## Two rows, two segments. -/

/-- The rows 5 and 7. -/
def twoRows : Tensor ℚ where
  dtype := "int32"
  shape := [2]
  data indices := if indices = [0] then 5 else 7

/-- The limits of int32. -/
def int32Limits : Limits ℚ where
  minValue := -2147483648
  maxValue := 2147483647

/-- The law for the minimum at these rows, one in each segment. -/
theorem segments_agree_iff_twoRows :
    ∃ out out', unsortedSegmentMin int32Limits twoRows (.tensor (idsTensor [0, 1])) 2 9 = .ok out ∧
      unsortedSegmentMin int32Limits twoRows (.list [0, 1]) 2 9 = .ok out' ∧
      (Agree out out' ↔ RowsPreferred (fun a b => a ≤ b) twoRows [0, 1] out'.shape 9) :=
  ⟨_, _, rfl, rfl, (segments_agree_iff int32Limits twoRows [0, 1] 2 9 _ _).2.1 rfl rfl⟩

/-- Row 0 in segment 0, row 1 in segment 1, with the default init value 0: the minimum of
segment 0 is 0 with a tensor of ids, and 5 with a list.  And with both rows in segment
0 the product of the missing segment 1 is 1 with a tensor, and 0 with a list. -/
theorem init_value_disagrees :
    (∃ out out', unsortedSegmentMin int32Limits twoRows (.tensor (idsTensor [0, 1])) 2 0 = .ok out ∧
      unsortedSegmentMin int32Limits twoRows (.list [0, 1]) 2 0 = .ok out' ∧
      out.data [0] = 0 ∧ out'.data [0] = 5) ∧
    ∃ out out', unsortedSegmentProd int32Limits twoRows (.tensor (idsTensor [0, 0])) 2 0 = .ok out ∧
      unsortedSegmentProd int32Limits twoRows (.list [0, 0]) 2 0 = .ok out' ∧
      out.data [1] = 1 ∧ out'.data [1] = 0 := by
  exact ⟨⟨_, _, rfl, rfl, by decide +kernel, by decide +kernel⟩, _, _, rfl, rfl,
    by decide +kernel, by decide +kernel⟩

end HwEfat.AutoSchedule
