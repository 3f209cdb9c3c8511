/-
  HwEfat.AutoSchedule.TupleSum.Axes — axes that mean the same dimensions.

  An axis argument may count from the back, repeat itself and come in any order.
  `refine_axis` sorts the dimensions and keeps the repetitions; `reduce_axis_check` drops
  them.  `compute_func` gives the first reduce axes to the dimensions and looks at no other
  (`value_repeated`), so that with repetitions it sums over the box of the first extents,
  and multiplies by the others.

  Main result: `extents_iff`, on which repetitions change nothing.
-/
import HwEfat.AutoSchedule.TupleSum.Def
import HwEfat.Lib.Except
import Mathlib.Data.List.Dedup
import Mathlib.Data.List.GetD
import Mathlib.Data.List.Sort
import Mathlib.Algebra.Order.BigOperators.Group.List

namespace HwEfat.AutoSchedule.TupleSum

open HwEfat.Lib HwEfat.Lib.Box

/-! ## §1. What an axis argument means. -/

/-- Every axis is one of the shape. -/
def Axis.InRange (axis : Axis) (shapeLen : Nat) : Prop :=
  ∀ i ∈ axis.localAxis, -(shapeLen : Int) ≤ i ∧ i < shapeLen

/-- The dimensions that are meant, as they come. -/
def Axis.dims (axis : Axis) (shapeLen : Nat) : List Nat :=
  axis.localAxis.map fun i => (fromFront shapeLen i).toNat

/-- The dimensions in order, with repetitions. -/
def Axis.sorted (axis : Axis) (shapeLen : Nat) : List Nat :=
  (axis.dims shapeLen).mergeSort (· ≤ ·)

/-- The dimensions in order, each once. -/
def Axis.normal (axis : Axis) (shapeLen : Nat) : List Nat :=
  (axis.dims shapeLen).dedup.mergeSort (· ≤ ·)

section Meaning

variable {axis : Axis} {n : Nat}

/-- An axis of the shape is a dimension when it is counted from the front. -/
theorem fromFront_range {i : Int} (h : -(n : Int) ≤ i ∧ i < n) :
    0 ≤ fromFront n i ∧ fromFront n i < n := by
  unfold fromFront
  split <;> omega

/-- `refine_axis` gives the dimensions in order, with their repetitions. -/
theorem refineAxis_eq (h : axis.InRange n) : refineAxis axis n = .ok (axis.sorted n) := by
  have hmap : axis.localAxis.mapM (fun i => do
      let laxis := fromFront n i
      raiseIf (laxis ≥ n ∨ laxis < 0) (.runtimeError
        ("laxis [" ++ toString laxis ++ "] must less than shape_len [" ++ toString n ++
          "] and bigger than zero!"))
      return laxis.toNat) = .ok (axis.dims n) := by
    refine mapM_eq_map fun i hi => ?_
    obtain ⟨hlow, hhigh⟩ := fromFront_range (h i hi)
    have hnot : ¬ (fromFront n i ≥ n ∨ fromFront n i < 0) := by omega
    simp only [raiseIf, if_neg hnot]
    rfl
  unfold refineAxis
  rw [hmap]
  rfl

/-- `reduce_axis_check` gives each of them once. -/
theorem reduceAxisCheck_eq (h : axis.InRange n) :
    reduceAxisCheck n axis.localAxis = .ok (axis.normal n) := by
  have hmap : axis.localAxis.mapM (axisValueTypeCheck n) = .ok (axis.dims n) := by
    refine mapM_eq_map fun i hi => ?_
    obtain ⟨hlow, hhigh⟩ := h i hi
    have hnot : ¬ (i ≥ n ∨ i < -(n : Int)) := by omega
    unfold axisValueTypeCheck
    simp only [raiseIf, if_neg hnot]
    rfl
  unfold reduceAxisCheck
  rw [hmap]
  rfl

/-- The dimensions that are meant are dimensions of the shape. -/
theorem lt_of_mem_dims (h : axis.InRange n) {d : Nat} (hd : d ∈ axis.dims n) : d < n := by
  obtain ⟨i, hi, rfl⟩ := List.mem_map.mp hd
  have hrange := fromFront_range (h i hi)
  omega

/-- Sorting keeps the dimensions. -/
@[simp] theorem mem_sorted {d : Nat} : d ∈ axis.sorted n ↔ d ∈ axis.dims n :=
  List.mem_mergeSort

/-- So does normalising. -/
@[simp] theorem mem_normal {d : Nat} : d ∈ axis.normal n ↔ d ∈ axis.dims n :=
  List.mem_mergeSort.trans List.mem_dedup

/-- Normalised axes do not repeat. -/
theorem nodup_normal : (axis.normal n).Nodup :=
  (List.mergeSort_perm _ _).nodup_iff.mpr (List.nodup_dedup _)

/-- The sorted axes are in order. -/
theorem pairwise_sorted : (axis.sorted n).Pairwise (· ≤ ·) :=
  List.pairwise_mergeSort' (· ≤ ·) _

/-- So are the normalised ones. -/
theorem pairwise_normal : (axis.normal n).Pairwise (· ≤ ·) :=
  List.pairwise_mergeSort' (· ≤ ·) _

/-- Dropping the repetitions after sorting is sorting what is left of them. -/
theorem dedup_sorted : (axis.sorted n).dedup = axis.normal n := by
  have hperm : (axis.sorted n).dedup.Perm (axis.normal n) := by
    rw [List.perm_ext_iff_of_nodup (List.nodup_dedup _) nodup_normal]
    intro d
    rw [List.mem_dedup, mem_sorted, mem_normal]
  exact hperm.eq_of_pairwise' (pairwise_sorted.sublist (List.dedup_sublist _)) pairwise_normal

/-- Sorting keeps the repetitions. -/
theorem count_sorted (d : Nat) : (axis.sorted n).count d = (axis.dims n).count d :=
  (List.mergeSort_perm _ _).count_eq d

/-- Axes that mean the same dimensions are normalised to the same list. -/
theorem normal_congr {axis' : Axis} (h : ∀ d, d ∈ axis.dims n ↔ d ∈ axis'.dims n) :
    axis.normal n = axis'.normal n := by
  have hperm : (axis.normal n).Perm (axis'.normal n) := by
    rw [List.perm_ext_iff_of_nodup nodup_normal nodup_normal]
    intro d
    rw [mem_normal, mem_normal, h]
  exact hperm.eq_of_pairwise' pairwise_normal pairwise_normal

/-- The normalised axes as an argument. -/
def Axis.normalised (axis : Axis) (n : Nat) : Axis := .list ((axis.normal n).map (↑))

/-- The normalised axes as an argument mean themselves. -/
theorem dims_normalised : (axis.normalised n).dims n = axis.normal n := by
  unfold Axis.normalised Axis.dims Axis.localAxis
  rw [List.map_map]
  refine (List.map_congr_left fun d _ => ?_).trans (List.map_id _)
  show (fromFront n (d : Int)).toNat = d
  unfold fromFront
  split <;> omega

/-- They are in order already. -/
theorem sorted_normalised : (axis.normalised n).sorted n = axis.normal n := by
  have hperm : ((axis.normalised n).sorted n).Perm (axis.normal n) := by
    unfold Axis.sorted
    rw [dims_normalised]
    exact List.mergeSort_perm _ _
  exact hperm.eq_of_pairwise' pairwise_sorted pairwise_normal

/-- They are axes of the shape. -/
theorem inRange_normalised (h : axis.InRange n) : (axis.normalised n).InRange n := by
  intro i hi
  obtain ⟨d, hd, rfl⟩ := List.mem_map.mp hi
  have hlt := lt_of_mem_dims h (mem_normal.mp hd)
  omega

/-- Axes remain when an argument is normalised. -/
theorem normalised_ne_nil (h : axis.localAxis ≠ []) :
    (axis.normalised n).localAxis ≠ [] := by
  obtain ⟨i, hi⟩ := List.exists_mem_of_ne_nil _ h
  have hmem : (fromFront n i).toNat ∈ axis.normal n := mem_normal.mpr (List.mem_map_of_mem hi)
  exact List.ne_nil_of_mem (List.mem_map_of_mem hmem)

/-- The normalised axes tell the last one. -/
theorem isLastAxis_normalised (hn : 0 < n) :
    isLastAxis n (axis.normalised n) = true ↔ n - 1 ∈ axis.dims n := by
  have hcast : ((n : Int) - 1) = ((n - 1 : Nat) : Int) := by omega
  unfold isLastAxis Axis.normalised Axis.localAxis
  rw [decide_eq_true_iff, hcast, ← mem_normal]
  exact List.mem_map_of_injective Nat.cast_injective

/-- An axis that says it is the last one means it. -/
theorem mem_dims_of_isLastAxis (hn : 0 < n) (h : isLastAxis n axis = true) :
    n - 1 ∈ axis.dims n := by
  unfold isLastAxis at h
  have hlast := List.mem_map_of_mem (f := fun i => (fromFront n i).toNat) (decide_eq_true_iff.mp h)
  have hfront : (fromFront n ((n : Int) - 1)).toNat = n - 1 := by
    unfold fromFront
    split <;> omega
  rwa [hfront] at hlast

end Meaning

/-! ## §2. The index of a term. -/

section Indices

variable {axis axis' : List Nat} {keepdims : Bool}

/-- The number of reduce axes that are looked at. -/
def used (axis indexes : List Nat) : Nat := indexes.countP (· ∈ axis)

/-- The index into the input depends on which dimensions are reduced only. -/
theorem resIndice_congr (h : ∀ d, d ∈ axis ↔ d ∈ axis') (indexes indice ks : List Nat) :
    resIndice axis keepdims indexes indice ks = resIndice axis' keepdims indexes indice ks := by
  induction indexes generalizing indice ks with
  | nil => rfl
  | cons index indexes ih =>
      unfold resIndice
      simp only [h, ih]

/-- Reduce axes that are left over are not looked at. -/
theorem resIndice_take (indexes indice ks : List Nat) :
    resIndice axis keepdims indexes indice (ks.take (used axis indexes))
      = resIndice axis keepdims indexes indice ks := by
  unfold used
  induction indexes generalizing indice ks with
  | nil => rfl
  | cons index indexes ih =>
      unfold resIndice
      by_cases hmem : index ∈ axis
      · rw [if_pos hmem, if_pos hmem, List.countP_cons_of_pos (by simpa using hmem)]
        cases ks with
        | nil =>
            rw [List.take_nil]
        | cons k ks =>
            rw [List.take_succ_cons]
            simp only [List.headD_cons, List.tail_cons, ih]
      · rw [if_neg hmem, if_neg hmem, List.countP_cons_of_neg (by simpa using hmem), ih]

/-- Those that are looked at can be told from the index. -/
theorem resIndice_inj (indexes indice : List Nat) {ks ks' : List Nat}
    (hks : ks.length = used axis indexes) (hks' : ks'.length = used axis indexes)
    (h : resIndice axis keepdims indexes indice ks
      = resIndice axis keepdims indexes indice ks') : ks = ks' := by
  unfold used at hks hks'
  induction indexes generalizing indice ks ks' with
  | nil =>
      rw [List.countP_nil, List.length_eq_zero_iff] at hks hks'
      rw [hks, hks']
  | cons index indexes ih =>
      unfold resIndice at h
      by_cases hmem : index ∈ axis
      · rw [List.countP_cons_of_pos (by simpa using hmem)] at hks hks'
        obtain ⟨k, ks, rfl⟩ := List.exists_cons_of_length_eq_add_one hks
        obtain ⟨k', ks', rfl⟩ := List.exists_cons_of_length_eq_add_one hks'
        rw [if_pos hmem, if_pos hmem, List.headD_cons, List.headD_cons, List.tail_cons,
          List.tail_cons, List.cons.injEq] at h
        rw [h.1, ih _ (by simpa using hks) (by simpa using hks') h.2]
      · rw [List.countP_cons_of_neg (by simpa using hmem)] at hks hks'
        rw [if_neg hmem, if_neg hmem, List.cons.injEq] at h
        exact ih _ hks hks' h.2

/-- There is a dimension for each of the normalised axes. -/
theorem used_range {n : Nat} (hnodup : axis.Nodup) (hlt : ∀ d ∈ axis, d < n) :
    used axis (List.range n) = axis.length := by
  have hperm : ((List.range n).filter (· ∈ axis)).Perm axis := by
    rw [List.perm_ext_iff_of_nodup (List.nodup_range.filter _) hnodup]
    intro d
    rw [List.mem_filter, List.mem_range, decide_eq_true_iff]
    exact ⟨And.right, fun hd => ⟨hlt d hd, hd⟩⟩
  unfold used
  rw [List.countP_eq_length_filter, hperm.length_eq]

end Indices

/-! ## §3. The extents of the reduce axes. -/

/-- The extents of the dimensions of a list. -/
def extents (shape dims : List Nat) : List Nat := dims.map fun d => shape.getD d 0

section Extents

variable {shape : List Nat}

/-- The extent of the first dimension comes first. -/
theorem extents_cons (d : Nat) (dims : List Nat) :
    extents shape (d :: dims) = shape.getD d 0 :: extents shape dims := rfl

/-- A one among the ones before. -/
theorem replicate_one_append (p : Nat) (l : List Nat) :
    List.replicate (p + 1) 1 ++ l = List.replicate p 1 ++ 1 :: l := by
  rw [List.replicate_succ', List.append_assoc, List.singleton_append]

/-- Without empty dimensions, every extent is one at least. -/
theorem extents_pos (hshape : 0 ∉ shape) {dims : List Nat} (h : ∀ d ∈ dims, d < shape.length) :
    ∀ e ∈ extents shape dims, 1 ≤ e := by
  intro e he
  obtain ⟨d, hd, rfl⟩ := List.mem_map.mp he
  have hmem : shape.getD d 0 ∈ shape := by
    rw [List.getD_eq_getElem _ _ (h d hd)]
    exact List.getElem_mem _
  by_contra hzero
  have heq : shape.getD d 0 = 0 := by omega
  rw [heq] at hmem
  exact hshape hmem

/-- Extents that repeat the ones before: where the list goes on with further ones, all are
ones. -/
theorem ones_of_shift {dims : List Nat} (hsorted : dims.Pairwise (· ≤ ·)) {p k : Nat}
    (hp : 1 ≤ p)
    (h : List.replicate p 1 ++ extents shape dims
      = extents shape dims.dedup ++ List.replicate k 1) :
    ∀ d ∈ dims, shape.getD d 0 = 1 := by
  induction dims generalizing p with
  | nil => exact fun d hd => by cases hd
  | cons d dims ih =>
      obtain ⟨p, rfl⟩ : ∃ p', p = p' + 1 := ⟨p - 1, by omega⟩
      have hrest : dims.Pairwise (· ≤ ·) := (List.pairwise_cons.mp hsorted).2
      by_cases hmem : d ∈ dims
      · -- The next dimension is this one again, so it is the first of those that differ.
        rw [List.dedup_cons_of_mem hmem] at h
        have hhead : ∃ rest, dims.dedup = d :: rest := by
          cases hdedup : dims.dedup with
          | nil =>
              have hd := List.mem_dedup.mpr hmem
              rw [hdedup] at hd
              cases hd
          | cons d' rest =>
              have hd' : d' ∈ dims := List.mem_dedup.mp (hdedup ▸ List.mem_cons_self ..)
              have hle : d ≤ d' := (List.pairwise_cons.mp hsorted).1 d' hd'
              have hle' : d' ≤ d := by
                have hpair : (d' :: rest).Pairwise (· ≤ ·) :=
                  hdedup ▸ hrest.sublist (List.dedup_sublist _)
                rcases List.mem_cons.mp (hdedup ▸ List.mem_dedup.mpr hmem) with heq | hlater
                · exact heq ▸ le_refl _
                · exact (List.pairwise_cons.mp hpair).1 d hlater
              exact ⟨rest, by rw [le_antisymm hle' hle]⟩
        obtain ⟨rest, hdedup⟩ := hhead
        have hone : shape.getD d 0 = 1 := by
          rw [hdedup, List.replicate_succ] at h
          exact (List.cons.inj h).1.symm
        have hnext : List.replicate (p + 2) 1 ++ extents shape dims
            = extents shape dims.dedup ++ List.replicate k 1 := by
          rw [← h, replicate_one_append, extents_cons, hone]
        intro d' hd'
        rcases List.mem_cons.mp hd' with rfl | hlater
        · exact hone
        · exact ih hrest (by omega) hnext d' hlater
      · rw [List.dedup_cons_of_notMem hmem, List.replicate_succ, extents_cons, extents_cons] at h
        obtain ⟨hone, htail⟩ := List.cons.inj h
        have hnext : List.replicate (p + 1) 1 ++ extents shape dims
            = extents shape dims.dedup ++ List.replicate k 1 := by
          rw [← hone] at htail
          rw [replicate_one_append]
          exact htail
        intro d' hd'
        rcases List.mem_cons.mp hd' with rfl | hlater
        · exact hone.symm
        · exact ih hrest (by omega) hnext d' hlater

/-- Dimensions of one element have extents of one. -/
theorem extents_ones {dims : List Nat} (h : ∀ d ∈ dims, shape.getD d 0 = 1) :
    extents shape dims = List.replicate dims.length 1 := by
  unfold extents
  rw [List.map_congr_left h, List.map_const']

/-- Extents with the product one. -/
theorem eq_ones_of_prod {es : List Nat} (hprod : es.prod = 1) :
    es = List.replicate es.length 1 :=
  List.eq_replicate_iff.mpr ⟨rfl, fun _ he =>
    Nat.dvd_one.mp (hprod ▸ List.dvd_prod he)⟩

/-- A dimension that is repeated multiplies what the dimensions after it have, so it has one
element. -/
theorem extent_of_repeated {d : Nat} {dims : List Nat} {k : Nat}
    (hpos : ∀ e ∈ extents shape (d :: dims), 1 ≤ e)
    (h : extents shape (d :: dims) = extents shape dims.dedup ++ List.replicate k 1) :
    shape.getD d 0 = 1 := by
  have hprod := congrArg List.prod h
  rw [extents_cons, List.prod_cons, List.prod_append, List.prod_replicate, one_pow, mul_one]
    at hprod
  have hle : (extents shape dims.dedup).prod ≤ (extents shape dims).prod :=
    ((List.dedup_sublist dims).map _).prod_le_prod' fun e he =>
      hpos e (List.mem_cons_of_mem _ he)
  have hone : 1 ≤ (extents shape dims).prod :=
    List.one_le_prod_of_one_le fun e he => hpos e (List.mem_cons_of_mem _ he)
  have hd : 1 ≤ shape.getD d 0 := hpos _ (List.mem_cons_self ..)
  have hmul : shape.getD d 0 * (extents shape dims).prod ≤ 1 * (extents shape dims).prod := by
    rw [hprod, one_mul]
    exact hle
  exact le_antisymm (Nat.le_of_mul_le_mul_right hmul hone) hd

/-- **The extents with the repetitions are those without, and then ones, exactly if from the
first repeated dimension on all that are meant have one element.** -/
theorem extents_iff {dims : List Nat} (hsorted : dims.Pairwise (· ≤ ·))
    (hpos : ∀ e ∈ extents shape dims, 1 ≤ e) :
    (∃ k, extents shape dims = extents shape dims.dedup ++ List.replicate k 1)
      ↔ ∀ r, 1 < dims.count r → ∀ d ∈ dims, r ≤ d → shape.getD d 0 = 1 := by
  induction dims with
  | nil => exact iff_of_true ⟨0, rfl⟩ fun r _ d hd => by cases hd
  | cons x dims ih =>
      obtain ⟨hfirst, hrest⟩ := List.pairwise_cons.mp hsorted
      have hpos' : ∀ e ∈ extents shape dims, 1 ≤ e := fun e he =>
        hpos e (List.mem_cons_of_mem _ he)
      by_cases hmem : x ∈ dims
      · have hcount : 1 < (x :: dims).count x := by
          rw [List.count_cons_self]
          exact Nat.lt_add_of_pos_left (List.count_pos_iff.mpr hmem)
        constructor
        · rintro ⟨k, h⟩
          rw [List.dedup_cons_of_mem hmem] at h
          have hone := extent_of_repeated hpos h
          rw [extents_cons, hone] at h
          have hall := ones_of_shift (p := 1) hrest (le_refl 1) h
          intro _ _ d hd _
          rcases List.mem_cons.mp hd with rfl | hlater
          · exact hone
          · exact hall d hlater
        · intro h
          have hall : ∀ d ∈ x :: dims, shape.getD d 0 = 1 := by
            intro d hd
            refine h x hcount d hd ?_
            rcases List.mem_cons.mp hd with rfl | hlater
            · exact le_refl _
            · exact hfirst d hlater
          have hlen := (List.dedup_sublist (x :: dims)).length_le
          refine ⟨(x :: dims).length - (x :: dims).dedup.length, ?_⟩
          rw [extents_ones hall, extents_ones fun d hd => hall d (List.mem_dedup.mp hd),
            List.replicate_append_replicate, Nat.add_sub_cancel' hlen]
      · -- The first dimension is not repeated, and lies before those that are.
        rw [List.dedup_cons_of_notMem hmem]
        have hhead : (∃ k, extents shape (x :: dims)
            = extents shape (x :: dims.dedup) ++ List.replicate k 1)
              ↔ ∃ k, extents shape dims = extents shape dims.dedup ++ List.replicate k 1 := by
          refine exists_congr fun k => ?_
          rw [extents_cons, extents_cons, List.cons_append, List.cons.injEq]
          exact and_iff_right rfl
        rw [hhead, ih hrest hpos']
        have hcount : ∀ r, 1 < (x :: dims).count r ↔ 1 < dims.count r := by
          intro r
          by_cases hr : x = r
          · subst hr
            rw [List.count_cons_self, List.count_eq_zero_of_not_mem hmem]
            omega
          · rw [List.count_cons_of_ne hr]
        refine forall_congr' fun r => ?_
        rw [hcount r]
        refine imp_congr_right fun hr => ?_
        rw [List.forall_mem_cons]
        refine ⟨fun h => ⟨fun hle => ?_, h⟩, And.right⟩
        have hr' : r ∈ dims := List.count_pos_iff.mp (by omega)
        exact absurd (le_antisymm (hfirst r hr') hle ▸ hr') hmem

end Extents

end HwEfat.AutoSchedule.TupleSum
