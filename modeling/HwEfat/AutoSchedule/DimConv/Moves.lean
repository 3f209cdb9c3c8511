/-
  HwEfat.AutoSchedule.DimConv.Moves — what the instructions of the layout programs move.

  The programs only move data, so what a cell holds in the end is decided by its origin.
  Here are the origins through one copy (`origin_emit`), one scatter (`origin_scatter`)
  and one loop (`origin_forRange`), and which cells each of them writes and reads.
-/
import HwEfat.AutoSchedule.DimConv.Def

namespace HwEfat.AutoSchedule.DimConv

open HwEfat.Lib
open HwEfat.Lib.Transfer (Touches origin)

/-- The data movements of a program. -/
def moves (prog : List Instr) : List (Transfer (Transfer.Cell Mem)) :=
  prog.flatMap Instr.transfers

instance : Nontrivial Fp16 := ⟨0, 1, by decide⟩

/-- A cell at the end has what its origin had. -/
theorem execute_apply (prog : List Instr) (m : Memory) (c : Transfer.Cell Mem) :
    execute prog m c = m (origin (moves prog) c) :=
  Transfer.run_apply (moves prog) m c

@[simp] theorem moves_append (prog prog' : List Instr) :
    moves (prog ++ prog') = moves prog ++ moves prog' := by
  unfold moves
  rw [List.flatMap_append]

/-! ## §1. Loops. -/

/-- The moves of a loop. -/
theorem moves_forRange (n : Nat) (body : Nat → List Instr) :
    moves (forRange n body) = forRange n fun i => moves (body i) := by
  unfold moves forRange
  rw [List.flatMap_assoc]

/-- What is in one of the turns. -/
theorem mem_forRange {α : Type} {n : Nat} {body : Nat → List α} {a : α} :
    a ∈ forRange n body ↔ ∃ i < n, a ∈ body i := by
  unfold forRange
  simp only [List.mem_flatMap, List.mem_range]

/-- A loop writes what a turn writes. -/
theorem touches_forRange {n : Nat} {body : Nat → List (Transfer (Transfer.Cell Mem))}
    {c : Transfer.Cell Mem} : Touches (forRange n body) c ↔ ∃ i < n, Touches (body i) c := by
  unfold forRange
  simp only [Transfer.touches_flatMap, List.mem_range]

/-- A range, split at one of its numbers. -/
theorem range_split {n x : Nat} (hx : x < n) :
    ∃ post, List.range n = List.range x ++ x :: post ∧ ∀ y ∈ post, x < y ∧ y < n := by
  obtain ⟨k, hk⟩ := Nat.exists_eq_add_of_lt hx
  refine ⟨(List.range k).map (x + 1 + ·), ?_, ?_⟩
  · rw [hk, Nat.add_right_comm, List.range_add, List.range_succ, List.append_assoc]
    rfl
  · intro y hy
    obtain ⟨i, hi, heq⟩ := List.mem_map.mp hy
    rw [List.mem_range] at hi
    omega

/-- Later passes that do not write the cell do not matter. -/
theorem origin_forRange {n x : Nat} (hx : x < n)
    {body : Nat → List (Transfer (Transfer.Cell Mem))} {c : Transfer.Cell Mem}
    (honly : ∀ y, y < n → Touches (body y) c → y = x) :
    origin (forRange n body) c = origin (forRange x body) (origin (body x) c) := by
  obtain ⟨post, hl, hpost⟩ := range_split hx
  unfold forRange
  refine Transfer.origin_flatMap hl fun y hy htouch => ?_
  obtain ⟨hlt, hn⟩ := hpost y hy
  have heq := honly y hn htouch
  omega

/-- Where only the first turn writes a cell. -/
theorem origin_forRange_first {n : Nat} (hn : 0 < n)
    {body : Nat → List (Transfer (Transfer.Cell Mem))} {c : Transfer.Cell Mem}
    (honly : ∀ y, y < n → Touches (body y) c → y = 0) :
    origin (forRange n body) c = origin (body 0) c :=
  origin_forRange hn honly

/-- Only the pass `x` writes the cell, and it takes the content from a cell that the loop
does not write. -/
theorem origin_forRange_of_fixed {n x : Nat} (hx : x < n)
    {body : Nat → List (Transfer (Transfer.Cell Mem))} {c d : Transfer.Cell Mem}
    (honly : ∀ y, y < n → Touches (body y) c → y = x) (hfrom : origin (body x) c = d)
    (hfixed : ∀ y, y < n → ¬ Touches (body y) d) : origin (forRange n body) c = d := by
  rw [origin_forRange hx honly, hfrom]
  apply Transfer.origin_of_not_touches
  rw [touches_forRange]
  intro ⟨y, hy, htouch⟩
  exact hfixed y (Nat.lt_trans hy hx) htouch

/-! ## §2. Copies. -/

/-- A number of elements, in whole bursts. -/
def bursts (size : Nat) : Nat := 16 * ((size + 15) / 16)

/-- The bursts cover the data. -/
theorem le_bursts (size : Nat) : size ≤ bursts size := by
  unfold bursts
  omega

/-- Of whole bursts nothing is left over. -/
theorem bursts_of_dvd {size : Nat} (h : 16 ∣ size) : bursts size = size := by
  unfold bursts
  omega

section Emit

variable {size dstOffset srcOffset : Nat} {dst src : Buffer}

/-- What a copy of less than 2^21 elements moves. -/
theorem moves_emit (hsize : size < 2 ^ 16 * 32) :
    moves (emitCopyGmUbuf size dst dstOffset src srcOffset)
      = if 0 < size then
          [Transfer.copy dst.mem (dst.base + dstOffset) src.mem (src.base + srcOffset)
            (bursts size)]
        else [] := by
  unfold emitCopyGmUbuf
  rw [Nat.mod_eq_of_lt hsize, Nat.div_eq_of_lt hsize]
  by_cases hpos : 0 < size
  · rw [if_pos hpos, if_pos hpos]
    simp [moves, Instr.transfers, Buffer.accessPtr, bursts]
  · rw [if_neg hpos, if_neg hpos]
    rfl

/-- Each element of the bursts goes to its place, and nothing else moves. -/
theorem of_mem_emit (hsize : size < 2 ^ 16 * 32) {t : Transfer (Transfer.Cell Mem)}
    (ht : t ∈ moves (emitCopyGmUbuf size dst dstOffset src srcOffset))
    {c s : Transfer.Cell Mem} (hs : t c = some s) :
    ∃ i < bursts size, c = ⟨dst.mem, dst.base + dstOffset + i⟩ ∧
      s = ⟨src.mem, src.base + srcOffset + i⟩ := by
  rw [moves_emit hsize] at ht
  split at ht
  · rw [List.mem_singleton] at ht
    subst ht
    exact Transfer.copy_eq_some.mp hs
  · cases ht

/-- The cells that a copy writes. -/
theorem touches_emit (hsize : size < 2 ^ 16 * 32) {c : Transfer.Cell Mem} :
    Touches (moves (emitCopyGmUbuf size dst dstOffset src srcOffset)) c
      ↔ ∃ i < bursts size, c = ⟨dst.mem, dst.base + dstOffset + i⟩ := by
  constructor
  · intro ⟨t, ht, s, hs⟩
    obtain ⟨i, hi, hc, _⟩ := of_mem_emit hsize ht hs
    exact ⟨i, hi, hc⟩
  · intro ⟨i, hi, hc⟩
    have hpos : 0 < size := by
      unfold bursts at hi
      omega
    rw [moves_emit hsize, if_pos hpos]
    exact ⟨_, List.mem_singleton.mpr rfl, _, Transfer.copy_eq_some.mpr ⟨i, hi, hc, rfl⟩⟩

/-- Where they come from. -/
theorem origin_emit (hsize : size < 2 ^ 16 * 32) {i : Nat} (hi : i < bursts size) :
    origin (moves (emitCopyGmUbuf size dst dstOffset src srcOffset))
        ⟨dst.mem, dst.base + dstOffset + i⟩
      = ⟨src.mem, src.base + srcOffset + i⟩ := by
  have hpos : 0 < size := by
    unfold bursts at hi
    omega
  rw [moves_emit hsize, if_pos hpos, Transfer.origin_cons, Transfer.origin_nil]
  exact Transfer.source_copy hi

end Emit

/-! ## §3. Scatters. -/

section Scatter

variable {va : VaConfig} {repeats dstStride srcStride : Nat}

/-- A scatter moves one block for each repeat. -/
theorem moves_scatter :
    moves [.scatterVnchwconvB16 va repeats dstStride srcStride]
      = forRange repeats fun k => [transpose va dstStride srcStride k] := by
  unfold moves
  rw [List.flatMap_cons, List.flatMap_nil, List.append_nil]
  rfl

/-- What one repeat writes, and from where. -/
theorem of_transpose_eq_some {k : Nat} {c s : Transfer.Cell Mem}
    (h : transpose va dstStride srcStride k c = some s) :
    ∃ i < 16, ∃ j < 16, c = ⟨.ub, va.dstRow dstStride k i + j⟩ ∧
      s = ⟨.ub, va.srcRow srcStride k j + i⟩ := by
  obtain ⟨buf, addr⟩ := c
  unfold transpose at h
  split at h
  · next hbuf =>
      obtain ⟨i, hi, hrow⟩ := List.exists_of_findSome?_eq_some h
      dsimp only at hbuf hrow
      split at hrow
      · next hin =>
          obtain ⟨hle, hlt⟩ := hin
          refine ⟨i, List.mem_range.mp hi, addr - va.dstRow dstStride k i, by omega, ?_,
            (Option.some.inj hrow).symm⟩
          rw [hbuf, Nat.add_sub_cancel' hle]
      · cases hrow
  · cases h

/-- What a scatter writes, and from where. -/
theorem of_mem_scatter {t : Transfer (Transfer.Cell Mem)}
    (ht : t ∈ moves [.scatterVnchwconvB16 va repeats dstStride srcStride])
    {c s : Transfer.Cell Mem} (hs : t c = some s) :
    ∃ k < repeats, ∃ i < 16, ∃ j < 16, c = ⟨.ub, va.dstRow dstStride k i + j⟩ ∧
      s = ⟨.ub, va.srcRow srcStride k j + i⟩ := by
  rw [moves_scatter, mem_forRange] at ht
  obtain ⟨k, hk, ht⟩ := ht
  rw [List.mem_singleton] at ht
  subst ht
  exact ⟨k, hk, of_transpose_eq_some hs⟩

/-- A repeat takes an element of a row from the right place, if no other row reaches it. -/
theorem transpose_eq_some {k i j : Nat} (hi : i < 16) (hj : j < 16)
    (hrow : ∀ i' < 16, ∀ j' < 16,
      va.dstRow dstStride k i' + j' = va.dstRow dstStride k i + j → i' = i ∧ j' = j) :
    transpose va dstStride srcStride k ⟨.ub, va.dstRow dstStride k i + j⟩
      = some ⟨.ub, va.srcRow srcStride k j + i⟩ := by
  cases h : transpose va dstStride srcStride k ⟨.ub, va.dstRow dstStride k i + j⟩ with
  | none =>
      unfold transpose at h
      rw [if_pos rfl, List.findSome?_eq_none_iff] at h
      have hnone := h i (List.mem_range.mpr hi)
      rw [if_pos ⟨Nat.le_add_right _ _, by dsimp only; omega⟩] at hnone
      cases hnone
  | some s =>
      obtain ⟨i', hi', j', hj', hc, hs⟩ := of_transpose_eq_some h
      injection hc with _ haddr
      obtain ⟨rfl, rfl⟩ := hrow i' hi' j' hj' haddr.symm
      rw [hs]

/-- **The origin through a scatter**: the rows do not overlap, and the source is not
written itself. -/
theorem origin_scatter {k i j : Nat} (hk : k < repeats) (hi : i < 16) (hj : j < 16)
    (hrow : ∀ k' < repeats, ∀ i' < 16, ∀ j' < 16,
      va.dstRow dstStride k' i' + j' = va.dstRow dstStride k i + j →
        k' = k ∧ i' = i ∧ j' = j)
    (hsrc : ∀ k' < repeats, ∀ i' < 16, ∀ j' < 16,
      va.dstRow dstStride k' i' + j' ≠ va.srcRow srcStride k j + i) :
    origin (moves [.scatterVnchwconvB16 va repeats dstStride srcStride])
        ⟨.ub, va.dstRow dstStride k i + j⟩
      = ⟨.ub, va.srcRow srcStride k j + i⟩ := by
  rw [moves_scatter]
  refine origin_forRange_of_fixed hk ?_ ?_ ?_
  · intro y hy ⟨t, ht, s, hs⟩
    rw [List.mem_singleton] at ht
    subst ht
    obtain ⟨i', hi', j', hj', hc, _⟩ := of_transpose_eq_some hs
    injection hc with _ haddr
    exact (hrow y hy i' hi' j' hj' haddr.symm).1
  · rw [Transfer.origin_cons, Transfer.origin_nil]
    apply Transfer.source_of_some
    exact transpose_eq_some hi hj fun i' hi' j' hj' heq => (hrow k hk i' hi' j' hj' heq).2
  · intro y hy ⟨t, ht, s, hs⟩
    rw [List.mem_singleton] at ht
    subst ht
    obtain ⟨i', hi', j', hj', hc, _⟩ := of_transpose_eq_some hs
    injection hc with _ haddr
    exact hsrc y hy i' hi' j' hj' haddr.symm

end Scatter

/-! ## §4. The loops over the batches, the C1 blocks and the cubes. -/

section Nest

variable {n c1Begin c1End cubes : Nat} {body : Nat → Nat → Nat → List Instr}

/-- The loops of `_four2five_intrin` and `_five2four_intrin`. -/
def nest (n c1Begin c1End cubes : Nat) (body : Nat → Nat → Nat → List Instr) : List Instr :=
  forRange n fun idxN =>
    forRange (c1End - c1Begin) fun idxC1 =>
      forRange cubes fun cubeI => body idxN (idxC1 + c1Begin) cubeI

/-- A pass of the loops. -/
def InNest (n c1Begin c1End cubes idxN c1 cubeI : Nat) : Prop :=
  idxN < n ∧ c1Begin ≤ c1 ∧ c1 < c1End ∧ cubeI < cubes

/-- The moves of a nest of loops. -/
theorem mem_moves_nest {t : Transfer (Transfer.Cell Mem)} :
    t ∈ moves (nest n c1Begin c1End cubes body)
      ↔ ∃ idxN c1 cubeI, InNest n c1Begin c1End cubes idxN c1 cubeI ∧
        t ∈ moves (body idxN c1 cubeI) := by
  unfold nest InNest
  simp only [moves_forRange, mem_forRange]
  constructor
  · intro ⟨idxN, hn, idxC1, hc1, cubeI, hcube, ht⟩
    exact ⟨idxN, idxC1 + c1Begin, cubeI, ⟨hn, by omega, by omega, hcube⟩, ht⟩
  · intro ⟨idxN, c1, cubeI, ⟨hn, hle, hlt, hcube⟩, ht⟩
    refine ⟨idxN, hn, c1 - c1Begin, by omega, cubeI, hcube, ?_⟩
    rwa [Nat.sub_add_cancel hle]

/-- The cells that it writes. -/
theorem touches_nest {c : Transfer.Cell Mem} :
    Touches (moves (nest n c1Begin c1End cubes body)) c
      ↔ ∃ idxN c1 cubeI, InNest n c1Begin c1End cubes idxN c1 cubeI ∧
        Touches (moves (body idxN c1 cubeI)) c := by
  unfold Touches
  simp only [mem_moves_nest]
  constructor
  · intro ⟨t, ⟨idxN, c1, cubeI, hin, ht⟩, hs⟩
    exact ⟨idxN, c1, cubeI, hin, t, ht, hs⟩
  · intro ⟨idxN, c1, cubeI, hin, t, ht, hs⟩
    exact ⟨t, ⟨idxN, c1, cubeI, hin, ht⟩, hs⟩

/-- **The origin through the loops**: one pass alone writes the cell, from a cell that no
pass writes. -/
theorem origin_nest {idxN c1 cubeI : Nat} (hin : InNest n c1Begin c1End cubes idxN c1 cubeI)
    {c d : Transfer.Cell Mem} (hfrom : origin (moves (body idxN c1 cubeI)) c = d)
    (honly : ∀ idxN' c1' cubeI', InNest n c1Begin c1End cubes idxN' c1' cubeI' →
      Touches (moves (body idxN' c1' cubeI')) c → idxN' = idxN ∧ c1' = c1 ∧ cubeI' = cubeI)
    (hfixed : ¬ Touches (moves (nest n c1Begin c1End cubes body)) d) :
    origin (moves (nest n c1Begin c1End cubes body)) c = d := by
  have hfixed : ∀ idxN' c1' cubeI', InNest n c1Begin c1End cubes idxN' c1' cubeI' →
      ¬ Touches (moves (body idxN' c1' cubeI')) d :=
    fun idxN' c1' cubeI' hin' htouch =>
      hfixed (touches_nest.mpr ⟨idxN', c1', cubeI', hin', htouch⟩)
  -- Loop by loop: the other turns do not touch the cell, and none touches its source.
  obtain ⟨hn, hle, hlt, hcube⟩ := hin
  unfold nest
  simp only [moves_forRange]
  refine origin_forRange_of_fixed hn ?_ ?_ ?_
  · intro y hy htouch
    obtain ⟨idxC1, hc1, htouch⟩ := touches_forRange.mp htouch
    obtain ⟨cube, hcube', htouch⟩ := touches_forRange.mp htouch
    exact (honly y (idxC1 + c1Begin) cube ⟨hy, by omega, by omega, hcube'⟩ htouch).1
  · refine origin_forRange_of_fixed (x := c1 - c1Begin) (by omega) ?_ ?_ ?_
    · intro y hy htouch
      obtain ⟨cube, hcube', htouch⟩ := touches_forRange.mp htouch
      have heq := (honly idxN (y + c1Begin) cube ⟨hn, by omega, by omega, hcube'⟩ htouch).2.1
      omega
    · rw [Nat.sub_add_cancel hle]
      refine origin_forRange_of_fixed hcube ?_ hfrom
        fun y hy => hfixed idxN c1 y ⟨hn, hle, hlt, hy⟩
      intro y hy htouch
      exact (honly idxN c1 y ⟨hn, hle, hlt, hy⟩ htouch).2.2
    · intro y hy htouch
      obtain ⟨cube, hcube', htouch⟩ := touches_forRange.mp htouch
      exact hfixed _ _ _ ⟨hn, by omega, by omega, hcube'⟩ htouch
  · intro y hy htouch
    obtain ⟨idxC1, hc1, htouch⟩ := touches_forRange.mp htouch
    obtain ⟨cube, hcube', htouch⟩ := touches_forRange.mp htouch
    exact hfixed _ _ _ ⟨hy, by omega, by omega, hcube'⟩ htouch

/-- The first turn of a loop, and the others. -/
theorem forRange_pos {α : Type} {n : Nat} (hn : 0 < n) (body : Nat → List α) :
    forRange n body = body 0 ++ forRange (n - 1) fun i => body (i + 1) := by
  obtain ⟨k, rfl⟩ : ∃ k, n = k + 1 := ⟨n - 1, by omega⟩
  unfold forRange
  rw [List.range_succ_eq_map, List.flatMap_cons, List.flatMap_map]
  rfl

/-- The first turn of the loops. -/
theorem nest_first (hn : 0 < n) (hc1 : c1Begin < c1End) (hcubes : 0 < cubes) :
    ∃ rest, nest n c1Begin c1End cubes body = body 0 c1Begin 0 ++ rest := by
  unfold nest
  rw [forRange_pos hn, forRange_pos (Nat.sub_pos_of_lt hc1), forRange_pos hcubes,
    Nat.zero_add, List.append_assoc, List.append_assoc]
  exact ⟨_, rfl⟩

/-- Within the first batch and C1 block nothing comes before but the earlier cubes: a cell
that none of them reads is no origin. -/
theorem origin_nest_ne {cubeI : Nat} (hin : InNest n c1Begin c1End cubes 0 c1Begin cubeI)
    {c d : Transfer.Cell Mem} (hne : c ≠ d)
    (honly : ∀ idxN' c1' cubeI', InNest n c1Begin c1End cubes idxN' c1' cubeI' →
      Touches (moves (body idxN' c1' cubeI')) c → idxN' = 0 ∧ c1' = c1Begin ∧ cubeI' = cubeI)
    (hread : ∀ k, k ≤ cubeI → ∀ t ∈ moves (body 0 c1Begin k), ∀ c', t c' ≠ some d) :
    origin (moves (nest n c1Begin c1End cubes body)) c ≠ d := by
  obtain ⟨hn, _, hc1, hcube⟩ := hin
  have hbatch : ∀ y, y < n → Touches (forRange (c1End - c1Begin) fun idxC1 =>
      forRange cubes fun k => moves (body y (idxC1 + c1Begin) k)) c → y = 0 := by
    intro y hy htouch
    obtain ⟨idxC1, hc1', htouch⟩ := touches_forRange.mp htouch
    obtain ⟨cube, hcube', htouch⟩ := touches_forRange.mp htouch
    exact (honly y (idxC1 + c1Begin) cube ⟨hy, by omega, by omega, hcube'⟩ htouch).1
  have hblock : ∀ y, y < c1End - c1Begin → Touches (forRange cubes fun k =>
      moves (body 0 (y + c1Begin) k)) c → y = 0 := by
    intro y hy htouch
    obtain ⟨cube, hcube', htouch⟩ := touches_forRange.mp htouch
    have heq := (honly 0 (y + c1Begin) cube ⟨hn, by omega, by omega, hcube'⟩ htouch).2.1
    omega
  have hcubes : ∀ y, y < cubes → Touches (moves (body 0 (0 + c1Begin) y)) c → y = cubeI := by
    intro y hy htouch
    rw [Nat.zero_add] at htouch
    exact (honly 0 c1Begin y ⟨hn, Nat.le_refl _, hc1, hy⟩ htouch).2.2
  unfold nest
  simp only [moves_forRange]
  rw [origin_forRange_first hn hbatch, origin_forRange_first (Nat.sub_pos_of_lt hc1) hblock,
    origin_forRange hcube hcubes, Nat.zero_add]
  -- What comes before are the cubes up to this one, and they do not read `d`.
  refine Transfer.origin_mem (S := fun c => c ≠ d) (fun t ht c' s _ hs hd => ?_) ?_
  · obtain ⟨k, hk, ht⟩ := mem_forRange.mp ht
    exact hread k (Nat.le_of_lt hk) t ht c' (by rw [hs, hd])
  · exact Transfer.origin_mem (S := fun c => c ≠ d)
      (fun t ht c' s _ hs hd => hread cubeI (Nat.le_refl _) t ht c' (by rw [hs, hd])) hne

end Nest

end HwEfat.AutoSchedule.DimConv
