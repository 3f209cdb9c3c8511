/-
  HwEfat.AutoSchedule.DimConv.Four2Five — when `_four2five_ir` does what
  `convert_4d_to_5d_for_protogenes` says.

  `origin_move` follows one element back through the three steps of a cube, and
  `origin_four2five` through the whole program.  Two things go wrong when the columns are
  cut into several cubes: the full cubes of a batch are read from `n * N * N * N`, and a
  last cube of whole size counts as empty (`four2five_agrees_iff`).  And the program has
  no zero to write, so the padding channels hold what was in the unified buffer
  (`no_stale_data_iff`).
-/
import HwEfat.AutoSchedule.DimConv.Cubes

namespace HwEfat.AutoSchedule.DimConv

open HwEfat.Lib
open HwEfat.Lib.Transfer (Touches origin)

/-! ## §1. One cube. -/

section Move

variable {shape : Shape4D} {v : Locals} {hw : Nat}
  {c0Loop colSize batchOffset repeats storeSize idxN c1 cubeI : Nat}

/-- The sizes of the steps fit the cube. -/
structure MoveFits (v : Locals) (colSize repeats storeSize : Nat) : Prop where
  cols : bursts colSize ≤ v.vnchwconvCubeColSize
  rows : 16 * repeats ≤ v.vnchwconvCubeColSize
  store : storeSize ≤ v.vnchwconvCubeBufMax
  whole : 16 ∣ storeSize

/-- The columns of a move are fewer than a burst can count. -/
theorem MoveFits.colSize_lt (hfit : MoveFits v colSize repeats storeSize) (h : Tiling v hw) :
    colSize < 2 ^ 16 * 32 := by
  have hle := le_bursts colSize
  have hcols := hfit.cols
  have hmax := h.bufMax
  have hlt := h.lt
  omega

/-- Where the cube is copied to. -/
theorem four2five_dst (h : Tiling v (shape.h * shape.w)) :
    idxN * (v.c1Range * 16) * shape.h * shape.w + c1 * 16 * v.actualColSize
        + cubeI * v.vnchwconvCubeBufMax
      = 16 * ((idxN * v.c1Range + c1) * (shape.h * shape.w)
        + cubeI * v.vnchwconvCubeColSize) := by
  rw [h.actual, h.bufMax]
  ring

/-- The addresses of the rows of a transpose. -/
theorem four2five_dstRow {k i : Nat} (hk : k < repeats) :
    (setArrayConfig v.vnchwconvCubeColSize 16 v.vnchwconvCubeBufMax).dstRow
        (if repeats = 1 then 0 else 16) k i
      = v.vnchwconvCubeBufMax + 16 * (16 * k + i) := by
  unfold VaConfig.dstRow setArrayConfig
  dsimp only
  split
  · obtain rfl : k = 0 := by omega
    omega
  · omega

/-- The rows that the transposition reads. -/
theorem four2five_srcRow {k j : Nat} (hk : k < repeats) :
    (setArrayConfig v.vnchwconvCubeColSize 16 v.vnchwconvCubeBufMax).srcRow
        (if repeats = 1 then 0 else 1) k j
      = j * v.vnchwconvCubeColSize + 16 * k := by
  unfold VaConfig.srcRow setArrayConfig
  dsimp only
  have hhalf : 2 * v.vnchwconvCubeColSize * j / 2 = j * v.vnchwconvCubeColSize := by
    rw [Nat.mul_assoc, Nat.mul_div_cancel_left _ (by omega), Nat.mul_comm]
  rw [hhalf]
  split
  · obtain rfl : k = 0 := by omega
    omega
  · omega

/-- The columns that are copied in. -/
theorem of_mem_cols (hfit : MoveFits v colSize repeats storeSize) (h : Tiling v hw)
    {offset : Nat → Nat} {t : Transfer (Transfer.Cell Mem)}
    (ht : t ∈ moves (forRange c0Loop fun col =>
      emitCopyGmUbuf colSize Locals.inputUb (col * v.vnchwconvCubeColSize) Locals.inputTensor
        (offset col)))
    {c s : Transfer.Cell Mem} (hs : t c = some s) :
    ∃ j < c0Loop, ∃ r < bursts colSize, c = ⟨.ub, j * v.vnchwconvCubeColSize + r⟩ ∧
      s = ⟨.input, offset j + r⟩ := by
  rw [moves_forRange, mem_forRange] at ht
  obtain ⟨j, hj, ht⟩ := ht
  obtain ⟨r, hr, hc, hs⟩ := of_mem_emit (hfit.colSize_lt h) ht hs
  refine ⟨j, hj, r, hr, ?_, ?_⟩
  · rw [hc]
    simp [Locals.inputUb]
  · rw [hs]
    simp [Locals.inputTensor]

/-- Nothing but `input_ub` is written. -/
theorem origin_cols_of_ne (hfit : MoveFits v colSize repeats storeSize) (h : Tiling v hw)
    {offset : Nat → Nat} {c : Transfer.Cell Mem} (hc : c.buf ≠ .ub) :
    origin (moves (forRange c0Loop fun col =>
      emitCopyGmUbuf colSize Locals.inputUb (col * v.vnchwconvCubeColSize) Locals.inputTensor
        (offset col))) c = c := by
  apply Transfer.origin_of_not_touches
  intro ⟨t, ht, s, hs⟩
  obtain ⟨_, _, _, _, heq, _⟩ := of_mem_cols hfit h ht hs
  rw [heq] at hc
  exact hc rfl

/-- Where the cells that are loaded come from. -/
theorem origin_cols (hfit : MoveFits v colSize repeats storeSize) (h : Tiling v hw)
    {offset : Nat → Nat} {j r : Nat} (hj : j < c0Loop) (hr : r < bursts colSize) :
    origin (moves (forRange c0Loop fun col =>
        emitCopyGmUbuf colSize Locals.inputUb (col * v.vnchwconvCubeColSize)
          Locals.inputTensor (offset col)))
        ⟨.ub, j * v.vnchwconvCubeColSize + r⟩
      = ⟨.input, offset j + r⟩ := by
  have hcols := hfit.cols
  have hlt := hfit.colSize_lt h
  rw [moves_forRange]
  refine origin_forRange_of_fixed hj ?_ ?_ ?_
  · intro y _ htouch
    obtain ⟨i, hi, hc⟩ := (touches_emit hlt).mp htouch
    injection hc with _ haddr
    have hzero : Locals.inputUb.base = 0 := rfl
    rw [hzero, Nat.zero_add] at haddr
    exact (mixed_inj (by omega) (by omega) haddr).1.symm
  · have horigin : origin (moves (emitCopyGmUbuf colSize Locals.inputUb
          (j * v.vnchwconvCubeColSize) Locals.inputTensor (offset j)))
        ⟨.ub, 0 + j * v.vnchwconvCubeColSize + r⟩ = ⟨.input, 0 + offset j + r⟩ :=
      origin_emit hlt hr
    rwa [Nat.zero_add, Nat.zero_add] at horigin
  · intro y _ htouch
    obtain ⟨i, _, hc⟩ := (touches_emit hlt).mp htouch
    injection hc with hbuf _
    cases hbuf

/-- The transposed cube. -/
theorem of_mem_transposed {t : Transfer (Transfer.Cell Mem)}
    (ht : t ∈ moves [four2fiveScatter v repeats])
    {c s : Transfer.Cell Mem} (hs : t c = some s) :
    ∃ r < 16 * repeats, ∃ j < 16, c = ⟨.ub, v.vnchwconvCubeBufMax + (16 * r + j)⟩ ∧
      s = ⟨.ub, j * v.vnchwconvCubeColSize + r⟩ := by
  obtain ⟨k, hk, i, hi, j, hj, hc, hs⟩ := of_mem_scatter ht hs
  rw [four2five_dstRow hk] at hc
  rw [four2five_srcRow hk] at hs
  refine ⟨16 * k + i, by omega, j, hj, ?_, ?_⟩
  · rw [hc, Nat.add_assoc]
  · rw [hs, Nat.add_assoc]

/-- Where the transposed cells come from. -/
theorem origin_transposed (h : Tiling v hw) (hrows : 16 * repeats ≤ v.vnchwconvCubeColSize)
    {j r : Nat} (hj : j < 16) (hr : r < 16 * repeats) :
    origin (moves [four2fiveScatter v repeats]) ⟨.ub, v.vnchwconvCubeBufMax + (16 * r + j)⟩
      = ⟨.ub, j * v.vnchwconvCubeColSize + r⟩ := by
  have hk : r / 16 < repeats := by omega
  have hi : r % 16 < 16 := Nat.mod_lt r (by omega)
  have hsplit : 16 * (r / 16) + r % 16 = r := Nat.div_add_mod r 16
  have hlt := h.inputUb_lt hj (Nat.lt_of_lt_of_le hr hrows)
  have hscatter := @origin_scatter (setArrayConfig v.vnchwconvCubeColSize 16
    v.vnchwconvCubeBufMax) repeats (if repeats = 1 then 0 else 16)
    (if repeats = 1 then 0 else 1) (r / 16) (r % 16) j hk hi hj
  rw [four2five_dstRow hk, four2five_srcRow hk, hsplit, Nat.add_assoc, Nat.add_assoc,
    hsplit] at hscatter
  apply hscatter
  · intro k' hk' i' hi' j' hj' heq
    rw [four2five_dstRow hk'] at heq
    omega
  · intro k' hk' i' _ j' _ heq
    rw [four2five_dstRow hk'] at heq
    omega

/-- Nothing but `output_ub` is written. -/
theorem origin_transposed_of_ne {c : Transfer.Cell Mem}
    (hc : c.buf = .ub → c.addr < v.vnchwconvCubeBufMax) :
    origin (moves [four2fiveScatter v repeats]) c = c := by
  apply Transfer.origin_of_not_touches
  intro ⟨t, ht, s, hs⟩
  obtain ⟨r, _, j, _, heq, _⟩ := of_mem_transposed ht hs
  rw [heq] at hc
  have hlt := hc rfl
  dsimp only at hlt
  omega

/-- The cube that is copied out. -/
theorem of_mem_store (hfit : MoveFits v colSize repeats storeSize) (h : Tiling v hw)
    {offset : Nat} {t : Transfer (Transfer.Cell Mem)}
    (ht : t ∈ moves (emitCopyGmUbuf storeSize Locals.output offset v.outputUb 0))
    {c s : Transfer.Cell Mem} (hs : t c = some s) :
    ∃ i < storeSize, c = ⟨.output, offset + i⟩ ∧ s = ⟨.ub, v.vnchwconvCubeBufMax + i⟩ := by
  obtain ⟨i, hi, hc, hs⟩ := of_mem_emit (Nat.lt_of_le_of_lt hfit.store h.lt) ht hs
  rw [bursts_of_dvd hfit.whole] at hi
  refine ⟨i, hi, ?_, ?_⟩
  · rw [hc]
    simp [Locals.output]
  · rw [hs]
    simp [Locals.outputUb]

/-- Where the cells that are stored come from. -/
theorem origin_store (hfit : MoveFits v colSize repeats storeSize) (h : Tiling v hw)
    {offset i : Nat} (hi : i < storeSize) :
    origin (moves (emitCopyGmUbuf storeSize Locals.output offset v.outputUb 0))
        ⟨.output, offset + i⟩
      = ⟨.ub, v.vnchwconvCubeBufMax + i⟩ := by
  rw [← bursts_of_dvd hfit.whole] at hi
  have horigin : origin (moves (emitCopyGmUbuf storeSize Locals.output offset v.outputUb 0))
      ⟨.output, 0 + offset + i⟩ = ⟨.ub, v.vnchwconvCubeBufMax + 0 + i⟩ :=
    origin_emit (Nat.lt_of_le_of_lt hfit.store h.lt) hi
  rwa [Nat.zero_add, Nat.add_zero] at horigin

/-- **What a cube writes, and from where**: columns of the input into `input_ub`, rows of
`input_ub` into `output_ub`, and `output_ub` to its place in the output. -/
theorem of_mem_move (hfit : MoveFits v colSize repeats storeSize)
    (h : Tiling v (shape.h * shape.w)) {t : Transfer (Transfer.Cell Mem)}
    (ht : t ∈ moves (four2fiveMove shape v c0Loop colSize batchOffset repeats storeSize idxN c1
      cubeI))
    {c s : Transfer.Cell Mem} (hs : t c = some s) :
    (∃ j < c0Loop, ∃ r < bursts colSize, c = ⟨.ub, j * v.vnchwconvCubeColSize + r⟩ ∧
      s = ⟨.input, batchOffset + (c1 * 16 + j) * (shape.h * shape.w)
        + cubeI * v.vnchwconvCubeColSize + r⟩) ∨
    (∃ r < 16 * repeats, ∃ j < 16, c = ⟨.ub, v.vnchwconvCubeBufMax + (16 * r + j)⟩ ∧
      s = ⟨.ub, j * v.vnchwconvCubeColSize + r⟩) ∨
    (∃ i < storeSize, c = ⟨.output, 16 * ((idxN * v.c1Range + c1) * (shape.h * shape.w)
        + cubeI * v.vnchwconvCubeColSize) + i⟩ ∧
      s = ⟨.ub, v.vnchwconvCubeBufMax + i⟩) := by
  unfold four2fiveMove at ht
  rw [four2five_dst h, h.actual, moves_append, moves_append, List.mem_append,
    List.mem_append] at ht
  rcases ht with (ht | ht) | ht
  · exact Or.inl (of_mem_cols hfit h ht hs)
  · exact Or.inr (Or.inl (of_mem_transposed ht hs))
  · exact Or.inr (Or.inr (of_mem_store hfit h ht hs))

/-- **One element through a cube.** -/
theorem origin_move (hfit : MoveFits v colSize repeats storeSize)
    (h : Tiling v (shape.h * shape.w)) {j r : Nat} (hj : j < c0Loop) (hj16 : j < 16)
    (hcol : r < bursts colSize) (hr : r < 16 * repeats) (hstore : 16 * r + j < storeSize) :
    origin (moves (four2fiveMove shape v c0Loop colSize batchOffset repeats storeSize idxN c1
        cubeI))
        ⟨.output, 16 * ((idxN * v.c1Range + c1) * (shape.h * shape.w)
          + cubeI * v.vnchwconvCubeColSize) + (16 * r + j)⟩
      = ⟨.input, batchOffset + (c1 * 16 + j) * (shape.h * shape.w)
        + cubeI * v.vnchwconvCubeColSize + r⟩ := by
  unfold four2fiveMove
  rw [four2five_dst h, h.actual, moves_append, moves_append, Transfer.origin_append,
    Transfer.origin_append, origin_store hfit h hstore, origin_transposed h hfit.rows hj16 hr]
  exact origin_cols hfit h hj hcol

end Move

/-! ## §2. The branches. -/

/-- The size of a column in a cube. -/
def four2fiveColSize (v : Locals) (cubeI : Nat) : Nat :=
  if v.bufCubeRange > 1 then
    if cubeI ≠ v.bufCubeRange - 1 then v.vnchwconvCubeColSize else v.tailCubeSize / 16
  else v.vnchwconvCubeColSize

/-- Where a batch is taken to start in the input tensor. -/
def four2fiveBatch (shape : Shape4D) (v : Locals) (idxN cubeI : Nat) : Nat :=
  if v.bufCubeRange > 1 ∧ cubeI ≠ v.bufCubeRange - 1 then
    idxN * shape.n * shape.n * shape.n
  else idxN * shape.c * shape.h * shape.w

section Branches

variable {shape : Shape4D} {v : Locals} {c0Loop idxN c1 cubeI : Nat}

/-- The branches are one, but for the sizes and the batch. -/
theorem four2fiveCube_eq (h : Tiling v (shape.h * shape.w)) :
    four2fiveCube shape v c0Loop idxN c1 cubeI
      = four2fiveMove shape v c0Loop (four2fiveColSize v cubeI)
          (four2fiveBatch shape v idxN cubeI) (four2fiveColSize v cubeI / 16)
          (v.cubeLen cubeI * 16) idxN c1 cubeI := by
  have hmax : v.vnchwconvCubeBufMax = v.vnchwconvCubeColSize * 16 := by
    rw [h.bufMax, Nat.mul_comm]
  unfold four2fiveCube four2fiveColSize four2fiveBatch Locals.cubeLen
  by_cases hone : v.bufCubeRange > 1
  · by_cases hlast : cubeI ≠ v.bufCubeRange - 1
    · simp only [hone, hlast, ne_eq, not_false_eq_true, and_self, if_true, ← hmax]
    · simp only [hone, hlast, if_true, if_false, and_false]
  · simp only [hone, if_false, false_and]

/-- The columns of a cube are whole blocks, and not too many. -/
theorem four2fiveColSize_spec (h : CutTiling v (shape.h * shape.w)) (cubeI : Nat) :
    16 ∣ four2fiveColSize v cubeI ∧ four2fiveColSize v cubeI ≤ v.vnchwconvCubeColSize := by
  unfold four2fiveColSize
  split
  · next hone =>
      split
      · exact ⟨h.dvd, Nat.le_refl _⟩
      · have htail : v.tailCubeSize / 16 = bursts (shape.h * shape.w) % v.vnchwconvCubeColSize := by
          rw [h.tail hone, Nat.mul_div_cancel_left _ (by omega)]
        rw [htail]
        refine ⟨?_, Nat.le_of_lt (Nat.mod_lt _ h.pos)⟩
        exact (Nat.dvd_mod_iff h.dvd).mpr (Dvd.intro _ rfl)
  · exact ⟨h.dvd, Nat.le_refl _⟩

/-- Every move fits. -/
theorem four2five_fits (h : CutTiling v (shape.h * shape.w)) (hcube : cubeI < v.bufCubeRange) :
    MoveFits v (four2fiveColSize v cubeI) (four2fiveColSize v cubeI / 16)
      (v.cubeLen cubeI * 16) := by
  obtain ⟨hdvd, hle⟩ := four2fiveColSize_spec h cubeI
  obtain ⟨_, hlen⟩ := h.cubeLen_spec (hw_pos shape) hcube
  have hmax := h.bufMax
  refine ⟨?_, ?_, ?_, Dvd.intro_left _ rfl⟩
  · rwa [bursts_of_dvd hdvd]
  · omega
  · omega

/-- An element goes through its cube, if the cube takes in its row. -/
theorem origin_four2fiveCube (h : CutTiling v (shape.h * shape.w))
    (idxN c1 : Nat) (hcube : cubeI < v.bufCubeRange) {j r : Nat} (hj : j < c0Loop)
    (hj16 : j < 16)
    (hlen : r < v.cubeLen cubeI) (hr : r < four2fiveColSize v cubeI) :
    origin (moves (four2fiveCube shape v c0Loop idxN c1 cubeI))
        ⟨.output, 16 * ((idxN * v.c1Range + c1) * (shape.h * shape.w)
          + cubeI * v.vnchwconvCubeColSize) + (16 * r + j)⟩
      = ⟨.input, four2fiveBatch shape v idxN cubeI + (c1 * 16 + j) * (shape.h * shape.w)
        + cubeI * v.vnchwconvCubeColSize + r⟩ := by
  obtain ⟨hdvd, _⟩ := four2fiveColSize_spec h cubeI
  rw [four2fiveCube_eq h.toTiling]
  refine origin_move (four2five_fits h hcube) h.toTiling hj hj16 ?_ ?_ ?_
  · rwa [bursts_of_dvd hdvd]
  · omega
  · omega

/-- A cube writes only its own columns of the output. -/
theorem touches_four2fiveCube_output (h : CutTiling v (shape.h * shape.w))
    (hcube : cubeI < v.bufCubeRange) {p : Nat}
    (htouch : Touches (moves (four2fiveCube shape v c0Loop idxN c1 cubeI)) ⟨.output, p⟩) :
    ∃ r < v.cubeLen cubeI, ∃ j < 16, p = 16 * ((idxN * v.c1Range + c1) * (shape.h * shape.w)
      + (cubeI * v.vnchwconvCubeColSize + r)) + j := by
  obtain ⟨t, ht, s, hs⟩ := htouch
  rw [four2fiveCube_eq h.toTiling] at ht
  rcases of_mem_move (four2five_fits h hcube) h.toTiling ht hs with
    ⟨_, _, _, _, hc, _⟩ | ⟨_, _, _, _, hc, _⟩ | ⟨i, hi, hc, _⟩
  · cases hc
  · cases hc
  · injection hc with _ hp
    exact ⟨i / 16, by omega, i % 16, Nat.mod_lt i (by omega), by omega⟩

/-- A cube does not write to the input. -/
theorem not_touches_four2fiveCube_input (h : CutTiling v (shape.h * shape.w))
    (hcube : cubeI < v.bufCubeRange) (q : Nat) :
    ¬ Touches (moves (four2fiveCube shape v c0Loop idxN c1 cubeI)) ⟨.input, q⟩ := by
  intro ⟨t, ht, s, hs⟩
  rw [four2fiveCube_eq h.toTiling] at ht
  rcases of_mem_move (four2five_fits h hcube) h.toTiling ht hs with
    ⟨_, _, _, _, hc, _⟩ | ⟨_, _, _, _, hc, _⟩ | ⟨_, _, hc, _⟩ <;> cases hc

end Branches

/-! ## §3. The program. -/

section Program

variable {shape : Shape4D} {v : Locals}

/-- The turn of the loops that writes an element of the output. -/
theorem four2five_unique (h : CutTiling v (shape.h * shape.w)) {idxN c1 x j : Nat}
    (hc1 : c1 < v.c1Range) (hx : x < shape.h * shape.w) (hj : j < 16)
    {idxN' c1' cubeI' : Nat} (hin : InPasses v shape.n idxN' c1' cubeI')
    (htouch : Touches (moves (four2fiveCube shape v (v.columnsOf c1') idxN' c1' cubeI'))
      ⟨.output, 16 * ((idxN * v.c1Range + c1) * (shape.h * shape.w) + x) + j⟩) :
    idxN' = idxN ∧ c1' = c1 ∧ cubeI' = x / v.vnchwconvCubeColSize ∧
      x < cubeI' * v.vnchwconvCubeColSize + v.cubeLen cubeI' := by
  obtain ⟨_, hc1', hcube'⟩ := hin
  obtain ⟨hle, hlen⟩ := h.cubeLen_spec (hw_pos shape) hcube'
  obtain ⟨r, hr, j', hj', hp⟩ := touches_four2fiveCube_output h hcube' htouch
  have hplace : (idxN * v.c1Range + c1) * (shape.h * shape.w) + x
      = (idxN' * v.c1Range + c1') * (shape.h * shape.w)
        + (cubeI' * v.vnchwconvCubeColSize + r) := by omega
  obtain ⟨hblock, hx'⟩ := mixed_inj hx (by omega) hplace
  obtain ⟨hn, hc⟩ := mixed_inj hc1 hc1' hblock
  exact ⟨hn.symm, hc.symm, piece_unique (by omega) (by omega), by omega⟩

/-- Nor does the whole code. -/
theorem not_touches_four2five_input (h : CutTiling v (shape.h * shape.w))
    (hch : Channels v shape.c) (q : Nat) :
    ¬ Touches (moves (passes v shape.n (four2fiveCube shape v))) ⟨.input, q⟩ := by
  rw [touches_passes hch]
  intro ⟨idxN, c1, cubeI, ⟨_, _, hcube⟩, htouch⟩
  exact not_touches_four2fiveCube_input h hcube q htouch

/-- **One element through the program.** -/
theorem origin_four2five (h : CutTiling v (shape.h * shape.w)) (hch : Channels v shape.c)
    {idxN c1 j x : Nat} (hn : idxN < shape.n) (hj : j < 16) (hc : 16 * c1 + j < shape.c)
    (hx : x < shape.h * shape.w)
    (hcol : x % v.vnchwconvCubeColSize < four2fiveColSize v (x / v.vnchwconvCubeColSize))
    (hlen : x % v.vnchwconvCubeColSize < v.cubeLen (x / v.vnchwconvCubeColSize)) :
    origin (moves (passes v shape.n (four2fiveCube shape v)))
        ⟨.output, 16 * ((idxN * v.c1Range + c1) * (shape.h * shape.w) + x) + j⟩
      = ⟨.input, four2fiveBatch shape v idxN (x / v.vnchwconvCubeColSize)
        + (c1 * 16 + j) * (shape.h * shape.w) + x⟩ := by
  have hcube := h.cube_lt (hw_pos shape) hx
  obtain ⟨hc1, hcols⟩ := (hch.columnsOf_iff).mpr ⟨hj, hc⟩
  have hsplit : x / v.vnchwconvCubeColSize * v.vnchwconvCubeColSize + x % v.vnchwconvCubeColSize
      = x := Nat.div_add_mod' x v.vnchwconvCubeColSize
  refine origin_passes hch ⟨hn, hc1, hcube⟩ ?_ ?_ (not_touches_four2five_input h hch _)
  · have hmove := origin_four2fiveCube h idxN c1 hcube hcols hj hlen hcol
    have hplace : 16 * ((idxN * v.c1Range + c1) * (shape.h * shape.w)
          + x / v.vnchwconvCubeColSize * v.vnchwconvCubeColSize)
          + (16 * (x % v.vnchwconvCubeColSize) + j)
        = 16 * ((idxN * v.c1Range + c1) * (shape.h * shape.w) + x) + j := by omega
    rw [hplace, Nat.add_assoc _ (x / v.vnchwconvCubeColSize * v.vnchwconvCubeColSize),
      hsplit] at hmove
    exact hmove
  · intro idxN' c1' cubeI' hin htouch
    obtain ⟨hn', hc1', hcube', _⟩ := four2five_unique h hc1 hx hj hin htouch
    exact ⟨hn', hc1', hcube'⟩

end Program

/-! ## §4. Agreement with the reference. -/

/-- The NCHW tensor in memory. -/
def tensor4 (shape : Shape4D) (m : Memory) (n c h w : Nat) : Fp16 :=
  m ⟨.input, shape.index4 n c h w⟩

/-- The program leaves at the place of each channel of the tensor what the reference
defines, whatever the tensor is and whatever else memory holds. -/
def Four2FiveAgrees (soc : SocSpec) (shape : Shape4D) : Prop :=
  ∀ (m : Memory) (n c1 h w c0 : Nat), n < shape.n → c1 < shape.c1 → h < shape.h →
    w < shape.w → c0 < 16 → 16 * c1 + c0 < shape.c →
      execute (four2fiveIr soc shape) m ⟨.output, shape.index5 n c1 h w c0⟩
        = convert4dTo5dForProtogenes shape (tensor4 shape m) n c1 h w c0

/-- Agreement is about the origins of the elements. -/
theorem agrees_iff_origin {soc : SocSpec} {shape : Shape4D} :
    Four2FiveAgrees soc shape ↔
      ∀ n c1 x j, n < shape.n → j < 16 → 16 * c1 + j < shape.c → x < shape.h * shape.w →
        origin (moves (four2fiveIr soc shape))
            ⟨.output, 16 * ((n * shape.c1 + c1) * (shape.h * shape.w) + x) + j⟩
          = ⟨.input, n * shape.c * shape.h * shape.w
            + (c1 * 16 + j) * (shape.h * shape.w) + x⟩ := by
  constructor
  · intro hagrees n c1 x j hn hj hc hx
    have hw : x / shape.w * shape.w + x % shape.w = x := Nat.div_add_mod' x shape.w
    have hc1 : c1 < shape.c1 := by
      unfold Shape4D.c1
      omega
    refine (Transfer.run_eq_iff (α := Fp16)).mp fun m => ?_
    have hrun := hagrees m n c1 (x / shape.w) (x % shape.w) j hn hc1
      ((Nat.div_lt_iff_lt_mul shape.w_pos).mpr hx) (Nat.mod_lt x shape.w_pos) hj hc
    unfold convert4dTo5dForProtogenes tensor4 at hrun
    rw [if_pos (by omega), index5_eq, index4_eq, hw] at hrun
    have hchannel : c1 * 16 + j = j + c1 * 16 := by omega
    rw [hchannel]
    exact hrun
  · intro horigin m n c1 h w j hn _ hh hw hj hc
    rw [execute_apply, index5_eq, horigin n c1 _ j hn hj hc (column_lt hh hw)]
    unfold convert4dTo5dForProtogenes tensor4
    have hchannel : c1 * 16 + j = j + c1 * 16 := by omega
    rw [if_pos (by omega), index4_eq, hchannel]

section Agreement

variable {soc : SocSpec} {shape : Shape4D} {v : Locals}

/-- A cube takes in all its columns, unless it is a last cube that counts as empty. -/
theorem four2five_rows (h : CutTiling v (shape.h * shape.w))
    (hlast : v.bufCubeRange = 1 ∨ bursts (shape.h * shape.w) % v.vnchwconvCubeColSize ≠ 0)
    {x : Nat} (hx : x < shape.h * shape.w) :
    x % v.vnchwconvCubeColSize < four2fiveColSize v (x / v.vnchwconvCubeColSize) ∧
      x % v.vnchwconvCubeColSize < v.cubeLen (x / v.vnchwconvCubeColSize) := by
  have hmod := Nat.mod_lt x h.pos
  have hne : v.bufCubeRange = 1 ∨ shape.h * shape.w % v.vnchwconvCubeColSize ≠ 0 :=
    hlast.imp_right fun hne => (mod_le_bursts_mod h.dvd h.pos hne).1
  have hlen := h.row_lt_cubeLen (hw_pos shape) hne hx
  refine ⟨?_, hlen⟩
  unfold four2fiveColSize
  unfold Locals.cubeLen at hlen
  rw [h.actual] at hlen
  split
  · next hone =>
      rw [if_pos hone] at hlen
      split
      · exact hmod
      -- In the last cube of several, the column is what remains of the bursts.
      · next hcube =>
          have hempty : bursts (shape.h * shape.w) % v.vnchwconvCubeColSize ≠ 0 := by
            rcases hlast with h1 | h1
            · omega
            · exact h1
          obtain ⟨_, hle⟩ := mod_le_bursts_mod h.dvd h.pos hempty
          rw [if_neg hcube] at hlen
          rw [h.tail hone, Nat.mul_div_cancel_left _ (by omega)]
          omega
  · exact hmod

/-- A last cube of whole size is not copied in: its first element does not come from its
place in the input. -/
theorem four2five_last_empty (h : CutTiling v (shape.h * shape.w)) (hch : Channels v shape.c)
    (hone : 1 < v.bufCubeRange)
    (hempty : bursts (shape.h * shape.w) % v.vnchwconvCubeColSize = 0) :
    origin (moves (passes v shape.n (four2fiveCube shape v)))
        ⟨.output, 16 * ((0 * v.c1Range + 0) * (shape.h * shape.w)
          + (v.bufCubeRange - 1) * v.vnchwconvCubeColSize) + 0⟩
      ≠ ⟨.input, (v.bufCubeRange - 1) * v.vnchwconvCubeColSize⟩ := by
  obtain ⟨hlt, _, _⟩ := h.cubes_spec (hw_pos shape)
  have hc1 : 0 < v.c1Range := by
    have hpos := shape.c_pos
    rw [hch.c1Range]
    omega
  have hin : InPasses v shape.n 0 0 (v.bufCubeRange - 1) := ⟨shape.n_pos, hc1, by omega⟩
  -- The cell is stored by the last cube only, and no cube reads the cell it should come from.
  refine origin_passes_ne hch hin (by simp) ?_ ?_
  · intro idxN' c1' cubeI' hin htouch
    obtain ⟨hn', hc1', hcube', _⟩ := four2five_unique h hc1 hlt (by omega) hin htouch
    rw [Nat.mul_div_cancel _ h.pos] at hcube'
    exact ⟨hn', hc1', hcube'⟩
  · intro k hk t ht c' hread
    have hcube : k < v.bufCubeRange := by omega
    obtain ⟨hdvd, hle⟩ := four2fiveColSize_spec h k
    rw [four2fiveCube_eq h.toTiling] at ht
    rcases of_mem_move (four2five_fits h hcube) h.toTiling ht hread with
      ⟨j, _, r, hr, _, hs⟩ | ⟨_, _, _, _, _, hs⟩ | ⟨_, _, _, hs⟩
    · injection hs with _ hs
      rw [bursts_of_dvd hdvd] at hr
      by_cases hlast : k = v.bufCubeRange - 1
      · -- Nothing is read for the last cube.
        have hzero : four2fiveColSize v k = 0 := by
          unfold four2fiveColSize
          rw [if_pos hone, if_neg (not_not.mpr hlast), h.tail hone, hempty]
        omega
      · -- An earlier cube of this column ends before, and another column starts behind.
        have hbatch : four2fiveBatch shape v 0 k = 0 := by
          unfold four2fiveBatch
          rw [if_pos ⟨hone, hlast⟩]
          ring
        have hmul : (k + 1) * v.vnchwconvCubeColSize
            ≤ (v.bufCubeRange - 1) * v.vnchwconvCubeColSize :=
          Nat.mul_le_mul_right _ (by omega)
        rw [Nat.add_mul, Nat.one_mul] at hmul
        rw [hbatch] at hs
        cases j with
        | zero => omega
        | succ j =>
            have hcol : 1 * (shape.h * shape.w) ≤ (0 * 16 + (j + 1)) * (shape.h * shape.w) :=
              Nat.mul_le_mul_right _ (by omega)
            omega
    · cases hs
    · cases hs

/-- **`_four2five_ir` agrees with its reference exactly if the columns fit into one cube,
or the last cube is not a whole one and the full cubes of all batches are read from the
right place.** -/
theorem four2five_agrees_iff (soc : SocSpec) (shape : Shape4D) :
    Four2FiveAgrees soc shape ↔
      shape.h * shape.w ≤ soc.columns ∨
        (bursts (shape.h * shape.w) % soc.columns ≠ 0 ∧
          (shape.n = 1 ∨ shape.n * shape.n * shape.n = shape.c * shape.h * shape.w)) := by
  have h : CutTiling (locals soc shape true) (shape.h * shape.w) := cutTiling_locals soc shape true
  have hch := channels_locals soc shape true
  rw [agrees_iff_origin, four2fiveIr_eq]
  have hc1 : shape.c1 = (locals soc shape true).c1Range := rfl
  rw [hc1]
  by_cases hfits : shape.h * shape.w ≤ soc.columns
  · obtain ⟨_, _, hone⟩ := @tiling_fits soc shape true hfits
    refine ⟨fun _ => Or.inl hfits, fun _ n c1 x j hn hj hc hx => ?_⟩
    obtain ⟨hcol, hlen⟩ := four2five_rows h (Or.inl hone) hx
    rw [origin_four2five h hch hn hj hc hx hcol hlen]
    unfold four2fiveBatch
    rw [if_neg (by omega)]
  · obtain ⟨_, hcolumns, _⟩ := @tiling_cut soc shape true (Nat.not_le.mp hfits)
    rw [cutColumns_whole (Or.inl rfl)] at hcolumns
    have hone : 1 < (locals soc shape true).bufCubeRange :=
      h.one_lt_range (by rw [hcolumns]; exact Nat.not_le.mp hfits)
    rw [← hcolumns]
    constructor
    · intro hagrees
      right
      obtain ⟨hlt, _, _⟩ := h.cubes_spec (hw_pos shape)
      have hnonempty : bursts (shape.h * shape.w)
          % (locals soc shape true).vnchwconvCubeColSize ≠ 0 := by
        intro hempty
        refine four2five_last_empty h hch hone hempty ?_
        rw [hagrees 0 0 _ 0 shape.n_pos (by omega) (by have := shape.c_pos; omega) hlt]
        simp
      refine ⟨hnonempty, or_iff_not_imp_left.mpr fun hn => ?_⟩
      -- The first element of the second batch.
      have hbatch : 1 < shape.n := by
        have hpos := shape.n_pos
        omega
      have hc0 : 16 * 0 + 0 < shape.c := by
        have hpos := shape.c_pos
        omega
      obtain ⟨hcol, hlen⟩ := four2five_rows h (Or.inr hnonempty) (hw_pos shape)
      have hprog := origin_four2five h hch hbatch (by omega) hc0 (hw_pos shape) hcol hlen
      rw [hagrees 1 0 0 0 hbatch (by omega) hc0 (hw_pos shape)] at hprog
      injection hprog with _ hplace
      unfold four2fiveBatch at hplace
      rw [Nat.zero_div, if_pos ⟨hone, by omega⟩] at hplace
      simpa using hplace.symm
    · intro hcond n c1 x j hn hj hc hx
      rcases hcond with hle | ⟨hnonempty, hbatch⟩
      · omega
      · obtain ⟨hcol, hlen⟩ := four2five_rows h (Or.inr hnonempty) hx
        rw [origin_four2five h hch hn hj hc hx hcol hlen]
        have hsame : four2fiveBatch shape (locals soc shape true) n
            (x / (locals soc shape true).vnchwconvCubeColSize)
            = n * shape.c * shape.h * shape.w := by
          unfold four2fiveBatch
          split
          · rcases hbatch with hn1 | hcube
            · obtain rfl : n = 0 := by omega
              simp
            · rw [Nat.mul_assoc, Nat.mul_assoc, ← Nat.mul_assoc shape.n, hcube]
              ring
          · rfl
        rw [hsame]

end Agreement

/-- The second of two whole cubes is not converted. -/
theorem whole_last_cube_lost : ¬ Four2FiveAgrees ub256K twoWholeCubes := by
  have h : CutTiling (locals ub256K twoWholeCubes true) (twoWholeCubes.h * twoWholeCubes.w) :=
    cutTiling_locals ub256K twoWholeCubes true
  intro hagrees
  have horigin := agrees_iff_origin.mp hagrees 0 0 4096 0 (by decide) (by decide) (by decide)
    (by decide)
  exact four2five_last_empty h (channels_locals _ _ _) (by decide) (by decide) horigin

/-! ## §5. What is left in the unified buffer. -/

/-- The output does not depend on what the unified buffer holds at the start, and the
padding channels are zero. -/
def NoStaleData (soc : SocSpec) (shape : Shape4D) : Prop :=
  (∀ m m' : Memory, (∀ c, c.buf ≠ .ub → m c = m' c) →
    ∀ p, p < shape.n * shape.c1 * shape.h * shape.w * 16 →
      execute (four2fiveIr soc shape) m ⟨.output, p⟩
        = execute (four2fiveIr soc shape) m' ⟨.output, p⟩) ∧
  ∀ (m : Memory) (n c1 h w c0 : Nat), n < shape.n → c1 < shape.c1 → h < shape.h →
    w < shape.w → c0 < 16 → shape.c ≤ 16 * c1 + c0 →
      execute (four2fiveIr soc shape) m ⟨.output, shape.index5 n c1 h w c0⟩ = 0

/-- A cell of a tensor, or of `input_ub` or `output_ub`. -/
def InBuffers (v : Locals) (c : Transfer.Cell Mem) : Prop :=
  c.buf = .ub → c.addr < 2 * v.vnchwconvCubeBufMax

section Stale

variable {shape : Shape4D} {v : Locals} {repeats storeSize : Nat}

/-- The program reads nothing else. -/
theorem inBuffers_source (h : CutTiling v (shape.h * shape.w)) (hch : Channels v shape.c)
    {t : Transfer (Transfer.Cell Mem)}
    (ht : t ∈ moves (passes v shape.n (four2fiveCube shape v))) {c s : Transfer.Cell Mem}
    (hs : t c = some s) : InBuffers v s := by
  obtain ⟨idxN, c1, cubeI, ⟨_, _, hcube⟩, ht⟩ := (mem_moves_passes hch).mp ht
  have hfit := four2five_fits h hcube
  have hrows := hfit.rows
  have hstore := hfit.store
  rw [four2fiveCube_eq h.toTiling] at ht
  intro hub
  rcases of_mem_move hfit h.toTiling ht hs with
    ⟨_, _, _, _, _, hs⟩ | ⟨r, hr, j, hj, _, hs⟩ | ⟨i, hi, _, hs⟩
  · rw [hs] at hub
    cases hub
  · have hlt := h.inputUb_lt hj (Nat.lt_of_lt_of_le hr hrows)
    rw [hs]
    show j * v.vnchwconvCubeColSize + r < 2 * v.vnchwconvCubeBufMax
    omega
  · rw [hs]
    show v.vnchwconvCubeBufMax + i < 2 * v.vnchwconvCubeBufMax
    omega

/-- `input_ub` and `output_ub` after all 16 columns of a full cube have been copied in and
transposed: they hold the input, and other memory is as before. -/
theorem full_cube_fills (h : Tiling v (shape.h * shape.w))
    (hfit : MoveFits v v.vnchwconvCubeColSize repeats storeSize)
    (hrepeats : 16 * repeats = v.vnchwconvCubeColSize) {offset : Nat → Nat}
    {c : Transfer.Cell Mem} (hc : InBuffers v c) :
    (origin (moves (forRange 16 fun col =>
        emitCopyGmUbuf v.vnchwconvCubeColSize Locals.inputUb (col * v.vnchwconvCubeColSize)
          Locals.inputTensor (offset col)))
      (origin (moves [four2fiveScatter v repeats]) c)).buf ≠ .ub := by
  have hmax := h.bufMax
  -- A column of `input_ub` comes from the input.
  have hcols : ∀ a, a < v.vnchwconvCubeBufMax →
      (origin (moves (forRange 16 fun col =>
        emitCopyGmUbuf v.vnchwconvCubeColSize Locals.inputUb (col * v.vnchwconvCubeColSize)
          Locals.inputTensor (offset col))) ⟨.ub, a⟩).buf ≠ .ub := by
    intro a ha
    have hmod := Nat.mod_lt a h.pos
    have hj : a / v.vnchwconvCubeColSize < 16 := by
      rw [Nat.div_lt_iff_lt_mul h.pos, ← hmax]
      exact ha
    rw [← Nat.div_add_mod' a v.vnchwconvCubeColSize,
      origin_cols hfit h hj (Nat.lt_of_lt_of_le hmod (le_bursts _))]
    exact fun hub => (by cases hub)
  by_cases hub : c.buf = .ub
  · obtain ⟨buf, a⟩ := c
    dsimp only at hub
    subst hub
    have ha : a < 2 * v.vnchwconvCubeBufMax := hc rfl
    by_cases hlt : a < v.vnchwconvCubeBufMax
    · rw [origin_transposed_of_ne fun _ => hlt]
      exact hcols a hlt
    · -- An element of `output_ub` has been transposed from there.
      obtain ⟨b, rfl⟩ : ∃ b, a = v.vnchwconvCubeBufMax + b :=
        ⟨a - v.vnchwconvCubeBufMax, by omega⟩
      have hj : b % 16 < 16 := Nat.mod_lt b (by omega)
      have hr : b / 16 < 16 * repeats := by omega
      rw [← Nat.div_add_mod b 16, origin_transposed h (Nat.le_of_eq hrepeats) hj hr]
      exact hcols _ (h.inputUb_lt hj (by omega))
  · rw [origin_transposed_of_ne fun hub' => absurd hub' hub, origin_cols_of_ne hfit h hub]
    exact hub

/-- Whatever is read later, the first cube has filled, if all 16 columns of it are copied
in. -/
theorem first_cube_fills (h : CutTiling v (shape.h * shape.w)) {c : Transfer.Cell Mem}
    (hc : InBuffers v c) : (origin (moves (four2fiveCube shape v 16 0 0 0)) c).buf ≠ .ub := by
  obtain ⟨_, _, hpos⟩ := h.cubes_spec (hw_pos shape)
  have hfit := four2five_fits h hpos
  have hsize : four2fiveColSize v 0 = v.vnchwconvCubeColSize := by
    unfold four2fiveColSize
    split
    · next hone => rw [if_pos (by omega)]
    · rfl
  have hstore := hfit.store
  rw [hsize] at hfit
  rw [four2fiveCube_eq h.toTiling, hsize]
  unfold four2fiveMove
  rw [moves_append, moves_append, Transfer.origin_append, Transfer.origin_append]
  apply full_cube_fills h.toTiling hfit (Nat.mul_div_cancel' h.dvd)
  -- What is copied out comes from `output_ub`.
  apply Transfer.origin_mem (S := InBuffers v)
  · intro t ht c' s _ hs _
    obtain ⟨i, hi, _, hs⟩ := of_mem_store hfit h.toTiling ht hs
    rw [hs]
    show v.vnchwconvCubeBufMax + i < 2 * v.vnchwconvCubeBufMax
    omega
  · exact hc

/-- With a full C1 block, the output comes from the tensors alone. -/
theorem output_from_tensors (h : CutTiling v (shape.h * shape.w)) (hch : Channels v shape.c)
    (hfull : 16 ≤ shape.c) (p : Nat) :
    (origin (moves (passes v shape.n (four2fiveCube shape v))) ⟨.output, p⟩).buf ≠ .ub := by
  obtain ⟨_, _, hpos⟩ := h.cubes_spec (hw_pos shape)
  have hsource := fun t ht c s hs => inBuffers_source (c := c) (s := s) (t := t) h hch ht hs
  obtain ⟨rest, hrest⟩ : ∃ rest, passes v shape.n (four2fiveCube shape v)
      = four2fiveCube shape v 16 0 0 0 ++ rest := passes_first hch shape.n_pos hfull hpos
  rw [hrest] at hsource ⊢
  rw [moves_append, Transfer.origin_append]
  apply first_cube_fills h
  apply Transfer.origin_mem (S := InBuffers v)
  · intro t ht c s _ hs
    refine hsource t ?_ c s hs
    rw [moves_append]
    exact List.mem_append_right _ ht
  · intro hub
    cases hub

/-- **The output of `_four2five_ir` is free of stale data exactly if the channels fill
their C1 blocks**: the program has no zeros for padding channels. -/
theorem no_stale_data_iff (soc : SocSpec) (shape : Shape4D) :
    NoStaleData soc shape ↔ 16 ∣ shape.c := by
  have h : CutTiling (locals soc shape true) (shape.h * shape.w) := cutTiling_locals soc shape true
  have hch := channels_locals soc shape true
  have hpos := shape.c_pos
  constructor
  · intro ⟨_, hpadding⟩
    by_contra hdvd
    -- The last padding channel, when all memory holds ones.
    have hc1 : shape.c1 - 1 < shape.c1 := by
      unfold Shape4D.c1
      omega
    have hlast : shape.c ≤ 16 * (shape.c1 - 1) + 15 := by
      unfold Shape4D.c1
      omega
    have hzero := hpadding (fun _ => 1) 0 (shape.c1 - 1) 0 0 15 shape.n_pos hc1 shape.h_pos
      shape.w_pos (by omega) hlast
    rw [execute_apply] at hzero
    exact absurd hzero (by decide)
  · intro hdvd
    constructor
    · intro m m' hagree p _
      rw [execute_apply, execute_apply, four2fiveIr_eq]
      exact hagree _ (output_from_tensors h hch (Nat.le_of_dvd hpos hdvd) p)
    · intro m n c1 h w c0 _ hc1 _ _ hc0 hpad
      unfold Shape4D.c1 at hc1
      omega

end Stale

/-- When all memory holds ones, so does the padding. -/
theorem padding_not_zero : ¬ NoStaleData ub256K oneElement := by
  intro ⟨_, hpadding⟩
  have hzero := hpadding (fun _ => 1) 0 0 0 0 1 (by decide) (by decide) (by decide) (by decide)
    (by decide) (by decide)
  rw [execute_apply] at hzero
  exact absurd hzero (by decide)

end HwEfat.AutoSchedule.DimConv
