/-
  HwEfat.AutoSchedule.DimConv.Five2Four — when `_five2four_ir` does what
  `convert_5d_to_4d_for_protogenes` says.

  A column is copied out in whole bursts.  If the columns are whole bursts themselves,
  every cube writes its own rows of its own columns and nothing else
  (`origin_five2four`), and only a last cube of whole size, which counts as empty, is
  lost.  If they are not, the very last column runs over the end of the output tensor,
  and no later write or saved head can repair that (`five2four_overruns`).  Together they
  say exactly when the program agrees with its reference (`five2four_agrees_iff`).
-/
import HwEfat.AutoSchedule.DimConv.Cubes

namespace HwEfat.AutoSchedule.DimConv

open HwEfat.Lib
open HwEfat.Lib.Transfer (Touches origin)

/-! ## §1. One cube of whole bursts. -/

/-- The three steps of a cube of `len` rows: the rows are copied in, transposed, and
copied out column by column. -/
def five2fourMove (shape : Shape4D) (v : Locals) (c0Loop len idxN c1 cubeI : Nat) :
    List Instr :=
  five2fourLoad shape v (16 * len) (len / 16) idxN c1 cubeI ++
  five2fourStore shape v c0Loop len idxN c1 (cubeI * v.vnchwconvCubeColSize)

section Move

variable {shape : Shape4D} {v : Locals} {hw : Nat} {c0Loop len idxN c1 cubeI : Nat}

/-- Where the cube is copied from. -/
theorem five2four_src (h : Tiling v (shape.h * shape.w)) :
    idxN * v.c1Range * 16 * shape.h * shape.w + c1 * 16 * v.actualColSize
        + cubeI * v.vnchwconvCubeBufMax
      = 16 * ((idxN * v.c1Range + c1) * (shape.h * shape.w)
        + cubeI * v.vnchwconvCubeColSize) := by
  rw [h.actual, h.bufMax]
  ring

/-- Where a column is in the output. -/
theorem five2fourCol_eq (h : Tiling v (shape.h * shape.w)) (col : Nat) :
    five2fourCol shape v idxN c1 col
      = (idxN * shape.c + (16 * c1 + col)) * (shape.h * shape.w) := by
  unfold five2fourCol
  rw [h.actual]
  ring

/-- The addresses of the rows of a transpose. -/
theorem five2four_dstRow {repeats k i : Nat} (hk : k < repeats) :
    (setArrayConfig 16 v.vnchwconvCubeColSize v.vnchwconvCubeBufMax).dstRow
        (if repeats = 1 then 0 else 1) k i
      = v.vnchwconvCubeBufMax + (i * v.vnchwconvCubeColSize + 16 * k) := by
  unfold VaConfig.dstRow setArrayConfig
  dsimp only
  have hhalf : 2 * (v.vnchwconvCubeBufMax + v.vnchwconvCubeColSize * i) / 2
      = v.vnchwconvCubeBufMax + i * v.vnchwconvCubeColSize := by
    rw [Nat.mul_div_cancel_left _ (by omega), Nat.mul_comm]
  rw [hhalf]
  split
  · obtain rfl : k = 0 := by omega
    omega
  · omega

/-- The rows that the transposition reads. -/
theorem five2four_srcRow {repeats k j : Nat} (hk : k < repeats) :
    (setArrayConfig 16 v.vnchwconvCubeColSize v.vnchwconvCubeBufMax).srcRow
        (if repeats = 1 then 0 else 16) k j
      = 16 * (16 * k + j) := by
  unfold VaConfig.srcRow setArrayConfig
  dsimp only
  split
  · obtain rfl : k = 0 := by omega
    omega
  · omega

/-- The rows that are copied in. -/
theorem origin_rows (h : Tiling v (shape.h * shape.w)) (hlen : len ≤ v.vnchwconvCubeColSize)
    {i : Nat} (hi : i < 16 * len) :
    origin (moves (emitCopyGmUbuf (16 * len) Locals.inputUb 0 Locals.inputTensor
        (idxN * v.c1Range * 16 * shape.h * shape.w + c1 * 16 * v.actualColSize
          + cubeI * v.vnchwconvCubeBufMax))) ⟨.ub, i⟩
      = ⟨.input, 16 * ((idxN * v.c1Range + c1) * (shape.h * shape.w)
        + cubeI * v.vnchwconvCubeColSize) + i⟩ := by
  have hmax := h.bufMax
  have hlt := h.lt
  have hi' : i < bursts (16 * len) := Nat.lt_of_lt_of_le hi (le_bursts _)
  rw [five2four_src h]
  have horigin : origin (moves (emitCopyGmUbuf (16 * len) Locals.inputUb 0 Locals.inputTensor
      (16 * ((idxN * v.c1Range + c1) * (shape.h * shape.w) + cubeI * v.vnchwconvCubeColSize))))
      ⟨.ub, 0 + 0 + i⟩ = ⟨.input, 0 + 16 * ((idxN * v.c1Range + c1) * (shape.h * shape.w)
        + cubeI * v.vnchwconvCubeColSize) + i⟩ :=
    origin_emit (by omega) hi'
  rwa [Nat.zero_add, Nat.zero_add] at horigin

/-- The transposed cube. -/
theorem origin_columns (h : Tiling v hw) {repeats : Nat}
    (hrows : 16 * repeats ≤ v.vnchwconvCubeColSize) {j r : Nat} (hj : j < 16)
    (hr : r < 16 * repeats) :
    origin (moves [five2fourScatter v repeats])
        ⟨.ub, v.vnchwconvCubeBufMax + (j * v.vnchwconvCubeColSize + r)⟩
      = ⟨.ub, 16 * r + j⟩ := by
  have hk : r / 16 < repeats := by omega
  have hi : r % 16 < 16 := Nat.mod_lt r (by omega)
  have hsplit : 16 * (r / 16) + r % 16 = r := Nat.div_add_mod r 16
  have hmax := h.bufMax
  have hscatter := @origin_scatter (setArrayConfig 16 v.vnchwconvCubeColSize
    v.vnchwconvCubeBufMax) repeats (if repeats = 1 then 0 else 1)
    (if repeats = 1 then 0 else 16) (r / 16) j (r % 16) hk hj hi
  rw [five2four_dstRow hk, five2four_srcRow hk, hsplit, Nat.add_assoc, Nat.add_assoc,
    hsplit] at hscatter
  apply hscatter
  -- Rows of the destination do not overlap, as they are shorter than a column.
  · intro k' hk' i' hi' j' hj' heq
    rw [five2four_dstRow hk', Nat.add_assoc, Nat.add_left_cancel_iff, Nat.add_assoc] at heq
    obtain ⟨hcol, hrow⟩ := mixed_inj (by omega) (by omega) heq
    exact ⟨by omega, hcol, by omega⟩
  · intro k' hk' i' _ j' _ heq
    rw [five2four_dstRow hk'] at heq
    omega

/-- The columns that are copied out. -/
theorem of_mem_columns (h : Tiling v (shape.h * shape.w)) {offset : Nat}
    (hlen : len ≤ v.vnchwconvCubeColSize) (hwhole : 16 ∣ len)
    {t : Transfer (Transfer.Cell Mem)}
    (ht : t ∈ moves (five2fourStore shape v c0Loop len idxN c1 offset))
    {c s : Transfer.Cell Mem} (hs : t c = some s) :
    ∃ j < c0Loop, ∃ r < len,
      c = ⟨.output, (idxN * shape.c + (16 * c1 + j)) * (shape.h * shape.w) + (offset + r)⟩ ∧
      s = ⟨.ub, v.vnchwconvCubeBufMax + (j * v.vnchwconvCubeColSize + r)⟩ := by
  have hmax := h.bufMax
  have hlt := h.lt
  unfold five2fourStore at ht
  rw [moves_forRange, mem_forRange] at ht
  obtain ⟨j, hj, ht⟩ := ht
  obtain ⟨r, hr, hc, hs⟩ := of_mem_emit (by omega) ht hs
  rw [bursts_of_dvd hwhole] at hr
  rw [five2fourCol_eq h] at hc
  refine ⟨j, hj, r, hr, ?_, ?_⟩
  · rw [hc]
    simp [Locals.output, Nat.add_assoc]
  · rw [hs]
    simp [Locals.outputUb, Nat.add_assoc]

/-- Where the cells that are stored come from. -/
theorem origin_five2fourStore (h : Tiling v (shape.h * shape.w)) {offset : Nat}
    (hlen : len ≤ v.vnchwconvCubeColSize) (hwhole : 16 ∣ len)
    (hin : offset + len ≤ shape.h * shape.w) {j r : Nat} (hj : j < c0Loop) (hr : r < len) :
    origin (moves (five2fourStore shape v c0Loop len idxN c1 offset))
        ⟨.output, (idxN * shape.c + (16 * c1 + j)) * (shape.h * shape.w) + (offset + r)⟩
      = ⟨.ub, v.vnchwconvCubeBufMax + (j * v.vnchwconvCubeColSize + r)⟩ := by
  have hmax := h.bufMax
  have hlt := h.lt
  have hsize : len < 2 ^ 16 * 32 := by omega
  have hbursts := bursts_of_dvd hwhole
  unfold five2fourStore
  rw [moves_forRange]
  refine origin_forRange_of_fixed hj ?_ ?_ ?_
  · -- Another column is elsewhere.
    intro y _ htouch
    obtain ⟨i, hi, hc⟩ := (touches_emit hsize).mp htouch
    injection hc with _ haddr
    have hzero : Locals.output.base = 0 := rfl
    rw [hzero, Nat.zero_add, five2fourCol_eq h, Nat.add_assoc] at haddr
    obtain ⟨hcol, _⟩ := mixed_inj (by omega) (by omega) haddr
    omega
  · rw [← hbursts] at hr
    have horigin : origin (moves (emitCopyGmUbuf len Locals.output
          (five2fourCol shape v idxN c1 j + offset) v.outputUb (j * v.vnchwconvCubeColSize)))
        ⟨.output, 0 + (five2fourCol shape v idxN c1 j + offset) + r⟩
        = ⟨.ub, v.vnchwconvCubeBufMax + j * v.vnchwconvCubeColSize + r⟩ :=
      origin_emit hsize hr
    rw [Nat.zero_add, Nat.add_assoc, Nat.add_assoc] at horigin
    rwa [← five2fourCol_eq h]
  · intro y _ htouch
    obtain ⟨i, _, hc⟩ := (touches_emit hsize).mp htouch
    injection hc with hbuf _
    cases hbuf

/-- **What a cube writes, and from where.** -/
theorem of_mem_five2fourMove (h : Tiling v (shape.h * shape.w))
    (hlen : len ≤ v.vnchwconvCubeColSize) (hwhole : 16 ∣ len)
    {t : Transfer (Transfer.Cell Mem)}
    (ht : t ∈ moves (five2fourMove shape v c0Loop len idxN c1 cubeI))
    {c s : Transfer.Cell Mem} (hs : t c = some s) :
    c.buf = .ub ∨ ∃ j < c0Loop, ∃ r < len,
      c = ⟨.output, (idxN * shape.c + (16 * c1 + j)) * (shape.h * shape.w)
        + (cubeI * v.vnchwconvCubeColSize + r)⟩ := by
  have hmax := h.bufMax
  have hlt := h.lt
  unfold five2fourMove five2fourLoad at ht
  rw [moves_append, moves_append, List.mem_append, List.mem_append] at ht
  -- Loading and transposing stay within the unified buffer.
  rcases ht with (ht | ht) | ht
  · obtain ⟨_, _, hc, _⟩ := of_mem_emit (by omega) ht hs
    rw [hc]
    exact Or.inl rfl
  · obtain ⟨_, _, _, _, _, _, hc, _⟩ := of_mem_scatter ht hs
    rw [hc]
    exact Or.inl rfl
  · obtain ⟨j, hj, r, hr, hc, _⟩ := of_mem_columns h hlen hwhole ht hs
    exact Or.inr ⟨j, hj, r, hr, hc⟩

/-- **One element through a cube.** -/
theorem origin_five2fourMove (h : Tiling v (shape.h * shape.w))
    (hlen : len ≤ v.vnchwconvCubeColSize) (hwhole : 16 ∣ len)
    (hin : cubeI * v.vnchwconvCubeColSize + len ≤ shape.h * shape.w) {j r : Nat}
    (hj : j < c0Loop) (hj16 : j < 16) (hr : r < len) :
    origin (moves (five2fourMove shape v c0Loop len idxN c1 cubeI))
        ⟨.output, (idxN * shape.c + (16 * c1 + j)) * (shape.h * shape.w)
          + (cubeI * v.vnchwconvCubeColSize + r)⟩
      = ⟨.input, 16 * ((idxN * v.c1Range + c1) * (shape.h * shape.w)
        + cubeI * v.vnchwconvCubeColSize) + (16 * r + j)⟩ := by
  have hrepeats : 16 * (len / 16) = len := Nat.mul_div_cancel' hwhole
  unfold five2fourMove five2fourLoad
  rw [moves_append, moves_append, Transfer.origin_append, Transfer.origin_append,
    origin_five2fourStore h hlen hwhole hin hj hr,
    origin_columns h (by omega) hj16 (by omega)]
  exact origin_rows h hlen (by omega)

end Move

/-! ## §2. The branches. -/

/-- The columns are whole bursts, and so is each cube. -/
structure WholeTiling (v : Locals) (hw : Nat) : Prop extends CutTiling v hw where
  whole : 16 ∣ hw
  single : v.bufCubeRange = 1 → v.vnchwconvCubeColSize = hw

/-- Whole blocks of columns are cut into whole blocks. -/
theorem wholeTiling_locals (soc : SocSpec) {shape : Shape4D} (hwhole : 16 ∣ shape.h * shape.w) :
    WholeTiling (locals soc shape false) (shape.h * shape.w) := by
  have hcut : CutTiling (locals soc shape false) (shape.h * shape.w) :=
    cutTiling_locals soc shape false
  refine ⟨hcut, hwhole, fun hone => ?_⟩
  by_cases hfits : shape.h * shape.w ≤ soc.columns
  · obtain ⟨_, hcol, _⟩ := @tiling_fits soc shape false hfits
    rw [hcol, bursts_of_dvd hwhole]
  · obtain ⟨_, hcol, _⟩ := @tiling_cut soc shape false (Nat.not_le.mp hfits)
    rw [cutColumns_whole (Or.inr hwhole)] at hcol
    have hlt := hcut.one_lt_range (by omega)
    omega

section Branches

variable {shape : Shape4D} {v : Locals} {c0Loop idxN c1 cubeI : Nat}

/-- Every cube is of whole blocks. -/
theorem WholeTiling.cubeLen_dvd (h : WholeTiling v (shape.h * shape.w)) (cubeI : Nat) :
    16 ∣ v.cubeLen cubeI := by
  unfold Locals.cubeLen
  rw [h.actual]
  split
  · split
    · exact h.dvd
    · exact (Nat.dvd_mod_iff h.dvd).mpr h.whole
  · exact h.whole

/-- The branches are one, and the heads of the columns need no saving. -/
theorem five2fourCube_eq (h : WholeTiling v (shape.h * shape.w))
    (hcube : cubeI < v.bufCubeRange) :
    five2fourCube shape v c0Loop idxN c1 cubeI
      = five2fourMove shape v c0Loop (v.cubeLen cubeI) idxN c1 cubeI := by
  have hactual := h.actual
  have hmax := h.bufMax
  have htail := h.hwTail
  unfold five2fourCube five2fourMove Locals.cubeLen
  by_cases hone : v.bufCubeRange > 1
  · rw [if_pos hone, if_pos hone]
    by_cases hlast : cubeI ≠ v.bufCubeRange - 1
    · rw [if_pos hlast, if_pos hlast, ← hmax]
    · have hsize : v.tailCubeSize
          = 16 * (shape.h * shape.w % v.vnchwconvCubeColSize) := by
        rw [h.tail hone, bursts_of_dvd h.whole]
      have hdvd : 16 ∣ shape.h * shape.w % v.vnchwconvCubeColSize :=
        (Nat.dvd_mod_iff h.dvd).mpr h.whole
      rw [if_neg hlast, if_neg hlast, hactual, htail, hsize, if_pos (by omega),
        Nat.mul_div_cancel_left _ (by omega)]
  · -- The one cube is all of the columns.
    have hcol := h.single (by omega)
    obtain rfl : cubeI = 0 := by omega
    rw [if_neg hone, if_neg hone, htail, hcol, Nat.mod_self, if_pos rfl, hactual, hmax, hcol,
      Nat.zero_mul]

/-- A cube writes only its own rows of its own columns of the output. -/
theorem of_mem_five2fourCube (h : WholeTiling v (shape.h * shape.w))
    (hcube : cubeI < v.bufCubeRange) {c : Transfer.Cell Mem}
    (htouch : Touches (moves (five2fourCube shape v c0Loop idxN c1 cubeI)) c) :
    c.buf = .ub ∨ ∃ j < c0Loop, ∃ r < v.cubeLen cubeI,
      c = ⟨.output, (idxN * shape.c + (16 * c1 + j)) * (shape.h * shape.w)
        + (cubeI * v.vnchwconvCubeColSize + r)⟩ := by
  obtain ⟨t, ht, s, hs⟩ := htouch
  obtain ⟨_, hlen⟩ := h.cubeLen_spec (hw_pos shape) hcube
  rw [five2fourCube_eq h hcube] at ht
  exact of_mem_five2fourMove h.toTiling hlen (h.cubeLen_dvd cubeI) ht hs

end Branches

/-! ## §3. The program. -/

section Program

variable {shape : Shape4D} {v : Locals}

/-- The turn of the loops that writes an element of the output. -/
theorem five2four_unique (h : WholeTiling v (shape.h * shape.w)) (hch : Channels v shape.c)
    {idxN c1 j x : Nat} (hj : j < 16) (hc : 16 * c1 + j < shape.c)
    (hx : x < shape.h * shape.w) {idxN' c1' cubeI' : Nat}
    (hin : InPasses v shape.n idxN' c1' cubeI')
    (htouch : Touches (moves (five2fourCube shape v (v.columnsOf c1') idxN' c1' cubeI'))
      ⟨.output, (idxN * shape.c + (16 * c1 + j)) * (shape.h * shape.w) + x⟩) :
    idxN' = idxN ∧ c1' = c1 ∧ cubeI' = x / v.vnchwconvCubeColSize ∧
      x < cubeI' * v.vnchwconvCubeColSize + v.cubeLen cubeI' := by
  obtain ⟨_, hc1', hcube'⟩ := hin
  obtain ⟨hle, hlen⟩ := h.cubeLen_spec (hw_pos shape) hcube'
  rcases of_mem_five2fourCube h hcube' htouch with hub | ⟨j', hj', r, hr, hcell⟩
  · cases hub
  · injection hcell with _ hplace
    obtain ⟨hj16, hc'⟩ := (hch.columnsOf_iff).mp ⟨hc1', hj'⟩
    obtain ⟨hcol, hx'⟩ := mixed_inj hx (by omega) hplace
    obtain ⟨hn, hchannel⟩ := mixed_inj hc hc' hcol
    exact ⟨hn.symm, by omega, piece_unique (by omega) (by omega), by omega⟩

/-- The code does not write to its input. -/
theorem not_touches_five2four_input (h : WholeTiling v (shape.h * shape.w))
    (hch : Channels v shape.c) (q : Nat) :
    ¬ Touches (moves (passes v shape.n (five2fourCube shape v))) ⟨.input, q⟩ := by
  rw [touches_passes hch]
  intro ⟨idxN, c1, cubeI, ⟨_, _, hcube⟩, htouch⟩
  rcases of_mem_five2fourCube h hcube htouch with hub | ⟨_, _, _, _, hcell⟩
  · cases hub
  · cases hcell

/-- **One element through the program.** -/
theorem origin_five2four (h : WholeTiling v (shape.h * shape.w)) (hch : Channels v shape.c)
    {idxN c1 j x : Nat} (hn : idxN < shape.n) (hj : j < 16) (hc : 16 * c1 + j < shape.c)
    (hx : x < shape.h * shape.w)
    (hlen : x % v.vnchwconvCubeColSize < v.cubeLen (x / v.vnchwconvCubeColSize)) :
    origin (moves (passes v shape.n (five2fourCube shape v)))
        ⟨.output, (idxN * shape.c + (16 * c1 + j)) * (shape.h * shape.w) + x⟩
      = ⟨.input, 16 * ((idxN * v.c1Range + c1) * (shape.h * shape.w) + x) + j⟩ := by
  have hcube := h.cube_lt (hw_pos shape) hx
  obtain ⟨hle, hlen'⟩ := h.cubeLen_spec (hw_pos shape) hcube
  obtain ⟨hc1, hcols⟩ := (hch.columnsOf_iff).mpr ⟨hj, hc⟩
  have hsplit : x / v.vnchwconvCubeColSize * v.vnchwconvCubeColSize + x % v.vnchwconvCubeColSize
      = x := Nat.div_add_mod' x v.vnchwconvCubeColSize
  -- The cube that the row is in moves it, and no other cube does.
  refine origin_passes hch ⟨hn, hc1, hcube⟩ ?_ ?_ (not_touches_five2four_input h hch _)
  · have hmove := @origin_five2fourMove shape v _ _ idxN c1 _ h.toTiling hlen'
      (h.cubeLen_dvd _) hle j _ hcols hj hlen
    have hplace : 16 * ((idxN * v.c1Range + c1) * (shape.h * shape.w)
          + x / v.vnchwconvCubeColSize * v.vnchwconvCubeColSize)
          + (16 * (x % v.vnchwconvCubeColSize) + j)
        = 16 * ((idxN * v.c1Range + c1) * (shape.h * shape.w) + x) + j := by omega
    rwa [hsplit, hplace, ← five2fourCube_eq h hcube] at hmove
  · intro idxN' c1' cubeI' hin htouch
    obtain ⟨hn', hc1', hcube', _⟩ := five2four_unique h hch hj hc hx hin htouch
    exact ⟨hn', hc1', hcube'⟩

/-- **Where a cell of the result comes from**, by channel and column. -/
theorem origin_five2four_channel (h : WholeTiling v (shape.h * shape.w))
    (hch : Channels v shape.c) {idxN c x : Nat} (hn : idxN < shape.n) (hc : c < shape.c)
    (hx : x < shape.h * shape.w)
    (hlen : x % v.vnchwconvCubeColSize < v.cubeLen (x / v.vnchwconvCubeColSize)) :
    origin (moves (passes v shape.n (five2fourCube shape v)))
        ⟨.output, (idxN * shape.c + c) * (shape.h * shape.w) + x⟩
      = ⟨.input, 16 * ((idxN * v.c1Range + c / 16) * (shape.h * shape.w) + x) + c % 16⟩ := by
  have hsplit : 16 * (c / 16) + c % 16 = c := Nat.div_add_mod c 16
  have hprog := origin_five2four h hch hn (Nat.mod_lt c (by omega)) (hsplit ▸ hc) hx hlen
  rwa [hsplit] at hprog

/-- A last cube of whole size counts as empty and is not copied out. -/
theorem five2four_last_empty (h : WholeTiling v (shape.h * shape.w)) (hch : Channels v shape.c)
    (hone : 1 < v.bufCubeRange) (hrest : shape.h * shape.w % v.vnchwconvCubeColSize = 0) :
    ¬ Touches (moves (passes v shape.n (five2fourCube shape v)))
      ⟨.output, (0 * shape.c + 0) * (shape.h * shape.w)
        + (v.bufCubeRange - 1) * v.vnchwconvCubeColSize⟩ := by
  obtain ⟨hlt, _, _⟩ := h.cubes_spec (hw_pos shape)
  intro htouch
  obtain ⟨idxN, c1, cubeI, hin, htouch⟩ := (touches_passes hch).mp htouch
  obtain ⟨_, _, hcube, hlen⟩ := @five2four_unique shape v h hch 0 0 0 _ (by omega)
    shape.c_pos hlt _ _ _ hin htouch
  rw [Nat.mul_div_cancel _ h.pos] at hcube
  have hzero : v.cubeLen (v.bufCubeRange - 1) = 0 := by
    unfold Locals.cubeLen
    rw [if_pos hone, if_neg (by omega), h.actual, hrest]
  rw [hcube, hzero] at hlen
  omega

/-- Columns of whole bursts stay inside the output. -/
theorem five2four_inside (h : WholeTiling v (shape.h * shape.w)) (hch : Channels v shape.c)
    {c : Transfer.Cell Mem}
    (htouch : Touches (moves (passes v shape.n (five2fourCube shape v))) c) :
    c.buf = .ub ∨ c.buf = .output ∧ c.addr < shape.n * shape.c * shape.h * shape.w := by
  obtain ⟨idxN, c1, cubeI, ⟨hn, hc1, hcube⟩, htouch⟩ := (touches_passes hch).mp htouch
  obtain ⟨hle, _⟩ := h.cubeLen_spec (hw_pos shape) hcube
  rcases of_mem_five2fourCube h hcube htouch with hub | ⟨j, hj, r, hr, hcell⟩
  · exact Or.inl hub
  · right
    obtain ⟨_, hc⟩ := (hch.columnsOf_iff).mp ⟨hc1, hj⟩
    -- The place lies before the next column, and that before the end of the tensor.
    have hcol : (idxN * shape.c + (16 * c1 + j) + 1) * (shape.h * shape.w)
        ≤ shape.n * shape.c * (shape.h * shape.w) := by
      apply Nat.mul_le_mul_right
      have hbatch : (idxN + 1) * shape.c ≤ shape.n * shape.c := Nat.mul_le_mul_right _ hn
      rw [Nat.add_mul, Nat.one_mul] at hbatch
      omega
    rw [Nat.add_mul, Nat.one_mul] at hcol
    rw [hcell, Nat.mul_assoc _ shape.h]
    refine ⟨rfl, ?_⟩
    show (idxN * shape.c + (16 * c1 + j)) * (shape.h * shape.w)
      + (cubeI * v.vnchwconvCubeColSize + r) < shape.n * shape.c * (shape.h * shape.w)
    omega

end Program

/-! ## §4. Columns that are not whole bursts. -/

section Overrun

variable {shape : Shape4D} {v : Locals}

/-- A column is copied out in whole bursts. -/
theorem touches_five2fourStore (h : Tiling v (shape.h * shape.w))
    {c0Loop size idxN c1 offset : Nat} (hsize : size ≤ v.vnchwconvCubeColSize) {j i : Nat}
    (hj : j < c0Loop) (hi : i < bursts size) :
    Touches (moves (five2fourStore shape v c0Loop size idxN c1 offset))
      ⟨.output, (idxN * shape.c + (16 * c1 + j)) * (shape.h * shape.w) + (offset + i)⟩ := by
  have hmax := h.bufMax
  have hlt := h.lt
  unfold five2fourStore
  rw [moves_forRange, touches_forRange]
  refine ⟨j, hj, (touches_emit (by omega)).mpr ⟨i, hi, ?_⟩⟩
  rw [five2fourCol_eq h]
  simp [Locals.output, Nat.add_assoc]

/-- What is left for the last cube is not whole bursts either. -/
theorem hwTail_unaligned (h : Tiling v (shape.h * shape.w))
    (hun : shape.h * shape.w % 16 ≠ 0) : v.hwTailSize % 16 ≠ 0 := by
  intro hzero
  apply hun
  have hdvd := Nat.dvd_of_mod_eq_zero hzero
  rw [h.hwTail, Nat.dvd_mod_iff h.dvd] at hdvd
  exact Nat.mod_eq_zero_of_dvd hdvd

/-- What the last cube of a C1 block has left of the columns is copied out. -/
theorem touches_last_cube (h : Tiling v (shape.h * shape.w))
    (hun : shape.h * shape.w % 16 ≠ 0) {c0Loop idxN c1 j i : Nat} (hj : j < c0Loop)
    (hi : i < bursts v.hwTailSize) :
    Touches (moves (five2fourCube shape v c0Loop idxN c1 (v.bufCubeRange - 1)))
      ⟨.output, (idxN * shape.c + (16 * c1 + j)) * (shape.h * shape.w)
        + ((v.bufCubeRange - 1) * v.vnchwconvCubeColSize + i)⟩ := by
  have htail := h.hwTail
  have hmod := Nat.mod_lt (shape.h * shape.w) h.pos
  have hrest := hwTail_unaligned h hun
  have hstore := @touches_five2fourStore shape v h c0Loop v.hwTailSize idxN c1
    ((v.bufCubeRange - 1) * v.vnchwconvCubeColSize) (by omega) j i hj hi
  unfold five2fourCube
  -- In both branches the columns are stored from the last cube on; with several cubes
  -- between saving and restoring the heads.
  by_cases hone : v.bufCubeRange > 1
  · rw [if_pos hone, if_neg (by omega), if_neg hrest]
    simp only [moves_append, Transfer.touches_append]
    exact Or.inr (Or.inl (Or.inr hstore))
  · have hzero : v.bufCubeRange - 1 = 0 := by omega
    rw [if_neg hone, if_neg (by omega)]
    rw [hzero, Nat.zero_mul] at hstore ⊢
    simp only [moves_append, Transfer.touches_append]
    exact Or.inr hstore

/-- **The last column runs over the end of the output**, if the columns are not whole
bursts. -/
theorem five2four_overruns (h : Tiling v (shape.h * shape.w)) (hch : Channels v shape.c)
    (hun : shape.h * shape.w % 16 ≠ 0) :
    Touches (moves (passes v shape.n (five2fourCube shape v)))
      ⟨.output, shape.n * shape.c * shape.h * shape.w⟩ := by
  obtain ⟨hlt, _, hrange⟩ := h.cubes_spec (hw_pos shape)
  have hpiece := last_piece h.pos (hw_pos shape)
  have hn := shape.n_pos
  have hc := shape.c_pos
  have hrest := hwTail_unaligned h hun
  have hover : v.hwTailSize < bursts v.hwTailSize := by
    unfold bursts
    omega
  have htail := h.hwTail
  rw [← h.range, if_neg (by omega), ← htail] at hpiece
  -- The last channel.
  have hchannel : 16 * ((shape.c - 1) / 16) + (shape.c - 1) % 16 = shape.c - 1 :=
    Nat.div_add_mod _ _
  have hlast : 16 * ((shape.c - 1) / 16) + (shape.c - 1) % 16 < shape.c := by omega
  obtain ⟨hc1, hcols⟩ := hch.columnsOf_iff.mpr ⟨Nat.mod_lt (shape.c - 1) (by omega), hlast⟩
  rw [touches_passes hch]
  refine ⟨shape.n - 1, (shape.c - 1) / 16, v.bufCubeRange - 1,
    ⟨by omega, hc1, by omega⟩, ?_⟩
  have htouch := @touches_last_cube shape v h hun _ (shape.n - 1) ((shape.c - 1) / 16) _ _
    hcols hover
  have hend : ((shape.n - 1) * shape.c + (shape.c - 1)) * (shape.h * shape.w)
        + ((v.bufCubeRange - 1) * v.vnchwconvCubeColSize + v.hwTailSize)
      = shape.n * shape.c * shape.h * shape.w := by
    have hsum : (v.bufCubeRange - 1) * v.vnchwconvCubeColSize + v.hwTailSize
        = shape.h * shape.w := by omega
    have hlast : (shape.n - 1) * shape.c + (shape.c - 1) + 1 = shape.n * shape.c := by
      have hbatch : (shape.n - 1 + 1) * shape.c = shape.n * shape.c := by
        rw [Nat.sub_add_cancel hn]
      rw [Nat.add_mul, Nat.one_mul] at hbatch
      omega
    rw [hsum, Nat.mul_assoc _ shape.h, ← hlast, Nat.add_mul _ 1, Nat.one_mul]
  rwa [hchannel, hend] at htouch

end Overrun

/-! ## §5. Agreement with the reference. -/

/-- The NC1HWC0 tensor in memory. -/
def tensor5 (shape : Shape4D) (m : Memory) (n c1 h w c0 : Nat) : Fp16 :=
  m ⟨.input, shape.index5 n c1 h w c0⟩

/-- The program leaves in the output what the reference defines, whatever the tensor is
and whatever else memory holds, and writes nothing else outside the unified buffer. -/
def Five2FourAgrees (soc : SocSpec) (shape : Shape4D) : Prop :=
  (∀ (m : Memory) (n c h w : Nat), n < shape.n → c < shape.c → h < shape.h → w < shape.w →
    execute (five2fourIr soc shape) m ⟨.output, shape.index4 n c h w⟩
      = convert5dTo4dForProtogenes shape (tensor5 shape m) n c h w) ∧
  ∀ c : Transfer.Cell Mem, Touches (moves (five2fourIr soc shape)) c →
    c.buf = .ub ∨ c.buf = .output ∧ c.addr < shape.n * shape.c * shape.h * shape.w

/-- The position by channel and column. -/
theorem index4_eq_column (shape : Shape4D) (n c h w : Nat) :
    shape.index4 n c h w
      = (n * shape.c + c) * (shape.h * shape.w) + (h * shape.w + w) := by
  unfold Shape4D.index4
  ring

/-- The elements are about origins. -/
theorem five2four_values_iff_origin {soc : SocSpec} {shape : Shape4D} :
    (∀ (m : Memory) (n c h w : Nat), n < shape.n → c < shape.c → h < shape.h → w < shape.w →
      execute (five2fourIr soc shape) m ⟨.output, shape.index4 n c h w⟩
        = convert5dTo4dForProtogenes shape (tensor5 shape m) n c h w) ↔
      ∀ n c x, n < shape.n → c < shape.c → x < shape.h * shape.w →
        origin (moves (five2fourIr soc shape))
            ⟨.output, (n * shape.c + c) * (shape.h * shape.w) + x⟩
          = ⟨.input, 16 * ((n * shape.c1 + c / 16) * (shape.h * shape.w) + x) + c % 16⟩ := by
  constructor
  · intro hvalues n c x hn hc hx
    have hw : x / shape.w * shape.w + x % shape.w = x := Nat.div_add_mod' x shape.w
    refine (Transfer.run_eq_iff (α := Fp16)).mp fun m => ?_
    have hrun := hvalues m n c (x / shape.w) (x % shape.w) hn hc
      ((Nat.div_lt_iff_lt_mul shape.w_pos).mpr hx) (Nat.mod_lt x shape.w_pos)
    unfold convert5dTo4dForProtogenes tensor5 at hrun
    rw [if_pos hc, index5_eq, index4_eq_column, hw] at hrun
    exact hrun
  · intro horigin m n c h w hn hc hh hw
    rw [execute_apply, index4_eq_column, horigin n c _ hn hc (column_lt hh hw)]
    unfold convert5dTo4dForProtogenes tensor5
    rw [if_pos hc, index5_eq]

/-- **`_five2four_ir` agrees with its reference and stays inside the output exactly if the
columns are whole bursts, and fit into one cube or leave something for the last one.** -/
theorem five2four_agrees_iff (soc : SocSpec) (shape : Shape4D) :
    Five2FourAgrees soc shape ↔
      16 ∣ shape.h * shape.w ∧
        (shape.h * shape.w ≤ soc.columns ∨ shape.h * shape.w % soc.columns ≠ 0) := by
  have hch := channels_locals soc shape false
  have hc1 : shape.c1 = (locals soc shape false).c1Range := rfl
  unfold Five2FourAgrees
  rw [five2four_values_iff_origin, five2fourIr_eq, hc1]
  by_cases hwhole : 16 ∣ shape.h * shape.w
  · have h := wholeTiling_locals soc hwhole
    have hinside := fun c htouch => five2four_inside (c := c) h hch htouch
    by_cases hfits : shape.h * shape.w ≤ soc.columns
    · obtain ⟨_, _, hone⟩ := @tiling_fits soc shape false hfits
      refine iff_of_true ⟨fun n c x hn hc hx => ?_, hinside⟩ ⟨hwhole, Or.inl hfits⟩
      have hlen := h.row_lt_cubeLen (hw_pos shape) (Or.inl hone) hx
      exact origin_five2four_channel h hch hn hc hx hlen
    · obtain ⟨_, hcolumns, _⟩ := @tiling_cut soc shape false (Nat.not_le.mp hfits)
      rw [cutColumns_whole (Or.inr hwhole)] at hcolumns
      have hone : 1 < (locals soc shape false).bufCubeRange :=
        h.one_lt_range (by rw [hcolumns]; exact Nat.not_le.mp hfits)
      rw [← hcolumns]
      by_cases hrest : shape.h * shape.w % (locals soc shape false).vnchwconvCubeColSize = 0
      · refine iff_of_false (fun ⟨hvalues, _⟩ => ?_) fun ⟨_, hor⟩ => by omega
        obtain ⟨hlt, _, _⟩ := h.cubes_spec (hw_pos shape)
        -- The first element of the last cube is not written.
        have hplace := hvalues 0 0 _ shape.n_pos shape.c_pos hlt
        rw [Transfer.origin_of_not_touches (five2four_last_empty h hch hone hrest)] at hplace
        cases hplace
      · refine iff_of_true ⟨fun n c x hn hc hx => ?_, hinside⟩ ⟨hwhole, Or.inr hrest⟩
        have hlen := h.row_lt_cubeLen (hw_pos shape) (Or.inr hrest) hx
        exact origin_five2four_channel h hch hn hc hx hlen
  · -- The element behind the output tensor is written.
    refine iff_of_false (fun ⟨_, hinside⟩ => ?_) fun ⟨hwhole', _⟩ => hwhole hwhole'
    have hun : shape.h * shape.w % 16 ≠ 0 := fun h => hwhole (Nat.dvd_of_mod_eq_zero h)
    have hover := five2four_overruns
      (cutTiling_locals soc shape false).toTiling hch hun
    rcases hinside _ hover with hub | ⟨_, hlt⟩
    · cases hub
    · exact Nat.lt_irrefl _ hlt

/-- One element is written, and 15 behind it. -/
theorem one_element_overrun : ¬ Five2FourAgrees ub256K oneElement := by
  intro ⟨_, hinside⟩
  have hun : oneElement.h * oneElement.w % 16 ≠ 0 := by decide
  have hover := five2four_overruns (cutTiling_locals ub256K oneElement false).toTiling
    (channels_locals ub256K oneElement false) hun
  rcases hinside _ hover with hub | ⟨_, hlt⟩
  · cases hub
  · exact Nat.lt_irrefl _ hlt

end HwEfat.AutoSchedule.DimConv
