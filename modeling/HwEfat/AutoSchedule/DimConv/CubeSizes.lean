/-
  HwEfat.AutoSchedule.DimConv.CubeSizes — whether the cubes fit into the unified buffer and
  add up to the columns.

  `_get_vnchwconv_cube_buf_max` works in bytes: the last cube is what remains of the padded
  columns after cubes of the limit.  `_four2five_ir` and `_five2four_ir` work in columns:
  they round the number of cubes up, and they copy out H*W modulo the columns of a cube.
  Both say the same where something remains.  Where nothing remains, the callers still
  count a last cube, which is full, and the helper says that it is empty.

  Main result: `sizes_agree_iff`.
-/
import HwEfat.AutoSchedule.DimConv.Cubes

namespace HwEfat.AutoSchedule.DimConv

open HwEfat.Lib

/-! ## §1. What the emitters rely on. -/

/-- The elements of `output_head_ub`: `_five2four_ir` allocates it for a last cube that is
not whole bursts. -/
def Locals.outputHeadUbSize (v : Locals) (isFour2five : Bool) : Nat :=
  if isFour2five = false ∧ v.hwTailSize ≠ 0 ∧ v.hwTailSize % 16 ≠ 0 ∧ v.bufCubeRange > 1 then
    16 * 16
  else 0

/-- The sizes fit into the unified buffer, and the sizes of the helper are those that its
callers count on.  A `float16` has two bytes. -/
structure SizesAgree (soc : UbSpec) (v : Locals) (isFour2five : Bool) : Prop where
  dvd : 256 ∣ v.vnchwconvCubeBufMax
  pos : 0 < v.vnchwconvCubeBufMax
  fits : 2 * (v.vnchwconvCubeBufMax + v.vnchwconvCubeBufMax + v.outputHeadUbSize isFour2five)
    ≤ soc.ubSize
  sum : 1 < v.bufCubeRange →
    (v.bufCubeRange - 1) * v.vnchwconvCubeColSize + v.tailCubeSize / 16 = bursts v.actualColSize
  tail : 1 < v.bufCubeRange →
    16 ≤ v.tailCubeSize / 16 ∧ v.tailCubeSize / 16 ≤ v.vnchwconvCubeColSize
  hwTail : 1 < v.bufCubeRange →
    (v.bufCubeRange - 1) * v.vnchwconvCubeColSize + v.actualColSize % v.vnchwconvCubeColSize
      = v.actualColSize

/-! ## §2. The cubes before the last one, and the last one. -/

/-- The last piece, alone in being padded. -/
theorem bursts_pieces {m x : Nat} (hm : 16 ∣ m) (hpos : 0 < m) (hx : 0 < x) :
    ∃ r, 0 < r ∧ bursts r ≤ m ∧ x = ((x + m - 1) / m - 1) * m + r ∧
      bursts x = ((x + m - 1) / m - 1) * m + bursts r := by
  obtain ⟨hlt, hle, hrange⟩ := ceil_spec hpos hx
  obtain ⟨k, hk⟩ : ∃ k, (x + m - 1) / m = k + 1 := ⟨(x + m - 1) / m - 1, by omega⟩
  rw [hk, Nat.add_sub_cancel] at hlt ⊢
  rw [hk, Nat.add_mul, Nat.one_mul] at hle
  obtain ⟨s, hs⟩ : 16 ∣ k * m := Nat.dvd_mul_left_of_dvd hm k
  refine ⟨x - k * m, by omega, ?_, by omega, ?_⟩
  · unfold bursts
    omega
  · unfold bursts
    omega

/-- A last piece that is not full is what both ways of counting find. -/
theorem rest_of_bursts {m k r : Nat} (hle : bursts r ≤ m)
    (hrest : (k * m + bursts r) % m ≠ 0) :
    (k * m + bursts r) % m = bursts r ∧ (k * m + r) % m = r := by
  have hr := le_bursts r
  rw [Nat.mul_comm, Nat.mul_add_mod] at hrest ⊢
  have hne : bursts r ≠ m := by
    intro heq
    rw [heq, Nat.mod_self] at hrest
    exact hrest rfl
  rw [Nat.mul_add_mod]
  exact ⟨Nat.mod_eq_of_lt (by omega), Nat.mod_eq_of_lt (by omega)⟩

/-! ## §3. When the sizes agree. -/

section Sizes

variable (soc : UbSpec) (shape : Shape4D) (isFour2five : Bool)

/-- The buffers fit, however the columns are cut. -/
theorem buffers_fit :
    256 ∣ (locals soc shape isFour2five).vnchwconvCubeBufMax ∧
      0 < (locals soc shape isFour2five).vnchwconvCubeBufMax ∧
      2 * ((locals soc shape isFour2five).vnchwconvCubeBufMax +
          (locals soc shape isFour2five).vnchwconvCubeBufMax +
          (locals soc shape isFour2five).outputHeadUbSize isFour2five) ≤ soc.ubSize := by
  obtain ⟨hub, hdvd, hpos⟩ := soc.columns_spec
  have hhw := hw_pos shape
  -- One cube of at most UB_SIZE / 64 columns takes 64 bytes for each of them.
  by_cases hfits : shape.h * shape.w ≤ soc.columns
  · obtain ⟨hbuf, _, hone⟩ := @locals_fits shape isFour2five _ hfits
    have hle := bursts_le_columns.mpr hfits
    have hge := le_bursts (shape.h * shape.w)
    have hhead : (locals soc shape isFour2five).outputHeadUbSize isFour2five = 0 :=
      if_neg fun h => by omega
    have hbursts : bursts (shape.h * shape.w) = 16 * ((shape.h * shape.w + 15) / 16) := rfl
    rw [hhead, hbuf]
    omega
  · obtain ⟨hbuf, hcol, _⟩ := @locals_cut shape isFour2five _ (Nat.not_le.mp hfits)
    obtain ⟨hdvdCut, hposCut, _⟩ := cutColumns_spec soc (shape.h * shape.w) isFour2five
    rw [hbuf]
    refine ⟨by omega, by omega, ?_⟩
    -- the heads have 512 bytes, and 16 columns of two buffers have 1024
    unfold Locals.outputHeadUbSize
    split
    case isTrue h =>
      have hun : shape.h * shape.w % 16 ≠ 0 := by
        intro hwhole
        apply h.2.2.1
        have hdvdTail : 16 ∣ (locals soc shape isFour2five).hwTailSize := by
          show 16 ∣ shape.h * shape.w % (locals soc shape isFour2five).vnchwconvCubeColSize
          rw [hcol, Nat.dvd_mod_iff hdvdCut]
          exact Nat.dvd_of_mod_eq_zero hwhole
        exact Nat.mod_eq_zero_of_dvd hdvdTail
      have hcut : cutColumns soc (shape.h * shape.w) isFour2five = soc.columns - 16 :=
        if_pos ⟨h.1, hun⟩
      omega
    case isFalse => omega

/-- Both ways of counting, with `r` columns in the last cube. -/
theorem cut_counts (hcut : soc.columns < shape.h * shape.w) :
    ∃ r, 0 < r ∧ bursts r ≤ cutColumns soc (shape.h * shape.w) isFour2five ∧
      shape.h * shape.w = ((locals soc shape isFour2five).bufCubeRange - 1)
        * cutColumns soc (shape.h * shape.w) isFour2five + r ∧
      bursts (shape.h * shape.w) = ((locals soc shape isFour2five).bufCubeRange - 1)
        * cutColumns soc (shape.h * shape.w) isFour2five + bursts r ∧
      (locals soc shape isFour2five).tailCubeSize / 16
        = bursts (shape.h * shape.w) % cutColumns soc (shape.h * shape.w) isFour2five := by
  obtain ⟨_, hcol, htail⟩ := @locals_cut shape isFour2five _ hcut
  obtain ⟨hdvdCut, hposCut, _⟩ := cutColumns_spec soc (shape.h * shape.w) isFour2five
  obtain ⟨r, hr, hle, hx, hbursts⟩ := bursts_pieces hdvdCut hposCut (hw_pos shape)
  have hrange : (locals soc shape isFour2five).bufCubeRange
      = (shape.h * shape.w + cutColumns soc (shape.h * shape.w) isFour2five - 1)
        / cutColumns soc (shape.h * shape.w) isFour2five := by
    rw [← hcol]
    rfl
  rw [← hrange] at hx hbursts
  refine ⟨r, hr, hle, hx, hbursts, ?_⟩
  rw [htail]
  omega

/-- **When the cubes add up.**  Both ways of counting agree, in both directions, exactly if
one cube holds all columns or the padded columns are no multiple of those of a cube. -/
theorem sizes_agree_iff :
    SizesAgree soc (locals soc shape isFour2five) isFour2five ↔
      shape.h * shape.w ≤ soc.columns ∨
        bursts (shape.h * shape.w) % cutColumns soc (shape.h * shape.w) isFour2five ≠ 0 := by
  obtain ⟨hdvd, hpos, hbytes⟩ := buffers_fit soc shape isFour2five
  by_cases hfits : shape.h * shape.w ≤ soc.columns
  · obtain ⟨_, _, hone⟩ := @locals_fits shape isFour2five _ hfits
    refine iff_of_true ⟨hdvd, hpos, hbytes, ?_, ?_, ?_⟩ (Or.inl hfits) <;>
      exact fun hlt => absurd hone (Nat.ne_of_gt hlt)
  · obtain ⟨_, hcol, _⟩ := @locals_cut shape isFour2five _ (Nat.not_le.mp hfits)
    obtain ⟨_, _, hleCut⟩ := cutColumns_spec soc (shape.h * shape.w) isFour2five
    obtain ⟨r, hr, hle, hx, hbursts, htail⟩ :=
      cut_counts soc shape isFour2five (Nat.not_le.mp hfits)
    have hactual : (locals soc shape isFour2five).actualColSize = shape.h * shape.w := rfl
    constructor
    · intro h
      right
      -- More columns than a cube has are several cubes.
      have hone : 1 < (locals soc shape isFour2five).bufCubeRange := by
        by_contra hle1
        have hzero : (locals soc shape isFour2five).bufCubeRange - 1 = 0 := by omega
        have hr16 := le_bursts r
        rw [hzero, Nat.zero_mul, Nat.zero_add] at hx
        omega
      have hlast := (h.tail hone).1
      omega
    · intro h
      -- the last cube is not full, so both find the same rest
      have hrest := h.resolve_left hfits
      rw [hbursts] at hrest
      obtain ⟨hpadded, hcopied⟩ := rest_of_bursts hle hrest
      rw [← hbursts, ← htail] at hpadded
      rw [← hx] at hcopied
      have hburst : 16 ≤ bursts r := by
        unfold bursts
        omega
      refine ⟨hdvd, hpos, hbytes, fun _ => ?_, fun _ => ?_, fun _ => ?_⟩
      · rw [hcol, hpadded, hactual]
        exact hbursts.symm
      · rw [hcol, hpadded]
        exact ⟨hburst, hle⟩
      · rw [hcol, hactual, hcopied]
        exact hx.symm

end Sizes

/-- The limit of a cube is 4096 columns, and of 8192 columns nothing remains: the second
cube is empty for the helper, and full for its callers. -/
theorem second_cube_empty :
    (locals ub256K twoWholeCubes true).bufCubeRange = 2 ∧
      (locals ub256K twoWholeCubes true).vnchwconvCubeColSize = 4096 ∧
      (locals ub256K twoWholeCubes true).tailCubeSize = 0 ∧
      (locals ub256K twoWholeCubes true).hwTailSize = 0 ∧
      ¬ SizesAgree ub256K (locals ub256K twoWholeCubes true) true := by
  refine ⟨by decide, by decide, by decide, by decide, fun h => ?_⟩
  have htail := (h.tail (by decide)).1
  revert htail
  decide

end HwEfat.AutoSchedule.DimConv
