/-
  HwEfat.AutoSchedule.DimConv.Cubes — how the H*W columns are cut into cubes.

  A cube that is cut holds `columns soc` columns, a 64th of the unified buffer.  The
  layout programs then work on `bufCubeRange` cubes, of which the last one is what
  remains (`cubes_spec`).
-/
import Mathlib.Tactic.Ring
import HwEfat.AutoSchedule.DimConv.Moves

namespace HwEfat.AutoSchedule.DimConv

open HwEfat.Lib
open HwEfat.Lib.Transfer (Touches origin)

/-! ## §1. Numbers. -/

/-- Two mixed numbers are equal digit by digit. -/
theorem mixed_inj {m a b a' b' : Nat} (hb : b < m) (hb' : b' < m)
    (h : a * m + b = a' * m + b') : a = a' ∧ b = b' := by
  have hdiv : ∀ a b, b < m → (a * m + b) / m = a := by
    intro a b hlt
    rw [Nat.mul_comm, Nat.mul_add_div (by omega), Nat.div_eq_of_lt hlt, Nat.add_zero]
  have ha : a = a' := by rw [← hdiv a b hb, h, hdiv a' b' hb']
  subst ha
  exact ⟨rfl, by omega⟩

/-- Some of `k` pieces of size `m` may be short, the last one. -/
theorem ceil_spec {m x : Nat} (hm : 0 < m) (hx : 0 < x) :
    ((x + m - 1) / m - 1) * m < x ∧ x ≤ (x + m - 1) / m * m ∧ 0 < (x + m - 1) / m := by
  have hmod := Nat.mod_lt (x + m - 1) hm
  have hdiv := Nat.div_add_mod (x + m - 1) m
  have hpos : 0 < (x + m - 1) / m := Nat.div_pos (by omega) hm
  have hsub : ((x + m - 1) / m - 1) * m = (x + m - 1) / m * m - m := by
    rw [Nat.sub_mul, Nat.one_mul]
  have hcomm : m * ((x + m - 1) / m) = (x + m - 1) / m * m := Nat.mul_comm _ _
  refine ⟨?_, ?_, hpos⟩
  · have hle : m ≤ (x + m - 1) / m * m := Nat.le_mul_of_pos_left m hpos
    omega
  · omega

/-- What remains for the last piece. -/
theorem last_piece {m x : Nat} (hm : 0 < m) (hx : 0 < x) :
    x - ((x + m - 1) / m - 1) * m = if x % m = 0 then m else x % m := by
  obtain ⟨hlt, hle, hpos⟩ := ceil_spec hm hx
  generalize hk : (x + m - 1) / m = k at hlt hle hpos ⊢
  obtain ⟨j, rfl⟩ : ∃ j, k = j + 1 := ⟨k - 1, by omega⟩
  rw [Nat.add_sub_cancel] at hlt ⊢
  rw [Nat.add_mul, Nat.one_mul] at hle
  obtain ⟨r, hr⟩ : ∃ r, x = j * m + r := ⟨x - j * m, by omega⟩
  rw [hr, Nat.add_sub_cancel_left, Nat.mul_comm, Nat.mul_add_mod]
  by_cases hrm : r = m
  · rw [hrm, Nat.mod_self, if_pos rfl]
  · rw [Nat.mod_eq_of_lt (by omega), if_neg (by omega)]

/-- The piece that a place is in. -/
theorem piece_unique {m x k : Nat} (hle : k * m ≤ x) (hlt : x < k * m + m) : k = x / m := by
  refine (Nat.div_eq_of_lt_le hle ?_).symm
  rw [Nat.add_mul, Nat.one_mul]
  exact hlt

/-- Rounding up to bursts commutes with cutting off pieces of whole bursts. -/
theorem bursts_mod {m x : Nat} (hm : 16 ∣ m) : bursts x % m = bursts (x % m) % m := by
  obtain ⟨s, rfl⟩ := hm
  have hx := Nat.div_add_mod x (16 * s)
  unfold bursts
  generalize hq : x / (16 * s) = q at hx
  generalize hr : x % (16 * s) = r at hx
  have hsplit : (x + 15) / 16 = s * q + (r + 15) / 16 := by
    rw [← hx, Nat.mul_assoc, Nat.add_assoc, Nat.mul_add_div (by omega)]
  rw [hsplit, Nat.mul_add, ← Nat.mul_assoc, Nat.mul_add_mod]

/-- What remains of whole bursts holds what remains. -/
theorem mod_le_bursts_mod {m x : Nat} (hm : 16 ∣ m) (hpos : 0 < m)
    (hne : bursts x % m ≠ 0) : x % m ≠ 0 ∧ x % m ≤ bursts x % m := by
  have hlt := Nat.mod_lt x hpos
  have hle : bursts (x % m) ≤ m := by
    obtain ⟨s, rfl⟩ := hm
    unfold bursts
    omega
  have hne' : bursts (x % m) ≠ m := by
    intro heq
    rw [bursts_mod hm, heq, Nat.mod_self] at hne
    exact hne rfl
  have hval : bursts x % m = bursts (x % m) := by
    rw [bursts_mod hm, Nat.mod_eq_of_lt (by omega)]
  rw [hval] at hne ⊢
  refine ⟨fun hzero => ?_, le_bursts _⟩
  rw [hzero] at hne
  exact hne rfl

/-! ## §2. The size of a cube. -/

/-- The columns of a full cube. -/
def UbSpec.columns (soc : UbSpec) : Nat := soc.ubSize / 64

/-- The columns that fit into the buffer are whole blocks. -/
theorem UbSpec.columns_spec (soc : UbSpec) :
    soc.ubSize = 64 * soc.columns ∧ 32 ∣ soc.columns ∧ 0 < soc.columns := by
  obtain ⟨s, hs⟩ := soc.dvd
  have hpos := soc.pos
  have hcol : soc.columns = 32 * s := by
    unfold columns
    omega
  rw [hcol]
  refine ⟨by omega, ⟨s, rfl⟩, by omega⟩

/-- There are fewer of them than the repeats allow. -/
theorem SocSpec.columns_lt (soc : SocSpec) : soc.columns < 2 ^ 17 := by
  have hlt := soc.lt
  unfold UbSpec.columns
  omega

/-- The columns fit into one cube exactly if there are no more than a full cube has. -/
theorem bursts_le_columns {soc : UbSpec} {hw : Nat} :
    bursts hw ≤ soc.columns ↔ hw ≤ soc.columns := by
  obtain ⟨s, hs⟩ := soc.columns_spec.2.1
  unfold bursts
  omega

/-- The columns of a cube where the columns do not fit into one: `_five2four_ir` leaves room
for their heads, if they are not whole bursts. -/
def cutColumns (soc : UbSpec) (hw : Nat) (isFour2five : Bool) : Nat :=
  if isFour2five = false ∧ hw % 16 ≠ 0 then soc.columns - 16 else soc.columns

/-- The columns of one pass are whole blocks that fit. -/
theorem cutColumns_spec (soc : UbSpec) (hw : Nat) (isFour2five : Bool) :
    16 ∣ cutColumns soc hw isFour2five ∧ 0 < cutColumns soc hw isFour2five ∧
      cutColumns soc hw isFour2five ≤ soc.columns := by
  obtain ⟨_, hdvd, hpos⟩ := soc.columns_spec
  unfold cutColumns
  split <;> omega

/-- Where the columns are whole blocks, all that fit are taken. -/
theorem cutColumns_whole {soc : UbSpec} {hw : Nat} {isFour2five : Bool}
    (hdir : isFour2five = true ∨ 16 ∣ hw) : cutColumns soc hw isFour2five = soc.columns := by
  refine if_neg fun h => ?_
  rcases hdir with hdir | hdir
  · rw [h.1] at hdir
    cases hdir
  · exact h.2 (Nat.mod_eq_zero_of_dvd hdir)

section CubeBufMax

variable {soc : UbSpec} {hw : Nat} {isFour2five : Bool}

/-- The buffer of a cube is as long as its bursts. -/
theorem cubeBufSize (hw_pos : 0 < hw) :
    ((hw - 1) / 16 + 1) * 16 * 16 * 2 = 32 * bursts hw := by
  unfold bursts
  omega

/-- One cube for all columns. -/
theorem getVnchwconvCubeBufMax_fits (hw_pos : 0 < hw) (hfits : hw ≤ soc.columns) :
    getVnchwconvCubeBufMax soc hw isFour2five = (16 * bursts hw, 0) := by
  obtain ⟨hub, _⟩ := soc.columns_spec
  have hle := bursts_le_columns.mpr hfits
  unfold getVnchwconvCubeBufMax
  rw [cubeBufSize hw_pos]
  dsimp only
  rw [if_neg (by omega)]
  have hhalf : 32 * bursts hw / 2 = 16 * bursts hw := by omega
  rw [hhalf]

/-- Several cubes. -/
theorem getVnchwconvCubeBufMax_cut (hw_pos : 0 < hw) (hcut : soc.columns < hw) :
    getVnchwconvCubeBufMax soc hw isFour2five
      = (16 * cutColumns soc hw isFour2five,
          16 * (bursts hw % cutColumns soc hw isFour2five)) := by
  obtain ⟨hub, hdvd, hpos⟩ := soc.columns_spec
  have hlt : soc.columns < bursts hw := Nat.lt_of_lt_of_le hcut (le_bursts hw)
  -- whatever the limit is, its half is the cube and half of the remainder the last cube
  have hhalf : ∀ c, 32 * c / 2 = 16 * c := by omega
  have htail : ∀ c, 32 * bursts hw % (32 * c) / 2 = 16 * (bursts hw % c) := by
    intro c
    rw [Nat.mul_mod_mul_left]
    omega
  have hwhole : soc.ubSize / 2 = 32 * soc.columns := by omega
  have hroom : (soc.ubSize - 512) / 2 / (2 * 16 * 16) * (2 * 16 * 16)
      = 32 * (soc.columns - 16) := by omega
  unfold getVnchwconvCubeBufMax cutColumns
  rw [cubeBufSize hw_pos]
  dsimp only
  rw [if_pos (by omega), hroom, hwhole]
  cases isFour2five with
  | true => rw [if_pos rfl, if_neg (by simp), hhalf, htail]
  | false =>
      rw [if_neg (by decide)]
      by_cases hun : hw % 16 = 0
      · rw [if_neg (by omega), if_neg (by simp [hun]), hhalf, htail]
      · rw [if_pos hun, if_pos ⟨rfl, hun⟩, hhalf, htail]

end CubeBufMax

/-! ## §3. The local variables. -/

/-- What the local variables have in common, however the columns are cut. -/
structure Tiling (v : Locals) (hw : Nat) : Prop where
  actual : v.actualColSize = hw
  bufMax : v.vnchwconvCubeBufMax = 16 * v.vnchwconvCubeColSize
  dvd : 16 ∣ v.vnchwconvCubeColSize
  pos : 0 < v.vnchwconvCubeColSize
  lt : v.vnchwconvCubeBufMax < 2 ^ 16 * 32
  range : v.bufCubeRange = (hw + v.vnchwconvCubeColSize - 1) / v.vnchwconvCubeColSize
  hwTail : v.hwTailSize = hw % v.vnchwconvCubeColSize

section Tilings

variable {soc : SocSpec} {shape : Shape4D} {isFour2five : Bool}

/-- There is a column. -/
theorem hw_pos (shape : Shape4D) : 0 < shape.h * shape.w := Nat.mul_pos shape.h_pos shape.w_pos

/-- The sizes, from the buffer of a cube. -/
theorem tiling_of_bufMax (shape : Shape4D) {k : Nat} (hk : 0 < k) (hlt : 16 * k < 2 ^ 17)
    (hbuf : (getVnchwconvCubeBufMax soc (shape.h * shape.w) isFour2five).1 = 16 * (16 * k)) :
    Tiling (locals soc shape isFour2five) (shape.h * shape.w) ∧
      (locals soc shape isFour2five).vnchwconvCubeColSize = 16 * k := by
  have hcol : (locals soc shape isFour2five).vnchwconvCubeColSize = 16 * k := by
    show (getVnchwconvCubeBufMax soc (shape.h * shape.w) isFour2five).1 / 16 = 16 * k
    omega
  have hmax : (locals soc shape isFour2five).vnchwconvCubeBufMax = 16 * (16 * k) := hbuf
  refine ⟨⟨rfl, ?_, ?_, ?_, ?_, rfl, rfl⟩, hcol⟩
  · rw [hmax, hcol]
  · rw [hcol]
    exact Dvd.intro k rfl
  · omega
  · omega

/-- One cube. -/
theorem locals_fits {soc : UbSpec} (hfits : shape.h * shape.w ≤ soc.columns) :
    (locals soc shape isFour2five).vnchwconvCubeBufMax = 16 * bursts (shape.h * shape.w) ∧
      (locals soc shape isFour2five).vnchwconvCubeColSize = bursts (shape.h * shape.w) ∧
      (locals soc shape isFour2five).bufCubeRange = 1 := by
  have hpos := hw_pos shape
  have hge := le_bursts (shape.h * shape.w)
  have hcube : getVnchwconvCubeBufMax soc (shape.h * shape.w) isFour2five
      = (16 * bursts (shape.h * shape.w), 0) := getVnchwconvCubeBufMax_fits hpos hfits
  have hhalf : 16 * bursts (shape.h * shape.w) / 16 = bursts (shape.h * shape.w) := by omega
  unfold locals
  simp only [hcube, hhalf, true_and]
  exact Nat.div_eq_of_lt_le (by omega) (by omega)

/-- Several cubes. -/
theorem locals_cut {soc : UbSpec} (hcut : soc.columns < shape.h * shape.w) :
    (locals soc shape isFour2five).vnchwconvCubeBufMax
        = 16 * cutColumns soc (shape.h * shape.w) isFour2five ∧
      (locals soc shape isFour2five).vnchwconvCubeColSize
        = cutColumns soc (shape.h * shape.w) isFour2five ∧
      (locals soc shape isFour2five).tailCubeSize
        = 16 * (bursts (shape.h * shape.w) % cutColumns soc (shape.h * shape.w) isFour2five) := by
  have hcube := @getVnchwconvCubeBufMax_cut soc _ isFour2five (hw_pos shape) hcut
  refine ⟨congrArg Prod.fst hcube, ?_, congrArg Prod.snd hcube⟩
  show (getVnchwconvCubeBufMax soc (shape.h * shape.w) isFour2five).1 / 16 = _
  rw [hcube]
  dsimp only
  omega

/-- **All columns fit**: one cube. -/
theorem tiling_fits (hfits : shape.h * shape.w ≤ soc.columns) :
    Tiling (locals soc shape isFour2five) (shape.h * shape.w) ∧
      (locals soc shape isFour2five).vnchwconvCubeColSize = bursts (shape.h * shape.w) ∧
      (locals soc shape isFour2five).bufCubeRange = 1 := by
  have hlt := soc.columns_lt
  have hpos := hw_pos shape
  have hle := bursts_le_columns.mpr hfits
  have hge := le_bursts (shape.h * shape.w)
  have hbursts : bursts (shape.h * shape.w) = 16 * ((shape.h * shape.w + 15) / 16) := rfl
  obtain ⟨hbuf, hcol, hone⟩ := @locals_fits shape isFour2five _ hfits
  obtain ⟨htiling, _⟩ := tiling_of_bufMax shape (by omega) (by omega) hbuf
  exact ⟨htiling, hcol, hone⟩

/-- **They do not**: several cubes. -/
theorem tiling_cut (hcut : soc.columns < shape.h * shape.w) :
    Tiling (locals soc shape isFour2five) (shape.h * shape.w) ∧
      (locals soc shape isFour2five).vnchwconvCubeColSize
        = cutColumns soc (shape.h * shape.w) isFour2five ∧
      (locals soc shape isFour2five).tailCubeSize
        = 16 * (bursts (shape.h * shape.w)
            % cutColumns soc (shape.h * shape.w) isFour2five) := by
  have hlt := soc.columns_lt
  obtain ⟨⟨s, hs⟩, hpos, hle⟩ := cutColumns_spec soc (shape.h * shape.w) isFour2five
  obtain ⟨hbuf, hcol, htail⟩ := @locals_cut shape isFour2five _ hcut
  rw [hs] at hbuf
  obtain ⟨htiling, _⟩ := tiling_of_bufMax shape (by omega) (by omega) hbuf
  exact ⟨htiling, hcol, htail⟩

end Tilings

namespace Tiling

variable {v : Locals} {hw : Nat}

/-- The cubes cover the columns, and every one but the last is full. -/
theorem cubes_spec (h : Tiling v hw) (hpos : 0 < hw) :
    (v.bufCubeRange - 1) * v.vnchwconvCubeColSize < hw ∧
      hw ≤ v.bufCubeRange * v.vnchwconvCubeColSize ∧ 0 < v.bufCubeRange := by
  rw [h.range]
  exact ceil_spec h.pos hpos

/-- Several cubes, if one is too small. -/
theorem one_lt_range (h : Tiling v hw) (hcut : v.vnchwconvCubeColSize < hw) :
    1 < v.bufCubeRange := by
  obtain ⟨_, hle, _⟩ := h.cubes_spec (by omega)
  by_contra hone
  have hmul : v.bufCubeRange * v.vnchwconvCubeColSize ≤ 1 * v.vnchwconvCubeColSize :=
    Nat.mul_le_mul_right _ (by omega)
  omega

/-- A cube before the last one lies within the columns. -/
theorem cube_le (h : Tiling v hw) (hpos : 0 < hw) {cubeI : Nat}
    (hcube : cubeI < v.bufCubeRange - 1) :
    cubeI * v.vnchwconvCubeColSize + v.vnchwconvCubeColSize ≤ hw := by
  obtain ⟨hlt, _, _⟩ := h.cubes_spec hpos
  have hmul : (cubeI + 1) * v.vnchwconvCubeColSize
      ≤ (v.bufCubeRange - 1) * v.vnchwconvCubeColSize := Nat.mul_le_mul_right _ (by omega)
  rw [Nat.add_mul, Nat.one_mul] at hmul
  omega

/-- An element of `input_ub` lies before `output_ub`. -/
theorem inputUb_lt (h : Tiling v hw) {j r : Nat} (hj : j < 16)
    (hr : r < v.vnchwconvCubeColSize) :
    j * v.vnchwconvCubeColSize + r < v.vnchwconvCubeBufMax := by
  have hmul : (j + 1) * v.vnchwconvCubeColSize ≤ 16 * v.vnchwconvCubeColSize :=
    Nat.mul_le_mul_right _ hj
  rw [Nat.add_mul, Nat.one_mul] at hmul
  rw [h.bufMax]
  omega

end Tiling

/-- The last cube holds what is left of the columns in whole bursts. -/
structure CutTiling (v : Locals) (hw : Nat) : Prop extends Tiling v hw where
  tail : 1 < v.bufCubeRange → v.tailCubeSize = 16 * (bursts hw % v.vnchwconvCubeColSize)

/-- Either way the columns are cut into cubes. -/
theorem cutTiling_locals (soc : SocSpec) (shape : Shape4D) (isFour2five : Bool) :
    CutTiling (locals soc shape isFour2five) (shape.h * shape.w) := by
  by_cases hfits : shape.h * shape.w ≤ soc.columns
  · obtain ⟨htiling, _, hone⟩ := @tiling_fits _ _ isFour2five hfits
    exact ⟨htiling, fun hlt => absurd hone (Nat.ne_of_gt hlt)⟩
  · obtain ⟨htiling, hcol, htail⟩ := @tiling_cut _ _ isFour2five (Nat.not_le.mp hfits)
    refine ⟨htiling, fun _ => ?_⟩
    rw [htail, hcol]

/-- How many columns of a cube are in the tensor. -/
def Locals.cubeLen (v : Locals) (cubeI : Nat) : Nat :=
  if v.bufCubeRange > 1 then
    if cubeI ≠ v.bufCubeRange - 1 then v.vnchwconvCubeColSize
    else v.actualColSize % v.vnchwconvCubeColSize
  else v.actualColSize

namespace Tiling

variable {v : Locals} {hw : Nat}

/-- No cube reaches beyond the columns. -/
theorem cubeLen_spec (h : Tiling v hw) (hpos : 0 < hw) {cubeI : Nat}
    (hcube : cubeI < v.bufCubeRange) :
    cubeI * v.vnchwconvCubeColSize + v.cubeLen cubeI ≤ hw ∧
      v.cubeLen cubeI ≤ v.vnchwconvCubeColSize := by
  obtain ⟨hlt, hle, _⟩ := h.cubes_spec hpos
  unfold Locals.cubeLen
  rw [h.actual]
  split
  · split
    · next hmid => exact ⟨h.cube_le hpos (by omega), Nat.le_refl _⟩
    · next hlast =>
        -- The last cube: what remains, but nothing where a full one remains.
        have hpiece := last_piece h.pos hpos
        rw [← h.range] at hpiece
        have hmod := Nat.mod_lt hw h.pos
        obtain rfl : cubeI = v.bufCubeRange - 1 := by omega
        refine ⟨?_, Nat.le_of_lt hmod⟩
        split at hpiece <;> omega
  · next hone =>
      have hone' : v.bufCubeRange = 1 := by omega
      rw [hone', Nat.one_mul] at hle
      obtain rfl : cubeI = 0 := by omega
      omega

/-- Every column is in one of the cubes. -/
theorem cube_lt (h : Tiling v hw) (hpos : 0 < hw) {x : Nat} (hx : x < hw) :
    x / v.vnchwconvCubeColSize < v.bufCubeRange := by
  obtain ⟨_, hle, _⟩ := h.cubes_spec hpos
  exact (Nat.div_lt_iff_lt_mul h.pos).mpr (by omega)

/-- A cube has the rows that are in it, unless it is a last cube that counts as empty. -/
theorem row_lt_cubeLen (h : Tiling v hw) (hpos : 0 < hw)
    (hlast : v.bufCubeRange = 1 ∨ hw % v.vnchwconvCubeColSize ≠ 0) {x : Nat} (hx : x < hw) :
    x % v.vnchwconvCubeColSize < v.cubeLen (x / v.vnchwconvCubeColSize) := by
  have hmod := Nat.mod_lt x h.pos
  unfold Locals.cubeLen
  rw [h.actual]
  split
  · split
    · exact hmod
    · next hcube =>
        -- The columns of the last cube are those that remain.
        have hpiece := last_piece h.pos hpos
        rw [← h.range, if_neg (by omega)] at hpiece
        have hsplit := Nat.div_add_mod' x v.vnchwconvCubeColSize
        have hcube' : x / v.vnchwconvCubeColSize = v.bufCubeRange - 1 := not_not.mp hcube
        rw [hcube'] at hsplit
        omega
  · exact Nat.lt_of_le_of_lt (Nat.mod_le _ _) hx

end Tiling

/-! ## §4. The passes over the channels. -/

/-- How many columns of the C1 block `c1` there are. -/
def Locals.columnsOf (v : Locals) (c1 : Nat) : Nat := if c1 < v.c1Loop then 16 else v.c1Tail

/-- The full C1 blocks, and then what remains of the channels. -/
def passes (v : Locals) (n : Nat) (body : Nat → Nat → Nat → Nat → List Instr) : List Instr :=
  nest n 0 v.c1Loop v.bufCubeRange (body 16) ++
    if v.c1Tail ≠ 0 then nest n v.c1Loop v.c1Range v.bufCubeRange (body v.c1Tail) else []

/-- The code is a nest of passes over blocks of channels and cubes, -/
theorem four2fiveIr_eq (soc : SocSpec) (shape : Shape4D) :
    four2fiveIr soc shape
      = passes (locals soc shape true) shape.n (four2fiveCube shape (locals soc shape true)) :=
  rfl

/-- in either direction. -/
theorem five2fourIr_eq (soc : SocSpec) (shape : Shape4D) :
    five2fourIr soc shape
      = passes (locals soc shape false) shape.n (five2fourCube shape (locals soc shape false)) :=
  rfl

/-- The channels, in C1 blocks. -/
structure Channels (v : Locals) (c : Nat) : Prop where
  c1Range : v.c1Range = (c + 15) / 16
  c1Loop : v.c1Loop = c / 16
  c1Tail : v.c1Tail = c % 16

/-- The channels in blocks of 16. -/
theorem channels_locals (soc : SocSpec) (shape : Shape4D) (isFour2five : Bool) :
    Channels (locals soc shape isFour2five) shape.c := by
  refine ⟨rfl, ?_, rfl⟩
  show (if shape.c % 16 ≠ 0 then (shape.c + 16 - 1) / 16 - 1 else (shape.c + 16 - 1) / 16)
    = shape.c / 16
  split <;> omega

section Passes

variable {v : Locals} {c n : Nat} {body : Nat → Nat → Nat → Nat → List Instr}

/-- The columns of the C1 blocks are the channels. -/
theorem Channels.columnsOf_iff (h : Channels v c) {c1 j : Nat} :
    c1 < v.c1Range ∧ j < v.columnsOf c1 ↔ j < 16 ∧ 16 * c1 + j < c := by
  unfold Locals.columnsOf
  rw [h.c1Range, h.c1Loop, h.c1Tail]
  split <;> omega

/-- One turn of the loops. -/
def InPasses (v : Locals) (n idxN c1 cubeI : Nat) : Prop :=
  idxN < n ∧ c1 < v.c1Range ∧ cubeI < v.bufCubeRange

/-- The moves of the passes. -/
theorem mem_moves_passes (h : Channels v c) {t : Transfer (Transfer.Cell Mem)} :
    t ∈ moves (passes v n body)
      ↔ ∃ idxN c1 cubeI, InPasses v n idxN c1 cubeI ∧
        t ∈ moves (body (v.columnsOf c1) idxN c1 cubeI) := by
  have hloop := h.c1Loop
  have hrange := h.c1Range
  have htail := h.c1Tail
  unfold passes
  rw [moves_append, List.mem_append, mem_moves_nest]
  constructor
  · intro hor
    -- The pass over the full C1 blocks, and the pass over the one with the tail.
    rcases hor with ⟨idxN, c1, cubeI, ⟨hn, _, hc1, hcube⟩, ht⟩ | ht
    · refine ⟨idxN, c1, cubeI, ⟨hn, by omega, hcube⟩, ?_⟩
      rwa [Locals.columnsOf, if_pos hc1]
    · split at ht
      · obtain ⟨idxN, c1, cubeI, ⟨hn, hle, hc1, hcube⟩, ht⟩ := mem_moves_nest.mp ht
        refine ⟨idxN, c1, cubeI, ⟨hn, hc1, hcube⟩, ?_⟩
        rwa [Locals.columnsOf, if_neg (Nat.not_lt.mpr hle)]
      · cases ht
  · intro ⟨idxN, c1, cubeI, ⟨hn, hc1, hcube⟩, ht⟩
    unfold Locals.columnsOf at ht
    split at ht
    · next hlt => exact Or.inl ⟨idxN, c1, cubeI, ⟨hn, Nat.zero_le _, hlt, hcube⟩, ht⟩
    · next hge =>
        right
        rw [if_pos (by omega), mem_moves_nest]
        exact ⟨idxN, c1, cubeI, ⟨hn, Nat.not_lt.mp hge, hc1, hcube⟩, ht⟩

/-- The cells that they write. -/
theorem touches_passes (h : Channels v c) {cell : Transfer.Cell Mem} :
    Touches (moves (passes v n body)) cell
      ↔ ∃ idxN c1 cubeI, InPasses v n idxN c1 cubeI ∧
        Touches (moves (body (v.columnsOf c1) idxN c1 cubeI)) cell := by
  unfold Touches
  simp only [mem_moves_passes h]
  constructor
  · intro ⟨t, ⟨idxN, c1, cubeI, hin, ht⟩, hs⟩
    exact ⟨idxN, c1, cubeI, hin, t, ht, hs⟩
  · intro ⟨idxN, c1, cubeI, hin, t, ht, hs⟩
    exact ⟨t, ⟨idxN, c1, cubeI, hin, ht⟩, hs⟩

section Alone

variable {idxN c1 cubeI : Nat} {cell : Transfer.Cell Mem}
  (honly : ∀ idxN' c1' cubeI', InPasses v n idxN' c1' cubeI' →
    Touches (moves (body (v.columnsOf c1') idxN' c1' cubeI')) cell →
      idxN' = idxN ∧ c1' = c1 ∧ cubeI' = cubeI)

include honly

/-- A cell that one turn alone writes, among the turns over full C1 blocks. -/
theorem alone_full (h : Channels v c) : ∀ idxN' c1' cubeI',
    InNest n 0 v.c1Loop v.bufCubeRange idxN' c1' cubeI' →
      Touches (moves (body 16 idxN' c1' cubeI')) cell →
        idxN' = idxN ∧ c1' = c1 ∧ cubeI' = cubeI := by
  intro idxN' c1' cubeI' ⟨hn', _, hlt', hcube'⟩ htouch
  have hloop := h.c1Loop
  have hrange := h.c1Range
  have hcols : v.columnsOf c1' = 16 := if_pos hlt'
  rw [← hcols] at htouch
  exact honly idxN' c1' cubeI' ⟨hn', by omega, hcube'⟩ htouch

/-- The same, among the turns over the remaining channels. -/
theorem alone_tail : ∀ idxN' c1' cubeI',
    InNest n v.c1Loop v.c1Range v.bufCubeRange idxN' c1' cubeI' →
      Touches (moves (body v.c1Tail idxN' c1' cubeI')) cell →
        idxN' = idxN ∧ c1' = c1 ∧ cubeI' = cubeI := by
  intro idxN' c1' cubeI' ⟨hn', hle', hc1', hcube'⟩ htouch
  have hcols : v.columnsOf c1' = v.c1Tail := if_neg (Nat.not_lt.mpr hle')
  rw [← hcols] at htouch
  exact honly idxN' c1' cubeI' ⟨hn', hc1', hcube'⟩ htouch

/-- The turns over the remaining channels do not write a cell of a full C1 block. -/
theorem not_touches_tail (hlt : c1 < v.c1Loop) :
    ¬ Touches (moves (if v.c1Tail ≠ 0 then
      nest n v.c1Loop v.c1Range v.bufCubeRange (body v.c1Tail) else [])) cell := by
  intro htouch
  split at htouch
  · obtain ⟨idxN', c1', cubeI', hin', htouch⟩ := touches_nest.mp htouch
    obtain ⟨_, heq, _⟩ := alone_tail honly idxN' c1' cubeI' hin' htouch
    obtain ⟨_, hle', _, _⟩ := hin'
    omega
  · obtain ⟨t, ht, _⟩ := htouch
    cases ht

end Alone

/-- **The origin through the program**: one turn of the loops alone writes the cell, from
a cell that the program does not write. -/
theorem origin_passes (h : Channels v c) {idxN c1 cubeI : Nat}
    (hin : InPasses v n idxN c1 cubeI) {cell d : Transfer.Cell Mem}
    (hfrom : origin (moves (body (v.columnsOf c1) idxN c1 cubeI)) cell = d)
    (honly : ∀ idxN' c1' cubeI', InPasses v n idxN' c1' cubeI' →
      Touches (moves (body (v.columnsOf c1') idxN' c1' cubeI')) cell →
        idxN' = idxN ∧ c1' = c1 ∧ cubeI' = cubeI)
    (hfixed : ¬ Touches (moves (passes v n body)) d) :
    origin (moves (passes v n body)) cell = d := by
  have hloop := h.c1Loop
  have hrange := h.c1Range
  have htail := h.c1Tail
  obtain ⟨hn, hc1, hcube⟩ := hin
  unfold passes at hfixed ⊢
  rw [moves_append, Transfer.touches_append, not_or] at hfixed
  rw [moves_append, Transfer.origin_append]
  by_cases hlt : c1 < v.c1Loop
  · -- The pass over the remaining channels does not write the cell.
    have hcols : v.columnsOf c1 = 16 := if_pos hlt
    rw [hcols] at hfrom
    rw [Transfer.origin_of_not_touches (not_touches_tail honly hlt)]
    exact origin_nest ⟨hn, Nat.zero_le _, hlt, hcube⟩ hfrom (alone_full honly h) hfixed.1
  · -- The pass over the remaining channels writes it, from what the first one leaves.
    have hcols : v.columnsOf c1 = v.c1Tail := if_neg hlt
    rw [hcols] at hfrom
    have hne : v.c1Tail ≠ 0 := by omega
    rw [if_pos hne] at hfixed ⊢
    have hlast : origin (moves (nest n v.c1Loop v.c1Range v.bufCubeRange (body v.c1Tail))) cell
        = d :=
      origin_nest ⟨hn, Nat.not_lt.mp hlt, hc1, hcube⟩ hfrom (alone_tail honly) hfixed.2
    rw [hlast]
    exact Transfer.origin_of_not_touches hfixed.1

/-- If there is a full C1 block, the program starts with the first cube of the first. -/
theorem passes_first (h : Channels v c) (hn : 0 < n) (hfull : 16 ≤ c)
    (hcubes : 0 < v.bufCubeRange) : ∃ rest, passes v n body = body 16 0 0 0 ++ rest := by
  have hloop := h.c1Loop
  obtain ⟨rest, hrest⟩ : ∃ rest, nest n 0 v.c1Loop v.bufCubeRange (body 16)
      = body 16 0 0 0 ++ rest := nest_first hn (by omega) hcubes
  unfold passes
  rw [hrest, List.append_assoc]
  exact ⟨_, rfl⟩

/-- Within the first batch and C1 block, a cell that no cube reads is no origin. -/
theorem origin_passes_ne (h : Channels v c) {cubeI : Nat} (hin : InPasses v n 0 0 cubeI)
    {cell d : Transfer.Cell Mem} (hne : cell ≠ d)
    (honly : ∀ idxN' c1' cubeI', InPasses v n idxN' c1' cubeI' →
      Touches (moves (body (v.columnsOf c1') idxN' c1' cubeI')) cell →
        idxN' = 0 ∧ c1' = 0 ∧ cubeI' = cubeI)
    (hread : ∀ k, k ≤ cubeI → ∀ t ∈ moves (body (v.columnsOf 0) 0 0 k), ∀ c', t c' ≠ some d) :
    origin (moves (passes v n body)) cell ≠ d := by
  have hloop := h.c1Loop
  have hrange := h.c1Range
  have htail := h.c1Tail
  obtain ⟨hn, hc1, hcube⟩ := hin
  unfold passes
  rw [moves_append, Transfer.origin_append]
  by_cases hfull : 0 < v.c1Loop
  · have hcols : v.columnsOf 0 = 16 := if_pos hfull
    rw [hcols] at hread
    rw [Transfer.origin_of_not_touches (not_touches_tail honly hfull)]
    exact origin_nest_ne ⟨hn, Nat.le_refl _, hfull, hcube⟩ hne (alone_full honly h) hread
  · -- There is no full C1 block, and the remaining channels come first.
    have hzero : v.c1Loop = 0 := by omega
    have hcols : v.columnsOf 0 = v.c1Tail := if_neg hfull
    rw [hcols] at hread
    have hempty : ¬ Touches (moves (nest n 0 v.c1Loop v.bufCubeRange (body 16)))
        (origin (moves (if v.c1Tail ≠ 0 then
          nest n v.c1Loop v.c1Range v.bufCubeRange (body v.c1Tail) else [])) cell) := by
      rw [touches_nest]
      intro ⟨_, _, _, ⟨_, _, hlt, _⟩, _⟩
      omega
    have halone := alone_tail honly
    rw [hzero] at halone
    rw [Transfer.origin_of_not_touches hempty, if_pos (by omega), hzero]
    exact origin_nest_ne ⟨hn, Nat.le_refl _, hc1, hcube⟩ hne halone hread

end Passes

/-! ## §5. Places in the tensors. -/

/-- The position in five dimensions: block by block, column by column. -/
theorem index5_eq (shape : Shape4D) (n c1 h w c0 : Nat) :
    shape.index5 n c1 h w c0
      = 16 * ((n * shape.c1 + c1) * (shape.h * shape.w) + (h * shape.w + w)) + c0 := by
  unfold Shape4D.index5
  ring

/-- The position in four dimensions. -/
theorem index4_eq (shape : Shape4D) (n c h w : Nat) :
    shape.index4 n c h w
      = n * shape.c * shape.h * shape.w + c * (shape.h * shape.w) + (h * shape.w + w) := by
  unfold Shape4D.index4
  ring

/-- The number of a column. -/
theorem column_lt {shape : Shape4D} {h w : Nat} (hh : h < shape.h) (hw : w < shape.w) :
    h * shape.w + w < shape.h * shape.w := by
  have hmul : (h + 1) * shape.w ≤ shape.h * shape.w := Nat.mul_le_mul_right _ hh
  rw [Nat.add_mul, Nat.one_mul] at hmul
  omega

/-! ## §6. A device and two shapes. -/

/-- A unified buffer of 256 KiB. -/
def ub256K : SocSpec where
  ubSize := 262144
  dvd := by decide
  pos := by decide
  lt := by decide

/-- 8192 columns, two whole cubes. -/
def twoWholeCubes : Shape4D where
  n := 1
  c := 16
  h := 64
  w := 128
  n_pos := by decide
  c_pos := by decide
  h_pos := by decide
  w_pos := by decide

/-- One channel of one element. -/
def oneElement : Shape4D where
  n := 1
  c := 1
  h := 1
  w := 1
  n_pos := by decide
  c_pos := by decide
  h_pos := by decide
  w_pos := by decide

end HwEfat.AutoSchedule.DimConv
