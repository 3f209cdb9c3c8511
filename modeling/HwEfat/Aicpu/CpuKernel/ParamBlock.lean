/-
  HwEfat.Aicpu.CpuKernel.ParamBlock — the layout of a param block as `ParseIoAddr`
  reads it: the head, `ioAddrNum` addresses of 8 bytes, the 4 bytes of `nodedef_len`,
  and the node def.

  The addresses and the length field are checked against what is left of `length`;
  `nodedef_len` itself is not, although `GetCpuKernelContext` copies that many bytes.
  The node def lies in the block exactly when it does by its own length
  (`node_def_inside_iff`).
-/
import HwEfat.Aicpu.CpuKernel.Cache

namespace HwEfat.Aicpu

open HwEfat.Lib (Mem)

namespace CpuKernelCache

variable {A : FwkAdapter} {mem : Mem} {paramHead : AicpuParamHead}

/-- Where `nodedef_len` is, counted from the start of the block. -/
def nodedefLenOffset (A : FwkAdapter) (paramHead : AicpuParamHead) : Nat :=
  A.sizeofAicpuParamHead.toNat + 8 * paramHead.ioAddrNum.toNat

/-- The words behind the head. -/
def ioAddrWords (A : FwkAdapter) (mem : Mem) (paramHead : AicpuParamHead) : List UInt64 :=
  (List.range paramHead.ioAddrNum.toNat).map fun i =>
    mem.load64 (paramHead.base + A.sizeofAicpuParamHead.toNat + 8 * i)

/-- The last step: it asks for the four bytes of the length, and returns what is
behind them. -/
theorem nodeDef_ok {ioAddrs ioAddrs' : List UInt64} {extendParamBase nodedef : Nat}
    {extendParamLen nodedefLen : UInt32}
    (h : parseIoAddr.nodeDef mem ioAddrs extendParamBase extendParamLen =
      .ok (ioAddrs', nodedef, nodedefLen)) :
    4 ≤ extendParamLen.toNat ∧ ioAddrs' = ioAddrs ∧ nodedef = extendParamBase + 4 ∧
      nodedefLen = mem.load32 extendParamBase := by
  unfold parseIoAddr.nodeDef at h
  split at h
  · cases h
  · cases h
    exact ⟨by omega, rfl, rfl, rfl⟩

/-- **What `ParseIoAddr` returns**, for a block whose length covers its head: the
words behind the head, and the length and the address that follow them.  Only that
the length field lies in the block has been checked. -/
theorem parseIoAddr_ok (hlen : A.sizeofAicpuParamHead ≤ paramHead.length)
    {ioAddrs : List UInt64} {nodedef : Nat} {nodedefLen : UInt32}
    (h : parseIoAddr A mem paramHead = .ok (ioAddrs, nodedef, nodedefLen)) :
    ioAddrs = ioAddrWords A mem paramHead ∧
      nodedef = paramHead.base + nodedefLenOffset A paramHead + 4 ∧
      nodedefLen = mem.load32 (paramHead.base + nodedefLenOffset A paramHead) ∧
      nodedefLenOffset A paramHead + 4 ≤ paramHead.length.toNat := by
  have hleft : (paramHead.length - A.sizeofAicpuParamHead).toNat =
      paramHead.length.toNat - A.sizeofAicpuParamHead.toNat :=
    UInt32.toNat_sub_of_le _ _ hlen
  rw [UInt32.le_iff_toNat_le] at hlen
  unfold parseIoAddr at h
  unfold nodedefLenOffset
  by_cases hpos : 0 < paramHead.ioAddrNum
  · rw [if_pos hpos] at h
    by_cases hmax : kMaxIoAddrNumParamLen < paramHead.ioAddrNum
    · rw [if_pos hmax] at h
      cases h
    · rw [if_neg hmax] at h
      -- at most 1024 addresses: their length does not wrap
      rw [UInt32.lt_iff_toNat_lt] at hmax
      have hnum : paramHead.ioAddrNum.toNat ≤ 1024 := Nat.not_lt.mp hmax
      have haddr : (UInt32.ofNat (paramHead.ioAddrNum.toNat * 8)).toNat =
          paramHead.ioAddrNum.toNat * 8 := UInt32.toNat_ofNat_of_lt' (by
        show _ < 4294967296
        omega)
      dsimp only at h
      by_cases hshort : paramHead.length - A.sizeofAicpuParamHead
          < UInt32.ofNat (paramHead.ioAddrNum.toNat * 8)
      · rw [if_pos hshort] at h
        cases h
      · rw [if_neg hshort] at h
        have hrest := UInt32.toNat_sub_of_le _ _ (UInt32.not_lt.mp hshort)
        obtain ⟨hfour, hio, hnode, hnodeLen⟩ := nodeDef_ok h
        rw [UInt32.lt_iff_toNat_lt] at hshort
        rw [haddr] at hnode hnodeLen
        have hbase : paramHead.base + A.sizeofAicpuParamHead.toNat + paramHead.ioAddrNum.toNat * 8 =
            paramHead.base + (A.sizeofAicpuParamHead.toNat + 8 * paramHead.ioAddrNum.toNat) := by
          omega
        rw [hbase] at hnode hnodeLen
        exact ⟨hio, hnode, hnodeLen, by omega⟩
  · -- no addresses
    rw [if_neg hpos] at h
    rw [UInt32.lt_iff_toNat_lt] at hpos
    have hzero : paramHead.ioAddrNum.toNat = 0 := Nat.eq_zero_of_not_pos hpos
    obtain ⟨hfour, hio, hnode, hnodeLen⟩ := nodeDef_ok h
    rw [hzero]
    exact ⟨by rw [hio, ioAddrWords, hzero]; rfl, hnode, hnodeLen, by omega⟩

/-- **The node def lies in the param block** -- and the io addresses are the words
behind the head -- exactly when the length stored in front of it says so. -/
theorem node_def_inside_iff (hlen : A.sizeofAicpuParamHead ≤ paramHead.length)
    {ioAddrs : List UInt64} {nodedef : Nat} {nodedefLen : UInt32}
    (h : parseIoAddr A mem paramHead = .ok (ioAddrs, nodedef, nodedefLen)) :
    (ioAddrs = ioAddrWords A mem paramHead ∧
      paramHead.base ≤ nodedef ∧
      nodedef + nodedefLen.toNat ≤ paramHead.base + paramHead.length.toNat) ↔
    nodedefLenOffset A paramHead + 4 +
        (mem.load32 (paramHead.base + nodedefLenOffset A paramHead)).toNat
      ≤ paramHead.length.toNat := by
  obtain ⟨hio, hnode, hnodeLen, -⟩ := parseIoAddr_ok hlen h
  rw [and_iff_right hio, hnode, ← hnodeLen]
  omega

/-- A block of a head, two io addresses and a node def of three bytes. -/
def twoAddrBlock : AicpuParamHead :=
  { base := 0x1000, length := 43, ioAddrNum := 2, extInfoLength := 0, extInfoAddr := 0 }

/-- The memory behind that head. -/
def twoAddrMem : Mem := Mem.ofBytes 0x1014
  [0, 0xA0, 0, 0, 0, 0, 0, 0, 0, 0xB0, 0, 0, 0, 0, 0, 0, 3, 0, 0, 0, 97, 98, 99]

/-- `node_def_inside_iff` on that block: the node def is its last three bytes. -/
theorem node_def_inside_iff_two :
    [0xA000, 0xB000] = ioAddrWords .packed twoAddrMem twoAddrBlock ∧
      twoAddrBlock.base ≤ 0x1028 ∧
      0x1028 + (3 : UInt32).toNat ≤ twoAddrBlock.base + twoAddrBlock.length.toNat :=
  (node_def_inside_iff (by decide) (by rfl)).mpr (by decide)

/-- A block of a head and the length of a node def, and no more. -/
def bareBlock : AicpuParamHead :=
  { base := 0x1000, length := 24, ioAddrNum := 0, extInfoLength := 0, extInfoAddr := 0 }

/-- This block is accepted with a `nodedef_len` of 255. -/
theorem node_def_beyond_block :
    ¬ ∀ ioAddrs nodedef nodedefLen,
      parseIoAddr .packed (Mem.ofBytes 0x1014 [255]) bareBlock = .ok (ioAddrs, nodedef, nodedefLen) →
      ioAddrs = ioAddrWords .packed (Mem.ofBytes 0x1014 [255]) bareBlock ∧
        bareBlock.base ≤ nodedef ∧
        nodedef + nodedefLen.toNat ≤ bareBlock.base + bareBlock.length.toNat := by
  intro h
  obtain ⟨-, -, hinside⟩ := h [] 0x1018 255 (by rfl)
  exact absurd hinside (by decide)

end CpuKernelCache

end HwEfat.Aicpu
