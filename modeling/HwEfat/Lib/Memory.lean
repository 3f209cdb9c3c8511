/-
  HwEfat.Lib.Memory — byte memory, little-endian loads and stores, and the
  accesses a program makes.

  A program that reads memory under `Logged Access` leaves the list of the byte
  ranges it read and of the pointers it kept; `Access.Inside` says that such an
  entry stays in a given buffer.

  A program that stores arrays of words leaves `storeBlocks` of the arrays it
  stored: bytes outside all of them are unchanged (`storeBlocks_outside`), and an
  array that no other one overlaps reads back (`storeBlocks_alone`,
  `load64_storeWords`).
-/
import Mathlib.Algebra.Group.Nat.Defs
import HwEfat.Lib.Loop

namespace HwEfat.Lib

/-- A memory holds one byte at every address. -/
def Mem : Type := Nat → UInt8

namespace Mem

/-- The memory with `bytes` at `base` and zeros elsewhere. -/
def ofBytes (base : Nat) (bytes : List UInt8) : Mem :=
  fun a => if base ≤ a then bytes.getD (a - base) 0 else 0

/-- The number in the `n` bytes at `a`, least significant byte first. -/
def load (mem : Mem) : Nat → Nat → Nat
  | 0, _ => 0
  | n + 1, a => (mem a).toNat + 256 * load mem n (a + 1)

/-- Four bytes, the lowest first. -/
def load32 (mem : Mem) (a : Nat) : UInt32 := UInt32.ofNat (mem.load 4 a)

/-- Eight bytes. -/
def load64 (mem : Mem) (a : Nat) : UInt64 := UInt64.ofNat (mem.load 8 a)

/-- Overwrite the `n` bytes at `a` by the low bytes of `v`. -/
def store (mem : Mem) (n a v : Nat) : Mem :=
  fun b => if a ≤ b ∧ b < a + n then UInt8.ofNat (v / 256 ^ (b - a)) else mem b

/-- Eight bytes, written. -/
def store64 (mem : Mem) (a : Nat) (v : UInt64) : Mem := mem.store 8 a v.toNat

end Mem

/-- Something done with an address. -/
inductive Access where
  | read (addr size : Nat)
  | keep (ptr : Nat)
  deriving Repr, DecidableEq

namespace Access

/-- The bytes touched lie in the `len` bytes at `base`; of what a kept pointer
points to, the first `width` bytes count. -/
def Inside (base len width : Nat) : Access → Prop
  | .read addr size => base ≤ addr ∧ addr + size ≤ base + len
  | .keep ptr => base ≤ ptr ∧ ptr + width ≤ base + len

end Access

/-! ## §1. Logged reads. -/

/-- A read of one byte, with the access. -/
def read8 (mem : Mem) (a : Nat) : Logged Access UInt8 := ⟨mem a, [.read a 1]⟩

/-- A read of four bytes. -/
def read32 (mem : Mem) (a : Nat) : Logged Access UInt32 := ⟨mem.load32 a, [.read a 4]⟩

/-- A read of eight bytes. -/
def read64 (mem : Mem) (a : Nat) : Logged Access UInt64 := ⟨mem.load64 a, [.read a 8]⟩

/-- A pointer that is kept. -/
def keep (ptr : Nat) : Logged Access Nat := ⟨ptr, [.keep ptr]⟩

@[simp] theorem val_read8 (mem : Mem) (a : Nat) : (read8 mem a).val = mem a := rfl
@[simp] theorem log_read8 (mem : Mem) (a : Nat) : (read8 mem a).log = [.read a 1] := rfl
@[simp] theorem val_read32 (mem : Mem) (a : Nat) : (read32 mem a).val = mem.load32 a := rfl
@[simp] theorem log_read32 (mem : Mem) (a : Nat) : (read32 mem a).log = [.read a 4] := rfl
@[simp] theorem val_read64 (mem : Mem) (a : Nat) : (read64 mem a).val = mem.load64 a := rfl
@[simp] theorem log_read64 (mem : Mem) (a : Nat) : (read64 mem a).log = [.read a 8] := rfl
@[simp] theorem val_keep (ptr : Nat) : (keep ptr).val = ptr := rfl
@[simp] theorem log_keep (ptr : Nat) : (keep ptr).log = [.keep ptr] := rfl

/-! ## §2. Arrays in a buffer. -/

/-- The first `width` bytes of each element lie in the buffer exactly when those
of the last element do. -/
theorem prefixes_inside_iff {base len a n size width : Nat} (ha : base ≤ a) :
    (∀ i < n, base ≤ a + i * size ∧ a + i * size + width ≤ base + len)
      ↔ (n = 0 ∨ a + ((n - 1) * size + width) ≤ base + len) := by
  constructor
  · intro h
    cases n with
    | zero => exact Or.inl rfl
    | succ k =>
        right
        have hlast := (h k (Nat.lt_succ_self k)).2
        rw [Nat.add_sub_cancel]
        omega
  · intro h i hi
    have hle : i * size ≤ (n - 1) * size := Nat.mul_le_mul_right size (by omega)
    omega

/-! ## §3. Loads after stores. -/

namespace Mem

/-- Bytes outside the stored ones are unchanged. -/
theorem store_outside {mem : Mem} {n a v b : Nat} (h : b < a ∨ a + n ≤ b) :
    mem.store n a v b = mem b := by
  unfold store
  exact if_neg (fun hin => by omega)

/-- A load depends only on the bytes it reads. -/
theorem load_congr {mem mem' : Mem} (n a : Nat) (h : ∀ b, a ≤ b → b < a + n → mem b = mem' b) :
    mem.load n a = mem'.load n a := by
  induction n generalizing a with
  | zero => rfl
  | succ n ih =>
      show (mem a).toNat + 256 * mem.load n (a + 1) = (mem' a).toNat + 256 * mem'.load n (a + 1)
      rw [h a (by omega) (by omega), ih (a + 1) (fun b hb hlt => h b (by omega) (by omega))]

/-- The low `n` bytes of a number come back, one by one. -/
theorem load_eq_mod {mem : Mem} (n a v : Nat)
    (h : ∀ i, i < n → mem (a + i) = UInt8.ofNat (v / 256 ^ i)) : mem.load n a = v % 256 ^ n := by
  induction n generalizing a v with
  | zero => rw [Nat.pow_zero, Nat.mod_one]; rfl
  | succ n ih =>
      have hhead : (mem a).toNat = v % 256 := by
        have h0 := h 0 (by omega)
        rw [Nat.add_zero, Nat.pow_zero, Nat.div_one] at h0
        rw [h0, UInt8.toNat_ofNat']
      have htail : mem.load n (a + 1) = (v / 256) % 256 ^ n := by
        refine ih (a + 1) (v / 256) (fun i hi => ?_)
        have hi' := h (i + 1) (by omega)
        rw [show a + 1 + i = a + (i + 1) by omega, hi', Nat.div_div_eq_div_mul, Nat.pow_succ,
          Nat.mul_comm 256]
      show (mem a).toNat + 256 * mem.load n (a + 1) = _
      rw [hhead, htail, Nat.pow_succ, Nat.mul_comm (256 ^ n), Nat.mod_mul]

/-- A word depends on its eight bytes. -/
theorem load64_congr {mem mem' : Mem} {a : Nat} (h : ∀ b, a ≤ b → b < a + 8 → mem b = mem' b) :
    mem.load64 a = mem'.load64 a := by
  unfold load64
  rw [load_congr 8 a h]

/-- A word that was written is read again. -/
theorem load64_store64 (mem : Mem) (a : Nat) (v : UInt64) : (mem.store64 a v).load64 a = v := by
  have h : (mem.store64 a v).load 8 a = v.toNat % 256 ^ 8 := by
    refine load_eq_mod 8 a v.toNat (fun i hi => ?_)
    show (if _ then _ else _) = _
    rw [if_pos (by omega), Nat.add_sub_cancel_left]
  have hlt : v.toNat < 256 ^ 8 := v.toNat_lt
  unfold load64
  rw [h, Nat.mod_eq_of_lt hlt, UInt64.ofNat_toNat]

/-- Store words one after the other, from `a` on. -/
def storeWords (mem : Mem) (a : Nat) : List UInt64 → Mem
  | [] => mem
  | w :: ws => storeWords (mem.store64 a w) (a + 8) ws

/-- Bytes outside the words stay. -/
theorem storeWords_outside {ws : List UInt64} :
    ∀ {mem : Mem} {a b : Nat}, b < a ∨ a + 8 * ws.length ≤ b → mem.storeWords a ws b = mem b := by
  induction ws with
  | nil => exact fun _ => rfl
  | cons w ws ih =>
      intro mem a b h
      rw [List.length_cons] at h
      show (mem.store64 a w).storeWords (a + 8) ws b = mem b
      rw [ih (by omega), store64, store_outside (by omega)]

/-- What a byte holds afterwards depends on what it held before only. -/
theorem storeWords_congr {ws : List UInt64} :
    ∀ {mem mem' : Mem} {a b : Nat}, mem b = mem' b →
      mem.storeWords a ws b = mem'.storeWords a ws b := by
  induction ws with
  | nil => exact fun h => h
  | cons w ws ih =>
      intro mem mem' a b h
      refine ih ?_
      show (if _ then _ else _) = (if _ then _ else _)
      rw [h]

/-- **Each word** is read again. -/
theorem load64_storeWords {ws : List UInt64} :
    ∀ {mem : Mem} {a i : Nat} {w : UInt64}, ws[i]? = some w →
      (mem.storeWords a ws).load64 (a + 8 * i) = w := by
  induction ws with
  | nil => exact fun h => by cases h
  | cons v ws ih =>
      intro mem a i w h
      show ((mem.store64 a v).storeWords (a + 8) ws).load64 (a + 8 * i) = w
      cases i with
      | zero =>
          cases h
          rw [load64_congr (fun b _ hb => storeWords_outside (by omega)), Nat.mul_zero,
            Nat.add_zero, load64_store64]
      | succ i =>
          rw [show a + 8 * (i + 1) = a + 8 + 8 * i by omega]
          exact ih h

/-- Store blocks of words, each from its own address on. -/
def storeBlocks (mem : Mem) (blocks : List (Nat × List UInt64)) : Mem :=
  blocks.foldl (fun mem block => mem.storeWords block.1 block.2) mem

/-- A byte no block covers keeps its value ... -/
theorem storeBlocks_outside {blocks : List (Nat × List UInt64)} {b : Nat} :
    ∀ {mem : Mem}, (∀ block ∈ blocks, b < block.1 ∨ block.1 + 8 * block.2.length ≤ b) →
      mem.storeBlocks blocks b = mem b := by
  induction blocks with
  | nil => exact fun _ => rfl
  | cons block blocks ih =>
      intro mem h
      show (mem.storeWords block.1 block.2).storeBlocks blocks b = mem b
      rw [ih (fun block' h' => h block' (List.mem_cons_of_mem _ h')),
        storeWords_outside (h block List.mem_cons_self)]

/-- ... and what only one block covers is as if it alone were stored. -/
theorem storeBlocks_alone {blocks : List (Nat × List UInt64)} {b : Nat} :
    ∀ {mem : Mem} {k : Nat} {block : Nat × List UInt64}, blocks[k]? = some block →
      (∀ k' block', blocks[k']? = some block' → k' ≠ k →
        b < block'.1 ∨ block'.1 + 8 * block'.2.length ≤ b) →
      mem.storeBlocks blocks b = mem.storeWords block.1 block.2 b := by
  induction blocks with
  | nil => exact fun h => by cases h
  | cons first blocks ih =>
      intro mem k block hk h
      show (mem.storeWords first.1 first.2).storeBlocks blocks b = _
      cases k with
      | zero =>
          cases hk
          refine storeBlocks_outside (fun block' h' => ?_)
          obtain ⟨k', hk'⟩ := List.getElem?_of_mem h'
          exact h (k' + 1) block' hk' (Nat.succ_ne_zero k')
      | succ k =>
          rw [ih hk (fun k' block' hk' hne => h (k' + 1) block' hk' (fun heq => hne (by omega)))]
          exact storeWords_congr (storeWords_outside (h 0 first rfl (Nat.succ_ne_zero k).symm))

end Mem

/-! ## §4. Bytes in memory. -/

/-- The number that bytes spell, least significant byte first. -/
def leNat : List UInt8 → Nat
  | [] => 0
  | b :: bs => b.toNat + 256 * leNat bs

/-- The four bytes of a number. -/
def le32 (v : UInt32) : List UInt8 := (List.range 4).map fun i => UInt8.ofNat (v.toNat / 256 ^ i)

namespace Mem

/-- `bytes` lie in memory from `a` on. -/
def Holds (mem : Mem) (a : Nat) (bytes : List UInt8) : Prop :=
  ∀ i b, bytes[i]? = some b → mem (a + i) = b

/-- A memory made of bytes holds them. -/
theorem holds_ofBytes (a : Nat) (bytes : List UInt8) : (ofBytes a bytes).Holds a bytes := by
  intro i b h
  unfold ofBytes
  rw [if_pos (Nat.le_add_right a i), Nat.add_sub_cancel_left, List.getD_eq_getElem?_getD, h]
  rfl

variable {mem : Mem} {a : Nat} {bytes : List UInt8}

/-- Two pieces, one behind the other. -/
theorem holds_append {bytes' : List UInt8} :
    mem.Holds a (bytes ++ bytes') ↔ mem.Holds a bytes ∧ mem.Holds (a + bytes.length) bytes' := by
  constructor
  · intro h
    constructor
    · intro i b hb
      refine h i b ?_
      rw [List.getElem?_append_left (List.getElem?_eq_some_iff.mp hb).1, hb]
    · intro i b hb
      rw [Nat.add_assoc]
      refine h (bytes.length + i) b ?_
      rw [List.getElem?_append_right (Nat.le_add_right _ i), Nat.add_sub_cancel_left, hb]
  · intro ⟨h, h'⟩ i b hb
    rcases Nat.lt_or_ge i bytes.length with hlt | hge
    · rw [List.getElem?_append_left hlt] at hb
      exact h i b hb
    · rw [List.getElem?_append_right hge] at hb
      rw [← h' (i - bytes.length) b hb]
      congr 1
      omega

/-- Part of what is held is held. -/
theorem Holds.part (h : mem.Holds a bytes) (off n : Nat) :
    mem.Holds (a + off) ((bytes.drop off).take n) := by
  intro i b hb
  rw [List.getElem?_take] at hb
  split at hb
  · rw [List.getElem?_drop] at hb
    rw [Nat.add_assoc]
    exact h (off + i) b hb
  · cases hb

/-- Bytes that are held are read as a number. -/
theorem Holds.load (h : mem.Holds a bytes) : mem.load bytes.length a = leNat bytes := by
  induction bytes generalizing a with
  | nil => rfl
  | cons b bs ih =>
      rw [← List.singleton_append, holds_append] at h
      have htail : mem.load bs.length (a + 1) = leNat bs := ih h.2
      have hhead : mem a = b := h.1 0 b rfl
      show (mem a).toNat + 256 * mem.load bs.length (a + 1) = b.toNat + 256 * leNat bs
      rw [htail, hhead]

/-- A field of a held structure. -/
theorem Holds.field (h : mem.Holds a bytes) {off n : Nat} (hle : off + n ≤ bytes.length) :
    mem.load n (a + off) = leNat ((bytes.drop off).take n) := by
  rw [← (h.part off n).load, List.length_take, List.length_drop, Nat.min_eq_left (by omega)]

/-- Its bytes, one by one. -/
theorem Holds.map_range (h : mem.Holds a bytes) {off n : Nat} (hle : off + n ≤ bytes.length) :
    (List.range n).map (fun i => mem (a + off + i)) = (bytes.drop off).take n := by
  have hlen : ((bytes.drop off).take n).length = n := by
    rw [List.length_take, List.length_drop]
    omega
  refine List.ext_getElem (by rw [List.length_map, List.length_range, hlen]) (fun i h₁ h₂ => ?_)
  rw [List.getElem_map, List.getElem_range]
  exact (h.part off n) i _ (List.getElem?_eq_getElem h₂)

/-- Four of them, too. -/
theorem Holds.load32 {v : UInt32} (h : mem.Holds a (le32 v)) : mem.load32 a = v := by
  have hload : mem.load 4 a = v.toNat % 256 ^ 4 := by
    refine load_eq_mod 4 a v.toNat (fun i hi => h i _ ?_)
    unfold le32
    rw [List.getElem?_map, List.getElem?_range hi]
    rfl
  have hlt : v.toNat < 256 ^ 4 := v.toNat_lt
  unfold Mem.load32
  rw [hload, Nat.mod_eq_of_lt hlt, UInt32.ofNat_toNat]

end Mem

end HwEfat.Lib
