/-
  HwEfat.Lib.Transfer — programs that only move data.

  An instruction says for every cell that it writes which cell the new content comes
  from (`Transfer`).  A program of such instructions computes nothing: what a cell holds
  after the run is what its `origin` held before (`run_apply`), and the origin is found
  by walking backwards through the program.  So what a cell holds, and on which cells that
  depends, are statements about origins (`run_eq_iff`).

  `origin_flatMap` is the rule for a loop whose passes write different cells: the origin
  of a cell is decided in the one pass that writes it.
-/
import Mathlib.Data.List.Basic
import Mathlib.Logic.Nontrivial.Basic

namespace HwEfat.Lib

/-- For each cell that is written, where the new content comes from.  All cells are read
before any is written. -/
def Transfer (κ : Type) : Type := κ → Option κ

namespace Transfer

variable {κ α ι : Type}

/-- The memory after a transfer: every cell has what its source had. -/
def exec (t : Transfer κ) (m : κ → α) : κ → α := fun c =>
  match t c with
  | some s => m s
  | none => m c

/-- Run a program. -/
def run (prog : List (Transfer κ)) (m : κ → α) : κ → α := prog.foldl (fun m t => t.exec m) m

/-- Where the content of a cell was before the instruction. -/
def source (t : Transfer κ) (c : κ) : κ := (t c).getD c

/-- Where the content of a cell was before the program. -/
def origin (prog : List (Transfer κ)) (c : κ) : κ := prog.foldr source c

/-- Some instruction of the program writes the cell. -/
def Touches (prog : List (Transfer κ)) (c : κ) : Prop := ∃ t ∈ prog, ∃ s, t c = some s

/-! ## §1. Origins. -/

/-- A cell after a transfer. -/
theorem exec_apply (t : Transfer κ) (m : κ → α) (c : κ) : t.exec m c = m (t.source c) := by
  unfold exec source
  cases t c <;> rfl

/-- **What a cell holds after the run is what its origin held before.** -/
theorem run_apply (prog : List (Transfer κ)) (m : κ → α) (c : κ) :
    run prog m c = m (origin prog c) := by
  unfold run origin
  induction prog generalizing m with
  | nil => rfl
  | cons t prog ih => rw [List.foldl_cons, ih, exec_apply, List.foldr_cons]

@[simp] theorem origin_nil (c : κ) : origin [] c = c := rfl

/-- Where a cell of a longer program comes from. -/
theorem origin_cons (t : Transfer κ) (prog : List (Transfer κ)) (c : κ) :
    origin (t :: prog) c = t.source (origin prog c) := rfl

/-- Where it comes from in two parts. -/
theorem origin_append (prog prog' : List (Transfer κ)) (c : κ) :
    origin (prog ++ prog') c = origin prog (origin prog' c) := by
  unfold origin
  rw [List.foldr_append]

/-- The source of a cell that is written. -/
theorem source_of_some {t : Transfer κ} {c s : κ} (h : t c = some s) : t.source c = s := by
  unfold source
  rw [h]
  rfl

/-- A cell that is not written is its own source. -/
theorem source_of_none {t : Transfer κ} {c : κ} (h : t c = none) : t.source c = c := by
  unfold source
  rw [h]
  rfl

@[simp] theorem touches_append {prog prog' : List (Transfer κ)} {c : κ} :
    Touches (prog ++ prog') c ↔ Touches prog c ∨ Touches prog' c := by
  unfold Touches
  simp only [List.mem_append, or_and_right, exists_or]

/-- A cell is written if a part of the program writes it. -/
theorem touches_flatMap {l : List ι} {f : ι → List (Transfer κ)} {c : κ} :
    Touches (l.flatMap f) c ↔ ∃ x ∈ l, Touches (f x) c := by
  unfold Touches
  simp only [List.mem_flatMap]
  constructor
  · intro ⟨t, ⟨x, hx, ht⟩, hs⟩
    exact ⟨x, hx, t, ht, hs⟩
  · intro ⟨x, hx, t, ht, hs⟩
    exact ⟨t, ⟨x, hx, ht⟩, hs⟩

/-- A cell that is not written keeps its content. -/
theorem origin_of_not_touches {prog : List (Transfer κ)} {c : κ} (h : ¬ Touches prog c) :
    origin prog c = c := by
  induction prog with
  | nil => rfl
  | cons t prog ih =>
      have hrest : origin prog c = c :=
        ih fun ⟨t', ht', hs⟩ => h ⟨t', List.mem_cons_of_mem t ht', hs⟩
      rw [origin_cons, hrest]
      apply source_of_none
      cases ht : t c with
      | none => rfl
      | some s => exact absurd ⟨t, List.mem_cons_self, s, ht⟩ h

/-- A set of cells that no instruction reaches out of. -/
theorem origin_mem {prog : List (Transfer κ)} {S : κ → Prop}
    (hstep : ∀ t ∈ prog, ∀ c s, S c → t c = some s → S s) {c : κ} (hc : S c) :
    S (origin prog c) := by
  induction prog with
  | nil => exact hc
  | cons t prog ih =>
      have hrest : S (origin prog c) :=
        ih fun t' ht' => hstep t' (List.mem_cons_of_mem t ht')
      rw [origin_cons]
      cases ht : t (origin prog c) with
      | none => rwa [source_of_none ht]
      | some s =>
          rw [source_of_some ht]
          exact hstep t List.mem_cons_self _ s hrest ht

/-! ## §2. Loops. -/

/-- **The rule of a loop whose passes write different cells**: only the pass `x` writes
the cell, so what comes after it does not matter. -/
theorem origin_flatMap {l pre post : List ι} {x : ι} {f : ι → List (Transfer κ)} {c : κ}
    (hl : l = pre ++ x :: post) (honly : ∀ y ∈ post, ¬ Touches (f y) c) :
    origin (l.flatMap f) c = origin (pre.flatMap f) (origin (f x) c) := by
  have hpost : ¬ Touches (post.flatMap f) c := by
    rw [touches_flatMap]
    intro ⟨y, hy, hyc⟩
    exact honly y hy hyc
  rw [hl, List.flatMap_append, List.flatMap_cons, origin_append, origin_append,
    origin_of_not_touches hpost]

/-! ## §3. Statements about contents. -/

section Contents

variable [Nontrivial α]

/-- **A cell always ends with the content of another one exactly if that is its origin.** -/
theorem run_eq_iff {prog : List (Transfer κ)} {c d : κ} :
    (∀ m : κ → α, run prog m c = m d) ↔ origin prog c = d := by
  classical
  constructor
  · intro h
    by_contra hne
    obtain ⟨a, b, hab⟩ := exists_pair_ne α
    -- A memory that differs at the two cells.
    have hd := h (fun c' => if c' = d then a else b)
    rw [run_apply, if_neg hne, if_pos rfl] at hd
    exact hab hd.symm
  · intro h m
    rw [run_apply, h]

end Contents

/-! ## §4. Buffers. -/

/-- A cell of one of several buffers. -/
structure Cell (β : Type) where
  buf : β
  addr : Nat
  deriving Repr, DecidableEq

variable {β : Type} [DecidableEq β]

/-- Copy `len` cells. -/
def copy (dst : β) (dstOffset : Nat) (src : β) (srcOffset len : Nat) : Transfer (Cell β) :=
  fun c =>
    if c.buf = dst ∧ dstOffset ≤ c.addr ∧ c.addr < dstOffset + len then
      some ⟨src, srcOffset + (c.addr - dstOffset)⟩
    else none

/-- The cells that a copy writes, and where from. -/
theorem copy_eq_some {dst src : β} {dstOffset srcOffset len : Nat} {c s : Cell β} :
    copy dst dstOffset src srcOffset len c = some s
      ↔ ∃ i < len, c = ⟨dst, dstOffset + i⟩ ∧ s = ⟨src, srcOffset + i⟩ := by
  obtain ⟨buf, addr⟩ := c
  unfold copy
  constructor
  · intro h
    split at h
    · next hc =>
        obtain ⟨hbuf, hle, hlt⟩ := hc
        dsimp only at hbuf hle hlt h
        refine ⟨addr - dstOffset, by omega, ?_, (Option.some.inj h).symm⟩
        rw [hbuf, Nat.add_sub_cancel' hle]
    · cases h
  · intro ⟨i, hi, hc, hs⟩
    cases hc
    rw [if_pos ⟨rfl, Nat.le_add_right _ _, by dsimp only; omega⟩, hs, Nat.add_sub_cancel_left]

/-- The source of a cell of the copy. -/
theorem source_copy {dst src : β} {dstOffset srcOffset len i : Nat} (hi : i < len) :
    (copy dst dstOffset src srcOffset len).source ⟨dst, dstOffset + i⟩ = ⟨src, srcOffset + i⟩ :=
  source_of_some (copy_eq_some.mpr ⟨i, hi, rfl, rfl⟩)

end Transfer

end HwEfat.Lib
