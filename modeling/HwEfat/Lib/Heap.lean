/-
  HwEfat.Lib.Heap — objects behind shared pointers.

  A reference is the position of an object in the list of all objects allocated
  so far; nothing is ever freed, so a reference stays valid.  Two holders of one
  reference see each other's writes, and that is the only way they interact:
  `read_write_ne` is the frame law, `alloc_fresh` separates a new object from
  every reference handed out before.

  `Holds lookup h Q` is about a table of references into the heap, such as a
  cache: the object behind each entry satisfies `Q` at the entry's key.
-/
import Mathlib.Data.List.Basic

namespace HwEfat.Lib

/-- The objects allocated so far, oldest first. -/
structure Heap (α : Type) where
  cells : List α

namespace Heap

variable {α : Type}

/-- Nothing has been allocated. -/
def empty : Heap α := ⟨[]⟩

/-- How much has been allocated. -/
def size (h : Heap α) : Nat := h.cells.length

/-- The content of a cell, if there is one. -/
def read (h : Heap α) (r : Nat) : Option α := h.cells[r]?

/-- A cell, overwritten. -/
def write (h : Heap α) (r : Nat) (a : α) : Heap α := ⟨h.cells.set r a⟩

/-- Allocate; the new object's reference is `h.size`. -/
def alloc (h : Heap α) (a : α) : Heap α := ⟨h.cells ++ [a]⟩

@[simp] theorem size_write (h : Heap α) (r : Nat) (a : α) : (h.write r a).size = h.size := by
  simp [write, size]

@[simp] theorem size_alloc (h : Heap α) (a : α) : (h.alloc a).size = h.size + 1 := by
  simp [alloc, size]

@[simp] theorem read_alloc_fresh (h : Heap α) (a : α) : (h.alloc a).read h.size = some a := by
  simp [alloc, read, size]

/-- An allocation leaves what was there. -/
theorem read_alloc_old (h : Heap α) (a : α) {r : Nat} (hr : r < h.size) :
    (h.alloc a).read r = h.read r :=
  List.getElem?_append_left hr

/-- The cell that was written. -/
theorem read_write_self {h : Heap α} {r : Nat} (hr : r < h.size) (a : α) :
    (h.write r a).read r = some a :=
  List.getElem?_set_self hr

/-- The frame law: a write is invisible through another reference. -/
theorem read_write_ne (h : Heap α) {r r' : Nat} (hne : r' ≠ r) (a : α) :
    (h.write r a).read r' = h.read r' :=
  List.getElem?_set_ne (Ne.symm hne)

/-- The last write counts. -/
theorem write_write (h : Heap α) (r : Nat) (a b : α) : (h.write r a).write r b = h.write r b := by
  simp [write]

/-- The last object is written. -/
theorem write_alloc (h : Heap α) (a b : α) : (h.alloc a).write h.size b = h.alloc b := by
  simp [write, alloc, size]

/-- What has no content has not been allocated. -/
theorem read_eq_none {h : Heap α} {r : Nat} : h.read r = none ↔ h.size ≤ r :=
  List.getElem?_eq_none_iff

/-- What has a content has been allocated. -/
theorem lt_size_of_read {h : Heap α} {r : Nat} {a : α} (hr : h.read r = some a) : r < h.size := by
  by_contra hge
  rw [read_eq_none.mpr (Nat.le_of_not_lt hge)] at hr
  cases hr

/-- What has been allocated has a content. -/
theorem read_of_lt_size {h : Heap α} {r : Nat} (hr : r < h.size) : ∃ a, h.read r = some a :=
  ⟨h.cells[r], List.getElem?_eq_getElem hr⟩

/-- Allocate the objects in turn; their references are `h.size`, `h.size + 1`, … -/
def allocs (h : Heap α) (as : List α) : Heap α := ⟨h.cells ++ as⟩

@[simp] theorem size_allocs (h : Heap α) (as : List α) :
    (h.allocs as).size = h.size + as.length := by
  simp [allocs, size]

/-- Several allocations leave what was there. -/
theorem read_allocs_old (h : Heap α) (as : List α) {r : Nat} (hr : r < h.size) :
    (h.allocs as).read r = h.read r :=
  List.getElem?_append_left hr

/-- The new references lead to the new objects, in order. -/
theorem read_allocs_fresh (h : Heap α) (as : List α) :
    (List.range' h.size as.length).map (h.allocs as).read = as.map some := by
  apply List.ext_getElem?
  intro i
  rw [List.getElem?_map, List.getElem?_map]
  by_cases hi : i < as.length
  · have hread : (h.allocs as).read (h.size + i) = some as[i] := by
      unfold allocs read size
      rw [List.getElem?_append_right (by omega)]
      simp [hi]
    simp [hi, hread]
  · simp [hi]

/-! ## Tables of references. -/

/-- Every object the table refers to satisfies `Q` at its key. -/
def Holds {κ : Type} (lookup : κ → Option Nat) (h : Heap α) (Q : κ → α → Prop) : Prop :=
  ∀ k r a, lookup k = some r → h.read r = some a → Q k a

section Holds

variable {κ : Type} {lookup : κ → Option Nat} {h : Heap α} {Q : κ → α → Prop}

/-- What follows from what holds, holds. -/
theorem Holds.mono {Q' : κ → α → Prop} (hQ : Holds lookup h Q) (himp : ∀ k a, Q k a → Q' k a) :
    Holds lookup h Q' :=
  fun k r a hk hr => himp k a (hQ k r a hk hr)

/-- A write to one object keeps what holds of the table, if it keeps what holds of
that object; no matter how many entries refer to it. -/
theorem Holds.write (hQ : Holds lookup h Q) {r : Nat} {a : α} (hr : h.read r = some a) (a' : α)
    (hkeep : ∀ k, Q k a → Q k a') : Holds lookup (h.write r a') Q := by
  intro k r' b hk hb
  by_cases hr' : r' = r
  · subst hr'
    rw [read_write_self (lt_size_of_read hr), Option.some.injEq] at hb
    subst hb
    exact hkeep k (hQ k r' a hk hr)
  · rw [read_write_ne h hr'] at hb
    exact hQ k r' b hk hb

/-- A new object changes nothing for the entries there are ... -/
theorem Holds.alloc (hQ : Holds lookup h Q) (hlive : ∀ k r, lookup k = some r → r < h.size)
    (a : α) : Holds lookup (h.alloc a) Q := by
  intro k r b hk hb
  rw [read_alloc_old h a (hlive k r hk)] at hb
  exact hQ k r b hk hb

/-- ... and may be entered under a key whose `Q` it satisfies, while other entries
stay or are dropped. -/
theorem Holds.insert (hQ : Holds lookup h Q) (hlive : ∀ k r, lookup k = some r → r < h.size)
    {lookup' : κ → Option Nat} {key : κ} {a : α} (ha : Q key a)
    (hself : lookup' key = some h.size)
    (hother : ∀ k, k ≠ key → lookup' k = lookup k ∨ lookup' k = none) :
    Holds lookup' (h.alloc a) Q := by
  intro k r b hk hb
  by_cases hkey : k = key
  · subst hkey
    rw [hself, Option.some.injEq] at hk
    rw [← hk, read_alloc_fresh, Option.some.injEq] at hb
    rwa [← hb]
  · rcases hother k hkey with hsame | hgone
    · rw [hsame] at hk
      exact hQ.alloc hlive a k r b (by rw [hk]) hb
    · rw [hgone] at hk
      cases hk

end Holds

end Heap

end HwEfat.Lib
