/-
  HwEfat.Lib.Product — `itertools.product` and the positions its tuples come from.

  The `k`-th tuple of a product takes one element of each list.  Which ones, says the
  `k`-th tuple of positions (`product_eq_pick`), and the tuples of positions are all there
  are, each once (`mem_positions`, `nodup_positions`).  So a loop over a product misses
  and repeats nothing, even where the lists repeat their elements.

  The last list varies fastest: the first positions of a tuple are the tuple of a shorter
  product, further up by the number of tuples behind (`getElem?_positions_append`).
-/
import Mathlib.Algebra.BigOperators.Group.List.Basic
import Mathlib.Algebra.Group.Action.Defs
import Mathlib.Data.List.Basic
import Mathlib.Data.List.Nodup

namespace HwEfat.Lib

variable {α β : Type}

/-- `itertools.product(*ls)` -/
def product : List (List α) → List (List α)
  | [] => [[]]
  | l :: ls => l.flatMap fun a => (product ls).map (a :: ·)

/-- The tuples of positions in lists of these lengths. -/
def positions (lens : List Nat) : List (List Nat) := product (lens.map List.range)

/-- What is at these positions. -/
def pick : List (List α) → List Nat → List α
  | l :: ls, i :: p => (l[i]?).toList ++ pick ls p
  | _, _ => []

/-! ## §1. Tuples. -/

/-- As many combinations as the lengths say. -/
theorem length_product (ls : List (List α)) :
    (product ls).length = (ls.map List.length).prod := by
  induction ls with
  | nil => rfl
  | cons l ls ih =>
      unfold product
      rw [List.length_flatMap, List.map_cons, List.prod_cons, ← ih]
      simp only [List.length_map, List.map_const', List.sum_replicate, smul_eq_mul]

/-- As many positions. -/
theorem length_positions (lens : List Nat) : (positions lens).length = lens.prod := by
  unfold positions
  rw [length_product, List.map_map]
  congr 1
  induction lens with
  | nil => rfl
  | cons n lens ih => rw [List.map_cons, ih, Function.comp_apply, List.length_range]

/-- A tuple has one entry for each list. -/
theorem length_of_mem_product {ls : List (List α)} {x : List α} (hx : x ∈ product ls) :
    x.length = ls.length := by
  induction ls generalizing x with
  | nil =>
      unfold product at hx
      rw [List.mem_singleton] at hx
      rw [hx]
      rfl
  | cons l ls ih =>
      unfold product at hx
      obtain ⟨a, _, hx⟩ := List.mem_flatMap.mp hx
      obtain ⟨y, hy, rfl⟩ := List.mem_map.mp hx
      rw [List.length_cons, List.length_cons, ih hy]

/-! ## §2. Positions. -/

/-- The tuples of positions are all there are. -/
theorem mem_positions {lens p : List Nat} :
    p ∈ positions lens ↔ List.Forall₂ (· < ·) p lens := by
  unfold positions
  induction lens generalizing p with
  | nil =>
      show p ∈ [[]] ↔ _
      rw [List.mem_singleton, List.forall₂_nil_right_iff]
  | cons n lens ih =>
      rw [List.map_cons]
      unfold product
      rw [List.mem_flatMap]
      constructor
      · intro ⟨i, hi, hp⟩
        obtain ⟨q, hq, rfl⟩ := List.mem_map.mp hp
        exact .cons (List.mem_range.mp hi) (ih.mp hq)
      · intro h
        cases h with
        | cons hi hq =>
            exact ⟨_, List.mem_range.mpr hi, List.mem_map.mpr ⟨_, ih.mpr hq, rfl⟩⟩

/-- The first tuple has the first position of every list. -/
theorem positions_head {lens p : List Nat} (h : (positions lens)[0]? = some p) :
    ∀ i ∈ p, i = 0 := by
  unfold positions at h
  induction lens generalizing p with
  | nil =>
      cases h
      exact List.forall_mem_nil _
  | cons n lens ih =>
      rw [List.map_cons] at h
      unfold product at h
      -- Without a tuple of the other lists there is none at all.
      cases hrest : product (lens.map List.range) with
      | nil =>
          have hnil : (List.range n).flatMap
              (fun i => (product (lens.map List.range)).map (i :: ·)) = [] :=
            List.flatMap_eq_nil_iff.mpr fun i _ => by rw [hrest]; rfl
          rw [hnil] at h
          cases h
      | cons q rest =>
          cases n with
          | zero => cases h
          | succ n =>
              rw [List.range_succ_eq_map, List.flatMap_cons, hrest] at h
              cases h
              rw [List.forall_mem_cons]
              exact ⟨rfl, ih (by rw [hrest]; rfl)⟩

/-- Each tuple of positions is there once. -/
theorem nodup_positions (lens : List Nat) : (positions lens).Nodup := by
  unfold positions
  induction lens with
  | nil => exact List.nodup_singleton []
  | cons n lens ih =>
      rw [List.map_cons]
      unfold product
      rw [List.nodup_flatMap]
      constructor
      · intro i _
        exact ih.map fun _ _ h => (List.cons.inj h).2
      · refine List.nodup_range.imp ?_
        intro i j hne x hi hj
        obtain ⟨_, _, rfl⟩ := List.mem_map.mp hi
        obtain ⟨_, _, heq⟩ := List.mem_map.mp hj
        exact hne (List.cons.inj heq).1.symm

/-- Picking from the first list, and then from the others. -/
theorem pick_cons (l : List α) (ls : List (List α)) (i : Nat) (p : List Nat) :
    pick (l :: ls) (i :: p) = (l[i]?).toList ++ pick ls p :=
  rfl

/-- Picking what was mapped. -/
theorem pick_map (f : α → β) (ls : List (List α)) (p : List Nat) :
    pick (ls.map (List.map f)) p = (pick ls p).map f := by
  induction ls generalizing p with
  | nil => rfl
  | cons l ls ih =>
      cases p with
      | nil => rfl
      | cons i p =>
          rw [List.map_cons, pick_cons, pick_cons, ih, List.getElem?_map, List.map_append,
            Option.toList_map]

/-- All positions of a list give the list. -/
theorem range_filterMap_getElem? (l : List α) :
    (List.range l.length).filterMap (fun i => l[i]?) = l := by
  induction l with
  | nil => rfl
  | cons a l ih =>
      rw [List.length_cons, List.range_succ_eq_map, List.filterMap_cons, List.filterMap_map]
      exact congrArg (a :: ·) ih

/-- **The tuples are what is at the tuples of positions.** -/
theorem product_eq_pick (ls : List (List α)) :
    product ls = (positions (ls.map List.length)).map (pick ls) := by
  unfold positions
  induction ls with
  | nil => rfl
  | cons l ls ih =>
      simp only [List.map_cons, product]
      rw [ih, List.map_flatMap]
      conv_lhs => rw [← range_filterMap_getElem? l]
      rw [List.filterMap_eq_flatMap_toList, List.flatMap_assoc]
      apply List.flatMap_congr
      intro i hi
      rw [List.mem_range] at hi
      rw [List.getElem?_eq_getElem hi, Option.toList_some, List.flatMap_cons, List.flatMap_nil,
        List.append_nil, List.map_map, List.map_map, List.map_map]
      apply List.map_congr_left
      intro p _
      show l[i] :: pick ls p = pick (l :: ls) (i :: p)
      rw [pick_cons, List.getElem?_eq_getElem hi]
      rfl

/-! ## §3. The order. -/

/-- A loop in a loop counts in two digits. -/
theorem getElem?_flatMap_map {γ : Type} (l : List α) (m : List β) (f : α → β → γ) (k : Nat) :
    (l.flatMap fun a => m.map (f a))[k]?
      = (l[k / m.length]?).bind fun a => (m[k % m.length]?).map (f a) := by
  by_cases hm : m.length = 0
  · rw [List.length_eq_zero_iff] at hm
    subst hm
    simp
  induction l generalizing k with
  | nil => simp
  | cons a l ih =>
      rw [List.flatMap_cons]
      by_cases hk : k < m.length
      · rw [List.getElem?_append_left (by rwa [List.length_map]), Nat.div_eq_of_lt hk,
          Nat.mod_eq_of_lt hk, List.getElem?_map]
        rfl
      · have hle : m.length ≤ k := Nat.not_lt.mp hk
        rw [List.getElem?_append_right (by rwa [List.length_map]), List.length_map, ih,
          Nat.div_eq_sub_div (Nat.pos_of_ne_zero hm) hle, ← Nat.mod_eq_sub_mod hle]
        rfl

/-- A product of two groups of lists. -/
theorem product_append (ls ls' : List (List α)) :
    product (ls ++ ls') = (product ls).flatMap fun x => (product ls').map (x ++ ·) := by
  induction ls with
  | nil => simp [product]
  | cons l ls ih =>
      rw [List.cons_append]
      simp only [product]
      rw [ih, List.flatMap_assoc]
      simp only [List.map_flatMap, List.flatMap_map, List.map_map]
      rfl

/-- **The first positions of a tuple are those of a shorter product.** -/
theorem getElem?_positions_append {lens lens' : List Nat} {k : Nat} {p : List Nat}
    (h : (positions (lens ++ lens'))[k]? = some p) :
    (positions lens)[k / lens'.prod]? = some (p.take lens.length) := by
  have hlen : (product (lens'.map List.range)).length = lens'.prod := length_positions lens'
  unfold positions at h ⊢
  rw [List.map_append, product_append, getElem?_flatMap_map, hlen] at h
  obtain ⟨x, hx, h⟩ := Option.bind_eq_some_iff.mp h
  obtain ⟨y, _, rfl⟩ := Option.map_eq_some_iff.mp h
  have hxlen := length_of_mem_product (List.mem_of_getElem? hx)
  rw [List.length_map] at hxlen
  rw [hx, ← hxlen, List.take_left']
  rfl

end HwEfat.Lib
