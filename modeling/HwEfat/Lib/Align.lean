/-
  HwEfat.Lib.Align — two sorted lists laid side by side.

  The merge decides by membership in the other list as a whole, not by the order.  Each list
  can be read off its side again (`filterMap_fst?_align`, `filterMap_snd?_align`).

  Main result: `mem_paired_align`, which elements get a row of their own in both lists.  With
  no element twice these are all the common ones (`both_mem_alignment`); otherwise one that
  occurs more often on the left ends the pairing.
-/
import Mathlib.Order.Lattice
import Mathlib.Data.List.Count
import Mathlib.Data.List.Nodup
import Mathlib.Order.Defs.LinearOrder

namespace HwEfat.Lib

variable {α : Type}

/-! ## §1. Rows. -/

/-- A row of two aligned lists: an element of both, or of one of them only. -/
inductive Row (α : Type) where
  | both (a : α)
  | left (a : α)
  | right (a : α)
  deriving Repr, DecidableEq

namespace Row

/-- What the left list has in a row. -/
def fst? : Row α → Option α
  | both a => some a
  | left a => some a
  | right _ => none

/-- What the right list has in a row. -/
def snd? : Row α → Option α
  | both a => some a
  | left _ => none
  | right a => some a

/-- What stands on the left of a row. -/
theorem fst?_eq_some {row : Row α} {a : α} :
    row.fst? = some a ↔ row = both a ∨ row = left a := by
  cases row <;> simp [fst?]

/-- What stands on the right. -/
theorem snd?_eq_some {row : Row α} {a : α} :
    row.snd? = some a ↔ row = both a ∨ row = right a := by
  cases row <;> simp [snd?]

end Row

/-! ## §2. The merge. -/

section Merge

variable [DecidableEq α] (l₁ l₂ : List α)

/-- The rows for what is left of the two lists `l₁` and `l₂`. -/
def align : List α → List α → List (Row α)
  | a :: r₁, b :: r₂ =>
      if a = b then .both a :: align r₁ r₂
      else if a ∈ l₂ then .right b :: align (a :: r₁) r₂
      else if b ∈ l₁ then .left a :: align r₁ (b :: r₂)
      else .left a :: .right b :: align r₁ r₂
  | [], r₂ => r₂.map .right
  | r₁, [] => r₁.map .left
  termination_by r₁ r₂ => r₁.length + r₂.length

/-- The rows of two lists. -/
def alignment : List (Row α) := align l₁ l₂ l₁ l₂

/-- Nothing is lost on the left, -/
theorem filterMap_fst?_align (r₁ r₂ : List α) :
    (align l₁ l₂ r₁ r₂).filterMap Row.fst? = r₁ := by
  fun_induction align l₁ l₂ r₁ r₂ with
  | case1 a r₁ r₂ ih => simp [Row.fst?, ih]
  | case2 a r₁ b r₂ hne hmem ih => simp [List.filterMap_cons, Row.fst?, ih]
  | case3 a r₁ b r₂ hne hmem hmem' ih => simp [Row.fst?, ih]
  | case4 a r₁ b r₂ hne hmem hmem' ih => simp [List.filterMap_cons, Row.fst?, ih]
  | case5 r₂ => simp [List.filterMap_map, Function.comp_def, Row.fst?]
  | case6 r₁ h => simp [List.filterMap_map, Function.comp_def, Row.fst?]

/-- or on the right. -/
theorem filterMap_snd?_align (r₁ r₂ : List α) :
    (align l₁ l₂ r₁ r₂).filterMap Row.snd? = r₂ := by
  fun_induction align l₁ l₂ r₁ r₂ with
  | case1 a r₁ r₂ ih => simp [Row.snd?, ih]
  | case2 a r₁ b r₂ hne hmem ih => simp [Row.snd?, ih]
  | case3 a r₁ b r₂ hne hmem hmem' ih => simp [List.filterMap_cons, Row.snd?, ih]
  | case4 a r₁ b r₂ hne hmem hmem' ih => simp [List.filterMap_cons, Row.snd?, ih]
  | case5 r₂ => simp [List.filterMap_map, Function.comp_def, Row.snd?]
  | case6 r₁ h => simp [List.filterMap_map, Function.comp_def, Row.snd?]

/-- The left side of an alignment is the first list, -/
theorem filterMap_fst?_alignment : (alignment l₁ l₂).filterMap Row.fst? = l₁ :=
  filterMap_fst?_align l₁ l₂ l₁ l₂

/-- the right side the second one. -/
theorem filterMap_snd?_alignment : (alignment l₁ l₂).filterMap Row.snd? = l₂ :=
  filterMap_snd?_align l₁ l₂ l₁ l₂

end Merge

/-! ## §3. Which elements are paired. -/

section Order

variable [LinearOrder α] {l₁ l₂ r₁ r₂ : List α} {a b x : α}

/-- A common element that no smaller common one holds up by occurring more often on the
left. -/
def Pairable (l₂ r₁ r₂ : List α) (x : α) : Prop :=
  x ∈ r₁ ∧ x ∈ r₂ ∧ ∀ c ∈ r₁, c ∈ l₂ → c < x → r₁.count c ≤ r₂.count c

/-- Once paired, an element changes nothing for those after it. -/
theorem pairable_cons_cons (h₁ : ∀ c ∈ r₁, a ≤ c) :
    Pairable l₂ (a :: r₁) (a :: r₂) x ↔ x = a ∨ Pairable l₂ r₁ r₂ x := by
  have hcount (c : α) :
      (a :: r₁).count c ≤ (a :: r₂).count c ↔ r₁.count c ≤ r₂.count c := by
    rw [List.count_cons, List.count_cons]
    exact Nat.add_le_add_iff_right
  unfold Pairable
  simp only [hcount]
  constructor
  · intro ⟨hx₁, hx₂, hle⟩
    by_cases hxa : x = a
    · exact .inl hxa
    · exact .inr ⟨List.mem_of_ne_of_mem hxa hx₁, List.mem_of_ne_of_mem hxa hx₂,
        fun c hc => hle c (List.mem_cons_of_mem a hc)⟩
  · rintro (rfl | ⟨hx₁, hx₂, hle⟩)
    · refine ⟨List.mem_cons_self, List.mem_cons_self, fun c hc _ hlt => ?_⟩
      -- Nothing is smaller than the head.
      rcases List.mem_cons.mp hc with rfl | hc
      · exact absurd hlt (lt_irrefl c)
      · exact absurd hlt (h₁ c hc).not_gt
    · refine ⟨List.mem_cons_of_mem a hx₁, List.mem_cons_of_mem a hx₂, fun c hc hl₂ hlt => ?_⟩
      by_cases hmem : c ∈ r₁
      · exact hle c hmem hl₂ hlt
      · rw [List.count_eq_zero_of_not_mem hmem]
        exact Nat.zero_le _

/-- An element that the other list does not have pairs with nothing. -/
theorem pairable_cons_left (ha : a ∉ l₂) (hsub : r₂ ⊆ l₂) :
    Pairable l₂ (a :: r₁) r₂ x ↔ Pairable l₂ r₁ r₂ x := by
  have hne {c : α} (hc : c ∈ l₂) : c ≠ a := fun h => ha (h ▸ hc)
  have hcount {c : α} (hc : c ∈ l₂) : (a :: r₁).count c = r₁.count c :=
    List.count_cons_of_ne (hne hc).symm
  constructor
  · intro ⟨hx₁, hx₂, hle⟩
    refine ⟨List.mem_of_ne_of_mem (hne (hsub hx₂)) hx₁, hx₂, fun c hc hl₂ hlt => ?_⟩
    rw [← hcount hl₂]
    exact hle c (List.mem_cons_of_mem a hc) hl₂ hlt
  · intro ⟨hx₁, hx₂, hle⟩
    refine ⟨List.mem_cons_of_mem a hx₁, hx₂, fun c hc hl₂ hlt => ?_⟩
    rw [hcount hl₂]
    exact hle c (List.mem_of_ne_of_mem (hne hl₂) hc) hl₂ hlt

/-- The same on the right. -/
theorem pairable_cons_right (hb : b ∉ r₁) :
    Pairable l₂ r₁ (b :: r₂) x ↔ Pairable l₂ r₁ r₂ x := by
  have hne {c : α} (hc : c ∈ r₁) : c ≠ b := fun h => hb (h ▸ hc)
  have hcount {c : α} (hc : c ∈ r₁) : (b :: r₂).count c = r₂.count c :=
    List.count_cons_of_ne (hne hc).symm
  constructor
  · intro ⟨hx₁, hx₂, hle⟩
    refine ⟨hx₁, List.mem_of_ne_of_mem (hne hx₁) hx₂, fun c hc hl₂ hlt => ?_⟩
    rw [← hcount hc]
    exact hle c hc hl₂ hlt
  · intro ⟨hx₁, hx₂, hle⟩
    refine ⟨hx₁, List.mem_cons_of_mem b hx₂, fun c hc hl₂ hlt => ?_⟩
    rw [hcount hc]
    exact hle c hc hl₂ hlt

/-- An element of the other list that has been passed there holds up all the others. -/
theorem not_pairable (ha₁ : a ∈ r₁) (ha₂ : a ∈ l₂) (hlt : ∀ c ∈ r₂, a < c) :
    ¬ Pairable l₂ r₁ r₂ x := by
  intro ⟨_, hx₂, hle⟩
  have hzero : r₂.count a = 0 :=
    List.count_eq_zero_of_not_mem fun hmem => lt_irrefl a (hlt a hmem)
  have hpos : 0 < r₁.count a := List.count_pos_iff.mpr ha₁
  have hcount : r₁.count a ≤ r₂.count a := hle a ha₁ ha₂ (hlt x hx₂)
  omega

/-- **What the merge pairs**, element by element. -/
theorem mem_paired_align (h₁ : r₁.Pairwise (· ≤ ·)) (h₂ : r₂.Pairwise (· ≤ ·)) (hsub₁ : r₁ ⊆ l₁)
    (hsub₂ : r₂ ⊆ l₂) : Row.both x ∈ align l₁ l₂ r₁ r₂ ↔ Pairable l₂ r₁ r₂ x := by
  fun_induction align l₁ l₂ r₁ r₂ with
  | case1 a r₁ r₂ ih =>
      rw [List.pairwise_cons] at h₁ h₂
      rw [List.mem_cons, Row.both.injEq, pairable_cons_cons h₁.1,
        ih h₁.2 h₂.2 (List.subset_of_cons_subset hsub₁) (List.subset_of_cons_subset hsub₂)]
  | case2 a r₁ b r₂ hne hmem ih =>
      have hle₁ : ∀ c ∈ a :: r₁, a ≤ c := List.forall_mem_cons.mpr
        ⟨le_rfl, (List.pairwise_cons.mp h₁).1⟩
      have hle₂ : ∀ c ∈ b :: r₂, b ≤ c := List.forall_mem_cons.mpr
        ⟨le_rfl, (List.pairwise_cons.mp h₂).1⟩
      rw [List.mem_cons, ih h₁ h₂.of_cons hsub₁ (List.subset_of_cons_subset hsub₂)]
      simp only [reduceCtorEq, false_or]
      rcases lt_or_gt_of_ne hne with hlt | hlt
      · -- `a` is behind in the right list: neither before nor after is anything pairable.
        have hbefore : ¬ Pairable l₂ (a :: r₁) (b :: r₂) x :=
          not_pairable List.mem_cons_self hmem fun c hc => lt_of_lt_of_le hlt (hle₂ c hc)
        have hafter : ¬ Pairable l₂ (a :: r₁) r₂ x :=
          not_pairable List.mem_cons_self hmem fun c hc =>
            lt_of_lt_of_le hlt (hle₂ c (List.mem_cons_of_mem b hc))
        exact iff_of_false hafter hbefore
      · exact (pairable_cons_right fun hb => (hle₁ b hb).not_gt hlt).symm
  | case3 a r₁ b r₂ hne hmem hmem' ih =>
      rw [List.mem_cons, ih h₁.of_cons h₂ (List.subset_of_cons_subset hsub₁) hsub₂,
        pairable_cons_left hmem hsub₂]
      simp only [reduceCtorEq, false_or]
  | case4 a r₁ b r₂ hne hmem hmem' ih =>
      have hb : b ∉ r₁ := fun h => hmem' (hsub₁ (List.mem_cons_of_mem a h))
      rw [List.mem_cons, List.mem_cons, pairable_cons_left hmem hsub₂, pairable_cons_right hb,
        ih h₁.of_cons h₂.of_cons (List.subset_of_cons_subset hsub₁)
          (List.subset_of_cons_subset hsub₂)]
      simp only [reduceCtorEq, false_or]
  | case5 r₂ => simp [Pairable]
  | case6 r₁ h => simp [Pairable]

/-! ## §4. Lists without duplicates. -/

/-- Without duplicates nothing is held up. -/
theorem pairable_iff (h : r₁.Nodup) : Pairable r₂ r₁ r₂ x ↔ x ∈ r₁ ∧ x ∈ r₂ := by
  constructor
  · intro ⟨hx₁, hx₂, _⟩
    exact ⟨hx₁, hx₂⟩
  · intro ⟨hx₁, hx₂⟩
    refine ⟨hx₁, hx₂, fun c _ hc₂ _ => ?_⟩
    calc r₁.count c ≤ 1 := List.nodup_iff_count_le_one.mp h c
      _ ≤ r₂.count c := List.count_pos_iff.mpr hc₂

/-- **In sorted lists** every common element is aligned. -/
theorem both_mem_alignment (h₁ : l₁.Pairwise (· < ·)) (h₂ : l₂.Pairwise (· < ·)) :
    Row.both x ∈ alignment l₁ l₂ ↔ x ∈ l₁ ∧ x ∈ l₂ := by
  rw [← pairable_iff (h₁.imp ne_of_lt)]
  exact mem_paired_align (h₁.imp le_of_lt) (h₂.imp le_of_lt) (List.Subset.refl l₁)
    (List.Subset.refl l₂)

end Order

/-- Two rows that show the same element of a list without duplicates are one. -/
theorem eq_of_nodup_filterMap {β : Type} {f : α → Option β} {l : List α} {b : β}
    (h : (l.filterMap f).Nodup) {i j : Nat} {a a' : α} (hi : l[i]? = some a)
    (hj : l[j]? = some a') (ha : f a = some b) (ha' : f a' = some b) : i = j := by
  induction l generalizing i j with
  | nil => simp at hi
  | cons c l ih =>
      have hmem {k : Nat} {d : α} (hk : l[k]? = some d) (hd : f d = some b) :
          b ∈ l.filterMap f := List.mem_filterMap.mpr ⟨d, List.mem_of_getElem? hk, hd⟩
      have htail : (l.filterMap f).Nodup := by
        rw [List.filterMap_cons] at h
        cases hc : f c with
        | none => simpa [hc] using h
        | some e =>
            rw [hc] at h
            exact (List.nodup_cons.mp h).2
      have hhead (hc : f c = some b) : b ∉ l.filterMap f := by
        rw [List.filterMap_cons_some (f := f) hc] at h
        exact (List.nodup_cons.mp h).1
      -- The value is that of the head, or of one behind, but not of both.
      cases i with
      | zero =>
          cases j with
          | zero => rfl
          | succ j =>
              rw [List.getElem?_cons_zero, Option.some.injEq] at hi
              exact absurd (hmem hj ha') (hhead (hi ▸ ha))
      | succ i =>
          cases j with
          | zero =>
              rw [List.getElem?_cons_zero, Option.some.injEq] at hj
              exact absurd (hmem hi ha) (hhead (hj ▸ ha'))
          | succ j => rw [ih htail hi hj]

end HwEfat.Lib
