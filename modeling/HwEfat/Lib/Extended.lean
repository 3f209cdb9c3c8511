/-
  HwEfat.Lib.Extended — numbers with infinities and NaN, and arrays of them.

  The arithmetic is that of IEEE 754 over an ordered field: exact, and without a negative
  zero.  NaN is passed on and compares with nothing, so a filter by a comparison drops it.

  The positions of an array at which a condition holds are a list (`positionsWhere`), and
  another array can be read at them (`readAt`).
-/
import Mathlib.Algebra.Order.Field.Basic
import Mathlib.Data.List.Basic

namespace HwEfat.Lib

/-! ## §1. Numbers. -/

/-- Numbers of an ordered field, the two infinities, and no number. -/
inductive Extended (K : Type*) where
  | fin (x : K)
  | inf (negative : Bool)
  | nan
  deriving DecidableEq, Repr

namespace Extended

variable {K : Type*}

/-- A number of the field. -/
def IsFinite (a : Extended K) : Prop := ∃ x, a = fin x

section Arithmetic

variable [Field K]

/-- The opposite. -/
def neg : Extended K → Extended K
  | fin x => fin (-x)
  | inf negative => inf !negative
  | nan => nan

/-- Addition: opposite infinities have no sum. -/
def add : Extended K → Extended K → Extended K
  | nan, _ => nan
  | _, nan => nan
  | fin x, fin y => fin (x + y)
  | fin _, inf negative => inf negative
  | inf negative, fin _ => inf negative
  | inf negative, inf negative' => if negative = negative' then inf negative else nan

/-- Subtraction adds the opposite. -/
def sub (a b : Extended K) : Extended K := a.add b.neg

@[simp] theorem add_fin (x y : K) : (fin x).add (fin y) = fin (x + y) := rfl

@[simp] theorem sub_fin (x y : K) : (fin x).sub (fin y) = fin (x - y) :=
  congrArg fin (sub_eq_add_neg x y).symm

variable [LinearOrder K]

/-- Division: by zero it gives an infinity, or no number. -/
def div : Extended K → Extended K → Extended K
  | nan, _ => nan
  | _, nan => nan
  | fin x, fin y => if y = 0 then (if x = 0 then nan else inf (x < 0)) else fin (x / y)
  | fin _, inf _ => fin 0
  | inf negative, fin y => inf (negative ^^ (y < 0))
  | inf _, inf _ => nan

/-- The absolute value. -/
def abs : Extended K → Extended K
  | fin x => fin |x|
  | inf _ => inf false
  | nan => nan

/-- Division of finite numbers. -/
theorem div_fin {y : K} (x : K) (hy : y ≠ 0) : (fin x).div (fin y) = fin (x / y) :=
  if_neg hy

@[simp] theorem abs_fin (x : K) : (fin x).abs = fin |x| := rfl

end Arithmetic

section Order

variable [LinearOrder K]

/-- `a < b` -/
def lt : Extended K → Extended K → Bool
  | nan, _ => false
  | _, nan => false
  | fin x, fin y => x < y
  | fin _, inf negative => !negative
  | inf negative, fin _ => negative
  | inf negative, inf negative' => negative && !negative'

/-- `a <= b` -/
def le : Extended K → Extended K → Bool
  | nan, _ => false
  | _, nan => false
  | a, b => !b.lt a

/-- `max(a, b)`, which stays with the first unless the second is greater. -/
instance : Max (Extended K) where
  max a b := if a.lt b then b else a

/-- `np.maximum(a, b)`, which passes NaN on. -/
def maximum : Extended K → Extended K → Extended K
  | nan, _ => nan
  | _, nan => nan
  | a, b => max a b

@[simp] theorem lt_fin (x y : K) : (fin x).lt (fin y) = decide (x < y) := rfl

@[simp] theorem le_fin (x y : K) : (fin x).le (fin y) = decide (x ≤ y) := by
  show (!decide (y < x)) = decide (x ≤ y)
  rw [← decide_not]
  exact decide_eq_decide.mpr not_lt

/-- The greater of two finite numbers. -/
theorem max_fin (x y : K) : max (fin x) (fin y) = fin (max x y) := by
  show (if decide (x < y) = true then fin y else fin x) = fin (max x y)
  by_cases h : x < y
  · rw [if_pos (decide_eq_true h), max_eq_right h.le]
  · rw [if_neg (by simpa using h), max_eq_left (not_lt.mp h)]

@[simp] theorem maximum_fin (x y : K) : (fin x).maximum (fin y) = fin (max x y) :=
  max_fin x y

end Order

end Extended

/-! ## §2. Arrays. -/

section Arrays

variable {α β : Type*}

/-- `np.where(l)[0]` -/
def positionsWhere (l : List Bool) : List Nat :=
  (l.zipIdx.filter Prod.fst).map Prod.snd

/-- `m[positions]` -/
def readAt (m : List α) (positions : List Nat) : List α :=
  positions.filterMap fun i => m[i]?

/-- **What is read where a condition holds** is what passes it. -/
theorem readAt_positionsWhere (l : List α) (c : α → Bool) (f : α → β) :
    readAt (l.map f) (positionsWhere (l.map c)) = (l.filter c).map f := by
  -- The induction is on the arrays, with those that were read before in front.
  have hfrom : ∀ before : List β,
      (((((l.map c).zipIdx before.length).filter Prod.fst).map Prod.snd).filterMap fun i =>
        (before ++ l.map f)[i]?) = (l.filter c).map f := by
    induction l with
    | nil => exact fun before => rfl
    | cons a l ih =>
        intro before
        have hnext := ih (before ++ [f a])
        rw [List.length_append, List.length_singleton, List.append_assoc] at hnext
        rw [List.map_cons, List.map_cons, List.zipIdx_cons]
        cases hc : c a with
        | false =>
            rw [List.filter_cons_of_neg (p := Prod.fst) (by simp),
              List.filter_cons_of_neg (p := c) (by simp [hc])]
            exact hnext
        | true =>
            have hhead : (before ++ f a :: l.map f)[before.length]? = some (f a) := by
              rw [List.getElem?_append_right (le_refl _), Nat.sub_self]
              rfl
            rw [List.filter_cons_of_pos (p := Prod.fst) rfl, List.filter_cons_of_pos hc,
              List.map_cons, List.map_cons, List.filterMap_cons, hhead]
            exact congrArg (f a :: ·) hnext
  exact hfrom []

end Arrays

end HwEfat.Lib
