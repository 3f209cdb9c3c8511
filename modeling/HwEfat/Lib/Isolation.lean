/-
  HwEfat.Lib.Isolation — a store of components that do not see each other.

  Every input is routed by `key` to one component, which answers and moves to a
  new state; `f k` is the life of the component at `k`.  The store as a whole is
  then nothing but these lives side by side:

    * `outputs_filter` — deleting all inputs of other components changes neither
      the answers to the inputs that stay ...
    * `final_filter` — ... nor the state their component ends in.
-/
import Mathlib.Data.List.Basic
import Mathlib.Logic.Function.Basic

namespace HwEfat.Lib

section Isolation

variable {K S I O : Type} [DecidableEq K]

/-- One input moves the component it is routed to. -/
def routeState (f : K → S → I → O × S) (key : I → K) (m : K → S) (i : I) : K → S :=
  Function.update m (key i) (f (key i) (m (key i)) i).2

/-- The answers to a list of inputs. -/
def outputs (f : K → S → I → O × S) (key : I → K) : (K → S) → List I → List O
  | _, [] => []
  | m, i :: l => (f (key i) (m (key i)) i).1 :: outputs f key (routeState f key m i) l

/-- Every input has an output. -/
theorem length_outputs (f : K → S → I → O × S) (key : I → K) :
    ∀ (m : K → S) (l : List I), (outputs f key m l).length = l.length
  | _, [] => rfl
  | m, i :: l => by
      rw [outputs, List.length_cons, List.length_cons, length_outputs f key _ l]

/-- The components after a list of inputs. -/
def final (f : K → S → I → O × S) (key : I → K) (m : K → S) (l : List I) : K → S :=
  l.foldl (routeState f key) m

/-- The answers to the inputs of one component only. -/
def outputsAt (f : K → S → I → O × S) (key : I → K) (k : K) (m : K → S) (l : List I) : List O :=
  ((l.zip (outputs f key m l)).filter (fun p => key p.1 = k)).map Prod.snd

/-- Answers and end state at `k` depend on the start state at `k` only. -/
theorem outputs_congr (f : K → S → I → O × S) (key : I → K) (k : K) :
    ∀ (l : List I) (m m' : K → S), (∀ i ∈ l, key i = k) → m k = m' k →
      outputs f key m l = outputs f key m' l
  | [], _, _, _, _ => rfl
  | i :: l, m, m', hl, hm => by
      have hi : key i = k := hl i List.mem_cons_self
      have hstep : routeState f key m i k = routeState f key m' i k := by
        simp [routeState, hi, hm]
      rw [outputs, outputs, hi, hm]
      congr 1
      exact outputs_congr f key k l _ _ (fun j hj => hl j (List.mem_cons_of_mem _ hj)) hstep

/-- The state of a key at the end depends on its state at the start only. -/
theorem final_congr (f : K → S → I → O × S) (key : I → K) (k : K) :
    ∀ (l : List I) (m m' : K → S), m k = m' k → final f key m l k = final f key m' l k
  | [], _, _, hm => hm
  | i :: l, m, m', hm => by
      refine final_congr f key k l _ _ ?_
      unfold routeState
      by_cases hi : k = key i
      · subst hi
        rw [Function.update_self, Function.update_self, hm]
      · rw [Function.update_of_ne hi, Function.update_of_ne hi, hm]

/-- **Other components' inputs do not change the answers.** -/
theorem outputs_filter (f : K → S → I → O × S) (key : I → K) (k : K) :
    ∀ (l : List I) (m : K → S),
      outputsAt f key k m l = outputs f key m (l.filter (fun i => key i = k))
  | [], _ => rfl
  | i :: l, m => by
      have ih := outputs_filter f key k l (routeState f key m i)
      unfold outputsAt at ih ⊢
      rw [outputs, List.zip_cons_cons]
      by_cases hi : key i = k
      · rw [List.filter_cons_of_pos (by simpa using hi),
            List.filter_cons_of_pos (by simpa using hi), List.map_cons, ih, outputs]
      · rw [List.filter_cons_of_neg (by simpa using hi),
            List.filter_cons_of_neg (by simpa using hi), ih]
        refine outputs_congr f key k _ _ _ (fun j hj => ?_) ?_
        · simpa using (List.mem_filter.mp hj).2
        · exact Function.update_of_ne (Ne.symm hi) _ _

/-- **Nor the state the component ends in.** -/
theorem final_filter (f : K → S → I → O × S) (key : I → K) (k : K) :
    ∀ (l : List I) (m : K → S),
      final f key m l k = final f key m (l.filter (fun i => key i = k)) k
  | [], _ => rfl
  | i :: l, m => by
      show final f key (routeState f key m i) l k = _
      rw [final_filter f key k l]
      by_cases hi : key i = k
      · rw [List.filter_cons_of_pos (by simpa using hi)]
        rfl
      · rw [List.filter_cons_of_neg (by simpa using hi)]
        refine final_congr f key k _ _ _ ?_
        exact Function.update_of_ne (Ne.symm hi) _ _

/-- What every component starts with and its own inputs keep, it has in the end. -/
theorem final_induct {f : K → S → I → O × S} {key : I → K} {P : K → S → Prop} :
    ∀ (l : List I) (m : K → S),
      (∀ k s, ∀ i ∈ l, key i = k → P k s → P k (f k s i).2) → (∀ k, P k (m k)) →
      ∀ k, P k (final f key m l k)
  | [], _, _, init => init
  | i :: l, m, next, init => by
      refine final_induct l (routeState f key m i)
        (fun k s j hj => next k s j (List.mem_cons_of_mem _ hj)) (fun k => ?_)
      unfold routeState
      by_cases hi : k = key i
      · subst hi
        rw [Function.update_self]
        exact next _ _ i List.mem_cons_self rfl (init _)
      · rw [Function.update_of_ne hi]
        exact init k

end Isolation

end HwEfat.Lib
