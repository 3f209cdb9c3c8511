/-
  HwEfat.Lib.Keyed — folds over records with distinct keys, of which each component
  of the state looks at one key only.

  A component that only the record with key `k` changes stands still before and
  behind that record (`foldl_around`); if what the record does to it depends on
  nothing else, the order of the records does not matter (`foldl_perm`).
-/
import Mathlib.Data.List.Perm.Basic
import Mathlib.Data.List.Nodup

namespace HwEfat.Lib

variable {ρ κ α : Type} [DecidableEq κ] {key : ρ → κ}

/-- With distinct keys, what is found under a key is the record with that key. -/
theorem find?_key_eq_some_iff {l : List ρ} (hnodup : (l.map key).Nodup) {k : κ} {r : ρ} :
    l.find? (fun r => key r = k) = some r ↔ r ∈ l ∧ key r = k := by
  constructor
  · intro h
    exact ⟨List.mem_of_find?_eq_some h, by simpa using List.find?_some h⟩
  · intro ⟨hmem, hkey⟩
    cases hfind : l.find? (fun r => key r = k) with
    | none =>
        have hnone := List.find?_eq_none.mp hfind r hmem
        simp [hkey] at hnone
    | some r' =>
        have hkey' : key r' = k := by simpa using List.find?_some hfind
        rw [List.inj_on_of_nodup_map hnodup (List.mem_of_find?_eq_some hfind) hmem
          (hkey'.trans hkey.symm)]

/-- The order of the records does not matter to a search by key. -/
theorem find?_key_perm {l l' : List ρ} (hperm : l.Perm l') (hnodup : (l.map key).Nodup) (k : κ) :
    l.find? (fun r => key r = k) = l'.find? (fun r => key r = k) := by
  have hnodup' : (l'.map key).Nodup := ((hperm.map key).nodup_iff).mp hnodup
  refine Option.ext (fun r => ?_)
  rw [find?_key_eq_some_iff hnodup, find?_key_eq_some_iff hnodup', hperm.mem_iff]

section Component

variable {σ : Type} {step : σ → ρ → σ} {g : σ → α}

/-- No step changes the component, so neither do they all. -/
theorem foldl_unchanged {l : List ρ} :
    ∀ {s : σ}, (∀ r ∈ l, ∀ s, g (step s r) = g s) → g (l.foldl step s) = g s := by
  induction l with
  | nil => exact fun _ => rfl
  | cons r l ih =>
      intro s h
      rw [List.foldl_cons, ih (fun r' hr' => h r' (List.mem_cons_of_mem r hr')),
        h r List.mem_cons_self]

variable {k : κ} (hother : ∀ r s, key r ≠ k → g (step s r) = g s)

include hother in
/-- Around the record with key `k`, if there is one, the component stands still. -/
theorem foldl_around {l : List ρ} (hnodup : (l.map key).Nodup) (s : σ) :
    (l.find? (fun r => key r = k) = none ∧ g (l.foldl step s) = g s) ∨
      ∃ r l₁ l₂, l.find? (fun r => key r = k) = some r ∧ l = l₁ ++ r :: l₂ ∧
        (∀ r' ∈ l₁, key r' ≠ k) ∧ key r = k ∧ g (l₁.foldl step s) = g s ∧
        g (l.foldl step s) = g (step (l₁.foldl step s) r) := by
  cases hfind : l.find? (fun r => key r = k) with
  | none =>
      refine Or.inl ⟨rfl, foldl_unchanged (fun r hr s => hother r s ?_)⟩
      simpa using List.find?_eq_none.mp hfind r hr
  | some r =>
      obtain ⟨hkey, l₁, l₂, rfl, hbefore⟩ := List.find?_eq_some_iff_append.mp hfind
      have hkey' : key r = k := by simpa using hkey
      have hbefore' : ∀ r' ∈ l₁, key r' ≠ k := fun r' hr' => by simpa using hbefore r' hr'
      -- no record behind `r` has its key
      have hafter : ∀ r' ∈ l₂, key r' ≠ k := by
        intro r' hr' hkey''
        rw [List.map_append, List.map_cons, List.nodup_append] at hnodup
        have hnot := (List.nodup_cons.mp hnodup.2.1).1
        exact hnot (List.mem_map.mpr ⟨r', hr', hkey''.trans hkey'.symm⟩)
      refine Or.inr ⟨r, l₁, l₂, rfl, rfl, hbefore', hkey',
        foldl_unchanged (fun r' hr' s => hother r' s (hbefore' r' hr')), ?_⟩
      rw [List.foldl_append, List.foldl_cons]
      exact foldl_unchanged (fun r' hr' s => hother r' s (hafter r' hr'))

include hother in
/-- **A component that looks at itself and at one key only** does not depend on the
order of the records. -/
theorem foldl_perm (hself : ∀ r s s', g s = g s' → g (step s r) = g (step s' r)) {l l' : List ρ}
    (hperm : l.Perm l') (hnodup : (l.map key).Nodup) (s : σ) :
    g (l.foldl step s) = g (l'.foldl step s) := by
  have hnodup' : (l'.map key).Nodup := ((hperm.map key).nodup_iff).mp hnodup
  have hsame := find?_key_perm hperm hnodup k
  rcases foldl_around hother hnodup s with ⟨hnone, hl⟩ | ⟨r, l₁, l₂, hsome, -, -, -, hstill, hl⟩
  · rcases foldl_around hother hnodup' s with ⟨-, hl'⟩ | ⟨r', -, -, hsome', -⟩
    · rw [hl, hl']
    · rw [← hsame, hnone] at hsome'
      cases hsome'
  · rcases foldl_around hother hnodup' s with
      ⟨hnone', -⟩ | ⟨r', l₁', l₂', hsome', -, -, -, hstill', hl'⟩
    · rw [← hsame, hsome] at hnone'
      cases hnone'
    · rw [← hsame, hsome, Option.some.injEq] at hsome'
      rw [hl, hl', ← hsome', hself r _ _ (hstill.trans hstill'.symm)]

end Component

end HwEfat.Lib
