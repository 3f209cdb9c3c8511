/-
  HwEfat.Lib.Except — computations that raise or return.

  A sequence of steps that returns has returned at every step (`bind_eq_ok`), and so has
  a loop: over a list for its effect (`forM_eq_ok`), for its results (`mapM_eq_ok`), or
  with a state (`foldlM_keeps`, `foldlM_history`, `foldlM_range_induct`).  A loop that can
  always go on returns (`mapM_eq_map`, `foldlM_range_ok`).  A sequence raises nothing but what
  its steps raise (`Raises.bind`, `Raises.mapM`).
-/
import Mathlib.Data.List.Basic
import Mathlib.Data.List.Forall2

namespace HwEfat.Lib

variable {ε α β : Type}

/-! ## §1. Results. -/

/-- What is left without the error. -/
theorem toOption_eq_some {x : Except ε α} {a : α} : x.toOption = some a ↔ x = .ok a := by
  cases x with
  | error e => exact ⟨fun h => (by cases h), fun h => (by cases h)⟩
  | ok b => exact ⟨fun h => congrArg Except.ok (Option.some.inj h), fun h => (by cases h; rfl)⟩

/-- A result that passes a test is a result. -/
theorem exists_eq_ok {x : Except ε α} {p : α → Bool}
    (h : x.toOption.any p = true) : ∃ a, x = .ok a ∧ p a = true := by
  cases x with
  | ok a => exact ⟨a, rfl, h⟩
  | error e => cases h

/-- A sequence that returns has returned at every step. -/
theorem bind_eq_ok {x : Except ε α} {f : α → Except ε β} {b : β} :
    (x >>= f) = .ok b ↔ ∃ a, x = .ok a ∧ f a = .ok b := by
  cases x with
  | error e => exact ⟨fun h => (by cases h), fun ⟨_, h, _⟩ => (by cases h)⟩
  | ok a =>
      constructor
      · intro h
        exact ⟨a, rfl, h⟩
      · intro ⟨a', ha, h⟩
        cases ha
        exact h

/-- A mapped result comes from a result. -/
theorem map_eq_ok {x : Except ε α} {f : α → β} {b : β} :
    x.map f = .ok b ↔ ∃ a, x = .ok a ∧ b = f a := by
  cases x with
  | error e => exact ⟨fun h => (by cases h), fun ⟨_, h, _⟩ => (by cases h)⟩
  | ok a =>
      constructor
      · intro h
        cases h
        exact ⟨a, rfl, rfl⟩
      · rintro ⟨a', ha, rfl⟩
        cases ha
        rfl

/-- What is raised satisfies `P`. -/
def Raises (P : ε → Prop) (x : Except ε α) : Prop := ∀ e, x = .error e → P e

section Raises

variable {P : ε → Prop} {x : Except ε α}

theorem raises_ok (a : α) : Raises P (.ok a : Except ε α) := fun _ h => by cases h

/-- The error that is raised. -/
theorem raises_error {e : ε} (h : P e) : Raises P (.error e : Except ε α) := by
  intro e' he'
  cases he'
  exact h

/-- Of a composition, either part may raise. -/
theorem Raises.bind {f : α → Except ε β} (hx : Raises P x) (hf : ∀ a, Raises P (f a)) :
    Raises P (x >>= f) := by
  cases x with
  | error e => exact raises_error (hx e rfl)
  | ok a => exact hf a

theorem Raises.map (hx : Raises P x) (f : α → β) : Raises P (x.map f) := by
  cases x with
  | error e => exact raises_error (hx e rfl)
  | ok a => exact raises_ok (f a)

/-- Of a loop, any turn may raise. -/
theorem Raises.mapM {f : α → Except ε β} (hf : ∀ a, Raises P (f a)) (l : List α) :
    Raises P (l.mapM f) := by
  induction l with
  | nil => exact raises_ok []
  | cons a l ih =>
      rw [List.mapM_cons]
      exact (hf a).bind fun b => ih.bind fun bs => raises_ok (b :: bs)

end Raises

/-! ## §2. Lists. -/

/-- A loop that returns has returned at every turn. -/
theorem forM_eq_ok {l : List α} {f : α → Except ε Unit} :
    forM l f = .ok () ↔ ∀ a ∈ l, f a = .ok () := by
  induction l with
  | nil => exact ⟨fun _ _ h => (by cases h), fun _ => rfl⟩
  | cons a l ih =>
      rw [List.forM_cons, bind_eq_ok]
      constructor
      · intro ⟨_, ha, hl⟩ x hx
        rcases List.mem_cons.mp hx with rfl | hx
        · exact ha
        · exact ih.mp hl x hx
      · intro h
        exact ⟨(), h a List.mem_cons_self,
          ih.mpr fun x hx => h x (List.mem_cons_of_mem a hx)⟩

/-- A list that is computed element by element. -/
theorem mapM_eq_ok {l : List α} {f : α → Except ε β} {m : List β} :
    l.mapM f = .ok m ↔ List.Forall₂ (fun a b => f a = .ok b) l m := by
  induction l generalizing m with
  | nil =>
      rw [List.mapM_nil]
      constructor
      · intro h
        cases h
        exact .nil
      · intro h
        cases h
        rfl
  | cons a l ih =>
      rw [List.mapM_cons, bind_eq_ok]
      constructor
      · intro ⟨b, hb, h⟩
        obtain ⟨m', hm', h⟩ := bind_eq_ok.mp h
        cases h
        exact .cons hb (ih.mp hm')
      · intro h
        cases h with
        | cons hb hm => exact ⟨_, hb, bind_eq_ok.mpr ⟨_, ih.mpr hm, rfl⟩⟩

/-- Each element is computed from the one at its place. -/
theorem getElem?_of_mapM {l : List α} {f : α → Except ε β} {m : List β}
    (h : l.mapM f = .ok m) (i : Nat) : l[i]?.map f = m[i]?.map .ok := by
  rw [mapM_eq_ok] at h
  induction h generalizing i with
  | nil => rfl
  | cons hab _ ih =>
      cases i with
      | zero => exact congrArg some hab
      | succ i => exact ih i

/-- The same, from the result. -/
theorem exists_of_mapM {l : List α} {f : α → Except ε β} {m : List β}
    (h : l.mapM f = .ok m) {i : Nat} {b : β} (hb : m[i]? = some b) :
    ∃ a, l[i]? = some a ∧ f a = .ok b := by
  have heq := getElem?_of_mapM h i
  rw [hb, Option.map_some, Option.map_eq_some_iff] at heq
  exact heq

/-- The same, from the list. -/
theorem exists_mapM {l : List α} {f : α → Except ε β} {m : List β}
    (h : l.mapM f = .ok m) {i : Nat} {a : α} (ha : l[i]? = some a) :
    ∃ b, m[i]? = some b ∧ f a = .ok b := by
  have heq := (getElem?_of_mapM h i).symm
  rw [ha, Option.map_some, Option.map_eq_some_iff] at heq
  obtain ⟨b, hb, hfa⟩ := heq
  exact ⟨b, hb, hfa.symm⟩

/-- A loop over a list gives as many results. -/
theorem length_of_mapM {l : List α} {f : α → Except ε β} {m : List β}
    (h : l.mapM f = .ok m) : m.length = l.length := (mapM_eq_ok.mp h).length_eq.symm

/-- Only the elements of the list count. -/
theorem mapM_congr {l : List α} {f g : α → Except ε β}
    (h : ∀ a ∈ l, f a = g a) : l.mapM f = l.mapM g := by
  induction l with
  | nil => rw [List.mapM_nil, List.mapM_nil]
  | cons a l ih =>
      rw [List.mapM_cons, List.mapM_cons, h a List.mem_cons_self,
        ih fun x hx => h x (List.mem_cons_of_mem a hx)]

/-- A list that is computed without raising. -/
theorem mapM_eq_map {l : List α} {f : α → Except ε β} {g : α → β}
    (h : ∀ a ∈ l, f a = .ok (g a)) : l.mapM f = .ok (l.map g) := by
  rw [mapM_eq_ok]
  induction l with
  | nil => exact .nil
  | cons a l ih =>
      exact .cons (h a List.mem_cons_self) (ih fun x hx => h x (List.mem_cons_of_mem a hx))

/-- A loop that keeps some results has returned at every turn, and keeps what there is. -/
theorem filterMapM_eq_ok {l : List α} {f : α → Except ε (Option β)} {m : List β}
    (h : l.filterMapM f = .ok m) :
    (∀ a ∈ l, ∃ o, f a = .ok o) ∧ ∀ b, b ∈ m ↔ ∃ a ∈ l, f a = .ok (some b) := by
  induction l generalizing m with
  | nil =>
      cases h
      simp
  | cons a l ih =>
      rw [List.filterMapM_cons, bind_eq_ok] at h
      obtain ⟨o, ho, h⟩ := h
      cases o with
      | none =>
          obtain ⟨hall, hmem⟩ := ih h
          refine ⟨List.forall_mem_cons.mpr ⟨⟨none, ho⟩, hall⟩, fun b => ?_⟩
          rw [hmem, List.exists_mem_cons_iff, ho]
          simp
      | some b' =>
          obtain ⟨m', hm', h⟩ := bind_eq_ok.mp h
          cases h
          obtain ⟨hall, hmem⟩ := ih hm'
          refine ⟨List.forall_mem_cons.mpr ⟨⟨some b', ho⟩, hall⟩, fun b => ?_⟩
          rw [List.mem_cons, hmem, List.exists_mem_cons_iff, ho, Except.ok.injEq,
            Option.some.injEq, eq_comm]

/-! ## §3. Loops with a state. -/

section Loops

variable {σ : Type} {n : Nat} {s s' : σ}

/-- What every turn keeps, the loop keeps. -/
theorem foldlM_keeps {f : σ → α → Except ε σ} {I : σ → Prop} {l : List α}
    (hstep : ∀ a ∈ l, ∀ s s', I s → f s a = .ok s' → I s') (hs : I s)
    (h : l.foldlM f s = .ok s') : I s' := by
  induction l generalizing s with
  | nil =>
      rw [List.foldlM_nil] at h
      cases h
      exact hs
  | cons a l ih =>
      rw [List.foldlM_cons, bind_eq_ok] at h
      obtain ⟨s₁, h₁, h⟩ := h
      exact ih (fun x hx => hstep x (List.mem_cons_of_mem a hx))
        (hstep a List.mem_cons_self s s₁ hs h₁) h

/-- The same, where what is kept depends on what the loop has passed. -/
theorem foldlM_history {f : σ → α → Except ε σ} {I : List α → σ → Prop} {l : List α}
    (hstep : ∀ passed a s s', I passed s → f s a = .ok s' → I (passed ++ [a]) s')
    (hs : I [] s) (h : l.foldlM f s = .ok s') : I l s' := by
  have hrest : ∀ (rest passed : List α) (s : σ), I passed s → rest.foldlM f s = .ok s' →
      I (passed ++ rest) s' := by
    intro rest
    induction rest with
    | nil =>
        intro passed s hs h
        rw [List.foldlM_nil] at h
        cases h
        rw [List.append_nil]
        exact hs
    | cons a rest ih =>
        intro passed s hs h
        rw [List.foldlM_cons, bind_eq_ok] at h
        obtain ⟨s₁, h₁, h⟩ := h
        rw [List.append_cons]
        exact ih (passed ++ [a]) s₁ (hstep passed a s s₁ hs h₁) h
  exact hrest l [] s hs h

/-- One more turn. -/
theorem foldlM_concat {f : σ → α → Except ε σ} {l : List α} (a : α)
    (h : l.foldlM f s = .ok s') : (l ++ [a]).foldlM f s = f s' a := by
  rw [List.foldlM_append, h]
  change List.foldlM f s' [a] = f s' a
  rw [List.foldlM_cons]
  cases f s' a <;> rfl

variable {f : σ → Nat → Except ε σ}

/-- The last turn of a loop over a range. -/
theorem foldlM_range_succ :
    (List.range (n + 1)).foldlM f s = (List.range n).foldlM f s >>= fun s => f s n := by
  rw [List.range_succ, List.foldlM_append]
  congr 1
  funext s
  rw [List.foldlM_cons]
  cases f s n <;> rfl

/-- An invariant of `for i in range(n)`. -/
theorem foldlM_range_induct {I : Nat → σ → Prop} (hzero : I 0 s)
    (hstep : ∀ i s s', i < n → I i s → f s i = .ok s' → I (i + 1) s')
    (h : (List.range n).foldlM f s = .ok s') : I n s' := by
  induction n generalizing s' with
  | zero =>
      rw [List.range_zero, List.foldlM_nil] at h
      cases h
      exact hzero
  | succ n ih =>
      rw [foldlM_range_succ, bind_eq_ok] at h
      obtain ⟨s₁, h₁, h⟩ := h
      have hI := ih (fun i s s' hi => hstep i s s' (Nat.lt_succ_of_lt hi)) h₁
      exact hstep n s₁ s' (Nat.lt_succ_self n) hI h

/-- A loop that can always go on returns. -/
theorem foldlM_range_ok {I : Nat → σ → Prop} (hzero : I 0 s)
    (hstep : ∀ i s, i < n → I i s → ∃ s', f s i = .ok s' ∧ I (i + 1) s') :
    ∃ s', (List.range n).foldlM f s = .ok s' ∧ I n s' := by
  induction n with
  | zero => exact ⟨s, rfl, hzero⟩
  | succ n ih =>
      obtain ⟨s₁, h₁, hI⟩ := ih fun i s hi => hstep i s (Nat.lt_succ_of_lt hi)
      obtain ⟨s₂, h₂, hI₂⟩ := hstep n s₁ (Nat.lt_succ_self n) hI
      refine ⟨s₂, ?_, hI₂⟩
      rw [foldlM_range_succ, h₁]
      exact h₂

end Loops

end HwEfat.Lib
