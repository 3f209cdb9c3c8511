/-
  HwEfat.Lib.Collect — loops that append what their steps give.

  A loop keeps what its steps keep (`PyM.keeps_collect`); what holds of every step that
  returns holds of the whole list (`PyM.collect_forall₂`).
-/
import HwEfat.Lib.Frame

namespace HwEfat.Lib

namespace PyM

variable {σ α β : Type} {step : α → PyM σ β}

/-- `for a in l: bs.append(step(a))` -/
def collect (step : α → PyM σ β) : List α → PyM σ (List β)
  | [] => return []
  | a :: l => do
      let b ← step a
      let bs ← collect step l
      return b :: bs

/-- Every step that is reached satisfies `P`, at the objects before it. -/
def EachStep (step : α → PyM σ β) (P : α → σ → Prop) : List α → σ → Prop
  | [], _ => True
  | a :: l, s => P a s ∧ ∀ b s₁, step a s = (.ok b, s₁) → EachStep step P l s₁

/-- A collection that returns: the first step, and then the rest. -/
theorem collect_cons_eq_ok {a : α} {l : List α} {s s' : σ} {bs : List β} :
    collect step (a :: l) s = (.ok bs, s') ↔
      ∃ b s₁ bs', step a s = (.ok b, s₁) ∧ collect step l s₁ = (.ok bs', s') ∧ bs = b :: bs' := by
  show (step a >>= fun b => collect step l >>= fun bs' => pure (b :: bs')) s = (.ok bs, s') ↔ _
  rw [bind_eq_ok]
  constructor
  · rintro ⟨b, s₁, hb, h⟩
    obtain ⟨bs', s₂, hbs, h⟩ := bind_eq_ok.mp h
    cases h
    exact ⟨b, s₁, bs', hb, hbs, rfl⟩
  · rintro ⟨b, s₁, bs', hb, hbs, rfl⟩
    exact ⟨b, s₁, hb, bind_eq_ok.mpr ⟨bs', s', hbs, rfl⟩⟩

/-- What every step keeps, a collection keeps. -/
theorem keeps_collect {R : σ → σ → Prop} (hrefl : ∀ s, R s s)
    (htrans : ∀ s₁ s₂ s₃, R s₁ s₂ → R s₂ s₃ → R s₁ s₃) (hstep : ∀ a, Keeps R (step a))
    (l : List α) : Keeps R (collect step l) := by
  induction l with
  | nil => exact keeps_pure hrefl []
  | cons a l ih =>
      exact (hstep a).bind htrans fun b => ih.bind htrans fun bs => keeps_pure hrefl (b :: bs)

/-- **What every step gives**, of a loop that returns: `Q` is about the objects at the start
and at the end, and `R` is what steps that return do. -/
theorem collect_forall₂ {Q : σ → σ → α → β → Prop} {R : σ → σ → Prop} (hrefl : ∀ s, R s s)
    (htrans : ∀ s₁ s₂ s₃, R s₁ s₂ → R s₂ s₃ → R s₁ s₃)
    (hQ : ∀ s₁ s₂ s₃ s₄ a b, R s₁ s₂ → Q s₂ s₃ a b → R s₃ s₄ → Q s₁ s₄ a b)
    (hstep : ∀ a s b s', step a s = (.ok b, s') → R s s' ∧ Q s s' a b) {l : List α} {s s' : σ}
    {bs : List β} (h : collect step l s = (.ok bs, s')) :
    R s s' ∧ List.Forall₂ (Q s s') l bs := by
  induction l generalizing s bs with
  | nil =>
      cases h
      exact ⟨hrefl _, .nil⟩
  | cons a l ih =>
      obtain ⟨b, s₁, bs', hb, hbs, rfl⟩ := collect_cons_eq_ok.mp h
      obtain ⟨hR, hb⟩ := hstep a s b s₁ hb
      obtain ⟨hR', hbs⟩ := ih hbs
      refine ⟨htrans s s₁ s' hR hR', .cons (hQ s s s₁ s' a b (hrefl s) hb hR') ?_⟩
      exact hbs.imp fun c d hcd => hQ s s₁ s' s' c d hR hcd (hrefl s')

/-- **How what comes later is related to what came before**: `B` is about what the objects
know of it, and every step that returns adds what it gives. -/
theorem collect_pairwise {B : σ → β → Prop} {P : β → β → Prop}
    (hstep : ∀ a s b s', step a s = (.ok b, s') →
      B s' b ∧ ∀ c, B s c → B s' c ∧ P c b)
    {l : List α} {s s' : σ} {bs : List β} (h : collect step l s = (.ok bs, s')) :
    bs.Pairwise P ∧ (∀ b ∈ bs, B s' b) ∧
      ∀ c, B s c → B s' c ∧ ∀ b ∈ bs, P c b := by
  induction l generalizing s bs with
  | nil =>
      cases h
      exact ⟨.nil, fun b hb => absurd hb List.not_mem_nil,
        fun c hc => ⟨hc, fun b hb => absurd hb List.not_mem_nil⟩⟩
  | cons a l ih =>
      obtain ⟨b, s₁, bs', hb, hbs, rfl⟩ := collect_cons_eq_ok.mp h
      obtain ⟨hnew, hold⟩ := hstep a s b s₁ hb
      obtain ⟨hpairwise, hknown, hlater⟩ := ih hbs
      refine ⟨.cons (hlater b hnew).2 hpairwise,
        List.forall_mem_cons.mpr ⟨(hlater b hnew).1, hknown⟩, fun c hc => ?_⟩
      obtain ⟨hc₁, hcb⟩ := hold c hc
      exact ⟨(hlater c hc₁).1, List.forall_mem_cons.mpr ⟨hcb, (hlater c hc₁).2⟩⟩

end PyM

section Forall₂

variable {α β γ : Type}

/-- Related elements are elements of the two lists. -/
theorem forall₂_mem {R : α → β → Prop} {l : List α} {bs : List β} (h : List.Forall₂ R l bs) :
    List.Forall₂ (fun a b => R a b ∧ a ∈ l ∧ b ∈ bs) l bs := by
  induction h with
  | nil => exact .nil
  | cons hab _ ih =>
      exact .cons ⟨hab, List.mem_cons_self, List.mem_cons_self⟩
        (ih.imp fun _ _ h => ⟨h.1, List.mem_cons_of_mem _ h.2.1, List.mem_cons_of_mem _ h.2.2⟩)

/-- Every element on the right is related to one on the left. -/
theorem exists_of_forall₂ {R : α → β → Prop} {l : List α} {bs : List β}
    (h : List.Forall₂ R l bs) {b : β} (hb : b ∈ bs) : ∃ a ∈ l, R a b := by
  induction h with
  | nil => exact absurd hb List.not_mem_nil
  | @cons a _ _ _ hab _ ih =>
      rcases List.mem_cons.mp hb with rfl | hb
      · exact ⟨a, List.mem_cons_self, hab⟩
      · obtain ⟨a', ha', hab'⟩ := ih hb
        exact ⟨a', List.mem_cons_of_mem _ ha', hab'⟩

/-- A relation that depends on one of the lists only. -/
theorem forall₂_iff_forall {Q : α → β → Prop} {P : α → Prop} {l : List α} {bs : List β}
    (h : List.Forall₂ (fun a b => Q a b ↔ P a) l bs) :
    List.Forall₂ Q l bs ↔ ∀ a ∈ l, P a := by
  induction h with
  | nil => exact iff_of_true .nil fun a ha => absurd ha List.not_mem_nil
  | cons hab _ ih => rw [List.forall₂_cons, List.forall_mem_cons, hab, ih]

/-- Results of the elements that are not passed over. -/
theorem forall₂_filter {R : α → β → Prop} {p : α → Prop} [DecidablePred p] {l : List α}
    {os : List (Option β)}
    (h : List.Forall₂ (fun a o => (¬ p a ∧ o = none) ∨ (p a ∧ ∃ b, o = some b ∧ R a b)) l os) :
    List.Forall₂ R (l.filter p) (os.filterMap id) := by
  induction h with
  | nil => exact .nil
  | cons hab _ ih =>
      rcases hab with ⟨hp, rfl⟩ | ⟨hp, b, rfl, hb⟩
      · rw [List.filter_cons_of_neg (by simpa using hp), List.filterMap_cons_none (f := id) rfl]
        exact ih
      · rw [List.filter_cons_of_pos (by simpa using hp), List.filterMap_cons_some (f := id) rfl]
        exact .cons hb ih

/-- What is read off the results of steps that all have one. -/
theorem forall₂_of_map {R : α → β → Prop} {f : β → Option γ} {l : List α}
    {bs : List β} {cs : List γ} (h : List.Forall₂ R l bs) (hf : bs.map f = cs.map some) :
    List.Forall₂ (fun a c => ∃ b, R a b ∧ f b = some c) l cs := by
  induction h generalizing cs with
  | nil =>
      rw [List.map_eq_nil_iff.mp hf.symm]
      exact .nil
  | cons hab _ ih =>
      cases cs with
      | nil => cases hf
      | cons c cs =>
          rw [List.map_cons, List.map_cons, List.cons.injEq] at hf
          exact .cons ⟨_, hab, hf.1⟩ (ih hf.2)

end Forall₂

end HwEfat.Lib
