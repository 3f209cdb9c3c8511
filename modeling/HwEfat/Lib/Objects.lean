/-
  HwEfat.Lib.Objects — objects that are copied and changed in place.

  A list of objects is a list of references.  A copy gets references of its own
  (`contents_deepcopy`), and what changes the objects of one list leaves all others alone
  (`keeps_updateEach`, `OnlyAt.contents_eq`).  As long as every object has one reference only,
  changing the objects in place is computing a new list of objects (`contents_updateEach`).
-/
import HwEfat.Lib.Frame
import HwEfat.Lib.Heap

namespace HwEfat.Lib

variable {α β : Type}

/-! ## §1. Contents. -/

namespace Heap

/-- The object behind a reference. -/
def deref [Inhabited α] (h : Heap α) (r : Nat) : α := (h.read r).getD default

/-- The objects behind references. -/
def contents [Inhabited α] (h : Heap α) (refs : List Nat) : List α := refs.map h.deref

/-- The objects behind other references are as before. -/
structure OnlyAt (refs : List Nat) (h h' : Heap α) : Prop where
  size : h'.size = h.size
  read : ∀ r, r ∉ refs → h'.read r = h.read r

/-- The objects that were there are as before. -/
structure Grows (h h' : Heap α) : Prop where
  size : h.size ≤ h'.size
  read : ∀ r, r < h.size → h'.read r = h.read r

section Contents

variable {h h' h'' : Heap α} {refs refs' : List Nat}

theorem OnlyAt.refl (refs : List Nat) (h : Heap α) : OnlyAt refs h h := ⟨rfl, fun _ _ => rfl⟩

/-- One change after the other. -/
theorem OnlyAt.trans (h₁ : OnlyAt refs h h') (h₂ : OnlyAt refs h' h'') : OnlyAt refs h h'' :=
  ⟨h₂.size.trans h₁.size, fun r hr => (h₂.read r hr).trans (h₁.read r hr)⟩

/-- More objects may have changed. -/
theorem OnlyAt.mono (h₁ : OnlyAt refs h h') (hsub : ∀ r ∈ refs, r ∈ refs') : OnlyAt refs' h h' :=
  ⟨h₁.size, fun r hr => h₁.read r fun hmem => hr (hsub r hmem)⟩

theorem Grows.refl (h : Heap α) : Grows h h := ⟨Nat.le_refl _, fun _ _ => rfl⟩

/-- One growth after the other. -/
theorem Grows.trans (h₁ : Grows h h') (h₂ : Grows h' h'') : Grows h h'' := by
  refine ⟨h₁.size.trans h₂.size, fun r hr => ?_⟩
  exact (h₂.read r (hr.trans_le h₁.size)).trans (h₁.read r hr)

/-- Allocations only add. -/
theorem grows_allocs (h : Heap α) (as : List α) : Grows h (h.allocs as) := by
  refine ⟨?_, fun r hr => read_allocs_old h as hr⟩
  rw [size_allocs]
  exact Nat.le_add_right _ _

/-- New objects may be changed. -/
theorem Grows.onlyAt (h₁ : Grows h h') (h₂ : OnlyAt refs h' h'') (hrefs : ∀ r ∈ refs, h.size ≤ r) :
    Grows h h'' := by
  refine ⟨h₁.size.trans h₂.size.ge, fun r hr => ?_⟩
  rw [h₂.read r fun hmem => absurd (hrefs r hmem) (by omega)]
  exact h₁.read r hr

variable [Inhabited α]

/-- The contents depend on the objects that are looked at. -/
theorem contents_congr (heq : ∀ r ∈ refs, h'.read r = h.read r) :
    h'.contents refs = h.contents refs := by
  refine List.map_congr_left fun r hr => ?_
  unfold deref
  rw [heq r hr]

/-- Objects that are not changed. -/
theorem OnlyAt.contents_eq (h₁ : OnlyAt refs h h') (hdisjoint : refs'.Disjoint refs) :
    h'.contents refs' = h.contents refs' :=
  contents_congr fun r hr => h₁.read r fun hmem => hdisjoint hr hmem

/-- Objects that were there. -/
theorem Grows.contents_eq (h₁ : Grows h h') (hrefs : ∀ r ∈ refs, r < h.size) :
    h'.contents refs = h.contents refs :=
  contents_congr fun r hr => h₁.read r (hrefs r hr)

/-- The contents of new objects. -/
theorem contents_allocs (h : Heap α) (as : List α) :
    (h.allocs as).contents (List.range' h.size as.length) = as := by
  have hread := congrArg (List.map fun o : Option α => o.getD default) (read_allocs_fresh h as)
  rw [List.map_map, List.map_map] at hread
  exact hread.trans (List.map_id as)

end Contents

end Heap

/-! ## §2. Programs. -/

namespace PyM

variable [Inhabited α]

/-- `copy.deepcopy(objects)`, where every object has one reference only. -/
def deepcopy (refs : List Nat) : PyM (Heap α) (List Nat) := fun h =>
  (.ok (List.range' h.size refs.length), h.allocs (h.contents refs))

/-- `f` changes the object. -/
def update (r : Nat) (f : α → Except PyError α) : PyM (Heap α) Unit := do
  let a ← lift (f ((← read).deref r))
  modify (·.write r a)

/-- `for (index, b) in enumerate(bs): f(b, objects[index])` -/
def updateEach (f : β → α → Except PyError α) : List β → List Nat → PyM (Heap α) Unit
  | [], _ => return ()
  | _ :: _, [] => lift (.error (.indexError "list index out of range"))
  | b :: bs, r :: refs => do
      update r (f b)
      updateEach f bs refs

/-- `for a in objects: f(a)` -/
def updateAll (f : α → Except PyError α) (refs : List Nat) : PyM (Heap α) Unit :=
  updateEach (fun _ => f) refs refs

end PyM

/-- The same for the objects themselves. -/
def updateList (f : β → α → Except PyError α) : List β → List α → Except PyError (List α)
  | [], as => return as
  | _ :: _, [] => .error (.indexError "list index out of range")
  | b :: bs, a :: as => return (← f b a) :: (← updateList f bs as)

/-- Every object is updated. -/
theorem length_updateList {f : β → α → Except PyError α} {bs : List β} {as as' : List α}
    (h : updateList f bs as = .ok as') : as'.length = as.length := by
  induction bs generalizing as as' with
  | nil =>
      cases h
      rfl
  | cons b bs ih =>
      cases as with
      | nil => cases h
      | cons a as =>
          obtain ⟨a', _, h⟩ := HwEfat.Lib.bind_eq_ok.mp h
          obtain ⟨as₁, has, h⟩ := HwEfat.Lib.bind_eq_ok.mp h
          cases h
          rw [List.length_cons, List.length_cons, ih has]

/-- Each object is computed from the one at its place. -/
theorem getElem?_updateList {f : β → α → Except PyError α} {bs : List β} {as as' : List α}
    (h : updateList f bs as = .ok as') (i : Nat) :
    (∀ b, bs[i]? = some b → ∃ a a', as[i]? = some a ∧ as'[i]? = some a' ∧ f b a = .ok a') ∧
      (bs[i]? = none → as'[i]? = as[i]?) := by
  induction bs generalizing as as' i with
  | nil =>
      cases h
      exact ⟨fun b hb => (nomatch hb), fun _ => rfl⟩
  | cons b bs ih =>
      cases as with
      | nil => cases h
      | cons a as =>
          obtain ⟨a', ha, h⟩ := HwEfat.Lib.bind_eq_ok.mp h
          obtain ⟨as₁, has, h⟩ := HwEfat.Lib.bind_eq_ok.mp h
          cases h
          cases i with
          | zero =>
              refine ⟨fun b' hb' => ?_, fun hnone => (nomatch hnone)⟩
              cases hb'
              exact ⟨a, a', rfl, rfl, ha⟩
          | succ i => exact ih has i

section Programs

open Heap PyM

variable [Inhabited α] {f : β → α → Except PyError α} {bs : List β} {refs refs' : List Nat}
  {h h' : Heap α}

/-- An update that returns has written one object. -/
theorem update_eq_ok {r : Nat} {g : α → Except PyError α} :
    update r g h = (.ok (), h') ↔ ∃ a, g (h.deref r) = .ok a ∧ h' = h.write r a := by
  show (lift (g (h.deref r)) >>= fun a => modify (·.write r a)) h = _ ↔ _
  rw [bind_apply, lift_apply]
  cases g (h.deref r) with
  | error e => exact iff_of_false (fun h => by cases h) fun ⟨_, h, _⟩ => by cases h
  | ok a =>
      constructor
      · rintro ⟨⟩
        exact ⟨a, rfl, rfl⟩
      · rintro ⟨a', ha, rfl⟩
        cases ha
        rfl

/-- An update changes its own object only. -/
theorem keeps_update {r : Nat} (hr : r ∈ refs) (g : α → Except PyError α) :
    Keeps (OnlyAt refs) (update r g) := by
  intro h
  show OnlyAt refs h ((lift (g (h.deref r)) >>= fun a => modify (·.write r a)) h).2
  rw [bind_apply, lift_apply]
  cases g (h.deref r) with
  | error e => exact OnlyAt.refl refs h
  | ok a =>
      refine ⟨size_write h r a, fun r' hr' => read_write_ne h ?_ a⟩
      rintro rfl
      exact hr' hr

/-- **Objects of other lists are left alone.** -/
theorem keeps_updateEach (hsub : ∀ r ∈ refs, r ∈ refs') :
    Keeps (OnlyAt refs') (updateEach f bs refs) := by
  induction bs generalizing refs with
  | nil => exact keeps_pure (OnlyAt.refl refs') ()
  | cons b bs ih =>
      cases refs with
      | nil => exact keeps_lift (OnlyAt.refl refs') _
      | cons r refs =>
          obtain ⟨hr, hrest⟩ := List.forall_mem_cons.mp hsub
          exact Keeps.bind (R := OnlyAt refs') (fun _ _ _ => OnlyAt.trans) (keeps_update hr (f b))
            fun _ => ih hrest

/-- **Updating several objects** changes no others, even if it raises in between. -/
theorem onlyAt_of_updateEach {r : Except PyError Unit}
    (hrun : updateEach f bs refs h = (r, h')) : OnlyAt refs h h' := by
  have hkeeps : Keeps (OnlyAt refs) (updateEach f bs refs) := keeps_updateEach fun _ hr => hr
  have honly := hkeeps h
  rw [hrun] at honly
  exact honly

/-- Writing another object changes nothing of these. -/
theorem contents_write {r : Nat} (hr : r ∉ refs) (a : α) :
    (h.write r a).contents refs = h.contents refs := by
  refine contents_congr fun r' hr' => read_write_ne h ?_ a
  rintro rfl
  exact hr hr'

/-- **Changing objects in place** computes the new list of objects. -/
theorem contents_updateEach (hnodup : refs.Nodup) (hvalid : ∀ r ∈ refs, r < h.size)
    (hrun : updateEach f bs refs h = (.ok (), h')) :
    updateList f bs (h.contents refs) = .ok (h'.contents refs) := by
  induction bs generalizing refs h with
  | nil =>
      cases hrun
      rfl
  | cons b bs ih =>
      cases refs with
      | nil => cases hrun
      | cons r refs =>
          obtain ⟨hr, hnodup⟩ := List.nodup_cons.mp hnodup
          obtain ⟨hlt, hvalid⟩ := List.forall_mem_cons.mp hvalid
          obtain ⟨_, h₁, hfirst, hrest⟩ := PyM.bind_eq_ok.mp hrun
          obtain ⟨a, ha, rfl⟩ := update_eq_ok.mp hfirst
          have htail := ih hnodup (fun r' hr' => by
            rw [size_write]
            exact hvalid r' hr') hrest
          -- The first object is not changed again.
          have honly : OnlyAt refs (h.write r a) h' := onlyAt_of_updateEach hrest
          have hhead : h'.deref r = a := by
            unfold deref
            rw [honly.read r hr, read_write_self hlt]
            rfl
          rw [contents_write hr] at htail
          show (f b (h.deref r) >>= fun a => updateList f bs (h.contents refs) >>= fun as =>
            pure (a :: as)) = .ok (h'.deref r :: h'.contents refs)
          rw [ha, hhead, htail]
          rfl

/-- Changing every object. -/
theorem contents_updateAll {g : α → α} (hnodup : refs.Nodup) (hvalid : ∀ r ∈ refs, r < h.size)
    (hrun : updateAll (fun a => .ok (g a)) refs h = (.ok (), h')) :
    h'.contents refs = (h.contents refs).map g := by
  have hlist := contents_updateEach hnodup hvalid hrun
  have hmap : ∀ l : List Nat, updateList (fun _ a => .ok (g a)) l (h.contents l)
      = .ok ((h.contents l).map g) := by
    intro l
    induction l with
    | nil => rfl
    | cons r l ih =>
        show (do return g (h.deref r) :: (← updateList (fun _ a => .ok (g a)) l (h.contents l)))
          = Except.ok _
        rw [ih]
        rfl
  rw [hmap] at hlist
  exact (Except.ok.inj hlist).symm

end Programs

end HwEfat.Lib
