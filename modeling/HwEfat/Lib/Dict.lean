/-
  HwEfat.Lib.Dict — dictionaries whose keys are distinct by construction.

  Two dictionaries agree on the keys that a test selects exactly when they select the same
  keys, in whatever order, and hold related values at each (`agree_iff`).
-/
import Mathlib.Data.List.Nodup
import Mathlib.Data.List.Perm.Basic
import HwEfat.Lib.Python

namespace HwEfat.Lib

/-- A dictionary with strings as keys, in the order of insertion. -/
structure Dict (α : Type) where
  entries : PyDict α
  nodup : (entries.map Prod.fst).Nodup

namespace Dict

variable {α β : Type}

/-- `{}` -/
def empty : Dict α := ⟨[], List.nodup_nil⟩

/-- `d.keys()` -/
def keys (d : Dict α) : List String := d.entries.map Prod.fst

/-- `d.get(key)` -/
def get? (d : Dict α) (key : String) : Option α := d.entries.lookup key

/-- `d[key]` -/
def getItem (d : Dict α) (key : String) : Except PyError α := d.entries.getItem key

theorem keys_nodup (d : Dict α) : d.keys.Nodup := d.nodup

/-- Setting a key that is there leaves the keys and their order. -/
theorem map_fst_set_of_isSome {d : PyDict α} {key : String} (a : α)
    (h : (d.lookup key).isSome) : (d.set key a).map Prod.fst = d.map Prod.fst := by
  unfold PyDict.set
  rw [if_pos h, List.map_map]
  apply List.map_congr_left
  intro e _
  by_cases hkey : e.1 = key <;> simp [hkey]

/-- A key can be looked up if it is one of the keys. -/
theorem lookup_isSome_iff {d : PyDict α} {key : String} :
    (d.lookup key).isSome ↔ key ∈ d.map Prod.fst := by
  induction d with
  | nil => simp
  | cons e d ih =>
      rw [List.lookup_cons, List.map_cons, List.mem_cons]
      by_cases hkey : key = e.1
      · simp [hkey]
      · simp [beq_false_of_ne hkey, hkey, ih]

/-- `d[key] = a` -/
def set (d : Dict α) (key : String) (a : α) : Dict α where
  entries := d.entries.set key a
  nodup := by
    by_cases hsome : (d.entries.lookup key).isSome
    · rw [map_fst_set_of_isSome a hsome]
      exact d.nodup
    · unfold PyDict.set
      rw [if_neg hsome, List.map_append]
      rw [lookup_isSome_iff] at hsome
      exact List.nodup_append'.mpr ⟨d.nodup, List.nodup_singleton key, by simpa using hsome⟩

/-- Reading after writing. -/
theorem get?_set (d : Dict α) (key k : String) (a : α) :
    (d.set key a).get? k = if k = key then some a else d.get? k :=
  PyDict.lookup_set d.entries key k a

theorem get?_empty (key : String) : (empty : Dict α).get? key = none := rfl

/-- The keys are those that have a value. -/
theorem mem_keys_iff {d : Dict α} {key : String} : key ∈ d.keys ↔ ∃ a, d.get? key = some a := by
  show key ∈ d.entries.map Prod.fst ↔ _
  rw [← lookup_isSome_iff, Option.isSome_iff_exists]
  rfl

/-- `d[key]` returns the value, where there is one. -/
theorem getItem_eq_ok {d : Dict α} {key : String} {a : α} :
    d.getItem key = .ok a ↔ d.get? key = some a :=
  PyDict.getItem_eq_ok

/-- A new key comes last. -/
theorem keys_set (d : Dict α) (key : String) (a : α) :
    (d.set key a).keys = if key ∈ d.keys then d.keys else d.keys ++ [key] := by
  show (PyDict.set d.entries key a).map Prod.fst = if key ∈ d.entries.map Prod.fst
    then d.entries.map Prod.fst else d.entries.map Prod.fst ++ [key]
  by_cases hsome : (d.entries.lookup key).isSome
  · rw [map_fst_set_of_isSome a hsome, if_pos (lookup_isSome_iff.mp hsome)]
  · rw [if_neg fun hmem => hsome (lookup_isSome_iff.mpr hmem)]
    unfold PyDict.set
    rw [if_neg hsome, List.map_append]
    rfl

/-- An entry is found under its key. -/
theorem get?_of_mem {d : Dict α} {e : String × α} (he : e ∈ d.entries) :
    d.get? e.1 = some e.2 := by
  obtain ⟨entries, hnodup⟩ := d
  show entries.lookup e.1 = some e.2
  replace he : e ∈ entries := he
  induction entries with
  | nil => cases he
  | cons e' entries ih =>
      rw [List.map_cons, List.nodup_cons] at hnodup
      rw [List.lookup_cons]
      rcases List.mem_cons.mp he with rfl | he
      · rw [beq_self_eq_true]
      · have hne : e.1 ≠ e'.1 := by
          intro heq
          exact hnodup.1 (heq ▸ List.mem_map_of_mem he)
        rw [beq_false_of_ne hne]
        exact ih hnodup.2 he

/-- The entries whose keys a test selects, from the keys. -/
theorem filter_entries (d : Dict α) (p : String → Bool) (default : α) :
    d.entries.filter (fun e => p e.1)
      = (d.keys.filter p).map fun key => (key, (d.get? key).getD default) := by
  have hself : ∀ e ∈ d.entries.filter (fun e => p e.1),
      (e.1, (d.get? e.1).getD default) = e := by
    intro e he
    rw [get?_of_mem (List.mem_filter.mp he).1]
    rfl
  show _ = ((d.entries.map Prod.fst).filter p).map _
  rw [List.filter_map, List.map_map]
  refine (List.map_id _).symm.trans (List.map_congr_left fun e he => ?_)
  exact (hself e he).symm

/-- Values are related at a key if it is a key of neither dictionary, or of both with related
values. -/
theorem rel_of_mem {R : α → β → Prop} {d : Dict α} {d' : Dict β} {key : String}
    (h : key ∈ d.keys ∨ key ∈ d'.keys →
      ∃ a b, d.get? key = some a ∧ d'.get? key = some b ∧ R a b) :
    Option.Rel R (d.get? key) (d'.get? key) := by
  by_cases hmem : key ∈ d.keys ∨ key ∈ d'.keys
  · obtain ⟨a, b, ha, hb, hab⟩ := h hmem
    rw [ha, hb]
    exact .some hab
  · rw [not_or, mem_keys_iff, mem_keys_iff, ← Option.ne_none_iff_exists', not_not,
      ← Option.ne_none_iff_exists', not_not] at hmem
    rw [hmem.1, hmem.2]
    exact .none

/-- Two dictionaries have the same selected keys, with related values. -/
def Agree (p : String → Bool) (R : α → β → Prop) (d : Dict α) (d' : Dict β) : Prop :=
  ∀ key, p key → Option.Rel R (d.get? key) (d'.get? key)

/-- Dictionaries that agree have the same selected keys. -/
theorem Agree.mem_keys {p : String → Bool} {R : α → β → Prop} {d : Dict α} {d' : Dict β}
    (h : Agree p R d d') {key : String} (hp : p key) : key ∈ d.keys ↔ key ∈ d'.keys := by
  have hrel := h key hp
  rw [mem_keys_iff, mem_keys_iff]
  generalize d.get? key = x at hrel ⊢
  generalize d'.get? key = y at hrel ⊢
  cases hrel with
  | some hab => simp
  | none => simp

/-- **Agreement in terms of the key lists**: what a program sees that compares the keys as
lists and then looks each of them up. -/
theorem agree_iff {p : String → Bool} {R : α → β → Prop} {d : Dict α} {d' : Dict β} :
    Agree p R d d' ↔ (d.keys.filter p).Perm (d'.keys.filter p) ∧
      ∀ key ∈ d.keys.filter p, ∃ a b, d.get? key = some a ∧ d'.get? key = some b ∧ R a b := by
  constructor
  · intro h
    constructor
    · rw [List.perm_ext_iff_of_nodup (d.keys_nodup.filter p) (d'.keys_nodup.filter p)]
      intro key
      rw [List.mem_filter, List.mem_filter]
      exact and_congr_left fun hp => h.mem_keys hp
    · intro key hkey
      obtain ⟨hmem, hp⟩ := List.mem_filter.mp hkey
      obtain ⟨a, ha⟩ := mem_keys_iff.mp hmem
      have hrel := h key hp
      rw [ha] at hrel
      generalize hb : d'.get? key = y at hrel
      cases hrel with
      | some hab => exact ⟨a, _, ha, rfl, hab⟩
  · intro ⟨hperm, hvalues⟩ key hp
    apply rel_of_mem
    intro hmem
    apply hvalues
    cases hmem with
    | inl hmem => exact List.mem_filter.mpr ⟨hmem, hp⟩
    | inr hmem => exact hperm.mem_iff.mpr (List.mem_filter.mpr ⟨hmem, hp⟩)

end Dict

end HwEfat.Lib
