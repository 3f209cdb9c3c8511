/-
  HwEfat.Lib.Lru — least-recently-used caches over an association list.

  A cache is an `AList`: distinct keys with their values, the entry touched last
  in front.  `Lru.get` and `Lru.put` are the two touches; `put` first drops the
  entry at the back when the cache is over its capacity.

  The reference meaning is a HISTORY: the list of all touches, oldest first.
  `recency` orders its distinct keys by their last touch, and

    * `Lru.Tracks` — the cache holds a prefix of that order, each key with the
      value last put under it;
    * `tracks_get` / `tracks_put` — both operations keep it;
    * `Lru.Fills` — the length law a bounded cache follows: the number of
      distinct keys put so far, cut at one above the capacity.
-/
import Mathlib.Data.List.AList
import Mathlib.Data.List.Dedup
import Mathlib.Data.Finset.Card

namespace HwEfat.Lib

/-! ## §1. The recency order of a history. -/

section Recency

variable {K : Type} [DecidableEq K]

/-- Move `k` to the front of a list of distinct keys. -/
def touch (k : K) (l : List K) : List K := k :: l.erase k

/-- The distinct keys of a history (oldest touch first), most recently touched
first.  `List.dedup` keeps the last occurrence of every key. -/
def recency (h : List K) : List K := h.dedup.reverse

/-- One more element comes to the end. -/
theorem dedup_snoc (h : List K) (k : K) :
    (h ++ [k]).dedup = h.dedup.erase k ++ [k] := by
  induction h with
  | nil => simp
  | cons a t ih =>
      rw [List.cons_append, List.dedup_cons, List.dedup_cons, ih]
      by_cases hat : a ∈ t
      · simp [hat]
      · by_cases hak : a = k
        · subst hak
          have hnot : a ∉ t.dedup := fun h => hat (List.mem_dedup.mp h)
          simp [hat, List.erase_of_not_mem hnot]
        · simp [hat, hak]

/-- Erasing from behind, where every element is there once. -/
theorem reverse_erase {l : List K} (hl : l.Nodup) (k : K) :
    (l.erase k).reverse = l.reverse.erase k := by
  rw [hl.erase_eq_filter, (List.nodup_reverse.mpr hl).erase_eq_filter,
      List.filter_reverse]

/-- One more touch moves its key to the front of the recency order. -/
theorem recency_snoc (h : List K) (k : K) :
    recency (h ++ [k]) = touch k (recency h) := by
  unfold recency touch
  rw [dedup_snoc, List.reverse_append, reverse_erase (List.nodup_dedup h)]
  rfl

/-- Touching a key inside the first `n` permutes those `n`. -/
theorem take_touch_of_mem {r : List K} {k : K} {n : Nat} (hk : k ∈ r.take n) :
    (touch k r).take n = touch k (r.take n) := by
  have hlen : 0 < n := by
    rcases Nat.eq_zero_or_pos n with h | h
    · simp [h] at hk
    · exact h
  obtain ⟨m, rfl⟩ : ∃ m, n = m + 1 := ⟨n - 1, by omega⟩
  -- what is erased lies inside the prefix, so the rest stays
  have hr : r.erase k = (r.take (m + 1)).erase k ++ r.drop (m + 1) := by
    conv_lhs => rw [← List.take_append_drop (m + 1) r]
    exact List.erase_append_left _ hk
  have hcut : ((r.take (m + 1)).erase k).length = min (m + 1) r.length - 1 := by
    rw [List.length_erase_of_mem hk, List.length_take]
  unfold touch
  rw [List.take_succ_cons, hr]
  congr 1
  by_cases hm : m + 1 ≤ r.length
  · exact List.take_left' (by omega)
  · rw [List.drop_eq_nil_of_le (by omega), List.append_nil,
        List.take_of_length_le (by omega)]

/-- Touching a key outside the first `n` puts it before any shorter prefix. -/
theorem take_touch_of_not_mem {r : List K} {k : K} {n m : Nat}
    (hk : k ∉ r.take n) (hmn : m ≤ n) :
    (touch k r).take (m + 1) = k :: r.take m := by
  -- what is erased lies behind the first `n`
  have hr : r.erase k = r.take n ++ (r.drop n).erase k := by
    conv_lhs => rw [← List.take_append_drop n r]
    exact List.erase_append_right _ hk
  unfold touch
  rw [List.take_succ_cons, hr]
  congr 1
  by_cases hn : n ≤ r.length
  · rw [List.take_append_of_le_length (by simp; omega), List.take_take,
        Nat.min_eq_left hmn]
  · have hall : r.take n = r := List.take_of_length_le (by omega)
    rw [hall, List.drop_eq_nil_of_le (by omega)]
    simp

end Recency

/-! ## §2. The cache. -/

/-- A cache with entries in recency order. -/
abbrev Lru (K V : Type) : Type := AList (fun _ : K => V)

namespace Lru

variable {K V : Type}

/-- Number of entries. -/
def size (s : Lru K V) : Nat := s.entries.length

/-- As many entries as keys. -/
theorem size_eq_keys (s : Lru K V) : s.size = s.keys.length := by
  simp [size, AList.keys, List.keys]

/-- Drop the entry at the back, the least recently touched one. -/
def dropLast (s : Lru K V) : Lru K V :=
  ⟨s.entries.dropLast, s.nodupKeys.sublist (List.dropLast_sublist _)⟩

/-- Without the last entry, its key is gone. -/
theorem keys_dropLast (s : Lru K V) : (dropLast s).keys = s.keys.dropLast := by
  simp [dropLast, AList.keys, List.keys, List.map_dropLast]

/-- One entry less. -/
theorem size_dropLast (s : Lru K V) : (dropLast s).size = s.size - 1 := by
  simp [size, dropLast]

variable [DecidableEq K]

/-- A key that survives `dropLast` keeps its value. -/
theorem lookup_dropLast {s : Lru K V} {k : K} (hk : k ∈ dropLast s) :
    (dropLast s).lookup k = s.lookup k := by
  obtain ⟨v, hv⟩ := Option.isSome_iff_exists.mp (AList.lookup_isSome.mpr hk)
  have hmem : (⟨k, v⟩ : Sigma fun _ : K => V) ∈ s.entries :=
    List.dropLast_subset _ (AList.mem_lookup_iff.mp hv)
  rw [hv, AList.mem_lookup_iff.mpr hmem]

/-- A hit moves the entry to the front; a miss changes nothing. -/
def get (k : K) (s : Lru K V) : Lru K V :=
  match s.lookup k with
  | none => s
  | some v => s.insert k v

/-- Set `k`: over the capacity, an absent key first evicts the back. -/
def put (cap : Nat) (k : K) (v : V) (s : Lru K V) : Lru K V :=
  if k ∈ s then s.insert k v
  else if cap < s.size then (dropLast s).insert k v
  else s.insert k v

/-- A search for what is not there changes nothing. -/
theorem get_of_not_mem {s : Lru K V} {k : K} (hk : k ∉ s) : get k s = s := by
  simp [get, AList.lookup_eq_none.mpr hk]

/-- `get` changes no value. -/
theorem lookup_get (s : Lru K V) (k k' : K) : (get k s).lookup k' = s.lookup k' := by
  unfold get
  cases hv : s.lookup k with
  | none => rfl
  | some v =>
      by_cases h : k' = k
      · subst h
        rw [AList.lookup_insert, hv]
      · rw [AList.lookup_insert_ne h]

/-- A search changes no key. -/
theorem mem_get {s : Lru K V} {k k' : K} : k' ∈ get k s ↔ k' ∈ s := by
  rw [← AList.lookup_isSome, ← AList.lookup_isSome, lookup_get]

/-- An entry that was put is there. -/
theorem lookup_put_self (cap : Nat) (k : K) (v : V) (s : Lru K V) :
    (put cap k v s).lookup k = some v := by
  unfold put
  split_ifs <;> exact AList.lookup_insert _

/-- Another key keeps its value or is the evicted one. -/
theorem lookup_put_ne (cap : Nat) {k k' : K} (v : V) (s : Lru K V) (h : k' ≠ k) :
    (put cap k v s).lookup k' = s.lookup k' ∨ (put cap k v s).lookup k' = none := by
  unfold put
  split_ifs with h1 h2
  · exact Or.inl (AList.lookup_insert_ne h)
  · rw [AList.lookup_insert_ne h]
    by_cases hk : k' ∈ dropLast s
    · exact Or.inl (lookup_dropLast hk)
    · exact Or.inr (AList.lookup_eq_none.mpr hk)
  · exact Or.inl (AList.lookup_insert_ne h)

/-- The key that setting `k` evicts. -/
def evicted (cap : Nat) (k : K) (s : Lru K V) : Option K :=
  if k ∉ s ∧ cap < s.size then s.keys.getLast? else none

/-- Dropping the back loses the key there and no other. -/
theorem lookup_dropLast_eq (s : Lru K V) (k : K) :
    (dropLast s).lookup k = if s.keys.getLast? = some k then none else s.lookup k := by
  by_cases hk : k ∈ dropLast s
  · -- keys are distinct: one that stays is not the last
    have hlast : s.keys.getLast? ≠ some k := by
      intro hlast
      rw [AList.mem_keys, keys_dropLast] at hk
      have hnodup : (s.keys.dropLast ++ [k]).Nodup := by
        rw [List.dropLast_append_getLast? k hlast]
        exact s.keys_nodup
      exact (List.nodup_append.mp hnodup).2.2 k hk k (List.mem_singleton.mpr rfl) rfl
    rw [if_neg hlast, lookup_dropLast hk]
  · rw [AList.lookup_eq_none.mpr hk]
    split_ifs with hlast
    · rfl
    · symm
      rw [AList.lookup_eq_none, AList.mem_keys]
      intro hmem
      rw [AList.mem_keys, keys_dropLast] at hk
      have hne : s.keys ≠ [] := List.ne_nil_of_mem hmem
      rw [← List.dropLast_append_getLast hne, List.mem_append, List.mem_singleton] at hmem
      rcases hmem with hmem | hmem
      · exact hk hmem
      · exact hlast (by rw [List.getLast?_eq_getLast_of_ne_nil hne, hmem])

/-- **What a `put` leaves at each key.** -/
theorem lookup_put (cap : Nat) (k : K) (v : V) (s : Lru K V) (k' : K) :
    (put cap k v s).lookup k' =
      if k' = k then some v else if evicted cap k s = some k' then none else s.lookup k' := by
  by_cases h : k' = k
  · subst h
    rw [if_pos rfl, lookup_put_self]
  · rw [if_neg h]
    unfold put
    -- A key that is there is only moved to the front; a new one may push out the last.
    by_cases hk : k ∈ s
    · have hev : evicted cap k s = none := if_neg fun hc => hc.1 hk
      rw [if_pos hk, hev, if_neg (by simp)]
      exact AList.lookup_insert_ne h
    · rw [if_neg hk]
      by_cases hcap : cap < s.size
      · have hev : evicted cap k s = s.keys.getLast? := if_pos ⟨hk, hcap⟩
        rw [if_pos hcap, hev, AList.lookup_insert_ne h]
        exact lookup_dropLast_eq s k'
      · have hev : evicted cap k s = none := if_neg fun hc => hcap hc.2
        rw [if_neg hcap, hev, if_neg (by simp)]
        exact AList.lookup_insert_ne h

/-- Nothing else comes in. -/
theorem mem_of_mem_put {cap : Nat} {k k' : K} {v : V} {s : Lru K V}
    (hk : k' ∈ put cap k v s) : k' = k ∨ k' ∈ s := by
  by_cases h : k' = k
  · exact Or.inl h
  · rw [← AList.lookup_isSome] at hk
    rcases lookup_put_ne cap v s h with hl | hl
    · rw [hl] at hk
      exact Or.inr (AList.lookup_isSome.mp hk)
    · simp [hl] at hk

/-- The only key a `put` can drop is the one at the back. -/
theorem dropped_put {cap : Nat} {k k' : K} {v : V} {s : Lru K V}
    (hin : k' ∈ s) (hout : k' ∉ put cap k v s) : s.keys.getLast? = some k' := by
  have hkk : k' ≠ k := by
    intro heq
    subst heq
    exact hout (AList.lookup_isSome.mp (by simp [lookup_put_self]))
  unfold put at hout
  split_ifs at hout with h1 h2
  · exact absurd ((AList.mem_insert s).mpr (Or.inr hin)) hout
  · rw [AList.mem_insert, not_or, AList.mem_keys, keys_dropLast] at hout
    have hne : s.keys ≠ [] := List.ne_nil_of_mem (AList.mem_keys.mp hin)
    have hmem := AList.mem_keys.mp hin
    rw [← List.dropLast_append_getLast hne, List.mem_append, List.mem_singleton] at hmem
    rcases hmem with hmem | hmem
    · exact absurd hmem hout.2
    · rw [List.getLast?_eq_getLast_of_ne_nil hne, hmem]
  · exact absurd ((AList.mem_insert s).mpr (Or.inr hin)) hout

/-- A key is dropped only by a new one, over the capacity. -/
theorem full_of_dropped_put {cap : Nat} {k k' : K} {v : V} {s : Lru K V}
    (hin : k' ∈ s) (hout : k' ∉ put cap k v s) : k ∉ s ∧ cap < s.size := by
  unfold put at hout
  split_ifs at hout with h1 h2
  · exact absurd ((AList.mem_insert s).mpr (Or.inr hin)) hout
  · exact ⟨h1, h2⟩
  · exact absurd ((AList.mem_insert s).mpr (Or.inr hin)) hout

/-- The key that is put is in front. -/
theorem head?_put (cap : Nat) (k : K) (v : V) (s : Lru K V) :
    (put cap k v s).entries.head? = some ⟨k, v⟩ := by
  unfold put
  split_ifs <;> rw [AList.entries_insert] <;> rfl

/-- The entry of the key gets the new value. -/
theorem kreplace_cons_self (k : K) (v b : V) (l : List (Sigma fun _ : K => V)) :
    List.kreplace k v (⟨k, b⟩ :: l) = ⟨k, v⟩ :: l :=
  List.lookmap_cons_some _ _ (if_pos rfl)

/-- The others stay. -/
theorem kreplace_cons_ne {k : K} {e : Sigma fun _ : K => V} (h : k ≠ e.1) (v : V)
    (l : List (Sigma fun _ : K => V)) :
    List.kreplace k v (e :: l) = e :: List.kreplace k v l :=
  List.lookmap_cons_none _ _ (if_neg h)

/-- A replaced entry is erased like the one it replaced. -/
theorem kerase_kreplace (k : K) (v : V) :
    ∀ l : List (Sigma fun _ : K => V), (l.kreplace k v).kerase k = l.kerase k
  | [] => rfl
  | ⟨a, b⟩ :: l => by
      by_cases ha : k = a
      · subst ha
        have drop : ∀ x : V, List.kerase k (⟨k, x⟩ :: l) = l :=
          fun x => List.kerase_cons_eq (β := fun _ => V) (s := ⟨k, x⟩) rfl
        rw [kreplace_cons_self, drop v, drop b]
      · rw [kreplace_cons_ne ha, List.kerase_cons_ne ha, List.kerase_cons_ne ha,
            kerase_kreplace k v l]

/-- Replacing the value of a key the cache holds. -/
theorem lookup_replace_self {s : Lru K V} {k : K} (hk : k ∈ s) (v : V) :
    (s.replace k v).lookup k = some v := by
  have key : ∀ l : List (Sigma fun _ : K => V), k ∈ l.keys →
      (l.kreplace k v).dlookup k = some v := by
    intro l
    induction l with
    | nil => simp
    | cons e l ih =>
        obtain ⟨a, b⟩ := e
        intro hmem
        by_cases ha : k = a
        · subst ha
          rw [kreplace_cons_self, List.dlookup_cons_eq]
        · have hl : k ∈ l.keys := by simpa [ha] using hmem
          rw [kreplace_cons_ne ha, List.dlookup_cons_ne _ _ ha]
          exact ih hl
  exact key s.entries (AList.mem_keys.mp hk)

/-- Replacing leaves the other keys. -/
theorem lookup_replace_ne {k k' : K} (h : k' ≠ k) (v : V) (s : Lru K V) :
    (s.replace k v).lookup k' = s.lookup k' := by
  have skip : ∀ (a : K) (x : V) (l : List (Sigma fun _ : K => V)), k' ≠ a →
      List.dlookup k' (⟨a, x⟩ :: l) = List.dlookup k' l :=
    fun a x l ha => List.dlookup_cons_ne (β := fun _ => V) l ⟨a, x⟩ ha
  have key : ∀ l : List (Sigma fun _ : K => V),
      (l.kreplace k v).dlookup k' = l.dlookup k' := by
    intro l
    -- The entry that is replaced has another key.
    induction l with
    | nil => rfl
    | cons e l ih =>
        obtain ⟨a, b⟩ := e
        by_cases ha : k = a
        · subst ha
          rw [kreplace_cons_self, skip k v l h, skip k b l h]
        · rw [kreplace_cons_ne ha]
          by_cases ha' : k' = a
          · subst ha'
            rw [List.dlookup_cons_eq, List.dlookup_cons_eq]
          · rw [skip a b _ ha', skip a b _ ha', ih]
  exact key s.entries

/-! ## §3. The cache follows its history. -/

/-- The cache `s` is what a history leaves behind: its keys are the first
`s.size` of the recency order of all touches `h`, each with the value `last`
put under it. -/
structure Tracks (s : Lru K V) (h : List K) (last : K → Option V) : Prop where
  keys_eq : s.keys = (recency h).take s.size
  value_eq : ∀ k ∈ s, s.lookup k = last k

/-- An empty cache is the recent part of no history. -/
theorem tracks_empty (last : K → Option V) : Tracks (∅ : Lru K V) [] last where
  keys_eq := by simp [size, recency]
  value_eq := fun k hk => absurd hk (AList.notMem_empty k)

/-- Putting what is there adds nothing. -/
theorem size_touched {s : Lru K V} {k : K} {v : V} (hk : k ∈ s) :
    size (s.insert k v) = s.size := by
  have hpos : 0 < s.keys.length := List.length_pos_of_mem (AList.mem_keys.mp hk)
  rw [size_eq_keys, AList.keys_insert, List.length_cons,
      List.length_erase_of_mem (AList.mem_keys.mp hk), size_eq_keys]
  omega

/-- Putting what is not adds one. -/
theorem size_insert_of_not_mem {s : Lru K V} {k : K} {v : V} (hk : k ∉ s) :
    size (s.insert k v) = s.size + 1 := by
  rw [size, AList.entries_insert_of_notMem hk, List.length_cons, size]

/-- Inserting a key the cache holds is one touch of it. -/
theorem Tracks.insert_of_mem {s : Lru K V} {h : List K} {last : K → Option V}
    (ht : Tracks s h last) {k : K} (hk : k ∈ s) (v : V) :
    Tracks (s.insert k v) (h ++ [k]) (Function.update last k (some v)) where
  keys_eq := by
    have hin : k ∈ (recency h).take s.size := by
      rw [← ht.keys_eq]
      exact AList.mem_keys.mp hk
    rw [size_touched hk, recency_snoc, take_touch_of_mem hin, AList.keys_insert,
        ht.keys_eq, touch]
  value_eq := by
    intro k' hk'
    by_cases hkk : k' = k
    · subst hkk
      rw [AList.lookup_insert, Function.update_self]
    · rw [AList.lookup_insert_ne hkk, Function.update_of_ne hkk]
      exact ht.value_eq k' (((AList.mem_insert s).mp hk').resolve_left hkk)

/-- Inserting an absent key in front of a prefix `s'` of the cache `s` is one
touch of it. -/
theorem Tracks.insert_of_not_mem {s s' : Lru K V} {h : List K} {last : K → Option V}
    (ht : Tracks s h last) {k : K} (hk : k ∉ s) (v : V)
    (hkeys : s'.keys = s.keys.take s'.size) (hle : s'.size ≤ s.size)
    (hval : ∀ k' ∈ s', s'.lookup k' = s.lookup k') :
    Tracks (s'.insert k v) (h ++ [k]) (Function.update last k (some v)) where
  keys_eq := by
    have hout : k ∉ (recency h).take s.size := by
      rw [← ht.keys_eq]
      exact fun hmem => hk (AList.mem_keys.mpr hmem)
    have hks' : k ∉ s'.keys := by
      rw [hkeys]
      exact fun hmem => hk (AList.mem_keys.mpr (List.mem_of_mem_take hmem))
    rw [size_insert_of_not_mem (fun hmem => hks' (AList.mem_keys.mp hmem)),
        recency_snoc, take_touch_of_not_mem hout hle, AList.keys_insert,
        List.erase_of_not_mem hks', hkeys, ht.keys_eq, List.take_take,
        Nat.min_eq_left hle]
  value_eq := by
    intro k' hk'
    by_cases hkk : k' = k
    · subst hkk
      rw [AList.lookup_insert, Function.update_self]
    · have hs' : k' ∈ s' := ((AList.mem_insert s').mp hk').resolve_left hkk
      -- The other keys of `s'` are among those of `s`.
      have hs : k' ∈ s := by
        rw [AList.mem_keys] at hs' ⊢
        rw [hkeys] at hs'
        exact List.mem_of_mem_take hs'
      rw [AList.lookup_insert_ne hkk, Function.update_of_ne hkk, hval k' hs']
      exact ht.value_eq k' hs

/-- **A hit is a touch; a miss is not.** -/
theorem tracks_get {s : Lru K V} {h : List K} {last : K → Option V}
    (ht : Tracks s h last) (k : K) :
    Tracks (get k s) (if k ∈ s then h ++ [k] else h) last := by
  by_cases hk : k ∈ s
  · obtain ⟨v, hv⟩ := Option.isSome_iff_exists.mp (AList.lookup_isSome.mpr hk)
    have hins := ht.insert_of_mem hk v
    have hlast : Function.update last k (some v) = last := by
      rw [Function.update_eq_self_iff, ← hv, ht.value_eq k hk]
    rw [hlast] at hins
    simpa [get, hv, hk] using hins
  · simpa [get_of_not_mem hk, hk] using ht

/-- **Every `put` is a touch**, with or without an eviction. -/
theorem tracks_put {s : Lru K V} {h : List K} {last : K → Option V}
    (ht : Tracks s h last) (cap : Nat) (k : K) (v : V) :
    Tracks (put cap k v s) (h ++ [k]) (Function.update last k (some v)) := by
  unfold put
  split_ifs with hk hfull
  · exact ht.insert_of_mem hk v
  · -- what the eviction leaves is a prefix, shorter by one
    refine ht.insert_of_not_mem hk v ?_ (by rw [size_dropLast]; omega)
      (fun k' hk' => lookup_dropLast hk')
    rw [keys_dropLast, size_dropLast, List.dropLast_eq_take, size_eq_keys]
  · exact ht.insert_of_not_mem hk v (by rw [size_eq_keys, List.take_length]) le_rfl
      (fun _ _ => rfl)

/-! ## §4. How long the cache gets. -/

/-- The length law: the number of distinct keys `d` put so far, cut at one above
the capacity; and below the cut nothing was lost. -/
structure Fills (cap : Nat) (s : Lru K V) (d : Finset K) : Prop where
  size_eq : s.size = min d.card (cap + 1)
  keys_sub : ∀ k ∈ s, k ∈ d

omit [DecidableEq K] in
/-- An empty cache. -/
theorem fills_empty (cap : Nat) : Fills cap (∅ : Lru K V) (∅ : Finset K) where
  size_eq := by simp [size]
  keys_sub := fun k hk => absurd hk (AList.notMem_empty k)

/-- Up to the capacity the cache holds every key put so far. -/
theorem Fills.mem_of_le {cap : Nat} {s : Lru K V} {d : Finset K}
    (hf : Fills cap s d) (hle : s.size ≤ cap) {k : K} (hk : k ∈ d) : k ∈ s := by
  have hsub : s.keys.toFinset ⊆ d := by
    intro x hx
    exact hf.keys_sub x (AList.mem_keys.mpr (List.mem_toFinset.mp hx))
  have hcard : s.keys.toFinset.card = s.size := by
    rw [List.toFinset_card_of_nodup s.keys_nodup, size_eq_keys]
  have heq : s.keys.toFinset = d :=
    Finset.eq_of_subset_of_card_le hsub (by have := hf.size_eq; omega)
  rw [AList.mem_keys, ← List.mem_toFinset, heq]
  exact hk

/-- A search changes no key. -/
theorem fills_get {cap : Nat} {s : Lru K V} {d : Finset K} (hf : Fills cap s d)
    (k : K) : Fills cap (get k s) d where
  size_eq := by
    rw [← hf.size_eq]
    by_cases hk : k ∈ s
    · obtain ⟨v, hv⟩ := Option.isSome_iff_exists.mp (AList.lookup_isSome.mpr hk)
      simpa [get, hv] using size_touched hk
    · rw [get_of_not_mem hk]
  keys_sub := fun k' hk' => hf.keys_sub k' (mem_get.mp hk')

/-- One more key, and the length is cut where there are too many. -/
theorem fills_put {cap : Nat} {s : Lru K V} {d : Finset K} (hf : Fills cap s d)
    (k : K) (v : V) : Fills cap (put cap k v s) (insert k d) where
  size_eq := by
    have hsize := hf.size_eq
    unfold put
    split_ifs with hk hfull
    · rw [size_touched hk, Finset.insert_eq_of_mem (hf.keys_sub k hk), hsize]
    · -- at the cut: one entry goes, one comes
      have hk' : k ∉ dropLast s := by
        rw [AList.mem_keys, keys_dropLast] at *
        exact fun h => hk (List.dropLast_subset _ h)
      have hcard := Finset.card_le_card (Finset.subset_insert k d)
      rw [size_insert_of_not_mem hk', size_dropLast]
      omega
    · -- below it: an absent key was never put
      have hkd : k ∉ d := fun h => hk (hf.mem_of_le (by omega) h)
      rw [size_insert_of_not_mem hk, Finset.card_insert_of_notMem hkd]
      omega
  keys_sub := by
    intro k' hk'
    rcases mem_of_mem_put hk' with rfl | hs
    · exact Finset.mem_insert_self _ _
    · exact Finset.mem_insert_of_mem (hf.keys_sub k' hs)

end Lru

end HwEfat.Lib
