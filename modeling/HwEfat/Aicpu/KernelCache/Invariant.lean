/-
  HwEfat.Aicpu.KernelCache.Invariant — the list and the iterator map agree.

  `RepInv` is the representation invariant of `KernelCache<T>`: keys and node
  identities are distinct, and the map sends a key to an iterator exactly when a
  live node of that key has that identity.  While `GetCache` and `SetCache` move
  a node the invariant is broken for one key only (`Unlinked`): the node is
  erased first and `push_front` links the key again.

    * `getCache_spec` / `setCache_spec` — each operation is defined on a cache
      with the invariant and keeps it;
    * `representation_invariant` — so it holds after every sequence of calls.

  `LiveCache` then carries the invariant as a field, with total operations.
-/
import Mathlib.Data.List.Nodup
import HwEfat.Lib.Lru
import HwEfat.Aicpu.KernelCache.Def

namespace HwEfat.Aicpu

/-- A node as an association-list entry. -/
def Node.entry {V : Type} (n : Node V) : Sigma fun _ : UInt64 => V := ⟨n.key, n.value⟩

namespace KernelCache

variable {V : Type}

/-! ## §1. The invariant. -/

/-- The map and the list describe the same set of live nodes. -/
structure RepInv (c : KernelCache V) : Prop where
  keys_nodup : c.keys.Nodup
  addrs_nodup : (c.kernelCache.map (·.addr)).Nodup
  addrs_lt : ∀ n ∈ c.kernelCache, n.addr < c.nextAddr
  iter_iff : ∀ (key : UInt64) (it : Nat),
    c.kernelCacheIter[key]? = some it ↔ ∃ n ∈ c.kernelCache, n.key = key ∧ n.addr = it

/-- The invariant away from `key`, whose node is out of the list. -/
structure Unlinked (c : KernelCache V) (key : UInt64) : Prop where
  keys_nodup : c.keys.Nodup
  addrs_nodup : (c.kernelCache.map (·.addr)).Nodup
  addrs_lt : ∀ n ∈ c.kernelCache, n.addr < c.nextAddr
  key_absent : ∀ n ∈ c.kernelCache, n.key ≠ key
  iter_iff : ∀ (k : UInt64) (it : Nat), k ≠ key →
    (c.kernelCacheIter[k]? = some it ↔ ∃ n ∈ c.kernelCache, n.key = k ∧ n.addr = it)

/-- A new cache is in order. -/
theorem repInv_new : RepInv (new : KernelCache V) where
  keys_nodup := List.nodup_nil
  addrs_nodup := List.nodup_nil
  addrs_lt := fun n hn => absurd hn List.not_mem_nil
  iter_iff := by
    intro key it
    simp [new]

/-- The mode and the capacity are no part of the representation. -/
theorem RepInv.of_eq {c c' : KernelCache V} (h : RepInv c)
    (hlist : c'.kernelCache = c.kernelCache)
    (hiter : c'.kernelCacheIter = c.kernelCacheIter)
    (haddr : c'.nextAddr = c.nextAddr) : RepInv c' := by
  obtain ⟨h1, h2, h3, h4⟩ := h
  refine ⟨?_, ?_, ?_, ?_⟩
  · rw [keys, hlist]
    exact h1
  · rw [hlist]
    exact h2
  · rw [hlist, haddr]
    exact h3
  · rw [hlist, hiter]
    exact h4

/-- `Init` leaves it in order. -/
theorem repInv_init {c : KernelCache V} (h : RepInv c) (sessFlag : Bool) :
    RepInv (c.init sessFlag).2 := by
  unfold init initParameter
  split_ifs
  · exact h.of_eq rfl rfl rfl
  · exact h.of_eq rfl rfl rfl

/-- An iterator of the map can be followed, to a node of its key. -/
theorem RepInv.deref_eq {c : KernelCache V} (h : RepInv c) {key : UInt64} {it : Nat}
    (hit : c.kernelCacheIter[key]? = some it) :
    ∃ n ∈ c.kernelCache, c.deref it = some n ∧ n.key = key ∧ n.addr = it := by
  obtain ⟨n, hn, hkey, haddr⟩ := (h.iter_iff key it).mp hit
  have hsome : (c.deref it).isSome := by
    rw [deref, List.find?_isSome]
    exact ⟨n, hn, by simp [haddr]⟩
  obtain ⟨m, hm⟩ := Option.isSome_iff_exists.mp hsome
  have hmem : m ∈ c.kernelCache := List.mem_of_find?_eq_some hm
  have hma : m.addr = it := by simpa using List.find?_some hm
  -- identities are distinct, so the node found is the node of the key
  have hmn : m = n := List.inj_on_of_nodup_map h.addrs_nodup hmem hn (hma.trans haddr.symm)
  subst hmn
  exact ⟨m, hmem, hm, hkey, hma⟩

/-- The keys of the map are the keys of the list. -/
theorem RepInv.mem_iter {c : KernelCache V} (h : RepInv c) (key : UInt64) :
    key ∈ c.kernelCacheIter ↔ key ∈ c.keys := by
  rw [Std.ExtTreeMap.mem_iff_isSome_getElem?, Option.isSome_iff_exists, keys, List.mem_map]
  constructor
  · intro ⟨it, hit⟩
    obtain ⟨n, hn, hkey, -⟩ := (h.iter_iff key it).mp hit
    exact ⟨n, hn, hkey⟩
  · intro ⟨n, hn, hkey⟩
    exact ⟨n.addr, (h.iter_iff key n.addr).mpr ⟨n, hn, hkey, rfl⟩⟩

/-! ## §2. Taking a node out and linking it again. -/

/-- Linking an unlinked key at the front restores the invariant. -/
theorem Unlinked.pushFront {c : KernelCache V} {key : UInt64} (h : Unlinked c key) (v : V) :
    RepInv (c.pushFront key (key, v)) where
  keys_nodup := by
    refine List.nodup_cons.mpr ⟨?_, h.keys_nodup⟩
    intro hmem
    obtain ⟨n, hn, hkey⟩ := List.mem_map.mp hmem
    exact h.key_absent n hn hkey
  addrs_nodup := by
    refine List.nodup_cons.mpr ⟨?_, h.addrs_nodup⟩
    intro hmem
    obtain ⟨n, hn, haddr⟩ := List.mem_map.mp hmem
    -- the new node has an identity no node ever had
    have := h.addrs_lt n hn
    simp only at haddr
    omega
  addrs_lt := by
    intro n hn
    rcases List.mem_cons.mp hn with rfl | hn
    · exact Nat.lt_succ_self _
    · exact Nat.lt_succ_of_lt (h.addrs_lt n hn)
  iter_iff := by
    intro k it
    by_cases hk : k = key
    · subst hk
      simp only [KernelCache.pushFront, Std.ExtTreeMap.getElem?_insert_self, List.mem_cons]
      constructor
      · intro heq
        cases heq
        exact ⟨_, Or.inl rfl, rfl, rfl⟩
      · intro ⟨n, hn, hkey, haddr⟩
        rcases hn with rfl | hn
        · rw [← haddr]
        · exact absurd hkey (h.key_absent n hn)
    · have hcmp : ¬ compare key k = .eq := by
        rw [Std.compare_eq_iff_eq]
        exact Ne.symm hk
      simp only [KernelCache.pushFront, Std.ExtTreeMap.getElem?_insert, if_neg hcmp, List.mem_cons]
      rw [h.iter_iff k it hk]
      constructor
      · intro ⟨n, hn, hrest⟩
        exact ⟨n, Or.inr hn, hrest⟩
      · intro ⟨n, hn, hkey, haddr⟩
        rcases hn with rfl | hn
        · exact absurd hkey.symm hk
        · exact ⟨n, hn, hkey, haddr⟩

/-- A key the map does not know is unlinked already. -/
theorem RepInv.unlinked {c : KernelCache V} (h : RepInv c) {key : UInt64}
    (hnone : c.kernelCacheIter[key]? = none) : Unlinked c key where
  keys_nodup := h.keys_nodup
  addrs_nodup := h.addrs_nodup
  addrs_lt := h.addrs_lt
  key_absent := by
    intro n hn hkey
    have := (h.iter_iff key n.addr).mpr ⟨n, hn, hkey, rfl⟩
    rw [hnone] at this
    exact absurd this (by simp)
  iter_iff := fun k it _ => h.iter_iff k it

/-- Erasing the node of a key unlinks the key. -/
theorem RepInv.erase {c : KernelCache V} (h : RepInv c) {key : UInt64} {it : Nat}
    (hit : c.kernelCacheIter[key]? = some it) : Unlinked (c.erase it) key where
  keys_nodup := h.keys_nodup.sublist (List.filter_sublist.map _)
  addrs_nodup := h.addrs_nodup.sublist (List.filter_sublist.map _)
  addrs_lt := fun n hn => h.addrs_lt n (List.mem_filter.mp hn).1
  key_absent := by
    intro n hn hkey
    obtain ⟨hmem, hne⟩ := List.mem_filter.mp hn
    have hiter := (h.iter_iff key n.addr).mpr ⟨n, hmem, hkey, rfl⟩
    rw [hit] at hiter
    simp [Option.some.inj hiter] at hne
  iter_iff := by
    intro k it' hk
    show c.kernelCacheIter[k]? = some it' ↔ _
    rw [h.iter_iff k it']
    constructor
    · intro ⟨n, hn, hkey, haddr⟩
      refine ⟨n, List.mem_filter.mpr ⟨hn, ?_⟩, hkey, haddr⟩
      -- a node of another key has another identity
      obtain ⟨m, hm, hmkey, hmaddr⟩ := (h.iter_iff key it).mp hit
      have hnm : n.addr ≠ it := by
        intro heq
        have := List.inj_on_of_nodup_map h.addrs_nodup hn hm (heq.trans hmaddr.symm)
        subst this
        exact hk (hkey.symm.trans hmkey)
      simpa using hnm
    · intro ⟨n, hn, hrest⟩
      exact ⟨n, (List.mem_filter.mp hn).1, hrest⟩

/-- A new value changes no key, -/
theorem assign_keys (c : KernelCache V) (it : Nat) (v : V) : (c.assign it v).keys = c.keys := by
  simp only [keys, assign, List.map_map]
  congr 1
  funext n
  simp only [Function.comp]
  split_ifs <;> rfl

/-- and moves no entry. -/
theorem assign_addrs (c : KernelCache V) (it : Nat) (v : V) :
    (c.assign it v).kernelCache.map (·.addr) = c.kernelCache.map (·.addr) := by
  simp only [assign, List.map_map]
  congr 1
  funext n
  simp only [Function.comp]
  split_ifs <;> rfl

/-- Overwriting a value leaves every node in its place. -/
theorem RepInv.assign {c : KernelCache V} (h : RepInv c) (it : Nat) (v : V) :
    RepInv (c.assign it v) where
  keys_nodup := by
    rw [assign_keys]
    exact h.keys_nodup
  addrs_nodup := by
    rw [assign_addrs]
    exact h.addrs_nodup
  addrs_lt := by
    intro n hn
    obtain ⟨m, hm, rfl⟩ := List.mem_map.mp hn
    split_ifs
    · exact h.addrs_lt m hm
    · exact h.addrs_lt m hm
  iter_iff := by
    intro k it'
    show c.kernelCacheIter[k]? = some it' ↔ _
    rw [h.iter_iff k it']
    constructor
    · intro ⟨n, hn, hkey, haddr⟩
      refine ⟨_, List.mem_map.mpr ⟨n, hn, rfl⟩, ?_, ?_⟩
      · split_ifs <;> exact hkey
      · split_ifs <;> exact haddr
    · intro ⟨n, hn, hkey, haddr⟩
      obtain ⟨m, hm, rfl⟩ := List.mem_map.mp hn
      refine ⟨m, hm, ?_, ?_⟩
      · split_ifs at hkey <;> exact hkey
      · split_ifs at haddr <;> exact haddr

/-- `popBack` is defined on a list that is not empty and keeps the invariant. -/
theorem RepInv.popBack {c : KernelCache V} (h : RepInv c) (hpos : 0 < c.kernelCache.length) :
    ∃ c', c.popBack = some c' ∧ RepInv c'
      ∧ c'.kernelCache = c.kernelCache.dropLast
      ∧ c'.sessFlag = c.sessFlag ∧ c'.capacity = c.capacity := by
  have hne : c.kernelCache ≠ [] := List.ne_nil_of_length_pos hpos
  obtain ⟨l, last, hl⟩ : ∃ l last, c.kernelCache = l ++ [last] :=
    ⟨_, _, (List.dropLast_append_getLast hne).symm⟩
  refine ⟨{ c with
      kernelCache := c.kernelCache.dropLast
      kernelCacheIter := c.kernelCacheIter.erase last.key }, ?_, ?_, rfl, rfl, rfl⟩
  · simp [KernelCache.popBack, hl]
  have hkeys := h.keys_nodup
  rw [keys, hl, List.map_append, List.nodup_append] at hkeys
  -- the key erased from the map is the key of no other node
  have hother : ∀ n ∈ l, n.key ≠ last.key := by
    intro n hn
    exact hkeys.2.2 _ (List.mem_map_of_mem hn) _ (by simp)
  refine ⟨?_, ?_, ?_, ?_⟩
  · exact h.keys_nodup.sublist ((List.dropLast_sublist _).map _)
  · exact h.addrs_nodup.sublist ((List.dropLast_sublist _).map _)
  · exact fun n hn => h.addrs_lt n (List.dropLast_subset _ hn)
  · intro k it
    show (c.kernelCacheIter.erase last.key)[k]? = some it ↔ ∃ n ∈ c.kernelCache.dropLast, _
    rw [hl, List.dropLast_concat]
    by_cases hk : last.key = k
    · subst hk
      rw [Std.ExtTreeMap.getElem?_erase_self]
      constructor
      · intro h
        cases h
      · intro ⟨n, hn, hkey, _⟩
        exact absurd hkey (hother n hn)
    · rw [Std.ExtTreeMap.getElem?_erase, if_neg (by rwa [Std.compare_eq_iff_eq]),
          h.iter_iff k it, hl]
      constructor
      · intro ⟨n, hn, hkey, haddr⟩
        rcases List.mem_append.mp hn with hn | hn
        · exact ⟨n, hn, hkey, haddr⟩
        · rw [List.mem_singleton.mp hn] at hkey
          exact absurd hkey hk
      · intro ⟨n, hn, hrest⟩
        exact ⟨n, List.mem_append_left _ hn, hrest⟩

/-! ## §3. The entries the cache stands for. -/

/-- The list without its identities. -/
def entries (c : KernelCache V) : List (Sigma fun _ : UInt64 => V) :=
  c.kernelCache.map Node.entry

theorem keys_entries (c : KernelCache V) : c.entries.keys = c.keys := by
  simp [entries, keys, List.keys, Node.entry]

/-- Dropping one identity is dropping its key. -/
theorem entries_filter {it : Nat} {key : UInt64} :
    ∀ l : List (Node V), (l.map (·.key)).Nodup →
      (∀ n ∈ l, n.addr = it ↔ n.key = key) →
      (l.filter (fun n => n.addr != it)).map Node.entry = (l.map Node.entry).kerase key
  | [], _, _ => rfl
  | n :: l, hnd, hiff => by
      obtain ⟨hn, hl⟩ := List.nodup_cons.mp hnd
      have hrest : ∀ m ∈ l, m.addr = it ↔ m.key = key :=
        fun m hm => hiff m (List.mem_cons_of_mem _ hm)
      have ih := entries_filter l hl hrest
      by_cases hkey : n.key = key
      · have haddr : n.addr = it := (hiff n List.mem_cons_self).mpr hkey
        have habsent : key ∉ (l.map Node.entry).keys := by
          simpa [List.keys, Node.entry, ← hkey] using hn
        rw [List.filter_cons_of_neg (by simp [haddr]), ih,
            List.kerase_of_notMem_keys habsent, List.map_cons,
            List.kerase_cons_eq (by simp [Node.entry, hkey])]
      · have haddr : n.addr ≠ it := fun h => hkey ((hiff n List.mem_cons_self).mp h)
        rw [List.filter_cons_of_pos (by simpa using haddr), List.map_cons, ih, List.map_cons,
            List.kerase_cons_ne (by simpa [Node.entry] using Ne.symm hkey)]

/-- Overwriting one identity is replacing the value of its key. -/
theorem entries_assign {it : Nat} {key : UInt64} (v : V) :
    ∀ l : List (Node V), (l.map (·.key)).Nodup →
      (∀ n ∈ l, n.addr = it ↔ n.key = key) →
      (l.map (fun n => if n.addr = it then { n with value := v } else n)).map Node.entry
        = (l.map Node.entry).kreplace key v
  | [], _, _ => rfl
  | n :: l, hnd, hiff => by
      obtain ⟨hn, hl⟩ := List.nodup_cons.mp hnd
      have hrest : ∀ m ∈ l, m.addr = it ↔ m.key = key :=
        fun m hm => hiff m (List.mem_cons_of_mem _ hm)
      have ih := entries_assign v l hl hrest
      simp only [List.map_cons]
      by_cases hkey : n.key = key
      · have haddr : n.addr = it := (hiff n List.mem_cons_self).mpr hkey
        have habsent : key ∉ (l.map Node.entry).keys := by
          simpa [List.keys, Node.entry, ← hkey] using hn
        rw [if_pos haddr, ih, List.kreplace_of_forall_not _ _
              (fun b hb => habsent (List.mem_keys_of_mem hb))]
        subst hkey
        exact (Lib.Lru.kreplace_cons_self n.key v n.value _).symm
      · have haddr : n.addr ≠ it := fun h => hkey ((hiff n List.mem_cons_self).mp h)
        rw [if_neg haddr, ih]
        exact (Lib.Lru.kreplace_cons_ne (Ne.symm hkey) v _).symm

/-- In a cache with the invariant, an iterator of the map names the key it is
stored under. -/
theorem RepInv.addr_iff {c : KernelCache V} (h : RepInv c) {key : UInt64} {it : Nat}
    (hit : c.kernelCacheIter[key]? = some it) :
    ∀ n ∈ c.kernelCache, n.addr = it ↔ n.key = key := by
  obtain ⟨m, hm, -, hmkey, hmaddr⟩ := h.deref_eq hit
  intro n hn
  constructor
  · intro haddr
    rw [List.inj_on_of_nodup_map h.addrs_nodup hn hm (haddr.trans hmaddr.symm), hmkey]
  · intro hkey
    rw [List.inj_on_of_nodup_map h.keys_nodup hn hm (hkey.trans hmkey.symm), hmaddr]

/-! ## §4. The operations keep the invariant. -/

/-- The value found by following the iterator of a key. -/
theorem RepInv.dlookup_entries {c : KernelCache V} (h : RepInv c) {key : UInt64} {n : Node V}
    (hn : n ∈ c.kernelCache) (hkey : n.key = key) : c.entries.dlookup key = some n.value := by
  have hnd : c.entries.NodupKeys := by
    rw [List.NodupKeys, keys_entries]
    exact h.keys_nodup
  refine List.mem_dlookup hnd (List.mem_map.mpr ⟨n, hn, ?_⟩)
  subst hkey
  rfl

/-- A key that is not in the map is in no entry. -/
theorem RepInv.dlookup_none {c : KernelCache V} (h : RepInv c) {key : UInt64}
    (hnone : c.kernelCacheIter[key]? = none) : c.entries.dlookup key = none := by
  rw [List.dlookup_eq_none, keys_entries, ← h.mem_iter]
  rw [Std.ExtTreeMap.mem_iff_isSome_getElem?, hnone]
  exact Bool.false_ne_true

/-- **`GetCache` on a cache with the invariant**: it finds what the entries hold
and, outside a session, moves a hit to the front. -/
theorem getCache_spec {c : KernelCache V} (h : RepInv c) (key : UInt64) :
    ∃ c', c.getCache key = some (c.entries.dlookup key, c') ∧ RepInv c'
      ∧ c'.sessFlag = c.sessFlag ∧ c'.capacity = c.capacity
      ∧ c'.entries = match c.entries.dlookup key with
          | none => c.entries
          | some v => if c.sessFlag then c.entries else c.entries.kinsert key v := by
  unfold getCache
  cases hit : c.kernelCacheIter[key]? with
  | none =>
      rw [h.dlookup_none hit]
      exact ⟨c, rfl, h, rfl, rfl, rfl⟩
  | some it =>
      obtain ⟨n, hn, hderef, hkey, haddr⟩ := h.deref_eq hit
      rw [h.dlookup_entries hn hkey]
      simp only [hderef, Option.map_some]
      by_cases hs : c.sessFlag = true
      · simp only [hs, if_true]
        exact ⟨c, rfl, h, hs, rfl, rfl⟩
      · simp only [Bool.not_eq_true] at hs
        simp only [hs, Bool.false_eq_true, if_false]
        -- erased and pushed to the front: the node is a new one of the same key
        refine ⟨_, rfl, ?_, hs, rfl, ?_⟩
        · rw [hkey]
          exact (h.erase hit).pushFront n.value
        · show Node.entry ⟨c.nextAddr, n.key, n.value⟩
              :: (c.kernelCache.filter (fun m => m.addr != it)).map Node.entry = _
          rw [entries_filter _ h.keys_nodup (h.addr_iff hit), List.kinsert_def, hkey]
          rfl

/-- `SetCache` on a key that is there: its node is written, and moved to the front unless the
cache has the session flag. -/
theorem setCache_hit {c : KernelCache V} (h : RepInv c) {key : UInt64} {it : Nat}
    (hit : c.kernelCacheIter[key]? = some it) (v : V) :
    key ∈ c.entries.keys ∧ ∃ c', c.setCache key v = some c' ∧ RepInv c'
      ∧ c'.sessFlag = c.sessFlag ∧ c'.capacity = c.capacity
      ∧ c'.entries =
          if c.sessFlag then c.entries.kreplace key v else c.entries.kinsert key v := by
  obtain ⟨n, hn, hderef, hkey, haddr⟩ := h.deref_eq hit
  have hmem : key ∈ c.entries.keys := by
    rw [keys_entries, ← h.mem_iter, Std.ExtTreeMap.mem_iff_isSome_getElem?, hit]
    rfl
  have hassign := entries_assign v c.kernelCache h.keys_nodup (h.addr_iff hit)
  refine ⟨hmem, ?_⟩
  unfold setCache
  simp only [hit, hderef, Option.map_some]
  by_cases hs : c.sessFlag = true
  · simp only [hs, if_true]
    exact ⟨_, rfl, h.assign it v, hs, rfl, hassign⟩
  · simp only [Bool.not_eq_true] at hs
    simp only [hs, Bool.false_eq_true, if_false]
    -- written, erased and pushed to the front as a new node of the same key
    refine ⟨_, rfl, ?_, hs, rfl, ?_⟩
    · rw [hkey]
      exact ((h.assign it v).erase hit).pushFront v
    · have hassigned := h.assign it v
      show Node.entry ⟨c.nextAddr, n.key, v⟩
          :: ((c.assign it v).kernelCache.filter (fun m => m.addr != it)).map Node.entry = _
      rw [entries_filter _ hassigned.keys_nodup (hassigned.addr_iff hit), List.kinsert_def,
          hkey]
      show (⟨key, v⟩ : Sigma fun _ : UInt64 => V) :: (c.assign it v).entries.kerase key = _
      rw [show (c.assign it v).entries = c.entries.kreplace key v from hassign,
          Lib.Lru.kerase_kreplace]

/-- `SetCache` on a key that is not there: a node is pushed to the front, and the last one is
dropped before that if there are too many. -/
theorem setCache_miss {c : KernelCache V} (h : RepInv c) {key : UInt64}
    (hit : c.kernelCacheIter[key]? = none) (v : V) :
    key ∉ c.entries.keys ∧ ∃ c', c.setCache key v = some c' ∧ RepInv c'
      ∧ c'.sessFlag = c.sessFlag ∧ c'.capacity = c.capacity
      ∧ c'.entries =
          if c.capacity.toNat < c.entries.length ∧ c.sessFlag = false then
            c.entries.dropLast.kinsert key v
          else c.entries.kinsert key v := by
  have hlen : c.entries.length = c.kernelCache.length := by simp [entries]
  have hout : key ∉ c.entries.keys := by
    rw [← List.dlookup_eq_none]
    exact h.dlookup_none hit
  refine ⟨hout, ?_⟩
  unfold setCache
  simp only [hit, hlen]
  by_cases hfull : c.capacity.toNat < c.kernelCache.length ∧ c.sessFlag = false
  · -- the back is popped first; the key was not there and still is not
    obtain ⟨c', hpop, hinv, hlist, hsess, hcap⟩ := h.popBack (by omega)
    have hentries : c'.entries = c.entries.dropLast := by
      simp [entries, hlist, List.map_dropLast]
    have hout' : key ∉ c'.entries.keys := by
      rw [hentries]
      exact fun hk => hout ((List.dropLast_sublist _).map _ |>.subset hk)
    have hnone : c'.kernelCacheIter[key]? = none := by
      rw [keys_entries, ← hinv.mem_iter] at hout'
      exact Std.ExtTreeMap.getElem?_eq_none hout'
    simp only [if_pos hfull, hpop, Option.map_some]
    refine ⟨_, rfl, (hinv.unlinked hnone).pushFront v, hsess, hcap, ?_⟩
    rw [← hentries, List.kinsert_def, List.kerase_of_notMem_keys hout']
    rfl
  · simp only [if_neg hfull]
    refine ⟨_, rfl, (h.unlinked hit).pushFront v, rfl, rfl, ?_⟩
    rw [List.kinsert_def, List.kerase_of_notMem_keys hout]
    rfl

/-- **`SetCache` on a cache with the invariant.** -/
theorem setCache_spec {c : KernelCache V} (h : RepInv c) (key : UInt64) (v : V) :
    ∃ c', c.setCache key v = some c' ∧ RepInv c'
      ∧ c'.sessFlag = c.sessFlag ∧ c'.capacity = c.capacity
      ∧ c'.entries =
          if key ∈ c.entries.keys then
            if c.sessFlag then c.entries.kreplace key v else c.entries.kinsert key v
          else if c.capacity.toNat < c.entries.length ∧ c.sessFlag = false then
            c.entries.dropLast.kinsert key v
          else c.entries.kinsert key v := by
  cases hit : c.kernelCacheIter[key]? with
  | some it =>
      obtain ⟨hmem, hset⟩ := setCache_hit h hit v
      simp only [if_pos hmem]
      exact hset
  | none =>
      obtain ⟨hout, hset⟩ := setCache_miss h hit v
      simp only [if_neg hout]
      exact hset

/-- **Every operation** returns and leaves the cache in order. -/
theorem repInv_stepOp {c : KernelCache V} (h : RepInv c) (o : Op V) :
    ∃ c', c.stepOp o = some c' ∧ RepInv c' := by
  cases o with
  | getCache key =>
      obtain ⟨c', hget, hinv, -⟩ := getCache_spec h key
      exact ⟨c', by simp [stepOp, hget], hinv⟩
  | setCache key v =>
      obtain ⟨c', hset, hinv, -⟩ := setCache_spec h key v
      exact ⟨c', hset, hinv⟩

/-- **Every call**, too. -/
theorem repInv_step {c : KernelCache V} (h : RepInv c) (call : Call V) :
    ∃ c', c.step call = some c' ∧ RepInv c' := by
  cases call with
  | init sessFlag => exact ⟨_, rfl, repInv_init h sessFlag⟩
  | setCapacity capacity => exact ⟨_, rfl, h.of_eq rfl rfl rfl⟩
  | op o => exact repInv_stepOp h o

/-- **The representation invariant after every sequence of calls**: no call
follows a dead iterator, the keys of the list are pairwise distinct, the map has
exactly these keys, and the iterator stored under a key designates a live node
of that key. -/
theorem representation_invariant (calls : List (Call V)) :
    ∃ c, (new : KernelCache V).runCalls calls = some c
      ∧ c.keys.Nodup
      ∧ (∀ key, key ∈ c.kernelCacheIter ↔ key ∈ c.keys)
      ∧ ∀ key it, c.kernelCacheIter[key]? = some it →
          ∃ n ∈ c.kernelCache, c.deref it = some n ∧ n.key = key := by
  obtain ⟨c, hrun, hinv⟩ :=
    Lib.run_total (fun c call hc => repInv_step hc call) calls new repInv_new
  refine ⟨c, hrun, hinv.keys_nodup, hinv.mem_iter, ?_⟩
  intro key it hit
  obtain ⟨n, hn, hderef, hkey, -⟩ := hinv.deref_eq hit
  exact ⟨n, hn, hderef, hkey⟩

end KernelCache

/-- A cache whose two structures agree. -/
structure LiveCache (V : Type) where
  raw : KernelCache V
  inv : raw.RepInv

namespace LiveCache

variable {V : Type}

/-- The cache as an association list, front entry first. -/
def view (c : LiveCache V) : Lib.Lru UInt64 V :=
  ⟨c.raw.entries, by
    rw [List.NodupKeys, KernelCache.keys_entries]
    exact c.inv.keys_nodup⟩

theorem view_keys (c : LiveCache V) : c.view.keys = c.raw.keys :=
  KernelCache.keys_entries c.raw

/-- The view is as long as the list of entries. -/
theorem view_size (c : LiveCache V) : Lib.Lru.size c.view = c.raw.kernelCache.length := by
  simp [Lib.Lru.size, view, KernelCache.entries]

/-- A key is in the view if it is in the map. -/
theorem mem_view (c : LiveCache V) (key : UInt64) :
    key ∈ c.view ↔ key ∈ c.raw.kernelCacheIter := by
  rw [c.inv.mem_iter, ← view_keys, AList.mem_keys]

/-- `GetAllKernelCache` lists what a lookup finds. -/
theorem mem_getAllKernelCache (c : LiveCache V) {key : UInt64} {v : V} :
    (key, v) ∈ c.raw.getAllKernelCache ↔ c.view.lookup key = some v := by
  show _ ↔ v ∈ c.view.lookup key
  rw [AList.mem_lookup_iff]
  show (key, v) ∈ c.raw.kernelCache.map _ ↔
    (⟨key, v⟩ : Sigma fun _ : UInt64 => V) ∈ c.raw.kernelCache.map Node.entry
  rw [List.mem_map, List.mem_map]
  constructor
  · intro ⟨n, hn, heq⟩
    cases heq
    exact ⟨n, hn, rfl⟩
  · intro ⟨n, hn, heq⟩
    cases heq
    exact ⟨n, hn, rfl⟩

/-- `GetCache`. -/
def getCache (c : LiveCache V) (key : UInt64) : Option V × LiveCache V :=
  have hspec := KernelCache.getCache_spec c.inv key
  let r := (c.raw.getCache key).get (by
    obtain ⟨c', hget, -⟩ := hspec
    simp [hget])
  (r.1, ⟨r.2, by
    obtain ⟨c', hget, hinv, -⟩ := hspec
    simpa [r, hget] using hinv⟩)

/-- `SetCache`. -/
def setCache (c : LiveCache V) (key : UInt64) (v : V) : LiveCache V :=
  have hspec := KernelCache.setCache_spec c.inv key v
  ⟨(c.raw.setCache key v).get (by
    obtain ⟨c', hset, -⟩ := hspec
    simp [hset]), by
    obtain ⟨c', hset, hinv, -⟩ := hspec
    simpa [hset] using hinv⟩

/-- A cache just constructed and initialised. -/
def create (sessFlag : Bool) : LiveCache V :=
  ⟨(KernelCache.new.init sessFlag).2, KernelCache.repInv_init KernelCache.repInv_new sessFlag⟩

/-- The live cache runs the code: searching, -/
theorem raw_getCache (c : LiveCache V) (key : UInt64) :
    c.raw.getCache key = some ((c.getCache key).1, (c.getCache key).2.raw) := by
  simp [getCache]

/-- and setting. -/
theorem raw_setCache (c : LiveCache V) (key : UInt64) (v : V) :
    c.raw.setCache key v = some (c.setCache key v).raw := by
  simp [setCache]

/-- A search finds what the view has. -/
theorem getCache_found (c : LiveCache V) (key : UInt64) :
    (c.getCache key).1 = c.view.lookup key := by
  obtain ⟨c', hget, -⟩ := KernelCache.getCache_spec c.inv key
  rw [raw_getCache, Option.some.injEq, Prod.mk.injEq] at hget
  exact hget.1

/-- A search changes neither the mode nor the capacity. -/
theorem getCache_mode (c : LiveCache V) (key : UInt64) :
    (c.getCache key).2.raw.sessFlag = c.raw.sessFlag
      ∧ (c.getCache key).2.raw.capacity = c.raw.capacity := by
  obtain ⟨c', hget, -, hsess, hcap, -⟩ := KernelCache.getCache_spec c.inv key
  rw [raw_getCache, Option.some.injEq, Prod.mk.injEq] at hget
  rw [hget.2]
  exact ⟨hsess, hcap⟩

/-- Nor does setting an entry. -/
theorem setCache_mode (c : LiveCache V) (key : UInt64) (v : V) :
    (c.setCache key v).raw.sessFlag = c.raw.sessFlag
      ∧ (c.setCache key v).raw.capacity = c.raw.capacity := by
  obtain ⟨c', hset, -, hsess, hcap, -⟩ := KernelCache.setCache_spec c.inv key v
  rw [raw_setCache, Option.some.injEq] at hset
  rw [hset]
  exact ⟨hsess, hcap⟩

/-- **`GetCache` refines the reference cache**: a lookup that touches outside a
session. -/
theorem view_getCache (c : LiveCache V) (key : UInt64) :
    (c.getCache key).2.view = if c.raw.sessFlag then c.view else Lib.Lru.get key c.view := by
  obtain ⟨c', hget, hinv, -, -, hentries⟩ := KernelCache.getCache_spec c.inv key
  rw [raw_getCache, Option.some.injEq, Prod.mk.injEq] at hget
  have hlookup : c.view.lookup key = c.raw.entries.dlookup key := rfl
  apply AList.ext
  show (c.getCache key).2.raw.entries = _
  rw [hget.2, hentries, Lib.Lru.get, hlookup]
  cases c.raw.entries.dlookup key with
  | none => split_ifs <;> rfl
  | some v => split_ifs <;> rfl

/-- **`SetCache` refines the reference cache**: a `put`, or in a session an
update in place that never evicts. -/
theorem view_setCache (c : LiveCache V) (key : UInt64) (v : V) :
    (c.setCache key v).view =
      if c.raw.sessFlag then
        if key ∈ c.view then c.view.replace key v else c.view.insert key v
      else Lib.Lru.put c.raw.capacity.toNat key v c.view := by
  obtain ⟨c', hset, hinv, -, -, hentries⟩ := KernelCache.setCache_spec c.inv key v
  rw [raw_setCache, Option.some.injEq] at hset
  have hmem : key ∈ c.view ↔ key ∈ c.raw.entries.keys := Iff.rfl
  have hsize : Lib.Lru.size c.view = c.raw.entries.length := rfl
  apply AList.ext
  show (c.setCache key v).raw.entries = _
  rw [hset, hentries, Lib.Lru.put, hsize]
  simp only [hmem]
  cases c.raw.sessFlag <;> simp <;> split_ifs <;> rfl

/-- A search changes the order only. -/
theorem lookup_getCache (c : LiveCache V) (key k : UInt64) :
    (c.getCache key).2.view.lookup k = c.view.lookup k := by
  rw [view_getCache]
  split_ifs
  · rfl
  · exact Lib.Lru.lookup_get c.view key k

/-- **An entry that was set is there**, with its value. -/
theorem lookup_setCache_self (c : LiveCache V) (key : UInt64) (v : V) :
    (c.setCache key v).view.lookup key = some v := by
  rw [view_setCache]
  split_ifs with hs hk
  · exact Lib.Lru.lookup_replace_self hk v
  · exact AList.lookup_insert _
  · exact Lib.Lru.lookup_put_self _ key v c.view

/-- `SetCache` leaves another key alone or evicts it. -/
theorem lookup_setCache_ne (c : LiveCache V) {key k : UInt64} (h : k ≠ key) (v : V) :
    (c.setCache key v).view.lookup k = c.view.lookup k
      ∨ (c.setCache key v).view.lookup k = none := by
  rw [view_setCache]
  split_ifs with hs hk
  · exact Or.inl (Lib.Lru.lookup_replace_ne h v c.view)
  · exact Or.inl (AList.lookup_insert_ne h)
  · exact Lib.Lru.lookup_put_ne _ v c.view h

/-- The key that `SetCache` evicts. -/
def evicted (c : LiveCache V) (key : UInt64) : Option UInt64 :=
  if c.raw.sessFlag then none else Lib.Lru.evicted c.raw.capacity.toNat key c.view

/-- **What `SetCache` leaves at each key.** -/
theorem lookup_setCache (c : LiveCache V) (key : UInt64) (v : V) (k : UInt64) :
    (c.setCache key v).view.lookup k =
      if k = key then some v else if c.evicted key = some k then none else c.view.lookup k := by
  by_cases h : k = key
  · subst h
    rw [if_pos rfl, lookup_setCache_self]
  · rw [view_setCache, if_neg h]
    unfold evicted
    by_cases hs : c.raw.sessFlag = true
    · -- a session never evicts
      simp only [if_pos hs, reduceCtorEq, if_false]
      split_ifs with hk
      · exact Lib.Lru.lookup_replace_ne h v c.view
      · exact AList.lookup_insert_ne h
    · simp only [if_neg hs]
      rw [Lib.Lru.lookup_put, if_neg h]

/-- A new cache has no entries. -/
theorem view_create (sessFlag : Bool) : (create sessFlag : LiveCache V).view = ∅ := by
  cases sessFlag <;> rfl

end LiveCache

end HwEfat.Aicpu
