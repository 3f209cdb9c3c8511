/-
  HwEfat.Aicpu.KernelCache.Lru — what a sequence of `GetCache`/`SetCache` calls
  leaves in the cache.

  The reference for a sequence of uses is its HISTORY: `touches` lists the keys
  touched (every `SetCache`, every `GetCache` that hits), oldest first, and
  `lastSet` maps a key to the value of its last `SetCache`.

    * `lru_refinement` — outside a session the list is a prefix of the recency
      order of the history, as long as the length law says; in a session nothing
      is ever lost;
    * `bounded_iff` — the number of entries stays within `capacity_` exactly
      when no more than `capacity_` distinct keys are set: the eviction test
      `capacity_ < size` is made before the insertion, so one entry more fits.
-/
import HwEfat.Aicpu.KernelCache.Invariant

namespace HwEfat.Aicpu

open HwEfat.Lib (Lru recency)

namespace KernelCache

variable {V : Type}

/-! ## §1. The history of a sequence of uses. -/

/-- The keys one use touches: a `GetCache` only when it hits. -/
def touched (c : KernelCache V) : Op V → List UInt64
  | .getCache key => if key ∈ c.kernelCacheIter then [key] else []
  | .setCache key _ => [key]

/-- All touches of a run, oldest first. -/
def touches (c : KernelCache V) : List (Op V) → List UInt64
  | [] => []
  | o :: ops =>
      touched c o ++
        match c.stepOp o with
        | none => []
        | some c' => touches c' ops

/-- Record the value a use sets. -/
def recordSet (last : UInt64 → Option V) : Op V → UInt64 → Option V
  | .getCache _ => last
  | .setCache key value => Function.update last key (some value)

/-- The value of the last `SetCache` of every key. -/
def lastSet (ops : List (Op V)) : UInt64 → Option V :=
  ops.foldl recordSet (fun _ => none)

/-- The keys set by a run. -/
def setKeys : List (Op V) → List UInt64
  | [] => []
  | .getCache _ :: ops => setKeys ops
  | .setCache key _ :: ops => key :: setKeys ops

end KernelCache

namespace LiveCache

open KernelCache

variable {V : Type}

/-! ## §2. Runs of a live cache. -/

/-- One operation on a live cache. -/
def stepOp (c : LiveCache V) : Op V → LiveCache V
  | .getCache key => (c.getCache key).2
  | .setCache key value => c.setCache key value

/-- Operations one after the other. -/
def runOps (c : LiveCache V) (ops : List (Op V)) : LiveCache V := ops.foldl stepOp c

/-- The live cache runs the code. -/
theorem raw_stepOp (c : LiveCache V) (o : Op V) : c.raw.stepOp o = some (c.stepOp o).raw := by
  cases o with
  | getCache key => simp [KernelCache.stepOp, stepOp, raw_getCache]
  | setCache key v => exact raw_setCache c key v

/-- So do several operations. -/
theorem raw_runOps (c : LiveCache V) (ops : List (Op V)) :
    c.raw.runOps ops = some (c.runOps ops).raw := by
  induction ops generalizing c with
  | nil => rfl
  | cons o ops ih =>
      show (c.raw.stepOp o).bind _ = _
      rw [raw_stepOp]
      exact ih (c.stepOp o)

/-- The keys that are touched, from the first operation on. -/
theorem touches_cons (c : LiveCache V) (o : Op V) (ops : List (Op V)) :
    touches c.raw (o :: ops) = touched c.raw o ++ touches (c.stepOp o).raw ops := by
  rw [touches, raw_stepOp]

/-- No operation changes the mode or the capacity. -/
theorem stepOp_mode (c : LiveCache V) (o : Op V) :
    (c.stepOp o).raw.sessFlag = c.raw.sessFlag ∧ (c.stepOp o).raw.capacity = c.raw.capacity := by
  cases o with
  | getCache key => exact getCache_mode c key
  | setCache key v => exact setCache_mode c key v

/-- Nor do several. -/
theorem runOps_mode (c : LiveCache V) (ops : List (Op V)) :
    (c.runOps ops).raw.sessFlag = c.raw.sessFlag
      ∧ (c.runOps ops).raw.capacity = c.raw.capacity := by
  induction ops generalizing c with
  | nil => exact ⟨rfl, rfl⟩
  | cons o ops ih =>
      obtain ⟨hs, hc⟩ := stepOp_mode c o
      obtain ⟨hs', hc'⟩ := ih (c.stepOp o)
      exact ⟨hs'.trans hs, hc'.trans hc⟩

/-! ## §3. Outside a session: the list follows the history. -/

/-- **A search** brings the entry to the front. -/
theorem view_stepOp_getCache {c : LiveCache V} (hs : c.raw.sessFlag = false) (key : UInt64) :
    (c.stepOp (.getCache key)).view = Lru.get key c.view := by
  simp [stepOp, view_getCache, hs]

/-- **Setting an entry** puts it in front, and drops the last one where there are too many. -/
theorem view_stepOp_setCache {c : LiveCache V} (hs : c.raw.sessFlag = false) (key : UInt64)
    (v : V) :
    (c.stepOp (.setCache key v)).view = Lru.put c.raw.capacity.toNat key v c.view := by
  simp [stepOp, view_setCache, hs]

/-- The cache goes on being the most recent part of the history. -/
theorem tracks_stepOp {c : LiveCache V} (hs : c.raw.sessFlag = false) {h : List UInt64}
    {last : UInt64 → Option V} (ht : Lru.Tracks c.view h last) (o : Op V) :
    Lru.Tracks (c.stepOp o).view (h ++ touched c.raw o) (recordSet last o) := by
  cases o with
  | getCache key =>
      have hget := Lru.tracks_get ht key
      rw [view_stepOp_getCache hs]
      simp only [touched, recordSet, ← mem_view]
      -- a miss touches nothing and changes nothing
      split_ifs at hget ⊢
      · exact hget
      · rw [List.append_nil]
        exact hget
  | setCache key v =>
      rw [view_stepOp_setCache hs]
      exact Lru.tracks_put ht c.raw.capacity.toNat key v

/-- The run lemma: a cache that follows a history follows the longer one. -/
theorem tracks_runOps (ops : List (Op V)) :
    ∀ (c : LiveCache V) (h : List UInt64) (last : UInt64 → Option V),
      c.raw.sessFlag = false → Lru.Tracks c.view h last →
      Lru.Tracks (c.runOps ops).view (h ++ touches c.raw ops) (ops.foldl recordSet last) := by
  induction ops with
  | nil =>
      intro c h last _ ht
      rw [touches, List.append_nil]
      exact ht
  | cons o ops ih =>
      intro c h last hs ht
      have hstep := tracks_stepOp hs ht o
      have hs' : (c.stepOp o).raw.sessFlag = false := (stepOp_mode c o).1.trans hs
      rw [touches_cons, ← List.append_assoc]
      exact ih (c.stepOp o) _ _ hs' hstep

/-- The only key a use can drop is the one at the back of the list. -/
theorem dropped_stepOp {c : LiveCache V} (hs : c.raw.sessFlag = false) (o : Op V) {key : UInt64}
    (hin : key ∈ c.view) (hout : key ∉ (c.stepOp o).view) : c.view.keys.getLast? = some key := by
  cases o with
  | getCache k =>
      rw [view_stepOp_getCache hs, Lru.mem_get] at hout
      exact absurd hin hout
  | setCache k v =>
      rw [view_stepOp_setCache hs] at hout
      exact Lru.dropped_put hin hout

/-- A key is dropped only where a new one is set, over the capacity. -/
theorem drops_stepOp {c : LiveCache V} (hs : c.raw.sessFlag = false) (o : Op V) {key : UInt64}
    (hin : key ∈ c.view) (hout : key ∉ (c.stepOp o).view) :
    ∃ k v, o = .setCache k v ∧ k ∉ c.raw.keys ∧ c.raw.capacity.toNat < c.raw.keys.length := by
  cases o with
  | getCache k =>
      rw [view_stepOp_getCache hs, Lru.mem_get] at hout
      exact absurd hin hout
  | setCache k v =>
      rw [view_stepOp_setCache hs] at hout
      obtain ⟨hk, hsize⟩ := Lru.full_of_dropped_put hin hout
      refine ⟨k, v, rfl, ?_, ?_⟩
      · rw [← view_keys]
        exact mt AList.mem_keys.mpr hk
      · rw [← view_keys, ← Lru.size_eq_keys]
        exact hsize

/-- What has been set is in front. -/
theorem front_setCache {c : LiveCache V} (hs : c.raw.sessFlag = false) (key : UInt64) (v : V) :
    (c.setCache key v).raw.getAllKernelCache.head? = some (key, v) := by
  have hview := view_stepOp_setCache hs key v
  have hentries : (c.setCache key v).raw.entries
      = (Lru.put c.raw.capacity.toNat key v c.view).entries := congrArg AList.entries hview
  have hfront : (c.setCache key v).raw.entries.head? = some ⟨key, v⟩ := by
    rw [hentries]
    exact Lru.head?_put _ key v c.view
  unfold KernelCache.entries at hfront
  unfold KernelCache.getAllKernelCache
  rw [List.head?_map, Option.map_eq_some_iff] at hfront ⊢
  obtain ⟨n, hn, heq⟩ := hfront
  refine ⟨n, hn, ?_⟩
  cases heq
  rfl

/-! ## §4. In a session: nothing is lost. -/

/-- In the session mode every key keeps the value it was given last. -/
theorem session_stepOp {c : LiveCache V} (hs : c.raw.sessFlag = true)
    {last : UInt64 → Option V} (ht : ∀ key, c.view.lookup key = last key) (o : Op V)
    (key : UInt64) : (c.stepOp o).view.lookup key = recordSet last o key := by
  cases o with
  | getCache k => exact (lookup_getCache c k key).trans (ht key)
  | setCache k v =>
      show (c.setCache k v).view.lookup key = Function.update last k (some v) key
      by_cases hk : key = k
      · subst hk
        rw [lookup_setCache_self, Function.update_self]
      · rw [Function.update_of_ne hk, ← ht key, view_setCache, if_pos hs]
        split_ifs
        · exact Lru.lookup_replace_ne hk v c.view
        · exact AList.lookup_insert_ne hk

/-- So it does over several operations. -/
theorem session_runOps (ops : List (Op V)) :
    ∀ (c : LiveCache V) (last : UInt64 → Option V), c.raw.sessFlag = true →
      (∀ key, c.view.lookup key = last key) →
      ∀ key, (c.runOps ops).view.lookup key = ops.foldl recordSet last key := by
  induction ops with
  | nil =>
      intro c last _ ht
      exact ht
  | cons o ops ih =>
      intro c last hs ht
      exact ih (c.stepOp o) _ ((stepOp_mode c o).1.trans hs) (session_stepOp hs ht o)

end LiveCache

namespace LiveCache

open KernelCache

variable {V : Type}

/-! ## §5. How many entries a run leaves. -/

/-- How long the cache gets, by the keys that were set. -/
theorem fills_runOps (ops : List (Op V)) :
    ∀ (c : LiveCache V) (d : Finset UInt64), c.raw.sessFlag = false →
      Lru.Fills c.raw.capacity.toNat c.view d →
      Lru.Fills c.raw.capacity.toNat (c.runOps ops).view (d ∪ (setKeys ops).toFinset) := by
  induction ops with
  | nil =>
      intro c d _ hf
      show Lru.Fills c.raw.capacity.toNat c.view (d ∪ (setKeys ([] : List (Op V))).toFinset)
      simpa [setKeys] using hf
  | cons o ops ih =>
      intro c d hs hf
      obtain ⟨hs', hcap⟩ := stepOp_mode c o
      have hrest := ih (c.stepOp o)
      rw [hcap] at hrest
      cases o with
      | getCache key =>
          refine hrest d (hs'.trans hs) ?_
          rw [view_stepOp_getCache hs]
          exact Lru.fills_get hf key
      | setCache key v =>
          have hgrow := hrest (insert key d) (hs'.trans hs) (by
            rw [view_stepOp_setCache hs]
            exact Lru.fills_put hf key v)
          rw [setKeys, List.toFinset_cons, Finset.union_insert, ← Finset.insert_union]
          exact hgrow

/-- **The length law**: from an empty cache, the number of distinct keys set,
cut at `capacity_ + 1`. -/
theorem length_runOps {c : LiveCache V} (hs : c.raw.sessFlag = false) (hempty : c.view = ∅)
    (ops : List (Op V)) :
    (c.runOps ops).raw.kernelCache.length
      = min (setKeys ops).toFinset.card (c.raw.capacity.toNat + 1) := by
  have hf := fills_runOps ops c ∅ hs (by
    rw [hempty]
    exact Lru.fills_empty _)
  rw [← view_size, hf.size_eq, Finset.empty_union]

end LiveCache

namespace KernelCache

variable {V : Type}

/-- A cache initialised in a mode, with a capacity set before its first use. -/
def start (sessFlag : Bool) (capacity : UInt32) : KernelCache V :=
  (new.init sessFlag).2.setCapacity capacity

/-- A cache at the start of a run is in order. -/
theorem repInv_start (sessFlag : Bool) (capacity : UInt32) :
    (start sessFlag capacity : KernelCache V).RepInv :=
  (repInv_init repInv_new sessFlag).of_eq rfl rfl rfl

/-- A key was set if it has a last value. -/
theorem mem_setKeys_iff (key : UInt64) (ops : List (Op V)) :
    key ∈ setKeys ops ↔ (lastSet ops key).isSome := by
  have general : ∀ (ops : List (Op V)) (last : UInt64 → Option V),
      (ops.foldl recordSet last key).isSome ↔ key ∈ setKeys ops ∨ (last key).isSome := by
    intro ops
    induction ops with
    | nil => simp [setKeys]
    | cons o ops ih =>
        intro last
        rw [List.foldl_cons, ih]
        cases o with
        | getCache k => exact Iff.rfl
        | setCache k v =>
            by_cases hk : key = k
            · subst hk
              simp [setKeys, recordSet]
            · simp [setKeys, recordSet, hk]
  simpa [lastSet] using (general ops (fun _ => none)).symm

/-- The keys of two runs, one after the other. -/
theorem setKeys_append (ops ops' : List (Op V)) :
    setKeys (ops ++ ops') = setKeys ops ++ setKeys ops' := by
  induction ops with
  | nil => rfl
  | cons o ops ih =>
      cases o with
      | getCache key => exact ih
      | setCache key v => exact congrArg (key :: ·) ih

theorem setKeys_map (v : V) (keys : List UInt64) :
    setKeys (keys.map fun key => Op.setCache key v) = keys := by
  induction keys with
  | nil => rfl
  | cons key keys ih => exact congrArg (key :: ·) ih

/-- **The cache refines a reference LRU.**  Outside a session the keys of
`kernel_cache_` are the first ones of the recency order of all touches, as many
as the distinct keys set but at most `capacity_ + 1`, each with the value of its
last `SetCache`; `GetCache` returns these values and nothing for another key;
`SetCache` leaves its key in front, with its value; and a key can be dropped
only by the `SetCache` of a key that is not there, with more than `capacity_`
entries, and is the one at the back.  In a session every key set stays, with the
value of its last `SetCache`. -/
theorem lru_refinement (capacity : UInt32) (ops : List (Op V)) :
    (∃ c, (start false capacity).runOps ops = some c
      ∧ c.keys.length = min (setKeys ops).toFinset.card (capacity.toNat + 1)
      ∧ c.keys = (recency (touches (start false capacity) ops)).take c.keys.length
      ∧ (∀ n ∈ c.kernelCache, lastSet ops n.key = some n.value)
      ∧ (∀ key, ∃ c', c.getCache key
          = some (if key ∈ c.keys then lastSet ops key else none, c'))
      ∧ (∀ key v, ∃ c', c.setCache key v = some c'
          ∧ c'.getAllKernelCache.head? = some (key, v))
      ∧ ∀ o c', c.stepOp o = some c' → ∀ key ∈ c.keys, key ∉ c'.keys →
          c.keys.getLast? = some key
          ∧ ∃ k v, o = .setCache k v ∧ k ∉ c.keys ∧ capacity.toNat < c.keys.length)
    ∧ ∃ c, (start true capacity).runOps ops = some c
      ∧ (∀ key, key ∈ c.keys ↔ key ∈ setKeys ops)
      ∧ ∀ key, ∃ c', c.getCache key = some (lastSet ops key, c') := by
  constructor
  · -- the run of the raw cache is that of a live one, which follows its history
    let c₀ : LiveCache V := ⟨start false capacity, repInv_start false capacity⟩
    let c := c₀.runOps ops
    have ht : Lru.Tracks c.view (touches c₀.raw ops) (lastSet ops) :=
      LiveCache.tracks_runOps ops c₀ [] (fun _ => none) rfl (Lru.tracks_empty _)
    have hs : c.raw.sessFlag = false := (LiveCache.runOps_mode c₀ ops).1
    have hcap : c.raw.capacity = capacity := (LiveCache.runOps_mode c₀ ops).2
    refine ⟨c.raw, LiveCache.raw_runOps c₀ ops, ?_, ?_, ?_, ?_, ?_, ?_⟩
    · rw [KernelCache.keys, List.length_map]
      exact LiveCache.length_runOps (c := c₀) rfl rfl ops
    · rw [← LiveCache.view_keys, ← Lru.size_eq_keys]
      exact ht.keys_eq
    · intro n hn
      have hlookup : c.view.lookup n.key = some n.value := c.inv.dlookup_entries hn rfl
      rw [← ht.value_eq n.key (AList.lookup_isSome.mp (by rw [hlookup]; rfl)), hlookup]
    · intro key
      refine ⟨(c.getCache key).2.raw, ?_⟩
      rw [LiveCache.raw_getCache, LiveCache.getCache_found, ← LiveCache.view_keys]
      split_ifs with hk
      · rw [ht.value_eq key (AList.mem_keys.mpr hk)]
      · rw [AList.lookup_eq_none.mpr (mt AList.mem_keys.mp hk)]
    · intro key v
      exact ⟨(c.setCache key v).raw, LiveCache.raw_setCache c key v,
        LiveCache.front_setCache hs key v⟩
    · intro o c' hstep key hin hout
      rw [LiveCache.raw_stepOp, Option.some.injEq] at hstep
      rw [← hstep, ← LiveCache.view_keys, ← AList.mem_keys] at hout
      rw [← LiveCache.view_keys, ← AList.mem_keys] at hin
      refine ⟨?_, ?_⟩
      · rw [← LiveCache.view_keys]
        exact LiveCache.dropped_stepOp hs o hin hout
      · rw [← hcap]
        exact LiveCache.drops_stepOp hs o hin hout
  · -- A session cache forgets nothing, so its contents are what was set last.
    let c₀ : LiveCache V := ⟨start true capacity, repInv_start true capacity⟩
    let c := c₀.runOps ops
    have ht : ∀ key, c.view.lookup key = lastSet ops key :=
      LiveCache.session_runOps ops c₀ (fun _ => none) rfl (fun _ => rfl)
    refine ⟨c.raw, LiveCache.raw_runOps c₀ ops, ?_, ?_⟩
    · intro key
      rw [← LiveCache.view_keys, ← AList.mem_keys, ← AList.lookup_isSome, ht key,
          mem_setKeys_iff]
    · intro key
      refine ⟨(c.getCache key).2.raw, ?_⟩
      rw [LiveCache.raw_getCache, LiveCache.getCache_found, ht key]

/-! ## §6. The capacity bound. -/

/-- A call that may stand before the first `SetCache`. -/
def Call.beforeSet : Call V → Bool
  | .setCapacity _ => true
  | .op (.getCache _) => true
  | _ => false

/-- Such calls leave an empty cache empty. -/
theorem runCalls_beforeSet (calls : List (Call V)) (hcalls : ∀ call ∈ calls, call.beforeSet = true) :
    ∀ c : KernelCache V, c.kernelCache = [] → c.kernelCacheIter = ∅ → c.sessFlag = false →
      ∃ c', c.runCalls calls = some c' ∧ c'.kernelCache = [] ∧ c'.kernelCacheIter = ∅
        ∧ c'.sessFlag = false := by
  induction calls with
  | nil =>
      intro c hlist hiter hs
      exact ⟨c, rfl, hlist, hiter, hs⟩
  | cons call calls ih =>
      intro c hlist hiter hs
      have hcall := hcalls call List.mem_cons_self
      have hrest := ih fun o ho => hcalls o (List.mem_cons_of_mem _ ho)
      show ∃ c', (c.step call).bind _ = some c' ∧ _
      cases call with
      | init sessFlag => cases hcall
      | setCapacity capacity => exact hrest (c.setCapacity capacity) hlist hiter hs
      | op o =>
          cases o with
          | setCache key v => cases hcall
          | getCache key =>
              have hget : c.stepOp (.getCache key) = some c := by
                simp [stepOp, getCache, hiter]
              rw [step, hget]
              exact hrest c hlist hiter hs

/-- **When the capacity bound holds.**  After `Init(false)` and any calls before
the first `SetCache`, the number of entries stays within `capacity_` after every
prefix of a run exactly when the run sets at most `capacity_` distinct keys. -/
theorem bounded_iff (calls : List (Call V)) (hcalls : ∀ call ∈ calls, call.beforeSet = true) :
    ∃ c₀, (new.init false).2.runCalls calls = some c₀
      ∧ ∀ ops : List (Op V),
        (∀ ops', ops' <+: ops →
          ∃ c, c₀.runOps ops' = some c ∧ c.kernelCache.length ≤ c.capacity.toNat)
        ↔ (setKeys ops).toFinset.card ≤ c₀.capacity.toNat := by
  obtain ⟨c₀, hrun, hlist, hiter, hs⟩ :=
    runCalls_beforeSet calls hcalls (new.init false).2 rfl rfl rfl
  obtain ⟨c₁, hrun₁, hinv⟩ := Lib.run_total (fun c call hc => repInv_step hc call) calls
    (new.init false).2 (repInv_init (V := V) repInv_new false)
  obtain rfl : c₁ = c₀ := Option.some.inj (hrun₁.symm.trans hrun)
  let live : LiveCache V := ⟨c₁, hinv⟩
  have hempty : live.view = ∅ := AList.ext (by simp [live, LiveCache.view, entries, hlist])
  have hlen := LiveCache.length_runOps (c := live) hs hempty
  refine ⟨c₁, hrun, fun ops => ⟨?_, ?_⟩⟩
  · intro hbound
    obtain ⟨c, hc, hle⟩ := hbound ops List.prefix_rfl
    obtain rfl : (live.runOps ops).raw = c :=
      Option.some.inj ((LiveCache.raw_runOps live ops).symm.trans hc)
    rw [hlen ops, (LiveCache.runOps_mode live ops).2] at hle
    have : live.raw.capacity.toNat = c₁.capacity.toNat := rfl
    omega
  · intro hcard ops' hprefix
    -- a prefix sets no more keys than the run
    refine ⟨(live.runOps ops').raw, LiveCache.raw_runOps live ops', ?_⟩
    obtain ⟨rest, rfl⟩ := hprefix
    have hsub : (setKeys ops').toFinset ⊆ (setKeys (ops' ++ rest)).toFinset := by
      intro key hkey
      rw [List.mem_toFinset, setKeys_append] at *
      exact List.mem_append_left _ hkey
    have hmono := Finset.card_le_card hsub
    rw [hlen ops', (LiveCache.runOps_mode live ops').2]
    have : live.raw.capacity.toNat = c₁.capacity.toNat := rfl
    omega

/-- The law at a capacity of one: one key fits the bound, a second does not. -/
theorem bounded_iff_capacity_one :
    ∃ c₀, ((new : KernelCache Unit).init false).2.runCalls [.setCapacity 1] = some c₀
      ∧ ∀ ops : List (Op Unit),
        (∀ ops', ops' <+: ops →
          ∃ c, c₀.runOps ops' = some c ∧ c.kernelCache.length ≤ c.capacity.toNat)
        ↔ (setKeys ops).toFinset.card ≤ c₀.capacity.toNat :=
  bounded_iff [.setCapacity 1] (by decide)

/-- With the capacity `Init(false)` sets, 257 distinct keys leave 257 entries. -/
theorem exceeds_capacity :
    ∃ c : KernelCache Unit,
      (new.init false).2.runOps
          (((List.range 257).map UInt64.ofNat).map fun key => .setCache key ()) = some c
      ∧ c.capacity = kMaxLRUCacheNum ∧ c.kernelCache.length = 257 := by
  let live : LiveCache Unit := LiveCache.create false
  let keys : List UInt64 := (List.range 257).map UInt64.ofNat
  let ops : List (Op Unit) := keys.map fun key => .setCache key ()
  refine ⟨(live.runOps ops).raw, LiveCache.raw_runOps live ops, ?_, ?_⟩
  · exact (LiveCache.runOps_mode live ops).2
  · have hnodup : keys.Nodup := by
      refine List.Nodup.map_on ?_ List.nodup_range
      intro a ha b hb hab
      have ha' := List.mem_range.mp ha
      have hb' := List.mem_range.mp hb
      have hnat := congrArg UInt64.toNat hab
      simp only [UInt64.toNat_ofNat'] at hnat
      omega
    rw [LiveCache.length_runOps rfl (LiveCache.view_create false), setKeys_map,
        List.toFinset_card_of_nodup hnodup, List.length_map, List.length_range]
    rfl

end KernelCache

end HwEfat.Aicpu
