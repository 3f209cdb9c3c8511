/-
  HwEfat.Main.RtsApi.Storages — the two storages of kernels over a run of
  `register_device_binary_kernel`, `register_function` and `unregister_device_binary_kernel`.

  The first and the last change the storages only after the library has succeeded.
  `register_function` makes its entry before, and for any handle.

  Main result: `storages_sound_iff`.
-/
import HwEfat.Main.RtsApi.Contexts

namespace HwEfat.Main

open HwEfat.Lib (PyError PyM foldl_induct forall_place_nil forall_place_cons)

namespace RtsApi

/-! ## §1. Runs. -/

/-- A call; to a kernel that is registered the library gives the handle after `given`, which
may have been given before. -/
inductive StorageCall where
  | registerDeviceBinaryKernel (kernelPath : String) (magic : Option String) (given : Nat)
  | registerFunction (handle : Nat) (kernelName : String)
  | unregisterDeviceBinaryKernel (handle : Nat)

def runStorageCall (env : RtsEnv) : StorageCall → Rts Unit
  | .registerDeviceBinaryKernel kernelPath magic given => do
      PyM.modify fun api => { api with handles := given }
      let _ ← registerDeviceBinaryKernel env kernelPath magic
      return ()
  | .registerFunction handle kernelName => do
      let _ ← registerFunction env handle kernelName
      return ()
  | .unregisterDeviceBinaryKernel handle => unregisterDeviceBinaryKernel env handle

/-- The object after some calls; a caller may go on after one that raises. -/
def storageRun (env : RtsEnv) (calls : List StorageCall) (s : Api) : Api :=
  calls.foldl (fun s call => (runStorageCall env call s).2) s

/-- The keys of a storage. -/
def handlesOf {α : Type} (storage : List (Nat × α)) : List Nat := storage.map Prod.fst

/-- Functions are stored for kernels that are stored. -/
def NamesOfBinaries (s : Api) : Prop :=
  ∀ handle ∈ handlesOf s.kernelNameStorage, handle ∈ handlesOf s.kernelBinaryStorage

/-- Both storages are as they were. -/
def SameStorages (s s' : Api) : Prop :=
  s'.kernelBinaryStorage = s.kernelBinaryStorage ∧ s'.kernelNameStorage = s.kernelNameStorage

/-- What a call should do. -/
structure StorageSound (s : Api) (r : Except PyError Unit) (s' : Api) : Prop where
  names : NamesOfBinaries s'
  raised : (∃ e, r = .error e) → SameStorages s s'

/-- A function is registered for a kernel that has one already, or for a kernel that is stored,
and then the library succeeds. -/
def StorageAllowed (env : RtsEnv) (s : Api) : StorageCall → Prop
  | .registerFunction handle _ =>
      handle ∈ handlesOf s.kernelNameStorage ∨
        handle ∈ handlesOf s.kernelBinaryStorage ∧ env.code s.calls.length = 0
  | _ => True

/-! ## §2. Keys. -/

section Keys

variable {α : Type} {storage : List (Nat × α)} {handle k : Nat}

theorem lookup_isNone_iff : (storage.lookup handle).isNone = true ↔ handle ∉ handlesOf storage := by
  rw [Option.isNone_iff_eq_none, List.lookup_eq_none_iff]
  unfold handlesOf
  rw [List.mem_map]
  constructor
  · rintro h ⟨e, he, rfl⟩
    simpa using h e he
  · intro h e he
    rw [bne_iff_ne]
    rintro rfl
    exact h ⟨e, he, rfl⟩

theorem handlesOf_setHandle (a : α) :
    k ∈ handlesOf (setHandle storage handle a) ↔ k ∈ handlesOf storage ∨ k = handle := by
  unfold setHandle
  split
  · next hsome =>
      have hmem : handle ∈ handlesOf storage := by
        by_contra hmem
        rw [Option.isSome_iff_ne_none] at hsome
        exact hsome (Option.isNone_iff_eq_none.mp (lookup_isNone_iff.mpr hmem))
      have hkeys : handlesOf (storage.map fun e => if e.1 = handle then (handle, a) else e)
          = handlesOf storage := by
        unfold handlesOf
        rw [List.map_map]
        apply List.map_congr_left
        intro e _
        show (if e.1 = handle then (handle, a) else e).1 = e.1
        split
        · next heq => exact heq.symm
        · rfl
      rw [hkeys]
      exact ⟨Or.inl, fun h => h.elim id fun heq => heq ▸ hmem⟩
  · unfold handlesOf
    rw [List.map_append, List.mem_append, List.map_singleton, List.mem_singleton]

theorem handlesOf_filter :
    k ∈ handlesOf (storage.filter fun e => e.1 ≠ handle) ↔ k ∈ handlesOf storage ∧ k ≠ handle := by
  unfold handlesOf
  simp only [List.mem_map, List.mem_filter, ne_eq, decide_not, Bool.not_eq_true',
    decide_eq_false_iff_not]
  constructor
  · rintro ⟨e, ⟨he, hne⟩, rfl⟩
    exact ⟨⟨e, he, rfl⟩, hne⟩
  · rintro ⟨⟨e, he, rfl⟩, hne⟩
    exact ⟨e, ⟨he, hne⟩, rfl⟩

end Keys

/-! ## §3. One call. -/

/-- What a call can do to the storages. -/
inductive StorageStep (env : RtsEnv) (s : Api) :
    StorageCall → Except PyError Unit → Api → Prop where
  /-- A call that raises before it has changed anything. -/
  | refused (call : StorageCall) (e : PyError) (s' : Api) (hsame : SameStorages s s')
      (hnames : ∀ handle kernelName, call = .registerFunction handle kernelName →
        handle ∈ handlesOf s.kernelNameStorage) :
      StorageStep env s call (.error e) s'
  | registered (kernelPath : String) (magic : Option String) (given : Nat) (s' : Api)
      (hbinaries : ∀ k, k ∈ handlesOf s'.kernelBinaryStorage ↔
        k ∈ handlesOf s.kernelBinaryStorage ∨ k = given + 1)
      (hnames : s'.kernelNameStorage = s.kernelNameStorage) :
      StorageStep env s (.registerDeviceBinaryKernel kernelPath magic given) (.ok ()) s'
  | unregistered (handle : Nat) (s' : Api)
      (hbinaries : ∀ k, k ∈ handlesOf s'.kernelBinaryStorage ↔
        k ∈ handlesOf s.kernelBinaryStorage ∧ k ≠ handle)
      (hnames : ∀ k, k ∈ handlesOf s'.kernelNameStorage ↔
        k ∈ handlesOf s.kernelNameStorage ∧ k ≠ handle) :
      StorageStep env s (.unregisterDeviceBinaryKernel handle) (.ok ()) s'
  | named (handle : Nat) (kernelName : String) (s' : Api) (hcode : env.code s.calls.length = 0)
      (hbinaries : s'.kernelBinaryStorage = s.kernelBinaryStorage)
      (hnames : ∀ k, k ∈ handlesOf s'.kernelNameStorage ↔
        k ∈ handlesOf s.kernelNameStorage ∨ k = handle) :
      StorageStep env s (.registerFunction handle kernelName) (.ok ()) s'
  /-- The new entry stays when the library fails. -/
  | entryLeft (handle : Nat) (kernelName : String) (e : PyError) (s' : Api)
      (hcode : env.code s.calls.length ≠ 0) (hnew : handle ∉ handlesOf s.kernelNameStorage)
      (hentry : handle ∈ handlesOf s'.kernelNameStorage) :
      StorageStep env s (.registerFunction handle kernelName) (.error e) s'

section Steps

variable {env : RtsEnv} {s s' : Api} {call : StorageCall} {r : Except PyError Unit}

theorem registerKernel_step (env : RtsEnv) (s : Api) (kernelPath : String) (magic : Option String)
    (given : Nat) :
    StorageStep env s (.registerDeviceBinaryKernel kernelPath magic given)
      (runStorageCall env (.registerDeviceBinaryKernel kernelPath magic given) s).1
      (runStorageCall env (.registerDeviceBinaryKernel kernelPath magic given) s).2 := by
  -- An error on the way leaves both storages, though the handle may have been taken.
  have hrefused (e : PyError) (s' : Api) (hsame : SameStorages s s') :
      StorageStep env s (.registerDeviceBinaryKernel kernelPath magic given) (.error e) s' :=
    .refused _ e s' hsame fun _ _ h => nomatch h
  have hrun : runStorageCall env (.registerDeviceBinaryKernel kernelPath magic given) s
      = (do let _ ← registerDeviceBinaryKernel env kernelPath magic; return () : Rts Unit)
        { s with handles := given } := rfl
  rw [hrun, PyM.bind_apply]
  unfold registerDeviceBinaryKernel
  cases hkernel : env.readFile kernelPath with
  | error e => exact hrefused e _ ⟨rfl, rfl⟩
  | ok kernel =>
      cases hmagic : magicOf magic with
      | error e =>
          simp only [PyM.bind_apply, PyM.lift_apply]
          exact hrefused e _ ⟨rfl, rfl⟩
      | ok n =>
          simp only [PyM.bind_apply, PyM.lift_apply, PyM.read_apply, newHandle, PyM.modify,
            PyM.pure_apply]
          rcases callChecked_cases env (.rtDevBinaryRegister (given + 1)) ""
              { s with handles := given + 1 } with ⟨_, hcall⟩ | ⟨_, e, _, hcall⟩
          · rw [hcall]
            exact .registered kernelPath magic given _ (fun _ => handlesOf_setHandle kernel) rfl
          · rw [hcall]
            exact hrefused e _ ⟨rfl, rfl⟩

theorem unregisterKernel_step (env : RtsEnv) (s : Api) (handle : Nat) :
    StorageStep env s (.unregisterDeviceBinaryKernel handle)
      (runStorageCall env (.unregisterDeviceBinaryKernel handle) s).1
      (runStorageCall env (.unregisterDeviceBinaryKernel handle) s).2 := by
  have hrefused (e : PyError) (s' : Api) (hsame : SameStorages s s') :
      StorageStep env s (.unregisterDeviceBinaryKernel handle) (.error e) s' :=
    .refused _ e s' hsame fun _ _ h => nomatch h
  have hrun : runStorageCall env (.unregisterDeviceBinaryKernel handle) s
      = unregisterDeviceBinaryKernel env handle s := rfl
  rw [hrun]
  unfold unregisterDeviceBinaryKernel
  rw [PyM.bind_apply]
  rcases callChecked_cases env (.rtDevBinaryUnRegister handle) "" s with
    ⟨_, hcall⟩ | ⟨_, e, _, hcall⟩
  · rw [hcall]
    by_cases hnone : (s.kernelBinaryStorage.lookup handle).isNone = true
    · -- A handle that is not stored: the library has unregistered it, and `del` raises.
      simp only [called, PyM.bind_apply, PyM.read_apply, hnone, if_true, PyM.lift_apply]
      exact hrefused _ _ ⟨rfl, rfl⟩
    · simp only [called, PyM.bind_apply, PyM.read_apply, hnone, Bool.false_eq_true, if_false,
        PyM.modify]
      exact .unregistered handle _ (fun _ => handlesOf_filter) fun _ => handlesOf_filter
  · rw [hcall]
    exact hrefused e _ ⟨rfl, rfl⟩

/-- The rest of `register_function`, from an object that has an entry for the handle. -/
theorem registerFunction_step (env : RtsEnv) (s : Api) (handle : Nat) (kernelName : String) :
    StorageStep env s (.registerFunction handle kernelName)
      (runStorageCall env (.registerFunction handle kernelName) s).1
      (runStorageCall env (.registerFunction handle kernelName) s).2 := by
  have hrun : runStorageCall env (.registerFunction handle kernelName) s
      = (do let _ ← registerFunction env handle kernelName; return () : Rts Unit) s := rfl
  rw [hrun, PyM.bind_apply]
  unfold registerFunction
  -- The entry of the handle is made before the call, and stays if that is refused.
  by_cases hnew : (s.kernelNameStorage.lookup handle).isNone = true
  · simp only [PyM.bind_apply, PyM.read_apply, hnew, if_true, PyM.modify]
    rcases callChecked_cases env (.rtFunctionRegister handle kernelName)
        (", kernel_name is: " ++ kernelName)
        { s with kernelNameStorage := setHandle s.kernelNameStorage handle [] } with
      ⟨hcode, hcall⟩ | ⟨hcode, e, _, hcall⟩
    · rw [hcall]
      refine .named handle kernelName _ hcode rfl fun k => ?_
      exact (handlesOf_setHandle _).trans
        ((or_congr_left (handlesOf_setHandle [])).trans
          ⟨fun h => h.elim id Or.inr, fun h => Or.inl h⟩)
    · rw [hcall]
      exact .entryLeft handle kernelName e _ hcode (lookup_isNone_iff.mp hnew)
        ((handlesOf_setHandle []).mpr (Or.inr rfl))
  · simp only [PyM.bind_apply, PyM.read_apply, hnew, Bool.false_eq_true, if_false,
      PyM.pure_apply, PyM.modify]
    have hold : handle ∈ handlesOf s.kernelNameStorage := by
      by_contra hold
      exact hnew (lookup_isNone_iff.mpr hold)
    rcases callChecked_cases env (.rtFunctionRegister handle kernelName)
        (", kernel_name is: " ++ kernelName) s with ⟨hcode, hcall⟩ | ⟨_, e, _, hcall⟩
    · rw [hcall]
      exact .named handle kernelName _ hcode rfl fun k => handlesOf_setHandle _
    · rw [hcall]
      refine .refused _ e _ ⟨rfl, rfl⟩ fun handle' kernelName' h => ?_
      cases h
      exact hold

/-- **Every call is one of these steps.** -/
theorem storageStep (env : RtsEnv) (s : Api) (call : StorageCall) :
    StorageStep env s call (runStorageCall env call s).1 (runStorageCall env call s).2 := by
  cases call with
  | registerDeviceBinaryKernel kernelPath magic given =>
      exact registerKernel_step env s kernelPath magic given
  | registerFunction handle kernelName => exact registerFunction_step env s handle kernelName
  | unregisterDeviceBinaryKernel handle => exact unregisterKernel_step env s handle

/-- **An allowed call does what it should.** -/
theorem StorageStep.sound (h : StorageStep env s call r s') (hs : NamesOfBinaries s)
    (hallowed : StorageAllowed env s call) : StorageSound s r s' := by
  cases h with
  | refused call e s' hsame hnames =>
      refine ⟨?_, fun _ => hsame⟩
      unfold NamesOfBinaries
      rw [hsame.1, hsame.2]
      exact hs
  | registered kernelPath magic given s' hbinaries hnames =>
      refine ⟨fun k hk => ?_, fun ⟨_, h⟩ => nomatch h⟩
      rw [hnames] at hk
      exact (hbinaries k).mpr (Or.inl (hs k hk))
  | unregistered handle s' hbinaries hnames =>
      refine ⟨fun k hk => ?_, fun ⟨_, h⟩ => nomatch h⟩
      obtain ⟨hk, hne⟩ := (hnames k).mp hk
      exact (hbinaries k).mpr ⟨hs k hk, hne⟩
  | named handle kernelName s' hcode hbinaries hnames =>
      refine ⟨fun k hk => ?_, fun ⟨_, h⟩ => nomatch h⟩
      rw [hbinaries]
      rcases (hnames k).mp hk with hk | rfl
      · exact hs k hk
      · exact hallowed.elim (hs k) And.left
  | entryLeft handle kernelName e s' hcode hnew hentry =>
      exact absurd hallowed fun h => h.elim hnew fun h => hcode h.2

/-- **A call that does what it should was allowed.** -/
theorem StorageStep.allowed (h : StorageStep env s call r s') (hsound : StorageSound s r s') :
    StorageAllowed env s call := by
  cases h with
  | refused call e s' hsame hnames =>
      cases call with
      | registerFunction handle kernelName => exact Or.inl (hnames handle kernelName rfl)
      | registerDeviceBinaryKernel => trivial
      | unregisterDeviceBinaryKernel => trivial
  | registered => trivial
  | unregistered => trivial
  | named handle kernelName s' hcode hbinaries hnames =>
      have hstored := hsound.names handle ((hnames handle).mpr (Or.inr rfl))
      rw [hbinaries] at hstored
      exact Or.inr ⟨hstored, hcode⟩
  | entryLeft handle kernelName e s' hcode hnew hentry =>
      -- The storage of names would have to be as it was.
      have hsame := (hsound.raised ⟨e, rfl⟩).2
      rw [hsame] at hentry
      exact absurd hentry hnew

end Steps

/-! ## §4. Runs of calls. -/

section Runs

variable {env : RtsEnv} {s : Api} {calls : List StorageCall}

/-- **A run of allowed calls** keeps names for stored kernels only. -/
theorem storageRun_names (hs : NamesOfBinaries s) (hallowed : ∀ before call after,
    calls = before ++ call :: after → StorageAllowed env (storageRun env before s) call) :
    NamesOfBinaries (storageRun env calls s) :=
  foldl_induct hs fun before call after hcalls hbefore =>
    ((storageStep env _ call).sound hbefore (hallowed before call after hcalls)).names

end Runs

/-- **All calls of a run do what they should exactly if all of them were allowed**, from an
object without names of functions, such as a new one. -/
theorem storages_sound_iff (env : RtsEnv) (calls : List StorageCall) (s : Api)
    (hnames : s.kernelNameStorage = []) :
    (∀ before call after, calls = before ++ call :: after →
        StorageSound (storageRun env before s) (runStorageCall env call (storageRun env before s)).1
          (runStorageCall env call (storageRun env before s)).2) ↔
      ∀ before call after, calls = before ++ call :: after →
        StorageAllowed env (storageRun env before s) call := by
  have hs : NamesOfBinaries s := by
    unfold NamesOfBinaries
    rw [hnames]
    exact fun _ h => nomatch h
  constructor
  · intro h before call after hcalls
    exact (storageStep env _ call).allowed (h before call after hcalls)
  · intro h before call after hcalls
    have hbefore : NamesOfBinaries (storageRun env before s) := by
      refine storageRun_names hs fun before' call' after' hbefore => ?_
      refine h before' call' (after' ++ call :: after) ?_
      rw [hcalls, hbefore, List.append_assoc, List.cons_append]
    exact (storageStep env _ call).sound hbefore (h before call after hcalls)

/-- A device on which every call succeeds, with kernels in the files. -/
def willingWithFiles : RtsEnv := { willing with readFile := fun _ => .ok [0x7F] }

/-- Two kernels, of which the first one has two functions and is unregistered at last. -/
def twoKernels : List StorageCall :=
  [.registerDeviceBinaryKernel "add.o" none 0, .registerFunction 1 "add",
    .registerFunction 1 "add_2", .registerDeviceBinaryKernel "sub.o" none 1,
    .registerFunction 2 "sub", .unregisterDeviceBinaryKernel 1]

theorem storages_sound_iff_two :
    handlesOf (storageRun willingWithFiles twoKernels {}).kernelBinaryStorage = [2] ∧
      handlesOf (storageRun willingWithFiles twoKernels {}).kernelNameStorage = [2] ∧
      ∀ before call after, twoKernels = before ++ call :: after →
        StorageSound (storageRun willingWithFiles before {})
          (runStorageCall willingWithFiles call (storageRun willingWithFiles before {})).1
          (runStorageCall willingWithFiles call (storageRun willingWithFiles before {})).2 := by
  refine ⟨by decide, by decide, (storages_sound_iff willingWithFiles twoKernels {} rfl).mpr ?_⟩
  refine forall_place_cons.mpr ⟨trivial, ?_⟩
  refine forall_place_cons.mpr ⟨Or.inr (by decide), ?_⟩
  -- The second function of the kernel finds an entry.
  refine forall_place_cons.mpr ⟨Or.inl (by decide), ?_⟩
  refine forall_place_cons.mpr ⟨trivial, ?_⟩
  refine forall_place_cons.mpr ⟨Or.inr (by decide), ?_⟩
  exact forall_place_cons.mpr ⟨trivial, forall_place_nil⟩

/-- A device on which every call fails. -/
def unwilling : RtsEnv := { willing with code := fun _ => 0x07010001 }

/-- A function for a kernel that was never registered is stored, and the entry stays when the
library refuses it. -/
theorem function_without_kernel :
    (runStorageCall willing (.registerFunction 1 "add") {}).1 = .ok () ∧
      ¬ NamesOfBinaries (runStorageCall willing (.registerFunction 1 "add") {}).2 ∧
      (∃ e, (runStorageCall unwilling (.registerFunction 1 "add") {}).1 = .error e) ∧
      ¬ SameStorages {} (runStorageCall unwilling (.registerFunction 1 "add") {}).2 := by
  refine ⟨rfl, fun h => ?_, ⟨_, rfl⟩, fun h => ?_⟩
  · exact absurd (h 1 (by decide)) (by decide)
  · exact absurd h.2 (by decide)

end RtsApi

end HwEfat.Main
