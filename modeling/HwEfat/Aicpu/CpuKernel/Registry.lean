/-
  HwEfat.Aicpu.CpuKernel.Registry — the creators of `CpuKernelRegister`, over runs of its methods.

  Kernels are registered by static objects, whose constructors run in an order that is not given,
  and looked up while kernels run.  Every method looks at `creatorMap_` once, under `g_mutex`, so
  any threads that call them give a list of calls.

  Main results: `registry_runs` — the first registration of a type is the one that counts;
  `replies_order_free` — the order of registrations of different types does not matter.
-/
import Mathlib.Data.List.Dedup
import HwEfat.Aicpu.CpuKernel.Register
import HwEfat.Lib.Text

namespace HwEfat.Aicpu

variable {AttrValue : Type}

namespace CpuKernelRegister

open HwEfat.Lib (sorted)

/-! ## §1. The methods. -/

/-- `creatorMap_`, with the kernels that the creators make. -/
abbrev CreatorMap (AttrValue : Type) : Type := Std.TreeMap String (Kernel AttrValue)

/-- A call of a method. -/
inductive Call (AttrValue : Type) where
  | register (type : String) (kernel : Kernel AttrValue)
  | getCpuKernel (opType : String)
  | getAllRegisteredOpTypes
  | runCpuKernel (ctx : CpuKernelContext AttrValue)
  | runCpuKernelAsync (ctx : CpuKernelContext AttrValue) (waitType : UInt8) (waitId : UInt32)

/-- What a call returns. -/
inductive Reply (AttrValue : Type) where
  | registered
  | kernel (kernel : Option (Kernel AttrValue))
  | opTypes (types : List String)
  | ran (ret : UInt32) (ctx : CpuKernelContext AttrValue)

/-- `Register`: a type that is registered already stays as it is. -/
def register (creatorMap : CreatorMap AttrValue) (type : String) (kernel : Kernel AttrValue) :
    CreatorMap AttrValue :=
  if type ∈ creatorMap then creatorMap else creatorMap.insert type kernel

/-- The process that a kernel runs in, given `SetThreadLocalCtx`. -/
def runtimeOf (setThreadLocalCtx : Option (ContextKey → String → Bool))
    (find : String → Option (Kernel AttrValue)) : Runtime AttrValue where
  creatorMap := find
  setThreadLocalCtx := setThreadLocalCtx

section Calls

variable (setThreadLocalCtx : Option (ContextKey → String → Bool))

/-- What a call returns, given what `GetCpuKernel` and `GetAllRegisteredOpTypes` find. -/
def replyOf (find : String → Option (Kernel AttrValue)) (types : List String) :
    Call AttrValue → Reply AttrValue
  | .register _ _ => .registered
  | .getCpuKernel opType => .kernel (find opType)
  | .getAllRegisteredOpTypes => .opTypes types
  | .runCpuKernel ctx =>
      let out := CpuKernelRegister.runCpuKernel (runtimeOf setThreadLocalCtx find) ctx
      .ran out.1 out.2
  | .runCpuKernelAsync ctx waitType waitId =>
      let out := CpuKernelRegister.runCpuKernelAsync (runtimeOf setThreadLocalCtx find) ctx
        waitType waitId
      .ran out.1 out.2

/-- What a call leaves. -/
def next (creatorMap : CreatorMap AttrValue) : Call AttrValue → CreatorMap AttrValue
  | .register type kernel => register creatorMap type kernel
  | _ => creatorMap

/-- The replies to a run of calls. -/
def runCalls (creatorMap : CreatorMap AttrValue) : List (Call AttrValue) → List (Reply AttrValue)
  | [] => []
  | call :: calls =>
      replyOf setThreadLocalCtx (creatorMap[·]?) creatorMap.keys call
        :: runCalls (next creatorMap call) calls

end Calls

/-! ## §2. What the calls before say. -/

/-- What a call registers a type with. -/
def Call.registers (type : String) : Call AttrValue → Option (Kernel AttrValue)
  | .register t kernel => if t = type then some kernel else none
  | _ => none

/-- The type that a call registers. -/
def Call.type? : Call AttrValue → Option String
  | .register type _ => some type
  | _ => none

/-- The first registration of a type. -/
def firstOf (calls : List (Call AttrValue)) (type : String) : Option (Kernel AttrValue) :=
  calls.findSome? (Call.registers type)

/-- The types that are registered, in order. -/
def typesOf (calls : List (Call AttrValue)) : List String :=
  sorted (calls.filterMap Call.type?).dedup

/-- **What a call returns**, from the calls before it. -/
def replyAfter (setThreadLocalCtx : Option (ContextKey → String → Bool))
    (calls : List (Call AttrValue)) : Call AttrValue → Reply AttrValue :=
  replyOf setThreadLocalCtx (firstOf calls) (typesOf calls)

/-! ## §3. Runs. -/

section Runs

variable {setThreadLocalCtx : Option (ContextKey → String → Bool)}
  {creatorMap : CreatorMap AttrValue} {calls before before' : List (Call AttrValue)}
  {call : Call AttrValue} {type : String}

/-- Registering adds a kernel where there is none. -/
theorem getElem?_register (kernel : Kernel AttrValue) (t : String) :
    (register creatorMap type kernel)[t]?
      = (creatorMap[t]?).or (if type = t then some kernel else none) := by
  unfold register
  by_cases hmem : type ∈ creatorMap
  · rw [if_pos hmem]
    by_cases ht : type = t
    · subst ht
      rw [Std.TreeMap.mem_iff_isSome_getElem?, Option.isSome_iff_exists] at hmem
      obtain ⟨kernel', hkernel'⟩ := hmem
      rw [hkernel']
      rfl
    · rw [if_neg ht, Option.or_none]
  · rw [if_neg hmem, Std.TreeMap.getElem?_insert]
    by_cases ht : type = t
    · subst ht
      rw [Std.TreeMap.mem_iff_isSome_getElem?, Option.not_isSome_iff_eq_none] at hmem
      rw [if_pos Std.ReflCmp.compare_self, hmem, if_pos rfl]
      rfl
    · rw [if_neg ht, Option.or_none, if_neg]
      rw [compare_eq_iff_eq]
      exact ht

/-- **A step**: what was found before is still found, and else what is registered now. -/
theorem getElem?_next (call : Call AttrValue) (t : String) :
    (next creatorMap call)[t]? = (creatorMap[t]?).or (call.registers t) := by
  cases call with
  | register type kernel => exact getElem?_register kernel t
  | getCpuKernel opType => exact Option.or_none.symm
  | getAllRegisteredOpTypes => exact Option.or_none.symm
  | runCpuKernel ctx => exact Option.or_none.symm
  | runCpuKernelAsync ctx waitType waitId => exact Option.or_none.symm

/-- The first kernel of a type stays the first. -/
theorem firstOf_snoc : firstOf (before ++ [call]) type
    = (firstOf before type).or (call.registers type) := by
  unfold firstOf
  rw [List.findSome?_append, List.findSome?_singleton]

/-- The calls before left the map as it is. -/
def After (before : List (Call AttrValue)) (creatorMap : CreatorMap AttrValue) : Prop :=
  ∀ t : String, creatorMap[t]? = firstOf before t

theorem after_nil : After ([] : List (Call AttrValue)) ∅ := fun _ =>
  Std.TreeMap.getElem?_emptyc

/-- The map after one more call. -/
theorem After.snoc (h : After before creatorMap) (call : Call AttrValue) :
    After (before ++ [call]) (next creatorMap call) := by
  intro t
  rw [getElem?_next, h t, firstOf_snoc]

/-- A type has a kernel if it was registered at all. -/
theorem firstOf_isSome : (firstOf before type).isSome = true
    ↔ type ∈ before.filterMap Call.type? := by
  unfold firstOf
  rw [List.findSome?_isSome_iff, List.mem_filterMap]
  refine exists_congr fun call => and_congr_right fun _ => ?_
  cases call with
  | register t kernel => simp [Call.registers, Call.type?]
  | getCpuKernel opType => simp [Call.registers, Call.type?]
  | getAllRegisteredOpTypes => simp [Call.registers, Call.type?]
  | runCpuKernel ctx => simp [Call.registers, Call.type?]
  | runCpuKernelAsync ctx waitType waitId => simp [Call.registers, Call.type?]

/-- The keys are the types, in order. -/
theorem After.keys (h : After before creatorMap) : creatorMap.keys = typesOf before := by
  have hlt : creatorMap.keys.Pairwise (· < ·) := by
    refine (Std.TreeMap.ordered_keys (t := creatorMap)).imp ?_
    intro a b hcompare
    exact compareOfLessAndEq_eq_lt.mp hcompare
  have hsorted : sorted creatorMap.keys = creatorMap.keys :=
    (hlt.imp le_of_lt).insertionSort_eq
  rw [← hsorted]
  unfold typesOf
  rw [HwEfat.Lib.sorted_eq_sorted_iff,
    List.perm_ext_iff_of_nodup (hlt.imp ne_of_lt) (List.nodup_dedup _)]
  intro t
  rw [Std.TreeMap.mem_keys, Std.TreeMap.mem_iff_isSome_getElem?, h t, firstOf_isSome,
    List.mem_dedup]

/-- What is found is what the calls before say. -/
theorem After.replyOf_eq (h : After before creatorMap) (call : Call AttrValue) :
    replyOf setThreadLocalCtx (creatorMap[·]?) creatorMap.keys call
      = replyAfter setThreadLocalCtx before call := by
  unfold replyAfter
  rw [h.keys, show (creatorMap[·]?) = firstOf before from funext h]

/-- A run, from what the calls before it left. -/
theorem After.runCalls (h : After before creatorMap) (i : Nat) :
    (runCalls setThreadLocalCtx creatorMap calls)[i]?
      = (calls[i]?).map (replyAfter setThreadLocalCtx (before ++ calls.take i)) := by
  induction calls generalizing before creatorMap i with
  | nil => rfl
  | cons call calls ih =>
      rw [CpuKernelRegister.runCalls]
      cases i with
      | zero =>
          rw [List.getElem?_cons_zero, List.getElem?_cons_zero, h.replyOf_eq, List.take_zero,
            List.append_nil]
          rfl
      | succ i =>
          rw [List.getElem?_cons_succ, List.getElem?_cons_succ, ih (h.snoc call),
            List.append_assoc, List.singleton_append, List.take_succ_cons]

/-- **The first registration counts.**  In any run of the methods, by any threads in any order, a
call returns what the first registrations before it say: `GetCpuKernel` and the runs of kernels
find the first one of a type, and `GetAllRegisteredOpTypes` every type once and in order. -/
theorem registry_runs (setThreadLocalCtx : Option (ContextKey → String → Bool))
    (calls : List (Call AttrValue)) (i : Nat) :
    (runCalls setThreadLocalCtx ∅ calls)[i]?
      = (calls[i]?).map (replyAfter setThreadLocalCtx (calls.take i)) :=
  after_nil.runCalls i

/-! ## §4. Other orders. -/

/-- The same types are registered first with the same kernels. -/
def SameFirst (before before' : List (Call AttrValue)) : Prop :=
  ∀ t : String, firstOf before t = firstOf before' t

/-- Runs with the same first kernels get the same reply. -/
theorem SameFirst.replyAfter (h : SameFirst before before') (call : Call AttrValue) :
    replyAfter setThreadLocalCtx before call = replyAfter setThreadLocalCtx before' call := by
  have htypes : typesOf before = typesOf before' := by
    unfold typesOf
    rw [HwEfat.Lib.sorted_eq_sorted_iff,
      List.perm_ext_iff_of_nodup (List.nodup_dedup _) (List.nodup_dedup _)]
    intro t
    rw [List.mem_dedup, List.mem_dedup, ← firstOf_isSome, ← firstOf_isSome, h t]
  unfold CpuKernelRegister.replyAfter
  rw [htypes, show firstOf before = firstOf before' from funext h]

/-- They go on having the same. -/
theorem SameFirst.append (h : SameFirst before before') (calls : List (Call AttrValue)) :
    SameFirst (before ++ calls) (before' ++ calls) := by
  intro t
  have happend : ∀ l : List (Call AttrValue),
      firstOf (l ++ calls) t = (firstOf l t).or (firstOf calls t) := fun l =>
    List.findSome?_append
  rw [happend, happend, h t]

/-- A type that is registered once is found in any order of the registrations. -/
theorem firstOf_eq_some_of_mem (hnodup : (before.filterMap Call.type?).Nodup)
    {kernel : Kernel AttrValue} (hmem : .register type kernel ∈ before) :
    firstOf before type = some kernel := by
  induction before with
  | nil => cases hmem
  | cons call before ih =>
      unfold firstOf
      rw [List.findSome?_cons]
      rcases List.mem_cons.mp hmem with rfl | hin
      · simp [Call.registers]
      · have hrest : (before.filterMap Call.type?).Nodup :=
          hnodup.sublist ((List.sublist_cons_self call before).filterMap Call.type?)
        cases hcall : call.registers type with
        | none => exact ih hrest hin
        | some kernel' =>
            -- the type would be registered twice
            cases call with
            | register t kernel'' =>
                have ht : t = type := by
                  by_contra hne
                  simp [Call.registers, hne] at hcall
                rw [List.filterMap_cons_some (show Call.type? (.register t kernel'') = some t from rfl),
                  List.nodup_cons, ht] at hnodup
                have htype : type ∈ before.filterMap Call.type? :=
                  List.mem_filterMap.mpr ⟨_, hin, rfl⟩
                exact absurd htype hnodup.1
            | getCpuKernel opType => cases hcall
            | getAllRegisteredOpTypes => cases hcall
            | runCpuKernel ctx => cases hcall
            | runCpuKernelAsync ctx waitType waitId => cases hcall

/-- What is found was registered. -/
theorem mem_of_firstOf {kernel : Kernel AttrValue} (h : firstOf before type = some kernel) :
    .register type kernel ∈ before := by
  obtain ⟨call, hcall, hregisters⟩ := List.exists_of_findSome?_eq_some h
  cases call with
  | register t kernel' =>
      simp only [Call.registers] at hregisters
      split_ifs at hregisters with ht
      cases hregisters
      rw [← ht]
      exact hcall
  | getCpuKernel opType => cases hregisters
  | getAllRegisteredOpTypes => cases hregisters
  | runCpuKernel ctx => cases hregisters
  | runCpuKernelAsync ctx waitType waitId => cases hregisters

/-- **The order does not matter** where every type is registered once. -/
theorem sameFirst_of_perm (hperm : before.Perm before')
    (hnodup : (before.filterMap Call.type?).Nodup) : SameFirst before before' := by
  intro t
  have hnodup' : (before'.filterMap Call.type?).Nodup :=
    (hperm.filterMap Call.type?).nodup_iff.mp hnodup
  refine Option.ext fun kernel => ⟨fun h => ?_, fun h => ?_⟩
  · exact firstOf_eq_some_of_mem hnodup' (hperm.mem_iff.mp (mem_of_firstOf h))
  · exact firstOf_eq_some_of_mem hnodup (hperm.mem_iff.mpr (mem_of_firstOf h))

/-- **The order of static registrations is free.**  If no type is registered twice, then whatever
comes after the registrations, later registrations included, gets the same replies in whichever
order they ran. -/
theorem replies_order_free (setThreadLocalCtx : Option (ContextKey → String → Bool))
    (hperm : before.Perm before') (hnodup : (before.filterMap Call.type?).Nodup)
    (calls : List (Call AttrValue)) :
    (runCalls setThreadLocalCtx ∅ (before ++ calls)).drop before.length
      = (runCalls setThreadLocalCtx ∅ (before' ++ calls)).drop before'.length := by
  refine List.ext_getElem? fun i => ?_
  have hdrop : ∀ l : List (Call AttrValue),
      ((runCalls setThreadLocalCtx ∅ (l ++ calls)).drop l.length)[i]?
        = (calls[i]?).map (replyAfter setThreadLocalCtx (l ++ calls.take i)) := by
    intro l
    rw [List.getElem?_drop, registry_runs, List.getElem?_append_right (Nat.le_add_right _ _),
      List.take_append, List.take_of_length_le (Nat.le_add_right _ _), Nat.add_sub_cancel_left]
  rw [hdrop, hdrop]
  refine congrArg (fun f => (calls[i]?).map f) (funext fun call => ?_)
  exact ((sameFirst_of_perm hperm hnodup).append _).replyAfter call

/-- A kernel that does nothing, with a status. -/
def statusKernel (ret : UInt32) : Kernel AttrValue where
  compute _ := (ret, fun _ => [])
  computeAsync := none

/-- Two registrations the one way round and the other, and then one that comes too late. -/
theorem replies_order_free_two :
    (runCalls none ∅ ([.register "Add" (statusKernel 0), .register "Mul" (statusKernel 1)]
        ++ [.register "Add" (statusKernel 2), .getCpuKernel "Add", .getAllRegisteredOpTypes] :
        List (Call Int))).drop 2
      = (runCalls none ∅ ([.register "Mul" (statusKernel 1), .register "Add" (statusKernel 0)]
        ++ [.register "Add" (statusKernel 2), .getCpuKernel "Add", .getAllRegisteredOpTypes] :
        List (Call Int))).drop 2 :=
  replies_order_free none
    (List.Perm.swap (.register "Mul" (statusKernel 1)) (.register "Add" (statusKernel 0)) [])
    (by simp [Call.type?]) _

end Runs

end CpuKernelRegister

end HwEfat.Aicpu
