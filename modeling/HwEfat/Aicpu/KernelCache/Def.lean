/-
  HwEfat.Aicpu.KernelCache.Def — `KernelCache<T>` of `kernel_cache.h`.

  The class keeps two structures: a list `kernel_cache_` of (kernel id, pointer)
  nodes and a map `kernel_cache_iter_` from kernel id to the list iterator of its
  node.  A node has an identity here (`addr`), an iterator is such an identity,
  and following an iterator of an erased node is undefined behaviour: the
  operations return `none`.  `V` stands for `std::shared_ptr<T>`.

  The lock `kernel_mutex_` makes each operation one atomic step.
-/
import Std.Data.ExtTreeMap
import HwEfat.Lib.Run

namespace HwEfat.Aicpu

/-- max LRU cache number is 256 -/
def kMaxLRUCacheNum : UInt32 := 256

/-- A node of `kernel_cache_`; `addr` is what a list iterator designates. -/
structure Node (V : Type) where
  addr : Nat
  key : UInt64
  value : V
  deriving Repr, DecidableEq

/-- The members of `KernelCache<T>`; `nextAddr` numbers the nodes allocated. -/
structure KernelCache (V : Type) where
  sessFlag : Bool
  capacity : UInt32
  kernelCache : List (Node V)
  kernelCacheIter : Std.ExtTreeMap UInt64 Nat
  nextAddr : Nat

namespace KernelCache

variable {V : Type}

/-- `KernelCache() : sess_flag_(false), capacity_(1) {}` -/
def new : KernelCache V :=
  { sessFlag := false, capacity := 1, kernelCache := [], kernelCacheIter := ∅, nextAddr := 0 }

/-- `SetCapacity` -/
def setCapacity (c : KernelCache V) (capacity : UInt32) : KernelCache V :=
  { c with capacity := capacity }

/-- `CpuKernelCache::InitParameter`. -/
def initParameter (c : KernelCache V) : Int × KernelCache V :=
  if !c.sessFlag then (0, c.setCapacity kMaxLRUCacheNum) else (0, c)

/-- `Init`: set the mode, then `InitParameter`. -/
def init (c : KernelCache V) (sessFlag : Bool) : Int × KernelCache V :=
  initParameter { c with sessFlag := sessFlag }

/-! ## §1. The list and its iterators. -/

/-- The node an iterator designates; `none` when it was erased. -/
def deref (c : KernelCache V) (it : Nat) : Option (Node V) :=
  c.kernelCache.find? (fun n => n.addr == it)

/-- `kernel_cache_.erase(it)` -/
def erase (c : KernelCache V) (it : Nat) : KernelCache V :=
  { c with kernelCache := c.kernelCache.filter (fun n => n.addr != it) }

/-- `it->second = value` -/
def assign (c : KernelCache V) (it : Nat) (value : V) : KernelCache V :=
  { c with kernelCache :=
      c.kernelCache.map (fun n => if n.addr = it then { n with value := value } else n) }

/-- `kernel_cache_.push_front(pair); kernel_cache_iter_[key] = kernel_cache_.begin();` -/
def pushFront (c : KernelCache V) (key : UInt64) (pair : UInt64 × V) : KernelCache V :=
  { c with
    kernelCache := ⟨c.nextAddr, pair.1, pair.2⟩ :: c.kernelCache
    kernelCacheIter := c.kernelCacheIter.insert key c.nextAddr
    nextAddr := c.nextAddr + 1 }

/-- Drop `kernel_cache_.back()` and its map entry. -/
def popBack (c : KernelCache V) : Option (KernelCache V) :=
  c.kernelCache.getLast?.map fun last =>
    { c with
      kernelCache := c.kernelCache.dropLast
      kernelCacheIter := c.kernelCacheIter.erase last.key }

/-! ## §2. The operations. -/

/-- `GetCache`: the pointer found (`none` is `nullptr`) and the cache after it. -/
def getCache (c : KernelCache V) (key : UInt64) : Option (Option V × KernelCache V) :=
  match c.kernelCacheIter[key]? with
  | none => some (none, c)
  | some it =>
      (c.deref it).map fun pair =>
        if c.sessFlag then (some pair.value, c)
        else (some pair.value, (c.erase it).pushFront key (pair.key, pair.value))

/-- `SetCache`. -/
def setCache (c : KernelCache V) (key : UInt64) (value : V) : Option (KernelCache V) :=
  match c.kernelCacheIter[key]? with
  | some it =>
      (c.deref it).map fun pair =>
        if c.sessFlag then c.assign it value
        else ((c.assign it value).erase it).pushFront key (pair.key, value)
  | none =>
      if c.capacity.toNat < c.kernelCache.length ∧ c.sessFlag = false then
        c.popBack.map fun c' => c'.pushFront key (key, value)
      else some (c.pushFront key (key, value))

/-- `GetAllKernelCache`: the (kernel id, pointer) pairs in list order. -/
def getAllKernelCache (c : KernelCache V) : List (UInt64 × V) :=
  c.kernelCache.map fun n => (n.key, n.value)

/-- The keys of the list, front first. -/
def keys (c : KernelCache V) : List UInt64 := c.kernelCache.map (·.key)

/-! ## §3. Sequences of calls. -/

/-- A use of the cache. -/
inductive Op (V : Type) where
  | getCache (key : UInt64)
  | setCache (key : UInt64) (value : V)
  deriving Repr, DecidableEq

/-- A call of the public interface. -/
inductive Call (V : Type) where
  | init (sessFlag : Bool)
  | setCapacity (capacity : UInt32)
  | op (o : Op V)
  deriving Repr, DecidableEq

/-- The cache after one use. -/
def stepOp (c : KernelCache V) : Op V → Option (KernelCache V)
  | .getCache key => (c.getCache key).map (·.2)
  | .setCache key value => c.setCache key value

/-- The cache after one call. -/
def step (c : KernelCache V) : Call V → Option (KernelCache V)
  | .init sessFlag => some (c.init sessFlag).2
  | .setCapacity capacity => some (c.setCapacity capacity)
  | .op o => c.stepOp o

/-- The cache after a sequence of uses. -/
def runOps (c : KernelCache V) (ops : List (Op V)) : Option (KernelCache V) :=
  Lib.run stepOp c ops

/-- The cache after a sequence of calls. -/
def runCalls (c : KernelCache V) (calls : List (Call V)) : Option (KernelCache V) :=
  Lib.run step c calls

end KernelCache

end HwEfat.Aicpu
