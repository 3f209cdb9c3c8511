/-
  HwEfat.Lib.Python — the parts of Python that the modelled scripts use: what they
  raise, what becomes of the objects they change when they raise, the values of a
  JSON file, and the string and list operations with no counterpart in Lean.
-/
import Mathlib.Data.List.Basic
import HwEfat.Lib.Except
import HwEfat.Lib.Extremum

namespace HwEfat.Lib

/-- What a script raises, with its message. -/
inductive PyError where
  | runtimeError (message : String)
  | valueError (message : String)
  | indexError (message : String)
  | keyError (message : String)
  | typeError (message : String)
  | attributeError (message : String)
  | osError (message : String)
  /-- An exception class of the program, with the argument it is raised with. -/
  | raised (name : String) (info : Int)
  deriving Repr, DecidableEq

/-! ## §1. Raising. -/

/-- `if c: raise e` -/
def raiseIf (c : Prop) [Decidable c] (e : PyError) : Except PyError Unit :=
  if c then .error e else .ok ()

/-- A check passes where its condition is false. -/
theorem raiseIf_eq_ok {c : Prop} [Decidable c] {e : PyError} {u : Unit} :
    raiseIf c e = .ok u ↔ ¬ c := by
  unfold raiseIf
  by_cases hc : c
  · simp [hc]
  · simp [hc]

/-- The error of a check. -/
theorem raises_raiseIf {c : Prop} [Decidable c] {P : PyError → Prop} {e : PyError} (h : P e) :
    Raises P (raiseIf c e) := by
  unfold raiseIf
  split
  · exact raises_error h
  · exact raises_ok ()

/-! ## §2. Values. -/

/-- A float, exactly. -/
inductive PyFloat where
  | finite (x : Rat)
  | inf (negative : Bool)
  | nan
  deriving Repr, DecidableEq

/-- `a < b` -/
def PyFloat.lt : PyFloat → PyFloat → Bool
  | finite x, finite y => x < y
  | nan, _ => false
  | _, nan => false
  | inf neg, inf neg' => neg && !neg'
  | inf neg, finite _ => neg
  | finite _, inf neg => !neg

/-- `a == b` -/
def PyFloat.eq : PyFloat → PyFloat → Bool
  | finite x, finite y => x == y
  | inf neg, inf neg' => neg == neg'
  | _, _ => false

/-- What `json.load` returns. -/
inductive PyVal where
  | none
  | bool (b : Bool)
  | int (i : Int)
  | float (x : PyFloat)
  | str (s : String)
  | list (l : List PyVal)
  | dict (d : List (String × PyVal))

namespace PyVal

/-- `bool(v)` -/
def truthy : PyVal → Bool
  | none => false
  | bool b => b
  | int i => i != 0
  | float x => x != .finite 0
  | str s => s != ""
  | list l => !l.isEmpty
  | dict d => !d.isEmpty

/-- `v.get(key)` -/
def get (v : PyVal) (key : String) : Except PyError PyVal :=
  match v with
  | dict d => .ok ((d.lookup key).getD none)
  | _ => .error (.attributeError "object has no attribute 'get'")

/-- `v[i]` -/
def item (v : PyVal) (i : Nat) : Except PyError PyVal :=
  match v with
  | list l =>
      match l[i]? with
      | some a => .ok a
      | _ => .error (.indexError "list index out of range")
  | _ => .error (.typeError "object is not subscriptable")

/-- `v[key]` -/
def getItem (v : PyVal) (key : String) : Except PyError PyVal :=
  match v with
  | dict d =>
      match d.lookup key with
      | some a => .ok a
      | _ => .error (.keyError key)
  | _ => .error (.typeError "indices must be integers")

/-- `v == s` for a string -/
def isStr (s : String) : PyVal → Bool
  | str t => t == s
  | _ => false

/-- `isinstance(v, list)` -/
def isList : PyVal → Bool
  | list _ => true
  | _ => false

/-- `v is None` -/
def isNone : PyVal → Bool
  | none => true
  | _ => false

/-- The value of `v`, if `isinstance(v, int)`; a bool is an int. -/
def asInt : PyVal → Option Int
  | int i => some i
  | bool b => some (if b then 1 else 0)
  | _ => Option.none

/-- The value of `v`, if `isinstance(v, (int, float))`. -/
def asNumber (v : PyVal) : Option PyFloat :=
  match v, v.asInt with
  | float x, _ => some x
  | _, some i => some (.finite i)
  | _, Option.none => Option.none

mutual

/-- `v == w`; a number is equal to the same number of another type. -/
def eq : PyVal → PyVal → Bool
  | list l, w =>
      match w with
      | list l' => eqList l l'
      | _ => false
  | dict d, w =>
      match w with
      | dict d' => d.length == d'.length && eqDict d d'
      | _ => false
  | v, w =>
      match v, w with
      | none, none => true
      | str s, str s' => s == s'
      | v, w =>
          match v.asNumber, w.asNumber with
          | some x, some y => x.eq y
          | _, _ => false

def eqList : List PyVal → List PyVal → Bool
  | [], [] => true
  | v :: l, w :: l' => eq v w && eqList l l'
  | _, _ => false

/-- The second dictionary has every entry of the first one. -/
def eqDict : List (String × PyVal) → List (String × PyVal) → Bool
  | [], _ => true
  | e :: d, d' => eqEntry e d' && eqDict d d'

def eqEntry : String × PyVal → List (String × PyVal) → Bool
  | (key, v), d' =>
      match d'.lookup key with
      | some w => eq v w
      | Option.none => false

end

/-- `len(v)` -/
def len : PyVal → Except PyError Nat
  | str s => .ok s.length
  | list l => .ok l.length
  | dict d => .ok d.length
  | _ => .error (.typeError "object has no len()")

/-- What `for x in v` runs over. -/
def iter : PyVal → Except PyError (List PyVal)
  | str s => .ok (s.toList.map fun c => str (String.ofList [c]))
  | list l => .ok l
  | dict d => .ok (d.map fun e => str e.1)
  | _ => .error (.typeError "object is not iterable")

/-- What `v[key]` returns, `v.get(key)` returns too. -/
theorem get_of_getItem {v a : PyVal} {key : String} (h : v.getItem key = .ok a) :
    v.get key = .ok a := by
  cases v with
  | dict d =>
      unfold getItem at h
      unfold get
      dsimp only at h ⊢
      cases hlookup : d.lookup key with
      | none =>
          rw [hlookup] at h
          cases h
      | some b =>
          rw [hlookup] at h
          cases h
          rfl
  | _ => cases h

end PyVal

/-! ## §3. Lists. -/

section Lists

variable {α : Type}

/-- `l.index(a)` -/
def index [BEq α] (l : List α) (a : α) : Except PyError Nat :=
  match l.idxOf? a with
  | some i => .ok i
  | none => .error (.valueError "is not in list")

/-- `l[0]` -/
def first (l : List α) : Except PyError α :=
  match l with
  | [] => .error (.indexError "list index out of range")
  | a :: _ => .ok a

/-- `max(l)` -/
def pyMax [Max α] (l : List α) : Except PyError α :=
  match l with
  | [] => .error (.valueError "max() arg is an empty sequence")
  | a :: l => .ok (l.foldl max a)

/-- The first element is an element. -/
theorem mem_of_first {l : List α} {a : α} (h : first l = .ok a) : a ∈ l := by
  cases l with
  | nil => cases h
  | cons b l =>
      cases h
      exact List.mem_cons_self

/-- `l.index(a)` is the first position of `a`. -/
theorem index_eq_ok [BEq α] [LawfulBEq α] {l : List α} {a : α} {i : Nat} :
    index l a = .ok i ↔ l[i]? = some a ∧ ∀ j, j < i → l[j]? ≠ some a := by
  unfold index
  have hiff := List.idxOf?_eq_some_iff (l := l) (a := a) (i := i)
  constructor
  · intro h
    cases hidx : l.idxOf? a with
    | none =>
        rw [hidx] at h
        cases h
    | some k =>
        rw [hidx] at h
        cases h
        obtain ⟨hlt, heq, hfirst⟩ := hiff.mp hidx
        refine ⟨by rw [List.getElem?_eq_getElem hlt, heq], fun j hj hcontra => ?_⟩
        rw [List.getElem?_eq_getElem (by omega), Option.some.injEq] at hcontra
        exact hfirst j hj hcontra
  · intro ⟨hi, hfirst⟩
    obtain ⟨hlt, heq⟩ := List.getElem?_eq_some_iff.mp hi
    have hidx : l.idxOf? a = some i := by
      refine hiff.mpr ⟨hlt, heq, fun j hj hcontra => hfirst j hj ?_⟩
      rw [List.getElem?_eq_getElem (by omega), hcontra]
    rw [hidx]

/-- A `max` is a member, and nothing in the list exceeds it. -/
theorem pyMax_spec [LinearOrder α] {l : List α} {m : α} (h : pyMax l = .ok m) :
    Best (fun a b => b ≤ a) l m := by
  cases l with
  | nil => cases h
  | cons a l =>
      cases h
      exact chooses_max.foldl l a

/-- A `max` stays below a bound if all do. -/
theorem pyMax_lt_iff [LinearOrder α] {l : List α} {bound : α} :
    (∀ m, pyMax l = .ok m → m < bound) ↔ ∀ x ∈ l, x < bound := by
  constructor
  · intro h x hx
    cases l with
    | nil => cases hx
    | cons a l =>
        have hmax : pyMax (a :: l) = .ok (l.foldl max a) := rfl
        exact ((pyMax_spec hmax).best x hx).trans_lt (h _ hmax)
  · exact fun h m hm => h m (pyMax_spec hm).mem

end Lists

/-- A dictionary with strings as keys. -/
abbrev PyDict (α : Type) : Type := List (String × α)

namespace PyDict

/-- `d[key] = a` and `d.update({key: a})` -/
def set (d : PyDict α) (key : String) (a : α) : PyDict α :=
  if (d.lookup key).isSome then d.map fun e => if e.1 = key then (key, a) else e
  else d ++ [(key, a)]

/-- `d.pop(key)` -/
def pop (d : PyDict α) (key : String) : PyDict α := d.filter fun e => e.1 != key

/-- `d[key]` -/
def getItem (d : PyDict α) (key : String) : Except PyError α :=
  match d.lookup key with
  | some a => .ok a
  | none => .error (.keyError key)

/-- A key whose value is replaced in place. -/
theorem lookup_map_key (d : PyDict α) (key k : String) (a : α) :
    List.lookup k (d.map fun e => if e.1 = key then (key, a) else e)
      = if k = key then (if (d.lookup key).isSome then some a else none) else d.lookup k := by
  induction d with
  | nil => simp
  | cons e d ih =>
      obtain ⟨k', b⟩ := e
      rw [List.map_cons]
      by_cases hk' : k' = key
      · rw [if_pos hk', List.lookup_cons, List.lookup_cons, List.lookup_cons, hk',
          beq_self_eq_true]
        by_cases hk : k = key
        · simp only [hk, beq_self_eq_true, if_true, Option.isSome_some]
        · simp only [hk, beq_false_of_ne hk, if_false, ih]
      · rw [if_neg hk', List.lookup_cons, List.lookup_cons, List.lookup_cons,
          beq_false_of_ne (Ne.symm hk')]
        by_cases hk : k = key
        · subst hk
          rw [beq_false_of_ne (Ne.symm hk')]
          simpa only [if_true] using ih
        · simp only [hk, if_false, ih]

/-- Reading after writing. -/
theorem lookup_set (d : PyDict α) (key k : String) (a : α) :
    (d.set key a).lookup k = if k = key then some a else d.lookup k := by
  unfold set
  by_cases hsome : (d.lookup key).isSome
  · rw [if_pos hsome, lookup_map_key, if_pos hsome]
  · rw [if_neg hsome, List.lookup_append]
    rw [Bool.not_eq_true, Option.isSome_eq_false_iff, Option.isNone_iff_eq_none] at hsome
    by_cases hk : k = key
    · subst hk
      simp [hsome]
    · simp [hk, List.lookup_cons, beq_false_of_ne hk]

/-- The second of two writes counts. -/
theorem set_set {d : PyDict α} {key : String} (h : (d.lookup key).isSome = true) (a b : α) :
    (d.set key a).set key b = d.set key b := by
  have hset : ((d.set key a).lookup key).isSome = true := by
    rw [lookup_set, if_pos rfl]
    rfl
  unfold set at hset ⊢
  rw [if_pos h] at hset ⊢
  rw [if_pos hset, if_pos h, List.map_map]
  refine List.map_congr_left fun e _ => ?_
  by_cases he : e.1 = key
  · simp only [Function.comp_apply, if_pos he, if_true]
  · simp only [Function.comp_apply, if_neg he]

/-- What is looked up is an entry. -/
theorem mem_of_lookup {d : PyDict α} {key : String} {a : α} (h : d.lookup key = some a) :
    (key, a) ∈ d := by
  obtain ⟨l₁, l₂, hsplit, _⟩ := List.lookup_eq_some_iff.mp h
  rw [hsplit]
  exact List.mem_append_right _ List.mem_cons_self

/-- Removing a key leaves the others. -/
theorem lookup_pop_ne (d : PyDict α) {key k : String} (h : k ≠ key) :
    (d.pop key).lookup k = d.lookup k := by
  unfold pop
  induction d with
  | nil => rfl
  | cons e d ih =>
      obtain ⟨k', b⟩ := e
      by_cases hk' : k' = key
      · subst hk'
        rw [List.filter_cons_of_neg (by simp), ih, List.lookup_cons, beq_false_of_ne h]
      · rw [List.filter_cons_of_pos (by simpa using hk'), List.lookup_cons, List.lookup_cons, ih]

/-- `d[key]` returns the value that is looked up. -/
theorem getItem_eq_ok {d : PyDict α} {key : String} {a : α} :
    d.getItem key = .ok a ↔ d.lookup key = some a := by
  unfold getItem
  cases d.lookup key <;> simp

end PyDict

/-! ## §4. Strings. -/

/-- The pieces of `s.split(sep)`: `cur` is the piece read so far, in reverse, and `skip`
counts the characters of a separator still to be passed over. -/
def splitChars (sep : List Char) : Nat → List Char → List Char → List (List Char)
  | _, cur, [] => [cur.reverse]
  | skip + 1, cur, _ :: cs => splitChars sep skip cur cs
  | 0, cur, c :: cs =>
      if sep.isPrefixOf (c :: cs) then cur.reverse :: splitChars sep (sep.length - 1) [] cs
      else splitChars sep 0 (c :: cur) cs

/-- `s.split(sep)` -/
def split (s sep : String) : List String :=
  (splitChars sep.toList 0 [] s.toList).map String.ofList

/-- Where `sub` starts for the last time. -/
def rfindChars (sub : List Char) : List Char → Option Nat
  | [] => if sub.isEmpty then some 0 else none
  | c :: cs =>
      match rfindChars sub cs with
      | some i => some (i + 1)
      | none => if sub.isPrefixOf (c :: cs) then some 0 else none

/-- `s[:s.rfind(sub)]`; a `sub` that does not occur has the index `-1`, which cuts off the
last character. -/
def beforeLast (s sub : String) : String :=
  match rfindChars sub.toList s.toList with
  | some i => String.ofList (s.toList.take i)
  | none => String.ofList s.toList.dropLast

/-- `sub in s` -/
def contains (s sub : String) : Bool := (rfindChars sub.toList s.toList).isSome

/-- `s.isdigit()`, given the digits of Unicode. -/
def isdigit (digit : Char → Bool) (s : String) : Bool :=
  !s.toList.isEmpty && s.toList.all digit

/-- `key in v`, for a string `key` -/
def PyVal.hasKey (v : PyVal) (key : String) : Except PyError Bool :=
  match v with
  | dict d => .ok (d.lookup key).isSome
  | list l => .ok (l.any (isStr key))
  | str s => .ok (contains s key)
  | _ => .error (.typeError "argument is not iterable")

/-- `os.path.dirname(p)` -/
def dirname (p : String) : String :=
  let head :=
    match rfindChars "/".toList p.toList with
    | some i => p.toList.take (i + 1)
    | none => []
  if head.all (· == '/') then String.ofList head
  else String.ofList (head.reverse.dropWhile (· == '/')).reverse

/-- `os.path.splitext(p)[-1]`: the dots that a file name starts with start no extension. -/
def splitextExt (p : String) : String :=
  match rfindChars ".".toList p.toList with
  | none => ""
  | some dot =>
      let start :=
        match rfindChars "/".toList p.toList with
        | some i => i + 1
        | none => 0
      if ((p.toList.take dot).drop start).any (· != '.') then String.ofList (p.toList.drop dot)
      else ""

/-- `os.path.splitext(p)[0]` -/
def splitextRoot (p : String) : String :=
  String.ofList (p.toList.take (p.toList.length - (splitextExt p).toList.length))

/-- `os.path.basename(p)` -/
def basename (p : String) : String :=
  match rfindChars "/".toList p.toList with
  | some i => String.ofList (p.toList.drop (i + 1))
  | none => p

/-- `os.path.join(a, b)` -/
def pathJoin (a b : String) : String :=
  if "/".toList.isPrefixOf b.toList then b
  else if a.toList.isEmpty || "/".toList.isSuffixOf a.toList then a ++ b
  else a ++ "/" ++ b

/-! ## §5. Programs that change objects.

A program that raises leaves the objects as it has changed them so far. -/

/-- A program that changes objects `σ`. -/
def PyM (σ α : Type) : Type := σ → Except PyError α × σ

namespace PyM

variable {σ α β : Type}

instance : Monad (PyM σ) where
  pure a := fun s => (.ok a, s)
  bind x f := fun s =>
    match x s with
    | (.ok a, s) => f a s
    | (.error e, s) => (.error e, s)

/-- Reads the objects. -/
def read : PyM σ σ := fun s => (.ok s, s)

/-- A change of the state. -/
def modify (f : σ → σ) : PyM σ Unit := fun s => (.ok (), f s)

/-- A step that leaves the objects alone. -/
def lift (x : Except PyError α) : PyM σ α := fun s => (x, s)

/-- `try: x / except E: handler`, where `caught` says which errors are an `E`. -/
def tryExcept (x : PyM σ α) (caught : PyError → Bool) (handler : PyM σ α) : PyM σ α := fun s =>
  match x s with
  | (.error e, s) => if caught e then handler s else (.error e, s)
  | (.ok a, s) => (.ok a, s)

@[simp] theorem pure_apply (a : α) (s : σ) : (pure a : PyM σ α) s = (.ok a, s) := rfl
@[simp] theorem read_apply (s : σ) : (read : PyM σ σ) s = (.ok s, s) := rfl
@[simp] theorem modify_apply (f : σ → σ) (s : σ) : modify f s = (.ok (), f s) := rfl
@[simp] theorem lift_apply (x : Except PyError α) (s : σ) : (lift x : PyM σ α) s = (x, s) := rfl

/-- What does not touch the state returns with it. -/
theorem lift_eq_ok {x : Except PyError α} {a : α} {s s' : σ} :
    lift x s = (.ok a, s') ↔ x = .ok a ∧ s = s' := by
  rw [lift_apply, Prod.mk.injEq]

/-- The second program starts where the first one has returned. -/
theorem bind_apply (x : PyM σ α) (f : α → PyM σ β) (s : σ) :
    (x >>= f) s =
      match x s with
      | (.ok a, s) => f a s
      | (.error e, s) => (.error e, s) :=
  rfl

/-- Compositions may be bracketed either way. -/
theorem bind_assoc {γ : Type} (x : PyM σ α) (f : α → PyM σ β) (g : β → PyM σ γ) :
    (x >>= f) >>= g = x >>= fun a => f a >>= g := by
  funext s
  rw [bind_apply, bind_apply, bind_apply]
  cases x s with
  | mk r s₁ =>
      cases r with
      | ok a => rfl
      | error e => rfl

/-- A sequence that returns has returned at every step. -/
theorem bind_eq_ok {x : PyM σ α} {f : α → PyM σ β} {s s' : σ} {b : β} :
    (x >>= f) s = (.ok b, s') ↔ ∃ a s₁, x s = (.ok a, s₁) ∧ f a s₁ = (.ok b, s') := by
  rw [bind_apply]
  match hx : x s with
  | (.ok a, s₁) =>
      constructor
      · intro h
        exact ⟨a, s₁, rfl, h⟩
      · intro ⟨a', s₂, ha, h⟩
        cases ha
        exact h
  | (.error e, s₁) => exact ⟨fun h => (by cases h), fun ⟨_, _, h, _⟩ => (by cases h)⟩

end PyM

end HwEfat.Lib
