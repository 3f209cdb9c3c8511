/-
  HwEfat.Main.RtsApi.Contexts — the contexts over a run of `create_context`, `set_context` and
  `destroy_context`.

  A context that is destroyed stays in `context_storage`, so it can be set or destroyed
  again; and whatever context is destroyed, the current one is given up.

  Main result: `contexts_sound_iff`.
-/
import HwEfat.Main.RtsApi.Codes
import HwEfat.Lib.Run

namespace HwEfat.Main

open HwEfat.Lib (PyError PyM foldl_induct forall_place_nil forall_place_cons)

namespace RtsApi

/-! ## §1. Runs. -/

inductive CtxCall where
  | create (contextMode : String)
  | set (context : Nat)
  | destroy (context : Option Nat)

def runCtxCall (env : RtsEnv) : CtxCall → Rts Unit
  | .create contextMode => do
      let _ ← createContext env contextMode
      return ()
  | .set context => setContext env context
  | .destroy context => destroyContext env context

/-- The object after some calls; a caller may go on after one that raises. -/
def ctxRun (env : RtsEnv) (calls : List CtxCall) (s : Api) : Api :=
  calls.foldl (fun s call => (runCtxCall env call s).2) s

/-- The context has been created. -/
def Created (s : Api) (c : Nat) : Prop := (.rtCtxCreate c, 0) ∈ s.calls

/-- The context has been destroyed. -/
def Destroyed (s : Api) (c : Nat) : Prop := (.rtCtxDestroy c, 0) ∈ s.calls

instance (s : Api) (c : Nat) : Decidable (Destroyed s c) :=
  inferInstanceAs (Decidable ((RtCall.rtCtxDestroy c, (0 : UInt64)) ∈ s.calls))

/-- What a call should do: the current context is alive, destroying another one leaves it,
and a context that has been destroyed is refused, so none is destroyed twice. -/
structure CtxSound (s : Api) (call : CtxCall) (r : Except PyError Unit) (s' : Api) : Prop where
  live : ∀ c, s'.context = some c → Created s' c ∧ ¬ Destroyed s' c
  other : ∀ c, call = .destroy (some c) → s.context ≠ some c → s'.context = s.context
  stale : ∀ c, Destroyed s c → call = .set c ∨ call = .destroy (some c) →
    ∃ m, r = .error (.valueError m)
  once : ∀ c, s'.calls.count (.rtCtxDestroy c, 0) ≤ 1

/-- No context that has been destroyed is passed, and none is destroyed while another one is
current, unless the library refuses to. -/
structure CtxAllowed (env : RtsEnv) (s : Api) (call : CtxCall) : Prop where
  fresh : ∀ c, call = .set c ∨ call = .destroy (some c) → ¬ Destroyed s c
  current : ∀ c, call = .destroy (some c) → c ∈ s.contextStorage →
    env.code s.calls.length = 0 → s.context = some c ∨ s.context = none

/-! ## §2. One call. -/

/-- The context that `destroy_context` is about. -/
def destroyTarget (s : Api) (context : Option Nat) : Option Nat :=
  if context.isNone then s.context else context

/-- What a call can do. -/
inductive CtxStep (env : RtsEnv) (s : Api) : CtxCall → Except PyError Unit → Api → Prop where
  | badCreate (mode : String) (e : PyError) : CtxStep env s (.create mode) (.error e) s
  | create (mode : String) (hcode : env.code s.calls.length = 0) :
      CtxStep env s (.create mode) (.ok ())
        { called env (.rtCtxCreate (s.handles + 1)) { s with handles := s.handles + 1 } with
          context := some (s.handles + 1)
          contextStorage := s.contextStorage ++ [s.handles + 1] }
  | createFails (mode : String) (e : PyError) (hcode : env.code s.calls.length ≠ 0) :
      CtxStep env s (.create mode) (.error e)
        (called env (.rtCtxCreate (s.handles + 1)) { s with handles := s.handles + 1 })
  | unknownSet (c : Nat) (h : c ∉ s.contextStorage) :
      CtxStep env s (.set c) (.error unknownContext) s
  | set (c : Nat) (h : c ∈ s.contextStorage) (hcode : env.code s.calls.length = 0) :
      CtxStep env s (.set c) (.ok ())
        { called env (.rtCtxSetCurrent c) s with context := some c }
  | setFails (c : Nat) (e : PyError) (hvalue : ∀ m, e ≠ .valueError m) :
      CtxStep env s (.set c) (.error e) (called env (.rtCtxSetCurrent c) s)
  | unknownDestroy (context : Option Nat)
      (h : ∀ c, destroyTarget s context = some c → c ∉ s.contextStorage) :
      CtxStep env s (.destroy context) (.error unknownContext) s
  | destroy (context : Option Nat) (c : Nat) (htarget : destroyTarget s context = some c)
      (h : c ∈ s.contextStorage) (hcode : env.code s.calls.length = 0) :
      CtxStep env s (.destroy context) (.ok ())
        { called env (.rtCtxDestroy c) s with context := none }
  | destroyFails (context : Option Nat) (c : Nat) (e : PyError) (hvalue : ∀ m, e ≠ .valueError m)
      (hcode : env.code s.calls.length ≠ 0) :
      CtxStep env s (.destroy context) (.error e) (called env (.rtCtxDestroy c) s)

section Steps

variable {env : RtsEnv} {s s' : Api} {call : CtxCall} {r : Except PyError Unit} {c : Nat}

theorem createContext_step (env : RtsEnv) (s : Api) (mode : String) :
    CtxStep env s (.create mode) (runCtxCall env (.create mode) s).1
      (runCtxCall env (.create mode) s).2 := by
  have hrun : runCtxCall env (.create mode) s
      = (do let _ ← createContext env mode; return () : Rts Unit) s := rfl
  rw [hrun]
  unfold createContext
  cases hmode : contextModeOf mode with
  | error e => exact .badCreate mode e
  | ok n =>
      cases hdevice : cDeviceId s.deviceId with
      | error e =>
          simp only [PyM.bind_apply, PyM.lift_apply, PyM.read_apply, hdevice]
          exact .badCreate mode e
      | ok i =>
          simp only [PyM.bind_apply, PyM.lift_apply, PyM.read_apply, hdevice, newHandle,
            PyM.modify, PyM.pure_apply]
          rcases callChecked_cases env (.rtCtxCreate (s.handles + 1)) ""
              { s with handles := s.handles + 1 } with ⟨hcode, hcall⟩ | ⟨hcode, e, _, hcall⟩
          · rw [hcall]
            exact .create mode hcode
          · rw [hcall]
            exact .createFails mode e hcode

theorem setContext_step (env : RtsEnv) (s : Api) (c : Nat) :
    CtxStep env s (.set c) (runCtxCall env (.set c) s).1 (runCtxCall env (.set c) s).2 := by
  have hrun : runCtxCall env (.set c) s = setContext env c s := rfl
  rw [hrun]
  unfold setContext
  by_cases h : c ∈ s.contextStorage
  · simp only [PyM.bind_apply, PyM.read_apply, not_true_eq_false, if_false, h, PyM.modify]
    rcases callChecked_cases env (.rtCtxSetCurrent c) "" s with ⟨hcode, hcall⟩ | ⟨_, e, he, hcall⟩
    · rw [hcall]
      exact .set c h hcode
    · rw [hcall]
      exact .setFails c e he
  · simp only [PyM.bind_apply, PyM.read_apply, not_false_eq_true, if_true, h, PyM.lift_apply]
    exact .unknownSet c h

theorem destroyContext_step (env : RtsEnv) (s : Api) (context : Option Nat) :
    CtxStep env s (.destroy context) (runCtxCall env (.destroy context) s).1
      (runCtxCall env (.destroy context) s).2 := by
  have hrun : runCtxCall env (.destroy context) s = destroyContext env context s := rfl
  rw [hrun]
  unfold destroyContext
  rw [PyM.bind_apply, PyM.read_apply]
  dsimp only
  -- Without an argument it is the current context that is meant.
  cases htarget : (if context.isNone = true then s.context else context) with
  | none =>
      refine .unknownDestroy context fun c hc => ?_
      unfold destroyTarget at hc
      rw [htarget] at hc
      cases hc
  | some c =>
      by_cases h : c ∈ s.contextStorage
      · simp only [PyM.bind_apply, not_true_eq_false, if_false, h, PyM.modify]
        rcases callChecked_cases env (.rtCtxDestroy c) "" s with
          ⟨hcode, hcall⟩ | ⟨hcode, e, he, hcall⟩
        · rw [hcall]
          exact .destroy context c htarget h hcode
        · rw [hcall]
          exact .destroyFails context c e he hcode
      · simp only [PyM.bind_apply, not_false_eq_true, if_true, h, PyM.lift_apply]
        refine .unknownDestroy context fun c' hc' => ?_
        unfold destroyTarget at hc'
        rw [htarget] at hc'
        cases hc'
        exact h

/-- **Every call is one of these steps.** -/
theorem ctxStep (env : RtsEnv) (s : Api) (call : CtxCall) :
    CtxStep env s call (runCtxCall env call s).1 (runCtxCall env call s).2 := by
  cases call with
  | create mode => exact createContext_step env s mode
  | set c => exact setContext_step env s c
  | destroy context => exact destroyContext_step env s context

end Steps

/-! ## §3. What the calls tell. -/

/-- The storage has the contexts that were created, and the others are not destroyed. -/
structure Tracked (s : Api) : Prop where
  storage : ∀ c, c ∈ s.contextStorage ↔ Created s c
  destroyed : ∀ c, Destroyed s c → Created s c
  handles : ∀ c, Created s c → c ≤ s.handles

/-- The current context is alive, and none was destroyed twice. -/
structure Alive (s : Api) : Prop where
  live : ∀ c, s.context = some c → Created s c ∧ ¬ Destroyed s c
  once : ∀ c, s.calls.count (.rtCtxDestroy c, 0) ≤ 1

section Calls

variable {env : RtsEnv} {s s' : Api} {call : RtCall} {code : UInt64} {c : Nat}

theorem created_append (h : s'.calls = s.calls ++ [(call, code)]) :
    Created s' c ↔ Created s c ∨ call = .rtCtxCreate c ∧ code = 0 := by
  unfold Created
  rw [h, List.mem_append, List.mem_singleton, Prod.mk.injEq]
  tauto

theorem destroyed_append (h : s'.calls = s.calls ++ [(call, code)]) :
    Destroyed s' c ↔ Destroyed s c ∨ call = .rtCtxDestroy c ∧ code = 0 := by
  unfold Destroyed
  rw [h, List.mem_append, List.mem_singleton, Prod.mk.injEq]
  tauto

/-- A call that neither creates nor destroys a context. -/
theorem Tracked.of_calls (hs : Tracked s) (h : s'.calls = s.calls ++ [(call, code)])
    (hcreate : ∀ c, call = .rtCtxCreate c → code ≠ 0)
    (hdestroy : ∀ c, call = .rtCtxDestroy c → code = 0 → Created s c)
    (hstorage : s'.contextStorage = s.contextStorage) (hhandles : s.handles ≤ s'.handles) :
    Tracked s' := by
  have hcreated : ∀ c, Created s' c ↔ Created s c := fun c =>
    (created_append h).trans (or_iff_left fun hc => hcreate c hc.1 hc.2)
  refine ⟨fun c => ?_, fun c hc => ?_, fun c hc => ?_⟩
  · rw [hstorage, hcreated]
    exact hs.storage c
  · rw [hcreated]
    rcases (destroyed_append h).mp hc with hc | ⟨hcall, hcode⟩
    · exact hs.destroyed c hc
    · exact hdestroy c hcall hcode
  · exact (hs.handles c ((hcreated c).mp hc)).trans hhandles

/-- A new context. -/
theorem Tracked.created (hs : Tracked s) (hcalls : s'.calls = s.calls ++ [(.rtCtxCreate c, code)])
    (hcode : code = 0) (hstorage : s'.contextStorage = s.contextStorage ++ [c])
    (hnew : s.handles ≤ c) (hhandles : s'.handles = c) : Tracked s' := by
  have hcreated : ∀ c', Created s' c' ↔ Created s c' ∨ c' = c := by
    intro c'
    rw [created_append hcalls, RtCall.rtCtxCreate.injEq]
    exact or_congr_right ⟨fun h => h.1.symm, fun h => ⟨h.symm, hcode⟩⟩
  refine ⟨fun c' => ?_, fun c' hc' => ?_, fun c' hc' => ?_⟩
  · rw [hstorage, List.mem_append, List.mem_singleton, hcreated, hs.storage]
  · rcases (destroyed_append hcalls).mp hc' with hc' | ⟨hcall, _⟩
    · exact (hcreated c').mpr (Or.inl (hs.destroyed c' hc'))
    · cases hcall
  · rw [hhandles]
    rcases (hcreated c').mp hc' with hc' | rfl
    · exact (hs.handles c' hc').trans hnew
    · exact le_refl c'

/-- A call that destroys no context. -/
theorem Alive.of_calls (halive : Alive s) (h : s'.calls = s.calls ++ [(call, code)])
    (hdestroy : ∀ c, call = .rtCtxDestroy c → code ≠ 0)
    (hcontext : ∀ c, s'.context = some c → Created s' c ∧ ¬ Destroyed s c) : Alive s' := by
  refine ⟨fun c hc => ⟨(hcontext c hc).1, ?_⟩, fun c => ?_⟩
  · rw [destroyed_append h, not_or]
    exact ⟨(hcontext c hc).2, fun hc => hdestroy c hc.1 hc.2⟩
  · have hnone : [(call, code)].count (.rtCtxDestroy c, (0 : UInt64)) = 0 := by
      rw [List.count_eq_zero, List.mem_singleton, Prod.mk.injEq]
      exact fun hc => hdestroy c hc.1.symm hc.2.symm
    rw [h, List.count_append, hnone]
    exact halive.once c

/-- The context that is destroyed was alive. -/
theorem Alive.destroyed (halive : Alive s) (h : s'.calls = s.calls ++ [(.rtCtxDestroy c, code)])
    (hfresh : ¬ Destroyed s c) (hcontext : s'.context = none) : Alive s' := by
  refine ⟨fun c' hc' => ?_, fun c' => ?_⟩
  · rw [hcontext] at hc'
    cases hc'
  · rw [h, List.count_append]
    by_cases hc' : c' = c
    · subst hc'
      have hzero : s.calls.count (.rtCtxDestroy c', (0 : UInt64)) = 0 :=
        List.count_eq_zero.mpr hfresh
      rw [hzero, Nat.zero_add]
      exact List.count_le_length
    · have hnone : [(RtCall.rtCtxDestroy c, code)].count (.rtCtxDestroy c', (0 : UInt64)) = 0 := by
        rw [List.count_eq_zero, List.mem_singleton, Prod.mk.injEq, RtCall.rtCtxDestroy.injEq]
        exact fun h => hc' h.1
      rw [hnone]
      exact halive.once c'

end Calls

section Tracking

variable {env : RtsEnv} {s s' : Api} {call : CtxCall} {r : Except PyError Unit}

/-- **Every call keeps the storage and the calls together.** -/
theorem CtxStep.tracked (h : CtxStep env s call r s') (hs : Tracked s) : Tracked s' := by
  cases h with
  | badCreate mode e => exact hs
  | create mode hcode => exact hs.created rfl hcode rfl (Nat.le_succ _) rfl
  | createFails mode e hcode =>
      exact hs.of_calls rfl (fun _ _ => hcode) (fun _ h => nomatch h) rfl (Nat.le_succ _)
  | unknownSet c h => exact hs
  | set c h hcode =>
      exact hs.of_calls rfl (fun _ h => nomatch h) (fun _ h => nomatch h) rfl (le_refl _)
  | setFails c e hvalue =>
      exact hs.of_calls rfl (fun _ h => nomatch h) (fun _ h => nomatch h) rfl (le_refl _)
  | unknownDestroy context h => exact hs
  | destroy context c htarget h hcode =>
      refine hs.of_calls rfl (fun _ h => nomatch h) (fun c' hcall _ => ?_) rfl (le_refl _)
      cases hcall
      exact (hs.storage c).mp h
  | destroyFails context c e hvalue hcode =>
      exact hs.of_calls rfl (fun _ h => nomatch h) (fun _ _ h => absurd h hcode) rfl (le_refl _)

/-- **An allowed call keeps the current context alive.** -/
theorem CtxStep.alive (h : CtxStep env s call r s') (hs : Tracked s) (halive : Alive s)
    (hallowed : CtxAllowed env s call) : Alive s' := by
  cases h with
  | badCreate mode e => exact halive
  | create mode hcode =>
      refine halive.of_calls rfl (fun _ h => nomatch h) fun c hc => ?_
      cases hc
      refine ⟨(created_append rfl).mpr (Or.inr ⟨rfl, hcode⟩), fun hold => ?_⟩
      -- A context that was destroyed has an older handle.
      have hle := hs.handles _ (hs.destroyed _ hold)
      omega
  | createFails mode e hcode =>
      exact halive.of_calls rfl (fun _ h => nomatch h) fun c hc =>
        (halive.live c hc).imp_left fun h => (created_append rfl).mpr (Or.inl h)
  | unknownSet c h => exact halive
  | set c h hcode =>
      refine halive.of_calls rfl (fun _ h => nomatch h) fun c' hc' => ?_
      cases hc'
      exact ⟨(created_append rfl).mpr (Or.inl ((hs.storage c).mp h)),
        hallowed.fresh c (Or.inl rfl)⟩
  | setFails c e hvalue =>
      exact halive.of_calls rfl (fun _ h => nomatch h) fun c hc =>
        (halive.live c hc).imp_left fun h => (created_append rfl).mpr (Or.inl h)
  | unknownDestroy context h => exact halive
  | destroy context c htarget h hcode =>
      refine halive.destroyed rfl ?_ rfl
      cases context with
      | none => exact (halive.live c htarget).2
      | some c' =>
          cases htarget
          exact hallowed.fresh c (Or.inr rfl)
  | destroyFails context c e hvalue hcode =>
      exact halive.of_calls rfl (fun _ _ => hcode) fun c hc =>
        (halive.live c hc).imp_left fun h => (created_append rfl).mpr (Or.inl h)

/-- **An allowed call does what it should.** -/
theorem CtxStep.sound (h : CtxStep env s call r s') (hs : Tracked s) (halive : Alive s)
    (hallowed : CtxAllowed env s call) : CtxSound s call r s' where
  live := (h.alive hs halive hallowed).live
  once := (h.alive hs halive hallowed).once
  stale c hc hcall := absurd hc (hallowed.fresh c hcall)
  other := by
    rintro c rfl hne
    cases h with
    | unknownDestroy _ h => rfl
    | destroyFails _ c' e hvalue hcode => rfl
    | destroy _ c' htarget h hcode =>
        cases htarget
        rcases hallowed.current c rfl h hcode with hcurrent | hnone
        · exact absurd hcurrent hne
        · exact hnone.symm

/-- **A call that does what it should was allowed.** -/
theorem CtxStep.allowed (h : CtxStep env s call r s') (hs : Tracked s)
    (hsound : CtxSound s call r s') : CtxAllowed env s call := by
  refine ⟨fun c hcall hold => ?_, ?_⟩
  · obtain ⟨m, rfl⟩ := hsound.stale c hold hcall
    have hstored : c ∈ s.contextStorage := (hs.storage c).mpr (hs.destroyed c hold)
    rcases hcall with rfl | rfl
    · cases h with
      | unknownSet _ h => exact h hstored
      | setFails _ _ hvalue => exact hvalue m rfl
    · cases h with
      | unknownDestroy _ h => exact h c rfl hstored
      | destroyFails _ _ _ hvalue _ => exact hvalue m rfl
  · rintro c rfl hstored hcode
    by_contra hother
    rw [not_or] at hother
    have hsame := hsound.other c rfl hother.1
    cases h with
    | unknownDestroy _ h => exact h c rfl hstored
    | destroy _ c' htarget h hcode => exact hother.2 hsame.symm
    | destroyFails _ c' e hvalue hne => exact hne hcode

end Tracking

/-! ## §4. Runs of calls. -/

/-- A new object, for which no context was created or destroyed. -/
structure Started (s : Api) : Prop where
  context : s.context = none
  storage : s.contextStorage = []
  fresh : ∀ c, ¬ Created s c ∧ ¬ Destroyed s c

section Runs

variable {env : RtsEnv} {s : Api} {calls : List CtxCall}

theorem Started.tracked (hs : Started s) : Tracked s := by
  refine ⟨fun c => ?_, fun c hc => absurd hc (hs.fresh c).2, fun c hc => absurd hc (hs.fresh c).1⟩
  rw [hs.storage]
  exact iff_of_false List.not_mem_nil (hs.fresh c).1

theorem Started.alive (hs : Started s) : Alive s := by
  refine ⟨fun c hc => ?_, fun c => ?_⟩
  · rw [hs.context] at hc
    cases hc
  · rw [List.count_eq_zero.mpr (hs.fresh c).2]
    exact Nat.zero_le 1

theorem ctxRun_tracked (hs : Tracked s) (calls : List CtxCall) : Tracked (ctxRun env calls s) :=
  foldl_induct hs fun _ call _ _ htracked => (ctxStep env _ call).tracked htracked

/-- **A run of allowed calls** keeps the current context alive. -/
theorem ctxRun_alive (hs : Tracked s) (halive : Alive s) (hallowed : ∀ before call after,
    calls = before ++ call :: after → CtxAllowed env (ctxRun env before s) call) :
    Alive (ctxRun env calls s) :=
  foldl_induct halive fun before call after hcalls hbefore =>
    (ctxStep env _ call).alive (ctxRun_tracked hs before) hbefore
      (hallowed before call after hcalls)

end Runs

/-- **All calls of a run do what they should exactly if all of them were allowed.** -/
theorem contexts_sound_iff (env : RtsEnv) (calls : List CtxCall) (s : Api) (hs : Started s) :
    (∀ before call after, calls = before ++ call :: after →
        CtxSound (ctxRun env before s) call (runCtxCall env call (ctxRun env before s)).1
          (runCtxCall env call (ctxRun env before s)).2) ↔
      ∀ before call after, calls = before ++ call :: after →
        CtxAllowed env (ctxRun env before s) call := by
  constructor
  · intro h before call after hcalls
    exact (ctxStep env _ call).allowed (ctxRun_tracked hs.tracked before) (h before call after hcalls)
  · intro h before call after hcalls
    have halive : Alive (ctxRun env before s) := by
      refine ctxRun_alive hs.tracked hs.alive fun before' call' after' hbefore => ?_
      refine h before' call' (after' ++ call :: after) ?_
      rw [hcalls, hbefore, List.append_assoc, List.cons_append]
    exact (ctxStep env _ call).sound (ctxRun_tracked hs.tracked before) halive
      (h before call after hcalls)

/-- A device on which every call succeeds. -/
def willing : RtsEnv where
  code _ := 0
  readFile _ := .error (.osError "No such file or directory")
  pathExists _ := false
  realpath path := path
  loads _ := false

/-- The object after `set_device`. -/
def onDevice : Api := { deviceId := some 0 }

theorem started_onDevice : Started onDevice :=
  ⟨rfl, rfl, fun _ => ⟨List.not_mem_nil, List.not_mem_nil⟩⟩

section Allowed

variable {env : RtsEnv} {s : Api} {c : Nat}

theorem ctxAllowed_create (mode : String) : CtxAllowed env s (.create mode) where
  fresh c h := by rcases h with h | h <;> cases h
  current c h := by cases h

theorem ctxAllowed_set (h : ¬ Destroyed s c) : CtxAllowed env s (.set c) where
  fresh c' h' := by
    rcases h' with h' | h'
    · cases h'
      exact h
    · cases h'
  current c' h' := by cases h'

theorem ctxAllowed_destroy (h : ¬ Destroyed s c) (hcurrent : s.context = some c ∨ s.context = none) :
    CtxAllowed env s (.destroy (some c)) where
  fresh c' h' := by
    rcases h' with h' | h'
    · cases h'
    · cases h'
      exact h
  current c' h' _ _ := by
    cases h'
    exact hcurrent

end Allowed

/-- Two contexts are created, the first one is set, and both are destroyed. -/
def twoContexts : List CtxCall :=
  [.create "RT_CTX_NORMAL_MODE", .create "RT_CTX_NORMAL_MODE", .set 1, .destroy (some 1),
    .destroy (some 2)]

theorem contexts_sound_iff_two :
    (ctxRun willing twoContexts onDevice).calls
        = [(.rtCtxCreate 1, 0), (.rtCtxCreate 2, 0), (.rtCtxSetCurrent 1, 0), (.rtCtxDestroy 1, 0),
          (.rtCtxDestroy 2, 0)] ∧
      ∀ before call after, twoContexts = before ++ call :: after →
        CtxSound (ctxRun willing before onDevice) call
          (runCtxCall willing call (ctxRun willing before onDevice)).1
          (runCtxCall willing call (ctxRun willing before onDevice)).2 := by
  refine ⟨rfl, (contexts_sound_iff willing twoContexts onDevice started_onDevice).mpr ?_⟩
  refine forall_place_cons.mpr ⟨ctxAllowed_create _, ?_⟩
  refine forall_place_cons.mpr ⟨ctxAllowed_create _, ?_⟩
  refine forall_place_cons.mpr ⟨ctxAllowed_set (by decide), ?_⟩
  refine forall_place_cons.mpr ⟨ctxAllowed_destroy (by decide) (Or.inl rfl), ?_⟩
  -- After the first one is destroyed no context is current.
  exact forall_place_cons.mpr ⟨ctxAllowed_destroy (by decide) (Or.inr rfl), forall_place_nil⟩

/-- Of two contexts the first one is destroyed twice, which the second call does not refuse;
and the first of these calls has given up the second context. -/
theorem context_destroyed_twice :
    let two := ctxRun willing [.create "RT_CTX_NORMAL_MODE", .create "RT_CTX_NORMAL_MODE"] onDevice
    let once := ctxRun willing [.destroy (some 1)] two
    two.context = some 2 ∧ once.context = none ∧ Destroyed once 1 ∧
      (runCtxCall willing (.destroy (some 1)) once).1 = .ok () ∧
      ¬ CtxSound two (.destroy (some 1)) (runCtxCall willing (.destroy (some 1)) two).1 once ∧
      ¬ CtxSound once (.destroy (some 1)) (runCtxCall willing (.destroy (some 1)) once).1
        (runCtxCall willing (.destroy (some 1)) once).2 := by
  refine ⟨rfl, rfl, by decide, rfl, fun h => ?_, fun h => ?_⟩
  · have hother := h.other 1 rfl (by decide)
    cases hother
  · obtain ⟨m, hm⟩ := h.stale 1 (by decide) (Or.inr rfl)
    cases hm

end RtsApi

end HwEfat.Main
