/-
  HwEfat.Main.RtsApi.LibraryPath — what becomes of `LD_LIBRARY_PATH`.

  For a simulator the constructor adds two directories to the path, before it loads the libraries.
  Every `reset` takes the last two entries away, if there are more than two.  So the path is
  back after one `reset`; a second one takes entries that were there before.

  Main result: `path_restored_iff`.
-/
import HwEfat.Lib.Except
import HwEfat.Lib.Frame
import HwEfat.Lib.Split
import HwEfat.Main.RtsApi.Codes

namespace HwEfat.Main

open HwEfat.Lib (PyError PyM split pathJoin bind_eq_ok intercalate_split split_intercalate split_append
  split_ne_nil not_mem_of_mem_split)

namespace RtsApi

/-! ## §1. Calls behind the constructor. -/

inductive Later where
  | setDevice (deviceId : Int)
  | reset (deviceId : Option Int)

def runLater (env : RtsEnv) : Later → Rts Unit
  | .setDevice deviceId => setDevice env deviceId
  | .reset deviceId => reset env deviceId

/-- The object after some calls; a caller may go on after one that raises. -/
def laterRun (env : RtsEnv) (calls : List Later) (s : Api) : Api :=
  calls.foldl (fun s call => (runLater env call s).2) s

/-- The device is reset: it is known, and the library does so. -/
def resetsDevice (env : RtsEnv) (s : Api) : Later → Bool
  | .setDevice _ => false
  | .reset deviceId => (deviceId.isSome || s.deviceId.isSome) && env.code s.calls.length == 0

/-- How often the device is reset. -/
def resetCount (env : RtsEnv) : List Later → Api → Nat
  | [], _ => 0
  | call :: calls, s =>
      (if resetsDevice env s call then 1 else 0) + resetCount env calls (runLater env call s).2

/-- What a simulator adds to the path, and its libraries. -/
def addedPaths (env : RtsEnv) (simulatorMode socVersion simulatorLibPath : Option String)
    (simulatorDumpPath : String) : Option (List String × String) := do
  let mode ← simulatorMode
  let soNames ← MODEL_SO_LIST.lookup mode
  if env.pathExists (env.realpath simulatorDumpPath) = false then none
  else (initSimulatorSoPath env soNames socVersion simulatorLibPath).toOption

/-- So many resets take away what was added, and nothing else: one for every two entries,
or more if the path had no more than two entries. -/
def Undone (initial added : String) (resets : Nat) : Prop :=
  (split added ":").length = 2 * resets ∨
    ((split initial ":").length ≤ 2 ∧ 2 ∣ (split added ":").length ∧
      (split added ":").length ≤ 2 * resets)

/-! ## §2. One reset. -/

section Clear

variable {env : RtsEnv} {s : Api} {path : String} {call : Later}

/-- The path without its last two entries, if it has more. -/
def clearedPath (path : String) : String :=
  ":".intercalate ((split path ":").take
    (if 2 < (split path ":").length then (split path ":").length - 2
      else (split path ":").length))

/-- The separator is one character. -/
theorem colon_toList : ":".toList = [':'] := rfl

theorem clearEnv_apply {mode : String} (hmode : s.simulatorMode = some mode) (hne : mode ≠ "")
    (hpath : s.ldLibraryPath = some path) :
    clearEnv s = (.ok (), { s with ldLibraryPath := some (clearedPath path) }) := by
  have hpaths : (if 2 < (split path ":").length then
      (split path ":").take ((split path ":").length - 2) else split path ":")
      = (split path ":").take (if 2 < (split path ":").length then (split path ":").length - 2
        else (split path ":").length) := by
    split
    · rfl
    · exact (List.take_length).symm
  unfold clearEnv clearedPath
  simp only [PyM.bind_apply, PyM.read_apply, hmode, Option.getD_some, ne_eq, hne,
    not_false_eq_true, if_true, getLdLibraryPath, hpath, PyM.pure_apply, PyM.modify]
  rw [hpaths]

theorem clearEnv_none (hmode : s.simulatorMode = none) : clearEnv s = (.ok (), s) := by
  unfold clearEnv
  simp only [PyM.bind_apply, PyM.read_apply, hmode, Option.getD_none, ne_eq, not_true_eq_false,
    if_false, PyM.pure_apply]

/-- What a call leaves as it is, and what it does with the path. -/
theorem runLater_path (env : RtsEnv) (s : Api) (call : Later) :
    ∃ s₁ : Api, s₁.simulatorMode = s.simulatorMode ∧ s₁.ldLibraryPath = s.ldLibraryPath ∧
      (runLater env call s).2 = if resetsDevice env s call then (clearEnv s₁).2 else s₁ := by
  cases call with
  | setDevice deviceId =>
      rcases callChecked_cases env (.rtSetDevice deviceId) "" s with ⟨_, hcall⟩ | ⟨_, e, _, hcall⟩
      · refine ⟨{ called env (.rtSetDevice deviceId) s with deviceId := some deviceId },
          rfl, rfl, ?_⟩
        simp only [runLater, setDevice, PyM.bind_apply, hcall, PyM.modify, resetsDevice,
          Bool.false_eq_true, if_false]
      · refine ⟨called env (.rtSetDevice deviceId) s, rfl, rfl, ?_⟩
        simp only [runLater, setDevice, PyM.bind_apply, hcall, resetsDevice,
          Bool.false_eq_true, if_false]
  | reset deviceId =>
      -- Without a device of its own or one that was set, the reset raises and clears nothing.
      cases hid : (if deviceId.isNone = true then s.deviceId else deviceId) with
      | none =>
          have hnone : (deviceId.isSome || s.deviceId.isSome) = false := by
            cases deviceId with
            | none => rw [show s.deviceId = none from hid]; rfl
            | some id => cases hid
          refine ⟨s, rfl, rfl, ?_⟩
          simp only [runLater, reset, PyM.bind_apply, PyM.read_apply, hid, cDeviceId,
            PyM.lift_apply, resetsDevice, hnone, Bool.false_and, Bool.false_eq_true, if_false]
      | some id =>
          have hsome : (deviceId.isSome || s.deviceId.isSome) = true := by
            cases deviceId with
            | none => rw [show s.deviceId = some id from hid]; rfl
            | some id => rfl
          refine ⟨called env (.rtDeviceReset id) s, rfl, rfl, ?_⟩
          rcases callChecked_cases env (.rtDeviceReset id) "" s with
            ⟨hcode, hcall⟩ | ⟨hcode, e, _, hcall⟩
          · simp only [runLater, reset, PyM.bind_apply, PyM.read_apply, hid, cDeviceId,
              PyM.lift_apply, hcall, resetsDevice, hsome, hcode, beq_self_eq_true, Bool.and_true,
              if_true]
          · simp only [runLater, reset, PyM.bind_apply, PyM.read_apply, hid, cDeviceId,
              PyM.lift_apply, hcall, resetsDevice, hsome, beq_iff_eq, hcode, Bool.true_and,
              if_false]

end Clear

/-! ## §3. Many resets. -/

/-- How many of `n` entries are left. -/
def remaining : Nat → Nat → Nat
  | n, 0 => n
  | n, k + 1 => remaining (if 2 < n then n - 2 else n) k

theorem remaining_le (n k : Nat) : remaining n k ≤ n := by
  induction k generalizing n with
  | zero => exact le_refl n
  | succ k ih =>
      refine (ih _).trans ?_
      split <;> omega

theorem remaining_pos {n : Nat} (hn : 0 < n) (k : Nat) : 0 < remaining n k := by
  induction k generalizing n with
  | zero => exact hn
  | succ k ih =>
      refine ih ?_
      split <;> omega

/-- When the first `n` of them are left. -/
theorem remaining_eq_iff {n : Nat} (hn : 0 < n) (m k : Nat) :
    remaining m k = n ↔ m = n + 2 * k ∨ (n ≤ 2 ∧ n ≤ m ∧ 2 ∣ m - n ∧ m ≤ n + 2 * k) := by
  induction k generalizing m with
  | zero =>
      rw [remaining]
      omega
  | succ k ih =>
      rw [remaining, ih]
      split <;> omega

section Runs

variable {env : RtsEnv} {s : Api} {path : String}

/-- The entries after a reset are the first ones. -/
theorem split_clearedPath (path : String) :
    split (clearedPath path) ":" = (split path ":").take
      (if 2 < (split path ":").length then (split path ":").length - 2
        else (split path ":").length) := by
  have hne := List.length_pos_iff.mpr (split_ne_nil path ":")
  refine split_intercalate colon_toList ?_ fun t ht =>
    not_mem_of_mem_split colon_toList (List.mem_of_mem_take ht)
  rw [← List.length_pos_iff, List.length_take]
  split <;> omega

/-- **The path after any calls**: some of its first entries. -/
theorem laterRun_path (calls : List Later) {mode : String} (hmode : s.simulatorMode = some mode)
    (hne : mode ≠ "") (hpath : s.ldLibraryPath = some path) :
    (laterRun env calls s).ldLibraryPath = some (":".intercalate ((split path ":").take
      (remaining (split path ":").length (resetCount env calls s)))) := by
  induction calls generalizing s path with
  | nil =>
      show s.ldLibraryPath = _
      rw [resetCount, remaining, List.take_length, intercalate_split colon_toList, hpath]
  | cons call calls ih =>
      obtain ⟨s₁, hmode₁, hpath₁, hstep⟩ := runLater_path env s call
      show (laterRun env calls (runLater env call s).2).ldLibraryPath = _
      rw [resetCount]
      by_cases hreset : resetsDevice env s call = true
      · rw [if_pos hreset, clearEnv_apply (hmode₁.trans hmode) hne (hpath₁.trans hpath)] at hstep
        have hmode' : (runLater env call s).2.simulatorMode = some mode := by
          rw [hstep]
          exact hmode₁.trans hmode
        have hpath' : (runLater env call s).2.ldLibraryPath = some (clearedPath path) := by
          rw [hstep]
        rw [ih hmode' hpath', split_clearedPath, if_pos hreset, Nat.add_comm 1,
          remaining, List.take_take, List.length_take, Nat.min_eq_left (b := (split path ":").length)]
        · rw [Nat.min_eq_left (remaining_le _ _)]
        · split <;> omega
      · rw [if_neg hreset] at hstep
        rw [hstep, ih (hmode₁.trans hmode) (hpath₁.trans hpath), if_neg hreset, Nat.zero_add]

theorem laterRun_path_none (calls : List Later) (hmode : s.simulatorMode = none) :
    (laterRun env calls s).ldLibraryPath = s.ldLibraryPath := by
  induction calls generalizing s with
  | nil => rfl
  | cons call calls ih =>
      obtain ⟨s₁, hmode₁, hpath₁, hstep⟩ := runLater_path env s call
      show (laterRun env calls (runLater env call s).2).ldLibraryPath = _
      rw [clearEnv_none (hmode₁.trans hmode), ite_self] at hstep
      rw [hstep, ih (hmode₁.trans hmode), hpath₁]

/-- **When the path is back**: if just the entries that were added are gone. -/
theorem intercalate_take_eq_iff (initial added : String) (k : Nat) :
    ":".intercalate ((split (initial ++ (":" ++ added)) ":").take
        (remaining (split (initial ++ (":" ++ added)) ":").length k)) = initial ↔
      Undone initial added k := by
  have hn : 0 < (split initial ":").length :=
    List.length_pos_iff.mpr (split_ne_nil initial ":")
  have hm : 0 < (split added ":").length :=
    List.length_pos_iff.mpr (split_ne_nil added ":")
  rw [split_append colon_toList, List.length_append]
  -- The pieces are those of the initial path, then the added ones.
  have hundone : Undone initial added k ↔
      remaining ((split initial ":").length + (split added ":").length) k
        = (split initial ":").length := by
    rw [remaining_eq_iff hn]
    unfold Undone
    omega
  have hpos := remaining_pos (Nat.add_pos_left hn (split added ":").length) k
  have hle := remaining_le ((split initial ":").length + (split added ":").length) k
  rw [hundone]
  generalize remaining ((split initial ":").length + (split added ":").length) k = j at hpos hle ⊢
  constructor
  · intro h
    -- Equal texts have equally many pieces, which is all that is needed.
    have hparts := congrArg (fun t => (split t ":").length) h
    rw [split_intercalate colon_toList ?_ ?_, List.length_take, List.length_append,
      Nat.min_eq_left hle] at hparts
    · exact hparts
    · rw [← List.length_pos_iff, List.length_take, List.length_append, Nat.min_eq_left hle]
      exact hpos
    · intro t ht
      rcases List.mem_append.mp (List.mem_of_mem_take ht) with ht | ht
      · exact not_mem_of_mem_split colon_toList ht
      · exact not_mem_of_mem_split colon_toList ht
  · rintro rfl
    rw [List.take_left, intercalate_split colon_toList]

end Runs

/-! ## §4. The constructor. -/

section Constructor

variable {env : RtsEnv} {simulatorMode socVersion simulatorLibPath : Option String}
  {simulatorDumpPath : String} {s : Api} {soPaths : List String} {added : String}

/-- Every simulator has libraries. -/
theorem soNames_ne_nil {mode : String} {soNames : List String}
    (h : MODEL_SO_LIST.lookup mode = some soNames) : soNames ≠ [] ∧ mode ≠ "" := by
  have hall : ∀ e ∈ MODEL_SO_LIST, e.2 ≠ [] ∧ e.1 ≠ "" := by decide
  obtain ⟨l₁, l₂, hsplit, _⟩ := List.lookup_eq_some_iff.mp h
  refine hall (mode, soNames) ?_
  rw [hsplit]
  exact List.mem_append_right l₁ List.mem_cons_self

theorem initSimulatorSoPath_ok {soNames : List String}
    (h : initSimulatorSoPath env soNames socVersion simulatorLibPath = .ok (soPaths, added))
    (hne : soNames ≠ []) : soPaths ≠ [] := by
  unfold initSimulatorSoPath at h
  obtain ⟨lib, _, h⟩ := bind_eq_ok.mp h
  obtain ⟨soc, _, h⟩ := bind_eq_ok.mp h
  dsimp only at h
  split at h
  · obtain ⟨u, hu, _⟩ := bind_eq_ok.mp h
    cases hu
  · obtain ⟨_, _, h⟩ := bind_eq_ok.mp h
    split at h
    · obtain ⟨u, hu, _⟩ := bind_eq_ok.mp h
      cases hu
    · cases h
      rw [Ne, List.map_eq_nil_iff]
      exact hne

/-- Libraries that are not loaded. -/
theorem loadDlls_error {e : PyError} (h : loadDlls env soPaths = .error e) (hne : soPaths ≠ []) :
    ∃ path ∈ soPaths, env.loads path = false := by
  unfold loadDlls at h
  cases hfind : soPaths.dropLast.find? fun path => !env.loads path with
  | some path =>
      have hnot := List.find?_some hfind
      exact ⟨path, List.dropLast_subset soPaths (List.mem_of_find?_eq_some hfind),
        by rwa [Bool.not_eq_true'] at hnot⟩
  | none =>
      rw [hfind, List.getLast?_eq_some_getLast hne] at h
      dsimp only at h
      refine ⟨soPaths.getLast hne, List.getLast_mem hne, ?_⟩
      by_contra hloads
      rw [if_pos (Bool.eq_true_of_not_eq_false hloads)] at h
      cases h

theorem loadRuntimeSo_keeps (env : RtsEnv) : PyM.Keeps Eq (loadRuntimeSo env) := by
  have htrans : ∀ s₁ s₂ s₃ : Api, s₁ = s₂ → s₂ = s₃ → s₁ = s₃ := fun _ _ _ => Eq.trans
  have hlift : ∀ {α : Type} (x : Except PyError α), PyM.Keeps Eq (PyM.lift x : Rts α) :=
    fun x => PyM.keeps_lift (fun _ => rfl) x
  unfold loadRuntimeSo
  refine .bind htrans ?_ fun path => ?_
  · unfold getLdLibraryPath
    refine .bind htrans (fun _ => rfl) fun api => ?_
    split
    · exact PyM.keeps_pure (fun _ => rfl) _
    · exact hlift _
  · refine PyM.keeps_ite (fun _ => .bind htrans (hlift _) fun _ => ?_) fun _ => ?_
    · dsimp only
      split
      · exact hlift _
      · exact hlift _
    · dsimp only
      split
      · exact hlift _
      · exact hlift _

/-- What the constructor does with the path: `paths` is what a simulator adds. -/
inductive InitPath (env : RtsEnv) (paths : Option (List String × String)) (s : Api) :
    Except PyError Unit → Api → Prop where
  | runtime (r : Except PyError Unit) (s' : Api) (hpaths : paths = none)
      (hmode : s'.simulatorMode = none) (hpath : s'.ldLibraryPath = s.ldLibraryPath) :
      InitPath env paths s r s'
  | refused (e : PyError) (s' : Api) (hpath : s'.ldLibraryPath = s.ldLibraryPath)
      (hpaths : paths = none ∨ s.ldLibraryPath = none) :
      InitPath env paths s (.error e) s'
  | added (mode : String) (soPaths : List String) (added initial : String)
      (r : Except PyError Unit) (s' : Api) (hpaths : paths = some (soPaths, added))
      (hso : soPaths ≠ []) (hne : mode ≠ "") (hmode : s'.simulatorMode = some mode)
      (hinitial : s.ldLibraryPath = some initial)
      (hpath : s'.ldLibraryPath = some (initial ++ (":" ++ added)))
      (hloads : r = loadDlls env soPaths) :
      InitPath env paths s r s'

theorem init_path (env : RtsEnv) (simulatorMode socVersion simulatorLibPath : Option String)
    (simulatorDumpPath : String) (s : Api) :
    InitPath env (addedPaths env simulatorMode socVersion simulatorLibPath simulatorDumpPath) s
      (init env simulatorMode socVersion simulatorLibPath simulatorDumpPath s).1
      (init env simulatorMode socVersion simulatorLibPath simulatorDumpPath s).2 := by
  unfold init
  rw [PyM.bind_apply]
  -- Without a simulator mode the path is left alone.
  cases simulatorMode with
  | none =>
      have hkeeps := loadRuntimeSo_keeps env { s with simulatorMode := none }
      simp only [PyM.modify, PyM.bind_apply]
      cases hload : loadRuntimeSo env { s with simulatorMode := none } with
      | mk r s' =>
          rw [hload] at hkeeps
          subst hkeeps
          cases r with
          | error e => exact .runtime _ _ rfl rfl rfl
          | ok u => exact .runtime _ _ rfl rfl rfl
  | some mode =>
      simp only [PyM.modify, PyM.bind_apply]
      unfold loadSimulatorSo
      cases hnames : MODEL_SO_LIST.lookup mode with
      | none =>
          refine .refused _ _ rfl (Or.inl ?_)
          show (MODEL_SO_LIST.lookup mode >>= _) = none
          rw [hnames]
          rfl
      | some soNames =>
          obtain ⟨hnames_ne, hmode_ne⟩ := soNames_ne_nil hnames
          have hadded : addedPaths env (some mode) socVersion simulatorLibPath simulatorDumpPath
              = if env.pathExists (env.realpath simulatorDumpPath) = false then none
                else (initSimulatorSoPath env soNames socVersion simulatorLibPath).toOption := by
            show (MODEL_SO_LIST.lookup mode >>= _) = _
            rw [hnames]
            rfl
          rw [hadded]
          dsimp only
          -- Up to here nothing has been changed: any error refuses.
          by_cases hdump : env.pathExists (env.realpath simulatorDumpPath) = false
          · simp only [if_pos hdump, PyM.bind_apply, PyM.lift_apply]
            exact .refused _ _ rfl (Or.inl rfl)
          · cases hpaths : initSimulatorSoPath env soNames socVersion simulatorLibPath with
            | error e =>
                simp only [if_neg hdump, PyM.bind_apply, PyM.lift_apply]
                exact .refused _ _ rfl (Or.inl rfl)
            | ok paths =>
                obtain ⟨soPaths, added⟩ := paths
                simp only [if_neg hdump, PyM.bind_apply, PyM.lift_apply, dllSimulatorSo,
                  getLdLibraryPath, PyM.read_apply]
                cases hpath : s.ldLibraryPath with
                | none =>
                    dsimp only
                    exact .refused _ _ hpath.symm (Or.inr hpath)
                | some initial =>
                    have hso := initSimulatorSoPath_ok hpaths hnames_ne
                    dsimp only [PyM.modify]
                    -- The path is extended first, whether or not the libraries can be loaded then.
                    cases hloads : loadDlls env soPaths with
                    | error e =>
                        exact .added mode soPaths added initial _ _ rfl hso hmode_ne rfl hpath rfl
                          hloads.symm
                    | ok u =>
                        exact .added mode soPaths added initial _ _ rfl hso hmode_ne rfl hpath rfl
                          hloads.symm

end Constructor

/-! ## §5. The path is back. -/

/-- **The path is as it was**: if the constructor raises, unless it was a library that could
not be loaded; and after any calls, if the device was reset as often as entries were added. -/
theorem path_restored_iff (env : RtsEnv)
    (simulatorMode socVersion simulatorLibPath : Option String) (simulatorDumpPath : String)
    (s : Api) :
    let r := init env simulatorMode socVersion simulatorLibPath simulatorDumpPath s
    let paths := addedPaths env simulatorMode socVersion simulatorLibPath simulatorDumpPath
    (∀ e, r.1 = .error e → (r.2.ldLibraryPath = s.ldLibraryPath ↔
        ∀ soPaths added, paths = some (soPaths, added) → s.ldLibraryPath ≠ none →
          ∀ path ∈ soPaths, env.loads path = true)) ∧
      (r.1 = .ok () → ∀ calls, (laterRun env calls r.2).ldLibraryPath = s.ldLibraryPath ↔
        ∀ soPaths added, paths = some (soPaths, added) →
          Undone (s.ldLibraryPath.getD "") added (resetCount env calls r.2)) := by
  dsimp only
  have hinit := init_path env simulatorMode socVersion simulatorLibPath simulatorDumpPath s
  generalize addedPaths env simulatorMode socVersion simulatorLibPath simulatorDumpPath = paths
    at hinit ⊢
  generalize (init env simulatorMode socVersion simulatorLibPath simulatorDumpPath s).1 = r
    at hinit ⊢
  generalize (init env simulatorMode socVersion simulatorLibPath simulatorDumpPath s).2 = s'
    at hinit ⊢
  cases hinit with
  | runtime _ _ hpaths hmode hpath =>
      subst hpaths
      refine ⟨fun e _ => iff_of_true hpath fun _ _ h => (by cases h), fun _ calls => ?_⟩
      rw [laterRun_path_none calls hmode]
      exact iff_of_true hpath fun _ _ h => (by cases h)
  | refused e _ hpath hpaths =>
      refine ⟨fun _ _ => iff_of_true hpath fun soPaths added h hne => ?_, fun h => (by cases h)⟩
      rcases hpaths with rfl | hnone
      · cases h
      · exact absurd hnone hne
  | added mode soPaths added initial _ _ hpaths hso hne hmode hinitial hpath hloads =>
      subst hpaths
      rw [hinitial]
      refine ⟨fun e he => iff_of_false ?_ fun hall => ?_, fun _ calls => ?_⟩
      · -- The path is longer.
        rw [hpath]
        intro h
        have hlen := congrArg String.length (Option.some.inj h)
        rw [String.length_append, String.length_append] at hlen
        have hcolon : ":".length = 1 := rfl
        omega
      · obtain ⟨path, hmem, hfails⟩ := loadDlls_error (hloads.symm.trans he) hso
        rw [hall soPaths added rfl (by simp) path hmem] at hfails
        cases hfails
      · rw [laterRun_path calls hmode hne hpath, Option.some.injEq, intercalate_take_eq_iff]
        constructor
        · rintro h _ _ ⟨⟩
          exact h
        · intro h
          exact h soPaths added rfl

/-- A simulator that is there, on a device on which every call succeeds. -/
def simulated : RtsEnv where
  code _ := 0
  readFile _ := .error (.osError "No such file or directory")
  pathExists _ := true
  realpath path := path
  loads _ := true

/-- The second reset takes away what was there before; and a library that is not loaded leaves
the path longer. -/
theorem path_not_restored :
    let start : Api := { ldLibraryPath := some "/lib:/usr/lib:/opt/lib" }
    let api := init simulated (some "pv") (some "Ascend310") (some "/simulator") "./model" start
    let broken := init { simulated with loads := fun _ => false } (some "pv") (some "Ascend310")
      (some "/simulator") "./model" start
    api.1 = .ok () ∧
      (laterRun simulated [.reset (some 0)] api.2).ldLibraryPath = start.ldLibraryPath ∧
      (laterRun simulated [.reset (some 0), .reset (some 0)] api.2).ldLibraryPath
        = some "/lib" ∧
      broken.1 = .error (.runtimeError
        "CDLL so failed, so_path: /simulator/Ascend310/lib/lib_pvmodel.so") ∧
      broken.2.ldLibraryPath = some
        "/lib:/usr/lib:/opt/lib:/simulator/Ascend310/lib:/simulator/common/data" := by
  decide

end RtsApi

end HwEfat.Main
