/-
  HwEfat.Main.DataGenerator.Independence — when the cases of a list get what each of them
  would get alone.

  A case without inputs ends the loop, and so does a case that raises: the cases behind it
  get nothing.  A case that is reached gets what it would get alone unless an earlier one has
  overwritten the file of a value, or has made `import_module` find another module.
  And a case without inputs never gets its expected data.

  Main result: `independent_iff`.
-/
import HwEfat.Main.DataGenerator.Share

namespace HwEfat.Main

open HwEfat.Lib (PyError PyVal PyDict PyM)

namespace DataGenerator

/-! ## §1. Lists of cases. -/

section Lists

variable {α : Type} {env : DataEnv α} {out name : String} {case : SubCase}
  {before rest l : List SubCase} {s₀ s s' s₁ a : DataState α}

/-- What is there of the case of this name is the same. -/
structure Untouched (env : DataEnv α) (out name : String) (s s' : DataState α) : Prop where
  own : SameOwn env out name s s'
  entry : s'.report.getCaseReport name = s.report.getCaseReport name

theorem Untouched.refl (s : DataState α) : Untouched env out name s s := ⟨fun _ _ => rfl, rfl⟩

theorem Untouched.trans (s₁ s₂ s₃ : DataState α) (h : Untouched env out name s₁ s₂)
    (h' : Untouched env out name s₂ s₃) : Untouched env out name s₁ s₃ :=
  ⟨fun p hp => (h'.own p hp).trans (h.own p hp), h'.entry.trans h.entry⟩

/-- Another case leaves the case alone. -/
theorem Frame.untouched (hplain : PlainCase env case) (hname : '/' ∉ name.toList)
    (hne : case.caseName ≠ name) (h : Frame env out case.caseName s s') :
    Untouched env out name s s' :=
  ⟨fun p hp => h.files p (hp.disjoint hname hplain.name hne.symm), h.report name hne.symm⟩

/-- **The other cases of a list leave a case alone.** -/
theorem keeps_generateLoop (hname : '/' ∉ name.toList)
    (hl : ∀ c ∈ l, PlainCase env c ∧ c.caseName ≠ name) :
    (generateLoop env out l).Keeps (Untouched env out name) := by
  induction l with
  | nil => exact PyM.keeps_pure Untouched.refl _
  | cons c l ih =>
      obtain ⟨⟨hplain, hne⟩, hl⟩ := List.forall_mem_cons.mp hl
      refine PyM.keeps_ite (fun _ => PyM.keeps_pure Untouched.refl _) fun _ => ?_
      refine PyM.Keeps.bind Untouched.trans ?_ fun _ => ih hl
      exact (keeps_generateCase hplain).mono fun s s' h => h.untouched hplain hname hne

/-- The loop has run over these cases: each has inputs, and none has raised. -/
structure Reached (env : DataEnv α) (out : String) (before : List SubCase) (s₀ s : DataState α) :
    Prop where
  inputs : ∀ c ∈ before, c.inputDesc ≠ []
  run : generateLoop env out before s₀ = (.ok (), s)

theorem generateLoop_cons (hne : case.inputDesc ≠ []) :
    generateLoop env out (case :: rest)
      = generateCase env out case >>= fun _ => generateLoop env out rest := by
  have hlength : ¬ case.inputDesc.length < 1 := by
    rw [Nat.lt_one_iff, List.length_eq_zero_iff]
    exact hne
  rw [generateLoop, if_neg hlength]

theorem generateLoop_nil (hnil : case.inputDesc = []) :
    generateLoop env out (case :: rest) = pure () := by
  rw [generateLoop, if_pos (by rw [hnil]; decide)]

/-- **The loop comes to the rest of the cases, or it ends before.** -/
theorem generateLoop_append (before rest : List SubCase) (s₀ : DataState α) :
    (∃ s, Reached env out before s₀ s ∧
        generateLoop env out (before ++ rest) s₀ = generateLoop env out rest s) ∨
      ((∀ s, ¬ Reached env out before s₀ s) ∧
        generateLoop env out (before ++ rest) s₀ = generateLoop env out before s₀) := by
  induction before generalizing s₀ with
  | nil => exact Or.inl ⟨s₀, ⟨List.forall_mem_nil _, rfl⟩, rfl⟩
  | cons c before ih =>
      -- A case without inputs ends the loop, and so does one that raises.
      by_cases hc : c.inputDesc = []
      · refine Or.inr ⟨fun s hreached => hreached.inputs c List.mem_cons_self hc, ?_⟩
        rw [List.cons_append, generateLoop_nil hc, generateLoop_nil hc]
      · rw [List.cons_append, generateLoop_cons hc, generateLoop_cons hc, PyM.bind_apply,
          PyM.bind_apply]
        cases hrun : generateCase env out c s₀ with
        | mk result s₁ =>
            cases result with
            | error e =>
                refine Or.inr ⟨fun s hreached => ?_, rfl⟩
                have hloop := hreached.run
                rw [generateLoop_cons hc, PyM.bind_apply, hrun] at hloop
                cases hloop
            | ok u =>
                rcases ih s₁ with ⟨s, hreached, hrest⟩ | ⟨hnot, hrest⟩
                · refine Or.inl ⟨s, ⟨List.forall_mem_cons.mpr ⟨hc, hreached.inputs⟩, ?_⟩, hrest⟩
                  rw [generateLoop_cons hc, PyM.bind_apply, hrun]
                  exact hreached.run
                · refine Or.inr ⟨fun s hreached => hnot s ⟨?_, ?_⟩, hrest⟩
                  · exact (List.forall_mem_cons.mp hreached.inputs).2
                  · have hloop := hreached.run
                    rw [generateLoop_cons hc, PyM.bind_apply, hrun] at hloop
                    exact hloop

theorem generate_one (hne : case.inputDesc ≠ []) :
    generate env out [case] s₀ = (.ok (), a) ↔
      env.checkPathValid out = .ok () ∧ generateCase env out case s₀ = (.ok (), a) := by
  unfold generate
  rw [generateLoop_cons hne, PyM.bind_eq_ok]
  constructor
  · rintro ⟨_, _, hlift, h⟩
    obtain ⟨hvalid, rfl⟩ := PyM.lift_eq_ok.mp hlift
    obtain ⟨_, s₁, hrun, h⟩ := PyM.bind_eq_ok.mp h
    cases h
    exact ⟨hvalid, hrun⟩
  · rintro ⟨hvalid, hrun⟩
    exact ⟨(), s₀, PyM.lift_eq_ok.mpr ⟨hvalid, rfl⟩, PyM.bind_eq_ok.mpr ⟨(), a, hrun, rfl⟩⟩

/-- A case that raises leaves the report alone. -/
theorem report_of_error (hplain : PlainCase env case) {e : PyError}
    (h : generateCase env out case s = (.error e, s')) : s'.report = s.report := by
  rcases PyM.bind_error h with hparams | ⟨params, s₁, hparams, h⟩
  · have hkeeps : (generateParamsDesc env out case).Keeps fun s s' => s'.report = s.report :=
      keeps_generateParamsDesc (R := fun s s' => s'.report = s.report) (fun _ => rfl)
        (fun _ _ _ h h' => h'.trans h) fun _ _ _ => rfl
    have hlast := hkeeps s
    rw [hparams] at hlast
    exact hlast
  · rcases PyM.bind_error h with hexpect | ⟨paths, s₂, hexpect, h⟩
    · have hkeeps : (generateExpectData env out case params).Keeps
          fun s s' => s'.report = s.report :=
        keeps_generateExpectData (R := fun s s' => s'.report = s.report) (fun _ _ _ h => h)
          (fun _ _ _ h h' => h'.trans h) hplain fun _ _ _ _ _ => rfl
      have hlast := hkeeps s₁
      rw [hexpect] at hlast
      exact hlast.trans (report_params hparams)
    · rw [← report_params hparams, ← report_expect hplain hexpect]
      unfold dealWithReport at h
      rcases PyM.bind_error h with hread | ⟨_, _, hread, h⟩
      · cases hread
      · cases hread
        cases hfound : s₂.report.getCaseReport case.caseName with
        | none =>
            rw [hfound] at h
            cases h
            rfl
        | some found =>
            rw [hfound] at h
            cases h

end Lists

/-! ## §2. What is left of a case. -/

section Untouched

variable {α : Type} {env : DataEnv α} {out : String} {case : SubCase} {s s' a : DataState α}

theorem Untouched.inputDataPaths (h : Untouched env out case.caseName s s') :
    inputDataPathsOf case.caseName s' = inputDataPathsOf case.caseName s := by
  unfold inputDataPathsOf
  rw [h.entry]

theorem Untouched.expectDataPaths (h : Untouched env out case.caseName s s') :
    expectDataPathsOf case.caseName s' = expectDataPathsOf case.caseName s := by
  unfold expectDataPathsOf
  rw [h.entry]

theorem Untouched.inputShare (h : Untouched env out case.caseName s s') :
    SameInputShare out case a s' ↔ SameInputShare out case a s := by
  have hfiles : ∀ i, s'.files (inputPath out case.caseName i)
      = s.files (inputPath out case.caseName i) := fun i => h.own _ (Or.inl ⟨i, rfl⟩)
  constructor
  · intro hin
    exact ⟨fun i hi => (hfiles i).symm.trans (hin.files i hi),
      h.inputDataPaths.symm.trans hin.paths⟩
  · intro hin
    exact ⟨fun i hi => (hfiles i).trans (hin.files i hi), h.inputDataPaths.trans hin.paths⟩

theorem Untouched.expectShare (hplain : PlainCase env case)
    (h : Untouched env out case.caseName s s') :
    SameExpectShare env out case a s' ↔ SameExpectShare env out case a s := by
  have hfiles : ∀ idx desc dtype, case.outputDesc[idx]? = some desc →
      desc.lookup "type" = some dtype → s'.files (expectPath env out case.caseName idx dtype)
        = s.files (expectPath env out case.caseName idx dtype) := by
    intro idx desc dtype hdesc htype
    refine h.own _ (Or.inr ⟨idx, dtype, ?_, rfl⟩)
    exact hplain.types desc (List.mem_of_getElem? hdesc) dtype htype
  constructor
  · intro hex
    refine ⟨fun idx desc dtype hdesc htype => ?_, h.expectDataPaths.symm.trans hex.paths⟩
    exact (hfiles idx desc dtype hdesc htype).symm.trans (hex.files idx desc dtype hdesc htype)
  · intro hex
    refine ⟨fun idx desc dtype hdesc htype => ?_, h.expectDataPaths.trans hex.paths⟩
    exact (hfiles idx desc dtype hdesc htype).trans (hex.files idx desc dtype hdesc htype)

end Untouched

/-! ## §3. The cases and the report. -/

section Given

variable {α : Type} {env : DataEnv α} {out : String} {cases before after : List SubCase}
  {case : SubCase} {s₀ s a : DataState α}

/-- What the callers of `generate` promise: the names of the cases are names of files and the
types are those of the operators; every case has come into the list together with an entry of
the report; and no entry has paths. -/
structure WellFormed (env : DataEnv α) (cases : List SubCase) (s₀ : DataState α) : Prop where
  plain : ∀ c ∈ cases, PlainCase env c
  entries : ∀ name, (cases.map SubCase.caseName).count name
    ≤ (s₀.report.reportList.map OpSTCaseReport.caseName).count name
  fresh : ∀ caseReport ∈ s₀.report.reportList,
    caseReport.traceDetail.stCaseInfo.inputDataPaths = none ∧
      caseReport.traceDetail.stCaseInfo.expectDataPaths = none

/-- `get_case_report` finds the entry of a name that one entry has. -/
theorem count_of_getCaseReport {rpt : OpSTReport} {name : String} {found : OpSTCaseReport × Nat}
    (h : rpt.getCaseReport name = some found) :
    (rpt.reportList.map OpSTCaseReport.caseName).count name = 1 := by
  unfold OpSTReport.getCaseReport at h
  split at h
  · next x hfilter =>
      have hlength := congrArg List.length hfilter
      rw [← List.countP_eq_length_filter] at hlength
      rw [← List.zipIdx_map_fst 0 rpt.reportList, List.map_map, List.count, List.countP_map]
      exact hlength
  · cases h

/-- The case is the only one of its name. -/
theorem WellFormed.others (h : WellFormed env (before ++ case :: after) s₀)
    {found : OpSTCaseReport × Nat} (hfound : s₀.report.getCaseReport case.caseName = some found) :
    (∀ c ∈ before, PlainCase env c ∧ c.caseName ≠ case.caseName) ∧
      ∀ c ∈ after, PlainCase env c ∧ c.caseName ≠ case.caseName := by
  have hcount := h.entries case.caseName
  rw [count_of_getCaseReport hfound, List.map_append, List.map_cons, List.count_append,
    List.count_cons_self] at hcount
  have hnot : ∀ l : List SubCase, (l.map SubCase.caseName).count case.caseName = 0 →
      ∀ c ∈ l, c.caseName ≠ case.caseName := by
    intro l hl c hc heq
    exact List.count_eq_zero.mp hl (heq ▸ List.mem_map_of_mem hc)
  refine ⟨fun c hc => ⟨h.plain c (List.mem_append_left _ hc), hnot before (by omega) c hc⟩, ?_⟩
  intro c hc
  exact ⟨h.plain c (List.mem_append_right _ (List.mem_cons_of_mem _ hc)),
    hnot after (by omega) c hc⟩

theorem WellFormed.inputDataPaths (h : WellFormed env cases s₀) {name : String}
    {found : OpSTCaseReport × Nat} (hfound : s₀.report.getCaseReport name = some found) :
    inputDataPathsOf name s₀ = some none := by
  have hmem := List.mem_of_getElem? (getCaseReport_eq_some hfound).1
  unfold inputDataPathsOf
  rw [hfound, Option.map_some, (h.fresh _ hmem).1]

theorem WellFormed.expectDataPaths (h : WellFormed env cases s₀) {name : String}
    {found : OpSTCaseReport × Nat} (hfound : s₀.report.getCaseReport name = some found) :
    found.1.traceDetail.stCaseInfo.expectDataPaths = none :=
  (h.fresh _ (List.mem_of_getElem? (getCaseReport_eq_some hfound).1)).2

/-- A case that can be generated has its entry from the beginning. -/
theorem entry_of_generateCase (hplain : PlainCase env case)
    (h : generateCase env out case s₀ = (.ok (), a)) :
    ∃ found, s₀.report.getCaseReport case.caseName = some found ∧
      inputDataPathsOf case.caseName a = some (some out) := by
  obtain ⟨params, s₁, paths, s₂, hsteps⟩ := generateCase_inv h
  obtain ⟨found, hfound, hin, _⟩ := exists_entry hsteps.reported
  rw [report_expect hplain hsteps.expected, report_params hsteps.described] at hfound
  exact ⟨found, hfound, hin⟩

/-! ## §4. The turn of a case in the loop. -/

theorem generate_of_valid (hvalid : env.checkPathValid out = .ok ()) :
    generate env out cases s₀ = generateLoop env out cases s₀ := by
  unfold generate
  rw [hvalid]
  rfl

/-- **A case with inputs gets what it would get alone exactly if it is reached** and finds the
same values and expected data. -/
theorem turn_iff (h : WellFormed env (before ++ case :: after) s₀) (hne : case.inputDesc ≠ [])
    (halone : generate env out [case] s₀ = (.ok (), a)) :
    (SameInputShare out case a (generate env out (before ++ case :: after) s₀).2 ∧
        SameExpectShare env out case a (generate env out (before ++ case :: after) s₀).2) ↔
      ∃ s, Reached env out before s₀ s ∧
        (∀ inputDesc ∈ case.inputDesc, SameValue env inputDesc s₀ s) ∧
        SameTensors env out case s₀ s := by
  have hplain : PlainCase env case := h.plain case (by simp)
  obtain ⟨hvalid, hcase⟩ := (generate_one hne).mp halone
  obtain ⟨found, hfound, hpaths⟩ := entry_of_generateCase hplain hcase
  obtain ⟨hbefore, hafter⟩ := h.others hfound
  have hfirst : Untouched env out case.caseName s₀ (generateLoop env out before s₀).2 :=
    keeps_generateLoop hplain.name hbefore s₀
  rw [generate_of_valid hvalid]
  rcases generateLoop_append before (case :: after) s₀ with
    ⟨s, hreached, hrun⟩ | ⟨hnot, hrun⟩
  · rw [hreached.run] at hfirst
    rw [hrun, generateLoop_cons hne, PyM.bind_apply]
    have hentry := hfirst.entry
    constructor
    · rintro ⟨hin, hex⟩
      cases hturn : generateCase env out case s with
      | mk result s' =>
          rw [hturn] at hin hex
          cases result with
          | error e =>
              -- The report has no paths for the case.
              have hnone : inputDataPathsOf case.caseName s' = some none := by
                have hreport : inputDataPathsOf case.caseName s'
                    = inputDataPathsOf case.caseName s := by
                  unfold inputDataPathsOf
                  rw [report_of_error hplain hturn]
                rw [hreport, hfirst.inputDataPaths, h.inputDataPaths hfound]
              have hsame := hin.paths
              rw [hpaths] at hsame
              cases hnone.symm.trans hsame
          | ok u =>
              have hlast : Untouched env out case.caseName s' (generateLoop env out after s').2 :=
                keeps_generateLoop hplain.name hafter s'
              refine ⟨s, hreached, same_of_generateCase hplain hfirst.own hentry
                (fun found' hfound' => h.expectDataPaths hfound') hcase hturn ?_ ?_⟩
              · exact hlast.inputShare.mp hin
              · exact (hlast.expectShare hplain).mp hex
    · rintro ⟨s₁, hreached₁, hvalues, htensors⟩
      obtain rfl : s₁ = s := congrArg Prod.snd (hreached₁.run.symm.trans hreached.run)
      obtain ⟨s', hturn, hin, hex⟩ :=
        generateCase_alike hplain hfirst.own hentry hvalues htensors hcase
      have hlast : Untouched env out case.caseName s' (generateLoop env out after s').2 :=
        keeps_generateLoop hplain.name hafter s'
      rw [hturn]
      exact ⟨hlast.inputShare.mpr hin, (hlast.expectShare hplain).mpr hex⟩
  · refine iff_of_false (fun hshare => ?_) fun ⟨s, hreached, _⟩ => hnot s hreached
    have hsame := hshare.1.paths
    rw [hrun, hfirst.inputDataPaths, h.inputDataPaths hfound, hpaths] at hsame
    cases hsame

/-- Without inputs no file of an input is written. -/
theorem state_params (hnil : case.inputDesc = []) {params : Params α} {s₁ : DataState α}
    (h : generateParamsDesc env out case s = (.ok params, s₁)) : s₁ = s := by
  unfold generateParamsDesc at h
  rw [hnil] at h
  obtain ⟨_, _, hinputs, h⟩ := PyM.bind_eq_ok.mp h
  cases hinputs
  obtain ⟨_, _, hlift, h⟩ := PyM.bind_eq_ok.mp h
  obtain ⟨_, rfl⟩ := PyM.lift_eq_ok.mp hlift
  exact (PyM.lift_eq_ok.mp h).2.symm

/-- The loop leaves a case without inputs as it is. -/
theorem untouched_of_nil (h : WellFormed env (before ++ case :: after) s₀)
    (hnil : case.inputDesc = []) {found : OpSTCaseReport × Nat}
    (hfound : s₀.report.getCaseReport case.caseName = some found) :
    Untouched env out case.caseName s₀ (generate env out (before ++ case :: after) s₀).2 := by
  have hplain : PlainCase env case := h.plain case (by simp)
  have hfirst : Untouched env out case.caseName s₀ (generateLoop env out before s₀).2 :=
    keeps_generateLoop hplain.name (h.others hfound).1 s₀
  unfold generate
  rw [PyM.bind_apply]
  cases hvalid : env.checkPathValid out with
  | error e => exact Untouched.refl s₀
  | ok u =>
      show Untouched env out case.caseName s₀
        (generateLoop env out (before ++ case :: after) s₀).2
      rcases generateLoop_append before (case :: after) s₀ with
        ⟨s, hreached, hrun⟩ | ⟨_, hrun⟩
      · rw [hrun, generateLoop_nil hnil]
        rw [hreached.run] at hfirst
        exact hfirst
      · rw [hrun]
        exact hfirst

/-- The expected data of a case are none: it has no function for them, or one that gives no
tensor. -/
def NoTensors (env : DataEnv α) (out : String) (case : SubCase) (s₀ : DataState α) : Prop :=
  ∀ file func, expectFuncOf case = some (file, func) → ∀ params s₁,
    generateParamsDesc env out case s₀ = (.ok params, s₁) →
      (getTensorsAndFunc env file func params s₀).1 = .ok []

/-- **A case without inputs has its expected data only if they are none.** -/
theorem skipped_iff (h : WellFormed env (before ++ case :: after) s₀) (hnil : case.inputDesc = [])
    (hcase : generateCase env out case s₀ = (.ok (), a)) :
    SameExpectShare env out case a (generate env out (before ++ case :: after) s₀).2 ↔
      NoTensors env out case s₀ := by
  have hplain : PlainCase env case := h.plain case (by simp)
  obtain ⟨found, hfound, _⟩ := entry_of_generateCase hplain hcase
  rw [(untouched_of_nil h hnil hfound).expectShare hplain]
  obtain ⟨params, s₁, paths, s₂, hsteps⟩ := generateCase_inv hcase
  obtain rfl := state_params hnil hsteps.described
  -- What the entry has at the end, and has at the beginning.
  obtain ⟨found', hfound', _, hend⟩ := exists_entry hsteps.reported
  have hstart : expectDataPathsOf case.caseName s₁ = some none := by
    unfold expectDataPathsOf
    rw [hfound, Option.map_some, h.expectDataPaths hfound]
  rw [report_expect hplain hsteps.expected] at hfound'
  rw [h.expectDataPaths hfound'] at hend
  constructor
  · intro hex file func hfunc params' s₁' hdescribed
    cases hsteps.described.symm.trans hdescribed
    obtain ⟨_, ⟨hnone, _⟩ | ⟨file', func', tensors, s₃, hfunc', hcall, hsave⟩⟩ :=
      generateExpectData_eq_ok.mp hsteps.expected
    · rw [hfunc] at hnone
      cases hnone
    · cases hfunc.symm.trans hfunc'
      have hpaths : paths = [] := by
        by_contra hne
        have hsame := hex.paths
        rw [hstart, hend, if_neg hne] at hsame
        cases hsame
      have hlength := length_saveTensors hsave
      rw [hpaths] at hlength
      rw [hcall, List.eq_nil_of_length_eq_zero hlength.symm]
  · intro hnothing
    obtain ⟨hpaths, hfiles⟩ : paths = [] ∧ s₂.files = s₁.files := by
      obtain ⟨_, ⟨_, hpaths, hsame⟩ | ⟨file, func, tensors, s₃, hfunc, hcall, hsave⟩⟩ :=
        generateExpectData_eq_ok.mp hsteps.expected
      · exact ⟨hpaths, congrArg DataState.files hsame⟩
      · have hnone := hnothing file func hfunc params s₁ hsteps.described
        rw [hcall] at hnone
        cases hnone
        cases hsave
        refine ⟨rfl, ?_⟩
        have hfiles : (getTensorsAndFunc env file func params s₁).2.files = s₁.files :=
          (keeps_getTensorsAndFunc s₁).1
        rw [hcall] at hfiles
        exact hfiles
    refine ⟨fun idx desc dtype _ _ => by rw [hsteps.files, hfiles], ?_⟩
    rw [hstart, hend, if_pos hpaths]

end Given

/-! ## §5. `generate`. -/

section Main

variable {α : Type} {env : DataEnv α} {out : String} {cases : List SubCase} {s₀ : DataState α}

/-- Every case gets what it would get alone: its share of a list of one, if it has inputs;
its expected data, as its turn makes them, if it has none. -/
structure Independent (env : DataEnv α) (out : String) (cases : List SubCase)
    (s₀ : DataState α) : Prop where
  withInputs : ∀ c ∈ cases, c.inputDesc ≠ [] → ∀ a, generate env out [c] s₀ = (.ok (), a) →
    SameInputShare out c a (generate env out cases s₀).2 ∧
      SameExpectShare env out c a (generate env out cases s₀).2
  withoutInputs : ∀ c ∈ cases, c.inputDesc = [] → ∀ a, generateCase env out c s₀ = (.ok (), a) →
    SameExpectShare env out c a (generate env out cases s₀).2

/-- Every case with inputs that can be generated alone is reached, by cases that have inputs and
do not raise, and they have left the files of its values and the function of its expected
data what they were; the expected data of a case without inputs are none. -/
structure Unhindered (env : DataEnv α) (out : String) (cases : List SubCase)
    (s₀ : DataState α) : Prop where
  reached : ∀ before c after, cases = before ++ c :: after → c.inputDesc ≠ [] →
    ∀ a, generate env out [c] s₀ = (.ok (), a) →
      ∃ s, Reached env out before s₀ s ∧ (∀ inputDesc ∈ c.inputDesc, SameValue env inputDesc s₀ s) ∧
        SameTensors env out c s₀ s
  nothing : ∀ c ∈ cases, c.inputDesc = [] → ∀ a, generateCase env out c s₀ = (.ok (), a) →
    NoTensors env out c s₀

/-- **`generate` treats the cases independently exactly if none is in the way of another**, and
none without inputs has expected data. -/
theorem independent_iff (h : WellFormed env cases s₀) :
    Independent env out cases s₀ ↔ Unhindered env out cases s₀ := by
  constructor
  · intro hind
    refine ⟨fun before c after hsplit hne a halone => ?_, fun c hc hnil a hcase => ?_⟩
    · subst hsplit
      exact (turn_iff h hne halone).mp (hind.withInputs c (by simp) hne a halone)
    · obtain ⟨before, after, rfl⟩ := List.append_of_mem hc
      exact (skipped_iff h hnil hcase).mp (hind.withoutInputs c hc hnil a hcase)
  · intro hun
    refine ⟨fun c hc hne a halone => ?_, fun c hc hnil a hcase => ?_⟩
    · obtain ⟨before, after, rfl⟩ := List.append_of_mem hc
      exact (turn_iff h hne halone).mpr (hun.reached before c after rfl hne a halone)
    · obtain ⟨before, after, rfl⟩ := List.append_of_mem hc
      exact (skipped_iff h hnil hcase).mpr (hun.nothing c hc hnil a hcase)

end Main

/-- Arrays of one dimension; no user has a module. -/
def flatEnv : DataEnv (List Int) where
  checkPathValid _ := .ok ()
  makeDirs _ := .ok ()
  save _ := .ok ()
  npType _ := .ok "int32"
  draw _ _ _ _ _ _ := .ok [3]
  fromfile data _ := .ok data
  array _ _ := .error (.typeError "int() argument must be a string")
  shape data := [data.length]
  reshape data _ := data
  module _ _ := none
  call _ _ _ _ := .error (.attributeError "module has no attribute")
  str _ := ""

def int32Desc : Desc :=
  [("name", .str "x"), ("type", .str "int32"), ("format", .str "ND"), ("shape", .list [.int 1]),
    ("value_range", .list [.int 0, .int 9]), (DATA_DISTRIBUTE, .str "uniform")]

def oneCase (caseName : String) (inputDesc : List Desc) : SubCase where
  op := .str "Add"
  stMode := none
  inputDesc
  outputDesc := [[("type", .str "int32"), ("shape", .list [.int 1])]]
  attr := []
  caseName
  expect := none

/-- No file yet, and an entry of the report for each of these cases. -/
def freshState (cases : List SubCase) : DataState (List Int) where
  files _ := none
  sysPath := []
  modules := []
  report := { reportList := cases.map fun case =>
    OpSTCaseReport.ofTrace { stCaseInfo := { caseName := case.caseName, opParams := .none } } }

theorem wellFormed_freshState {cases : List SubCase} (hplain : ∀ c ∈ cases, PlainCase flatEnv c) :
    WellFormed flatEnv cases (freshState cases) := by
  refine ⟨hplain, fun name => ?_, fun caseReport hmem => ?_⟩
  · unfold freshState
    rw [List.map_map]
    exact le_refl _
  · obtain ⟨case, _, rfl⟩ := List.mem_map.mp hmem
    exact ⟨rfl, rfl⟩

theorem plain_oneCase {caseName : String} {inputDesc : List Desc} (h : '/' ∉ caseName.toList) :
    PlainCase flatEnv (oneCase caseName inputDesc) := by
  refine ⟨h, fun desc hdesc dtype htype => ?_⟩
  cases List.mem_singleton.mp hdesc
  cases htype
  show '_' ∉ "int32".toList
  decide

/-- Two cases with an input each are independent. -/
theorem independent_iff_two :
    Independent flatEnv "out" [oneCase "Add_case_1" [int32Desc], oneCase "Add_case_2" [int32Desc]]
      (freshState [oneCase "Add_case_1" [int32Desc], oneCase "Add_case_2" [int32Desc]]) := by
  refine (independent_iff (wellFormed_freshState ?_)).mpr ⟨?_, ?_⟩
  · intro c hc
    rcases List.mem_pair.mp hc with rfl | rfl
    · exact plain_oneCase (by decide)
    · exact plain_oneCase (by decide)
  · intro before c after hsplit hne a halone
    -- No value is from a file, and there is no function of expected data.
    have hvalues : ∀ s s' : DataState (List Int), ∀ inputDesc ∈ [int32Desc],
        SameValue flatEnv inputDesc s s' := by
      intro s s' inputDesc hdesc _ path _ hfield
      cases List.mem_singleton.mp hdesc
      cases hfield
    rcases before with _ | ⟨c₁, _ | ⟨c₂, before⟩⟩
    · cases hsplit
      exact ⟨_, ⟨List.forall_mem_nil _, rfl⟩, hvalues _ _, fun _ _ hfunc => nomatch hfunc⟩
    · cases hsplit
      refine ⟨_, ⟨List.forall_mem_singleton.mpr (List.cons_ne_nil _ _), rfl⟩, hvalues _ _, ?_⟩
      exact fun _ _ hfunc => nomatch hfunc
    · have hlength := congrArg List.length hsplit
      simp at hlength
  · intro c hc hnil
    rcases List.mem_pair.mp hc with rfl | rfl
    · cases hnil
    · cases hnil

/-- A case without inputs in front: the case behind it gets no data. -/
theorem nothing_behind_skipped :
    ¬ Independent flatEnv "out" [oneCase "Add_case_1" [], oneCase "Add_case_2" [int32Desc]]
      (freshState [oneCase "Add_case_1" [], oneCase "Add_case_2" [int32Desc]]) := by
  intro hind
  have hsame := (hind.withInputs (oneCase "Add_case_2" [int32Desc]) (by simp) (List.cons_ne_nil _ _)
    _ rfl).1.paths
  revert hsame
  decide

end DataGenerator

end HwEfat.Main
