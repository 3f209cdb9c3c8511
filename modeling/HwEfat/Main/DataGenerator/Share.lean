/-
  HwEfat.Main.DataGenerator.Share — what a case gets, and when it gets the same from other
  objects.

  A case gets the files of its inputs and of its expected outputs, and the paths in its
  entry of the report.  From objects with the same files of its own it gets the same exactly
  if the values of its inputs and the function of its expected data give the same:
  `generateCase_alike` and `same_of_generateCase`.
-/
import HwEfat.Main.DataGenerator.Turn

namespace HwEfat.Main

open HwEfat.Lib (PyError PyVal PyDict PyM raiseIf raiseIf_eq_ok)

namespace DataGenerator

/-! ## §1. What a case gets. -/

section Shares

variable {α : Type}

/-- `input_data_paths` of the entry of this name, if there is one. -/
def inputDataPathsOf (name : String) (s : DataState α) : Option (Option String) :=
  (s.report.getCaseReport name).map fun found => found.1.traceDetail.stCaseInfo.inputDataPaths

/-- `expect_data_paths` of the entry of this name, if there is one. -/
def expectDataPathsOf (name : String) (s : DataState α) : Option (Option (List String)) :=
  (s.report.getCaseReport name).map fun found => found.1.traceDetail.stCaseInfo.expectDataPaths

/-- The input files and `input_data_paths` are the same. -/
structure SameInputShare (out : String) (case : SubCase) (s s' : DataState α) : Prop where
  files : ∀ i < case.inputDesc.length,
    s'.files (inputPath out case.caseName i) = s.files (inputPath out case.caseName i)
  paths : inputDataPathsOf case.caseName s' = inputDataPathsOf case.caseName s

/-- The files of the expected outputs and `expect_data_paths` are the same. -/
structure SameExpectShare (env : DataEnv α) (out : String) (case : SubCase) (s s' : DataState α) :
    Prop where
  files : ∀ idx desc dtype, case.outputDesc[idx]? = some desc → desc.lookup "type" = some dtype →
    s'.files (expectPath env out case.caseName idx dtype)
      = s.files (expectPath env out case.caseName idx dtype)
  paths : expectDataPathsOf case.caseName s' = expectDataPathsOf case.caseName s

/-- The function of the expected data gives the same for the parameters of the case, if it
has one. -/
def SameTensors (env : DataEnv α) (out : String) (case : SubCase) (s₀ s : DataState α) : Prop :=
  ∀ file func, expectFuncOf case = some (file, func) → ∀ params s₁,
    generateParamsDesc env out case s₀ = (.ok params, s₁) →
      (getTensorsAndFunc env file func params s).1 = (getTensorsAndFunc env file func params s₀).1

end Shares

/-! ## §2. Expected data. -/

section Expect

variable {α : Type} {env : DataEnv α} {out : String} {case : SubCase} {s₀ s s₀' s' : DataState α}

/-- The same modules are imported and searched. -/
def SameLoader (s₀ s : DataState α) : Prop := s.sysPath = s₀.sysPath ∧ s.modules = s₀.modules

theorem alike_getTensorsAndFunc {file : String} {func : PyVal} {params : Params α} :
    (getTensorsAndFunc env file func params).Alike SameLoader := by
  unfold getTensorsAndFunc importModule
  refine (PyM.alike_modify fun s₀ s h => ⟨by rw [h.1], h.2⟩).bind fun _ => ?_
  refine PyM.Alike.bind ?_ fun dir => (PyM.alike_lift _).bind fun result => ?_
  · refine PyM.alike_read_bind (fun s₀ s h => ?_) fun s => ?_
    · rw [h.1, h.2]
    · split
      · exact PyM.alike_pure _
      · split
        · exact PyM.alike_lift _
        · refine (PyM.alike_lift _).bind fun _ => ?_
          refine (PyM.alike_modify fun s₀ s h => ⟨h.1, by rw [h.2]⟩).bind fun _ => PyM.alike_pure _
  · cases result with
    | tensor t => exact PyM.alike_pure _
    | tensors l => exact PyM.alike_pure _

theorem alike_saveTensors {idx : Nat} {tensors : List α} :
    (saveTensors env out case idx tensors).Alike (SameOwn env out case.caseName) := by
  induction tensors generalizing idx with
  | nil => exact PyM.alike_pure _
  | cons tensor rest ih =>
      refine PyM.Alike.bind ?_ fun _ => ih.bind fun _ => PyM.alike_pure _
      unfold saveTensor
      split
      · exact PyM.alike_lift _
      · refine (PyM.alike_lift _).bind fun dtype => (PyM.alike_lift _).bind fun _ => ?_
        exact (PyM.alike_modify fun s₀ s h => h.write _ tensor).bind fun _ => PyM.alike_pure _

theorem saveTensor_inv {idx : Nat} {tensor : α} {path : String}
    (h : saveTensor env out case idx tensor s = (.ok path, s')) :
    ∃ desc dtype, case.outputDesc[idx]? = some desc ∧ desc.lookup "type" = some dtype ∧
      s' = s.write (expectPath env out case.caseName idx dtype) tensor := by
  unfold saveTensor at h
  cases hdesc : case.outputDesc[idx]? with
  | none =>
      rw [hdesc] at h
      cases h
  | some desc =>
      rw [hdesc] at h
      obtain ⟨dtype, _, hlift, h⟩ := PyM.bind_eq_ok.mp h
      obtain ⟨htype, rfl⟩ := PyM.lift_eq_ok.mp hlift
      obtain ⟨_, _, hlift, h⟩ := PyM.bind_eq_ok.mp h
      obtain ⟨_, rfl⟩ := PyM.lift_eq_ok.mp hlift
      obtain ⟨_, _, hwrite, h⟩ := PyM.bind_eq_ok.mp h
      cases hwrite
      cases h
      exact ⟨desc, dtype, rfl, PyDict.getItem_eq_ok.mp htype, rfl⟩

theorem length_saveTensors {idx : Nat} {tensors : List α} {paths : List String}
    (h : saveTensors env out case idx tensors s = (.ok paths, s')) :
    paths.length = tensors.length := by
  induction tensors generalizing idx paths s with
  | nil =>
      cases h
      rfl
  | cons tensor rest ih =>
      obtain ⟨_, s₁, _, h⟩ := PyM.bind_eq_ok.mp h
      obtain ⟨paths', s₂, hrest, h⟩ := PyM.bind_eq_ok.mp h
      cases h
      rw [List.length_cons, List.length_cons, ih hrest]

/-- A file that is written stays while the later ones are written. -/
theorem files_saveTensors (hplain : PlainCase env case) {idx : Nat} {tensors : List α}
    {paths : List String} {dtype : PyVal} (hdtype : PlainType env dtype)
    (h : saveTensors env out case (idx + 1) tensors s = (.ok paths, s')) :
    s'.files (expectPath env out case.caseName idx dtype)
      = s.files (expectPath env out case.caseName idx dtype) := by
  have hkeeps : (saveTensors env out case (idx + 1) tensors).Keeps fun s s' =>
      s'.files (expectPath env out case.caseName idx dtype)
        = s.files (expectPath env out case.caseName idx dtype) := by
    refine keeps_saveTensors (R := fun s s' =>
      s'.files (expectPath env out case.caseName idx dtype)
        = s.files (expectPath env out case.caseName idx dtype))
      (fun _ => rfl) (fun _ _ _ h h' => h'.trans h) hplain ?_
    intro j dtype' t data hj hdtype'
    refine Function.update_of_ne (fun heq => ?_) _ _
    have hidx := (expectPath_inj hplain.name hplain.name hdtype hdtype' heq).2
    omega
  have hlast := hkeeps s
  rw [h] at hlast
  exact hlast

/-- **The expected data with the same files in both runs.** -/
theorem saveTensors_same (hplain : PlainCase env case) {idx : Nat} {tensors₀ tensors : List α}
    {paths₀ paths : List String}
    (h₀ : saveTensors env out case idx tensors₀ s₀ = (.ok paths₀, s₀'))
    (h : saveTensors env out case idx tensors s = (.ok paths, s'))
    (hlength : tensors.length = tensors₀.length)
    (hfinal : ∀ idx desc dtype, case.outputDesc[idx]? = some desc →
      desc.lookup "type" = some dtype →
        s'.files (expectPath env out case.caseName idx dtype)
          = s₀'.files (expectPath env out case.caseName idx dtype)) :
    tensors = tensors₀ := by
  induction tensors₀ generalizing idx tensors paths₀ paths s₀ s with
  | nil => exact List.length_eq_zero_iff.mp hlength
  | cons tensor₀ rest₀ ih =>
      cases tensors with
      | nil => cases hlength
      | cons tensor rest =>
          obtain ⟨_, s₁, hfirst₀, h₀⟩ := PyM.bind_eq_ok.mp h₀
          obtain ⟨paths₁, _, hrest₀, h₀⟩ := PyM.bind_eq_ok.mp h₀
          cases h₀
          obtain ⟨_, s₂, hfirst, h⟩ := PyM.bind_eq_ok.mp h
          obtain ⟨paths₂, _, hrest, h⟩ := PyM.bind_eq_ok.mp h
          cases h
          obtain ⟨desc, dtype, hdesc, htype, rfl⟩ := saveTensor_inv hfirst₀
          obtain ⟨desc', dtype', hdesc', htype', rfl⟩ := saveTensor_inv hfirst
          cases hdesc.symm.trans hdesc'
          cases htype.symm.trans htype'
          have hdtype := hplain.types desc (List.mem_of_getElem? hdesc) dtype htype
          have hlast := hfinal idx desc dtype hdesc htype
          -- The later files have other names, so this one holds what was saved first.
          rw [files_saveTensors hplain hdtype hrest,
            files_saveTensors hplain hdtype hrest₀] at hlast
          have hsame : tensor = tensor₀ := by
            unfold DataState.write at hlast
            dsimp only at hlast
            rw [Function.update_self, Function.update_self] at hlast
            exact Option.some.inj hlast
          rw [hsame, ih hrest₀ hrest (Nat.succ.inj hlength)]

/-- The expected data are nothing, or what the function returns. -/
theorem generateExpectData_eq_ok {params : Params α} {paths : List String} :
    generateExpectData env out case params s = (.ok paths, s') ↔
      env.makeDirs (HwEfat.Lib.pathJoin out "expect") = .ok () ∧
        ((expectFuncOf case = none ∧ paths = [] ∧ s' = s) ∨
          ∃ file func tensors s₁, expectFuncOf case = some (file, func) ∧
            getTensorsAndFunc env file func params s = (.ok tensors, s₁) ∧
            saveTensors env out case 0 tensors s₁ = (.ok paths, s')) := by
  unfold generateExpectData
  rw [PyM.bind_eq_ok]
  constructor
  · rintro ⟨_, _, hlift, h⟩
    obtain ⟨hdirs, rfl⟩ := PyM.lift_eq_ok.mp hlift
    refine ⟨hdirs, ?_⟩
    cases hfunc : expectFuncOf case with
    | none =>
        rw [hfunc] at h
        cases h
        exact Or.inl ⟨rfl, rfl, rfl⟩
    | some found =>
        rw [hfunc] at h
        obtain ⟨tensors, s₁, htensors, h⟩ := PyM.bind_eq_ok.mp h
        exact Or.inr ⟨found.1, found.2, tensors, s₁, rfl, htensors, h⟩
  · rintro ⟨hdirs, ⟨hfunc, rfl, rfl⟩ | ⟨file, func, tensors, s₁, hfunc, htensors, h⟩⟩
    · refine ⟨(), s', PyM.lift_eq_ok.mpr ⟨hdirs, rfl⟩, ?_⟩
      rw [hfunc]
      rfl
    · refine ⟨(), s, PyM.lift_eq_ok.mpr ⟨hdirs, rfl⟩, ?_⟩
      rw [hfunc]
      exact PyM.bind_eq_ok.mpr ⟨tensors, s₁, htensors, h⟩

end Expect

/-! ## §3. A whole case. -/

section Whole

variable {α : Type} {env : DataEnv α} {out : String} {case : SubCase} {s₀ s s₀' s' a : DataState α}

/-- What dealing with the report does. -/
theorem dealWithReport_eq_ok {name : String} {paths : List String} :
    dealWithReport out name paths s = (.ok (), s') ↔
      ∃ found, s.report.getCaseReport name = some found ∧
        s' = { s with report := s.report.setAt found.2 (withPaths found.1 out paths) } := by
  unfold dealWithReport
  rw [PyM.bind_eq_ok]
  constructor
  · rintro ⟨_, _, hread, h⟩
    cases hread
    cases hfound : s.report.getCaseReport name with
    | none =>
        rw [hfound] at h
        cases h
    | some found =>
        rw [hfound] at h
        cases h
        exact ⟨found, rfl, rfl⟩
  · rintro ⟨found, hfound, rfl⟩
    refine ⟨s, s, rfl, ?_⟩
    rw [hfound]
    rfl

/-- A case that is generated has its entry of the report. -/
theorem exists_entry {name : String} {paths : List String}
    (h : dealWithReport out name paths s = (.ok (), s')) :
    ∃ found, s.report.getCaseReport name = some found ∧
      inputDataPathsOf name s' = some (some out) ∧
      expectDataPathsOf name s' = some (if paths = [] then
        found.1.traceDetail.stCaseInfo.expectDataPaths else some paths) := by
  obtain ⟨found, hfound, rfl⟩ := dealWithReport_eq_ok.mp h
  have hname : (withPaths found.1 out paths).caseName = name :=
    (getCaseReport_eq_some hfound).2.1
  have hset := getCaseReport_setAt hfound hname
  refine ⟨found, hfound, ?_, ?_⟩
  · unfold inputDataPathsOf
    rw [hset]
    unfold withPaths
    dsimp only [Option.map_some]
    split <;> rfl
  · unfold expectDataPathsOf
    rw [hset]
    unfold withPaths
    dsimp only [Option.map_some]
    split <;> rfl

/-- The steps of a case. -/
structure Steps (env : DataEnv α) (out : String) (case : SubCase) (s s' : DataState α)
    (params : Params α) (s₁ : DataState α) (paths : List String) (s₂ : DataState α) : Prop where
  described : generateParamsDesc env out case s = (.ok params, s₁)
  expected : generateExpectData env out case params s₁ = (.ok paths, s₂)
  reported : dealWithReport out case.caseName paths s₂ = (.ok (), s')

theorem generateCase_inv (h : generateCase env out case s = (.ok (), s')) :
    ∃ params s₁ paths s₂, Steps env out case s s' params s₁ paths s₂ := by
  obtain ⟨params, s₁, hparams, h⟩ := PyM.bind_eq_ok.mp h
  obtain ⟨paths, s₂, hexpect, hreport⟩ := PyM.bind_eq_ok.mp h
  exact ⟨params, s₁, paths, s₂, hparams, hexpect, hreport⟩

section OneRun

variable {params : Params α} {paths : List String} {s₁ s₂ : DataState α}

theorem Steps.run (h : Steps env out case s s' params s₁ paths s₂) :
    generateCase env out case s = (.ok (), s') :=
  PyM.bind_eq_ok.mpr ⟨_, _, h.described, PyM.bind_eq_ok.mpr ⟨_, _, h.expected, h.reported⟩⟩

theorem sameLoader_params (h : generateParamsDesc env out case s = (.ok params, s₁)) :
    SameLoader s s₁ := by
  have hkeeps : (generateParamsDesc env out case).Keeps SameLoader :=
    keeps_generateParamsDesc (fun _ => ⟨rfl, rfl⟩)
      (fun _ _ _ h h' => ⟨h'.1.trans h.1, h'.2.trans h.2⟩) fun _ _ _ => ⟨rfl, rfl⟩
  have hlast := hkeeps s
  rw [h] at hlast
  exact hlast

/-- The parameters leave what the users' function gives. -/
theorem tensors_params {file : String} {func : PyVal} {params' : Params α}
    (h : generateParamsDesc env out case s = (.ok params, s₁)) :
    (getTensorsAndFunc env file func params' s₁).1
      = (getTensorsAndFunc env file func params' s).1 :=
  (alike_getTensorsAndFunc s s₁ (sameLoader_params h)).1

theorem report_params (h : generateParamsDesc env out case s = (.ok params, s₁)) :
    s₁.report = s.report := by
  have hkeeps : (generateParamsDesc env out case).Keeps fun s s' => s'.report = s.report :=
    keeps_generateParamsDesc (R := fun s s' => s'.report = s.report) (fun _ => rfl)
      (fun _ _ _ h h' => h'.trans h) fun _ _ _ => rfl
  have hlast := hkeeps s
  rw [h] at hlast
  exact hlast

theorem report_expect (hplain : PlainCase env case)
    (h : generateExpectData env out case params s = (.ok paths, s₁)) : s₁.report = s.report := by
  have hkeeps : (generateExpectData env out case params).Keeps fun s s' => s'.report = s.report :=
    keeps_generateExpectData (R := fun s s' => s'.report = s.report) (fun _ _ _ h => h)
      (fun _ _ _ h h' => h'.trans h) hplain fun _ _ _ _ _ => rfl
  have hlast := hkeeps s
  rw [h] at hlast
  exact hlast

/-- The expected data leave the files of the inputs. -/
theorem inputs_expect (hplain : PlainCase env case)
    (h : generateExpectData env out case params s = (.ok paths, s₁)) (i : Nat) :
    s₁.files (inputPath out case.caseName i) = s.files (inputPath out case.caseName i) := by
  have hkeeps : (generateExpectData env out case params).Keeps fun s s' =>
      s'.files (inputPath out case.caseName i) = s.files (inputPath out case.caseName i) := by
    refine keeps_generateExpectData (R := fun s s' =>
      s'.files (inputPath out case.caseName i) = s.files (inputPath out case.caseName i))
      (fun _ _ h _ => by rw [h]) (fun _ _ _ h h' => h'.trans h) hplain fun j dtype t data _ => ?_
    exact Function.update_of_ne (inputPath_ne_expectPath hplain.name hplain.name) _ _
  have hlast := hkeeps s
  rw [h] at hlast
  exact hlast

theorem Steps.inputFile (h : Steps env out case s s' params s₁ paths s₂)
    (hplain : PlainCase env case) (i : Nat) :
    s'.files (inputPath out case.caseName i) = s₁.files (inputPath out case.caseName i) := by
  obtain ⟨found, _, rfl⟩ := dealWithReport_eq_ok.mp h.reported
  exact inputs_expect hplain h.expected i

theorem Steps.files (h : Steps env out case s s' params s₁ paths s₂) : s'.files = s₂.files := by
  obtain ⟨found, _, rfl⟩ := dealWithReport_eq_ok.mp h.reported
  rfl

end OneRun

/-- **A case from other objects**: its own files and its entry are the same, and so are
the values and the expected data that it asks for; then it gets the same. -/
theorem generateCase_alike (hplain : PlainCase env case)
    (hown : SameOwn env out case.caseName s₀ s)
    (hentry : s.report.getCaseReport case.caseName = s₀.report.getCaseReport case.caseName)
    (hvalues : ∀ inputDesc ∈ case.inputDesc, SameValue env inputDesc s₀ s)
    (htensors : SameTensors env out case s₀ s)
    (h₀ : generateCase env out case s₀ = (.ok (), a)) :
    ∃ s', generateCase env out case s = (.ok (), s') ∧ SameInputShare out case a s' ∧
      SameExpectShare env out case a s' := by
  obtain ⟨params, t₁, paths, t₂, hsteps⟩ := generateCase_inv h₀
  obtain ⟨s₁, hdescribed, hinputs⟩ :=
    alike_generateParamsDesc.exists_ok ⟨hown, hvalues⟩ hsteps.described
  -- The expected data.
  obtain ⟨s₂, hexpected, hown₂⟩ : ∃ s₂,
      generateExpectData env out case params s₁ = (.ok paths, s₂) ∧
        SameOwn env out case.caseName t₂ s₂ := by
    obtain ⟨hdirs, ⟨hfunc, rfl, rfl⟩ | ⟨file, func, tensors, t₃, hfunc, hcall, hsave⟩⟩ :=
      generateExpectData_eq_ok.mp hsteps.expected
    · exact ⟨s₁, generateExpectData_eq_ok.mpr ⟨hdirs, Or.inl ⟨hfunc, rfl, rfl⟩⟩, hinputs.own⟩
    · have hresult : (getTensorsAndFunc env file func params s₁).1 = .ok tensors := by
        rw [tensors_params hdescribed, htensors file func hfunc params t₁ hsteps.described,
          ← tensors_params hsteps.described, hcall]
      have hfiles : (getTensorsAndFunc env file func params s₁).2.files = s₁.files :=
        (keeps_getTensorsAndFunc s₁).1
      have hfiles₀ : (getTensorsAndFunc env file func params t₁).2.files = t₁.files :=
        (keeps_getTensorsAndFunc t₁).1
      rw [hcall] at hfiles₀
      obtain ⟨s₂, hsave', hown₂⟩ := alike_saveTensors.exists_ok
        (s := (getTensorsAndFunc env file func params s₁).2)
        (fun p hp => by rw [hfiles, hfiles₀, hinputs.own p hp]) hsave
      exact ⟨s₂, generateExpectData_eq_ok.mpr ⟨hdirs, Or.inr ⟨file, func, tensors, _, hfunc,
        Prod.ext hresult rfl, hsave'⟩⟩, hown₂⟩
  -- The report.
  have hentry₂ : s₂.report.getCaseReport case.caseName = t₂.report.getCaseReport case.caseName := by
    rw [report_expect hplain hexpected, report_params hdescribed,
      report_expect hplain hsteps.expected, report_params hsteps.described, hentry]
  obtain ⟨s', hreported⟩ : ∃ s', dealWithReport out case.caseName paths s₂ = (.ok (), s') := by
    obtain ⟨found, hfound, _⟩ := dealWithReport_eq_ok.mp hsteps.reported
    exact ⟨_, dealWithReport_eq_ok.mpr ⟨found, hentry₂.trans hfound, rfl⟩⟩
  have hsteps' : Steps env out case s s' params s₁ paths s₂ := ⟨hdescribed, hexpected, hreported⟩
  obtain ⟨found₁, hfound₁, hin, hex⟩ := exists_entry hsteps.reported
  obtain ⟨found₂, hfound₂, hin', hex'⟩ := exists_entry hreported
  cases hfound₁.symm.trans (hentry₂.symm.trans hfound₂)
  have hfiles : ∀ p, OwnPath env out case.caseName p → s'.files p = a.files p := by
    intro p hp
    rw [hsteps.files, hsteps'.files, hown₂ p hp]
  refine ⟨s', hsteps'.run, ⟨fun i _ => hfiles _ (Or.inl ⟨i, rfl⟩), hin'.trans hin.symm⟩,
    ⟨fun idx desc dtype hdesc htype => ?_, hex'.trans hex.symm⟩⟩
  exact hfiles _ (Or.inr ⟨idx, dtype,
    hplain.types desc (List.mem_of_getElem? hdesc) dtype htype, rfl⟩)

section TwoRuns

variable {params₀ params : Params α} {paths₀ paths : List String} {t₁ t₂ s₁ s₂ : DataState α}

/-- With the same input files at the end, the parameters are the same, and the values were. -/
theorem params_same (hplain : PlainCase env case) (hown : SameOwn env out case.caseName s₀ s)
    (hsteps₀ : Steps env out case s₀ a params₀ t₁ paths₀ t₂)
    (hsteps : Steps env out case s s' params s₁ paths s₂) (hin : SameInputShare out case a s') :
    params = params₀ ∧ ∀ inputDesc ∈ case.inputDesc, SameValue env inputDesc s₀ s := by
  obtain ⟨inputs₀, _, hgot₀, hrest₀⟩ := PyM.bind_eq_ok.mp hsteps₀.described
  obtain ⟨outputs₀, _, hlift, hrest₀⟩ := PyM.bind_eq_ok.mp hrest₀
  obtain ⟨houtputs₀, rfl⟩ := PyM.lift_eq_ok.mp hlift
  obtain ⟨hattrs₀, rfl⟩ := PyM.lift_eq_ok.mp hrest₀
  obtain ⟨inputs, _, hgot, hrest⟩ := PyM.bind_eq_ok.mp hsteps.described
  obtain ⟨outputs, _, hlift, hrest⟩ := PyM.bind_eq_ok.mp hrest
  obtain ⟨houtputs, rfl⟩ := PyM.lift_eq_ok.mp hlift
  obtain ⟨hattrs, rfl⟩ := PyM.lift_eq_ok.mp hrest
  obtain ⟨rfl, hvalues⟩ := getInputs_same hgot₀ hgot hown fun j _ hj => by
    rw [← hsteps.inputFile hplain j, ← hsteps₀.inputFile hplain j]
    exact hin.files j (by omega)
  cases houtputs₀.symm.trans houtputs
  cases hattrs₀.symm.trans hattrs
  exact ⟨rfl, hvalues⟩

/-- With the same `expect_data_paths` at the end, there are as many expected outputs. -/
theorem paths_same (hplain : PlainCase env case)
    (hentry : s.report.getCaseReport case.caseName = s₀.report.getCaseReport case.caseName)
    (hfresh : ∀ found, s₀.report.getCaseReport case.caseName = some found →
      found.1.traceDetail.stCaseInfo.expectDataPaths = none)
    (hsteps₀ : Steps env out case s₀ a params₀ t₁ paths₀ t₂)
    (hsteps : Steps env out case s s' params s₁ paths s₂)
    (hex : SameExpectShare env out case a s') : paths = paths₀ := by
  obtain ⟨found₀, hfound₀, _, hpaths₀⟩ := exists_entry hsteps₀.reported
  obtain ⟨found, hfound, _, hpaths⟩ := exists_entry hsteps.reported
  rw [report_expect hplain hsteps₀.expected, report_params hsteps₀.described] at hfound₀
  rw [report_expect hplain hsteps.expected, report_params hsteps.described, hentry,
    hfound₀] at hfound
  cases hfound
  have hsame := hex.paths
  rw [hpaths₀, hpaths, hfresh found₀ hfound₀] at hsame
  by_cases hnil : paths = []
  · by_cases hnil₀ : paths₀ = []
    · rw [hnil, hnil₀]
    · rw [if_pos hnil, if_neg hnil₀] at hsame
      cases hsame
  · by_cases hnil₀ : paths₀ = []
    · rw [if_neg hnil, if_pos hnil₀] at hsame
      cases hsame
    · rw [if_neg hnil, if_neg hnil₀] at hsame
      exact Option.some.inj (Option.some.inj hsame)

end TwoRuns

/-- **A case that gets the same from other objects** has found the same values and expected
data. -/
theorem same_of_generateCase (hplain : PlainCase env case)
    (hown : SameOwn env out case.caseName s₀ s)
    (hentry : s.report.getCaseReport case.caseName = s₀.report.getCaseReport case.caseName)
    (hfresh : ∀ found, s₀.report.getCaseReport case.caseName = some found →
      found.1.traceDetail.stCaseInfo.expectDataPaths = none)
    (h₀ : generateCase env out case s₀ = (.ok (), a))
    (h : generateCase env out case s = (.ok (), s'))
    (hin : SameInputShare out case a s') (hex : SameExpectShare env out case a s') :
    (∀ inputDesc ∈ case.inputDesc, SameValue env inputDesc s₀ s) ∧
      SameTensors env out case s₀ s := by
  obtain ⟨params₀, t₁, paths₀, t₂, hsteps₀⟩ := generateCase_inv h₀
  obtain ⟨params, s₁, paths, s₂, hsteps⟩ := generateCase_inv h
  -- The shared files fix the parameters and the paths; the tensors are what is left.
  obtain ⟨rfl, hvalues⟩ := params_same hplain hown hsteps₀ hsteps hin
  obtain rfl := paths_same hplain hentry hfresh hsteps₀ hsteps hex
  refine ⟨hvalues, fun file func hfunc params' s₁' hdescribed => ?_⟩
  cases hsteps₀.described.symm.trans hdescribed
  obtain ⟨_, ⟨hnone, _⟩ | ⟨file₀, func₀, tensors₀, t₃, hfunc₀, hcall₀, hsave₀⟩⟩ :=
    generateExpectData_eq_ok.mp hsteps₀.expected
  · rw [hfunc] at hnone
    cases hnone
  obtain ⟨_, ⟨hnone, _⟩ | ⟨file₁, func₁, tensors, s₃, hfunc₁, hcall, hsave⟩⟩ :=
    generateExpectData_eq_ok.mp hsteps.expected
  · rw [hfunc] at hnone
    cases hnone
  cases hfunc.symm.trans hfunc₀
  cases hfunc.symm.trans hfunc₁
  have hlength : tensors.length = tensors₀.length :=
    (length_saveTensors hsave).symm.trans (length_saveTensors hsave₀)
  have htensors : tensors = tensors₀ := by
    refine saveTensors_same hplain hsave₀ hsave hlength fun idx desc dtype hdesc htype => ?_
    rw [← hsteps.files, ← hsteps₀.files]
    exact hex.files idx desc dtype hdesc htype
  rw [← tensors_params hsteps.described, ← tensors_params hsteps₀.described, hcall, hcall₀,
    htensors]

end Whole

end DataGenerator

end HwEfat.Main
