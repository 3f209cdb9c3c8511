/-
  HwEfat.Main.AtcTransformOm — the conversion of the test cases to offline models
  (`atc_transform_om.py`), and what a failure of it leaves in the report.

  `transform_acl_json_to_om` runs the command `atc` and puts the stage
  `atc_single_op_convert` in the trace of every case.  What the operating system does is
  given by an `AtcEnv`; writing `acl_op.json` is a part of it that returns or raises.
  The two environment variables for the log levels are left out.
-/
import HwEfat.Lib.Run
import HwEfat.Main.Utils
import HwEfat.Main.Report.Stages

namespace HwEfat.Main

open HwEfat.Lib (PyError PyM pathJoin raiseIf)

/-! ## §1. The operating system. -/

/-- The operating system, as the conversion sees it. -/
structure AtcEnv where
  /-- How `create_acl_op` ends. -/
  createAclOp : Except PyError Unit
  getcwd : String
  chdir : String → Except PyError Unit
  /-- The return code of a command; a command that cannot be started raises. -/
  popen : List String → Except PyError Int
  pathExists : String → Bool
  listdir : String → Except PyError (List String)

/-- `utils.execute_command` -/
def executeCommand (env : AtcEnv) (cmd : List String) : Except PyError Unit := do
  let returncode ← env.popen cmd
  raiseIf (returncode ≠ 0) (opTestGenException OP_TEST_GEN_INVALID_DATA_ERROR)

/-- `utils.check_path_exists` -/
def checkPathExists (env : AtcEnv) (path : String) (exceptionType : Int) :
    Except PyError Unit := do
  if env.pathExists path = false then throw (opTestGenException exceptionType)
  let entries ← env.listdir path
  raiseIf (entries = []) (opTestGenException exceptionType)

/-! ## §2. `AtcTransformOm`. -/

structure AtcTransformOm where
  outputPath : String

namespace AtcTransformOm

/-- `_get_atc_cmd`; `advance_args` counts with the options it gives for `atc`. -/
def getAtcCmd (socVersion : String) (advanceArgs : Option (List String)) : List String :=
  ["atc", "--singleop=test_data/config/acl_op.json", "--soc_version=" ++ socVersion,
    "--output=op_models"] ++ advanceArgs.getD []

/-- `add_op_st_stage_result` -/
def addOpStStageResult (status : String) (stageName cmd : String) : PyM ReportState Unit :=
  PyM.modify fun st => st.addToAll
    { status := status, stageName := some stageName, result := .none, cmd := some cmd }

/-- `_execute_atc_cmd` -/
def executeAtcCmd (env : AtcEnv) (atcCmd : List String) (cmdStr : String) :
    PyM ReportState Unit := do
  PyM.lift (executeCommand env atcCmd)
  addOpStStageResult SUCCESS "atc_single_op_convert" cmdStr

/-- The directory in which the command runs. -/
def runOutPath (self : AtcTransformOm) : String := pathJoin self.outputPath RUN_OUT

def opModelsPath (self : AtcTransformOm) : String := pathJoin self.runOutPath "op_models"

/-- `transform_acl_json_to_om` -/
def transformAclJsonToOm (env : AtcEnv) (self : AtcTransformOm) (socVersion : String)
    (advanceArgs : Option (List String)) : PyM ReportState Unit := do
  PyM.lift env.createAclOp
  let originPath := env.getcwd
  PyM.lift (env.chdir self.runOutPath)
  let atcCmd := getAtcCmd socVersion advanceArgs
  let cmdStr := "cd " ++ self.runOutPath ++ " && " ++ " ".intercalate atcCmd ++ " "
  PyM.tryExcept (executeAtcCmd env atcCmd cmdStr) isOpTestGenException (do
    addOpStStageResult FAILED "atc_single_op_convert" cmdStr
    let st ← PyM.read
    if EXPECT_FAILED ∉ st.report.expectDict.map Prod.snd then
      PyM.lift (checkPathExists env self.opModelsPath ATC_TRANSFORM_ERROR))
  addOpStStageResult SUCCESS "atc_single_op_convert" cmdStr
  PyM.lift (env.chdir originPath)

/-! ## §3. A command that fails. -/

variable {env : AtcEnv} {self : AtcTransformOm} {socVersion : String}
  {advanceArgs : Option (List String)} {st : ReportState}

/-- The command is run, and it fails: `execute_command` raises `OpTestGenException`. -/
structure AtcFails (env : AtcEnv) (om : AtcTransformOm) (socVersion : String)
    (advanceArgs : Option (List String)) : Prop where
  created : env.createAclOp = .ok ()
  entered : env.chdir om.runOutPath = .ok ()
  failed : ∃ k, executeCommand env (getAtcCmd socVersion advanceArgs)
    = .error (opTestGenException k)

/-- `op_models` is a directory that can be listed and is not empty: `check_path_exists`
takes it for the result of a successful conversion. -/
def HasOpModels (env : AtcEnv) (self : AtcTransformOm) : Prop :=
  env.pathExists self.opModelsPath = true ∧
    ∃ entries, env.listdir self.opModelsPath = .ok entries ∧ entries ≠ []

theorem checkPathExists_eq_ok {path : String} {k : Int} :
    checkPathExists env path k = .ok ()
      ↔ env.pathExists path = true ∧ ∃ entries, env.listdir path = .ok entries ∧ entries ≠ [] := by
  unfold checkPathExists
  cases hexists : env.pathExists path with
  | false => simp [bind, Except.bind, throw, throwThe, MonadExceptOf.throw]
  | true =>
      cases hlist : env.listdir path with
      | error e => simp [bind, Except.bind]
      | ok entries =>
          simp [bind, Except.bind, HwEfat.Lib.raiseIf_eq_ok]

/-- The stage result that is written with `status`. -/
def stageResult (self : AtcTransformOm) (socVersion : String)
    (advanceArgs : Option (List String)) (status : String) : OpSTStageResult :=
  { status := status
    stageName := some "atc_single_op_convert"
    cmd := some ("cd " ++ self.runOutPath ++ " && "
      ++ " ".intercalate (getAtcCmd socVersion advanceArgs) ++ " ") }

/-- What the method has done to the report when the command failed: it falls through to
the success unless `check_path_exists` stops it. -/
theorem transform_of_atcFails (h : AtcFails env self socVersion advanceArgs) :
    (transformAclJsonToOm env self socVersion advanceArgs st).2
      = (let failed := st.addToAll (self.stageResult socVersion advanceArgs FAILED)
        if EXPECT_FAILED ∉ st.report.expectDict.map Prod.snd ∧
            checkPathExists env self.opModelsPath ATC_TRANSFORM_ERROR ≠ .ok () then failed
        else failed.addToAll (self.stageResult socVersion advanceArgs SUCCESS)) := by
  obtain ⟨k, hfailed⟩ := h.failed
  have hcaught : isOpTestGenException (opTestGenException k) = true := rfl
  have hdict : ∀ res, (st.addToAll res).report.expectDict = st.report.expectDict := fun _ => rfl
  unfold transformAclJsonToOm executeAtcCmd addOpStStageResult stageResult
  simp only [PyM.bind_apply, PyM.lift_apply, PyM.modify_apply, PyM.read_apply, h.created,
    h.entered, hfailed, PyM.tryExcept, hcaught, hdict, if_true]
  by_cases hexpect : EXPECT_FAILED ∈ st.report.expectDict.map Prod.snd
  · simp [hexpect]
  · cases hcheck : checkPathExists env self.opModelsPath ATC_TRANSFORM_ERROR with
    | ok u => simp [hexpect]
    | error e => simp [hexpect]

/-! ## §4. What is left in the report. -/

/-- Something that happens to the report later. -/
inductive LaterStep where
  | addStageResult (positions : List Nat) (res : OpSTStageResult)
  | consolePrint

namespace LaterStep

def apply (st : ReportState) : LaterStep → Option ReportState
  | addStageResult positions res => some (st.addTo positions res)
  | consolePrint => some st.summary

/-- The step is not about the conversion. -/
def Other : LaterStep → Prop
  | addStageResult _ res => res.stageName ≠ some "atc_single_op_convert"
  | consolePrint => True

end LaterStep

/-- The stage of the conversion is a failure in every case, and every case is marked. -/
def AtcFailed (st : ReportState) : Prop :=
  st.StageIs (some "atc_single_op_convert") FAILED ∧
    ∀ caseReport ∈ st.cases, (caseReport.updateCaseStatus st.heap).status = FAILED

/-- In every state that is reached later, the failure is in the report. -/
def NeverMasked (st : ReportState) : Prop :=
  ∀ later : List LaterStep, (∀ step ∈ later, step.Other) →
    ∀ st', HwEfat.Lib.run LaterStep.apply st later = some st' → AtcFailed st'

/-- The later steps leave the stage as it is. -/
theorem stageIs_apply {status : String} {st' : ReportState} {step : LaterStep}
    (h : st.StageIs (some "atc_single_op_convert") status) (hother : step.Other)
    (hstep : LaterStep.apply st step = some st') :
    st'.StageIs (some "atc_single_op_convert") status := by
  cases step with
  | addStageResult positions res =>
      cases hstep
      exact h.addTo positions hother
  | consolePrint =>
      cases hstep
      exact h.summary

theorem neverMasked_of_stageIs (h : st.StageIs (some "atc_single_op_convert") FAILED) :
    NeverMasked st := by
  intro later hother st' hrun
  have hkept : st'.StageIs (some "atc_single_op_convert") FAILED := by
    refine HwEfat.Lib.run_induct (P := fun later st' => (∀ step ∈ later, step.Other) →
      st'.StageIs (some "atc_single_op_convert") FAILED) (fun _ => h) ?_ later st' hrun hother
    intro later st₁ step st₂ _ ih hstep hall
    have hbefore : ∀ step' ∈ later, step'.Other :=
      fun step' hmem => hall step' (List.mem_append_left _ hmem)
    exact stageIs_apply (ih hbefore) (hall step (by simp)) hstep
  exact ⟨hkept, fun _ hmem => hkept.updateCaseStatus hmem⟩

/-- **A failure of `atc` stays in the report exactly if the report is empty, or no case
is expected to fail and there are no models from an earlier conversion.**  Otherwise the
method runs on and writes a success over it. -/
theorem never_masked_iff (h : AtcFails env self socVersion advanceArgs) :
    NeverMasked (transformAclJsonToOm env self socVersion advanceArgs st).2
      ↔ st.cases = [] ∨
        (EXPECT_FAILED ∉ st.report.expectDict.map Prod.snd ∧ ¬ HasOpModels env self) := by
  have hcheck : checkPathExists env self.opModelsPath ATC_TRANSFORM_ERROR ≠ .ok ()
      ↔ ¬ HasOpModels env self := not_congr checkPathExists_eq_ok
  rw [transform_of_atcFails h]
  by_cases hstop : EXPECT_FAILED ∉ st.report.expectDict.map Prod.snd ∧ ¬ HasOpModels env self
  · -- The method raises, and the failure is the last word.
    rw [if_pos ⟨hstop.1, hcheck.mpr hstop.2⟩]
    have hstage := ReportState.stageIs_addToAll st (self.stageResult socVersion advanceArgs FAILED)
    exact ⟨fun _ => Or.inr hstop, fun _ => neverMasked_of_stageIs hstage⟩
  · rw [if_neg fun hc => hstop ⟨hc.1, hcheck.mp hc.2⟩]
    have hstage := ReportState.stageIs_addToAll
      (st.addToAll (self.stageResult socVersion advanceArgs FAILED))
      (self.stageResult socVersion advanceArgs SUCCESS)
    generalize hfinal : (st.addToAll (self.stageResult socVersion advanceArgs FAILED)).addToAll
      (self.stageResult socVersion advanceArgs SUCCESS) = final at hstage
    have hlen : final.cases.length = st.cases.length := by
      rw [← hfinal]
      unfold ReportState.addToAll
      rw [ReportState.length_addTo, ReportState.length_addTo]
    constructor
    · intro hmasked
      left
      -- A case would have the stage as a success and as a failure.
      by_contra hne
      have hpos : 0 < final.cases.length := by
        rw [hlen]
        exact List.length_pos_iff.mpr hne
      obtain ⟨hfailed, _⟩ := hmasked [] (by simp) final rfl
      obtain ⟨⟨r, hr, hname⟩, hsuccess⟩ := hstage 0 hpos
      obtain ⟨x, hx, hxname⟩ := stageOf_eq_some.mp hname
      have hs : x.status = SUCCESS := hsuccess r hr x hx hxname
      have hf : x.status = FAILED := (hfailed 0 hpos).2 r hr x hx hxname
      rw [hs] at hf
      exact absurd hf (by decide)
    · intro hcond
      rcases hcond with hnil | hno
      · refine neverMasked_of_stageIs fun i hi => ?_
        rw [hlen, hnil] at hi
        exact absurd hi (Nat.not_lt_zero i)
      · exact absurd hno hstop

/-! ## §5. Models that are left over. -/

/-- `atc` fails, and `op_models` holds the models of an earlier conversion. -/
def leftoverModels : AtcEnv where
  createAclOp := .ok ()
  getcwd := "/home"
  chdir := fun _ => .ok ()
  popen := fun _ => .ok 1
  pathExists := fun _ => true
  listdir := fun _ => .ok ["0_Add_3_2_16_16_3_2_16_16_3_2_16_16.om"]

theorem leftoverModels_atcFails :
    AtcFails leftoverModels ⟨"/out/Add"⟩ "Ascend310" none :=
  ⟨rfl, rfl, OP_TEST_GEN_INVALID_DATA_ERROR, rfl⟩

/-- The condition at a report of one case: the failure does not stay. -/
theorem never_masked_iff_oneCase :
    AtcFails leftoverModels ⟨"/out/Add"⟩ "Ascend310" none ∧
      (NeverMasked (transformAclJsonToOm leftoverModels ⟨"/out/Add"⟩ "Ascend310" none ReportState.oneCase).2
        ↔ ReportState.oneCase.cases = [] ∨
          (EXPECT_FAILED ∉ ReportState.oneCase.report.expectDict.map Prod.snd ∧
            ¬ HasOpModels leftoverModels ⟨"/out/Add"⟩)) :=
  ⟨leftoverModels_atcFails, never_masked_iff leftoverModels_atcFails⟩

/-- `atc` fails, and after the method has returned the case is a success. -/
theorem failure_masked :
    AtcFails leftoverModels ⟨"/out/Add"⟩ "Ascend310" none ∧
      (transformAclJsonToOm leftoverModels ⟨"/out/Add"⟩ "Ascend310" none ReportState.oneCase).1 = .ok () ∧
      (transformAclJsonToOm leftoverModels ⟨"/out/Add"⟩ "Ascend310" none ReportState.oneCase).2.summary.cases.map
        OpSTCaseReport.status = [SUCCESS] ∧
      ¬ NeverMasked
        (transformAclJsonToOm leftoverModels ⟨"/out/Add"⟩ "Ascend310" none ReportState.oneCase).2 := by
  have hsuccess : (transformAclJsonToOm leftoverModels ⟨"/out/Add"⟩ "Ascend310" none
      ReportState.oneCase).2.cases.map (fun caseReport => (caseReport.updateCaseStatus
        (transformAclJsonToOm leftoverModels ⟨"/out/Add"⟩ "Ascend310" none
          ReportState.oneCase).2.heap).status) = [SUCCESS] := by
    decide +kernel
  refine ⟨leftoverModels_atcFails, by rfl, by decide +kernel, fun hmasked => ?_⟩
  obtain ⟨_, hfailed⟩ := hmasked [] (by simp) _ rfl
  have hmem : SUCCESS ∈ [SUCCESS] := List.mem_singleton.mpr rfl
  rw [← hsuccess] at hmem
  obtain ⟨caseReport, hcase, hstatus⟩ := List.mem_map.mp hmem
  rw [hfailed caseReport hcase] at hstatus
  exact absurd hstatus (by decide)

end AtcTransformOm

end HwEfat.Main
