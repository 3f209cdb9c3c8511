/-
  HwEfat.Main.DataGenerator.Turn — what the generation of one case touches, and what of its
  result depends on what other cases have left.

  A case writes its own files and its own entry of the report (`Frame`).  It reads, besides
  these, the files of values that its inputs name and the modules that are imported; if
  they give it the same, it makes the same (`generateCase_alike`), and only then
  (`same_of_generateCase`).
-/
import HwEfat.Lib.Frame
import HwEfat.Main.DataGenerator.Paths

namespace HwEfat.Main

open HwEfat.Lib (PyError PyVal PyDict PyM raiseIf raiseIf_eq_ok)

namespace DataGenerator

/-! ## §1. The case's own files. -/

/-- The file is one of the case of this name. -/
def OwnPath {α : Type} (env : DataEnv α) (out name p : String) : Prop :=
  (∃ i, p = inputPath out name i) ∨
    ∃ i dtype, PlainType env dtype ∧ p = expectPath env out name i dtype

/-- The name has no slash, and the types of the outputs no underscore. -/
structure PlainCase {α : Type} (env : DataEnv α) (case : SubCase) : Prop where
  name : '/' ∉ case.caseName.toList
  types : ∀ desc ∈ case.outputDesc, ∀ dtype, desc.lookup "type" = some dtype → PlainType env dtype

section Own

variable {α : Type} {env : DataEnv α} {out name name' p : String}

/-- Cases of different names have different files. -/
theorem OwnPath.disjoint (hname : '/' ∉ name.toList) (hname' : '/' ∉ name'.toList)
    (hne : name ≠ name') (h : OwnPath env out name p) : ¬ OwnPath env out name' p := by
  rintro (⟨j, hj⟩ | ⟨j, dtype', hdtype', hj⟩)
  · rcases h with ⟨i, rfl⟩ | ⟨i, dtype, hdtype, rfl⟩
    · exact hne (inputPath_inj hname hname' hj).1
    · exact inputPath_ne_expectPath hname' hname hj.symm
  · rcases h with ⟨i, rfl⟩ | ⟨i, dtype, hdtype, rfl⟩
    · exact inputPath_ne_expectPath hname hname' hj
    · exact hne (expectPath_inj hname hname' hdtype hdtype' hj).1

end Own

/-! ## §2. What a case touches. -/

section Touches

variable {α : Type} {env : DataEnv α} {out name : String} {case : SubCase}
  {s s' s₁ : DataState α}

/-- Only the case's own files are different, and perhaps the modules. -/
structure Writes (env : DataEnv α) (out name : String) (s s' : DataState α) : Prop where
  files : ∀ p, ¬ OwnPath env out name p → s'.files p = s.files p
  report : s'.report = s.report

/-- Only the case's own files and its entry of the report are different, and perhaps the
modules. -/
structure Frame (env : DataEnv α) (out name : String) (s s' : DataState α) : Prop where
  files : ∀ p, ¬ OwnPath env out name p → s'.files p = s.files p
  report : ∀ name' ≠ name, s'.report.getCaseReport name' = s.report.getCaseReport name'

theorem Writes.refl (s : DataState α) : Writes env out name s s := ⟨fun _ _ => rfl, rfl⟩

theorem Writes.trans (s₁ s₂ s₃ : DataState α) (h : Writes env out name s₁ s₂)
    (h' : Writes env out name s₂ s₃) : Writes env out name s₁ s₃ :=
  ⟨fun p hp => (h'.files p hp).trans (h.files p hp), h'.report.trans h.report⟩

theorem Frame.refl (s : DataState α) : Frame env out name s s := ⟨fun _ _ => rfl, fun _ _ => rfl⟩

theorem Frame.trans (s₁ s₂ s₃ : DataState α) (h : Frame env out name s₁ s₂)
    (h' : Frame env out name s₂ s₃) : Frame env out name s₁ s₃ :=
  ⟨fun p hp => (h'.files p hp).trans (h.files p hp),
    fun name' hne => (h'.report name' hne).trans (h.report name' hne)⟩

theorem Writes.frame (h : Writes env out name s s') : Frame env out name s s' :=
  ⟨h.files, fun name' _ => by rw [h.report]⟩

theorem writes_write {p : String} (hp : OwnPath env out name p) (data : α) :
    Writes env out name s (s.write p data) := by
  refine ⟨fun q hq => Function.update_of_ne ?_ _ _, rfl⟩
  rintro rfl
  exact hq hp

section Keeps

variable {R : DataState α → DataState α → Prop} (hrefl : ∀ s, R s s)
  (htrans : ∀ s₁ s₂ s₃, R s₁ s₂ → R s₂ s₃ → R s₁ s₃)

include hrefl htrans

theorem keeps_getInputData {path : String} {inputShape : PyVal} {inputDesc : Desc}
    (hwrite : ∀ s data, R s (s.write path data)) :
    (getInputData env path inputShape inputDesc).Keeps R := by
  unfold getInputData getTransData
  refine PyM.keeps_ite (fun _ => ?_) fun _ => ?_
  · exact (PyM.keeps_read hrefl).bind htrans fun s => PyM.keeps_lift hrefl _
  · refine (PyM.keeps_read hrefl).bind htrans fun s => ?_
    refine (PyM.keeps_lift hrefl _).bind htrans fun _ => ?_
    refine (PyM.keeps_lift hrefl _).bind htrans fun data => ?_
    refine (PyM.keeps_lift hrefl _).bind htrans fun _ => ?_
    exact (PyM.keeps_modify fun s => hwrite s data).bind htrans fun _ => PyM.keeps_pure hrefl _

theorem keeps_getInputs {i : Nat} {inputDesc : List Desc} {params : Params α}
    (hwrite : ∀ i s data, R s (s.write (inputPath out name i) data)) :
    (getInputs env out name i inputDesc params).Keeps R := by
  induction inputDesc generalizing i params with
  | nil => exact PyM.keeps_pure hrefl _
  | cons desc rest ih =>
      refine PyM.Keeps.bind htrans ?_ fun _ => ih
      unfold getInput
      refine PyM.keeps_ite (fun _ => PyM.keeps_pure hrefl _) fun _ => ?_
      refine (PyM.keeps_lift hrefl _).bind htrans fun shape => ?_
      exact (keeps_getInputData hrefl htrans (hwrite i)).bind htrans fun _ =>
        PyM.keeps_lift hrefl _

/-- The parameters of a case write the files of its inputs. -/
theorem keeps_generateParamsDesc
    (hwrite : ∀ i s data, R s (s.write (inputPath out case.caseName i) data)) :
    (generateParamsDesc env out case).Keeps R := by
  refine (keeps_getInputs hrefl htrans hwrite).bind htrans fun _ => ?_
  exact (PyM.keeps_lift hrefl _).bind htrans fun _ => PyM.keeps_lift hrefl _

theorem keeps_saveTensors (hplain : PlainCase env case) {idx : Nat} {tensors : List α}
    (hwrite : ∀ j dtype s data, idx ≤ j → PlainType env dtype →
      R s (s.write (expectPath env out case.caseName j dtype) data)) :
    (saveTensors env out case idx tensors).Keeps R := by
  induction tensors generalizing idx with
  | nil => exact PyM.keeps_pure hrefl _
  | cons tensor rest ih =>
      have hrest := ih fun j dtype s data hj => hwrite j dtype s data (Nat.le_of_succ_le hj)
      refine PyM.Keeps.bind htrans ?_ fun _ =>
        hrest.bind htrans fun _ => PyM.keeps_pure hrefl _
      unfold saveTensor
      split
      · exact PyM.keeps_lift hrefl _
      · next desc hdesc =>
          refine PyM.keeps_lift_bind hrefl fun dtype hdtype => ?_
          have hplainType : PlainType env dtype :=
            hplain.types desc (List.mem_of_getElem? hdesc) dtype (PyDict.getItem_eq_ok.mp hdtype)
          refine (PyM.keeps_lift hrefl _).bind htrans fun _ => ?_
          exact (PyM.keeps_modify fun s => hwrite idx dtype s tensor (le_refl idx)
            hplainType).bind htrans fun _ => PyM.keeps_pure hrefl _

end Keeps

/-- Importing a module and calling a function of it touches no file of data. -/
theorem keeps_getTensorsAndFunc {file : String} {func : PyVal} {params : Params α} :
    (getTensorsAndFunc env file func params).Keeps
      fun s s' => s'.files = s.files ∧ s'.report = s.report := by
  have hrefl : ∀ s : DataState α, s.files = s.files ∧ s.report = s.report := fun _ => ⟨rfl, rfl⟩
  have htrans : ∀ s₁ s₂ s₃ : DataState α, s₂.files = s₁.files ∧ s₂.report = s₁.report →
      s₃.files = s₂.files ∧ s₃.report = s₂.report → s₃.files = s₁.files ∧ s₃.report = s₁.report :=
    fun _ _ _ h h' => ⟨h'.1.trans h.1, h'.2.trans h.2⟩
  unfold getTensorsAndFunc importModule
  refine (PyM.keeps_modify fun _ => ⟨rfl, rfl⟩).bind htrans fun _ => ?_
  refine PyM.Keeps.bind htrans ?_ fun dir => (PyM.keeps_lift hrefl _).bind htrans fun result => ?_
  · refine (PyM.keeps_read hrefl).bind htrans fun s => ?_
    split
    · exact PyM.keeps_pure hrefl _
    · split
      · exact PyM.keeps_lift hrefl _
      · refine (PyM.keeps_lift hrefl _).bind htrans fun _ => ?_
        exact (PyM.keeps_modify fun _ => ⟨rfl, rfl⟩).bind htrans fun _ => PyM.keeps_pure hrefl _
  · cases result with
    | tensor t => exact PyM.keeps_pure hrefl _
    | tensors l => exact PyM.keeps_pure hrefl _

/-- The expected data of a case write the files of its expected outputs. -/
theorem keeps_generateExpectData {R : DataState α → DataState α → Prop}
    (hloads : ∀ s s', s'.files = s.files → s'.report = s.report → R s s')
    (htrans : ∀ s₁ s₂ s₃, R s₁ s₂ → R s₂ s₃ → R s₁ s₃) (hplain : PlainCase env case)
    (hwrite : ∀ j dtype s data, PlainType env dtype →
      R s (s.write (expectPath env out case.caseName j dtype) data)) {params : Params α} :
    (generateExpectData env out case params).Keeps R := by
  have hrefl : ∀ s, R s s := fun s => hloads s s rfl rfl
  refine (PyM.keeps_lift hrefl _).bind htrans fun _ => ?_
  split
  · exact PyM.keeps_pure hrefl _
  · refine PyM.Keeps.bind htrans ?_ fun tensors =>
      keeps_saveTensors hrefl htrans hplain fun j dtype s data _ => hwrite j dtype s data
    exact keeps_getTensorsAndFunc.mono fun s s' h => hloads s s' h.1 h.2

/-- The entry of the case is the only one that changes. -/
theorem keeps_dealWithReport {paths : List String} :
    (dealWithReport out name paths : Gen α Unit).Keeps (Frame env out name) := by
  intro s
  unfold dealWithReport
  rw [PyM.bind_apply, PyM.read_apply]
  dsimp only
  cases hfound : s.report.getCaseReport name with
  | none => exact Frame.refl s
  | some found =>
      obtain ⟨hat, hname, _⟩ := getCaseReport_eq_some hfound
      refine ⟨fun _ _ => rfl, fun name' hne => ?_⟩
      refine getCaseReport_setAt_of_ne hat (fun heq => hne (heq.symm.trans hname)) fun heq => ?_
      exact hne (heq.symm.trans hname)

/-- **A case touches nothing but its own files and its own entry of the report.** -/
theorem keeps_generateCase (hplain : PlainCase env case) :
    (generateCase env out case).Keeps (Frame env out case.caseName) := by
  have hparams : (generateParamsDesc env out case).Keeps (Writes env out case.caseName) :=
    keeps_generateParamsDesc Writes.refl Writes.trans fun i s data =>
      writes_write (Or.inl ⟨i, rfl⟩) data
  refine (hparams.mono fun _ _ => Writes.frame).bind Frame.trans fun params => ?_
  refine (PyM.Keeps.mono ?_ fun _ _ => Writes.frame).bind Frame.trans fun _ =>
    keeps_dealWithReport
  exact keeps_generateExpectData (fun s s' hfiles hreport => ⟨fun p _ => by rw [hfiles], hreport⟩)
    Writes.trans hplain fun j dtype s data hdtype => writes_write (Or.inr ⟨j, dtype, hdtype, rfl⟩)
      data

end Touches

/-! ## §3. The parameters. -/

/-- The case's own files are the same. -/
def SameOwn {α : Type} (env : DataEnv α) (out name : String) (s₀ s : DataState α) : Prop :=
  ∀ p, OwnPath env out name p → s.files p = s₀.files p

/-- The file that gives the value of an input, if one does, gives the same. -/
def SameValue {α : Type} (env : DataEnv α) (inputDesc : Desc) (s₀ s : DataState α) : Prop :=
  isOptional inputDesc = false → ∀ path ≠ "", field inputDesc VALUE = .str path →
    ∀ inputShape, replaceShapeToTypicalShape inputDesc = .ok inputShape →
      genDataWithValue env s.files inputShape (.str path) (field inputDesc "type")
        = genDataWithValue env s₀.files inputShape (.str path) (field inputDesc "type")

section Params

variable {α : Type} {env : DataEnv α} {out name path : String} {case : SubCase}
  {s₀ s s₀' s' : DataState α} {inputDesc : Desc} {inputShape : PyVal} {data : α}

theorem genDataWithValue_congr {files files' : String → Option α} {dtype : PyVal}
    (h : files path = files' path) :
    genDataWithValue env files inputShape (.str path) dtype
      = genDataWithValue env files' inputShape (.str path) dtype := by
  unfold genDataWithValue
  dsimp only
  rw [h]

/-- The data of an input depend on no other file than that of its value. -/
theorem genInputData_congr (h : SameValue env inputDesc s₀ s) (hopt : isOptional inputDesc = false)
    (hshape : replaceShapeToTypicalShape inputDesc = .ok inputShape) :
    genInputData env s.files path inputShape inputDesc
      = genInputData env s₀.files path inputShape inputDesc := by
  have hvalue : (field inputDesc VALUE).truthy = true →
      genDataWithValue env s.files inputShape (field inputDesc VALUE) (field inputDesc "type")
        = genDataWithValue env s₀.files inputShape (field inputDesc VALUE)
          (field inputDesc "type") := by
    intro htruthy
    cases hfield : field inputDesc VALUE with
    | str v =>
        refine h hopt v ?_ hfield inputShape hshape
        rintro rfl
        rw [hfield] at htruthy
        cases htruthy
    | _ => rfl
  unfold genInputData genOpIputData
  congr 1
  refine bind_congr fun range => ?_
  split
  · dsimp only
    by_cases htruthy : (field inputDesc VALUE).truthy = true
    · rw [if_pos htruthy, if_pos htruthy, hvalue htruthy]
    · rw [if_neg htruthy, if_neg htruthy]
  · rfl

/-- A file that is written in both runs makes no difference. -/
theorem sameValue_write (hpath : s.files path = s₀.files path) :
    SameValue env inputDesc (s₀.write path data) (s.write path data) ↔
      SameValue env inputDesc s₀ s := by
  unfold SameValue
  refine forall_congr' fun _ => forall_congr' fun v => forall_congr' fun _ => forall_congr' fun _ =>
    forall_congr' fun shape => forall_congr' fun _ => ?_
  by_cases hv : v = path
  · subst hv
    refine iff_of_true (genDataWithValue_congr ?_) (genDataWithValue_congr hpath)
    unfold DataState.write
    dsimp only
    rw [Function.update_self, Function.update_self]
  · have hkeep : ∀ t : DataState α, (t.write path data).files v = t.files v := fun t =>
      Function.update_of_ne hv _ _
    rw [genDataWithValue_congr (hkeep s), genDataWithValue_congr (hkeep s₀)]

theorem SameOwn.write (h : SameOwn env out name s₀ s) (path : String) (data : α) :
    SameOwn env out name (s₀.write path data) (s.write path data) := by
  intro p hp
  unfold DataState.write
  dsimp only
  by_cases heq : p = path
  · rw [heq, Function.update_self, Function.update_self]
  · rw [Function.update_of_ne heq, Function.update_of_ne heq, h p hp]

/-- The objects that the inputs of a case see are the same. -/
structure SameInputs (env : DataEnv α) (out : String) (case : SubCase) (s₀ s : DataState α) :
    Prop where
  own : SameOwn env out case.caseName s₀ s
  values : ∀ inputDesc ∈ case.inputDesc, SameValue env inputDesc s₀ s

theorem alike_getInputData {i : Nat} (hdesc : inputDesc ∈ case.inputDesc)
    (hopt : isOptional inputDesc = false)
    (hshape : replaceShapeToTypicalShape inputDesc = .ok inputShape) :
    (getInputData env (inputPath out case.caseName i) inputShape inputDesc).Alike
      (SameInputs env out case) := by
  have hown : OwnPath env out case.caseName (inputPath out case.caseName i) := Or.inl ⟨i, rfl⟩
  unfold getInputData getTransData
  refine PyM.alike_ite (fun _ => ?_) fun _ => ?_
  · refine PyM.alike_read_bind (fun s₀ s h => ?_) fun s => PyM.alike_lift _
    rw [h.own _ hown]
  · refine PyM.alike_read_bind (fun s₀ s h => ?_) fun s => ?_
    · rw [h.own _ hown, genInputData_congr (h.values inputDesc hdesc) hopt hshape]
    · refine (PyM.alike_lift _).bind fun _ => (PyM.alike_lift _).bind fun data => ?_
      refine (PyM.alike_lift _).bind fun _ => ?_
      refine (PyM.alike_modify fun s₀ s h => ?_).bind fun _ => PyM.alike_pure _
      exact ⟨h.own.write _ _, fun desc hmem =>
        (sameValue_write (h.own _ hown)).mpr (h.values desc hmem)⟩

theorem alike_getInputs {i : Nat} {descs : List Desc} {params : Params α}
    (hsub : descs ⊆ case.inputDesc) :
    (getInputs env out case.caseName i descs params).Alike (SameInputs env out case) := by
  induction descs generalizing i params with
  | nil => exact PyM.alike_pure _
  | cons desc rest ih =>
      refine PyM.Alike.bind ?_ fun _ => ih fun d hd => hsub (List.mem_cons_of_mem _ hd)
      unfold getInput
      refine PyM.alike_ite (fun _ => PyM.alike_pure _) fun hopt => ?_
      refine PyM.alike_lift_bind fun shape hshape => ?_
      exact (alike_getInputData (hsub List.mem_cons_self) (Bool.eq_false_iff.mpr hopt) hshape).bind
        fun _ => PyM.alike_lift _

theorem alike_generateParamsDesc :
    (generateParamsDesc env out case).Alike (SameInputs env out case) :=
  (alike_getInputs fun _ h => h).bind fun _ =>
    (PyM.alike_lift _).bind fun _ => PyM.alike_lift _

/-! ## §4. Inputs that are the same. -/

theorem getInputData_inv (h : getInputData env path inputShape inputDesc s = (.ok data, s')) :
    (isConstDistribute inputDesc = true ∧
        getConstData env (s.files path) inputShape inputDesc = .ok data ∧ s' = s) ∨
      (isConstDistribute inputDesc = false ∧ s.files path = none ∧
        genInputData env s.files path inputShape inputDesc = .ok data ∧
          s' = s.write path data) := by
  unfold getInputData at h
  by_cases hconst : isConstDistribute inputDesc = true
  · rw [if_pos hconst] at h
    obtain ⟨_, _, hread, h⟩ := PyM.bind_eq_ok.mp h
    cases hread
    obtain ⟨hdata, rfl⟩ := PyM.lift_eq_ok.mp h
    exact Or.inl ⟨hconst, hdata, rfl⟩
  · rw [if_neg hconst] at h
    obtain ⟨_, _, hread, h⟩ := PyM.bind_eq_ok.mp h
    cases hread
    obtain ⟨_, _, hcheck, h⟩ := PyM.bind_eq_ok.mp h
    obtain ⟨hexists, rfl⟩ := PyM.lift_eq_ok.mp hcheck
    obtain ⟨_, _, hgen, h⟩ := PyM.bind_eq_ok.mp h
    obtain ⟨hdata, rfl⟩ := PyM.lift_eq_ok.mp hgen
    obtain ⟨_, _, hsave, h⟩ := PyM.bind_eq_ok.mp h
    obtain ⟨_, rfl⟩ := PyM.lift_eq_ok.mp hsave
    obtain ⟨_, _, hwrite, h⟩ := PyM.bind_eq_ok.mp h
    cases hwrite
    cases h
    refine Or.inr ⟨Bool.eq_false_iff.mpr hconst, ?_, hdata, rfl⟩
    exact Option.not_isSome_iff_eq_none.mp (raiseIf_eq_ok.mp hexists)

theorem getInput_inv {i : Nat} {params params' : Params α}
    (h : getInput env out name i inputDesc params s = (.ok params', s')) :
    (isOptional inputDesc = true ∧ params' = params ∧ s' = s) ∨
      (isOptional inputDesc = false ∧ ∃ inputShape data,
        replaceShapeToTypicalShape inputDesc = .ok inputShape ∧
        getInputData env (inputPath out name i) inputShape inputDesc s = (.ok data, s') ∧
        updateNamed params inputDesc (.input data (field inputDesc "type") inputShape
          (field inputDesc "format")) = .ok params') := by
  unfold getInput at h
  by_cases hopt : isOptional inputDesc = true
  · rw [if_pos hopt] at h
    cases h
    exact Or.inl ⟨hopt, rfl, rfl⟩
  · rw [if_neg hopt] at h
    obtain ⟨shape, _, hlift, h⟩ := PyM.bind_eq_ok.mp h
    obtain ⟨hshape, rfl⟩ := PyM.lift_eq_ok.mp hlift
    obtain ⟨data, _, hdata, h⟩ := PyM.bind_eq_ok.mp h
    obtain ⟨hupdate, rfl⟩ := PyM.lift_eq_ok.mp h
    exact Or.inr ⟨Bool.eq_false_iff.mpr hopt, shape, data, hshape, hdata, hupdate⟩

/-- What a file holds, it holds afterwards. -/
def Grows (s s' : DataState α) : Prop := ∀ p a, s.files p = some a → s'.files p = some a

theorem grows_getInput {i : Nat} {params params' : Params α}
    (h : getInput env out name i inputDesc params s = (.ok params', s')) : Grows s s' := by
  rcases getInput_inv h with ⟨_, _, rfl⟩ | ⟨_, shape, data, _, hdata, _⟩
  · exact fun _ _ hp => hp
  · rcases getInputData_inv hdata with ⟨_, _, rfl⟩ | ⟨_, hnone, _, rfl⟩
    · exact fun _ _ hp => hp
    · intro p a hp
      refine (Function.update_of_ne ?_ _ _).trans hp
      rintro rfl
      rw [hnone] at hp
      cases hp

theorem grows_getInputs {i : Nat} {descs : List Desc} {params params' : Params α}
    (h : getInputs env out name i descs params s = (.ok params', s')) : Grows s s' := by
  induction descs generalizing i params s with
  | nil =>
      cases h
      exact fun _ _ hp => hp
  | cons desc rest ih =>
      obtain ⟨_, s₁, hfirst, hrest⟩ := PyM.bind_eq_ok.mp h
      exact fun p a hp => ih hrest p a (grows_getInput hfirst p a hp)

/-- The value of an input is all its data. -/
theorem genDataWithValue_of_genInputData {files : String → Option α} {v : String}
    (h : genInputData env files path inputShape inputDesc = .ok data)
    (hfield : field inputDesc VALUE = .str v) (hv : v ≠ "") :
    genDataWithValue env files inputShape (.str v) (field inputDesc "type") = .ok data := by
  have hok : genOpIputData env files path inputShape inputDesc = .ok data := by
    unfold genInputData raiseFrom at h
    split at h
    · split at h <;> cases h
    · next hok =>
        cases h
        exact hok
  have htruthy : (field inputDesc VALUE).truthy = true := by
    rw [hfield]
    exact bne_iff_ne.mpr hv
  unfold genOpIputData at hok
  obtain ⟨range, _, hok⟩ := HwEfat.Lib.bind_eq_ok.mp hok
  split at hok
  · dsimp only at hok
    rw [if_pos htruthy, hfield] at hok
    exact hok
  · cases hok

/-- **An input with the same data in both runs**: its value was the same. -/
theorem getInput_same {i : Nat} {params params₁ params₂ : Params α}
    (h₀ : getInput env out name i inputDesc params s₀ = (.ok params₁, s₀'))
    (h : getInput env out name i inputDesc params s = (.ok params₂, s'))
    (hown : SameOwn env out name s₀ s)
    (hfinal : ∀ a₀ a, s₀'.files (inputPath out name i) = some a₀ →
      s'.files (inputPath out name i) = some a → a = a₀) :
    params₂ = params₁ ∧ SameValue env inputDesc s₀ s ∧ SameOwn env out name s₀' s' ∧
      ∀ desc, SameValue env desc s₀' s' → SameValue env desc s₀ s := by
  have hpath : s.files (inputPath out name i) = s₀.files (inputPath out name i) :=
    hown _ (Or.inl ⟨i, rfl⟩)
  rcases getInput_inv h₀ with ⟨hopt, rfl, rfl⟩ | ⟨hopt, shape₀, data₀, hshape₀, hdata₀, hupdate₀⟩
  · rcases getInput_inv h with ⟨_, rfl, rfl⟩ | ⟨hopt', _⟩
    · refine ⟨rfl, fun hopt' => ?_, hown, fun _ hvalue => hvalue⟩
      rw [hopt] at hopt'
      cases hopt'
    · rw [hopt] at hopt'
      cases hopt'
  · rcases getInput_inv h with ⟨hopt', _⟩ | ⟨_, shape, data, hshape, hdata, hupdate⟩
    · rw [hopt] at hopt'
      cases hopt'
    · cases hshape₀.symm.trans hshape
      rcases getInputData_inv hdata₀ with ⟨hconst, hread₀, rfl⟩ | ⟨hconst, hnone₀, hgen₀, rfl⟩
      · rcases getInputData_inv hdata with ⟨_, hread, rfl⟩ | ⟨hconst', _⟩
        · -- A constant has no value.
          rw [hpath, hread₀] at hread
          cases hread
          rw [hupdate₀] at hupdate
          cases hupdate
          refine ⟨rfl, fun _ v _ hfield => ?_, hown, fun _ hvalue => hvalue⟩
          unfold isConstDistribute at hconst
          rw [hfield] at hconst
          simp [PyVal.isNone] at hconst
        · rw [hconst] at hconst'
          cases hconst'
      · rcases getInputData_inv hdata with ⟨hconst', _⟩ | ⟨_, _, hgen, rfl⟩
        · rw [hconst] at hconst'
          cases hconst'
        · obtain rfl : data = data₀ :=
            hfinal _ _ (Function.update_self _ _ _) (Function.update_self _ _ _)
          rw [hupdate₀] at hupdate
          cases hupdate
          refine ⟨rfl, fun _ v hv hfield shape' hshape' => ?_, hown.write _ _, fun desc hvalue =>
            (sameValue_write hpath).mp hvalue⟩
          cases hshape.symm.trans hshape'
          rw [genDataWithValue_of_genInputData hgen hfield hv,
            genDataWithValue_of_genInputData hgen₀ hfield hv]

/-- **The inputs with the same data in both runs.** -/
theorem getInputs_same {i : Nat} {descs : List Desc} {params params₁ params₂ : Params α}
    (h₀ : getInputs env out name i descs params s₀ = (.ok params₁, s₀'))
    (h : getInputs env out name i descs params s = (.ok params₂, s'))
    (hown : SameOwn env out name s₀ s)
    (hfinal : ∀ j, i ≤ j → j < i + descs.length →
      s'.files (inputPath out name j) = s₀'.files (inputPath out name j)) :
    params₂ = params₁ ∧ ∀ desc ∈ descs, SameValue env desc s₀ s := by
  induction descs generalizing i params s₀ s with
  | nil =>
      cases h₀
      cases h
      exact ⟨rfl, List.forall_mem_nil _⟩
  | cons desc rest ih =>
      obtain ⟨params₃, s₁, hfirst₀, hrest₀⟩ := PyM.bind_eq_ok.mp h₀
      obtain ⟨params₄, s₂, hfirst, hrest⟩ := PyM.bind_eq_ok.mp h
      have hi : i < i + (desc :: rest).length := by
        rw [List.length_cons]
        omega
      obtain ⟨rfl, hvalue, hown', hback⟩ := getInput_same hfirst₀ hfirst hown fun a₀ a ha₀ ha => by
        -- What is written stays until the end.
        have hlast₀ := grows_getInputs hrest₀ _ _ ha₀
        have hlast := grows_getInputs hrest _ _ ha
        rw [hfinal i (le_refl i) hi, hlast₀] at hlast
        exact (Option.some.inj hlast).symm
      obtain ⟨hparams, hvalues⟩ := ih hrest₀ hrest hown' fun j hj hj' =>
        hfinal j (by omega) (by rw [List.length_cons]; omega)
      exact ⟨hparams, List.forall_mem_cons.mpr ⟨hvalue, fun d hd => hback d (hvalues d hd)⟩⟩

end Params

end DataGenerator

end HwEfat.Main
