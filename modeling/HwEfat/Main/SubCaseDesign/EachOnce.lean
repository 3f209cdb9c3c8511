/-
  HwEfat.Main.SubCaseDesign.EachOnce — whether the cases use each combination once.

  Case `k` is made of the `k`-th combination of every input, whatever the numbers are, and has
  its profiles unless a format or a type says that there is no tensor (`Drawn.takenFrom`).  There
  are as many cases as combinations of an input
  where there are two or more inputs, and as combinations of an output where there is
  none.  With one input `_get_count` counts the outputs too, for it compares with `> 1`:
  an output has no `data_distribute` and no `value_range`, so with several of these the
  combinations at the end are lost (`one_input_loses_combinations`), and otherwise none is
  (`each_combination_once_iff`).
-/
import HwEfat.Main.SubCaseDesign.Taken

namespace HwEfat.Main

open HwEfat.Lib (PyError PyVal PyDict bind_eq_ok exists_eq_ok nodup_positions)

namespace SubCaseDesignCross

/-- The cases use each combination of the input `i` once, in product order. -/
structure UsesEachOnce (jsonObj : PyVal) (keys : List String) (i : Nat) (tensor : Tensor)
    (cases : List SubCase) : Prop where
  distinct : (combinations keys tensor).Nodup
  count : cases.length = (combinations keys tensor).length
  used : ∀ k case, cases[k]? = some case →
    ∃ p, TakenFrom jsonObj INPUT_DESC keys i tensor k case.inputDesc p

/-- Nothing is lost and nothing is repeated. -/
structure EachCombinationOnce (jsonObj : PyVal) (descs : Descs) (cases : List SubCase) :
    Prop where
  input : ∀ i tensor, descs.inputDescList[i]? = some tensor →
    UsesEachOnce jsonObj descs.inputCrossList i tensor cases
  /-- Without inputs the outputs are counted. -/
  output : descs.inputDescList = [] → ∀ tensor ∈ descs.outputDescList,
    cases.length = (combinations descs.outputCrossList tensor).length

section Generate

variable {env : DesignEnv} {design design' : SubCaseDesign} {descs : Descs}

/-- The cases that are generated, and what they are made of. -/
theorem subcaseGenerate_spec
    (hdescs : makeDescs env design.currentJsonPath design.jsonObj = .ok descs)
    (h : subcaseGenerate env design = .ok design') :
    ∃ prepared n, PreparedOk design.jsonObj descs prepared ∧ Counts descs prepared n ∧
      (design'.totalCaseList.drop design.totalCaseList.length).length = prepared.count ∧
      ∀ k case, (design'.totalCaseList.drop design.totalCaseList.length)[k]? = some case →
        CaseAt design.jsonObj prepared k case := by
  unfold subcaseGenerate at h
  obtain ⟨prepared, hprepare, h⟩ := bind_eq_ok.mp h
  have hok := prepare_spec hdescs hprepare
  obtain ⟨n, hcounts⟩ := counts_of_prepare hok
  obtain ⟨cases, htotal, hlength, hcases⟩ :=
    getSubTestCases_spec h hok.nameableInput hok.nameableOutput hcounts.output
  refine ⟨prepared, n, hok, hcounts, ?_⟩
  rw [htotal, List.drop_left]
  exact ⟨hlength, hcases⟩

/-- All cases together have the profiles of all combinations of an input. -/
theorem wholePairs_of_used {prepared : Prepared} {i : Nat} {tensor : Tensor} {cases : List SubCase}
    (hok : PreparedOk design.jsonObj descs prepared)
    (hcases : ∀ k case, cases[k]? = some case → CaseAt design.jsonObj prepared k case)
    (htensor : descs.inputDescList[i]? = some tensor)
    (huses : UsesEachOnce design.jsonObj descs.inputCrossList i tensor cases) :
    WholePairs descs.inputCrossList tensor := by
  have hcross := hok.made.input tensor (List.mem_of_getElem? htensor)
  refine (wholePairs_iff hcross hok.made.type_input).mpr fun p hp => ?_
  obtain ⟨k, hk⟩ := List.mem_iff_getElem?.mp hp
  have hlt : k < cases.length := huses.count ▸ (List.getElem?_eq_some_iff.mp hk).1
  have hcase := List.getElem?_eq_getElem hlt
  obtain ⟨p₁, htaken⟩ := huses.used k _ hcase
  obtain ⟨p₂, hp₂, hiff⟩ := (hcases k _ hcase).input.takenFrom hok.made.input hok.made.keys
    hok.made.type_input hok.input htensor
  cases hk.symm.trans htaken.combination
  cases hk.symm.trans hp₂
  exact hiff.mp htaken

/-- **When the cases use each combination once**: unless there is one input, and that one has
several `data_distribute` or `value_range`, or an input has a format or a type that says that
there is no tensor where the other does not. -/
theorem each_combination_once_iff
    (hdescs : makeDescs env design.currentJsonPath design.jsonObj = .ok descs)
    (h : subcaseGenerate env design = .ok design') :
    EachCombinationOnce design.jsonObj descs
        (design'.totalCaseList.drop design.totalCaseList.length)
      ↔ (∀ tensor, descs.inputDescList = [tensor] →
          ∀ key ∈ ["data_distribute", "value_range"], (profiles tensor key).length = 1) ∧
        ∀ tensor ∈ descs.inputDescList, WholePairs descs.inputCrossList tensor := by
  obtain ⟨prepared, n, hok, hcounts, hlength, hcases⟩ := subcaseGenerate_spec hdescs h
  constructor
  · intro honce
    constructor
    · intro tensor hinput
      have htensor : tensor ∈ descs.inputDescList := by
        rw [hinput]
        exact List.mem_cons_self
      have hcount := (honce.input 0 tensor (by rw [hinput]; rfl)).count
      rw [hlength, hcounts.few (by rw [hinput]; exact Nat.le_refl 1),
        hcounts.length_input hok htensor] at hcount
      have hone : volume rangeKeys tensor = 1 :=
        Nat.eq_of_mul_eq_mul_left hcounts.pos (by rw [← hcount, Nat.mul_one])
      exact volume_eq_one.mp hone
    · intro tensor hmem
      obtain ⟨i, htensor⟩ := List.mem_iff_getElem?.mp hmem
      exact wholePairs_of_used hok hcases htensor (honce.input i tensor htensor)
  · rintro ⟨hsingle, hwhole⟩
    constructor
    · intro i tensor htensor
      have hmem := List.mem_of_getElem? htensor
      refine ⟨nodup_positions _, ?_, fun k case hcase => ?_⟩
      · rw [hlength, hcounts.length_input hok hmem]
        by_cases hmany : 1 < descs.inputDescList.length
        · exact hcounts.many hmany tensor hmem
        · -- The only input has one profile of the fields that outputs lack.
          have hpos := List.length_pos_of_mem hmem
          obtain ⟨tensor', hinput⟩ := List.length_eq_one_iff.mp
            (show descs.inputDescList.length = 1 by omega)
          obtain rfl : tensor = tensor' := by
            rw [hinput] at hmem
            exact List.mem_singleton.mp hmem
          have hone : volume rangeKeys tensor = 1 := volume_eq_one.mpr (hsingle tensor hinput)
          rw [hcounts.few (by omega), hone, Nat.mul_one]
      · obtain ⟨p, hp, hiff⟩ := (hcases k case hcase).input.takenFrom hok.made.input hok.made.keys
          hok.made.type_input hok.input htensor
        exact ⟨p, hiff.mpr ((wholePairs_iff (hok.made.input tensor hmem)
          hok.made.type_input).mp (hwhole tensor hmem) p (List.mem_of_getElem? hp))⟩
    · intro hnil tensor htensor
      rw [hlength, hcounts.length_output hok htensor]
      exact hcounts.few (by rw [hnil]; exact Nat.zero_le 1)

end Generate

/-- Two inputs with two distributions each. -/
def twoInputs : SubCaseDesign :=
  addDesign [twoShapes [twoDistributions], twoShapes [twoDistributions]] [twoShapes []]

/-- The condition at two inputs. -/
theorem each_combination_once_iff_twoInputs :
    ∃ descs design',
      makeDescs plainEnv twoInputs.currentJsonPath twoInputs.jsonObj = .ok descs ∧
      subcaseGenerate plainEnv twoInputs = .ok design' ∧
      EachCombinationOnce twoInputs.jsonObj descs
        (design'.totalCaseList.drop twoInputs.totalCaseList.length) := by
  obtain ⟨descs, hdescs, htwo⟩ := exists_eq_ok
    (x := makeDescs plainEnv twoInputs.currentJsonPath twoInputs.jsonObj)
    (p := fun descs => descs.inputDescList.length == 2 && descs.inputDescList.all fun tensor =>
      (profiles tensor "format").all fun format => (profiles tensor "type").all fun type =>
        decide (Whole format type)) (by decide +kernel)
  obtain ⟨design', hdesign, _⟩ := exists_eq_ok (x := subcaseGenerate plainEnv twoInputs)
    (p := fun _ => true) (by decide +kernel)
  obtain ⟨htwo, hwhole⟩ := Bool.and_eq_true_iff.mp htwo
  refine ⟨descs, design', hdescs, hdesign, ?_⟩
  have hlength := beq_iff_eq.mp htwo
  refine (each_combination_once_iff hdescs hdesign).mpr ⟨fun tensor hinput => ?_, ?_⟩
  · rw [hinput, List.length_singleton] at hlength
    omega
  · intro tensor htensor _ format hformat type htype
    have hpairs := List.all_eq_true.mp (List.all_eq_true.mp hwhole tensor htensor) format hformat
    exact of_decide_eq_true (List.all_eq_true.mp hpairs type htype)

/-- One input with two distributions. -/
def oneInput : SubCaseDesign := addDesign [twoShapes [twoDistributions]] [twoShapes []]

/-- Two of the four combinations of the only input are lost. -/
theorem one_input_loses_combinations :
    ∃ descs design',
      makeDescs plainEnv oneInput.currentJsonPath oneInput.jsonObj = .ok descs ∧
      subcaseGenerate plainEnv oneInput = .ok design' ∧
      (design'.totalCaseList.drop oneInput.totalCaseList.length).length = 2 ∧
      descs.inputDescList.map (fun tensor =>
        (combinations descs.inputCrossList tensor).length) = [4] ∧
      ¬ EachCombinationOnce oneInput.jsonObj descs
        (design'.totalCaseList.drop oneInput.totalCaseList.length) := by
  obtain ⟨descs, hdescs, hfour⟩ := exists_eq_ok
    (x := makeDescs plainEnv oneInput.currentJsonPath oneInput.jsonObj)
    (p := fun descs => descs.inputDescList.map (fun tensor =>
      (combinations descs.inputCrossList tensor).length) == [4]) (by decide +kernel)
  obtain ⟨design', hdesign, htwo⟩ := exists_eq_ok (x := subcaseGenerate plainEnv oneInput)
    (p := fun design' =>
      (design'.totalCaseList.drop oneInput.totalCaseList.length).length == 2) (by decide +kernel)
  have hlengths := beq_iff_eq.mp hfour
  have hcases := beq_iff_eq.mp htwo
  refine ⟨descs, design', hdescs, hdesign, hcases, hlengths, fun honce => ?_⟩
  obtain ⟨tensor, htensor, hlength⟩ : ∃ tensor, descs.inputDescList[0]? = some tensor ∧
      (combinations descs.inputCrossList tensor).length = 4 := by
    rw [← Option.map_eq_some_iff, ← List.getElem?_map, hlengths]
    rfl
  have hcount := (honce.input 0 tensor htensor).count
  omega

end SubCaseDesignCross

end HwEfat.Main
