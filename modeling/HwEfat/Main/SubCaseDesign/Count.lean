/-
  HwEfat.Main.SubCaseDesign.Count — how many combinations and how many cases there are.

  The number of combinations of an input or output is the product of the numbers of its
  profiles (`length_combinations`).  `check_number_match` makes that number the same for
  all inputs and outputs, but for `data_distribute` and `value_range`, which only inputs
  have.  `_get_count` takes the number of combinations of an input where there are two or
  more, and that of an output otherwise (`counts_of_prepare`).
-/
import HwEfat.Main.SubCaseDesign.Loop
import Mathlib.Data.List.Dedup

namespace HwEfat.Main

open HwEfat.Lib (PyError PyVal PyDict bind_eq_ok forM_eq_ok raiseIf_eq_ok exists_of_mapM
  exists_mapM length_of_mapM length_positions)

/-- The number of combinations of the profiles of `keys`. -/
def volume (keys : List String) (tensor : Tensor) : Nat :=
  (keys.map fun key => (profiles tensor key).length).prod

/-! ## §1. Combinations. -/

section Volume

variable {keys : List String} {tensor tensor' : Tensor}

/-- The number of combinations over two lists of fields. -/
theorem volume_append (keys keys' : List String) (tensor : Tensor) :
    volume (keys ++ keys') tensor = volume keys tensor * volume keys' tensor := by
  unfold volume
  rw [List.map_append, List.prod_append]

/-- It depends on the numbers of profiles only. -/
theorem volume_congr
    (h : ∀ key ∈ keys, (profiles tensor key).length = (profiles tensor' key).length) :
    volume keys tensor = volume keys tensor' := by
  unfold volume
  rw [List.map_congr_left h]

/-- There is a combination. -/
theorem volume_pos (h : Crossable keys tensor) : 0 < volume keys tensor := by
  unfold volume
  rw [List.prod_pos_iff_forall_pos_nat]
  intro n hn
  obtain ⟨key, hkey, rfl⟩ := List.mem_map.mp hn
  exact List.length_pos_iff.mpr (h.profiles_ne_nil hkey)

/-- There is one combination if there is one profile of each field. -/
theorem volume_eq_one :
    volume keys tensor = 1 ↔ ∀ key ∈ keys, (profiles tensor key).length = 1 := by
  unfold volume
  induction keys with
  | nil => simp
  | cons key keys ih =>
      rw [List.map_cons, List.prod_cons, List.forall_mem_cons, ← ih]
      constructor
      · intro h
        exact ⟨Nat.eq_one_of_mul_eq_one_right h, Nat.eq_one_of_mul_eq_one_left h⟩
      · intro ⟨hkey, hkeys⟩
        rw [hkey, hkeys]

/-- A field that is crossed beyond the cross list does not count. -/
theorem volume_extra (h : Crossable keys tensor) :
    volume ([SHAPE_RANGE, VALUE, IS_CONST].filter (filled tensor)) tensor = 1 := by
  rw [volume_eq_one]
  intro key hkey
  obtain ⟨hmem, hfilled⟩ := List.mem_filter.mp hkey
  unfold filled at hfilled
  obtain ⟨l, hl, _⟩ := (Option.any_eq_true _ _).mp hfilled
  unfold profiles
  rw [hl]
  exact h.single key hmem l hl

/-- The combinations are as many as the volume says. -/
theorem length_combinations (h : Crossable keys tensor) :
    (combinations keys tensor).length = volume keys tensor := by
  unfold combinations
  rw [length_positions]
  show volume (crossKeys keys tensor) tensor = volume keys tensor
  unfold crossKeys addNewKeyToCrossList
  rw [volume_append, volume_extra h, Nat.mul_one]

end Volume

namespace SubCaseDesignCross

/-! ## §2. The descriptions that are crossed. -/

section CrossTensors

variable {keys : List String} {tensors : List Tensor} {rows : List (List Desc)} {i : Nat}

/-- The descriptions of one input or output, and where they come from. -/
structure Row (keys : List String) (tensor : Tensor) (row : List Desc) : Prop where
  crossable : Crossable keys tensor
  descs : (combinations keys tensor).mapM (describe keys tensor) = .ok row

/-- A row has a description for each of them. -/
theorem Row.length {tensor : Tensor} {row : List Desc} (h : Row keys tensor row) :
    row.length = volume keys tensor := by
  rw [length_of_mapM h.descs, length_combinations h.crossable]

/-- The `k`-th description is that of the `k`-th combination. -/
theorem Row.getElem? {tensor : Tensor} {row : List Desc} {desc : Desc} {k : Nat}
    (h : Row keys tensor row) (hdesc : row[k]? = some desc) :
    ∃ p, (combinations keys tensor)[k]? = some p ∧ describe keys tensor p = .ok desc :=
  exists_of_mapM h.descs hdesc

/-- There is a row for each input or output. -/
theorem crossTensors_length (h : crossTensors tensors keys = .ok rows) :
    rows.length = tensors.length :=
  length_of_mapM h

/-- Its row. -/
theorem exists_row (hcross : ∀ tensor ∈ tensors, Crossable keys tensor)
    (h : crossTensors tensors keys = .ok rows) {tensor : Tensor}
    (htensor : tensors[i]? = some tensor) : ∃ row, rows[i]? = some row ∧ Row keys tensor row := by
  obtain ⟨row, hrow, hok⟩ := exists_mapM h htensor
  have hcrossable := hcross tensor (List.mem_of_getElem? htensor)
  rw [crossTensor_eq hcrossable] at hok
  exact ⟨row, hrow, hcrossable, hok⟩

/-- And what a row comes from. -/
theorem exists_tensor (hcross : ∀ tensor ∈ tensors, Crossable keys tensor)
    (h : crossTensors tensors keys = .ok rows) {row : List Desc} (hrow : rows[i]? = some row) :
    ∃ tensor, tensors[i]? = some tensor ∧ Row keys tensor row := by
  obtain ⟨tensor, htensor, hok⟩ := exists_of_mapM h hrow
  have hcrossable := hcross tensor (List.mem_of_getElem? htensor)
  rw [crossTensor_eq hcrossable] at hok
  exact ⟨tensor, htensor, hcrossable, hok⟩

/-- What every combination has, every description has. -/
theorem forall_rows {D : Desc → Prop} (hcross : ∀ tensor ∈ tensors, Crossable keys tensor)
    (h : crossTensors tensors keys = .ok rows)
    (hdescribe : ∀ tensor ∈ tensors, ∀ p ∈ combinations keys tensor,
      ∀ desc, describe keys tensor p = .ok desc → D desc) :
    ∀ row ∈ rows, ∀ desc ∈ row, D desc := by
  intro row hrow desc hdesc
  obtain ⟨i, hi⟩ := List.getElem?_of_mem hrow
  obtain ⟨tensor, htensor, hrow⟩ := exists_tensor hcross h hi
  obtain ⟨k, hk⟩ := List.getElem?_of_mem hdesc
  obtain ⟨p, hp, hok⟩ := hrow.getElem? hk
  exact hdescribe tensor (List.mem_of_getElem? htensor) p (List.mem_of_getElem? hp) desc hok

/-- Inputs or outputs that have equally many combinations. -/
theorem sameLength_of_volume {n : Nat} (hcross : ∀ tensor ∈ tensors, Crossable keys tensor)
    (h : crossTensors tensors keys = .ok rows) (hne : tensors ≠ [])
    (hvolume : ∀ tensor ∈ tensors, volume keys tensor = n) : SameLength rows n := by
  constructor
  · intro hnil
    have hlen := crossTensors_length h
    rw [hnil, List.length_nil] at hlen
    exact hne (List.length_eq_zero_iff.mp hlen.symm)
  · intro row hrow
    obtain ⟨i, hi⟩ := List.mem_iff_getElem?.mp hrow
    obtain ⟨tensor, htensor, hrow'⟩ := exists_tensor hcross h hi
    rw [hrow'.length]
    exact hvolume tensor (List.mem_of_getElem? htensor)

/-- Rows of the same length come from equally many combinations. -/
theorem volume_of_sameLength {n : Nat} (hcross : ∀ tensor ∈ tensors, Crossable keys tensor)
    (h : crossTensors tensors keys = .ok rows) (hsame : SameLength rows n) :
    ∀ tensor ∈ tensors, volume keys tensor = n := by
  intro tensor htensor
  obtain ⟨i, hi⟩ := List.mem_iff_getElem?.mp htensor
  obtain ⟨row, hrow, hrow'⟩ := exists_row hcross h hi
  rw [← hrow'.length]
  exact hsame.2 row (List.mem_of_getElem? hrow)

end CrossTensors

/-! ## §3. The checks of numbers. -/

/-- What the check of one field establishes. -/
theorem checkNumberMatch_spec {key : String} {count : Nat} {descList : List Tensor} {u : Unit}
    (h : checkNumberMatch key count descList = .ok u) :
    ∀ tensor ∈ descList, (profiles tensor key).length = count := by
  intro tensor htensor
  obtain ⟨l, hl, hcount⟩ := bind_eq_ok.mp (forM_eq_ok.mp h tensor htensor)
  rw [raiseIf_eq_ok, not_not] at hcount
  rw [PyDict.getItem_eq_ok] at hl
  unfold profiles
  rw [hl, hcount]
  rfl

/-- All inputs and outputs have as many profiles of these fields. -/
theorem checkValueNumberValid_spec {keys : List String} {inputDescList outputDescList : List Tensor}
    {u : Unit} (h : checkValueNumberValid keys inputDescList outputDescList = .ok u)
    {input : Tensor} (hinput : input ∈ inputDescList) :
    ∀ tensor ∈ inputDescList ++ outputDescList, ∀ key ∈ keys,
      (profiles tensor key).length = (profiles input key).length := by
  cases inputDescList with
  | nil => cases hinput
  | cons first rest =>
      have hall : ∀ tensor ∈ first :: rest ++ outputDescList, ∀ key ∈ keys,
          (profiles tensor key).length = (profiles first key).length := by
        intro tensor htensor key hkey
        obtain ⟨l, hl, hmatch⟩ := bind_eq_ok.mp (forM_eq_ok.mp h key hkey)
        obtain ⟨_, hinputs, houtputs⟩ := bind_eq_ok.mp hmatch
        -- All numbers of a key are compared with one, that of the first input.
        rw [checkNumberMatch_spec hinputs first List.mem_cons_self]
        rcases List.mem_append.mp htensor with htensor | htensor
        · exact checkNumberMatch_spec hinputs tensor htensor
        · exact checkNumberMatch_spec houtputs tensor htensor
      intro tensor htensor key hkey
      rw [hall tensor htensor key hkey, hall input (List.mem_append_left _ hinput) key hkey]

/-- What the check of the inputs establishes. -/
theorem checkInputCount_spec {caseList : List (List Desc)} {u : Unit}
    (h : checkInputCount caseList = .ok u) : ∃ n, SameLength caseList n := by
  unfold checkInputCount at h
  rw [raiseIf_eq_ok, not_not, List.length_eq_one_iff] at h
  obtain ⟨n, hn⟩ := h
  refine ⟨n, ?_, ?_⟩
  · intro hnil
    rw [hnil] at hn
    cases hn
  · intro row hrow
    have hmem : row.length ∈ (caseList.map List.length).dedup :=
      List.mem_dedup.mpr (List.mem_map_of_mem hrow)
    rw [hn] at hmem
    exact List.mem_singleton.mp hmem

/-- The number of cases is that of all inputs, or that of all outputs. -/
theorem getCount_spec {input output : List (List Desc)} {count : Nat}
    (h : getCount input output = .ok count) :
    SameLength (if 1 < input.length then input else output) count := by
  have hfirst : ∀ {caseList : List (List Desc)} {u : Unit} {row : List Desc},
      checkInputCount caseList = .ok u → Lib.first caseList = .ok row →
      SameLength caseList row.length := by
    intro caseList u row hcheck hrow
    obtain ⟨n, hsame⟩ := checkInputCount_spec hcheck
    cases caseList with
    | nil => cases hrow
    | cons row' rest =>
        cases hrow
        rw [hsame.2 row List.mem_cons_self]
        exact hsame
  unfold getCount at h
  -- The inputs decide the count if there are several rows of them, the outputs otherwise.
  split at h
  · next hlt =>
      obtain ⟨_, hcheck, h⟩ := bind_eq_ok.mp h
      obtain ⟨row, hrow, h⟩ := bind_eq_ok.mp h
      cases h
      rw [if_pos hlt]
      exact hfirst hcheck hrow
  · next hle =>
      obtain ⟨_, hcheck, h⟩ := bind_eq_ok.mp h
      obtain ⟨row, hrow, h⟩ := bind_eq_ok.mp h
      cases h
      rw [if_neg hle]
      exact hfirst hcheck hrow

/-! ## §4. The cases. -/

/-- What `subcase_generate` has checked and crossed before it puts the cases together. -/
structure PreparedOk (jsonObj : PyVal) (descs : Descs) (prepared : Prepared) : Prop where
  made : DescsOk jsonObj descs
  number :
    checkValueNumberValid descs.outputCrossList descs.inputDescList descs.outputDescList = .ok ()
  input : crossTensors descs.inputDescList descs.inputCrossList = .ok prepared.input
  output : crossTensors descs.outputDescList descs.outputCrossList = .ok prepared.output
  count : getCount prepared.input prepared.output = .ok prepared.count

/-- What `subcase_generate` has established before its loop. -/
theorem prepare_spec {env : DesignEnv} {design : SubCaseDesign} {descs : Descs}
    {prepared : Prepared}
    (hdescs : makeDescs env design.currentJsonPath design.jsonObj = .ok descs)
    (h : prepare env design = .ok prepared) : PreparedOk design.jsonObj descs prepared := by
  unfold prepare at h
  obtain ⟨descs', hdescs', h⟩ := bind_eq_ok.mp h
  rw [hdescs] at hdescs'
  cases hdescs'
  obtain ⟨⟨attrList, attrRequiredKeys⟩, _, h⟩ := bind_eq_ok.mp h
  obtain ⟨_, hnumber, h⟩ := bind_eq_ok.mp h
  obtain ⟨input, hinput, h⟩ := bind_eq_ok.mp h
  obtain ⟨output, houtput, h⟩ := bind_eq_ok.mp h
  obtain ⟨count, hcount, h⟩ := bind_eq_ok.mp h
  obtain ⟨ms, _, h⟩ := bind_eq_ok.mp h
  obtain ⟨caseName, _, h⟩ := bind_eq_ok.mp h
  split at h
  · cases h
    exact ⟨descsOk_makeDescs hdescs, hnumber, hinput, houtput, hcount⟩
  · cases h

/-- The numbers of combinations, and the number of cases. -/
structure Counts (descs : Descs) (prepared : Prepared) (n : Nat) : Prop where
  pos : 0 < n
  output : SameLength prepared.output n
  volumeInput : ∀ tensor ∈ descs.inputDescList, volume descs.outputCrossList tensor = n
  volumeOutput : ∀ tensor ∈ descs.outputDescList, volume descs.outputCrossList tensor = n
  few : descs.inputDescList.length ≤ 1 → prepared.count = n
  many : 1 < descs.inputDescList.length →
    ∀ tensor ∈ descs.inputDescList, prepared.count = n * volume rangeKeys tensor

section Counts

variable {jsonObj : PyVal} {descs : Descs} {prepared : Prepared}

/-- **How many cases there are.** -/
theorem counts_of_prepare (h : PreparedOk jsonObj descs prepared) :
    ∃ n, Counts descs prepared n := by
  have hcount := getCount_spec h.count
  rw [crossTensors_length h.input] at hcount
  obtain ⟨first, rest, houtputs⟩ := List.exists_cons_of_ne_nil h.made.output_ne_nil
  have hfirst : first ∈ descs.outputDescList := by
    rw [houtputs]
    exact List.mem_cons_self
  -- All outputs have as many combinations: the inputs see to it, or `_get_count` does.
  have hvolume : ∀ tensor ∈ descs.outputDescList,
      volume descs.outputCrossList tensor = volume descs.outputCrossList first := by
    cases hinputs : descs.inputDescList with
    | nil =>
        rw [hinputs, if_neg (by decide)] at hcount
        intro tensor htensor
        rw [volume_of_sameLength h.made.output h.output hcount tensor htensor,
          volume_of_sameLength h.made.output h.output hcount first hfirst]
    | cons input inputs =>
        have hinput : input ∈ descs.inputDescList := by
          rw [hinputs]
          exact List.mem_cons_self
        intro tensor htensor
        rw [volume_congr (checkValueNumberValid_spec h.number hinput tensor
            (List.mem_append_right _ htensor)),
          volume_congr (checkValueNumberValid_spec h.number hinput first
            (List.mem_append_right _ hfirst))]
  have hvolumeInput : ∀ tensor ∈ descs.inputDescList,
      volume descs.outputCrossList tensor = volume descs.outputCrossList first :=
    fun tensor htensor => (volume_congr (checkValueNumberValid_spec h.number htensor first
      (List.mem_append_right _ hfirst))).symm
  have houtput := sameLength_of_volume h.made.output h.output h.made.output_ne_nil hvolume
  refine ⟨volume descs.outputCrossList first, volume_pos (h.made.output first hfirst), houtput,
    hvolumeInput, hvolume, ?_, ?_⟩
  · intro hfew
    rw [if_neg (Nat.not_lt.mpr hfew)] at hcount
    rw [← volume_of_sameLength h.made.output h.output hcount first hfirst]
  · intro hmany tensor htensor
    rw [if_pos hmany] at hcount
    rw [← hvolumeInput tensor htensor, ← volume_append, ← h.made.cross]
    exact (volume_of_sameLength h.made.input h.input hcount tensor htensor).symm

/-- The names of the inputs can be read. -/
theorem PreparedOk.nameableInput (h : PreparedOk jsonObj descs prepared) :
    Nameable jsonObj INPUT_DESC prepared.input := by
  intro i hi
  rw [crossTensors_length h.input] at hi
  exact h.made.inputName i hi

/-- The names of the outputs can be read. -/
theorem PreparedOk.nameableOutput (h : PreparedOk jsonObj descs prepared) :
    Nameable jsonObj OUTPUT_DESC prepared.output := by
  intro i hi
  rw [crossTensors_length h.output] at hi
  exact h.made.outputName i hi

/-- The number of combinations of an input. -/
theorem Counts.length_input {n : Nat} (h : Counts descs prepared n)
    (hok : PreparedOk jsonObj descs prepared) {tensor : Tensor}
    (htensor : tensor ∈ descs.inputDescList) :
    (combinations descs.inputCrossList tensor).length = n * volume rangeKeys tensor := by
  rw [length_combinations (hok.made.input tensor htensor), hok.made.cross, volume_append,
    h.volumeInput tensor htensor]

/-- The number of combinations of an output. -/
theorem Counts.length_output {n : Nat} (h : Counts descs prepared n)
    (hok : PreparedOk jsonObj descs prepared) {tensor : Tensor}
    (htensor : tensor ∈ descs.outputDescList) :
    (combinations descs.outputCrossList tensor).length = n := by
  rw [length_combinations (hok.made.output tensor htensor), h.volumeOutput tensor htensor]

end Counts

/-! ## §5. A small operator. -/

/-- White lists, and a file system that has every path. -/
def plainEnv : DesignEnv where
  whiteLists :=
    { formatMap := ["ND"]
      typeList := ["float"]
      mindsporeTypeList := ["float"]
      dataDistributionList := ["uniform", "normal"] }
  checkPathValid _ := .ok ()

/-- A description with two shapes. -/
def twoShapes (rest : List (String × PyVal)) : PyVal :=
  .dict ([("format", .str "ND"), ("type", .str "float"),
    ("shape", .list [.list [.int 1], .list [.int 2]])] ++ rest)

/-- Two distributions. -/
def twoDistributions : String × PyVal :=
  ("data_distribute", .list [.str "uniform", .str "normal"])

/-- A case of one file. -/
def addDesign (inputDesc outputDesc : List PyVal) : SubCaseDesign where
  currentJsonPath := "/st/Add.json"
  jsonObj := .dict [(CASE_NAME, .str "Add"), (OP, .str "Add"), (INPUT_DESC, .list inputDesc),
    (OUTPUT_DESC, .list outputDesc)]
  totalCaseList := []
  report := {}
  attrRequiredKeys := []

end SubCaseDesignCross

end HwEfat.Main
