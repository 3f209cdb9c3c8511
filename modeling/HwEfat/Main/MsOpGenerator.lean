/-
  HwEfat.Main.MsOpGenerator — the inputs of a generated MindSpore test: `ms_op_generator.py`.

  The operator is called with the names of all input tensors; those of its dynamic input
  are to stand in a tuple.  The tuple gets one name too few, and the index goes on
  behind the missing one.

  Main result: `partitioned_iff`.
-/
import HwEfat.Lib.Slice

namespace HwEfat.Main

open HwEfat.Lib

namespace MsOpGenerator

def DYNAMIC_INPUT : String := "dynamic"
def DYNAMIC_INPUT_ARGS : String := "*dynamic_input"
def DYNAMIC_INPUT_NAME : String := "dynamic_input"

/-! ## §1. `_get_dynamic_input_info`. -/

/-- `input_param_type == ConstManager.DYNAMIC_INPUT` -/
def isDynamic (inputParamType : PyVal) : Bool := inputParamType.isStr DYNAMIC_INPUT

/-- The body of the loop, with `input_index` and `input_name_tensor_list`. -/
def addTensor (dynamicInputCount : Int) (inputNameList : List String)
    (st : Int × List String) (inputParamType : PyVal) : Except PyError (Int × List String) :=
  if isDynamic inputParamType then
    let dynamicInputNameStr :=
      ",".intercalate (getSlice inputNameList st.1 (st.1 + dynamicInputCount))
    .ok (st.1 + dynamicInputCount + 1, st.2 ++ ["(" ++ dynamicInputNameStr ++ ")"])
  else do
    let name ← getIndex inputNameList st.1
    return (st.1 + 1, st.2 ++ [name])

/-- `_get_dynamic_input_info`: `input_args` and `input_name`. -/
def getDynamicInputInfo (msParamTypeList : List PyVal) (countInput : Int)
    (inputNameList : List String) : Except PyError (String × String) :=
  -- The dynamic input is the only one.
  if msParamTypeList.length = 1 then .ok (DYNAMIC_INPUT_ARGS, DYNAMIC_INPUT_NAME)
  else do
    let (_, inputNameTensorList) ←
      msParamTypeList.foldlM (addTensor (countInput - msParamTypeList.length) inputNameList) (0, [])
    return (",".intercalate inputNameList, ",".intercalate inputNameTensorList)

/-- `_get_no_attr_input_args` -/
def getNoAttrInputArgs (msParamTypeList : List PyVal) (countInput : Int)
    (inputNameList : List String) : Except PyError (String × String) :=
  if msParamTypeList.any isDynamic then
    getDynamicInputInfo msParamTypeList countInput inputNameList
  else .ok (",".intercalate inputNameList, ",".intercalate inputNameList)

/-! ## §2. What the names should become. -/

/-- Every name occurs once and in order: the inputs in front of the dynamic one and those
behind it have a name each, and all names in between are in the tuple. -/
def Partitioned (msParamTypeList : List PyVal) (inputNameList : List String)
    (inputName : String) : Prop :=
  ∃ first group last, inputNameList = first ++ group ++ last ∧
    first.length = msParamTypeList.findIdx isDynamic ∧
    first.length + 1 + last.length = msParamTypeList.length ∧
    inputName = ",".intercalate (first ++ ["(" ++ ",".intercalate group ++ ")"] ++ last)

section Names

variable {types before after : List PyVal} {t : PyVal} {names : List String} {d i : Nat}

/-- A list with one dynamic input. -/
theorem exists_dynamic (h : types.countP isDynamic = 1) :
    ∃ before t after, types = before ++ t :: after ∧ isDynamic t = true ∧
      (∀ x ∈ before, isDynamic x = false) ∧ ∀ x ∈ after, isDynamic x = false := by
  obtain ⟨t, hmem, ht⟩ := List.countP_pos_iff.mp (by omega : 0 < types.countP isDynamic)
  obtain ⟨before, after, rfl⟩ := List.append_of_mem hmem
  rw [List.countP_append, List.countP_cons_of_pos ht] at h
  have hnone : ∀ l : List PyVal, l.countP isDynamic = 0 → ∀ x ∈ l, isDynamic x = false := by
    intro l hl x hx
    exact Bool.eq_false_iff.mpr (List.countP_eq_zero.mp hl x hx)
  exact ⟨before, t, after, rfl, ht, hnone before (by omega), hnone after (by omega)⟩

theorem findIdx_dynamic (ht : isDynamic t = true) (hbefore : ∀ x ∈ before, isDynamic x = false) :
    (before ++ t :: after).findIdx isDynamic = before.length := by
  have hnone : before.findIdx isDynamic = before.length := by
    rw [List.findIdx_eq_length]
    exact hbefore
  rw [List.findIdx_append, hnone, if_neg (Nat.lt_irrefl _), List.findIdx_cons, ht]
  exact Nat.zero_add _

/-- The inputs that are not dynamic take one name each. -/
theorem foldlM_addTensor {acc : List String} (htypes : ∀ x ∈ types, isDynamic x = false)
    (hlen : i + types.length ≤ names.length) :
    types.foldlM (addTensor d names) ((i : Int), acc)
      = .ok (((i + types.length : Nat) : Int), acc ++ (names.drop i).take types.length) := by
  induction types generalizing i acc with
  | nil => simp [pure, Except.pure]
  | cons x rest ih =>
      obtain ⟨hx, hrest⟩ := List.forall_mem_cons.mp htypes
      rw [List.length_cons] at hlen
      have hi : i < names.length := by omega
      have hname : names[i]? = some names[i] := List.getElem?_eq_getElem hi
      have hturn : addTensor d names ((i : Int), acc) x
          = .ok (((i + 1 : Nat) : Int), acc ++ [names[i]]) := by
        unfold addTensor
        rw [hx]
        show (getIndex names i >>= _) = _
        rw [getIndex_ofNat hname]
        rfl
      rw [List.foldlM_cons, hturn]
      show rest.foldlM (addTensor d names) _ = _
      rw [ih hrest (by omega), List.length_cons, List.append_assoc, List.drop_eq_getElem_cons hi,
        List.take_succ_cons, List.singleton_append]
      congr 3
      omega

/-- **What the code makes of the names**: the tuple has `d` of them, and the next one is
left out. -/
theorem getDynamicInputInfo_eq (ht : isDynamic t = true)
    (hbefore : ∀ x ∈ before, isDynamic x = false) (hafter : ∀ x ∈ after, isDynamic x = false)
    (hother : before ++ after ≠ [])
    (hlen : names.length = before.length + (d + 1) + after.length) :
    getDynamicInputInfo (before ++ t :: after) names.length names
      = .ok (",".intercalate names, ",".intercalate (names.take before.length ++
          ["(" ++ ",".intercalate ((names.drop before.length).take d) ++ ")"] ++
          names.drop (before.length + d + 1))) := by
  have htypes : (before ++ t :: after).length = before.length + 1 + after.length := by
    rw [List.length_append, List.length_cons]
    omega
  have hone : ¬ (before ++ t :: after).length = 1 := by
    intro h
    rw [htypes] at h
    refine hother (List.append_eq_nil_iff.mpr ⟨?_, ?_⟩)
    · exact List.length_eq_zero_iff.mp (by omega)
    · exact List.length_eq_zero_iff.mp (by omega)
  have hcount : ((names.length : Int) - (before ++ t :: after).length) = (d : Int) := by
    rw [htypes]
    omega
  have hdynamic : addTensor d names ((before.length : Int), names.take before.length) t
      = .ok (((before.length + d + 1 : Nat) : Int), names.take before.length ++
          ["(" ++ ",".intercalate ((names.drop before.length).take d) ++ ")"]) := by
    unfold addTensor
    rw [if_pos ht]
    dsimp only
    rw [show (before.length : Int) + d = ((before.length + d : Nat) : Int) from by omega,
      getSlice_ofNat, List.drop_take, Nat.add_sub_cancel_left]
    rfl
  have hfold : (before ++ t :: after).foldlM (addTensor d names) (0, [])
      = .ok (((before.length + d + 1 + after.length : Nat) : Int), names.take before.length ++
          ["(" ++ ",".intercalate ((names.drop before.length).take d) ++ ")"] ++
          names.drop (before.length + d + 1)) := by
    rw [List.foldlM_append, show (0 : Int) = ((0 : Nat) : Int) from rfl,
      foldlM_addTensor hbefore (by omega), List.drop_zero, List.nil_append, Nat.zero_add]
    show (t :: after).foldlM (addTensor d names) _ = _
    rw [List.foldlM_cons, hdynamic]
    show after.foldlM (addTensor d names) _ = _
    have hrest : (names.drop (before.length + d + 1)).take after.length
        = names.drop (before.length + d + 1) := by
      refine List.take_of_length_le ?_
      rw [List.length_drop]
      omega
    rw [foldlM_addTensor hafter (by omega), hrest]
  unfold getDynamicInputInfo
  rw [if_neg hone, hcount, hfold]
  rfl

/-- **The names are partitioned exactly if the name that is left out is the only one for
the dynamic input, and empty.**  The caller gets the names as they are. -/
theorem partitioned_iff (hone : types.countP isDynamic = 1) (hother : 2 ≤ types.length)
    (hlen : types.length ≤ names.length) :
    ∃ inputName, getDynamicInputInfo types names.length names
        = .ok (",".intercalate names, inputName) ∧
      getNoAttrInputArgs types names.length names = .ok (",".intercalate names, inputName) ∧
      (Partitioned types names inputName ↔ names.length = types.length ∧
        names[types.findIdx isDynamic]? = some "") := by
  obtain ⟨before, t, after, rfl, ht, hbefore, hafter⟩ := exists_dynamic hone
  have htypes : (before ++ t :: after).length = before.length + 1 + after.length := by
    rw [List.length_append, List.length_cons]
    omega
  rw [htypes] at hother hlen
  obtain ⟨d, hd⟩ : ∃ d, names.length = before.length + (d + 1) + after.length :=
    ⟨names.length - (before.length + 1 + after.length), by omega⟩
  have hne : before ++ after ≠ [] := by
    intro h
    have hzero := congrArg List.length h
    rw [List.length_append, List.length_nil] at hzero
    omega
  have hcall := getDynamicInputInfo_eq ht hbefore hafter hne hd
  have hany : (before ++ t :: after).any isDynamic = true :=
    List.any_eq_true.mpr ⟨t, List.mem_append_right _ List.mem_cons_self, ht⟩
  refine ⟨_, hcall, (if_pos hany).trans hcall, ?_⟩
  have hlt : before.length + d < names.length := by omega
  -- The name that is left out.
  have hgroup : (names.drop before.length).take (d + 1)
      = (names.drop before.length).take d ++ [names[before.length + d]] := by
    rw [List.take_add_one, List.getElem?_drop, List.getElem?_eq_getElem hlt]
    rfl
  have hlength : ((names.drop before.length).take d).length = d := by
    rw [List.length_take, List.length_drop]
    omega
  have hsame : Partitioned (before ++ t :: after) names (",".intercalate
      (names.take before.length ++
        ["(" ++ ",".intercalate ((names.drop before.length).take d) ++ ")"] ++
        names.drop (before.length + d + 1))) ↔
      ",".intercalate ((names.drop before.length).take d)
        = ",".intercalate ((names.drop before.length).take (d + 1)) := by
    unfold Partitioned
    rw [findIdx_dynamic ht hbefore, htypes]
    constructor
    · rintro ⟨first, group, last, hnames, hfirst, hlast, hjoin⟩
      have hgroupLength : group.length = d + 1 := by
        have htotal := congrArg List.length hnames
        rw [List.length_append, List.length_append] at htotal
        omega
      have h₁ : names.take before.length = first := by
        rw [hnames, List.append_assoc, ← hfirst, List.take_left]
      have h₂ : names.drop before.length = group ++ last := by
        rw [hnames, List.append_assoc, ← hfirst, List.drop_left]
      have h₃ : names.drop (before.length + d + 1) = last := by
        rw [Nat.add_assoc, ← List.drop_drop, h₂, ← hgroupLength, List.drop_left]
      rw [h₁, h₃, intercalate_middle_inj, h₂, String.append_left_inj,
        String.append_right_inj] at hjoin
      rw [h₂, hjoin, ← hgroupLength, List.take_left]
    · intro hjoin
      refine ⟨names.take before.length, (names.drop before.length).take (d + 1),
        names.drop (before.length + d + 1), ?_, ?_, ?_, by rw [hjoin]⟩
      · rw [List.append_assoc, Nat.add_assoc, ← List.drop_drop, List.take_append_drop,
          List.take_append_drop]
      · rw [List.length_take]
        omega
      · rw [List.length_take, List.length_drop]
        omega
  rw [hsame, hgroup, eq_comm, intercalate_concat_eq (by decide), findIdx_dynamic ht hbefore, htypes]
  constructor
  · rintro ⟨hnil, hname⟩
    have hzero : d = 0 := by rw [← hlength, hnil, List.length_nil]
    subst hzero
    have hget : names[before.length]? = some names[before.length + 0] :=
      List.getElem?_eq_getElem hlt
    exact ⟨by omega, by rw [hget, hname]⟩
  · rintro ⟨htotal, hname⟩
    have hzero : d = 0 := by omega
    subst hzero
    have hget : names[before.length]? = some names[before.length + 0] :=
      List.getElem?_eq_getElem hlt
    exact ⟨List.take_zero, Option.some.inj (hget.symm.trans hname)⟩

end Names

/-- A required input, and an empty name for a dynamic one that gets no tensor of its own. -/
theorem partitioned_iff_empty :
    ∃ inputName, getDynamicInputInfo [.str "required", .str "dynamic"] 2 ["input0", ""]
        = .ok ("input0,", inputName) ∧
      getNoAttrInputArgs [.str "required", .str "dynamic"] 2 ["input0", ""]
        = .ok ("input0,", inputName) ∧
      Partitioned [.str "required", .str "dynamic"] ["input0", ""] inputName := by
  have hone : [PyVal.str "required", .str "dynamic"].countP isDynamic = 1 := by decide
  have hlen : [PyVal.str "required", .str "dynamic"].length ≤ ["input0", ""].length := by decide
  obtain ⟨inputName, hrun, hcaller, hiff⟩ := partitioned_iff hone (by decide) hlen
  exact ⟨inputName, hrun, hcaller, hiff.mpr ⟨rfl, rfl⟩⟩

/-- A required input and a dynamic one of two tensors: `input2` is lost. -/
theorem last_tensor_lost :
    getDynamicInputInfo [.str "required", .str "dynamic"] 3 ["input0", "input1", "input2"]
        = .ok ("input0,input1,input2", "input0,(input1)") ∧
      ¬ Partitioned [.str "required", .str "dynamic"] ["input0", "input1", "input2"]
        "input0,(input1)" := by
  refine ⟨rfl, ?_⟩
  rintro ⟨first, group, last, hnames, hfirst, hlast, hjoin⟩
  have hone : first.length = 1 := hfirst
  have hlastNil : last = [] := by
    rw [hone] at hlast
    exact List.length_eq_zero_iff.mp (by simpa using hlast)
  obtain ⟨name, rfl⟩ := List.length_eq_one_iff.mp hone
  subst hlastNil
  rw [List.append_nil, List.singleton_append, List.cons.injEq] at hnames
  obtain ⟨rfl, rfl⟩ := hnames
  revert hjoin
  decide

end MsOpGenerator

end HwEfat.Main
