/-
  HwEfat.Main.CaseGenerator.FromModel — the cases that `_generate_base_case_from_model` gives.

  What was in memory is not changed, since only new descriptions are (`grows_updateFromNode`).  What
  becomes of the new ones is what `derive` computes from the base case and the node
  (`updateFromNode_eq_ok`).

  Main result: `cases_from_model`.
-/
import HwEfat.Main.CaseGenerator.ModelCases

namespace HwEfat.Main

open HwEfat.Lib (PyError PyVal PyM Dict Heap updateList)
open HwEfat.Lib.PyM (Keeps tryExcept updateEach collect)

namespace CaseGenerator

/-! ## §1. Changes in place. -/

section Steps

variable {h h' : Heap Desc} {case baseCase : Case Nat} {node : Node}

theorem refs_of_descs (hnodup : case.descs.Nodup) : case.inputDesc.Nodup ∧ case.outputDesc.Nodup ∧
    case.inputDesc.Disjoint case.outputDesc := List.nodup_append'.mp hnodup

/-- The descriptions of the inputs, and then those of the outputs, are changed. -/
theorem contents_updateBoth {β γ : Type} {f : β → Desc → Except PyError Desc}
    {g : γ → Desc → Except PyError Desc} {l : List β} {m : List γ} (hnodup : case.descs.Nodup)
    (hvalid : ∀ r ∈ case.descs, r < h.size)
    (hrun : (do
      updateEach f l case.inputDesc
      updateEach g m case.outputDesc) h = (.ok (), h')) :
    updateList f l (h.contents case.inputDesc) = .ok (h'.contents case.inputDesc) ∧
      updateList g m (h.contents case.outputDesc) = .ok (h'.contents case.outputDesc) ∧
      h'.size = h.size := by
  obtain ⟨hins, houts, hdisjoint⟩ := refs_of_descs hnodup
  obtain ⟨hvalidIns, hvalidOuts⟩ := List.forall_mem_append.mp hvalid
  obtain ⟨_, h₁, hfirst, hsecond⟩ := HwEfat.Lib.PyM.bind_eq_ok.mp hrun
  have honly₁ := HwEfat.Lib.onlyAt_of_updateEach hfirst
  have honly₂ := HwEfat.Lib.onlyAt_of_updateEach hsecond
  refine ⟨?_, ?_, honly₂.size.trans honly₁.size⟩
  · rw [honly₂.contents_eq hdisjoint]
    exact HwEfat.Lib.contents_updateEach hins hvalidIns hfirst
  · rw [← honly₁.contents_eq (List.disjoint_comm.mp hdisjoint)]
    refine HwEfat.Lib.contents_updateEach houts (fun r hr => ?_) hsecond
    rw [honly₁.size]
    exact hvalidOuts r hr

/-- **The shapes and types** of a case. -/
theorem contents_modifyNewBaseCaseDict (hnodup : case.descs.Nodup)
    (hvalid : ∀ r ∈ case.descs, r < h.size)
    (hrun : modifyNewBaseCaseDict node case h = (.ok (), h')) :
    ∃ ins outs, updateList appendShape node.inputShape (h.contents case.inputDesc) = .ok ins ∧
      updateList appendShape node.outputShape (h.contents case.outputDesc) = .ok outs ∧
      updateList setType node.inputDtype ins = .ok (h'.contents case.inputDesc) ∧
      updateList setType node.outputDtype outs = .ok (h'.contents case.outputDesc) ∧
      h'.size = h.size := by
  obtain ⟨_, h₁, hshapeIns, hrest⟩ := HwEfat.Lib.PyM.bind_eq_ok.mp hrun
  obtain ⟨_, h₂, hshapeOuts, hrest⟩ := HwEfat.Lib.PyM.bind_eq_ok.mp hrest
  obtain ⟨hins, houts, hsize⟩ := contents_updateBoth hnodup hvalid
    (HwEfat.Lib.PyM.bind_eq_ok.mpr ⟨(), h₁, hshapeIns, hshapeOuts⟩)
  obtain ⟨hins', houts', hsize'⟩ := contents_updateBoth hnodup
    (fun r hr => by
      rw [hsize]
      exact hvalid r hr) hrest
  exact ⟨_, _, hins, houts, hins', houts', hsize'.trans hsize⟩

theorem contents_updateFormatFromModel {formatValue : String} (hnodup : case.descs.Nodup)
    (hvalid : ∀ r ∈ case.descs, r < h.size)
    (hrun : updateFormatFromModel formatValue case h = (.ok (), h')) :
    h'.contents case.inputDesc = (h.contents case.inputDesc).map (setFormat formatValue) ∧
      h'.contents case.outputDesc = (h.contents case.outputDesc).map (setFormat formatValue) ∧
      h'.size = h.size := by
  obtain ⟨hins, houts, hdisjoint⟩ := refs_of_descs hnodup
  obtain ⟨hvalidIns, hvalidOuts⟩ := List.forall_mem_append.mp hvalid
  obtain ⟨_, h₁, hfirst, hsecond⟩ := HwEfat.Lib.PyM.bind_eq_ok.mp hrun
  have honly₁ := HwEfat.Lib.onlyAt_of_updateEach hfirst
  have honly₂ := HwEfat.Lib.onlyAt_of_updateEach hsecond
  refine ⟨?_, ?_, honly₂.size.trans honly₁.size⟩
  · rw [honly₂.contents_eq hdisjoint]
    exact HwEfat.Lib.contents_updateAll hins hvalidIns hfirst
  · rw [← honly₁.contents_eq (List.disjoint_comm.mp hdisjoint)]
    refine HwEfat.Lib.contents_updateAll houts (fun r hr => ?_) hsecond
    rw [honly₁.size]
    exact hvalidOuts r hr

/-- **The attributes and formats** of a case. -/
theorem contents_attrs {pairs : List (PyVal × PyVal)} {found : List (Option PyVal)}
    (hnodup : case.descs.Nodup) (hvalid : ∀ r ∈ case.descs, r < h.size)
    (hrun : collect (fun p => getInfoFromModel case p.2 p.1) pairs h = (.ok found, h')) :
    ∃ formats, (pairs.mapM fun p => newAttr p.2 p.1) = .ok found ∧
      (pairs.mapM fun p => dataFormat p.2) = .ok formats ∧
      h'.contents case.inputDesc = (h.contents case.inputDesc).map (setFormats formats) ∧
      h'.contents case.outputDesc = (h.contents case.outputDesc).map (setFormats formats) ∧
      h'.size = h.size := by
  induction pairs generalizing h found with
  | nil =>
      cases hrun
      exact ⟨[], rfl, rfl, (List.map_id _).symm, (List.map_id _).symm, rfl⟩
  | cons p pairs ih =>
      obtain ⟨new, h₁, found', hstep, hrest, rfl⟩ := HwEfat.Lib.PyM.collect_cons_eq_ok.mp hrun
      obtain ⟨new', h₂, hlift, hstep⟩ := HwEfat.Lib.PyM.bind_eq_ok.mp hstep
      obtain ⟨hnew, rfl⟩ := HwEfat.Lib.PyM.lift_eq_ok.mp hlift
      obtain ⟨format, h₂, hlift, hstep⟩ := HwEfat.Lib.PyM.bind_eq_ok.mp hstep
      obtain ⟨hformat, rfl⟩ := HwEfat.Lib.PyM.lift_eq_ok.mp hlift
      -- An item without a data format writes nothing; any other writes it to every description.
      have hset' : new' = new ∧ h₁.contents case.inputDesc
            = (h.contents case.inputDesc).map (setFormats [format]) ∧
          h₁.contents case.outputDesc = (h.contents case.outputDesc).map (setFormats [format]) ∧
          h₁.size = h.size := by
        cases format with
        | none =>
            cases hstep
            exact ⟨rfl, (List.map_id _).symm, (List.map_id _).symm, rfl⟩
        | some formatValue =>
            obtain ⟨_, h₃, hset, hstep⟩ := HwEfat.Lib.PyM.bind_eq_ok.mp hstep
            cases hstep
            exact ⟨rfl, contents_updateFormatFromModel hnodup hvalid hset⟩
      obtain ⟨rfl, hins, houts, hsize⟩ := hset'
      obtain ⟨formats, hfound, hformats, hins', houts', hsize'⟩ := ih (fun r hr => by
        rw [hsize]
        exact hvalid r hr) hrest
      -- Setting one format after the other is setting the last of them.
      have hcons : ∀ l : List Desc, (l.map (setFormats [format])).map (setFormats formats)
          = l.map (setFormats (format :: formats)) := by
        intro l
        rw [List.map_map]
        refine List.map_congr_left fun desc _ => ?_
        cases format with
        | none => rfl
        | some formatValue => rfl
      refine ⟨format :: formats, ?_, ?_, ?_, ?_, hsize'.trans hsize⟩
      · rw [List.mapM_cons, hnew, hfound]
        rfl
      · rw [List.mapM_cons, hformat, hformats]
        rfl
      · rw [hins', hins, hcons]
      · rw [houts', houts, hcons]

/-- Only the descriptions of the new case are changed. -/
theorem keeps_modifyNewBaseCaseDict (node : Node) (case : Case Nat) :
    Keeps (Heap.OnlyAt case.descs) (modifyNewBaseCaseDict node case) := by
  have htrans : ∀ h₁ h₂ h₃ : Heap Desc, Heap.OnlyAt case.descs h₁ h₂ →
      Heap.OnlyAt case.descs h₂ h₃ → Heap.OnlyAt case.descs h₁ h₃ := fun _ _ _ => Heap.OnlyAt.trans
  have hins : ∀ r ∈ case.inputDesc, r ∈ case.descs := fun _ hr => List.mem_append_left _ hr
  have houts : ∀ r ∈ case.outputDesc, r ∈ case.descs := fun _ hr => List.mem_append_right _ hr
  refine Keeps.bind htrans (HwEfat.Lib.keeps_updateEach hins) fun _ => ?_
  refine Keeps.bind htrans (HwEfat.Lib.keeps_updateEach houts) fun _ => ?_
  refine Keeps.bind htrans (HwEfat.Lib.keeps_updateEach hins) fun _ => ?_
  exact HwEfat.Lib.keeps_updateEach houts

theorem keeps_updateAicoreAttrFromModel (baseCase : Case Nat) (node : Node) (case : Case Nat) :
    Keeps (Heap.OnlyAt case.descs) (updateAicoreAttrFromModel baseCase node case) := by
  have htrans : ∀ h₁ h₂ h₃ : Heap Desc, Heap.OnlyAt case.descs h₁ h₂ →
      Heap.OnlyAt case.descs h₂ h₃ → Heap.OnlyAt case.descs h₁ h₃ := fun _ _ _ => Heap.OnlyAt.trans
  have hrefl := Heap.OnlyAt.refl (α := Desc) case.descs
  have hins : ∀ r ∈ case.inputDesc, r ∈ case.descs := fun _ hr => List.mem_append_left _ hr
  have houts : ∀ r ∈ case.outputDesc, r ∈ case.descs := fun _ hr => List.mem_append_right _ hr
  refine Keeps.bind htrans (HwEfat.Lib.PyM.keeps_collect hrefl htrans (fun p => ?_) _)
    fun found => ?_
  · refine Keeps.bind htrans (HwEfat.Lib.PyM.keeps_lift hrefl _) fun new => ?_
    refine Keeps.bind htrans (HwEfat.Lib.PyM.keeps_lift hrefl _) fun format => ?_
    cases format with
    | none => exact HwEfat.Lib.PyM.keeps_pure hrefl new
    | some formatValue =>
        refine Keeps.bind htrans ?_ fun _ => HwEfat.Lib.PyM.keeps_pure hrefl new
        refine Keeps.bind htrans (HwEfat.Lib.keeps_updateEach hins) fun _ => ?_
        exact HwEfat.Lib.keeps_updateEach houts
  · dsimp only
    split
    · exact HwEfat.Lib.PyM.keeps_pure hrefl _
    · exact HwEfat.Lib.PyM.keeps_pure hrefl _

end Steps

/-! ## §2. The copies. -/

section Copies

variable {h h' : Heap Desc} {baseCase : Case Nat} {node : Node}

/-- The new case before it is changed. -/
def copied (baseCase : Case Nat) (node : Node) (h : Heap Desc) : Case Nat where
  caseName := "Test_" ++ layerName node
  op := baseCase.op
  inputDesc := List.range' h.size baseCase.inputDesc.length
  outputDesc := List.range' (h.size + baseCase.inputDesc.length) baseCase.outputDesc.length

/-- The memory then. -/
def copiedHeap (baseCase : Case Nat) (h : Heap Desc) : Heap Desc :=
  let h₁ := h.allocs (h.contents baseCase.inputDesc)
  h₁.allocs (h₁.contents baseCase.outputDesc)

theorem descs_copied : (copied baseCase node h).descs
    = List.range' h.size (baseCase.inputDesc.length + baseCase.outputDesc.length) := by
  show List.range' _ _ ++ List.range' _ _ = _
  rw [List.range'_append_1]

theorem size_copiedHeap : (copiedHeap baseCase h).size
    = h.size + (baseCase.inputDesc.length + baseCase.outputDesc.length) := by
  unfold copiedHeap
  dsimp only
  rw [Heap.size_allocs, Heap.size_allocs]
  unfold Heap.contents
  rw [List.length_map, List.length_map, Nat.add_assoc]

theorem grows_copiedHeap : Heap.Grows h (copiedHeap baseCase h) :=
  (Heap.grows_allocs h _).trans (Heap.grows_allocs _ _)

theorem mem_descs_copied {r : Nat} (hr : r ∈ (copied baseCase node h).descs) :
    h.size ≤ r ∧ r < (copiedHeap baseCase h).size := by
  rw [descs_copied, List.mem_range'_1] at hr
  rw [size_copiedHeap]
  exact hr

/-- **The copies** are what the base case is. -/
theorem contents_copied (node : Node) (hvalid : ∀ r ∈ baseCase.descs, r < h.size) :
    (copiedHeap baseCase h).contents (copied baseCase node h).inputDesc
        = h.contents baseCase.inputDesc ∧
      (copiedHeap baseCase h).contents (copied baseCase node h).outputDesc
        = h.contents baseCase.outputDesc := by
  obtain ⟨_, hvalidOuts⟩ := List.forall_mem_append.mp hvalid
  have hlength : ∀ (g : Heap Desc) (refs : List Nat), (g.contents refs).length = refs.length :=
    fun g refs => List.length_map _
  have hfirst := Heap.contents_allocs h (h.contents baseCase.inputDesc)
  have hgrows := Heap.grows_allocs h (h.contents baseCase.inputDesc)
  constructor
  · rw [hlength] at hfirst
    refine ((Heap.grows_allocs _ _).contents_eq fun r hr => ?_).trans hfirst
    rw [Heap.size_allocs, hlength]
    exact (List.mem_range'_1.mp hr).2
  · have hsecond := Heap.contents_allocs (h.allocs (h.contents baseCase.inputDesc))
      ((h.allocs (h.contents baseCase.inputDesc)).contents baseCase.outputDesc)
    rw [hgrows.contents_eq hvalidOuts, hlength, Heap.size_allocs, hlength] at hsecond
    show Heap.contents (Heap.allocs _ (Heap.contents _ _)) _ = _
    rw [hgrows.contents_eq hvalidOuts]
    exact hsecond

theorem getNewBaseCase_of_matches (hmatch : Matches baseCase node) :
    getNewBaseCase baseCase node h = (do
      modifyNewBaseCaseDict node (copied baseCase node h)
      return some (copied baseCase node h)) (copiedHeap baseCase h) := by
  unfold getNewBaseCase
  rw [if_neg (not_not.mpr hmatch.1), if_neg (not_not.mpr hmatch.2)]
  unfold copied copiedHeap
  have hsize : (h.allocs (h.contents baseCase.inputDesc)).size
      = h.size + baseCase.inputDesc.length := by
    rw [Heap.size_allocs]
    unfold Heap.contents
    rw [List.length_map]
  rw [← hsize]
  rfl

theorem getNewBaseCase_of_not_matches (hmatch : ¬ Matches baseCase node) :
    getNewBaseCase baseCase node h = (.ok none, h) := by
  unfold getNewBaseCase
  by_cases hins : node.inputShape.length = baseCase.inputDesc.length
  · rw [if_neg (not_not.mpr hins), if_pos fun houts => hmatch ⟨hins, houts⟩]
    rfl
  · rw [if_pos hins]
    rfl

/-- An error is replaced at most. -/
theorem updateAicoreIoFromModel_apply (baseCase : Case Nat) (node : Node) (h : Heap Desc) :
    (updateAicoreIoFromModel baseCase node h).2 = (getNewBaseCase baseCase node h).2 ∧
      ∀ o, (updateAicoreIoFromModel baseCase node h).1 = .ok o →
        (getNewBaseCase baseCase node h).1 = .ok o := by
  unfold updateAicoreIoFromModel tryExcept
  split
  · next e h₁ hrun =>
      rw [hrun]
      split
      · exact ⟨rfl, fun o ho => (nomatch ho)⟩
      · exact ⟨rfl, fun o ho => (nomatch ho)⟩
  · next a h₁ hrun =>
      rw [hrun]
      exact ⟨rfl, fun o ho => ho⟩

theorem grows_getNewBaseCase (baseCase : Case Nat) (node : Node) (h : Heap Desc) :
    Heap.Grows h (getNewBaseCase baseCase node h).2 ∧
      ∀ case, (getNewBaseCase baseCase node h).1 = .ok (some case) →
        ∀ r ∈ case.descs, h.size ≤ r := by
  by_cases hmatch : Matches baseCase node
  · rw [getNewBaseCase_of_matches hmatch, HwEfat.Lib.PyM.bind_apply]
    have honly := keeps_modifyNewBaseCaseDict node (copied baseCase node h) (copiedHeap baseCase h)
    have hnew : ∀ r ∈ (copied baseCase node h).descs, h.size ≤ r := fun r hr =>
      (mem_descs_copied hr).1
    have hgrows := grows_copiedHeap.onlyAt honly hnew
    cases hrun : modifyNewBaseCaseDict node (copied baseCase node h) (copiedHeap baseCase h) with
    | mk r h₁ =>
        rw [hrun] at hgrows
        cases r with
        | error e => exact ⟨hgrows, fun case hcase => (nomatch hcase)⟩
        | ok u =>
            refine ⟨hgrows, fun case hcase => ?_⟩
            cases hcase
            exact hnew
  · rw [getNewBaseCase_of_not_matches hmatch]
    exact ⟨Heap.Grows.refl h, fun case hcase => (nomatch hcase)⟩

/-- **Whatever comes of a node**: what was in memory is as before. -/
theorem grows_updateFromNode (baseCase : Case Nat) (node : Node) :
    Keeps Heap.Grows (updateFromNode baseCase node) := by
  intro h
  obtain ⟨hstate, hok⟩ := updateAicoreIoFromModel_apply baseCase node h
  obtain ⟨hgrows, hnew⟩ := grows_getNewBaseCase baseCase node h
  rw [← hstate] at hgrows
  unfold updateFromNode
  rw [HwEfat.Lib.PyM.bind_apply]
  cases hrun : updateAicoreIoFromModel baseCase node h with
  | mk r h₁ =>
      rw [hrun] at hgrows hok
      cases r with
      | error e => exact hgrows
      | ok o =>
          cases o with
          | none => exact hgrows
          | some case =>
              have honly := Keeps.bind (R := Heap.OnlyAt case.descs)
                (fun _ _ _ => Heap.OnlyAt.trans)
                (keeps_updateAicoreAttrFromModel baseCase node case)
                (fun c => HwEfat.Lib.PyM.keeps_pure (Heap.OnlyAt.refl case.descs) (some c)) h₁
              exact hgrows.onlyAt honly (hnew case (hok _ rfl))

/-- **A node that is passed over, or its case.** -/
theorem updateFromNode_eq_ok {result : Option (Case Nat)}
    (hrun : updateFromNode baseCase node h = (.ok result, h')) :
    (¬ Matches baseCase node ∧ result = none) ∨
      (Matches baseCase node ∧ ∃ case, result = some case ∧
        (∀ r ∈ case.descs, h.size ≤ r ∧ r < h'.size) ∧
      ((∀ r ∈ baseCase.descs, r < h.size) →
        derive (content h baseCase) node = .ok (content h' case))) := by
  obtain ⟨o, h₁, hio, hrun⟩ := HwEfat.Lib.PyM.bind_eq_ok.mp hrun
  obtain ⟨hstate, hok⟩ := updateAicoreIoFromModel_apply baseCase node h
  rw [hio] at hstate hok
  have hnew : getNewBaseCase baseCase node h = (.ok o, h₁) := Prod.ext (hok o rfl) hstate.symm
  by_cases hmatch : Matches baseCase node
  · refine Or.inr ⟨hmatch, ?_⟩
    rw [getNewBaseCase_of_matches hmatch] at hnew
    obtain ⟨_, h₂, hmodify, hnew⟩ := HwEfat.Lib.PyM.bind_eq_ok.mp hnew
    cases hnew
    obtain ⟨case, h₃, hattr, hrun⟩ := HwEfat.Lib.PyM.bind_eq_ok.mp hrun
    cases hrun
    obtain ⟨found, h₃, hfound, hattr⟩ := HwEfat.Lib.PyM.bind_eq_ok.mp hattr
    have hnodup : (copied baseCase node h).descs.Nodup := by
      rw [descs_copied]
      exact List.nodup_range'
    have hvalid : ∀ r ∈ (copied baseCase node h).descs, r < (copiedHeap baseCase h).size :=
      fun r hr => (mem_descs_copied hr).2
    obtain ⟨ins, outs, hins, houts, hins', houts', hsize⟩ :=
      contents_modifyNewBaseCaseDict hnodup hvalid hmodify
    obtain ⟨formats, hnews, hformats, hins'', houts'', hsize'⟩ := contents_attrs hnodup
      (fun r hr => by
        rw [hsize]
        exact hvalid r hr) hfound
    -- The attributes are the last field that is set.
    have hcase : case = { copied baseCase node h with
        attr := if 0 < (found.filterMap id).length then some (found.filterMap id) else none } := by
      split at hattr
      · next hpos =>
          cases hattr
          rw [if_pos hpos]
      · next hpos =>
          cases hattr
          rw [if_neg hpos]
          rfl
    have hstate : h' = h₃ := by
      split at hattr
      · cases hattr
        rfl
      · cases hattr
        rfl
    rw [hcase, hstate]
    refine ⟨_, rfl, fun r hr => ?_, fun hbase => ?_⟩
    · rw [hsize', hsize]
      have hmem : r ∈ (copied baseCase node h).descs := hr
      exact mem_descs_copied hmem
    · obtain ⟨hcopyIns, hcopyOuts⟩ := contents_copied node hbase
      rw [hcopyIns] at hins
      rw [hcopyOuts] at houts
      refine HwEfat.Lib.bind_eq_ok.mpr ⟨ins, hins, HwEfat.Lib.bind_eq_ok.mpr ⟨outs, houts, ?_⟩⟩
      refine HwEfat.Lib.bind_eq_ok.mpr ⟨_, hins', HwEfat.Lib.bind_eq_ok.mpr ⟨_, houts', ?_⟩⟩
      refine HwEfat.Lib.bind_eq_ok.mpr ⟨found, hnews, HwEfat.Lib.bind_eq_ok.mpr
        ⟨formats, hformats, ?_⟩⟩
      unfold content
      dsimp only
      rw [hins'', houts'']
      rfl
  · rw [getNewBaseCase_of_not_matches hmatch] at hnew
    cases hnew
    cases hrun
    exact Or.inl ⟨hmatch, rfl⟩

end Copies

/-! ## §3. Cases that extend the base case. -/

/-- What a description of a case has from that of the base case: a shape is added, and the type and
the format may be those of the node. -/
structure ExtendsDesc (items shape : List PyVal) (dtype : Option PyVal) (base desc : Desc) :
    Prop where
  other : ∀ key, key ≠ "shape" → key ≠ "type" → key ≠ "format" → desc.get? key = base.get? key
  shape : ∃ l, base.get? "shape" = some (.list l) ∧
    desc.get? "shape" = some (.list (l ++ [.list shape]))
  type : desc.get? "type" = dtype.or (base.get? "type")
  format : desc.get? "format" = base.get? "format" ∨
    ∃ item ∈ items, ∃ formatValue, dataFormat item = .ok (some formatValue) ∧
      desc.get? "format" = some (.list [.str formatValue])

/-- The descriptions of a case, one for each of the base case. -/
def ExtendsDescs (items : List PyVal) (shapes : List (List PyVal)) (dtypes : List PyVal)
    (bases descs : List Desc) : Prop :=
  descs.length = bases.length ∧ ∀ (i : Nat) base, bases[i]? = some base → ∃ shape desc,
    shapes[i]? = some shape ∧ descs[i]? = some desc ∧
      ExtendsDesc items shape dtypes[i]? base desc

/-- The attributes have the same name. -/
def SameName (item attr : PyVal) : Prop :=
  ∃ name name', item.getItem "name" = .ok name ∧ attr.get "name" = .ok name' ∧
    name.eq name' = true

/-- The value that an attribute of a node has in a case: from a string, double quotes and blanks are
removed. -/
def ValueOf (attr item attrValue : PyVal) : Prop :=
  ∃ type, attr.get "type" = .ok type ∧
    if type.isStr "string" = true then ∃ s, item.get "value" = .ok (.str s) ∧
      attrValue = .str (String.ofList (s.toList.filter fun c => c != ' ' && c != '"'))
    else item.get "value" = .ok attrValue

/-- An attribute of a case: the type is that of the base case, the name and the value are those of
the node. -/
def AttrOf (attr item a : PyVal) : Prop :=
  SameName item attr ∧ ∃ name type attrValue, item.getItem "name" = .ok name ∧
    attr.getItem "type" = .ok type ∧ ValueOf attr item attrValue ∧
    a = .dict [("name", name), ("type", type), ("value", attrValue)]

/-- **A case of a node that extends the base case.**  Its attributes are those of both. -/
structure Extends (baseCase : Case Desc) (node : Node) (case : Case Desc) : Prop where
  caseName : case.caseName = "Test_" ++ layerName node
  op : case.op = baseCase.op
  inputs : ExtendsDescs (node.attr.getD []) node.inputShape node.inputDtype baseCase.inputDesc
    case.inputDesc
  outputs : ExtendsDescs (node.attr.getD []) node.outputShape node.outputDtype
    baseCase.outputDesc case.outputDesc
  attr : ∀ l, case.attr = some l → ∀ a ∈ l, ∃ attr ∈ baseCase.attr.getD [],
    ∃ item ∈ node.attr.getD [], newAttr item attr = .ok (some a) ∧ AttrOf attr item a
  kept : ∀ attr ∈ baseCase.attr.getD [], ∀ item ∈ node.attr.getD [], SameName item attr →
    ∃ l a, case.attr = some l ∧ a ∈ l ∧ newAttr item attr = .ok (some a) ∧ AttrOf attr item a

section Extends

theorem setFormat_get? (formatValue : String) (desc : Desc) :
    (∀ key, key ≠ "format" → (setFormat formatValue desc).get? key = desc.get? key) ∧
      ((setFormat formatValue desc).get? "format" = desc.get? "format" ∨
        (setFormat formatValue desc).get? "format" = some (.list [.str formatValue])) := by
  unfold setFormat
  split
  · refine ⟨fun key hkey => ?_, Or.inr ?_⟩
    · rw [Dict.get?_set, if_neg hkey]
    · rw [Dict.get?_set, if_pos rfl]
  · exact ⟨fun _ _ => rfl, Or.inl rfl⟩

theorem setFormats_get? (formats : List (Option String)) (desc : Desc) :
    (∀ key, key ≠ "format" → (setFormats formats desc).get? key = desc.get? key) ∧
      ((setFormats formats desc).get? "format" = desc.get? "format" ∨
        ∃ formatValue, some formatValue ∈ formats ∧
          (setFormats formats desc).get? "format" = some (.list [.str formatValue])) := by
  induction formats generalizing desc with
  | nil => exact ⟨fun _ _ => rfl, Or.inl rfl⟩
  | cons format formats ih =>
      cases format with
      | none =>
          obtain ⟨hother, hformat⟩ := ih desc
          refine ⟨hother, hformat.imp_right fun ⟨v, hv, heq⟩ => ⟨v, ?_, heq⟩⟩
          exact List.mem_cons_of_mem _ hv
      | some formatValue =>
          obtain ⟨hother₁, hformat₁⟩ := setFormat_get? formatValue desc
          obtain ⟨hother, hformat⟩ := ih (setFormat formatValue desc)
          refine ⟨fun key hkey => (hother key hkey).trans (hother₁ key hkey), ?_⟩
          rcases hformat with heq | ⟨v, hv, heq⟩
          · rcases hformat₁ with heq₁ | heq₁
            · exact Or.inl (heq.trans heq₁)
            · exact Or.inr ⟨formatValue, List.mem_cons_self, heq.trans heq₁⟩
          · exact Or.inr ⟨v, List.mem_cons_of_mem _ hv, heq⟩

theorem appendShape_get? {shape : List PyVal} {base desc : Desc}
    (h : appendShape shape base = .ok desc) :
    (∀ key, key ≠ "shape" → desc.get? key = base.get? key) ∧
      ∃ l, base.get? "shape" = some (.list l) ∧
        desc.get? "shape" = some (.list (l ++ [.list shape])) := by
  obtain ⟨_, _, h⟩ := HwEfat.Lib.bind_eq_ok.mp h
  obtain ⟨v, hv, h⟩ := HwEfat.Lib.bind_eq_ok.mp h
  cases v with
  | list l =>
      cases h
      refine ⟨fun key hkey => ?_, l, Dict.getItem_eq_ok.mp hv, ?_⟩
      · rw [Dict.get?_set, if_neg hkey]
      · rw [Dict.get?_set, if_pos rfl]
  | _ => cases h

/-- **The descriptions extend those of the base case.** -/
theorem extendsDescs {items : List PyVal} {shapes : List (List PyVal)} {dtypes : List PyVal}
    {formats : List (Option String)} {bases shaped typed : List Desc}
    (hlength : shapes.length = bases.length)
    (hshapes : updateList appendShape shapes bases = .ok shaped)
    (htypes : updateList setType dtypes shaped = .ok typed)
    (hformats : ∀ v, some v ∈ formats → ∃ item ∈ items, dataFormat item = .ok (some v)) :
    ExtendsDescs items shapes dtypes bases (typed.map (setFormats formats)) := by
  refine ⟨?_, fun i base hbase => ?_⟩
  · rw [List.length_map, HwEfat.Lib.length_updateList htypes, HwEfat.Lib.length_updateList hshapes]
  · obtain ⟨hlt, _⟩ := List.getElem?_eq_some_iff.mp hbase
    rw [← hlength] at hlt
    have hshape : shapes[i]? = some shapes[i] := List.getElem?_eq_getElem hlt
    obtain ⟨base', desc₁, hbase', hdesc₁, hstep⟩ :=
      (HwEfat.Lib.getElem?_updateList hshapes i).1 _ hshape
    obtain rfl := Option.some.inj (hbase.symm.trans hbase')
    obtain ⟨hother, l, hl, hdesc⟩ := appendShape_get? hstep
    -- The type is set if there is one for this place.
    obtain ⟨desc₂, hdesc₂, htype, hkeep⟩ : ∃ desc₂, typed[i]? = some desc₂ ∧
        desc₂.get? "type" = dtypes[i]?.or (desc₁.get? "type") ∧
        ∀ key, key ≠ "type" → desc₂.get? key = desc₁.get? key := by
      obtain ⟨hset, hkept⟩ := HwEfat.Lib.getElem?_updateList htypes i
      cases hdtype : dtypes[i]? with
      | none => exact ⟨desc₁, (hkept hdtype).trans hdesc₁, rfl, fun _ _ => rfl⟩
      | some dtype =>
          obtain ⟨desc₁', desc₂, hdesc₁', hdesc₂, hstep₂⟩ := hset dtype hdtype
          obtain rfl := Option.some.inj (hdesc₁.symm.trans hdesc₁')
          cases hstep₂
          refine ⟨_, hdesc₂, ?_, fun key hkey => ?_⟩
          · rw [Dict.get?_set, if_pos rfl]
            rfl
          · rw [Dict.get?_set, if_neg hkey]
    obtain ⟨hothers, hformat⟩ := setFormats_get? formats desc₂
    refine ⟨_, setFormats formats desc₂, hshape, ?_, ?_⟩
    · rw [List.getElem?_map, hdesc₂]
      rfl
    · refine ⟨fun key hshape htype hformat => ?_, ⟨l, hl, ?_⟩, ?_, ?_⟩
      · rw [hothers key hformat, hkeep key htype, hother key hshape]
      · rw [hothers _ (by decide), hkeep _ (by decide), hdesc]
      · rw [hothers _ (by decide), htype, hother _ (by decide)]
      · rw [← hother "format" (by decide), ← hkeep "format" (by decide)]
        refine hformat.imp_right fun ⟨v, hv, heq⟩ => ?_
        obtain ⟨item, hitem, hvalue⟩ := hformats v hv
        exact ⟨item, hitem, v, hvalue, heq⟩

/-- The pairs are all of an attribute of the base case and one of the node. -/
theorem mem_attrPairs {δ : Type} {baseCase : Case δ} {node : Node} {p : PyVal × PyVal} :
    p ∈ attrPairs baseCase node ↔ p.1 ∈ baseCase.attr.getD [] ∧ p.2 ∈ node.attr.getD [] := by
  unfold attrPairs
  cases hattrs : baseCase.attr with
  | none => exact iff_of_false List.not_mem_nil fun h => List.not_mem_nil h.1
  | some attrs =>
      cases hitems : node.attr with
      | none => exact iff_of_false List.not_mem_nil fun h => List.not_mem_nil h.2
      | some items =>
          rw [List.mem_flatMap]
          constructor
          · rintro ⟨attr, hattr, hp⟩
            obtain ⟨item, hitem, rfl⟩ := List.mem_map.mp hp
            exact ⟨hattr, hitem⟩
          · rintro ⟨hattr, hitem⟩
            exact ⟨p.1, hattr, List.mem_map_of_mem hitem⟩

/-- What `_get_info_from_model` appends: an attribute, if the two have one name. -/
theorem newAttr_spec {item attr : PyVal} {o : Option PyVal} (h : newAttr item attr = .ok o) :
    (¬ SameName item attr ∧ o = none) ∨ ∃ a, o = some a ∧ AttrOf attr item a := by
  unfold newAttr at h
  obtain ⟨name, hname, h⟩ := HwEfat.Lib.bind_eq_ok.mp h
  obtain ⟨name', hname', h⟩ := HwEfat.Lib.bind_eq_ok.mp h
  split at h
  · next heq =>
      obtain ⟨type, htype, h⟩ := HwEfat.Lib.bind_eq_ok.mp h
      have hrest : ∃ attrValue, ValueOf attr item attrValue ∧ (do
          let newAttr := PyVal.dict [("name", name), ("type", ← attr.getItem "type"),
            ("value", attrValue)]
          checkAttrValueValid newAttr
          return some newAttr) = .ok o := by
        dsimp only at h
        split at h
        -- A string loses its quotes and blanks.
        · next hstring =>
            obtain ⟨value, hvalue, h⟩ := HwEfat.Lib.bind_eq_ok.mp h
            obtain ⟨noQuotes, hquotes, h⟩ := HwEfat.Lib.bind_eq_ok.mp h
            obtain ⟨attrValue, hblanks, h⟩ := HwEfat.Lib.bind_eq_ok.mp h
            cases value with
            | str s =>
                cases hquotes
                cases hblanks
                refine ⟨_, ⟨type, htype, ?_⟩, h⟩
                rw [if_pos hstring]
                refine ⟨s, hvalue, ?_⟩
                rw [String.toList_ofList, List.filter_filter]
            | _ => cases hquotes
        · next hother =>
            obtain ⟨attrValue, hvalue, h⟩ := HwEfat.Lib.bind_eq_ok.mp h
            refine ⟨attrValue, ⟨type, htype, ?_⟩, h⟩
            rw [if_neg hother]
            exact hvalue
      obtain ⟨attrValue, hvalue, h⟩ := hrest
      obtain ⟨type', htype', h⟩ := HwEfat.Lib.bind_eq_ok.mp h
      obtain ⟨_, _, h⟩ := HwEfat.Lib.bind_eq_ok.mp h
      cases h
      exact Or.inr ⟨_, rfl, ⟨name, name', hname, hname', heq⟩, name, type', attrValue, hname,
        htype', hvalue, rfl⟩
  · next hne =>
      cases h
      refine Or.inl ⟨?_, rfl⟩
      -- The names have been read, so they are the ones that differ.
      rintro ⟨n, n', hn, hn', heq⟩
      rw [hname, Except.ok.injEq] at hn
      rw [hname', Except.ok.injEq] at hn'
      subst hn hn'
      exact hne heq

theorem extends_of_derive {baseCase case : Case Desc} {node : Node} (hmatch : Matches baseCase node)
    (h : derive baseCase node = .ok case) : Extends baseCase node case := by
  obtain ⟨ins, hins, h⟩ := HwEfat.Lib.bind_eq_ok.mp h
  obtain ⟨outs, houts, h⟩ := HwEfat.Lib.bind_eq_ok.mp h
  obtain ⟨ins', hins', h⟩ := HwEfat.Lib.bind_eq_ok.mp h
  obtain ⟨outs', houts', h⟩ := HwEfat.Lib.bind_eq_ok.mp h
  obtain ⟨found, hfound, h⟩ := HwEfat.Lib.bind_eq_ok.mp h
  obtain ⟨formats, hformats, h⟩ := HwEfat.Lib.bind_eq_ok.mp h
  have hsource : ∀ v, some v ∈ formats →
      ∃ item ∈ node.attr.getD [], dataFormat item = .ok (some v) := by
    intro v hv
    obtain ⟨p, hp, hvalue⟩ :=
      HwEfat.Lib.exists_of_forall₂ (HwEfat.Lib.mapM_eq_ok.mp hformats) hv
    exact ⟨p.2, (mem_attrPairs.mp hp).2, hvalue⟩
  -- What is found comes from pairs, and every pair gives something.
  have hfrom : ∀ a ∈ found.filterMap id, ∃ p ∈ attrPairs baseCase node,
      newAttr p.2 p.1 = .ok (some a) ∧ AttrOf p.1 p.2 a := by
    intro a ha
    obtain ⟨o, ho, rfl⟩ := List.mem_filterMap.mp ha
    obtain ⟨p, hp, hvalue⟩ := HwEfat.Lib.exists_of_forall₂ (HwEfat.Lib.mapM_eq_ok.mp hfound) ho
    rcases newAttr_spec hvalue with ⟨_, hnone⟩ | ⟨a', ha', hattr⟩
    · cases hnone
    · cases ha'
      exact ⟨p, hp, hvalue, hattr⟩
  have hto : ∀ p ∈ attrPairs baseCase node, SameName p.2 p.1 → ∃ a ∈ found.filterMap id,
      newAttr p.2 p.1 = .ok (some a) ∧ AttrOf p.1 p.2 a := by
    intro p hp hname
    obtain ⟨o, ho, hvalue⟩ :=
      HwEfat.Lib.exists_of_forall₂ (HwEfat.Lib.mapM_eq_ok.mp hfound).flip hp
    rcases newAttr_spec hvalue with ⟨hne, _⟩ | ⟨a, rfl, hattr⟩
    · exact absurd hname hne
    · exact ⟨a, List.mem_filterMap.mpr ⟨some a, ho, rfl⟩, hvalue, hattr⟩
  cases h
  refine ⟨rfl, rfl, extendsDescs hmatch.1 hins hins' hsource,
    extendsDescs hmatch.2 houts houts' hsource, fun l hl a ha => ?_, fun attr hattr item hitem h => ?_⟩
  · dsimp only at hl
    split at hl
    · cases hl
      obtain ⟨p, hp, hvalue, hattr⟩ := hfrom a ha
      obtain ⟨hbase, hnode⟩ := mem_attrPairs.mp hp
      exact ⟨p.1, hbase, p.2, hnode, hvalue, hattr⟩
    · cases hl
  · obtain ⟨a, ha, hvalue, hof⟩ := hto (attr, item) (mem_attrPairs.mpr ⟨hattr, hitem⟩) h
    exact ⟨_, a, if_pos (List.length_pos_of_mem ha), ha, hvalue, hof⟩

end Extends

/-- **The cases that a run gives**: one for each node that matches, in order, which extends the base
case, is computed from the base case and the node alone, and shares no description with another
case or the base case. -/
structure FromModel (derive : Case Desc → Node → Except PyError (Case Desc)) (h : Heap Desc)
    (baseCase : Case Nat) (nodes : List Node) (h' : Heap Desc) (cases : List (Case Nat)) :
    Prop where
  each : List.Forall₂ (fun node case =>
    derive (content h baseCase) node = .ok (content h' case) ∧
      Extends (content h baseCase) node (content h' case)) (nodes.filter (Matches baseCase)) cases
  fresh : ∀ case ∈ cases, ∀ r ∈ case.descs, h.size ≤ r
  own : cases.Pairwise fun case case' => case.descs.Disjoint case'.descs

/-! ## §4. Runs. -/

section Runs

variable {h h' : Heap Desc} {baseCase : Case Nat} {nodes : List Node}

/-- What comes of a node is related to its case at the end. -/
theorem forall₂_cases {results : List (Option (Case Nat))}
    (hvalid : ∀ r ∈ baseCase.descs, r < h.size)
    (hrun : collect (updateFromNode baseCase) nodes h = (.ok results, h')) :
    List.Forall₂ (fun node case => (∀ r ∈ case.descs, h.size ≤ r ∧ r < h'.size) ∧
      derive (content h baseCase) node = .ok (content h' case) ∧
      Extends (content h baseCase) node (content h' case))
      (nodes.filter (Matches baseCase)) (results.filterMap id) := by
  have heach := (HwEfat.Lib.PyM.collect_forall₂ (R := Heap.Grows)
    (Q := fun s s' node result => (∀ r ∈ baseCase.descs, r < s.size) →
      (¬ Matches baseCase node ∧ result = none) ∨ (Matches baseCase node ∧
        ∃ case, result = some case ∧ (∀ r ∈ case.descs, s.size ≤ r ∧ r < s'.size) ∧
          derive (content s baseCase) node = .ok (content s' case)))
    Heap.Grows.refl (fun _ _ _ => Heap.Grows.trans) ?_ ?_ hrun).2
  · refine HwEfat.Lib.forall₂_filter (heach.imp fun node result hresult => ?_)
    refine (hresult hvalid).imp_right fun ⟨hmatch, case, hcase, hnew, hderive⟩ => ?_
    have hmatch' : Matches (content h baseCase) node := by
      unfold Matches content Heap.contents
      rw [List.length_map, List.length_map]
      exact hmatch
    exact ⟨hmatch, case, hcase, hnew, hderive, extends_of_derive hmatch' hderive⟩
  · -- What is there stays as it is before and after the step.
    intro s₁ s₂ s₃ s₄ node result hbefore hresult hafter hbase
    have hcontent : content s₂ baseCase = content s₁ baseCase := by
      unfold content
      rw [hbefore.contents_eq fun r hr => hbase r (List.mem_append_left _ hr),
        hbefore.contents_eq fun r hr => hbase r (List.mem_append_right _ hr)]
    refine (hresult fun r hr => (hbase r hr).trans_le hbefore.size).imp_right ?_
    rintro ⟨hmatch, case, hcase, hnew, hderive⟩
    refine ⟨hmatch, case, hcase, fun r hr => ⟨hbefore.size.trans (hnew r hr).1,
      (hnew r hr).2.trans_le hafter.size⟩, ?_⟩
    have hcontent' : content s₄ case = content s₃ case := by
      unfold content
      rw [hafter.contents_eq fun r hr => (hnew r (List.mem_append_left _ hr)).2,
        hafter.contents_eq fun r hr => (hnew r (List.mem_append_right _ hr)).2]
    rw [← hcontent, hcontent']
    exact hderive
  · intro node s result s' hstep
    have hgrows := grows_updateFromNode baseCase node s
    rw [hstep] at hgrows
    refine ⟨hgrows, fun hbase => ?_⟩
    refine (updateFromNode_eq_ok hstep).imp_right ?_
    rintro ⟨hmatch, case, hcase, hnew, hderive⟩
    exact ⟨hmatch, case, hcase, hnew, hderive hbase⟩

/-- No two cases share a description. -/
theorem pairwise_cases {results : List (Option (Case Nat))}
    (hrun : collect (updateFromNode baseCase) nodes h = (.ok results, h')) :
    (results.filterMap id).Pairwise fun case case' => case.descs.Disjoint case'.descs := by
  have hpairwise := (HwEfat.Lib.PyM.collect_pairwise
    (B := fun (s : Heap Desc) result => ∀ case, result = some case →
      ∀ r ∈ case.descs, r < s.size)
    (P := fun result result' => ∀ case case', result = some case → result' = some case' →
      case.descs.Disjoint case'.descs) ?_ hrun).1
  · rw [List.pairwise_filterMap]
    exact hpairwise.imp fun hdisjoint case hcase case' hcase' => hdisjoint case case' hcase hcase'
  · intro node s result s' hstep
    have hgrows := grows_updateFromNode baseCase node s
    rw [hstep] at hgrows
    have hnew : ∀ case, result = some case → ∀ r ∈ case.descs, s.size ≤ r ∧ r < s'.size := by
      rintro case rfl
      rcases updateFromNode_eq_ok hstep with ⟨_, hnone⟩ | ⟨_, case', hcase', hnew, _⟩
      · cases hnone
      · cases hcase'
        exact hnew
    refine ⟨fun case hcase r hr => (hnew case hcase r hr).2, fun old hold => ⟨?_, ?_⟩⟩
    · exact fun case hcase r hr => (hold case hcase r hr).trans_le hgrows.size
    · intro case case' hcase hcase' r hr hr'
      exact absurd (hold case hcase r hr) (Nat.not_lt.mpr (hnew case' hcase' r hr').1)

end Runs

/-- **Cases from a model**: what was in memory, as the base case, is as before. -/
theorem cases_from_model : ∃ derive, ∀ (h : Heap Desc) (baseCase : BaseCase h) (nodes : List Node)
    (cases : List (Case Nat)) (h' : Heap Desc),
    generateBaseCaseFromModel baseCase.toCase nodes h = (.ok cases, h') →
      (∀ r, r < h.size → h'.read r = h.read r) ∧
        if ∃ node ∈ nodes, Matches baseCase.toCase node
        then FromModel derive h baseCase.toCase nodes h' cases
        else cases = [baseCase.toCase] := by
  refine ⟨derive, fun h baseCase nodes cases h' hrun => ?_⟩
  unfold generateBaseCaseFromModel at hrun
  -- Without nodes the base case is returned.
  by_cases hnil : nodes.length = 0
  · rw [if_pos hnil] at hrun
    cases hrun
    refine ⟨fun _ _ => rfl, ?_⟩
    rw [List.eq_nil_of_length_eq_zero hnil, if_neg (by simp)]
  · rw [if_neg hnil] at hrun
    obtain ⟨results, h₁, hresults, hrun⟩ := HwEfat.Lib.PyM.bind_eq_ok.mp hrun
    have hgrows := HwEfat.Lib.PyM.keeps_collect Heap.Grows.refl (fun _ _ _ => Heap.Grows.trans)
      (grows_updateFromNode baseCase.toCase) nodes h
    rw [hresults] at hgrows
    have heach := forall₂_cases baseCase.valid hresults
    -- A node gives a case exactly if it matches, so the result is empty if none does.
    have hany : (∃ node ∈ nodes, Matches baseCase.toCase node) ↔ results.filterMap id ≠ [] := by
      rw [Ne, ← List.length_eq_zero_iff, ← heach.length_eq, List.length_eq_zero_iff,
        List.filter_eq_nil_iff]
      simp
    split at hrun
    · next hempty =>
        cases hrun
        refine ⟨hgrows.read, ?_⟩
        rw [if_neg fun h => hany.mp h (List.isEmpty_iff.mp hempty)]
    · next hempty =>
        cases hrun
        refine ⟨hgrows.read, ?_⟩
        rw [if_pos (hany.mpr fun h => hempty (List.isEmpty_iff.mpr h))]
        refine ⟨heach.imp fun _ _ h => h.2, fun case hcase r hr => ?_, pairwise_cases hresults⟩
        obtain ⟨node, _, hnew, _⟩ := HwEfat.Lib.exists_of_forall₂ heach hcase
        exact (hnew r hr).1

/-! ## §5. What is not kept. -/

/-- One input and one output, of a case for the training mode. -/
def addHeap : Heap Desc := ⟨[Dict.empty.set "shape" (.list []), Dict.empty.set "shape" (.list [])]⟩

def addBaseCase : BaseCase addHeap where
  caseName := "Test_Add_001"
  stMode := some "ms_python_train"
  op := "Add"
  inputDesc := [0]
  outputDesc := [1]
  nodup := by decide
  valid := by decide

/-- A node with as many inputs and outputs as `shapes` and one. -/
def addNode (shapes : List (List PyVal)) : Node where
  layer := "fp32_vars/add"
  inputDtype := []
  inputShape := shapes
  outputDtype := []
  outputShape := [[.int 8]]
  attr := none

/-- A base case with an attribute. -/
def sumBaseCase : BaseCase addHeap :=
  { addBaseCase with
    attr := some [.dict [("name", .str "keep_dims"), ("type", .str "bool"),
      ("value", .bool false)]] }

/-- A node with that attribute. -/
def sumNode : Node :=
  { addNode [[.int 8, .int 16]] with
    attr := some [.dict [("name", .str "keep_dims"), ("value", .bool true)]] }

/-- Two nodes, of which the first one has the attribute: so has its case. -/
theorem cases_from_model_two : ∃ derive cases h', FromModel derive addHeap sumBaseCase.toCase
    [sumNode, addNode [[.int 8]]] h' cases ∧ cases.map (·.attr.isSome) = [true, false] := by
  obtain ⟨derive, hderive⟩ := cases_from_model
  obtain ⟨cases, hok, hattrs⟩ := HwEfat.Lib.exists_eq_ok
    (x := (generateBaseCaseFromModel sumBaseCase.toCase [sumNode, addNode [[.int 8]]] addHeap).1)
    (p := fun cases => cases.map (·.attr.isSome) == [true, false]) (by decide +kernel)
  have hrun := (hderive addHeap sumBaseCase _ cases _ (Prod.ext hok rfl)).2
  rw [if_pos ⟨_, List.mem_cons_self, by decide⟩] at hrun
  exact ⟨derive, cases, _, hrun, beq_iff_eq.mp hattrs⟩

/-- The case of a node has no mode, and without a node that matches the base case is returned. -/
theorem base_case_not_kept :
    (Matches addBaseCase.toCase (addNode [[.int 8]]) ∧
      (generateBaseCaseFromModel addBaseCase.toCase [addNode [[.int 8]]] addHeap).1.toOption.map
        (List.map Case.stMode) = some [none]) ∧
      ¬ Matches addBaseCase.toCase (addNode []) ∧
      (generateBaseCaseFromModel addBaseCase.toCase [addNode []] addHeap).1.toOption.map
        (List.map Case.stMode) = some [some "ms_python_train"] := by
  decide +kernel

end CaseGenerator

end HwEfat.Main
