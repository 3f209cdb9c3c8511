/-
  HwEfat.Main.CaseDesign.CreatedCase — the file that `create` writes for an AI Core operator, as
  `run` reads it.

  The sub-cases of a description are the pairs of a format and a type.  What `run` demands besides
  is that the white lists have the values, that the names are plain, and that inputs and outputs
  have equally many of them.

  Main results: `created_case_runs_iff`, `created_sub_cases`.
-/
import HwEfat.Main.CaseDesign.CreatedNames
import HwEfat.Main.SubCaseDesign.Pairing

namespace HwEfat.Main

open HwEfat.Lib (PyError PyVal PyDict Dict raiseIf bind_eq_ok raiseIf_eq_ok forM_eq_ok)

namespace CreatedCase

open CaseGenerator (Side Fields OpInfo)
open SubCaseDesign (checkListStrValid)
open SubCaseDesignCross (Descs Prepared)

/-! ## §1. Numbers of values. -/

/-- How many values there are for a field that is compared. -/
def numberAt (key : String) (f : Fields) : Nat :=
  if key = "format" then f.format.length else if key = "type" then f.dtype.length else 1

/-- Inputs and outputs have equally many values, and outputs equally many pairs even if there are
no inputs to compare them with. -/
structure Balanced (py : Bool) (inputs outputs : List Fields) : Prop where
  numbers : inputs ≠ [] → ∀ f ∈ inputs ++ outputs, ∀ g ∈ inputs ++ outputs,
    (formatsOf py f).length = (formatsOf py g).length ∧ f.dtype.length = g.dtype.length
  counts : ∀ f ∈ outputs, ∀ g ∈ outputs, countOf py f = countOf py g

section Numbers

variable {py : Bool} {inputs outputs : List Fields}

/-- Each field that is crossed is there, with as many profiles as the case file declares. -/
theorem getItem_tensorOf {key : String} (hkey : key ∈ outputKeys py) (f : Fields) :
    ∃ l, (tensorOf py f).getItem key = .ok l ∧ l.length = numberAt key f := by
  cases f with
  | mk side format dtype name =>
      cases py with
      | false =>
          simp only [outputKeys, Bool.false_eq_true, if_false, OUTPUT_CROSS_LIST, List.mem_cons,
            List.not_mem_nil, or_false] at hkey
          rcases hkey with rfl | rfl | rfl
          · cases side <;> exact ⟨strs format, rfl, List.length_map _⟩
          · cases side <;> exact ⟨_, rfl, rfl⟩
          · cases side <;> exact ⟨strs dtype, rfl, List.length_map _⟩
      | true =>
          simp only [outputKeys, if_true, MS_OUTPUT_CROSS_LIST, List.mem_cons,
            List.not_mem_nil, or_false] at hkey
          rcases hkey with rfl | rfl
          · cases side <;> exact ⟨strs dtype, rfl, List.length_map _⟩
          · cases side <;> exact ⟨_, rfl, rfl⟩

/-- The check of the numbers passes exactly if every description declares this number. -/
theorem checkNumberMatch_created {key : String} {n : Nat} {l : List Fields}
    (hkey : key ∈ outputKeys py) :
    SubCaseDesignCross.checkNumberMatch key n (l.map (tensorOf py)) = .ok () ↔
      ∀ f ∈ l, n = numberAt key f := by
  unfold SubCaseDesignCross.checkNumberMatch
  rw [forM_eq_ok, List.forall_mem_map]
  refine forall₂_congr fun f _ => ?_
  obtain ⟨items, hitems, hlength⟩ := getItem_tensorOf hkey f
  rw [hitems, ← hlength]
  show raiseIf (n ≠ items.length) invalidData = _ ↔ _
  rw [raiseIf_eq_ok, not_not]

/-- **The numbers are compared** with those of the first input. -/
theorem checkValueNumberValid_created :
    SubCaseDesignCross.checkValueNumberValid (outputKeys py) (inputs.map (tensorOf py))
        (outputs.map (tensorOf py)) = .ok () ↔
      ∀ first ∈ inputs.head?, ∀ key ∈ outputKeys py, ∀ f ∈ inputs ++ outputs,
        numberAt key first = numberAt key f := by
  cases inputs with
  | nil => exact iff_of_true rfl fun first hfirst => by cases hfirst
  | cons first inputs =>
      rw [List.head?_cons]
      simp only [Option.mem_some_iff, forall_eq']
      show (forM (outputKeys py) fun key => _) = _ ↔ _
      rw [forM_eq_ok]
      refine forall₂_congr fun key hkey => ?_
      obtain ⟨items, hitems, hlength⟩ := getItem_tensorOf hkey first
      rw [hitems, List.forall_mem_append, ← checkNumberMatch_created hkey,
        ← checkNumberMatch_created hkey, ← hlength]
      show (SubCaseDesignCross.checkNumberMatch key items.length _ >>= fun _ => _) = _ ↔ _
      rw [bind_eq_ok]
      exact ⟨fun ⟨_, h, h'⟩ => ⟨h, h'⟩, fun ⟨h, h'⟩ => ⟨(), h, h'⟩⟩

/-- The number of combinations depends on the numbers of formats and types only. -/
theorem countOf_congr {f g : Fields} (h : (formatsOf py f).length = (formatsOf py g).length ∧
    f.dtype.length = g.dtype.length) : countOf py f = countOf py g := by
  unfold countOf
  rw [h.1, h.2]

/-- The numbers of two descriptions, field by field. -/
theorem numbers_eq_iff {f g : Fields} : (∀ key ∈ outputKeys py, numberAt key f = numberAt key g) ↔
    (formatsOf py f).length = (formatsOf py g).length ∧ f.dtype.length = g.dtype.length := by
  cases py with
  | false =>
      constructor
      · exact fun h => ⟨h "format" (by decide), h "type" (by decide)⟩
      · rintro ⟨hformat, hdtype⟩ key _
        unfold numberAt
        rw [show f.format.length = g.format.length from hformat, hdtype]
  | true =>
      constructor
      · exact fun h => ⟨rfl, h "type" (by decide)⟩
      · rintro ⟨_, hdtype⟩ key hkey
        have hne : key ≠ "format" := by
          rintro rfl
          exact absurd hkey (by decide)
        unfold numberAt
        rw [if_neg hne, if_neg hne, hdtype]

/-- The first input stands for all. -/
theorem numbers_iff : (∀ first ∈ inputs.head?, ∀ key ∈ outputKeys py, ∀ f ∈ inputs ++ outputs,
      numberAt key first = numberAt key f) ↔
    (inputs ≠ [] → ∀ f ∈ inputs ++ outputs, ∀ g ∈ inputs ++ outputs,
      (formatsOf py f).length = (formatsOf py g).length ∧ f.dtype.length = g.dtype.length) := by
  cases inputs with
  | nil => exact iff_of_true (fun first hfirst => by cases hfirst) fun hne => absurd rfl hne
  | cons first inputs =>
      have hfirst : first ∈ (first :: inputs) ++ outputs := List.mem_cons_self
      constructor
      · intro h _ f hf g hg
        have hof : ∀ g ∈ (first :: inputs) ++ outputs, _ := fun g hg =>
          numbers_eq_iff.mp fun key hkey => h first rfl key hkey g hg
        exact ⟨(hof f hf).1.symm.trans (hof g hg).1, (hof f hf).2.symm.trans (hof g hg).2⟩
      · intro h first' hfirst' key hkey f hf
        cases Option.some.inj hfirst'
        exact numbers_eq_iff.mpr (h (List.cons_ne_nil _ _) first hfirst f hf) key hkey

/-- The rows of the descriptions. -/
def rows (py : Bool) (l : List Fields) : List (List Desc) := l.map (row py)

/-- Descriptions with equally many combinations have equally many rows. -/
theorem sameLength_rows {l : List Fields} {n : Nat} (hne : l ≠ [])
    (h : ∀ f ∈ l, countOf py f = n) : SubCaseDesignCross.SameLength (rows py l) n := by
  refine ⟨fun hnil => hne (List.map_eq_nil_iff.mp hnil), fun r hr => ?_⟩
  obtain ⟨f, hf, rfl⟩ := List.mem_map.mp hr
  rw [length_row, h f hf]

/-- Inputs with equally many rows pass the check. -/
theorem checkInputCount_same {l : List (List Desc)} {n : Nat}
    (h : SubCaseDesignCross.SameLength l n) : SubCaseDesignCross.checkInputCount l = .ok () := by
  have hlengths : l.map List.length = List.replicate l.length n := by
    rw [List.eq_replicate_iff, List.length_map]
    exact ⟨rfl, fun m hm => by
      obtain ⟨r, hr, rfl⟩ := List.mem_map.mp hm
      exact h.2 r hr⟩
  unfold SubCaseDesignCross.checkInputCount
  rw [raiseIf_eq_ok, not_not, hlengths, List.replicate_dedup (by
    rw [Ne, List.length_eq_zero_iff]
    exact h.1)]
  rfl

/-- **The number of cases**, if all rows are as long. -/
theorem getCount_same {l m : List (List Desc)} {n : Nat} (hl : l ≠ [] → SubCaseDesignCross.SameLength l n)
    (hm : SubCaseDesignCross.SameLength m n) : SubCaseDesignCross.getCount l m = .ok n := by
  have hfirst : ∀ k : List (List Desc), SubCaseDesignCross.SameLength k n →
      (SubCaseDesignCross.checkInputCount k >>= fun _ => HwEfat.Lib.first k >>= fun r =>
        (.ok r.length : Except PyError Nat)) = .ok n := by
    intro k hk
    rw [checkInputCount_same hk]
    cases k with
    | nil => exact absurd rfl hk.1
    | cons r k => exact congrArg Except.ok (hk.2 r List.mem_cons_self)
  unfold SubCaseDesignCross.getCount
  by_cases hmany : l.length > 1
  · rw [if_pos hmany]
    refine hfirst l (hl ?_)
    rintro rfl
    cases hmany
  · rw [if_neg hmany]
    exact hfirst m hm

/-- All descriptions of a balanced case have as many pairs. -/
theorem Balanced.exists_count (h : Balanced py inputs outputs) (houtputs : outputs ≠ []) :
    ∃ n, ∀ f ∈ inputs ++ outputs, countOf py f = n := by
  obtain ⟨g, hg⟩ := List.exists_mem_of_ne_nil outputs houtputs
  refine ⟨countOf py g, fun f hf => ?_⟩
  by_cases hne : inputs = []
  · subst hne
    exact h.counts f hf g hg
  · exact countOf_congr (h.numbers hne f hf g (List.mem_append_right _ hg))

end Numbers

/-! ## §2. The run. -/

section Run

variable {env : DesignEnv} {design : SubCaseDesign} {opType : String} {py : Bool}
  {inputs outputs : List Fields} {l : List (String × PyVal × PyVal)} {n : Nat}

/-- The descriptions are crossed to their rows. -/
theorem crossTensors_created {fields : List Fields} {side : Side}
    (hside : ∀ f ∈ fields, f.side = side) :
    SubCaseDesignCross.crossTensors (fields.map (tensorOf py)) (keysOf py side)
      = .ok (rows py fields) := by
  have hcross : ∀ f ∈ fields, SubCaseDesignCross.crossTensor (keysOf py side) (tensorOf py f)
      = .ok (row py f) := by
    intro f hf
    rw [← hside f hf]
    exact crossTensor_created py f
  unfold SubCaseDesignCross.crossTensors rows
  clear hside
  induction fields with
  | nil => rfl
  | cons f fields ih =>
      rw [List.map_cons, List.mapM_cons, hcross f List.mem_cons_self,
        ih fun g hg => hcross g (List.mem_cons_of_mem f hg)]
      rfl

/-- The case is one of inputs and outputs with the attributes `l`, as a file that is read first. -/
structure CreatedDesign (design : SubCaseDesign) (opType : String) (py : Bool)
    (inputs outputs : List Fields) (l : List (String × PyVal × PyVal)) : Prop where
  jsonObj : design.jsonObj = createdVal py opType inputs outputs (attrVals l)
  keys : design.attrRequiredKeys = ATTR_REQUIRED_KEYS
  input : ∀ f ∈ inputs, f.side = .input
  output : ∀ f ∈ outputs, f.side = .output
  output_ne_nil : outputs ≠ []
  names : (l.map Prod.fst).Nodup

/-- What the case has to be. -/
structure Accepted (w : WhiteLists) (py : Bool) (inputs outputs : List Fields)
    (l : List (String × PyVal × PyVal)) : Prop where
  supported : DescsSupported w py inputs outputs
  attrs : ∀ e ∈ l, AttrPasses e.1 e.2.1 e.2.2
  balanced : Balanced py inputs outputs

/-- What is prepared. -/
structure PreparedAs (py : Bool) (inputs outputs : List Fields) (prepared : Prepared) : Prop where
  input : prepared.input = rows py inputs
  output : prepared.output = rows py outputs
  count : ∀ f ∈ inputs ++ outputs, countOf py f = prepared.count

/-- What the loaded case is made into. -/
theorem CreatedDesign.descs_eq (h : CreatedDesign design opType py inputs outputs l) :
    createdDescs py inputs outputs = ⟨inputs.map (tensorOf py), outputs.map (tensorOf py),
      keysOf py .input, keysOf py .output⟩ := by
  have hin : inputs.map (inputTensor py) = inputs.map (tensorOf py) :=
    List.map_congr_left fun f hf => by
      unfold tensorOf
      rw [h.input f hf]
  have hout : outputs.map (outputTensor py) = outputs.map (tensorOf py) :=
    List.map_congr_left fun f hf => by
      unfold tensorOf
      rw [h.output f hf]
  unfold createdDescs
  rw [hin, hout]
  rfl

/-- **What a case is that can be prepared**, and what is prepared then. -/
theorem accepted_of_prepare (hdesign : CreatedDesign design opType py inputs outputs l)
    {prepared : Prepared} (h : SubCaseDesignCross.prepare env design = .ok prepared) :
    Accepted env.whiteLists py inputs outputs l ∧ PreparedAs py inputs outputs prepared := by
  unfold SubCaseDesignCross.prepare at h
  rw [hdesign.jsonObj, hdesign.keys] at h
  obtain ⟨descs, hdescs, h⟩ := bind_eq_ok.mp h
  obtain ⟨hsupported, rfl⟩ := (makeDescs_created hdesign.input hdesign.output_ne_nil).mp hdescs
  obtain ⟨⟨attrList, attrRequiredKeys⟩, hattrs, h⟩ := bind_eq_ok.mp h
  have hattrs := (checkAttrValid_created hdesign.names).mp ⟨_, hattrs⟩
  rw [hdesign.descs_eq] at h
  obtain ⟨_, hnumbers, h⟩ := bind_eq_ok.mp h
  have hnumbers := numbers_iff.mp (checkValueNumberValid_created.mp hnumbers)
  obtain ⟨input, hinput, h⟩ := bind_eq_ok.mp h
  cases (crossTensors_created hdesign.input).symm.trans hinput
  obtain ⟨output, houtput, h⟩ := bind_eq_ok.mp h
  cases (crossTensors_created hdesign.output).symm.trans houtput
  obtain ⟨count, hcount, h⟩ := bind_eq_ok.mp h
  have hbalanced : Balanced py inputs outputs := by
    refine ⟨hnumbers, fun f hf g hg => ?_⟩
    by_cases hne : inputs = []
    · -- Without inputs the rows of the outputs are counted.
      subst hne
      have hsame := SubCaseDesignCross.getCount_spec hcount
      rw [show (rows py []).length = 0 from rfl, if_neg (by decide)] at hsame
      have hlength : ∀ f ∈ outputs, countOf py f = count := fun f hf => by
        rw [← length_row]
        exact hsame.2 _ (List.mem_map_of_mem hf)
      rw [hlength f hf, hlength g hg]
    · exact countOf_congr (hnumbers hne f (List.mem_append_right _ hf) g
        (List.mem_append_right _ hg))
  obtain ⟨n, hn⟩ := hbalanced.exists_count hdesign.output_ne_nil
  have hcount' := getCount_same (fun hne => sameLength_rows
      (fun hnil => hne (List.map_eq_nil_iff.mpr hnil)) fun f hf => hn f (List.mem_append_left _ hf))
    (sameLength_rows hdesign.output_ne_nil fun f hf => hn f (List.mem_append_right _ hf))
  cases hcount'.symm.trans hcount
  obtain ⟨ms, _, h⟩ := bind_eq_ok.mp h
  obtain ⟨name, hname, h⟩ := bind_eq_ok.mp h
  cases (PyVal.get_of_getItem getItem_caseName).symm.trans hname
  cases h
  exact ⟨⟨hsupported, hattrs, hbalanced⟩, rfl, rfl, hn⟩

/-- **An accepted case can be prepared.** -/
theorem prepare_of_accepted (hdesign : CreatedDesign design opType py inputs outputs l)
    (h : Accepted env.whiteLists py inputs outputs l) :
    ∃ prepared, SubCaseDesignCross.prepare env design = .ok prepared := by
  obtain ⟨⟨attrList, attrRequiredKeys⟩, hattrs⟩ : ∃ r, SubCaseDesign.checkAttrValid
      (createdVal py opType inputs outputs (attrVals l)) ATTR_REQUIRED_KEYS = .ok r :=
    (checkAttrValid_created hdesign.names).mpr h.attrs
  obtain ⟨n, hn⟩ := h.balanced.exists_count hdesign.output_ne_nil
  have hcount := getCount_same (fun hne => sameLength_rows
      (fun hnil => hne (List.map_eq_nil_iff.mpr hnil)) fun f hf => hn f (List.mem_append_left _ hf))
    (sameLength_rows hdesign.output_ne_nil fun f hf => hn f (List.mem_append_right _ hf))
  have hdescs : SubCaseDesignCross.makeDescs env design.currentJsonPath
      (createdVal py opType inputs outputs (attrVals l)) = .ok (createdDescs py inputs outputs) :=
    (makeDescs_created hdesign.input hdesign.output_ne_nil).mpr ⟨h.supported, rfl⟩
  have hnumbers := checkValueNumberValid_created.mpr (numbers_iff.mpr h.balanced.numbers)
  have hname := PyVal.get_of_getItem
    (getItem_caseName : (createdVal py opType inputs outputs (attrVals l)).getItem CASE_NAME = _)
  rw [hdesign.descs_eq] at hdescs
  unfold SubCaseDesignCross.prepare
  rw [hdesign.jsonObj, hdesign.keys]
  have hkeys : keysOf py .output = outputKeys py := rfl
  simp only [hdescs, hattrs, hkeys, hnumbers, crossTensors_created hdesign.input,
    hkeys ▸ crossTensors_created hdesign.output, hcount, isMs_created, hname, bind, Except.bind]
  exact ⟨_, rfl⟩

/-- The description of a format and a type.  A tensor that is left out, as an optional input is
where one of the two says so, has both `UNDEFINED`; without formats, such a type puts one in. -/
def pairDesc (py : Bool) (side : Side) (format dtype : String) : Desc :=
  if py then
    plainDesc true side format dtype ++
      if dtype = "UNDEFINED" then [("format", .str "UNDEFINED")] else []
  else if format = "UNDEFINED" ∨ format = "RESERVED" ∨ dtype = "UNDEFINED" then
    plainDesc false side "UNDEFINED" "UNDEFINED"
  else plainDesc false side format dtype

/-- The check of a combination gives the pair as it stands in a case. -/
theorem checkCurParamsUndefined_plainDesc (side : Side) (format dtype : String) :
    SubCaseDesign.checkCurParamsUndefined (plainDesc py side format dtype)
      = pairDesc py side format dtype := by
  have htypeOf : ∀ (py : Bool) (format dtype : String),
      List.lookup "type" (plainDesc py side format dtype) = some (.str dtype) := by
    intro py format dtype
    cases py <;> cases side <;> rfl
  have hisStr : ∀ t, PyVal.isStr TYPE_UNDEFINED (.str t) = true ↔ t = "UNDEFINED" :=
    fun _ => beq_iff_eq
  unfold SubCaseDesign.checkCurParamsUndefined pairDesc
  cases py with
  | true =>
      -- Without a format only the type is looked at, and an undefined one adds the format.
      have hnone : List.lookup "format" (plainDesc true side format dtype) = none := by
        cases side <;> rfl
      rw [hnone, Option.any_none, if_neg Bool.false_ne_true, if_pos rfl]
      dsimp only
      rw [htypeOf, Option.any_some]
      by_cases htype : dtype = "UNDEFINED"
      · rw [if_pos ((hisStr dtype).mpr htype), if_pos htype]
        unfold PyDict.set
        rw [hnone]
        rfl
      · rw [if_neg (mt (hisStr dtype).mp htype), if_neg htype, List.append_nil]
  | false =>
      have hformat : List.lookup "format" (plainDesc false side format dtype)
          = some (.str format) := by
        cases side <;> rfl
      have hset : ∀ t, PyDict.set (plainDesc false side format dtype) "type" (.str t)
          = plainDesc false side format t := by
        intro t
        cases side <;> rfl
      have hboth : ∀ f, PyDict.set (plainDesc false side f "UNDEFINED") "format"
          (.str "UNDEFINED") = plainDesc false side "UNDEFINED" "UNDEFINED" := by
        intro f
        cases side <;> rfl
      have hoptional : (OPTIONAL_TYPE_LIST.any fun s => (PyVal.str format).isStr s) = true ↔
          format = "UNDEFINED" ∨ format = "RESERVED" := by
        rw [List.any_eq_true]
        unfold OPTIONAL_TYPE_LIST
        simp [PyVal.isStr]
      rw [hformat, Option.any_some, if_neg Bool.false_ne_true]
      dsimp only
      -- The format is tested first; once it is out, an undefined type takes the format with it.
      by_cases hout : format = "UNDEFINED" ∨ format = "RESERVED"
      · rw [if_pos (hoptional.mpr hout), hset, if_pos (or_assoc.mp (.inl hout)), htypeOf,
          Option.any_some, if_pos ((hisStr TYPE_UNDEFINED).mpr rfl)]
        exact hboth format
      · rw [if_neg (mt hoptional.mp hout), htypeOf, Option.any_some]
        by_cases htype : dtype = "UNDEFINED"
        · rw [if_pos ((hisStr dtype).mpr htype), if_pos (.inr (.inr htype)), htype]
          exact hboth format
        · rw [if_neg (mt (hisStr dtype).mp htype), if_neg]
          rintro (h | h | h)
          · exact hout (.inl h)
          · exact hout (.inr h)
          · exact htype h

/-- The description of a tensor in case `k`: types change first. -/
def subDesc (py : Bool) (k : Nat) (f : Fields) : Desc :=
  SubCaseDesignCross.named f.name
    (pairDesc py f.side ((formatsOf py f)[k / f.dtype.length]?.getD "")
      (f.dtype[k % f.dtype.length]?.getD ""))

/-- A row with its name is the description of a sub-case. -/
theorem eq_of_getElem?_row {f : Fields} {k : Nat} {d : Desc} (h : (row py f)[k]? = some d) :
    SubCaseDesignCross.named f.name d = subDesc py k f := by
  rw [getElem?_row] at h
  obtain ⟨format, hformat, h⟩ := Option.bind_eq_some_iff.mp h
  obtain ⟨dtype, hdtype, rfl⟩ := Option.map_eq_some_iff.mp h
  unfold subDesc
  rw [hformat, hdtype, ← checkCurParamsUndefined_plainDesc]
  rfl

/-- The name of an input or output is the declared one. -/
theorem nameOf_created {jsonObj : PyVal} {key : String} {fields : List Fields}
    (hitem : jsonObj.getItem key = .ok (.list (fields.map (descVal py)))) {i : Nat} {f : Fields}
    (hf : fields[i]? = some f) : SubCaseDesignCross.nameOf jsonObj key i = .ok f.name := by
  have hdesc : (fields.map (descVal py))[i]? = some (descVal py f) := by
    rw [List.getElem?_map, hf]
    rfl
  have hat : (PyVal.list (fields.map (descVal py))).item i = .ok (descVal py f) := by
    unfold PyVal.item
    dsimp only
    rw [hdesc]
  unfold SubCaseDesignCross.nameOf
  rw [hitem]
  show ((PyVal.list (fields.map (descVal py))).item i >>= fun v => v.get "name") = _
  rw [hat]
  cases f with
  | mk side format dtype name => cases side <;> cases py <;> rfl

/-- All names can be read. -/
theorem nameable_created {jsonObj : PyVal} {key : String} {fields : List Fields}
    (hitem : jsonObj.getItem key = .ok (.list (fields.map (descVal py)))) :
    SubCaseDesignCross.Nameable jsonObj key (rows py fields) := by
  intro i hi
  have hi : i < fields.length := by
    unfold rows at hi
    rwa [List.length_map] at hi
  exact ⟨_, nameOf_created hitem (List.getElem?_eq_getElem hi)⟩

/-- **The descriptions that are drawn** for case `k`. -/
theorem eq_of_drawn {jsonObj : PyVal} {key : String} {fields : List Fields} {k : Nat}
    {descs : List Desc} (hitem : jsonObj.getItem key = .ok (.list (fields.map (descVal py))))
    (h : SubCaseDesignCross.Drawn jsonObj key (rows py fields) k k descs) :
    descs = fields.map (subDesc py k) := by
  have hlength : descs.length = fields.length := by
    rw [h.length]
    exact List.length_map _
  refine List.ext_getElem? fun i => ?_
  rw [List.getElem?_map]
  cases hf : fields[i]? with
  | none =>
      rw [List.getElem?_eq_none_iff] at hf
      exact List.getElem?_eq_none (hlength ▸ hf)
  | some f =>
      have hrow : (rows py fields)[i]? = some (row py f) := by
        unfold rows
        rw [List.getElem?_map, hf]
        rfl
      obtain ⟨name, d, hname, hd, _, hdesc⟩ := h.row i _ hrow
      cases (nameOf_created hitem hf).symm.trans hname
      rw [hdesc, eq_of_getElem?_row hd]
      rfl

/-- The rows have what a case name is made of. -/
theorem nominal_row {f : Fields} {d : Desc} (hd : d ∈ row py f) :
    SubCaseDesignCross.Nominal py d := by
  unfold row at hd
  obtain ⟨format, _, hd⟩ := List.mem_flatMap.mp hd
  obtain ⟨dtype, _, rfl⟩ := List.mem_map.mp hd
  constructor
  · refine HasText.checkCurParamsUndefined ⟨dtype, ?_⟩
    cases py <;> rfl
  · rintro rfl
    exact HasText.checkCurParamsUndefined ⟨format, rfl⟩

/-- Every row is long enough. -/
theorem canTake_rows {jsonObj : PyVal} {key : String} {fields : List Fields} {n k : Nat}
    (h : ∀ f ∈ fields, countOf py f = n) (hk : k < n) :
    SubCaseDesignCross.CanTake jsonObj key (rows py fields) k k := by
  intro i r hr
  unfold rows at hr
  rw [List.getElem?_map, Option.map_eq_some_iff] at hr
  obtain ⟨f, hf, rfl⟩ := hr
  rw [length_row, h f (List.mem_of_getElem? hf)]
  exact ⟨hk, fun _ _ _ => hk⟩

/-- The sub-cases: a pair of a format and a type each, the same one for all tensors. -/
structure SubCasesOf (py : Bool) (inputs outputs : List Fields) (cases : List SubCase) : Prop where
  count : ∀ f ∈ inputs ++ outputs, cases.length = countOf py f
  case : ∀ (k : Nat) case, cases[k]? = some case →
    case.inputDesc = inputs.map (subDesc py k) ∧ case.outputDesc = outputs.map (subDesc py k)

/-- The keys that a design collects do not touch the loaded case. -/
theorem CreatedDesign.withKeys (h : CreatedDesign design opType py inputs outputs l)
    (keys : List String) : ({ design with attrRequiredKeys := keys } : SubCaseDesign).jsonObj
      = createdVal py opType inputs outputs (attrVals l) := h.jsonObj

/-- The settings of a created case are valid. -/
theorem settingsValid_created (hobj : design.jsonObj = createdVal py opType inputs outputs (attrVals l)) :
    SubCaseDesignCross.SettingsValid env design := by
  constructor
  · rw [hobj]
    exact ⟨_, getItem_op⟩
  · refine ⟨(none, .none), ?_⟩
    unfold SubCaseDesign.checkExpectOutputParam
    rw [hobj, get_setting (by decide)]
    rfl
  · refine ⟨.none, ?_⟩
    unfold SubCaseDesign.checkSetErrorThreshold
    rw [hobj, get_setting (by decide)]
    rfl

/-- **The sub-cases of an accepted case.** -/
theorem subcaseGenerate_of_accepted (hdesign : CreatedDesign design opType py inputs outputs l)
    (h : Accepted env.whiteLists py inputs outputs l) :
    ∃ design', SubCaseDesignCross.subcaseGenerate env design = .ok design' := by
  obtain ⟨prepared, hprepare⟩ := prepare_of_accepted hdesign h
  obtain ⟨-, hinput, houtput, hcount⟩ := accepted_of_prepare hdesign hprepare
  have hobj := hdesign.withKeys prepared.attrRequiredKeys
  -- All rows have the length of the count, so every turn finds its descriptions.
  have hsame : SubCaseDesignCross.SameLength prepared.output prepared.count := by
    rw [houtput]
    exact sameLength_rows hdesign.output_ne_nil fun f hf => hcount f (List.mem_append_right _ hf)
  have hloop : ∃ design', SubCaseDesignCross.getSubTestCases env
      { design with attrRequiredKeys := prepared.attrRequiredKeys } prepared = .ok design' := by
    refine SubCaseDesignCross.getSubTestCases_ok (by rw [hobj]; exact isMs_created)
      (settingsValid_created hobj) ?_ ?_ hsame ?_ ?_
    · rw [hobj, hinput]
      exact nameable_created getItem_input
    · rw [hobj, houtput]
      exact nameable_created getItem_output
    · rw [houtput]
      intro r hr d hd
      obtain ⟨f, _, rfl⟩ := List.mem_map.mp hr
      exact nominal_row hd
    · intro k hk
      rw [hinput]
      refine ⟨canTake_rows (fun f hf => hcount f (List.mem_append_left _ hf)) hk, k, ?_, ?_⟩
      · rw [SubCaseDesignCross.outputIndex_eq hsame, if_neg (Nat.not_le.mpr hk)]
      · rw [houtput]
        exact canTake_rows (fun f hf => hcount f (List.mem_append_right _ hf)) hk
  obtain ⟨design', hdesign'⟩ := hloop
  exact ⟨design', bind_eq_ok.mpr ⟨prepared, hprepare, hdesign'⟩⟩

/-- **What is generated.** -/
theorem subcaseGenerate_created (hdesign : CreatedDesign design opType py inputs outputs l)
    {design' : SubCaseDesign} (h : SubCaseDesignCross.subcaseGenerate env design = .ok design') :
    Accepted env.whiteLists py inputs outputs l ∧
      ∃ cases, design'.totalCaseList = design.totalCaseList ++ cases ∧
        SubCasesOf py inputs outputs cases := by
  obtain ⟨prepared, hprepare, h⟩ := bind_eq_ok.mp h
  obtain ⟨haccepted, hinput, houtput, hcount⟩ := accepted_of_prepare hdesign hprepare
  have hobj := hdesign.withKeys prepared.attrRequiredKeys
  have hsame : SubCaseDesignCross.SameLength prepared.output prepared.count := by
    rw [houtput]
    exact sameLength_rows hdesign.output_ne_nil fun f hf => hcount f (List.mem_append_right _ hf)
  obtain ⟨cases, htotal, hlength, hcases⟩ := SubCaseDesignCross.getSubTestCases_spec h
    (by rw [hobj, hinput]; exact nameable_created getItem_input)
    (by rw [hobj, houtput]; exact nameable_created getItem_output) hsame
  refine ⟨haccepted, cases, htotal, fun f hf => hlength.trans (hcount f hf).symm, ?_⟩
  intro k case hcase
  have hk : k < prepared.count := hlength ▸ (List.getElem?_eq_some_iff.mp hcase).1
  obtain ⟨hin, use, huse, hout⟩ := hcases k case hcase
  rw [SubCaseDesignCross.outputIndex_eq hsame, if_neg (Nat.not_le.mpr hk)] at huse
  cases huse
  rw [hobj, hinput] at hin
  rw [hobj, houtput] at hout
  exact ⟨eq_of_drawn getItem_input hin, eq_of_drawn getItem_output hout⟩

end Run

/-! ## §3. From the entries of `op_info`. -/

/-- The white lists have what the entry declares. -/
structure EntrySupported (w : WhiteLists) (py : Bool) (side : Side) (value : Dict PyVal) :
    Prop where
  format : py = false → Listed w.formatMap (CaseGenerator.writtenValues value "format" side)
  dtype : Listed (if py then w.mindsporeTypeList else w.typeList)
    (CaseGenerator.writtenValues value "dtype" side)

/-- How many formats and types the entry declares. -/
def numbersOf (py : Bool) (side : Side) (value : Dict PyVal) : Nat × Nat :=
  (if py then 1 else (CaseGenerator.writtenValues value "format" side).length,
    (CaseGenerator.writtenValues value "dtype" side).length)

/-- The numbers of all inputs and outputs. -/
def allNumbers (py : Bool) (opInfo : OpInfo) : List (Nat × Nat) :=
  (CaseGenerator.entriesAt opInfo .input).map (numbersOf py .input) ++
    (CaseGenerator.entriesAt opInfo .output).map (numbersOf py .output)

/-- All values are the same. -/
def AllEqual {α : Type} (l : List α) : Prop := ∀ a ∈ l, ∀ b ∈ l, a = b

/-- The attribute that is made of the entry passes. -/
def AttrRuns (o : CaseGenerator.Outside) (opInfo : OpInfo) (item : String × Dict PyVal) : Prop :=
  ∃ name type value, CaseGenerator.makeAttr o opInfo item.1 item.2 = .ok (attrVal name type value) ∧
    AttrPasses name type value

/-- **What `run` demands of the operator**, once its case is created. -/
structure Runs (w : WhiteLists) (o : CaseGenerator.Outside) (py : Bool) (opType : String)
    (opInfo : OpInfo) : Prop where
  name : PlainOp opType
  tensors : ∀ side, ∀ value ∈ CaseGenerator.entriesAt opInfo side, EntrySupported w py side value
  uniform : CaseGenerator.entriesAt opInfo .input ≠ [] → "uniform" ∈ w.dataDistributionList
  demanded : py = true → CaseGenerator.entriesAt opInfo .input ≠ []
  numbers : CaseGenerator.entriesAt opInfo .input ≠ [] → AllEqual (allNumbers py opInfo)
  counts : AllEqual ((CaseGenerator.entriesAt opInfo .output).map fun value =>
    (numbersOf py .output value).1 * (numbersOf py .output value).2)
  attrs : ∀ item ∈ CaseGenerator.itemsOf CaseGenerator.ATTR_PREFIX opInfo.entries,
    AttrRuns o opInfo item

section Entries

variable {w : WhiteLists} {o : CaseGenerator.Outside} {py : Bool} {opType : String}
  {opInfo : OpInfo} {inputs outputs : List Fields} {attrs : List PyVal}

open CaseGenerator (DeclaredBy entriesAt itemsOf ATTR_PREFIX)

/-- Whether values are in a support list does not depend on their order. -/
theorem listed_perm {supportList l m : List String} (h : l.Perm m) :
    Listed supportList l ↔ Listed supportList m := by
  unfold Listed
  refine and_congr ?_ (forall_congr' fun s => ?_)
  · rw [← List.length_pos_iff, ← List.length_pos_iff, h.length_eq]
  · rw [h.mem_iff]

/-- A description is supported exactly if its entry of the operator information is. -/
theorem supported_iff {side : Side} {value : Dict PyVal} {f : Fields}
    (h : DeclaredBy side value f) : Supported w py f ↔ EntrySupported w py side value := by
  constructor
  · rintro ⟨hformat, hdtype⟩
    exact ⟨fun hpy => (listed_perm h.format).mp (hformat hpy), (listed_perm h.dtype).mp hdtype⟩
  · rintro ⟨hformat, hdtype⟩
    exact ⟨fun hpy => (listed_perm h.format).mpr (hformat hpy), (listed_perm h.dtype).mpr hdtype⟩

/-- The numbers of formats and types are those of the entry. -/
theorem numbers_declared {side : Side} {value : Dict PyVal} {f : Fields}
    (h : DeclaredBy side value f) :
    ((formatsOf py f).length, f.dtype.length) = numbersOf py side value := by
  unfold formatsOf numbersOf
  rw [h.dtype.length_eq, ← h.format.length_eq]
  cases py <;> rfl

/-- What holds of the fields is what holds of the entries. -/
theorem forall_iff_of_forall₂ {α β : Type} {R : α → β → Prop} {P : α → Prop} {Q : β → Prop}
    {l : List α} {m : List β} (h : List.Forall₂ R l m) (hPQ : ∀ a b, R a b → (Q b ↔ P a)) :
    (∀ b ∈ m, Q b) ↔ ∀ a ∈ l, P a := by
  induction h with
  | nil => simp
  | cons hab _ ih => rw [List.forall_mem_cons, List.forall_mem_cons, ih, hPQ _ _ hab]

/-- What is equal pairwise is equal as a list. -/
theorem map_eq_of_forall₂ {α β γ : Type} {R : α → β → Prop} {f : α → γ} {g : β → γ}
    {l : List α} {m : List β} (h : List.Forall₂ R l m) (hfg : ∀ a b, R a b → g b = f a) :
    m.map g = l.map f := by
  induction h with
  | nil => rfl
  | cons hab _ ih => rw [List.map_cons, List.map_cons, ih, hfg _ _ hab]

/-- Lists that are related are both empty, or neither is. -/
theorem eq_nil_iff_of_forall₂ {α β : Type} {R : α → β → Prop} {l : List α} {m : List β}
    (h : List.Forall₂ R l m) : m = [] ↔ l = [] := by
  rw [← List.length_eq_zero_iff, ← List.length_eq_zero_iff, h.length_eq]

/-- All values of a map are the same. -/
theorem allEqual_map {α β : Type} {f : α → β} {l : List α} :
    AllEqual (l.map f) ↔ ∀ a ∈ l, ∀ b ∈ l, f a = f b := by
  unfold AllEqual
  rw [List.forall_mem_map]
  exact forall₂_congr fun a _ => List.forall_mem_map

/-- An attribute has the rest of its key as its name. -/
theorem makeAttr_form {key : String} {value : Dict PyVal} {attr : PyVal}
    (h : CaseGenerator.makeAttr o opInfo key value = .ok attr) :
    ∃ type v, attr = attrVal (HwEfat.Lib.sliceFrom key ATTR_PREFIX.length) type v := by
  unfold CaseGenerator.makeAttr at h
  dsimp only at h
  have hlast : ∀ (x : Except PyError PyVal) (type : PyVal),
      (x >>= fun v => pure (PyVal.dict [("name", .str
        (HwEfat.Lib.sliceFrom key ATTR_PREFIX.length)), ("type", type), ("value", v)])) = .ok attr →
      ∃ type v, attr = attrVal (HwEfat.Lib.sliceFrom key ATTR_PREFIX.length) type v := by
    intro x type hx
    obtain ⟨v, _, hv⟩ := bind_eq_ok.mp hx
    exact ⟨type, v, (Except.ok.inj hv).symm⟩
  split_ifs at h
  · split at h
    · cases h
    · obtain ⟨_, _, h⟩ := bind_eq_ok.mp h
      split at h <;> exact hlast _ _ h
  · split at h <;> exact hlast _ _ h

/-- The entry of an attribute, and the attribute. -/
def MadeAttr (o : CaseGenerator.Outside) (opInfo : OpInfo) (item : String × Dict PyVal)
    (e : String × PyVal × PyVal) : Prop :=
  e.1 = HwEfat.Lib.sliceFrom item.1 ATTR_PREFIX.length ∧
    CaseGenerator.makeAttr o opInfo item.1 item.2 = .ok (attrVal e.1 e.2.1 e.2.2)

/-- Each attribute of the case is made from one of the operator information. -/
theorem attrs_of_mapM {items : List (String × Dict PyVal)}
    (h : (items.mapM fun item => CaseGenerator.makeAttr o opInfo item.1 item.2) = .ok attrs) :
    ∃ l, attrs = attrVals l ∧ List.Forall₂ (MadeAttr o opInfo) items l := by
  have hall := HwEfat.Lib.mapM_eq_ok.mp h
  clear h
  induction hall with
  | nil => exact ⟨[], rfl, List.Forall₂.nil⟩
  | cons hitem _ ih =>
      obtain ⟨type, v, rfl⟩ := makeAttr_form hitem
      obtain ⟨l, rfl, hl⟩ := ih
      exact ⟨(_, type, v) :: l, rfl, List.Forall₂.cons ⟨rfl, hitem⟩ hl⟩

/-- Keys with the prefix differ in what is behind it. -/
theorem sliceFrom_prefix_inj {p k k' : String} (hk : HwEfat.Lib.startswith k p = true)
    (hk' : HwEfat.Lib.startswith k' p = true)
    (h : HwEfat.Lib.sliceFrom k p.length = HwEfat.Lib.sliceFrom k' p.length) : k = k' := by
  have hsplit : ∀ k : String, HwEfat.Lib.startswith k p = true →
      k.toList = p.toList ++ (HwEfat.Lib.sliceFrom k p.length).toList := by
    intro k hk
    obtain ⟨t, ht⟩ := List.isPrefixOf_iff_prefix.mp hk
    unfold HwEfat.Lib.sliceFrom
    rw [String.toList_ofList, ← ht, ← String.length_toList, List.drop_left]
  rw [← String.toList_inj, hsplit k hk, hsplit k' hk', h]

/-- The names of the attributes are distinct. -/
theorem names_nodup {l : List (String × PyVal × PyVal)}
    (h : List.Forall₂ (MadeAttr o opInfo) (itemsOf ATTR_PREFIX opInfo.entries) l) :
    (l.map Prod.fst).Nodup := by
  have hnames : l.map Prod.fst = (itemsOf ATTR_PREFIX opInfo.entries).map
      fun item => HwEfat.Lib.sliceFrom item.1 ATTR_PREFIX.length :=
    map_eq_of_forall₂ h fun item e he => he.1
  have hkeys : ((itemsOf ATTR_PREFIX opInfo.entries).map Prod.fst).Nodup :=
    opInfo.nodup.sublist (List.filter_sublist.map Prod.fst)
  rw [hnames]
  rw [List.Nodup, List.pairwise_map] at hkeys ⊢
  refine List.Pairwise.imp_of_mem ?_ hkeys
  intro a b ha hb hne heq
  exact hne (sliceFrom_prefix_inj (List.mem_filter.mp ha).2 (List.mem_filter.mp hb).2 heq)

/-- **What the run demands**, from what is created to what is declared. -/
theorem runs_iff {l : List (String × PyVal × PyVal)}
    (hinput : List.Forall₂ (DeclaredBy .input) (entriesAt opInfo .input) inputs)
    (houtput : List.Forall₂ (DeclaredBy .output) (entriesAt opInfo .output) outputs)
    (hattr : List.Forall₂ (MadeAttr o opInfo) (itemsOf ATTR_PREFIX opInfo.entries) l) :
    Runs w o py opType opInfo ↔ PlainOp opType ∧ Accepted w py inputs outputs l := by
  -- Each condition on what was made is one on the entries that it was made from.
  have hin : (∀ f ∈ inputs, Supported w py f) ↔
      ∀ value ∈ entriesAt opInfo .input, EntrySupported w py .input value :=
    forall_iff_of_forall₂ hinput fun _ _ => supported_iff
  have hout : (∀ f ∈ outputs, Supported w py f) ↔
      ∀ value ∈ entriesAt opInfo .output, EntrySupported w py .output value :=
    forall_iff_of_forall₂ houtput fun _ _ => supported_iff
  have hne : inputs ≠ [] ↔ entriesAt opInfo .input ≠ [] := not_congr (eq_nil_iff_of_forall₂ hinput)
  have hattrs : (∀ e ∈ l, AttrPasses e.1 e.2.1 e.2.2) ↔
      ∀ item ∈ itemsOf ATTR_PREFIX opInfo.entries, AttrRuns o opInfo item := by
    refine forall_iff_of_forall₂ hattr fun item e he => ?_
    constructor
    · exact fun h => ⟨_, _, _, he.2, h⟩
    · rintro ⟨name, type, value, hmake, h⟩
      cases he.2.symm.trans hmake
      exact h
  have hnumbers : (∀ f ∈ inputs ++ outputs, ∀ g ∈ inputs ++ outputs,
      (formatsOf py f).length = (formatsOf py g).length ∧ f.dtype.length = g.dtype.length) ↔
      AllEqual (allNumbers py opInfo) := by
    have hall : allNumbers py opInfo = (inputs ++ outputs).map
        fun f => ((formatsOf py f).length, f.dtype.length) := by
      unfold allNumbers
      rw [List.map_append, map_eq_of_forall₂ hinput fun _ _ => numbers_declared,
        map_eq_of_forall₂ houtput fun _ _ => numbers_declared]
    rw [hall, allEqual_map]
    simp only [Prod.mk.injEq]
  have hcounts : (∀ f ∈ outputs, ∀ g ∈ outputs, countOf py f = countOf py g) ↔
      AllEqual ((entriesAt opInfo .output).map fun value =>
        (numbersOf py .output value).1 * (numbersOf py .output value).2) := by
    have hall : (entriesAt opInfo .output).map (fun value =>
        (numbersOf py .output value).1 * (numbersOf py .output value).2)
        = outputs.map (countOf py) := by
      refine (map_eq_of_forall₂ houtput fun value f hf => ?_).symm
      rw [← numbers_declared hf]
      rfl
    rw [hall, allEqual_map]
  constructor
  · intro h
    exact ⟨h.name, ⟨hin.mpr (h.tensors .input), hout.mpr (h.tensors .output),
      fun hi => h.uniform (hne.mp hi), fun hpy => hne.mpr (h.demanded hpy)⟩, hattrs.mpr h.attrs,
      fun hi => hnumbers.mpr (h.numbers (hne.mp hi)), hcounts.mpr h.counts⟩
  · rintro ⟨hname, ⟨hsin, hsout, huniform, hdemanded⟩, hpasses, hbal, hcnt⟩
    refine ⟨hname, ?_, fun hi => huniform (hne.mpr hi), fun hpy => hne.mp (hdemanded hpy),
      fun hi => hnumbers.mp (hbal (hne.mpr hi)), hcounts.mp hcnt, hattrs.mp hpasses⟩
    intro side
    cases side with
    | input => exact hin.mp hsin
    | output => exact hout.mp hsout

end Entries

/-! ## §4. The file that is created. -/

section File

variable {env : CaseEnv} {o : CaseGenerator.Outside} {py : Bool} {opType jsonPath : String}
  {opInfo : OpInfo} {baseCase : CaseGenerator.Case CaseGenerator.Desc}

/-- A run with all cases of one file. -/
def runFile (env : CaseEnv) (jsonPath : String) : Except PyError CaseDesign :=
  CaseDesign.generateCases env [jsonPath] { caseNameList := none }

/-- The design of the sub-cases of the file. -/
def fileDesign (jsonPath : String) (jsonObj : PyVal) : SubCaseDesign :=
  CaseDesign.subCaseDesign { caseNameList := none } jsonPath jsonObj

/-- What is left of the run after the sub-cases. -/
def fileResult (jsonPath opType : String) (keys : List String) (subDesign : SubCaseDesign) :
    CaseDesign :=
  { caseNameList := none, requiredKeys := keys
    caseNameToJsonFileMap := PyDict.set [] (createdName opType) jsonPath
    report := subDesign.report, totalCaseInFile := subDesign.totalCaseList
    attrRequiredKeys := subDesign.attrRequiredKeys }

/-- **The run of the file**: the required keys are checked, and the sub-cases generated. -/
theorem runFile_eq {inputs outputs : List Fields} {attrs : List PyVal}
    (hload : env.loadJsonFile jsonPath = .ok (.list [createdVal py opType inputs outputs attrs])) :
    runFile env jsonPath = (SubCaseDesign.checkRequiredKeyValid
        (createdVal py opType inputs outputs attrs) REQUIRED_KEYS >>= fun keys =>
      SubCaseDesignCross.subcaseGenerate env.toDesignEnv
          (fileDesign jsonPath (createdVal py opType inputs outputs attrs)) >>= fun subDesign =>
        .ok (fileResult jsonPath opType keys subDesign)) := by
  have hobjects : CaseDesign.caseObjects env [jsonPath]
      = .ok [(jsonPath, createdVal py opType inputs outputs attrs)] := by
    unfold CaseDesign.caseObjects CaseDesign.fileObjects
    rw [List.mapM_cons, hload]
    rfl
  have hsetting : ∀ key ∈ ["compile_flag", FUZZ_IMPL, "calc_expect_func_file", ERROR_THRESHOLD],
      (createdVal py opType inputs outputs attrs).get key = .ok .none := fun key => get_setting
  have hflag := hsetting "compile_flag" (by decide)
  have hfuzz := hsetting FUZZ_IMPL (by decide)
  have hname : (createdVal py opType inputs outputs attrs).getItem CASE_NAME
      = .ok (.str (createdName opType)) := getItem_caseName
  have hgenerate : CaseDesign.subcaseGenerate env.toFuzzEnv
      (fileDesign jsonPath (createdVal py opType inputs outputs attrs))
      = SubCaseDesignCross.subcaseGenerate env.toDesignEnv
        (fileDesign jsonPath (createdVal py opType inputs outputs attrs)) := by
    unfold CaseDesign.subcaseGenerate
    rw [show (fileDesign jsonPath (createdVal py opType inputs outputs attrs)).jsonObj
      = createdVal py opType inputs outputs attrs from rfl, hfuzz]
    rfl
  have htotal : ∀ keys, CaseDesign.getTotalCase env.toFuzzEnv jsonPath
      { caseNameList := none, requiredKeys := keys } (createdVal py opType inputs outputs attrs)
      (createdName opType) = (SubCaseDesignCross.subcaseGenerate env.toDesignEnv
          (fileDesign jsonPath (createdVal py opType inputs outputs attrs)) >>= fun subDesign =>
        .ok (fileResult jsonPath opType keys subDesign)) := by
    intro keys
    rw [← hgenerate]
    rfl
  have hcase : CaseDesign.generateCase env.toFuzzEnv { caseNameList := none }
      (jsonPath, createdVal py opType inputs outputs attrs)
      = (SubCaseDesign.checkRequiredKeyValid (createdVal py opType inputs outputs attrs)
        REQUIRED_KEYS >>= fun keys => CaseDesign.getTotalCase env.toFuzzEnv jsonPath
          { caseNameList := none, requiredKeys := keys }
          (createdVal py opType inputs outputs attrs) (createdName opType)) := by
    unfold CaseDesign.generateCase
    dsimp only
    rw [hflag, hname]
    rfl
  unfold runFile
  rw [CaseDesign.generateCases_eq hobjects, List.foldlM_cons, hcase]
  simp only [htotal]
  exact bind_pure _

/-- What is created, as a case that is read. -/
theorem exists_created (jsonPath : String) (hset : o.SetLaw)
    (hcreate : CaseGenerator.generateAicoreBaseCase o py opType opInfo = .ok baseCase) :
    ∃ inputs outputs l, baseCase.toPyVal = createdVal py opType inputs outputs (attrVals l) ∧
      CreatedDesign (fileDesign jsonPath (createdVal py opType inputs outputs (attrVals l)))
        opType py inputs outputs l ∧
      List.Forall₂ (CaseGenerator.DeclaredBy .input) (CaseGenerator.entriesAt opInfo .input)
        inputs ∧
      List.Forall₂ (CaseGenerator.DeclaredBy .output) (CaseGenerator.entriesAt opInfo .output)
        outputs ∧
      List.Forall₂ (MadeAttr o opInfo)
        (CaseGenerator.itemsOf CaseGenerator.ATTR_PREFIX opInfo.entries) l := by
  obtain ⟨inputs, outputs, attrs, hcreated, rfl⟩ := CaseGenerator.case_of_entries hset hcreate
  obtain ⟨l, rfl, hattrs⟩ := attrs_of_mapM hcreated.attr
  have hside : ∀ {side : Side} {values : List (Dict PyVal)} {fields : List Fields},
      List.Forall₂ (CaseGenerator.DeclaredBy side) values fields → ∀ f ∈ fields, f.side = side := by
    intro side values fields h
    refine (forall_iff_of_forall₂ (P := fun _ => True) h fun value f hf => ?_).mpr fun _ _ => trivial
    exact iff_true_intro hf.side
  exact ⟨inputs, outputs, l, rfl, ⟨rfl, rfl, hside hcreated.input, hside hcreated.output,
    hcreated.output_ne_nil, names_nodup hattrs⟩, hcreated.input, hcreated.output, hattrs⟩

/-- **When `run` accepts what `create` has written.** -/
theorem created_case_runs_iff (hset : o.SetLaw)
    (hcreate : CaseGenerator.generateAicoreBaseCase o py opType opInfo = .ok baseCase)
    (hload : env.loadJsonFile jsonPath = .ok (.list [baseCase.toPyVal])) :
    (∃ design, runFile env jsonPath = .ok design) ↔ Runs env.whiteLists o py opType opInfo := by
  obtain ⟨inputs, outputs, l, hval, hdesign, hinput, houtput, hattr⟩ :=
    exists_created jsonPath hset hcreate
  rw [hval] at hload
  rw [runs_iff hinput houtput hattr, runFile_eq hload]
  constructor
  · rintro ⟨design, h⟩
    obtain ⟨keys, hkeys, h⟩ := bind_eq_ok.mp h
    obtain ⟨subDesign, hsub, _⟩ := bind_eq_ok.mp h
    exact ⟨(checkRequiredKeyValid_created.mp hkeys).1, (subcaseGenerate_created hdesign hsub).1⟩
  · rintro ⟨hname, haccepted⟩
    obtain ⟨subDesign, hsub⟩ := subcaseGenerate_of_accepted hdesign haccepted
    exact ⟨_, bind_eq_ok.mpr ⟨_, checkRequiredKeyValid_created.mpr ⟨hname, rfl⟩,
      bind_eq_ok.mpr ⟨subDesign, hsub, rfl⟩⟩⟩

/-- **The sub-cases of what `create` has written**: case `k` has the same pair of positions in the
formats and types of all tensors. -/
theorem created_sub_cases (hset : o.SetLaw)
    (hcreate : CaseGenerator.generateAicoreBaseCase o py opType opInfo = .ok baseCase)
    (hload : env.loadJsonFile jsonPath = .ok (.list [baseCase.toPyVal])) {design : CaseDesign}
    (hrun : runFile env jsonPath = .ok design) :
    ∃ inputs outputs,
      List.Forall₂ (CaseGenerator.DeclaredBy .input) (CaseGenerator.entriesAt opInfo .input)
        inputs ∧
      List.Forall₂ (CaseGenerator.DeclaredBy .output) (CaseGenerator.entriesAt opInfo .output)
        outputs ∧
      SubCasesOf py inputs outputs design.totalCaseInFile := by
  obtain ⟨inputs, outputs, l, hval, hdesign, hinput, houtput, hattr⟩ :=
    exists_created jsonPath hset hcreate
  rw [hval] at hload
  rw [runFile_eq hload] at hrun
  obtain ⟨keys, _, hrun⟩ := bind_eq_ok.mp hrun
  obtain ⟨subDesign, hsub, hrun⟩ := bind_eq_ok.mp hrun
  cases hrun
  obtain ⟨_, cases, htotal, hcases⟩ := subcaseGenerate_created hdesign hsub
  refine ⟨inputs, outputs, hinput, houtput, ?_⟩
  show SubCasesOf py inputs outputs subDesign.totalCaseList
  rw [htotal]
  exact hcases

end File

/-! ## An operator with one input and one output. -/

instance {supportList l : List String} : Decidable (Listed supportList l) :=
  inferInstanceAs (Decidable (_ ∧ _))

instance {α : Type} [DecidableEq α] {l : List α} : Decidable (AllEqual l) :=
  inferInstanceAs (Decidable (∀ a ∈ l, ∀ b ∈ l, a = b))

/-- The functions of the outside for the operator `Add`. -/
def addOutside : CaseGenerator.Outside where
  aicpuIr2iniTypeMap := []
  listSet := List.dedup
  float _ := .error (.valueError "could not convert string to float")

/-- The input has two formats, and the output the formats `formats`. -/
def addInfo (formats : String) : OpInfo :=
  [("input0", "name", "x"), ("input0", "paramType", "required"), ("input0", "dtype", "float16,float"),
    ("input0", "format", "ND,NCHW"), ("output0", "name", "y"), ("output0", "paramType", "required"),
    ("output0", "dtype", "float16,float"), ("output0", "format", formats),
    ("attr_axis", "type", "int"), ("attr_axis", "defaultValue", "0")].foldl
    (fun opInfo e => CaseGenerator.setOpInfo opInfo e.1 e.2.1 (.str e.2.2)) .empty

/-- The file that is created is there. -/
def addEnv (formats : String) : CaseEnv where
  whiteLists :=
    { formatMap := ["ND", "NCHW"], typeList := ["float16", "float"], mindsporeTypeList := []
      dataDistributionList := ["uniform"] }
  checkPathValid _ := .ok ()
  fuzzFunc _ _ := none
  loadJsonFile _ := (CaseGenerator.generateAicoreBaseCase addOutside false "Add" (addInfo formats)).map
    fun baseCase => .list [baseCase.toPyVal]

/-- A set that keeps its list is one order of it. -/
theorem setLaw_addOutside : addOutside.SetLaw := fun _ => List.Perm.refl _

/-- The environment loads the case that was created. -/
theorem load_addEnv {formats jsonPath : String} {baseCase : CaseGenerator.Case CaseGenerator.Desc}
    (h : CaseGenerator.generateAicoreBaseCase addOutside false "Add" (addInfo formats)
      = .ok baseCase) :
    (addEnv formats).loadJsonFile jsonPath = .ok (.list [baseCase.toPyVal]) := by
  unfold addEnv
  dsimp only
  rw [h]
  rfl

/-- `Add` meets the condition. -/
theorem runs_add : Runs (addEnv "NCHW,ND").whiteLists addOutside false "Add" (addInfo "NCHW,ND") where
  name := ⟨by decide, by decide, List.all_eq_true.mp (by decide)⟩
  tensors := by
    have hall : ∀ side, (CaseGenerator.entriesAt (addInfo "NCHW,ND") side).all (fun value =>
        decide (Listed ["ND", "NCHW"] (CaseGenerator.writtenValues value "format" side)) &&
        decide (Listed ["float16", "float"] (CaseGenerator.writtenValues value "dtype" side)))
        = true := by
      intro side
      cases side <;> decide +kernel
    intro side value hvalue
    have hlisted := List.all_eq_true.mp (hall side) value hvalue
    rw [Bool.and_eq_true, decide_eq_true_iff, decide_eq_true_iff] at hlisted
    exact ⟨fun _ => hlisted.1, hlisted.2⟩
  uniform _ := List.mem_singleton_self _
  demanded h := by cases h
  numbers _ := by decide +kernel
  counts := by decide +kernel
  attrs := by
    intro item hitem
    have hitems : CaseGenerator.itemsOf CaseGenerator.ATTR_PREFIX (addInfo "NCHW,ND").entries
        = [("attr_axis", (Dict.empty.set "type" (.str "int")).set "defaultValue" (.str "0"))] := rfl
    rw [hitems, List.mem_singleton] at hitem
    subst hitem
    exact ⟨"axis", .str "int", .int 0, rfl, by decide, ⟨"int", by decide, rfl⟩, rfl⟩

/-- The case runs if the output has two formats too, and is rejected if it has one. -/
theorem created_case_runs_iff_add :
    (∃ design, runFile (addEnv "NCHW,ND") "/st/Add.json" = .ok design) ∧
      ¬ ∃ design, runFile (addEnv "ND,ND") "/st/Add.json" = .ok design := by
  obtain ⟨baseCase, hcreate, -⟩ := HwEfat.Lib.exists_eq_ok
    (x := CaseGenerator.generateAicoreBaseCase addOutside false "Add" (addInfo "NCHW,ND"))
    (p := fun _ => true) (by decide +kernel)
  obtain ⟨baseCase', hcreate', -⟩ := HwEfat.Lib.exists_eq_ok
    (x := CaseGenerator.generateAicoreBaseCase addOutside false "Add" (addInfo "ND,ND"))
    (p := fun _ => true) (by decide +kernel)
  constructor
  · exact (created_case_runs_iff setLaw_addOutside hcreate (load_addEnv hcreate)).mpr runs_add
  · intro h
    have hruns := (created_case_runs_iff setLaw_addOutside hcreate' (load_addEnv hcreate')).mp h
    exact absurd (hruns.numbers (by decide +kernel)) (by decide +kernel)

/-- The formats and types of the tensors come out in pairs. -/
theorem created_sub_cases_add :
    ∃ design inputs outputs, runFile (addEnv "NCHW,ND") "/st/Add.json" = .ok design ∧
      SubCasesOf false inputs outputs design.totalCaseInFile := by
  obtain ⟨baseCase, hcreate, -⟩ := HwEfat.Lib.exists_eq_ok
    (x := CaseGenerator.generateAicoreBaseCase addOutside false "Add" (addInfo "NCHW,ND"))
    (p := fun _ => true) (by decide +kernel)
  obtain ⟨design, hrun, -⟩ := HwEfat.Lib.exists_eq_ok
    (x := runFile (addEnv "NCHW,ND") "/st/Add.json") (p := fun _ => true) (by decide +kernel)
  obtain ⟨inputs, outputs, _, _, hcases⟩ :=
    created_sub_cases setLaw_addOutside hcreate (load_addEnv hcreate) hrun
  exact ⟨design, inputs, outputs, hrun, hcases⟩

end CreatedCase

end HwEfat.Main
