/-
  HwEfat.Main.SubCaseDesign.OriFields — what `combine_ori_field_to_cross` crosses.

  The keys of the result are those of the cross list, with `ori_format` and `ori_shape` put in
  at fixed places; the values are flattened out of tuples.  Both fit together since a cross list
  starts with `format` and `shape`, and no value that is read from a description is a tuple.

  Main result: `combineOriFieldToCross_aligned`.
-/
import HwEfat.Main.SubCaseDesign.Count

namespace HwEfat.Main

open HwEfat.Lib (PyError PyVal PyDict product length_product)

/-! ## §1. The full product. -/

/-- The keys that are crossed besides `format` and `shape`. -/
def otherKeys (tensor : Tensor) (crossList : List String) : List String :=
  (addNewKeyToCrossList tensor crossList).drop 2

/-- The formats with their original formats. -/
def formatPairs (tensor : Tensor) : List (PyVal × PyVal) :=
  (profiles tensor "format").zip (profiles tensor "ori_format")

/-- The shapes with their original shapes. -/
def shapePairs (tensor : Tensor) : List (PyVal × PyVal) :=
  (profiles tensor "shape").zip (profiles tensor "ori_shape")

/-- A description for each pair of formats, each pair of shapes and each choice of a value for
every other key. -/
def fullProduct (tensor : Tensor) (others : List String) : List Desc :=
  (formatPairs tensor).flatMap fun f =>
    (shapePairs tensor).flatMap fun s =>
      (product (others.map (profiles tensor))).map fun values =>
        ("format", f.1) :: ("ori_format", f.2) :: ("shape", s.1) :: ("ori_shape", s.2) ::
          others.zip values

/-- How many descriptions that are. -/
theorem length_fullProduct (tensor : Tensor) (others : List String) :
    (fullProduct tensor others).length =
      (formatPairs tensor).length * ((shapePairs tensor).length *
        (others.map fun key => (profiles tensor key).length).prod) := by
  have hothers : (product (others.map (profiles tensor))).length
      = (others.map fun key => (profiles tensor key).length).prod := by
    rw [length_product, List.map_map]
    rfl
  unfold fullProduct
  simp only [List.length_flatMap, List.length_map, hothers, List.map_const', List.sum_replicate,
    smul_eq_mul]

/-! ## §2. Tuples and their values. -/

section Values

variable {tensor : Tensor} {rest : List String}

/-- Crossing values one by one, or each as a tuple of one. -/
theorem product_singletons {α : Type} (ls : List (List α)) :
    product (ls.map fun l => l.map fun v => [v])
      = (product ls).map fun x => x.map fun v => [v] := by
  induction ls with
  | nil => rfl
  | cons l ls ih =>
      rw [List.map_cons, product, product, ih, List.flatMap_map, List.map_flatMap]
      simp only [List.map_map]
      rfl

/-- A list of lists of one value. -/
theorem flatten_singletons {α : Type} (l : List α) : (l.map fun v => [v]).flatten = l := by
  induction l with
  | nil => rfl
  | cons v l ih => rw [List.map_cons, List.flatten_cons, ih, List.singleton_append]

/-- The lists that are crossed, flattened: the pairs, then the other values. -/
theorem map_getDataList (tensor : Tensor) (rest : List String) :
    (product (oriLists tensor rest)).map getDataList =
      (formatPairs tensor).flatMap fun f =>
        (shapePairs tensor).flatMap fun s =>
          (product (rest.map (profiles tensor))).map fun values =>
            f.1 :: f.2 :: s.1 :: s.2 :: values := by
  unfold oriLists formatPairs shapePairs
  rw [product, product, product_singletons, List.flatMap_map, List.map_flatMap]
  apply List.flatMap_congr
  intro f _
  rw [List.flatMap_map, List.map_map, List.map_flatMap]
  apply List.flatMap_congr
  intro s _
  rw [List.map_map, List.map_map]
  apply List.map_congr_left
  intro values _
  show getDataList ([f.1, f.2] :: [s.1, s.2] :: values.map fun v => [v]) = _
  unfold getDataList
  rw [List.flatten_cons, List.flatten_cons, flatten_singletons]
  rfl

/-- Every list of values has one value for every key. -/
theorem length_values {value : List PyVal}
    (h : value ∈ (product (oriLists tensor rest)).map getDataList) :
    value.length = ("format" :: "ori_format" :: "shape" :: "ori_shape" :: rest).length := by
  rw [map_getDataList] at h
  obtain ⟨f, _, h⟩ := List.mem_flatMap.mp h
  obtain ⟨s, _, h⟩ := List.mem_flatMap.mp h
  obtain ⟨values, hvalues, rfl⟩ := List.mem_map.mp h
  have hlength := HwEfat.Lib.length_of_mem_product hvalues
  rw [List.length_map] at hlength
  simp only [List.length_cons, hlength]

/-- The keys with the values are the full product. -/
theorem map_zip_values (tensor : Tensor) (rest : List String) :
    ((product (oriLists tensor rest)).map getDataList).map
        (List.zip ("format" :: "ori_format" :: "shape" :: "ori_shape" :: rest))
      = fullProduct tensor rest := by
  rw [map_getDataList, List.map_flatMap]
  unfold fullProduct
  apply List.flatMap_congr
  intro f _
  rw [List.map_flatMap]
  apply List.flatMap_congr
  intro s _
  rw [List.map_map]
  rfl

end Values

/-! ## §3. The keys of the two cross lists. -/

section Keys

variable {tensor : Tensor} {crossList : List String}

/-- A cross list starts with `format` and `shape`. -/
theorem addNewKey_eq (hlist : crossList ∈ [INPUT_CROSS_LIST, OUTPUT_CROSS_LIST]) :
    addNewKeyToCrossList tensor crossList = "format" :: "shape" :: otherKeys tensor crossList := by
  rcases List.mem_pair.mp hlist with rfl | rfl <;> rfl

/-- The keys of the result are distinct. -/
theorem nodup_keys (hlist : crossList ∈ [INPUT_CROSS_LIST, OUTPUT_CROSS_LIST]) :
    ("format" :: "ori_format" :: "shape" :: "ori_shape" :: otherKeys tensor crossList).Nodup := by
  have hsub (others : List String) (extras : List String) (hextras : extras.Sublist
      [SHAPE_RANGE, VALUE, IS_CONST]) :
      ("format" :: "ori_format" :: "shape" :: "ori_shape" :: (others ++ extras)).Sublist
        ("format" :: "ori_format" :: "shape" :: "ori_shape" ::
          (others ++ [SHAPE_RANGE, VALUE, IS_CONST])) :=
    have hrest := (List.Sublist.refl others).append hextras
    (((hrest.cons_cons _).cons_cons _).cons_cons _).cons_cons _
  have hextras : ([SHAPE_RANGE, VALUE, IS_CONST].filter (filled tensor)).Sublist
      [SHAPE_RANGE, VALUE, IS_CONST] := List.filter_sublist
  rcases List.mem_pair.mp hlist with rfl | rfl
  · exact (hsub ["type", "data_distribute", "value_range"] _ hextras).nodup (by decide +kernel)
  · exact (hsub ["type"] _ hextras).nodup (by decide +kernel)

/-- Every key that is crossed has a list. -/
theorem getItem_crossed (hkeys : ∀ key ∈ crossList, (tensor.lookup key).isSome = true)
    {key : String} (hkey : key ∈ addNewKeyToCrossList tensor crossList) :
    tensor.getItem key = .ok (profiles tensor key) := by
  have hsome : (tensor.lookup key).isSome = true := by
    rcases List.mem_append.mp hkey with hkey | hkey
    · exact hkeys key hkey
    · have hfilled := (List.mem_filter.mp hkey).2
      unfold filled at hfilled
      obtain ⟨l, hl, _⟩ := (Option.any_eq_true _ _).mp hfilled
      rw [hl]
      rfl
  obtain ⟨l, hl⟩ := Option.isSome_iff_exists.mp hsome
  rw [PyDict.getItem_eq_ok]
  unfold profiles
  rw [hl]
  rfl

end Keys

/-! ## §4. Alignment. -/

/-- **Keys and values are aligned**: one value for each key, and the descriptions are the full
product of the pairs of formats, the pairs of shapes and the values of the other keys, where
every format and every shape has a partner.  `_cross_tensor` makes its descriptions of these. -/
theorem combineOriFieldToCross_aligned (tensor : Tensor) (crossList : List String)
    (hlist : crossList ∈ [INPUT_CROSS_LIST, OUTPUT_CROSS_LIST])
    (hkeys : ∀ key ∈ "ori_format" :: "ori_shape" :: crossList, (tensor.lookup key).isSome = true)
    (hformat : (profiles tensor "ori_format").length = (profiles tensor "format").length)
    (hshape : (profiles tensor "ori_shape").length = (profiles tensor "shape").length) :
    ∃ keys values,
      combineOriFieldToCross tensor (addNewKeyToCrossList tensor crossList) = .ok (keys, values) ∧
      keys = "format" :: "ori_format" :: "shape" :: "ori_shape" :: otherKeys tensor crossList ∧
      keys.Nodup ∧
      (∀ value ∈ values, value.length = keys.length) ∧
      values.map keys.zip = fullProduct tensor (otherKeys tensor crossList) ∧
      values.length = (profiles tensor "format").length * ((profiles tensor "shape").length *
        ((otherKeys tensor crossList).map fun key => (profiles tensor key).length).prod) ∧
      (filled tensor "ori_format" = true → filled tensor "ori_shape" = true →
        SubCaseDesignCross.crossTensor crossList tensor
          = (fullProduct tensor (otherKeys tensor crossList)).mapM
              (SubCaseDesignCross.getCase tensor)) := by
  have hnodup : ("format" :: "ori_format" :: "shape" :: "ori_shape" ::
      otherKeys tensor crossList).Nodup := nodup_keys hlist
  have hitem {key : String} (hkey : key ∈ addNewKeyToCrossList tensor crossList) :
      tensor.getItem key = .ok (profiles tensor key) :=
    getItem_crossed (fun key hkey =>
      hkeys key (List.mem_cons_of_mem _ (List.mem_cons_of_mem _ hkey))) hkey
  have hori {key : String} (hkey : key ∈ ["ori_format", "ori_shape"]) :
      tensor.getItem key = .ok (profiles tensor key) := by
    obtain ⟨l, hl⟩ := Option.isSome_iff_exists.mp
      (hkeys key (List.mem_append_left crossList hkey))
    rw [PyDict.getItem_eq_ok]
    unfold profiles
    rw [hl]
    rfl
  have hf : "format" ∉ otherKeys tensor crossList := fun h => by
    simp [h] at hnodup
  have hs : "shape" ∉ otherKeys tensor crossList := fun h => by
    simp [h] at hnodup
  -- The keys come out in pairs, each original field behind its own.
  have hcombine : combineOriFieldToCross tensor (addNewKeyToCrossList tensor crossList)
      = .ok ("format" :: "ori_format" :: "shape" :: "ori_shape" :: otherKeys tensor crossList,
        (product (oriLists tensor (otherKeys tensor crossList))).map getDataList) := by
    rw [addNewKey_eq hlist]
    exact combineOriFieldToCross_eq hf hs (fun key hkey => hitem (addNewKey_eq hlist ▸ hkey))
      (hori (by decide)) (hori (by decide))
  have hzip := map_zip_values tensor (otherKeys tensor crossList)
  refine ⟨_, _, hcombine, rfl, hnodup, fun value hvalue => length_values hvalue, hzip, ?_, ?_⟩
  · -- The zipped lists have the length of the shorter one, which is the same here.
    have hlength := congrArg List.length hzip
    rw [List.length_map, length_fullProduct] at hlength
    rw [hlength]
    unfold formatPairs shapePairs
    rw [List.length_zip, List.length_zip, hformat, hshape, Nat.min_self, Nat.min_self]
  · intro hfilledF hfilledS
    unfold SubCaseDesignCross.crossTensor
    dsimp only
    rw [if_pos (by rw [hfilledF, hfilledS]; rfl), hcombine, ← hzip, List.mapM_map]
    rfl

/-- An output with two formats. -/
def twoFormats : Tensor :=
  [("format", [.str "NCHW", .str "NHWC"]), ("ori_format", [.str "ND", .str "NHWC"]),
    ("type", [.str "float16"]), ("shape", [.list [.int 1]]), ("ori_shape", [.list [.int 2]])]

/-- The keys and values of a description with two formats. -/
theorem combineOriFieldToCross_aligned_twoFormats :
    ∃ keys values,
      combineOriFieldToCross twoFormats (addNewKeyToCrossList twoFormats OUTPUT_CROSS_LIST)
        = .ok (keys, values) ∧
      values.map keys.zip = fullProduct twoFormats (otherKeys twoFormats OUTPUT_CROSS_LIST) ∧
      values.length = 2 := by
  obtain ⟨keys, values, hrun, _, _, _, hproduct, hlength, _⟩ :=
    combineOriFieldToCross_aligned twoFormats OUTPUT_CROSS_LIST (by decide) (by decide) rfl rfl
  exact ⟨keys, values, hrun, hproduct, hlength⟩

end HwEfat.Main
