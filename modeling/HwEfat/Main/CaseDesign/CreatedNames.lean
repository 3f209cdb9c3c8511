/-
  HwEfat.Main.CaseDesign.CreatedNames — the names and attributes of a case that `create` writes.

  The name of the operator and the name that the case gets from it are valid exactly for plain
  operators (`plainOp_iff`).  The attributes pass one by one, since their names are distinct keys
  (`checkAttrValid_created`).
-/
import HwEfat.Main.CaseDesign.CreatedDesc

namespace HwEfat.Main

open HwEfat.Lib (PyError PyVal PyDict Dict raiseIf bind_eq_ok raiseIf_eq_ok forM_eq_ok)

namespace CreatedCase

open CaseGenerator (Side Fields OpInfo)
open SubCaseDesign (checkListStrValid)
open SubCaseDesignCross (Descs Prepared)

/-! ## §1. Names. -/

/-- The name of the operator has plain characters, and room for what its case is called
besides. -/
structure PlainOp (opType : String) : Prop where
  ne_empty : opType ≠ ""
  length : opType.length ≤ 247
  plain : ∀ c ∈ opType.toList, (c.isAlphanum || c == '_' || c == ',') = true

section Names

variable {opType : String} {py : Bool} {inputs outputs : List Fields} {attrs : List PyVal}

/-- A name is valid if it is not empty, not too long, and matches the pattern. -/
theorem checkNameValid_str {s : String} : checkNameValid (.str s) = .ok () ↔
    s ≠ "" ∧ s.length ≤ MAX_NAME_LENGTH ∧ matchesNamePattern s = true := by
  unfold checkNameValid
  dsimp only
  rw [bind_eq_ok]
  constructor
  · rintro ⟨_, hempty, h⟩
    obtain ⟨n, hn, h⟩ := bind_eq_ok.mp h
    cases hn
    obtain ⟨_, hlength, h⟩ := bind_eq_ok.mp h
    rw [raiseIf_eq_ok] at hempty hlength h
    refine ⟨?_, Nat.not_lt.mp hlength, by simpa using h⟩
    rintro rfl
    exact hempty rfl
  · rintro ⟨hne, hlength, hpattern⟩
    refine ⟨(), raiseIf_eq_ok.mpr ?_, bind_eq_ok.mpr ⟨_, rfl, bind_eq_ok.mpr
      ⟨(), raiseIf_eq_ok.mpr (Nat.not_lt.mpr hlength), raiseIf_eq_ok.mpr (by simp [hpattern])⟩⟩⟩
    show ¬ (!(s != "")) = true
    simpa using hne

/-- The pattern, for a name that does not end with a line feed. -/
theorem matchesNamePattern_iff {s : String} (h : ¬ "\n".toList <:+ s.toList) :
    matchesNamePattern s = true ↔
      s.toList ≠ [] ∧ ∀ c ∈ s.toList, (c.isAlphanum || c == '_' || c == ',') = true := by
  unfold matchesNamePattern
  rw [if_neg (by rwa [List.isSuffixOf_iff_suffix])]
  simp

/-- The name of the case. -/
def createdName (opType : String) : String :=
  "Test_" ++ CaseGenerator.opTypeName opType ++ "_001"

/-- The letters of the name of a created case. -/
theorem toList_createdName (opType : String) : (createdName opType).toList
    = "Test_".toList ++ (opType.toList.map fun c => if c = '/' then '_' else c)
      ++ "_001".toList := by
  unfold createdName CaseGenerator.opTypeName
  rw [String.toList_append, String.toList_append]
  exact congrArg (fun l => "Test_".toList ++ l ++ "_001".toList) String.toList_ofList

/-- Nine letters more than the operator's name. -/
theorem length_createdName (opType : String) :
    (createdName opType).length = opType.length + 9 := by
  rw [← String.length_toList, toList_createdName, List.length_append, List.length_append,
    List.length_map, String.length_toList]
  show 5 + opType.length + 4 = _
  omega

/-- The name of the case ends with a digit. -/
theorem createdName_pattern (opType : String) : matchesNamePattern (createdName opType) = true ↔
    ∀ c ∈ opType.toList, c = '/' ∨ (c.isAlphanum || c == '_' || c == ',') = true := by
  -- The name ends in a digit, so the newline that `$` allows is not there.
  have hsuffix : ¬ "\n".toList <:+ (createdName opType).toList := by
    rintro ⟨t, ht⟩
    have hlast := congrArg List.getLast? ht
    rw [toList_createdName, List.getLast?_append, List.getLast?_append] at hlast
    cases hlast
  rw [matchesNamePattern_iff hsuffix, toList_createdName]
  have hend : ∀ c ∈ "_001".toList, (c.isAlphanum || c == '_' || c == ',') = true :=
    List.all_eq_true.mp (by decide)
  have hbegin : ∀ c ∈ "Test_".toList, (c.isAlphanum || c == '_' || c == ',') = true :=
    List.all_eq_true.mp (by decide)
  constructor
  · rintro ⟨_, hall⟩ c hc
    by_cases hslash : c = '/'
    · exact .inl hslash
    · refine .inr ?_
      have hmem := hall (if c = '/' then '_' else c) (List.mem_append_left _
        (List.mem_append_right _ (List.mem_map_of_mem hc)))
      rwa [if_neg hslash] at hmem
  · intro hall
    refine ⟨List.append_ne_nil_of_right_ne_nil _ (by decide), ?_⟩
    intro c hc
    rcases List.mem_append.mp hc with hc | hc
    · rcases List.mem_append.mp hc with hc | hc
      · exact hbegin c hc
      · obtain ⟨d, hd, rfl⟩ := List.mem_map.mp hc
        by_cases hslash : d = '/'
        · rw [if_pos hslash]
          rfl
        · rw [if_neg hslash]
          exact (hall d hd).resolve_left hslash
    · exact hend c hc

/-- **Both names are valid.** -/
theorem plainOp_iff : PlainOp opType ↔
    checkNameValid (.str opType) = .ok () ∧ checkNameValid (.str (createdName opType)) = .ok () := by
  rw [checkNameValid_str, checkNameValid_str, length_createdName, createdName_pattern,
    show MAX_NAME_LENGTH = 256 from rfl]
  constructor
  · rintro ⟨hne, hlength, hplain⟩
    have hsuffix : ¬ "\n".toList <:+ opType.toList := by
      intro hsuffix
      have hmem := hplain '\n' (hsuffix.subset (by decide))
      cases hmem
    refine ⟨⟨hne, by omega, (matchesNamePattern_iff hsuffix).mpr ⟨?_, hplain⟩⟩, ?_, by omega,
      fun c hc => .inr (hplain c hc)⟩
    · exact fun hnil => hne (String.toList_eq_nil_iff.mp hnil)
    · intro hempty
      have hlength := length_createdName opType
      rw [hempty] at hlength
      cases hlength
  · rintro ⟨⟨hne, _, hpattern⟩, _, hlength, hall⟩
    refine ⟨hne, ?_, ?_⟩
    · omega
    · intro c hc
      refine (hall c hc).resolve_left ?_
      rintro rfl
      -- A slash is not in the name of the operator, even if a line feed is passed over.
      unfold matchesNamePattern at hpattern
      rw [Bool.and_eq_true, List.all_eq_true] at hpattern
      have hmem : '/' ∈ (if "\n".toList.isSuffixOf opType.toList then opType.toList.dropLast
          else opType.toList) := by
        split_ifs with hsuffix
        · obtain ⟨t, ht⟩ := List.isSuffixOf_iff_suffix.mp hsuffix
          rw [← ht, show "\n".toList = ['\n'] from rfl] at hc ⊢
          rw [List.dropLast_concat]
          rcases List.mem_append.mp hc with hc | hc
          · exact hc
          · cases List.mem_singleton.mp hc
        · exact hc
      cases hpattern.2 '/' hmem

/-- The keys that are required of a case, as the check leaves them. -/
def createdKeys (py : Bool) : List String := if py then REQUIRED_KEYS ++ [ST_MODE] else REQUIRED_KEYS

/-- A required key, and the check of its value. -/
theorem required_created {key : String} (hkey : key ∈ createdKeys py) :
    (createdVal py opType inputs outputs attrs).hasKey key = .ok true ∧
      ((key = CASE_NAME ∧ (createdVal py opType inputs outputs attrs).get key
        = .ok (.str (createdName opType))) ∨
      (key = OP ∧ (createdVal py opType inputs outputs attrs).get key = .ok (.str opType)) ∨
      ¬ (key = CASE_NAME ∨ key = OP)) := by
  rw [createdVal_eq]
  have hcases : key = OP ∨ key = INPUT_DESC ∨ key = OUTPUT_DESC ∨ key = CASE_NAME ∨
      (py = true ∧ key = ST_MODE) := by
    cases py <;> simpa [createdKeys, REQUIRED_KEYS] using hkey
  rcases hcases with rfl | rfl | rfl | rfl | ⟨rfl, rfl⟩
  · cases py <;> exact ⟨rfl, .inr (.inl ⟨rfl, rfl⟩)⟩
  · cases py <;> exact ⟨rfl, .inr (.inr (by decide))⟩
  · cases py <;> exact ⟨rfl, .inr (.inr (by decide))⟩
  · cases py <;> exact ⟨rfl, .inl ⟨rfl, rfl⟩⟩
  · exact ⟨rfl, .inr (.inr (by decide))⟩

/-- No key is missing if all are there. -/
theorem filterM_missing {keys : List String} {v : PyVal}
    (h : ∀ key ∈ keys, v.hasKey key = .ok true) :
    (keys.filterM fun key => do return !(← v.hasKey key)) = .ok [] := by
  have hloop : ∀ acc, List.filterAuxM (fun key => do return !(← v.hasKey key)) keys acc
      = (.ok acc : Except PyError (List String)) := by
    induction keys with
    | nil => exact fun acc => rfl
    | cons key keys ih =>
        intro acc
        rw [List.filterAuxM, h key List.mem_cons_self]
        exact ih (fun k hk => h k (List.mem_cons_of_mem _ hk)) acc
  unfold List.filterM
  rw [hloop]
  rfl

/-- **The required keys** are there. -/
theorem checkRequiredKeyValid_created {keys : List String} :
    SubCaseDesign.checkRequiredKeyValid (createdVal py opType inputs outputs attrs) REQUIRED_KEYS
        = .ok keys ↔ PlainOp opType ∧ keys = createdKeys py := by
  have hms : SubCaseDesignCross.isMs (createdVal py opType inputs outputs attrs) = .ok py :=
    isMs_created
  obtain ⟨mode, hget, hms⟩ := bind_eq_ok.mp hms
  have hmode : mode.isStr "ms_python_train" = py := Except.ok.inj hms
  have hrequired : ∀ key ∈ createdKeys py, _ := fun key hkey =>
    @required_created opType py inputs outputs attrs key hkey
  rw [plainOp_iff]
  unfold SubCaseDesign.checkRequiredKeyValid
  constructor
  · intro h
    obtain ⟨mode', hget', h⟩ := bind_eq_ok.mp h
    cases hget.symm.trans hget'
    rw [hmode] at h
    obtain ⟨_, hchecks, h⟩ := bind_eq_ok.mp h
    obtain ⟨missing, _, h⟩ := bind_eq_ok.mp h
    obtain ⟨_, _, h⟩ := bind_eq_ok.mp h
    -- Of all keys, only the operator and the case name are looked at.
    have hvalid : ∀ key name, key ∈ createdKeys py → (key = CASE_NAME ∨ key = OP) →
        (createdVal py opType inputs outputs attrs).get key = .ok (.str name) →
        checkNameValid (.str name) = .ok () := by
      intro key name hkey hnamed hvalue
      have hcheck := forM_eq_ok.mp hchecks key hkey
      rw [if_pos hnamed] at hcheck
      obtain ⟨v, hv, hcheck⟩ := bind_eq_ok.mp hcheck
      cases hvalue.symm.trans hv
      exact hcheck
    refine ⟨⟨hvalid OP opType (by cases py <;> decide) (.inr rfl)
        (PyVal.get_of_getItem getItem_op),
      hvalid CASE_NAME _ (by cases py <;> decide) (.inl rfl)
        (PyVal.get_of_getItem getItem_caseName)⟩, (Except.ok.inj h).symm⟩
  · rintro ⟨⟨hop, hname⟩, rfl⟩
    refine bind_eq_ok.mpr ⟨mode, hget, ?_⟩
    rw [hmode]
    refine bind_eq_ok.mpr ⟨(), forM_eq_ok.mpr ?_, bind_eq_ok.mpr ⟨[], filterM_missing
      fun key hkey => (hrequired key hkey).1, rfl⟩⟩
    intro key hkey
    rcases (hrequired key hkey).2 with ⟨rfl, hvalue⟩ | ⟨rfl, hvalue⟩ | hother
    · rw [if_pos (.inl rfl)]
      exact bind_eq_ok.mpr ⟨_, hvalue, hname⟩
    · rw [if_pos (.inr rfl)]
      exact bind_eq_ok.mpr ⟨_, hvalue, hop⟩
    · rw [if_neg hother]
      rfl

end Names

/-! ## §2. Attributes. -/

/-- An attribute of the case. -/
def attrVal (name : String) (type value : PyVal) : PyVal :=
  .dict [("name", .str name), ("type", type), ("value", value)]

/-- The attribute passes. -/
structure AttrPasses (name : String) (type value : PyVal) : Prop where
  named : name ≠ ""
  typed : ∃ s ∈ ATTR_TYPE_MAP_VALUES, type = .str s
  value : checkAttrValueValid (attrVal name type value) = .ok ()

section Attrs

/-- The body of the loop of `_check_attr_valid`. -/
def attrTurn (st : List PyVal × List String × List String) (attr : PyVal) :
    Except PyError (List PyVal × List String × List String) := do
  let keys ← SubCaseDesign.checkRequiredKeyValid attr st.2.2
  let name ← SubCaseDesign.checkNameTypeValid attr "name"
  raiseIf (name ∈ st.2.1) invalidData
  let _ ← SubCaseDesign.checkNameTypeValid attr "type"
  checkAttrValueValid attr
  return (st.1 ++ [attr], st.2.1 ++ [name], keys)

variable {name : String} {type value : PyVal} {attrList : List PyVal} {nameList : List String}

/-- **A turn** goes on if the attribute passes and its name is new. -/
theorem attrTurn_eq_ok {st : List PyVal × List String × List String} :
    attrTurn (attrList, nameList, ATTR_REQUIRED_KEYS) (attrVal name type value) = .ok st ↔
      (AttrPasses name type value ∧ name ∉ nameList) ∧
        st = (attrList ++ [attrVal name type value], nameList ++ [name], ATTR_REQUIRED_KEYS) := by
  have hkeys : SubCaseDesign.checkRequiredKeyValid (attrVal name type value) ATTR_REQUIRED_KEYS
      = .ok ATTR_REQUIRED_KEYS := rfl
  have hname : SubCaseDesign.checkNameTypeValid (attrVal name type value) "name"
      = (raiseIf (name = "" ∨ ("name" = "type" ∧ name ∉ ATTR_TYPE_MAP_VALUES)) invalidData
        >>= fun _ => .ok name) := rfl
  -- A type passes if it is a string of the list; anything else raises.
  have htype : ∀ t, SubCaseDesign.checkNameTypeValid (attrVal name type value) "type" = .ok t ↔
      t ∈ ATTR_TYPE_MAP_VALUES ∧ type = .str t := by
    intro t
    cases type with
    | str s =>
        show (raiseIf (s = "" ∨ ("type" = "type" ∧ s ∉ ATTR_TYPE_MAP_VALUES)) invalidData
          >>= fun _ => .ok s) = _ ↔ _
        rw [bind_eq_ok]
        constructor
        · rintro ⟨_, hvalid, h⟩
          cases h
          rw [raiseIf_eq_ok, not_or, not_and, not_not] at hvalid
          exact ⟨hvalid.2 rfl, rfl⟩
        · rintro ⟨ht, heq⟩
          cases heq
          refine ⟨(), raiseIf_eq_ok.mpr ?_, rfl⟩
          rintro (rfl | ⟨_, hnot⟩)
          · exact absurd ht (by decide)
          · exact hnot ht
    | _ => exact iff_of_false (fun h => by cases h) fun h => by cases h.2
  unfold attrTurn
  rw [show (attrList, nameList, ATTR_REQUIRED_KEYS).2.2 = ATTR_REQUIRED_KEYS from rfl, hkeys, hname]
  constructor
  · intro h
    obtain ⟨keys, hkeys', h⟩ := bind_eq_ok.mp h
    cases hkeys'
    obtain ⟨name', hname', h⟩ := bind_eq_ok.mp h
    obtain ⟨_, hnamed, hname'⟩ := bind_eq_ok.mp hname'
    cases hname'
    obtain ⟨_, hnew, h⟩ := bind_eq_ok.mp h
    obtain ⟨t, ht, h⟩ := bind_eq_ok.mp h
    obtain ⟨_, hvalue, h⟩ := bind_eq_ok.mp h
    rw [raiseIf_eq_ok] at hnamed hnew
    obtain ⟨hmem, rfl⟩ := (htype t).mp ht
    exact ⟨⟨⟨fun hempty => hnamed (.inl hempty), ⟨t, hmem, rfl⟩, hvalue⟩, hnew⟩,
      (Except.ok.inj h).symm⟩
  · rintro ⟨⟨⟨hnamed, ⟨t, hmem, rfl⟩, hvalue⟩, hnew⟩, rfl⟩
    refine bind_eq_ok.mpr ⟨_, rfl, bind_eq_ok.mpr ⟨name, bind_eq_ok.mpr ⟨(), ?_, rfl⟩,
      bind_eq_ok.mpr ⟨(), raiseIf_eq_ok.mpr hnew, bind_eq_ok.mpr ⟨t, (htype t).mpr ⟨hmem, rfl⟩,
        bind_eq_ok.mpr ⟨(), hvalue, rfl⟩⟩⟩⟩⟩
    rw [raiseIf_eq_ok]
    rintro (hempty | ⟨hkey, _⟩)
    · exact hnamed hempty
    · exact absurd hkey (by decide)

/-- The attributes, from their names, types and values. -/
def attrVals (l : List (String × PyVal × PyVal)) : List PyVal :=
  l.map fun e => attrVal e.1 e.2.1 e.2.2

/-- **The loop** ends if all attributes pass and their names are distinct. -/
theorem foldlM_attrTurn {l : List (String × PyVal × PyVal)} :
    (∃ st, (attrVals l).foldlM attrTurn (attrList, nameList, ATTR_REQUIRED_KEYS) = .ok st) ↔
      (∀ e ∈ l, AttrPasses e.1 e.2.1 e.2.2) ∧ (l.map Prod.fst).Nodup ∧
        ∀ e ∈ l, e.1 ∉ nameList := by
  induction l generalizing attrList nameList with
  | nil => exact iff_of_true ⟨_, rfl⟩ ⟨by simp, List.nodup_nil, by simp⟩
  | cons e l ih =>
      have hcons : attrVals (e :: l) = attrVal e.1 e.2.1 e.2.2 :: attrVals l := rfl
      rw [hcons, List.foldlM_cons, List.forall_mem_cons, List.forall_mem_cons, List.map_cons,
        List.nodup_cons]
      have hturn : (∃ st, (attrTurn (attrList, nameList, ATTR_REQUIRED_KEYS)
          (attrVal e.1 e.2.1 e.2.2) >>= fun st => (attrVals l).foldlM attrTurn st) = .ok st) ↔
          (AttrPasses e.1 e.2.1 e.2.2 ∧ e.1 ∉ nameList) ∧
            ∃ st, (attrVals l).foldlM attrTurn (attrList ++ [attrVal e.1 e.2.1 e.2.2],
              nameList ++ [e.1], ATTR_REQUIRED_KEYS) = .ok st := by
        constructor
        · rintro ⟨st, h⟩
          obtain ⟨st', hturn, h⟩ := bind_eq_ok.mp h
          obtain ⟨hpasses, rfl⟩ := attrTurn_eq_ok.mp hturn
          exact ⟨hpasses, st, h⟩
        · rintro ⟨hpasses, st, h⟩
          exact ⟨st, bind_eq_ok.mpr ⟨_, attrTurn_eq_ok.mpr ⟨hpasses, rfl⟩, h⟩⟩
      rw [hturn, ih]
      -- A name may not be among those before, nor among those that follow.
      have hnew : (∀ e' ∈ l, e'.1 ∉ nameList ++ [e.1]) ↔
          (∀ e' ∈ l, e'.1 ∉ nameList) ∧ e.1 ∉ l.map Prod.fst := by
        rw [List.mem_map, not_exists, ← forall_and]
        refine forall_congr' fun e' => ?_
        rw [List.mem_append, List.mem_singleton, not_or]
        constructor
        · exact fun h => ⟨fun he' => (h he').1, fun hmem => (h hmem.1).2 hmem.2⟩
        · exact fun h he' => ⟨h.1 he', fun heq => h.2 ⟨he', heq⟩⟩
      rw [hnew]
      tauto

/-- **The attributes of the case** pass the check. -/
theorem checkAttrValid_created {opType : String} {py : Bool} {inputs outputs : List Fields}
    {l : List (String × PyVal × PyVal)} (hnodup : (l.map Prod.fst).Nodup) :
    (∃ r, SubCaseDesign.checkAttrValid (createdVal py opType inputs outputs (attrVals l))
      ATTR_REQUIRED_KEYS = .ok r) ↔ ∀ e ∈ l, AttrPasses e.1 e.2.1 e.2.2 := by
  by_cases hnil : l = []
  · subst hnil
    refine iff_of_true ⟨([], ATTR_REQUIRED_KEYS), ?_⟩ (by simp)
    rw [createdVal_eq]
    cases py <;> rfl
  · have hattrs : attrVals l ≠ [] := fun h => hnil (List.map_eq_nil_iff.mp h)
    have hkey : (createdVal py opType inputs outputs (attrVals l)).hasKey ATTR = .ok true ∧
        (createdVal py opType inputs outputs (attrVals l)).getItem ATTR
          = .ok (.list (attrVals l)) := by
      rw [createdVal_eq, if_neg hattrs]
      cases py <;> exact ⟨rfl, rfl⟩
    have hloop := @foldlM_attrTurn [] [] l
    have hcheck : SubCaseDesign.checkAttrValid (createdVal py opType inputs outputs (attrVals l))
        ATTR_REQUIRED_KEYS = ((attrVals l).foldlM attrTurn ([], [], ATTR_REQUIRED_KEYS)
          >>= fun st => .ok (st.1, st.2.2)) := by
      unfold SubCaseDesign.checkAttrValid
      rw [hkey.1, hkey.2]
      rfl
    rw [hcheck]
    constructor
    · rintro ⟨r, h⟩
      obtain ⟨st, hst, _⟩ := bind_eq_ok.mp h
      exact (hloop.mp ⟨st, hst⟩).1
    · intro hpasses
      obtain ⟨st, hst⟩ := hloop.mpr ⟨hpasses, hnodup, by simp⟩
      exact ⟨_, bind_eq_ok.mpr ⟨st, hst, rfl⟩⟩

end Attrs

end CreatedCase

end HwEfat.Main
