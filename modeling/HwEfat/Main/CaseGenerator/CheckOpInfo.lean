/-
  HwEfat.Main.CaseGenerator.CheckOpInfo — `_check_op_info`: the inputs and outputs of an operator.

  An entry is checked on its own: its required keys, that no value is empty, and that it has
  as many formats as types.  The number of types that `_check_op_info` hands from entry to entry
  stays 0, since an integer is passed by value, so that the entries are never compared.

  Main result: `check_op_info_iff`.
-/
import HwEfat.Lib.Split
import HwEfat.Main.CaseGenerator.IniFile

namespace HwEfat.Main

open HwEfat.Lib (PyError PyVal Dict raiseIf split startswith)

namespace CaseGenerator

/-! ## §1. The checks. -/

def INI_INPUT : String := "input"
def INI_OUTPUT : String := "output"
def REQUIRED_OP_INFO_KEYS : List String := ["paramType", "name"]

/-- `check_required_key` -/
def checkRequiredKey (opInfo : Dict PyVal) : Except PyError Unit :=
  let missingKeys := REQUIRED_OP_INFO_KEYS.filter fun key => (opInfo.get? key).isNone
  raiseIf (0 < missingKeys.length) invalidOpInfoFile

/-- `_check_op_info_list_valid`; of a value that is not supported there is a warning only. -/
def checkOpInfoListValid (valueList : List PyVal) : Except PyError Unit := do
  raiseIf (valueList.length = 0) invalidOpInfoFile
  forM valueList fun value => raiseIf (value.isStr "" = true) invalidOpInfoFile

/-- `v.split(",")` -/
def splitValue : PyVal → Except PyError (List String)
  | .str s => .ok (split s ",")
  | _ => .error (.attributeError "object has no attribute 'split'")

/-- The part of `_check_basic_filed_vaild` about the types, which gives their number. -/
def checkDtype (dtypeCount : Nat) (opInfo : Dict PyVal) : Except PyError (Nat × Dict PyVal) :=
  match opInfo.get? "dtype" with
  | none => .ok (0, opInfo.set "dtype" (.str ""))
  | some dtype => do
      let dtypeList ← splitValue dtype
      checkOpInfoListValid (dtypeList.map .str)
      let currentDtypeCount := dtypeList.length
      let dtypeCount := if dtypeCount = 0 then currentDtypeCount else dtypeCount
      raiseIf (dtypeCount ≠ currentDtypeCount) invalidOpInfoFile
      return (currentDtypeCount, opInfo)

/-- The part about the formats. -/
def checkFormat (currentDtypeCount : Nat) (opInfo : Dict PyVal) : Except PyError (Dict PyVal) :=
  match opInfo.get? "format" with
  | none => .ok (opInfo.set "format" (.str ""))
  | some format => do
      let formatList ← splitValue format
      checkOpInfoListValid (formatList.map .str)
      raiseIf (currentDtypeCount ≠ formatList.length) invalidOpInfoFile
      return opInfo

/-- `_check_basic_filed_vaild`; what it does to `dtype_count` is not seen outside. -/
def checkBasicFiledVaild (dtypeCount : Nat) (opInfo : Dict PyVal) :
    Except PyError (Dict PyVal) := do
  checkOpInfoListValid [← opInfo.getItem "paramType"]
  let (currentDtypeCount, opInfo) ← checkDtype dtypeCount opInfo
  checkFormat currentDtypeCount opInfo

/-- The entry is that of an input or output. -/
def isTensorKey (opInfoKey : String) : Bool :=
  startswith opInfoKey INI_INPUT || startswith opInfoKey INI_OUTPUT

/-- What `_check_op_info` does with an entry. -/
def checkEntry (dtypeCount : Nat) (opInfo : OpInfo) (opInfoKey : String) :
    Except PyError OpInfo :=
  if isTensorKey opInfoKey then do
    let info ← opInfo.getItem opInfoKey
    checkRequiredKey info
    return opInfo.set opInfoKey (← checkBasicFiledVaild dtypeCount info)
  else .ok opInfo

/-- `_check_op_info` -/
def checkOpInfo (opInfo : OpInfo) : Except PyError OpInfo :=
  let dtypeCount := 0
  opInfo.keys.foldlM (checkEntry dtypeCount) opInfo

/-! ## §2. What an entry declares. -/

/-- How many values are declared for a key of an entry, if there are any. -/
def countOf (key : String) (info : Dict PyVal) : Option Nat :=
  match info.get? key with
  | some (.str s) => some (split s ",").length
  | _ => none

/-- The inputs and outputs. -/
def IsTensor (opInfo : OpInfo) (info : Dict PyVal) : Prop :=
  ∃ key, isTensorKey key = true ∧ opInfo.get? key = some info

/-- All inputs and outputs that declare types declare equally many. -/
def SameDtypeCounts (opInfo : OpInfo) : Prop :=
  ∀ info info' n n', IsTensor opInfo info → IsTensor opInfo info' →
    countOf "dtype" info = some n → countOf "dtype" info' = some n' → n = n'

/-- And each that declares formats as well declares as many formats. -/
structure ConsistentCounts (opInfo : OpInfo) : Prop where
  dtypes : SameDtypeCounts opInfo
  formats : ∀ info n m, IsTensor opInfo info →
    countOf "dtype" info = some n → countOf "format" info = some m → m = n

/-- A declared list of values: a string, and none of its parts is empty. -/
def ListDeclared (v : PyVal) : Prop := ∃ s, v = .str s ∧ "" ∉ split s ","

/-- The entry passes on its own. -/
structure EntryValid (info : Dict PyVal) : Prop where
  name : (info.get? "name").isSome = true
  paramType : ∃ v, info.get? "paramType" = some v ∧ v.isStr "" = false
  dtype : ∀ v, info.get? "dtype" = some v → ListDeclared v
  format : ∀ v, info.get? "format" = some v →
    ListDeclared v ∧ countOf "format" info = some ((countOf "dtype" info).getD 0)

/-! ## §3. What passes. -/

section Checks

variable {info : Dict PyVal} {opInfo : OpInfo}

theorem checkRequiredKey_ok_iff : checkRequiredKey info = .ok () ↔
    (info.get? "paramType").isSome = true ∧ (info.get? "name").isSome = true := by
  unfold checkRequiredKey REQUIRED_OP_INFO_KEYS
  dsimp only
  rw [HwEfat.Lib.raiseIf_eq_ok]
  cases hparamType : info.get? "paramType" <;> cases hname : info.get? "name" <;>
    simp [hparamType, hname]

theorem checkOpInfoListValid_ok_iff {l : List PyVal} :
    checkOpInfoListValid l = .ok () ↔ l ≠ [] ∧ ∀ v ∈ l, v.isStr "" = false := by
  unfold checkOpInfoListValid
  rw [HwEfat.Lib.bind_eq_ok]
  constructor
  · rintro ⟨_, hlength, h⟩
    refine ⟨fun hnil => HwEfat.Lib.raiseIf_eq_ok.mp hlength (by rw [hnil]; rfl), fun v hv => ?_⟩
    exact Bool.of_not_eq_true (HwEfat.Lib.raiseIf_eq_ok.mp (HwEfat.Lib.forM_eq_ok.mp h v hv))
  · rintro ⟨hnil, h⟩
    refine ⟨(), HwEfat.Lib.raiseIf_eq_ok.mpr fun hlength => hnil (List.eq_nil_of_length_eq_zero
      hlength), HwEfat.Lib.forM_eq_ok.mpr fun v hv => HwEfat.Lib.raiseIf_eq_ok.mpr ?_⟩
    rw [h v hv]
    exact Bool.false_ne_true

/-- The parts of a string are checked. -/
theorem checkOpInfoListValid_split (s : String) :
    checkOpInfoListValid ((split s ",").map .str) = .ok () ↔ "" ∉ split s "," := by
  rw [checkOpInfoListValid_ok_iff, List.forall_mem_map]
  have hnil : (split s ",").map PyVal.str ≠ [] := by
    rw [Ne, List.map_eq_nil_iff]
    exact HwEfat.Lib.split_ne_nil s ","
  constructor
  · rintro ⟨_, h⟩ hmem
    have hempty := h "" hmem
    cases hempty
  · refine fun h => ⟨hnil, fun t ht => ?_⟩
    unfold PyVal.isStr
    exact beq_false_of_ne fun heq => h (heq ▸ ht)

/-- **The types are checked**, without a number to compare them with. -/
theorem checkDtype_ok_iff {n : Nat} {info' : Dict PyVal} : checkDtype 0 info = .ok (n, info') ↔
    (∀ v, info.get? "dtype" = some v → ListDeclared v) ∧ n = (countOf "dtype" info).getD 0 ∧
      info' = if (info.get? "dtype").isNone then info.set "dtype" (.str "") else info := by
  unfold checkDtype countOf
  cases hdtype : info.get? "dtype" with
  | none =>
      dsimp only
      constructor
      · rintro ⟨⟩
        exact ⟨fun v hv => (nomatch hv), rfl, rfl⟩
      · rintro ⟨_, rfl, rfl⟩
        rfl
  | some v =>
      dsimp only
      cases v with
      | str s =>
          rw [HwEfat.Lib.bind_eq_ok]
          constructor
          · rintro ⟨dtypeList, hlist, h⟩
            cases hlist
            obtain ⟨_, hvalid, h⟩ := HwEfat.Lib.bind_eq_ok.mp h
            obtain ⟨_, _, h⟩ := HwEfat.Lib.bind_eq_ok.mp h
            cases h
            refine ⟨fun v hv => ?_, rfl, rfl⟩
            cases hv
            exact ⟨s, rfl, (checkOpInfoListValid_split s).mp hvalid⟩
          · rintro ⟨hlist, rfl, rfl⟩
            obtain ⟨t, ht, hparts⟩ := hlist _ rfl
            cases ht
            refine ⟨_, rfl, HwEfat.Lib.bind_eq_ok.mpr
              ⟨(), (checkOpInfoListValid_split s).mpr hparts, ?_⟩⟩
            refine HwEfat.Lib.bind_eq_ok.mpr ⟨(), HwEfat.Lib.raiseIf_eq_ok.mpr ?_, rfl⟩
            rw [if_pos rfl]
            exact not_not.mpr rfl
      -- A type list that is no string has no `split`.
      | _ =>
          refine iff_of_false (fun h => by cases h) fun ⟨hlist, _⟩ => ?_
          obtain ⟨s, hs, _⟩ := hlist _ rfl
          cases hs

theorem checkFormat_ok_iff {n : Nat} : (∃ info', checkFormat n info = .ok info') ↔
    ∀ v, info.get? "format" = some v → ListDeclared v ∧ countOf "format" info = some n := by
  unfold checkFormat countOf
  cases hformat : info.get? "format" with
  | none => exact iff_of_true ⟨_, rfl⟩ fun v hv => by cases hv
  | some v =>
      dsimp only
      cases v with
      | str s =>
          constructor
          · rintro ⟨info', h⟩ v hv
            cases hv
            obtain ⟨formatList, hlist, h⟩ := HwEfat.Lib.bind_eq_ok.mp h
            cases hlist
            obtain ⟨_, hvalid, h⟩ := HwEfat.Lib.bind_eq_ok.mp h
            obtain ⟨_, hcount, _⟩ := HwEfat.Lib.bind_eq_ok.mp h
            refine ⟨⟨s, rfl, (checkOpInfoListValid_split s).mp hvalid⟩, ?_⟩
            exact congrArg some (not_not.mp (HwEfat.Lib.raiseIf_eq_ok.mp hcount)).symm
          · intro h
            obtain ⟨⟨t, ht, hparts⟩, hcount⟩ := h _ rfl
            cases ht
            refine ⟨info, HwEfat.Lib.bind_eq_ok.mpr ⟨_, rfl, HwEfat.Lib.bind_eq_ok.mpr
              ⟨(), (checkOpInfoListValid_split s).mpr hparts, HwEfat.Lib.bind_eq_ok.mpr
                ⟨(), HwEfat.Lib.raiseIf_eq_ok.mpr (not_not.mpr ?_), rfl⟩⟩⟩⟩
            exact (Option.some.inj hcount).symm
      | _ =>
          refine iff_of_false (fun ⟨_, h⟩ => by cases h) fun h => ?_
          obtain ⟨⟨s, hs, _⟩, _⟩ := h _ rfl
          cases hs

/-- **An entry is checked** on its own. -/
theorem entry_ok_iff : (checkRequiredKey info = .ok () ∧
    ∃ info', checkBasicFiledVaild 0 info = .ok info') ↔ EntryValid info := by
  have hbasic : (∃ info', checkBasicFiledVaild 0 info = .ok info') ↔
      (∃ v, info.get? "paramType" = some v ∧ v.isStr "" = false) ∧
        (∀ v, info.get? "dtype" = some v → ListDeclared v) ∧
        ∀ v, info.get? "format" = some v →
          ListDeclared v ∧ countOf "format" info = some ((countOf "dtype" info).getD 0) := by
    -- The types that are filled in leave the formats as they are.
    have hformat : ∀ info', info' = (if (info.get? "dtype").isNone
        then info.set "dtype" (.str "") else info) → info'.get? "format" = info.get? "format" := by
      rintro _ rfl
      split
      · rw [Dict.get?_set, if_neg (by decide)]
      · rfl
    have hcount : ∀ info' : Dict PyVal, info'.get? "format" = info.get? "format" →
        countOf "format" info' = countOf "format" info := by
      intro info' h
      unfold countOf
      rw [h]
    unfold checkBasicFiledVaild
    constructor
    · rintro ⟨info', h⟩
      obtain ⟨v, hv, h⟩ := HwEfat.Lib.bind_eq_ok.mp h
      obtain ⟨_, hvalid, h⟩ := HwEfat.Lib.bind_eq_ok.mp h
      obtain ⟨⟨n, info₁⟩, hdtype, h⟩ := HwEfat.Lib.bind_eq_ok.mp h
      obtain ⟨hdtypes, rfl, hinfo₁⟩ := checkDtype_ok_iff.mp hdtype
      have hformats := checkFormat_ok_iff.mp ⟨info', h⟩
      rw [hformat info₁ hinfo₁, hcount info₁ (hformat info₁ hinfo₁)] at hformats
      exact ⟨⟨v, Dict.getItem_eq_ok.mp hv, (checkOpInfoListValid_ok_iff.mp hvalid).2 v
        (List.mem_singleton_self v)⟩, hdtypes, hformats⟩
    · rintro ⟨⟨v, hv, hempty⟩, hdtypes, hformats⟩
      obtain ⟨info₁, hinfo₁⟩ : ∃ info₁, info₁ = (if (info.get? "dtype").isNone
        then info.set "dtype" (.str "") else info) := ⟨_, rfl⟩
      rw [← hcount info₁ (hformat info₁ hinfo₁), ← hformat info₁ hinfo₁] at hformats
      obtain ⟨info', hlast⟩ := checkFormat_ok_iff.mpr hformats
      refine ⟨info', HwEfat.Lib.bind_eq_ok.mpr ⟨v, Dict.getItem_eq_ok.mpr hv,
        HwEfat.Lib.bind_eq_ok.mpr ⟨(), checkOpInfoListValid_ok_iff.mpr
          ⟨List.cons_ne_nil _ _, fun w hw => List.mem_singleton.mp hw ▸ hempty⟩,
          HwEfat.Lib.bind_eq_ok.mpr ⟨_, checkDtype_ok_iff.mpr ⟨hdtypes, rfl, hinfo₁⟩, hlast⟩⟩⟩⟩
  rw [checkRequiredKey_ok_iff, hbasic]
  constructor
  · rintro ⟨⟨_, hname⟩, hparamType, hdtype, hformat⟩
    exact ⟨hname, hparamType, hdtype, hformat⟩
  · intro h
    obtain ⟨v, hv, _⟩ := h.paramType
    exact ⟨⟨by rw [hv]; rfl, h.name⟩, h.paramType, h.dtype, h.format⟩

/-- The other entries stay as they are. -/
theorem get?_checkEntry {key : String} {opInfo' : OpInfo}
    (h : checkEntry 0 opInfo key = .ok opInfo') {k : String} (hk : k ≠ key) :
    opInfo'.get? k = opInfo.get? k := by
  unfold checkEntry at h
  split at h
  · obtain ⟨info, _, h⟩ := HwEfat.Lib.bind_eq_ok.mp h
    obtain ⟨_, _, h⟩ := HwEfat.Lib.bind_eq_ok.mp h
    obtain ⟨info', _, h⟩ := HwEfat.Lib.bind_eq_ok.mp h
    cases h
    rw [Dict.get?_set, if_neg hk]
  · cases h
    rfl

theorem checkEntry_ok_iff {key : String} {info : Dict PyVal} (hget : opInfo.get? key = some info) :
    (∃ opInfo', checkEntry 0 opInfo key = .ok opInfo') ↔
      (isTensorKey key = true → EntryValid info) := by
  unfold checkEntry
  by_cases hkey : isTensorKey key = true
  · rw [if_pos hkey, ← entry_ok_iff]
    constructor
    · rintro ⟨opInfo', h⟩ _
      obtain ⟨info₁, hinfo, h⟩ := HwEfat.Lib.bind_eq_ok.mp h
      obtain ⟨_, hrequired, h⟩ := HwEfat.Lib.bind_eq_ok.mp h
      obtain ⟨info', hbasic, _⟩ := HwEfat.Lib.bind_eq_ok.mp h
      rw [Dict.getItem_eq_ok, hget, Option.some.injEq] at hinfo
      subst hinfo
      exact ⟨hrequired, info', hbasic⟩
    · intro h
      obtain ⟨hrequired, info', hbasic⟩ := h hkey
      exact ⟨_, HwEfat.Lib.bind_eq_ok.mpr ⟨info, Dict.getItem_eq_ok.mpr hget,
        HwEfat.Lib.bind_eq_ok.mpr ⟨(), hrequired, HwEfat.Lib.bind_eq_ok.mpr ⟨info', hbasic, rfl⟩⟩⟩⟩
  · rw [if_neg hkey]
    exact iff_of_true ⟨opInfo, rfl⟩ fun h => absurd h hkey

/-- **`_check_op_info` returns** exactly if every input and output passes on its own. -/
theorem checkOpInfo_ok_iff : (∃ opInfo', checkOpInfo opInfo = .ok opInfo') ↔
    ∀ info, IsTensor opInfo info → EntryValid info := by
  have hloop : ∀ (keys : List String) (d : OpInfo), keys.Nodup →
      (∀ key ∈ keys, d.get? key = opInfo.get? key) → (∀ key ∈ keys, (opInfo.get? key).isSome = true) →
      ((∃ opInfo', keys.foldlM (checkEntry 0) d = .ok opInfo') ↔
        ∀ key ∈ keys, isTensorKey key = true → ∀ info, opInfo.get? key = some info →
          EntryValid info) := by
    intro keys
    induction keys with
    | nil => exact fun d _ _ _ => iff_of_true ⟨d, rfl⟩ fun key hkey => absurd hkey List.not_mem_nil
    | cons key keys ih =>
        intro d hnodup hsame hsome
        obtain ⟨hnew, hnodup⟩ := List.nodup_cons.mp hnodup
        obtain ⟨info, hinfo⟩ := Option.isSome_iff_exists.mp (hsome key List.mem_cons_self)
        have hget : d.get? key = some info := (hsame key List.mem_cons_self).trans hinfo
        rw [List.forall_mem_cons]
        -- Checking one entry may fill in its types, and leaves the entries of the other keys.
        have hrest : ∀ d', checkEntry 0 d key = .ok d' →
            ∀ k ∈ keys, d'.get? k = opInfo.get? k := fun d' hd' k hk => by
          rw [get?_checkEntry hd' fun h => hnew (h ▸ hk)]
          exact hsame k (List.mem_cons_of_mem _ hk)
        have hsome' := fun k hk => hsome k (List.mem_cons_of_mem key hk)
        constructor
        · rintro ⟨opInfo', h⟩
          rw [List.foldlM_cons, HwEfat.Lib.bind_eq_ok] at h
          obtain ⟨d', hd', h⟩ := h
          refine ⟨fun hkey info' hinfo' => ?_,
            (ih d' hnodup (hrest d' hd') hsome').mp ⟨opInfo', h⟩⟩
          rw [hinfo, Option.some.injEq] at hinfo'
          exact hinfo' ▸ (checkEntry_ok_iff hget).mp ⟨d', hd'⟩ hkey
        · rintro ⟨hfirst, hall⟩
          obtain ⟨d', hd'⟩ := (checkEntry_ok_iff hget).mpr fun hkey => hfirst hkey info hinfo
          obtain ⟨opInfo', h⟩ := (ih d' hnodup (hrest d' hd') hsome').mpr hall
          exact ⟨opInfo', by rw [List.foldlM_cons, HwEfat.Lib.bind_eq_ok]; exact ⟨d', hd', h⟩⟩
  unfold checkOpInfo
  dsimp only
  rw [hloop opInfo.keys opInfo opInfo.keys_nodup (fun _ _ => rfl)
    fun key hkey => Option.isSome_iff_exists.mpr (Dict.mem_keys_iff.mp hkey)]
  constructor
  · rintro h info ⟨key, hkey, hinfo⟩
    exact h key (Dict.mem_keys_iff.mpr ⟨info, hinfo⟩) hkey info hinfo
  · exact fun h key _ hkey info hinfo => h info ⟨key, hkey, hinfo⟩

end Checks

/-- **What `_check_op_info` lets through is consistent** exactly if it rejects some entry on its
own, or the entries declare equally many types already. -/
theorem check_op_info_iff (opInfo : OpInfo) :
    ((∃ opInfo', checkOpInfo opInfo = .ok opInfo') → ConsistentCounts opInfo) ↔
      (∃ info, IsTensor opInfo info ∧ ¬ EntryValid info) ∨ SameDtypeCounts opInfo := by
  rw [checkOpInfo_ok_iff]
  constructor
  · intro h
    by_cases hvalid : ∀ info, IsTensor opInfo info → EntryValid info
    · exact Or.inr (h hvalid).dtypes
    · obtain ⟨info, hinfo⟩ := not_forall.mp hvalid
      obtain ⟨htensor, hinvalid⟩ := Classical.not_imp.mp hinfo
      exact Or.inl ⟨info, htensor, hinvalid⟩
  · rintro (⟨info, htensor, hinvalid⟩ | hsame) hvalid
    · exact absurd (hvalid info htensor) hinvalid
    · refine ⟨hsame, fun info n m htensor hn hm => ?_⟩
      have hformat : ∃ v, info.get? "format" = some v := by
        unfold countOf at hm
        split at hm
        · next heq => exact ⟨_, heq⟩
        · cases hm
      obtain ⟨v, hv⟩ := hformat
      have hcount := ((hvalid info htensor).format v hv).2
      rw [hm, hn] at hcount
      exact Option.some.inj hcount

/-- An entry with this list of types. -/
def entryWith (dtype : String) : Dict PyVal :=
  ((Dict.empty.set "name" (.str "x")).set "paramType" (.str "required")).set "dtype" (.str dtype)

/-- One type for the input and two for the output. -/
def unequalInfo : OpInfo :=
  (Dict.empty.set "input0" (entryWith "float16")).set "output0" (entryWith "float16,float")

/-- The entries pass, each on its own, and declare different numbers of types. -/
theorem unequal_counts_pass :
    (∃ opInfo', checkOpInfo unequalInfo = .ok opInfo') ∧ ¬ ConsistentCounts unequalInfo := by
  refine ⟨⟨_, rfl⟩, fun h => ?_⟩
  have heq : (1 : Nat) = 2 := h.dtypes (entryWith "float16") (entryWith "float16,float") 1 2
    ⟨"input0", rfl, rfl⟩ ⟨"output0", rfl, rfl⟩ (by decide) (by decide)
  cases heq

end CaseGenerator

end HwEfat.Main
