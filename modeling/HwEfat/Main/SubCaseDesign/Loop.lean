/-
  HwEfat.Main.SubCaseDesign.Loop — the loop of `_get_sub_test_cases`.

  At turn `k` the descriptions from `k` on are as they were crossed (`Untaken`): an
  earlier turn has named earlier ones only.  So the case of turn `k` has the `k`-th
  description of every input and the one at `output_index` of every output, with its name
  (`Drawn`), and what remains to be said of the cases is in `outputIndex` and in the
  number of turns.
-/
import HwEfat.Main.SubCaseDesign.Combinations

namespace HwEfat.Main

open HwEfat.Lib (PyError PyVal PyDict bind_eq_ok exists_of_mapM exists_mapM length_of_mapM)

namespace SubCaseDesignCross

/-- A description with its name. -/
def named (name : PyVal) (desc : Desc) : Desc :=
  if name.truthy then desc.set "name" name else desc

/-- The list `l` at turn `k`, which was crossed as `l₀`. -/
structure UntakenRow (name : PyVal) (l₀ l : List Desc) (k : Nat) : Prop where
  length : l.length = l₀.length
  later : ∀ j, k ≤ j → l[j]? = l₀[j]?
  unnamed : ¬ name.truthy → l = l₀

/-- The lists at turn `k`, which were crossed as `orig`. -/
structure Untaken (jsonObj : PyVal) (key : String) (orig cur : List (List Desc)) (k : Nat) :
    Prop where
  length : cur.length = orig.length
  row : ∀ i l₀, orig[i]? = some l₀ →
    ∃ name l, nameOf jsonObj key i = .ok name ∧ cur[i]? = some l ∧ UntakenRow name l₀ l k

/-- What turn `k` takes: the descriptions at `use`, with their names. -/
structure Drawn (jsonObj : PyVal) (key : String) (orig : List (List Desc)) (k use : Nat)
    (descs : List Desc) : Prop where
  length : descs.length = orig.length
  row : ∀ i l₀, orig[i]? = some l₀ →
    ∃ name d₀, nameOf jsonObj key i = .ok name ∧ l₀[use]? = some d₀ ∧
      (name.truthy → k < l₀.length) ∧ descs[i]? = some (named name d₀)

/-! ## §1. One input or output. -/

section TakeDesc

variable {jsonObj name : PyVal} {key : String} {l₀ l l' : List Desc} {desc : Desc}
  {k use i : Nat}

/-- A name is written into the description of the turn, if there is one. -/
theorem updateName_eq_ok :
    updateName name l k = .ok l' ↔
      (¬ name.truthy ∧ l' = l) ∨
      (name.truthy ∧ ∃ d, l[k]? = some d ∧ l' = l.set k (named name d)) := by
  unfold updateName named
  by_cases htruthy : name.truthy
  · simp only [htruthy, if_true, not_true_eq_false, false_and, false_or, true_and]
    cases l[k]? with
    | none => simp
    | some d => simp [eq_comm]
  · simp only [htruthy, Bool.false_eq_true, if_false, not_false_eq_true, true_and, false_and,
      or_false, Except.ok.injEq]
    exact eq_comm

/-- The description at a position. -/
theorem caseAt_eq_ok : caseAt l use = .ok desc ↔ l[use]? = some desc := by
  unfold caseAt
  cases l[use]? <;> simp

/-- What one input or output gives, once its name is known. -/
theorem takeDesc_eq_ok (hname : nameOf jsonObj key i = .ok name) :
    takeDesc jsonObj key k use l i = .ok (desc, l') ↔
      updateName name l k = .ok l' ∧ l'[use]? = some desc := by
  unfold takeDesc
  rw [hname]
  show (updateName name l k >>= fun cases => caseAt cases use >>= fun d => .ok (d, cases))
    = .ok (desc, l') ↔ _
  rw [bind_eq_ok]
  constructor
  · intro ⟨cases, hupdate, h⟩
    obtain ⟨d, hd, h⟩ := bind_eq_ok.mp h
    cases h
    exact ⟨hupdate, caseAt_eq_ok.mp hd⟩
  · intro ⟨hupdate, hdesc⟩
    refine ⟨l', hupdate, ?_⟩
    rw [caseAt_eq_ok.mpr hdesc]
    rfl

/-- What is read at turn `k`, and how the list is left: it is read at `k` itself, or all
turns are over for the list. -/
theorem takeDesc_spec (hname : nameOf jsonObj key i = .ok name) (h : UntakenRow name l₀ l k)
    (huse : use = k ∨ l₀.length ≤ k)
    (hok : takeDesc jsonObj key k use l i = .ok (desc, l')) :
    UntakenRow name l₀ l' (k + 1) ∧
      ∃ d₀, l₀[use]? = some d₀ ∧ (name.truthy → k < l₀.length) ∧ desc = named name d₀ := by
  obtain ⟨hupdate, hdesc⟩ := (takeDesc_eq_ok hname).mp hok
  rcases updateName_eq_ok.mp hupdate with ⟨hun, rfl⟩ | ⟨htruthy, d, hd, rfl⟩
  · -- Without a name nothing has changed.
    have hsame := h.unnamed hun
    refine ⟨⟨h.length, fun j hj => h.later j (by omega), h.unnamed⟩, desc, ?_, ?_, ?_⟩
    · rw [← hsame, hdesc]
    · exact fun htruthy => absurd htruthy hun
    · unfold named
      rw [if_neg hun]
  · have hk : k < l.length := (List.getElem?_eq_some_iff.mp hd).1
    have hlen := h.length
    obtain rfl : use = k := by omega
    rw [List.getElem?_set_self hk] at hdesc
    cases hdesc
    refine ⟨⟨by rw [List.length_set, hlen], ?_, fun hun => absurd htruthy hun⟩, d, ?_, ?_, rfl⟩
    · intro j hj
      rw [List.getElem?_set_ne (by omega)]
      exact h.later j (by omega)
    · rw [← h.later use (Nat.le_refl _), hd]
    · exact fun _ => by omega

/-- When a turn does not raise. -/
theorem takeDesc_ok (hname : nameOf jsonObj key i = .ok name) (h : UntakenRow name l₀ l k)
    (huse : use < l₀.length) (hk : name.truthy → k < l₀.length) :
    ∃ desc l', takeDesc jsonObj key k use l i = .ok (desc, l') := by
  have hlen := h.length
  by_cases htruthy : name.truthy
  · have hk' : k < l.length := by
      have hlt := hk htruthy
      omega
    have huse' : use < (l.set k (named name l[k])).length := by
      rw [List.length_set]
      omega
    refine ⟨(l.set k (named name l[k]))[use], l.set k (named name l[k]), ?_⟩
    rw [takeDesc_eq_ok hname, updateName_eq_ok]
    refine ⟨Or.inr ⟨htruthy, l[k], List.getElem?_eq_getElem hk', rfl⟩, ?_⟩
    exact List.getElem?_eq_getElem huse'
  · have huse' : use < l.length := by omega
    refine ⟨l[use], l, ?_⟩
    rw [takeDesc_eq_ok hname, updateName_eq_ok]
    exact ⟨Or.inl ⟨htruthy, rfl⟩, List.getElem?_eq_getElem _⟩

end TakeDesc

/-! ## §2. All inputs or outputs. -/

section TakeDescs

variable {jsonObj : PyVal} {key : String} {orig cur cur' : List (List Desc)} {k use : Nat}
  {descs : List Desc}

/-- What a turn takes from all of them, and what it leaves. -/
theorem takeDescs_spec (h : Untaken jsonObj key orig cur k)
    (huse : use = k ∨ ∀ l₀ ∈ orig, l₀.length ≤ k)
    (hok : takeDescs jsonObj key k use cur = .ok (descs, cur')) :
    Untaken jsonObj key orig cur' (k + 1) ∧ Drawn jsonObj key orig k use descs := by
  unfold takeDescs at hok
  obtain ⟨taken, htaken, hok⟩ := bind_eq_ok.mp hok
  have hunzip : taken.unzip = (descs, cur') := Except.ok.inj hok
  rw [List.unzip_eq_map] at hunzip
  cases hunzip
  have hlen := length_of_mapM htaken
  rw [List.length_zipIdx, h.length] at hlen
  -- Each list by itself is taken from and left as one turn does.
  have hrow : ∀ i l₀, orig[i]? = some l₀ → ∃ name desc l', nameOf jsonObj key i = .ok name ∧
      taken[i]? = some (desc, l') ∧ UntakenRow name l₀ l' (k + 1) ∧
      ∃ d₀, l₀[use]? = some d₀ ∧ (name.truthy → k < l₀.length) ∧ desc = named name d₀ := by
    intro i l₀ hl₀
    obtain ⟨name, l, hname, hl, hrow⟩ := h.row i l₀ hl₀
    have hzip : cur.zipIdx[i]? = some (l, i) := by
      rw [List.getElem?_zipIdx, hl]
      simp
    obtain ⟨⟨desc, l'⟩, hget, htake⟩ := exists_mapM htaken hzip
    have huse' : use = k ∨ l₀.length ≤ k :=
      huse.imp_right fun hall => hall l₀ (List.mem_of_getElem? hl₀)
    obtain ⟨hrow', d₀, hd₀, hk, hdesc⟩ := takeDesc_spec hname hrow huse' htake
    exact ⟨name, desc, l', hname, hget, hrow', d₀, hd₀, hk, hdesc⟩
  refine ⟨⟨by rw [List.length_map, hlen], ?_⟩, ⟨by rw [List.length_map, hlen], ?_⟩⟩
  · intro i l₀ hl₀
    obtain ⟨name, desc, l', hname, hget, hrow', _⟩ := hrow i l₀ hl₀
    exact ⟨name, l', hname, by rw [List.getElem?_map, hget]; rfl, hrow'⟩
  · intro i l₀ hl₀
    obtain ⟨name, desc, l', hname, hget, _, d₀, hd₀, hk, hdesc⟩ := hrow i l₀ hl₀
    exact ⟨name, d₀, hname, hd₀, hk, by rw [List.getElem?_map, hget, ← hdesc]; rfl⟩

/-- A turn with every position inside the lists does not raise. -/
theorem takeDescs_ok (h : Untaken jsonObj key orig cur k)
    (hall : ∀ i l₀, orig[i]? = some l₀ → use < l₀.length ∧
      ∀ name, nameOf jsonObj key i = .ok name → name.truthy → k < l₀.length) :
    ∃ taken, takeDescs jsonObj key k use cur = .ok taken := by
  have hrows : ∀ e ∈ cur.zipIdx, ∃ r, takeDesc jsonObj key k use e.1 e.2 = .ok r := by
    intro ⟨l, i⟩ he
    have hl : cur[i]? = some l := by
      have hget := List.mem_zipIdx_iff_getElem?.mp he
      simpa using hget
    have hi : i < orig.length := by
      rw [← h.length]
      exact (List.getElem?_eq_some_iff.mp hl).1
    obtain ⟨name, l', hname, hl', hrow⟩ := h.row i _ (List.getElem?_eq_getElem hi)
    rw [hl, Option.some.injEq] at hl'
    subst hl'
    obtain ⟨huse, hk⟩ := hall i _ (List.getElem?_eq_getElem hi)
    obtain ⟨desc, l', htake⟩ := takeDesc_ok hname hrow huse (hk name hname)
    exact ⟨_, htake⟩
  choose! r hr using hrows
  unfold takeDescs
  rw [Lib.mapM_eq_map hr]
  exact ⟨_, rfl⟩

end TakeDescs

/-! ## §3. One case. -/

/-- The case of turn `k`. -/
structure CaseAt (jsonObj : PyVal) (prepared : Prepared) (k : Nat) (case : SubCase) : Prop where
  input : Drawn jsonObj INPUT_DESC prepared.input k k case.inputDesc
  output : ∃ use, outputIndex prepared.output k = .ok use ∧
    Drawn jsonObj OUTPUT_DESC prepared.output k use case.outputDesc

/-- The state of the loop before turn `k`. -/
structure Progress (design : SubCaseDesign) (prepared : Prepared) (k : Nat) (st : LoopState) :
    Prop where
  jsonObj : st.design.jsonObj = design.jsonObj
  input : Untaken design.jsonObj INPUT_DESC prepared.input st.input k
  output : Untaken design.jsonObj OUTPUT_DESC prepared.output st.output k
  cases : ∃ cases, st.design.totalCaseList = design.totalCaseList ++ cases ∧
    cases.length = k ∧ ∀ j case, cases[j]? = some case → CaseAt design.jsonObj prepared j case

/-- The outputs have equally many descriptions. -/
def SameLength (l : List (List Desc)) (n : Nat) : Prop := l ≠ [] ∧ ∀ row ∈ l, row.length = n

section Step

variable {design : SubCaseDesign} {prepared : Prepared} {k n : Nat} {st st' : LoopState}
  {pyfile : Option String} {function errThr : PyVal}

/-- `output_index` for outputs with equally many descriptions. -/
theorem outputIndex_eq {output : List (List Desc)} (h : SameLength output n) :
    outputIndex output k = .ok (if n ≤ k then k % output.length else k) := by
  obtain ⟨hne, hall⟩ := h
  cases output with
  | nil => exact absurd rfl hne
  | cons row rest =>
      have hrow := hall row List.mem_cons_self
      unfold outputIndex
      show (if k ≥ row.length then _ else _) = _
      rw [hrow]
      split <;> rfl

/-- Naming leaves the lengths. -/
theorem Untaken.sameLength {jsonObj : PyVal} {key : String} {orig cur : List (List Desc)}
    (h : Untaken jsonObj key orig cur k) (hsame : SameLength orig n) : SameLength cur n := by
  obtain ⟨hne, hall⟩ := hsame
  have hlen := h.length
  constructor
  · intro hnil
    rw [hnil, List.length_nil] at hlen
    exact hne (List.length_eq_zero_iff.mp hlen.symm)
  · intro row hrow
    obtain ⟨i, hi⟩ := List.mem_iff_getElem?.mp hrow
    have hlt : i < orig.length := by
      rw [← hlen]
      exact (List.getElem?_eq_some_iff.mp hi).1
    obtain ⟨_, l, _, hl, hl'⟩ := h.row i _ (List.getElem?_eq_getElem hlt)
    rw [hi, Option.some.injEq] at hl
    rw [hl, hl'.length]
    exact hall _ (List.getElem_mem hlt)

/-- So `output_index` is the same in every turn. -/
theorem outputIndex_untaken {jsonObj : PyVal} {key : String} {orig cur : List (List Desc)}
    (h : Untaken jsonObj key orig cur k) (hsame : SameLength orig n) :
    outputIndex cur k = outputIndex orig k := by
  rw [outputIndex_eq hsame, outputIndex_eq (h.sameLength hsame), h.length]

/-- Once `output_index` is another one, all turns are over. -/
theorem outputIndex_over {output : List (List Desc)} {use : Nat} (hsame : SameLength output n)
    (h : outputIndex output k = .ok use) : use = k ∨ ∀ row ∈ output, row.length ≤ k := by
  rw [outputIndex_eq hsame, Except.ok.injEq] at h
  by_cases hk : n ≤ k
  · right
    intro row hrow
    rw [hsame.2 row hrow]
    exact hk
  · rw [if_neg hk] at h
    exact Or.inl h.symm

/-- The expected outputs do not touch the inputs. -/
theorem parseExpectOutputParam_inputDesc (case : SubCase) :
    (case.parseExpectOutputParam pyfile function errThr).inputDesc = case.inputDesc := by
  unfold SubCase.parseExpectOutputParam
  split
  · split <;> rfl
  · rfl

/-- Nor the output descriptions. -/
theorem parseExpectOutputParam_outputDesc (case : SubCase) :
    (case.parseExpectOutputParam pyfile function errThr).outputDesc = case.outputDesc := by
  unfold SubCase.parseExpectOutputParam
  split
  · split <;> rfl
  · rfl

/-- **What one turn does.** -/
theorem subTestCase_spec (hsame : SameLength prepared.output n)
    (h : Progress design prepared k st)
    (hok : subTestCase prepared pyfile function errThr st k = .ok st') :
    Progress design prepared (k + 1) st' := by
  unfold subTestCase at hok
  obtain ⟨ms, _, hok⟩ := bind_eq_ok.mp hok
  obtain ⟨op, _, hok⟩ := bind_eq_ok.mp hok
  obtain ⟨stMode, _, hok⟩ := bind_eq_ok.mp hok
  obtain ⟨⟨inputDesc, input⟩, hinput, hok⟩ := bind_eq_ok.mp hok
  obtain ⟨use, huse, hok⟩ := bind_eq_ok.mp hok
  obtain ⟨⟨outputDesc, output⟩, houtput, hok⟩ := bind_eq_ok.mp hok
  obtain ⟨first, _, hok⟩ := bind_eq_ok.mp hok
  obtain ⟨caseName, _, hok⟩ := bind_eq_ok.mp hok
  cases hok
  rw [h.jsonObj] at hinput houtput
  rw [outputIndex_untaken h.output hsame] at huse
  obtain ⟨hinput', hdrawn⟩ := takeDescs_spec h.input (Or.inl rfl) hinput
  obtain ⟨houtput', hdrawn'⟩ := takeDescs_spec h.output (outputIndex_over hsame huse) houtput
  obtain ⟨cases, htotal, hlen, hcases⟩ := h.cases
  refine ⟨h.jsonObj, hinput', houtput', ?_⟩
  unfold SubCaseDesign.addCaseToTotalCase
  dsimp only
  rw [htotal, List.append_assoc]
  refine ⟨_, rfl, by rw [List.length_append, List.length_singleton, hlen], ?_⟩
  -- A case from before, or the one of this turn.
  intro j case hcase
  rcases Nat.lt_or_ge j cases.length with hj | hj
  · rw [List.getElem?_append_left hj] at hcase
    exact hcases j case hcase
  · rw [List.getElem?_append_right hj] at hcase
    have hzero : j - cases.length = 0 := by
      have hlt := (List.getElem?_eq_some_iff.mp hcase).1
      rw [List.length_singleton] at hlt
      omega
    obtain rfl : j = k := by omega
    rw [hzero, List.getElem?_cons_zero, Option.some.injEq] at hcase
    subst hcase
    constructor
    · rw [parseExpectOutputParam_inputDesc]
      exact hdrawn
    · rw [parseExpectOutputParam_outputDesc]
      exact ⟨use, huse, hdrawn'⟩

end Step

/-! ## §4. All cases. -/

/-- The names of the inputs or outputs can be read. -/
def Nameable (jsonObj : PyVal) (key : String) (orig : List (List Desc)) : Prop :=
  ∀ i, i < orig.length → ∃ name, nameOf jsonObj key i = .ok name

/-- Before the first turn. -/
theorem untaken_zero {jsonObj : PyVal} {key : String} {orig : List (List Desc)}
    (h : Nameable jsonObj key orig) : Untaken jsonObj key orig orig 0 := by
  refine ⟨rfl, ?_⟩
  intro i l₀ hl₀
  obtain ⟨name, hname⟩ := h i (List.getElem?_eq_some_iff.mp hl₀).1
  exact ⟨name, l₀, hname, hl₀, rfl, fun _ _ => rfl, fun _ => rfl⟩

section Run

variable {env : DesignEnv} {design design' : SubCaseDesign} {prepared : Prepared} {n : Nat}

/-- Nothing is taken before the first turn. -/
theorem progress_zero (hinput : Nameable design.jsonObj INPUT_DESC prepared.input)
    (houtput : Nameable design.jsonObj OUTPUT_DESC prepared.output) :
    Progress design prepared 0 ⟨prepared.input, prepared.output, design⟩ := by
  refine ⟨rfl, untaken_zero hinput, untaken_zero houtput, [], ?_, rfl, ?_⟩
  · rw [List.append_nil]
  · intro j case hcase
    cases hcase

/-- **The cases of a run**: one for each turn, with what the turn takes. -/
theorem getSubTestCases_spec (h : getSubTestCases env design prepared = .ok design')
    (hinput : Nameable design.jsonObj INPUT_DESC prepared.input)
    (houtput : Nameable design.jsonObj OUTPUT_DESC prepared.output)
    (hsame : SameLength prepared.output n) :
    ∃ cases, design'.totalCaseList = design.totalCaseList ++ cases ∧
      cases.length = prepared.count ∧
      ∀ k case, cases[k]? = some case → CaseAt design.jsonObj prepared k case := by
  unfold getSubTestCases at h
  obtain ⟨⟨pyfile, function⟩, _, h⟩ := bind_eq_ok.mp h
  obtain ⟨errThr, _, h⟩ := bind_eq_ok.mp h
  obtain ⟨st, hloop, h⟩ := bind_eq_ok.mp h
  cases h
  have hprogress : Progress design prepared prepared.count st := by
    apply Lib.foldlM_range_induct (I := Progress design prepared)
      (progress_zero hinput houtput) _ hloop
    intro k st st' _ hst hok
    exact subTestCase_spec hsame hst hok
  exact hprogress.cases

/-- What the settings of a case have to be for `_get_sub_test_cases` to go through. -/
structure SettingsValid (env : DesignEnv) (design : SubCaseDesign) : Prop where
  op : ∃ op, design.jsonObj.getItem OP = .ok op
  expect : ∃ r, SubCaseDesign.checkExpectOutputParam env design.currentJsonPath design.jsonObj
    = .ok r
  errThr : ∃ r, SubCaseDesign.checkSetErrorThreshold design.jsonObj = .ok r

/-- Turn `k` can take the descriptions at `use`. -/
def CanTake (jsonObj : PyVal) (key : String) (orig : List (List Desc)) (k use : Nat) : Prop :=
  ∀ i l₀, orig[i]? = some l₀ → use < l₀.length ∧
    ∀ name, nameOf jsonObj key i = .ok name → name.truthy → k < l₀.length

/-- The fields that the name of a case is made of. -/
structure Nominal (ms : Bool) (desc : Desc) : Prop where
  type : HasText desc "type"
  format : ms = false → HasText desc "format"

/-- A name keeps what the case name is made of. -/
theorem nominal_named {ms : Bool} {desc : Desc} (h : Nominal ms desc) (name : PyVal) :
    Nominal ms (named name desc) := by
  have hkeep : ∀ key, key ≠ "name" → HasText desc key → HasText (named name desc) key := by
    intro key hkey htext
    unfold named
    split
    · exact htext.set_ne hkey name
    · exact htext
  exact ⟨hkeep "type" (by decide) h.type, fun hms => hkeep "format" (by decide) (h.format hms)⟩

/-- The case name can be made. -/
theorem caseNameOf_ok {ms : Bool} {desc : Desc} (h : Nominal ms desc) (casePrefix : String)
    (caseIdx : Nat) : ∃ caseName, caseNameOf ms casePrefix caseIdx desc = .ok caseName := by
  obtain ⟨typeStr, htype⟩ := h.type
  unfold caseNameOf
  cases ms with
  | true =>
      rw [htype]
      exact ⟨_, rfl⟩
  | false =>
      obtain ⟨formatStr, hformat⟩ := h.format rfl
      rw [hformat, htype]
      exact ⟨_, rfl⟩

/-- A mode that has been read is there. -/
theorem stModeOf_ok {jsonObj : PyVal} {ms : Bool} (h : isMs jsonObj = .ok ms) :
    ∃ stMode, stModeOf ms jsonObj = .ok stMode := by
  cases ms with
  | false => exact ⟨none, rfl⟩
  | true =>
      cases jsonObj with
      | dict d =>
          have hmode : ((d.lookup ST_MODE).getD .none).isStr "ms_python_train" = true :=
            Except.ok.inj h
          cases hlookup : d.lookup ST_MODE with
          | none =>
              rw [hlookup] at hmode
              cases hmode
          | some v =>
              refine ⟨some v, ?_⟩
              simp only [stModeOf, PyVal.getItem, hlookup, if_true]
              rfl
      | _ => cases h

/-- When a turn does not raise. -/
theorem subTestCase_ok {ms : Bool} {k use : Nat} {st : LoopState} {pyfile : Option String}
    {function errThr : PyVal} (hms : isMs design.jsonObj = .ok ms)
    (hop : ∃ op, design.jsonObj.getItem OP = .ok op) (hsame : SameLength prepared.output n)
    (hnominal : ∀ row ∈ prepared.output, ∀ desc ∈ row, Nominal ms desc)
    (hinput : CanTake design.jsonObj INPUT_DESC prepared.input k k)
    (huse : outputIndex prepared.output k = .ok use)
    (houtput : CanTake design.jsonObj OUTPUT_DESC prepared.output k use)
    (h : Progress design prepared k st) :
    ∃ st', subTestCase prepared pyfile function errThr st k = .ok st' := by
  obtain ⟨op, hop⟩ := hop
  obtain ⟨stMode, hstMode⟩ := stModeOf_ok hms
  obtain ⟨⟨inputDesc, input⟩, htakeIn⟩ := takeDescs_ok h.input hinput
  obtain ⟨⟨outputDesc, output⟩, htakeOut⟩ := takeDescs_ok h.output houtput
  have hdrawn := (takeDescs_spec h.output (outputIndex_over hsame huse) htakeOut).2
  -- The first output gives the case its name.
  have hzero : 0 < prepared.output.length := List.length_pos_iff.mpr hsame.1
  obtain ⟨name, d₀, _, hd₀, _, hfirst⟩ := hdrawn.row 0 _ (List.getElem?_eq_getElem hzero)
  have hfirst' : Lib.first outputDesc = .ok (named name d₀) := by
    cases outputDesc with
    | nil => cases hfirst
    | cons desc rest =>
        rw [List.getElem?_cons_zero, Option.some.injEq] at hfirst
        rw [hfirst]
        rfl
  have hnominal' : Nominal ms (named name d₀) :=
    nominal_named (hnominal _ (List.getElem_mem hzero) d₀ (List.mem_of_getElem? hd₀)) name
  obtain ⟨caseName, hcaseName⟩ :=
    caseNameOf_ok hnominal' prepared.casePrefix st.design.caseIdx
  unfold subTestCase
  dsimp only
  rw [h.jsonObj, hms, outputIndex_untaken h.output hsame]
  simp only [hop, hstMode, htakeIn, huse, htakeOut, hfirst', hcaseName, bind, Except.bind, pure,
    Except.pure]
  exact ⟨_, rfl⟩

/-- **When a run does not raise.** -/
theorem getSubTestCases_ok {ms : Bool} (hms : isMs design.jsonObj = .ok ms)
    (hsettings : SettingsValid env design)
    (hinput : Nameable design.jsonObj INPUT_DESC prepared.input)
    (houtput : Nameable design.jsonObj OUTPUT_DESC prepared.output)
    (hsame : SameLength prepared.output n)
    (hnominal : ∀ row ∈ prepared.output, ∀ desc ∈ row, Nominal ms desc)
    (htake : ∀ k, k < prepared.count →
      CanTake design.jsonObj INPUT_DESC prepared.input k k ∧
      ∃ use, outputIndex prepared.output k = .ok use ∧
        CanTake design.jsonObj OUTPUT_DESC prepared.output k use) :
    ∃ design', getSubTestCases env design prepared = .ok design' := by
  obtain ⟨⟨pyfile, function⟩, hexpect⟩ := hsettings.expect
  obtain ⟨errThr, herrThr⟩ := hsettings.errThr
  obtain ⟨st, hloop, _⟩ := Lib.foldlM_range_ok (I := Progress design prepared)
    (f := subTestCase prepared pyfile function errThr)
    (progress_zero hinput houtput) (n := prepared.count) (by
      intro k st hk hst
      obtain ⟨htakeIn, use, huse, htakeOut⟩ := htake k hk
      obtain ⟨st', hst'⟩ :=
        subTestCase_ok hms hsettings.op hsame hnominal htakeIn huse htakeOut hst
      exact ⟨st', hst', subTestCase_spec hsame hst hst'⟩)
  refine ⟨st.design, ?_⟩
  unfold getSubTestCases
  simp only [hexpect, herrThr, hloop, bind, Except.bind, pure, Except.pure]

/-- A run that makes a case has read its settings. -/
theorem settingsValid_of_ok (h : getSubTestCases env design prepared = .ok design')
    (hinput : Nameable design.jsonObj INPUT_DESC prepared.input)
    (houtput : Nameable design.jsonObj OUTPUT_DESC prepared.output)
    (hsame : SameLength prepared.output n) (hcount : 0 < prepared.count) :
    SettingsValid env design := by
  unfold getSubTestCases at h
  obtain ⟨⟨pyfile, function⟩, hexpect, h⟩ := bind_eq_ok.mp h
  obtain ⟨errThr, herrThr, h⟩ := bind_eq_ok.mp h
  obtain ⟨st, hloop, _⟩ := bind_eq_ok.mp h
  refine ⟨?_, ⟨_, hexpect⟩, ⟨_, herrThr⟩⟩
  -- The invariant: once a turn is over, the operator has been read.
  have hop : Progress design prepared prepared.count st ∧
      (0 < prepared.count → ∃ op, design.jsonObj.getItem OP = .ok op) := by
    apply Lib.foldlM_range_induct
      (I := fun k st => Progress design prepared k st ∧
        (0 < k → ∃ op, design.jsonObj.getItem OP = .ok op))
      ⟨progress_zero hinput houtput, fun h => absurd h (Nat.lt_irrefl 0)⟩ _ hloop
    intro k st st' _ hst hok
    refine ⟨subTestCase_spec hsame hst.1 hok, fun _ => ?_⟩
    unfold subTestCase at hok
    obtain ⟨_, _, hok⟩ := bind_eq_ok.mp hok
    obtain ⟨op, hop, _⟩ := bind_eq_ok.mp hok
    rw [hst.1.jsonObj] at hop
    exact ⟨op, hop⟩
  exact hop.2 hcount

end Run

end SubCaseDesignCross

end HwEfat.Main
