/-
  HwEfat.Main.SubCaseDesign.Generates — what the generation of the sub-cases of one case
  adds.

  Either design only appends: cases to the total list, and their reports to the report.
  `Generates` says this together with what each of the new cases satisfies; it composes
  (`Generates.trans`), so the loops of both designs are read one case at a time.
-/
import HwEfat.Main.SubCaseDesign.Loop
import HwEfat.Main.SubCaseDesign.Fuzz

namespace HwEfat.Main

open HwEfat.Lib (PyError PyVal PyDict bind_eq_ok foldlM_keeps getElem?_of_mapM exists_of_mapM)

/-- The report of a case, as `_add_case_to_total_case` makes it. -/
def SubCase.reportOf (case : SubCase) : OpSTCaseReport :=
  OpSTCaseReport.ofTrace { stCaseInfo := { caseName := case.caseName, opParams := case.toPyVal } }

/-- The second design has the cases of the first one and further ones, each of which
satisfies `Q` at its index. -/
structure Generates (Q : Nat → SubCase → Prop) (design design' : SubCaseDesign) : Prop where
  jsonObj : design'.jsonObj = design.jsonObj
  currentJsonPath : design'.currentJsonPath = design.currentJsonPath
  cases : ∃ cases, design'.totalCaseList = design.totalCaseList ++ cases ∧
    design'.report =
      { design.report with reportList := design.report.reportList ++ cases.map SubCase.reportOf } ∧
    design'.caseIdx = design.caseIdx + cases.length ∧
    ∀ k case, cases[k]? = some case → Q (design.caseIdx + k) case

/-! ## §1. Composition. -/

section Generates

variable {Q R : Nat → SubCase → Prop} {design design₁ design' : SubCaseDesign}

/-- Nothing is generated. -/
theorem Generates.refl (design : SubCaseDesign) (keys : List String) :
    Generates Q design { design with attrRequiredKeys := keys } where
  jsonObj := rfl
  currentJsonPath := rfl
  cases := by
    refine ⟨[], by simp, by simp, rfl, ?_⟩
    intro k case hcase
    simp at hcase

/-- One design after the other. -/
theorem Generates.trans (h : Generates Q design design₁) (h' : Generates Q design₁ design') :
    Generates Q design design' where
  jsonObj := h'.jsonObj.trans h.jsonObj
  currentJsonPath := h'.currentJsonPath.trans h.currentJsonPath
  cases := by
    obtain ⟨cases, htotal, hreport, hidx, hQ⟩ := h.cases
    obtain ⟨cases', htotal', hreport', hidx', hQ'⟩ := h'.cases
    -- The cases of the second part are numbered on from those of the first.
    refine ⟨cases ++ cases', ?_, ?_, ?_, ?_⟩
    · rw [htotal', htotal, List.append_assoc]
    · rw [hreport', hreport, List.map_append, List.append_assoc]
    · rw [hidx', hidx, List.length_append]
      omega
    · intro k case hcase
      by_cases hk : k < cases.length
      · rw [List.getElem?_append_left hk] at hcase
        exact hQ k case hcase
      · rw [List.getElem?_append_right (by omega)] at hcase
        have hshift : design₁.caseIdx + (k - cases.length) = design.caseIdx + k := by omega
        exact hshift ▸ hQ' (k - cases.length) case hcase

/-- What holds of the cases may be weakened. -/
theorem Generates.imp (h : Generates Q design design') (hQR : ∀ idx case, Q idx case → R idx case) :
    Generates R design design' where
  jsonObj := h.jsonObj
  currentJsonPath := h.currentJsonPath
  cases := by
    obtain ⟨cases, htotal, hreport, hidx, hQ⟩ := h.cases
    exact ⟨cases, htotal, hreport, hidx, fun k case hcase => hQR _ case (hQ k case hcase)⟩

/-- One case, whatever its expected output is computed with. -/
theorem Generates.add {case : SubCase} {pyfile : Option String} {function errThr : PyVal}
    (hQ : ∀ expect, Q design.caseIdx { case with expect := expect }) :
    Generates Q design (design.addCaseToTotalCase case pyfile function errThr) where
  jsonObj := rfl
  currentJsonPath := rfl
  cases := by
    refine ⟨[case.parseExpectOutputParam pyfile function errThr], rfl, rfl, rfl, ?_⟩
    intro k case' hcase
    cases k with
    | succ k => simp at hcase
    | zero =>
        rw [List.getElem?_cons_zero, Option.some.injEq] at hcase
        subst hcase
        unfold SubCase.parseExpectOutputParam
        split
        · split
          · exact hQ _
          · exact hQ case.expect
        · exact hQ case.expect

/-- A loop that generates at every turn. -/
theorem Generates.foldlM {α : Type} {f : SubCaseDesign → α → Except PyError SubCaseDesign}
    {l : List α}
    (hstep : ∀ a ∈ l, ∀ d d', d.jsonObj = design.jsonObj →
      d.currentJsonPath = design.currentJsonPath → f d a = .ok d' → Generates Q d d')
    (h : l.foldlM f design = .ok design') : Generates Q design design' := by
  apply foldlM_keeps (I := Generates Q design) _ (Generates.refl design design.attrRequiredKeys) h
  intro a ha d d' hd hf
  exact hd.trans (hstep a ha d d' hd.jsonObj hd.currentJsonPath hf)

/-- The cases that the second design has besides. -/
def newCases (design design' : SubCaseDesign) : List SubCase :=
  design'.totalCaseList.drop design.totalCaseList.length

/-- The new cases are those behind the old ones. -/
theorem newCases_eq {cases : List SubCase}
    (h : design'.totalCaseList = design.totalCaseList ++ cases) :
    newCases design design' = cases := by
  unfold newCases
  rw [h, List.drop_left]

/-- Nothing is new. -/
theorem newCases_self (design : SubCaseDesign) : newCases design design = [] :=
  newCases_eq (List.append_nil _).symm

/-- The new cases of one design after the other. -/
theorem Generates.newCases_trans (h : Generates Q design design₁)
    (h' : Generates R design₁ design') :
    newCases design design' = newCases design design₁ ++ newCases design₁ design' := by
  obtain ⟨cases, htotal, -⟩ := h.cases
  obtain ⟨cases', htotal', -⟩ := h'.cases
  rw [newCases_eq htotal, newCases_eq htotal']
  apply newCases_eq
  rw [htotal', htotal, List.append_assoc]

/-- What holds of every new case. -/
theorem Generates.of_mem_newCases (h : Generates Q design design') {case : SubCase}
    (hcase : case ∈ newCases design design') : ∃ idx, Q idx case := by
  obtain ⟨cases, htotal, -, -, hQ⟩ := h.cases
  rw [newCases_eq htotal] at hcase
  obtain ⟨k, hk⟩ := List.getElem?_of_mem hcase
  exact ⟨_, hQ k case hk⟩

/-- Exactly one case. -/
theorem Generates.newCases_one (h : Generates Q design design')
    (hone : design'.caseIdx = design.caseIdx + 1) :
    ∃ case, newCases design design' = [case] ∧ Q design.caseIdx case := by
  obtain ⟨cases, htotal, -, hidx, hQ⟩ := h.cases
  have hlength : cases.length = 1 := by omega
  obtain ⟨case, rfl⟩ := List.length_eq_one_iff.mp hlength
  exact ⟨case, newCases_eq htotal, hQ 0 case rfl⟩

end Generates

/-- A case has the name that its first output gives it at its index, and all its
descriptions have `D`. -/
structure CaseMade (D : Desc → Prop) (nameOf : Nat → Desc → Except PyError String) (idx : Nat)
    (case : SubCase) : Prop where
  input : ∀ desc ∈ case.inputDesc, D desc
  output : ∀ desc ∈ case.outputDesc, D desc
  name : ∃ first, Lib.first case.outputDesc = .ok first ∧ nameOf idx first = .ok case.caseName

/-! ## §2. Cases by crossing. -/

namespace SubCaseDesignCross

section Cross

variable {D : Desc → Prop} {env : DesignEnv} {prepared : Prepared}

/-- Descriptions are named, taken and put back. -/
theorem takeDescs_all (hnamed : ∀ desc name, D desc → D (desc.set "name" name))
    {jsonObj : PyVal} {key : String} {index use : Nat} {rows rows' : List (List Desc)}
    {descs : List Desc} (hrows : ∀ row ∈ rows, ∀ desc ∈ row, D desc)
    (h : takeDescs jsonObj key index use rows = .ok (descs, rows')) :
    (∀ desc ∈ descs, D desc) ∧ ∀ row ∈ rows', ∀ desc ∈ row, D desc := by
  unfold takeDescs at h
  obtain ⟨taken, htaken, h⟩ := bind_eq_ok.mp h
  have hunzip : taken.unzip = (descs, rows') := Except.ok.inj h
  rw [List.unzip_eq_map] at hunzip
  cases hunzip
  have heach : ∀ e ∈ taken, D e.1 ∧ ∀ desc ∈ e.2, D desc := by
    intro ⟨desc, row'⟩ he
    obtain ⟨i, hi⟩ := List.getElem?_of_mem he
    obtain ⟨⟨row, pos⟩, hrow, htake⟩ := exists_of_mapM htaken hi
    have hmem : row ∈ rows := by
      rw [List.getElem?_zipIdx, Option.map_eq_some_iff] at hrow
      obtain ⟨_, hrow, heq⟩ := hrow
      cases heq
      exact List.mem_of_getElem? hrow
    obtain ⟨name, hname, htake'⟩ := bind_eq_ok.mp htake
    obtain ⟨hupdate, hdesc⟩ := (takeDesc_eq_ok hname).mp htake
    -- Taking a description may give it a name, in its row too.
    have hrow' : ∀ desc ∈ row', D desc := by
      rcases updateName_eq_ok.mp hupdate with ⟨-, rfl⟩ | ⟨htruthy, d, hd, rfl⟩
      · exact hrows row' hmem
      · intro x hx
        rcases List.mem_or_eq_of_mem_set hx with hx | rfl
        · exact hrows row hmem x hx
        · unfold named
          rw [if_pos htruthy]
          exact hnamed d name (hrows row hmem d (List.mem_of_getElem? hd))
    exact ⟨hrow' desc (List.mem_of_getElem? hdesc), hrow'⟩
  constructor
  · intro desc hdesc
    obtain ⟨e, he, rfl⟩ := List.mem_map.mp hdesc
    exact (heach e he).1
  · intro row hrow
    obtain ⟨e, he, rfl⟩ := List.mem_map.mp hrow
    exact (heach e he).2

/-- `kind` of the names of the cases. -/
def kindOf (ms : Bool) (descs : Descs) : String :=
  if !descs.multi then "case_" else if ms then "sub_" else "sub_case_"

/-- What is prepared, and from what. -/
structure PreparedFrom (env : DesignEnv) (design : SubCaseDesign) (descs : Descs) (ms : Bool)
    (caseName : String) (prepared : Prepared) : Prop where
  made : makeDescs env design.currentJsonPath design.jsonObj = .ok descs
  attrs : SubCaseDesign.checkAttrValid design.jsonObj design.attrRequiredKeys
    = .ok (prepared.attrList, prepared.attrRequiredKeys)
  input : crossTensors descs.inputDescList descs.inputCrossList = .ok prepared.input
  output : crossTensors descs.outputDescList descs.outputCrossList = .ok prepared.output
  mode : isMs design.jsonObj = .ok ms
  name : design.jsonObj.get CASE_NAME = .ok (.str caseName)
  casePrefix : prepared.casePrefix = replaceSlash caseName ++ "_" ++ kindOf ms descs

/-- Where the prepared lists come from. -/
theorem prepare_inv {design : SubCaseDesign} (h : prepare env design = .ok prepared) :
    ∃ descs ms caseName, PreparedFrom env design descs ms caseName prepared := by
  unfold prepare at h
  obtain ⟨descs, hdescs, h⟩ := bind_eq_ok.mp h
  obtain ⟨⟨attrList, attrRequiredKeys⟩, hattrs, h⟩ := bind_eq_ok.mp h
  obtain ⟨_, _, h⟩ := bind_eq_ok.mp h
  obtain ⟨input, hinput, h⟩ := bind_eq_ok.mp h
  obtain ⟨output, houtput, h⟩ := bind_eq_ok.mp h
  obtain ⟨count, _, h⟩ := bind_eq_ok.mp h
  obtain ⟨ms, hms, h⟩ := bind_eq_ok.mp h
  obtain ⟨name, hname, h⟩ := bind_eq_ok.mp h
  split at h
  · next caseName =>
      cases h
      exact ⟨descs, ms, caseName, hdescs, hattrs, hinput, houtput, hms, hname, rfl⟩
  · cases h

/-- All descriptions that are still to be taken have `D`. -/
structure RowsHave (D : Desc → Prop) (st : LoopState) : Prop where
  input : ∀ row ∈ st.input, ∀ desc ∈ row, D desc
  output : ∀ row ∈ st.output, ∀ desc ∈ row, D desc

/-- A turn of the loop adds one case, with descriptions that were crossed. -/
theorem subTestCase_generates (hnamed : ∀ desc name, D desc → D (desc.set "name" name))
    {pyfile : Option String} {function errThr : PyVal} {st st' : LoopState} {k : Nat} {ms : Bool}
    (hms : isMs st.design.jsonObj = .ok ms) (hrows : RowsHave D st)
    (h : subTestCase prepared pyfile function errThr st k = .ok st') :
    RowsHave D st' ∧
      Generates (CaseMade D (caseNameOf ms prepared.casePrefix)) st.design st'.design ∧
      st'.design.attrRequiredKeys = st.design.attrRequiredKeys := by
  unfold subTestCase at h
  obtain ⟨ms', hms', h⟩ := bind_eq_ok.mp h
  obtain rfl : ms' = ms := Except.ok.inj (hms'.symm.trans hms)
  obtain ⟨op, _, h⟩ := bind_eq_ok.mp h
  obtain ⟨stMode, _, h⟩ := bind_eq_ok.mp h
  obtain ⟨⟨inputDesc, input⟩, hinput, h⟩ := bind_eq_ok.mp h
  obtain ⟨use, _, h⟩ := bind_eq_ok.mp h
  obtain ⟨⟨outputDesc, output⟩, houtput, h⟩ := bind_eq_ok.mp h
  obtain ⟨first, hfirst, h⟩ := bind_eq_ok.mp h
  obtain ⟨caseName, hname, h⟩ := bind_eq_ok.mp h
  cases h
  obtain ⟨hin, hrowsIn⟩ := takeDescs_all hnamed hrows.input hinput
  obtain ⟨hout, hrowsOut⟩ := takeDescs_all hnamed hrows.output houtput
  exact ⟨⟨hrowsIn, hrowsOut⟩, Generates.add fun _ => ⟨hin, hout, first, hfirst, hname⟩, rfl⟩

/-- **What `_get_sub_test_cases` generates.** -/
theorem getSubTestCases_generates (hnamed : ∀ desc name, D desc → D (desc.set "name" name))
    {design design' : SubCaseDesign} {ms : Bool} (hms : isMs design.jsonObj = .ok ms)
    (hinput : ∀ row ∈ prepared.input, ∀ desc ∈ row, D desc)
    (houtput : ∀ row ∈ prepared.output, ∀ desc ∈ row, D desc)
    (h : getSubTestCases env design prepared = .ok design') :
    Generates (CaseMade D (caseNameOf ms prepared.casePrefix)) design design' ∧
      design'.attrRequiredKeys = design.attrRequiredKeys := by
  unfold getSubTestCases at h
  obtain ⟨⟨pyfile, function⟩, _, h⟩ := bind_eq_ok.mp h
  obtain ⟨errThr, _, h⟩ := bind_eq_ok.mp h
  obtain ⟨st, hloop, h⟩ := bind_eq_ok.mp h
  cases h
  have hinv : RowsHave D st ∧
      Generates (CaseMade D (caseNameOf ms prepared.casePrefix)) design st.design ∧
      st.design.attrRequiredKeys = design.attrRequiredKeys := by
    -- The cases made so far, and that the rows that are left still have descriptions like `D`.
    apply foldlM_keeps (I := fun st : LoopState => RowsHave D st ∧
      Generates (CaseMade D (caseNameOf ms prepared.casePrefix)) design st.design ∧
      st.design.attrRequiredKeys = design.attrRequiredKeys) _ _ hloop
    · intro k _ st st' ⟨hrows, hgen, hkeys⟩ hstep
      have hms' : isMs st.design.jsonObj = .ok ms := by rw [hgen.jsonObj, hms]
      obtain ⟨hrows', hgen', hkeys'⟩ := subTestCase_generates hnamed hms' hrows hstep
      exact ⟨hrows', hgen.trans hgen', hkeys'.trans hkeys⟩
    · exact ⟨⟨hinput, houtput⟩, Generates.refl design design.attrRequiredKeys, rfl⟩
  exact hinv.2

/-- **What a design by crossing generates.** -/
theorem subcaseGenerate_generates (hnamed : ∀ desc name, D desc → D (desc.set "name" name))
    {design design' : SubCaseDesign} {descs : Descs} {ms : Bool} {caseName : String}
    (hprepared : PreparedFrom env design descs ms caseName prepared)
    (hinput : ∀ row ∈ prepared.input, ∀ desc ∈ row, D desc)
    (houtput : ∀ row ∈ prepared.output, ∀ desc ∈ row, D desc)
    (h : getSubTestCases env { design with attrRequiredKeys := prepared.attrRequiredKeys } prepared
      = .ok design') :
    Generates (CaseMade D (caseNameOf ms prepared.casePrefix)) design design' ∧
      design'.attrRequiredKeys = prepared.attrRequiredKeys := by
  have hms : isMs { design with attrRequiredKeys := prepared.attrRequiredKeys }.jsonObj = .ok ms :=
    hprepared.mode
  obtain ⟨hgen, hkeys⟩ := getSubTestCases_generates hnamed hms hinput houtput h
  exact ⟨(Generates.refl design prepared.attrRequiredKeys).trans hgen, hkeys⟩

end Cross

end SubCaseDesignCross

/-! ## §3. Cases by a fuzz function. -/

namespace SubCaseDesignFuzz

section Fuzz

variable {env : FuzzEnv} {settings : Settings} {design design' : SubCaseDesign}
  {oriJson oriJson' fuzzDict : PyVal}

/-- What one value of the fuzz function makes of the case. -/
structure FuzzStep (env : FuzzEnv) (settings : Settings) (fuzzDict : PyVal)
    (design design' : SubCaseDesign) (oriJson oriJson' : PyVal) (ms : Bool)
    (inputDesc outputDesc : List Desc) (described : PyVal) (attr : List PyVal) : Prop where
  mode : SubCaseDesignCross.isMs oriJson = .ok ms
  descs : makeDescsFuzz env design.currentJsonPath oriJson fuzzDict ms
    = .ok (inputDesc, outputDesc, described)
  attrs : checkAttrValidFuzz described fuzzDict design.attrRequiredKeys
    = .ok (attr, oriJson', design'.attrRequiredKeys)
  generates : Generates (fun idx case => case.inputDesc = inputDesc ∧
    case.outputDesc = outputDesc ∧ case.attr = attr ∧ ∃ first,
      Lib.first outputDesc = .ok first ∧
        caseNameOf ms settings.casePrefix idx first = .ok case.caseName) design design'
  one : design'.caseIdx = design.caseIdx + 1

/-- What one turn of a fuzz design does. -/
theorem fuzzCase_spec
    (h : fuzzCase env settings (design, oriJson) fuzzDict = .ok (design', oriJson')) :
    ∃ ms inputDesc outputDesc described attr, FuzzStep env settings fuzzDict design design'
      oriJson oriJson' ms inputDesc outputDesc described attr := by
  unfold fuzzCase at h
  obtain ⟨ms, hms, h⟩ := bind_eq_ok.mp h
  obtain ⟨⟨inputDesc, outputDesc, described⟩, hdescs, h⟩ := bind_eq_ok.mp h
  obtain ⟨⟨attr, oriJson₁, keys⟩, hattr, h⟩ := bind_eq_ok.mp h
  obtain ⟨first, hfirst, h⟩ := bind_eq_ok.mp h
  obtain ⟨caseName, hname, h⟩ := bind_eq_ok.mp h
  obtain ⟨op, _, h⟩ := bind_eq_ok.mp h
  cases h
  refine ⟨ms, inputDesc, outputDesc, described, attr, hms, hdescs, hattr, ?_, rfl⟩
  apply (Generates.refl design keys).trans
  exact Generates.add fun _ => ⟨rfl, rfl, rfl, first, hfirst, hname⟩

/-- **What one call of the fuzz function generates**, if every value keeps what is said of
the case as it is then. -/
theorem fuzzRound_generates {Q : Nat → SubCase → Prop} {I : SubCaseDesign → PyVal → Prop}
    {fuzzFunction : Nat → Except PyError PyVal} {round : Nat}
    (hstep : ∀ d d' ori ori' fuzzDict, d.jsonObj = design.jsonObj →
      d.currentJsonPath = design.currentJsonPath → I d ori →
      fuzzCase env settings (d, ori) fuzzDict = .ok (d', ori') →
        I d' ori' ∧ Generates Q d d')
    (hinit : I design design.jsonObj)
    (h : fuzzRound env settings fuzzFunction design round = .ok design') :
    Generates Q design design' ∧ ∃ ori, I design' ori := by
  unfold fuzzRound at h
  obtain ⟨fuzzReturn, _, h⟩ := bind_eq_ok.mp h
  obtain ⟨fuzzReturnList, _, h⟩ := bind_eq_ok.mp h
  obtain ⟨⟨d, ori⟩, hloop, h⟩ := bind_eq_ok.mp h
  cases h
  have hinv : Generates Q design design' ∧ I design' ori := by
    -- The loop goes over the fuzz values of the round.
    apply foldlM_keeps (I := fun st => Generates Q design st.1 ∧ I st.1 st.2) _
      ⟨Generates.refl design design.attrRequiredKeys, hinit⟩ hloop
    intro fuzzDict _ ⟨d, ori⟩ ⟨d', ori'⟩ ⟨hgen, hI⟩ hcase
    obtain ⟨hI', hgen'⟩ :=
      hstep d d' ori ori' fuzzDict hgen.jsonObj hgen.currentJsonPath hI hcase
    exact ⟨hgen.trans hgen', hI'⟩
  exact ⟨hinv.1, ori, hinv.2⟩

/-- The settings of an accepted case. -/
structure SettingsOf (env : FuzzEnv) (design : SubCaseDesign)
    (fuzzFunction : Nat → Except PyError PyVal) (loopNum : Nat) (settings : Settings) :
    Prop where
  fuzzFunction : checkFuzzValid env design.currentJsonPath design.jsonObj = .ok fuzzFunction
  loopNum : checkFuzzCaseNumValid design.jsonObj = .ok loopNum
  casePrefix : casePrefixOf design.jsonObj = .ok settings.casePrefix

/-- A fuzz design is its settings and its turns. -/
theorem subcaseGenerate_spec (h : subcaseGenerate env design = .ok design') :
    ∃ fuzzFunction loopNum settings, SettingsOf env design fuzzFunction loopNum settings ∧
      (List.range loopNum).foldlM (fuzzRound env settings fuzzFunction) design = .ok design' := by
  unfold subcaseGenerate at h
  obtain ⟨fuzzFunction, hfunction, h⟩ := bind_eq_ok.mp h
  obtain ⟨loopNum, hnum, h⟩ := bind_eq_ok.mp h
  obtain ⟨casePrefix, hprefix, h⟩ := bind_eq_ok.mp h
  obtain ⟨⟨pyfile, function⟩, _, h⟩ := bind_eq_ok.mp h
  obtain ⟨errThr, _, h⟩ := bind_eq_ok.mp h
  exact ⟨fuzzFunction, loopNum, _, ⟨hfunction, hnum, hprefix⟩, h⟩

end Fuzz

/-! ## §4. What a fuzz design changes of the case. -/

/-- The second value is the first one but for these keys. -/
def AgreeOff (keys : List String) (v v' : PyVal) : Prop :=
  v' = v ∨ ∃ d d', v = .dict d ∧ v' = .dict d' ∧ ∀ key ∉ keys, d'.lookup key = d.lookup key

section AgreeOff

variable {keys : List String} {key : String} {v v₁ v' a : PyVal}

/-- Nothing is changed. -/
theorem AgreeOff.refl (keys : List String) (v : PyVal) : AgreeOff keys v v := Or.inl rfl

/-- Twice, for the same keys. -/
theorem AgreeOff.trans (h : AgreeOff keys v v₁) (h' : AgreeOff keys v₁ v') :
    AgreeOff keys v v' := by
  rcases h with rfl | ⟨d, d₁, rfl, rfl, hd⟩
  · exact h'
  · rcases h' with rfl | ⟨e, d', heq, rfl, hd'⟩
    · exact Or.inr ⟨d, d₁, rfl, rfl, hd⟩
    · cases heq
      exact Or.inr ⟨d, d', rfl, rfl, fun key hkey => (hd' key hkey).trans (hd key hkey)⟩

/-- More keys may change. -/
theorem AgreeOff.mono {keys' : List String} (h : AgreeOff keys v v') (hsub : keys ⊆ keys') :
    AgreeOff keys' v v' := by
  rcases h with rfl | ⟨d, d', rfl, rfl, hd⟩
  · exact AgreeOff.refl keys' v'
  · exact Or.inr ⟨d, d', rfl, rfl, fun key hkey => hd key fun hmem => hkey (hsub hmem)⟩

/-- Another key is read as before with `get`. -/
theorem AgreeOff.get (h : AgreeOff keys v v') (hkey : key ∉ keys) : v'.get key = v.get key := by
  rcases h with rfl | ⟨d, d', rfl, rfl, hd⟩
  · rfl
  · simp only [PyVal.get, hd key hkey]

/-- And with `[]`. -/
theorem AgreeOff.getItem (h : AgreeOff keys v v') (hkey : key ∉ keys) :
    v'.getItem key = v.getItem key := by
  rcases h with rfl | ⟨d, d', rfl, rfl, hd⟩
  · rfl
  · simp only [PyVal.getItem, hd key hkey]

/-- Setting a key changes that key. -/
theorem agreeOff_setItem (h : setItem v key a = .ok v') : AgreeOff [key] v v' := by
  cases v with
  | dict d =>
      cases h
      refine Or.inr ⟨d, _, rfl, rfl, fun k hk => ?_⟩
      rw [PyDict.lookup_set, if_neg (by simpa using hk)]
  | _ => cases h

/-- The key that was set. -/
theorem getItem_setItem (h : setItem v key a = .ok v') : v'.getItem key = .ok a := by
  cases v with
  | dict d =>
      cases h
      simp only [PyVal.getItem, PyDict.lookup_set, if_true]
  | _ => cases h

end AgreeOff

/-- Filling in a placeholder changes its key. -/
theorem agreeOff_replaceFuzzParam {jsonObj jsonObj' fuzzDict : PyVal} {key paramType : String}
    (h : replaceFuzzParam jsonObj key paramType fuzzDict = .ok jsonObj') :
    AgreeOff [key] jsonObj jsonObj' := by
  unfold replaceFuzzParam at h
  obtain ⟨value, _, h⟩ := bind_eq_ok.mp h
  split at h
  · obtain ⟨name, _, h⟩ := bind_eq_ok.mp h
    obtain ⟨_, _, h⟩ := bind_eq_ok.mp h
    obtain ⟨result, _, h⟩ := bind_eq_ok.mp h
    exact agreeOff_setItem h
  · cases h
    exact AgreeOff.refl _ _

/-- Making the descriptions of one side changes that side. -/
theorem agreeOff_makeDescListFuzz {jsonObj jsonObj' : PyVal} {descType : String}
    {demanded : Bool} {makeDesc : String → PyVal → Except PyError (Desc × PyVal)}
    {descs : List Desc}
    (h : makeDescListFuzz jsonObj descType demanded makeDesc = .ok (descs, jsonObj')) :
    AgreeOff [descType] jsonObj jsonObj' := by
  unfold makeDescListFuzz at h
  obtain ⟨value, _, h⟩ := bind_eq_ok.mp h
  obtain ⟨n, _, h⟩ := bind_eq_ok.mp h
  split at h
  · obtain ⟨_, _, h⟩ := bind_eq_ok.mp h
    cases h
    exact AgreeOff.refl _ _
  · obtain ⟨l, _, h⟩ := bind_eq_ok.mp h
    obtain ⟨made, _, h⟩ := bind_eq_ok.mp h
    obtain ⟨jsonObj₁, hset, h⟩ := bind_eq_ok.mp h
    cases h
    exact agreeOff_setItem hset

/-- Making all of them changes the inputs and outputs. -/
theorem agreeOff_makeDescsFuzz {env : FuzzEnv} {jsonPath : String}
    {oriJson fuzzDict described : PyVal} {ms : Bool} {inputDesc outputDesc : List Desc}
    (h : makeDescsFuzz env jsonPath oriJson fuzzDict ms = .ok (inputDesc, outputDesc, described)) :
    AgreeOff [INPUT_DESC, OUTPUT_DESC] oriJson described := by
  unfold makeDescsFuzz at h
  obtain ⟨⟨input, json₁⟩, hinput, h⟩ := bind_eq_ok.mp h
  obtain ⟨⟨output, json₂⟩, houtput, h⟩ := bind_eq_ok.mp h
  cases h
  exact ((agreeOff_makeDescListFuzz hinput).mono (by simp)).trans
    ((agreeOff_makeDescListFuzz houtput).mono (by simp))

end SubCaseDesignFuzz

end HwEfat.Main
