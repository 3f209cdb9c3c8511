/-
  HwEfat.Main.AclOpJson.Unchanged — what the content of `acl_op.json` leaves of the test
  cases.

  An attribute of the type `data_type` whose value has a name in `acl_op.json` gets this name
  for its value, in the case itself and so in every case that has the attribute.  Once it has,
  it is left alone; nothing else of a case is written.

  Main result: `readOnly_iff`.
-/
import HwEfat.Lib.Frame
import HwEfat.Main.AclOpJson.Def

namespace HwEfat.Main

open HwEfat.Lib (Heap PyError PyVal PyDict PyM)

namespace AclOpJson

open DataGenerator (DataEnv DataState field generate)

/-! ## §1. An attribute that is converted. -/

/-- The type is `data_type`, and the value has a name in `acl_op.json`. -/
def Convertible (attr : Attr) : Prop :=
  field attr "type" = .str "data_type" ∧
    ∃ v, field attr VALUE = .str v ∧ (ATTR_TYPE_SUPPORT_TYPE_MAP.lookup v).isSome = true

/-- The attribute with the name for its value. -/
def Converted (attr attr' : Attr) : Prop :=
  field attr "type" = .str "data_type" ∧
    ∃ v dt, field attr VALUE = .str v ∧ ATTR_TYPE_SUPPORT_TYPE_MAP.lookup v = some dt ∧
      attr' = attr.set VALUE (.str dt)

section Attrs

variable {attr attr' : Attr}

theorem isStr_iff {s : String} {v : PyVal} : v.isStr s = true ↔ v = .str s := by
  cases v with
  | str t =>
      show (t == s) = true ↔ PyVal.str t = .str s
      rw [beq_iff_eq, PyVal.str.injEq]
  | _ => exact iff_of_false (fun h => nomatch h) fun h => nomatch h

/-- No name is a value that has a name. -/
theorem lookup_supportType {v dt : String} (h : ATTR_TYPE_SUPPORT_TYPE_MAP.lookup v = some dt) :
    ATTR_TYPE_SUPPORT_TYPE_MAP.lookup dt = none := by
  have hall : ∀ e ∈ ATTR_TYPE_SUPPORT_TYPE_MAP, ATTR_TYPE_SUPPORT_TYPE_MAP.lookup e.2 = none := by
    decide
  have hmem : (v, dt) ∈ ATTR_TYPE_SUPPORT_TYPE_MAP := by
    obtain ⟨l₁, l₂, hsplit, _⟩ := List.lookup_eq_some_iff.mp h
    rw [hsplit]
    exact List.mem_append_right _ List.mem_cons_self
  exact hall (v, dt) hmem

theorem Converted.value (h : Converted attr attr') :
    ∃ dt, field attr' VALUE = .str dt ∧ ATTR_TYPE_SUPPORT_TYPE_MAP.lookup dt = none := by
  obtain ⟨_, v, dt, _, hlookup, rfl⟩ := h
  refine ⟨dt, ?_, lookup_supportType hlookup⟩
  unfold field
  rw [PyDict.lookup_set, if_pos rfl]
  rfl

theorem Converted.not_convertible (h : Converted attr attr') : ¬ Convertible attr' := by
  rintro ⟨_, v, hv, hsome⟩
  obtain ⟨dt, hdt, hnone⟩ := h.value
  cases hv.symm.trans hdt
  rw [hnone] at hsome
  cases hsome

theorem Converted.convertible (h : Converted attr attr') : Convertible attr := by
  obtain ⟨htype, v, dt, hv, hlookup, _⟩ := h
  exact ⟨htype, v, hv, by rw [hlookup]; rfl⟩

theorem Converted.ne (h : Converted attr attr') : attr' ≠ attr := by
  rintro rfl
  exact h.not_convertible h.convertible

end Attrs

/-! ## §2. What a program leaves of the attributes. -/

section States

variable {α : Type} {ref : Nat} {s s' s₁ : AclState α}

/-- The attribute behind the reference is one that is converted. -/
def ConvertibleAt (s : AclState α) (ref : Nat) : Prop :=
  ∃ attr, s.attrs.read ref = some attr ∧ Convertible attr

/-- The attribute behind the reference has been converted. -/
def ConvertedAt (s s' : AclState α) (ref : Nat) : Prop :=
  ∃ attr attr', s.attrs.read ref = some attr ∧ Converted attr attr' ∧
    s'.attrs.read ref = some attr'

/-- Every attribute is as it was, or it has been converted. -/
def Kept (s s' : AclState α) : Prop :=
  ∀ ref, s'.attrs.read ref = s.attrs.read ref ∨ ConvertedAt s s' ref

theorem ConvertedAt.kept (h : ConvertedAt s s₁ ref) (hkept : Kept s₁ s') :
    ConvertedAt s s' ref := by
  obtain ⟨attr, attr', hread, hconv, hread'⟩ := h
  rcases hkept ref with hsame | ⟨attr₁, attr₂, hread₁, hconv₁, _⟩
  · exact ⟨attr, attr', hread, hconv, hsame.trans hread'⟩
  · cases hread'.symm.trans hread₁
    exact absurd hconv₁.convertible hconv.not_convertible

theorem ConvertedAt.of_same (h : ConvertedAt s₁ s' ref)
    (hsame : s₁.attrs.read ref = s.attrs.read ref) : ConvertedAt s s' ref := by
  obtain ⟨attr, attr', hread, hconv, hread'⟩ := h
  exact ⟨attr, attr', hsame.symm.trans hread, hconv, hread'⟩

theorem ConvertedAt.ne (h : ConvertedAt s s' ref) :
    s'.attrs.read ref ≠ s.attrs.read ref := by
  obtain ⟨attr, attr', hread, hconv, hread'⟩ := h
  intro hsame
  exact hconv.ne (Option.some.inj (hread'.symm.trans (hsame.trans hread)))

theorem Kept.refl (s : AclState α) : Kept s s := fun _ => Or.inl rfl

theorem Kept.trans (s s₁ s' : AclState α) (h : Kept s s₁) (h' : Kept s₁ s') : Kept s s' := by
  intro ref
  rcases h ref with hsame | hconv
  · rcases h' ref with hsame' | hconv'
    · exact Or.inl (hsame'.trans hsame)
    · exact Or.inr (hconv'.of_same hsame)
  · exact Or.inr (hconv.kept h')

theorem convertibleAt_congr (h : s'.attrs.read ref = s.attrs.read ref) :
    ConvertibleAt s' ref ↔ ConvertibleAt s ref := by
  unfold ConvertibleAt
  rw [h]

end States

/-! ## §3. Descriptions. -/

section Descs

variable {α : Type} {env : AclEnv α} {out caseName : String} {index : Nat}

/-- No attribute is different. -/
def SameAttrs (s s' : AclState α) : Prop := s'.attrs = s.attrs

theorem SameAttrs.refl (s : AclState α) : SameAttrs s s := rfl

theorem SameAttrs.trans (s s₁ s' : AclState α) (h : SameAttrs s s₁) (h' : SameAttrs s₁ s') :
    SameAttrs s s' :=
  Eq.trans h' h

theorem SameAttrs.kept {s s' : AclState α} (h : SameAttrs s s') : Kept s s' := by
  intro ref
  left
  rw [h]

theorem keeps_constValue {desc : Desc} :
    (constValue env desc out caseName index).Keeps SameAttrs := by
  unfold constValue
  refine PyM.keeps_ite (fun _ => ?_) fun _ => ?_
  · split
    · refine (PyM.keeps_lift SameAttrs.refl _).bind SameAttrs.trans fun _ => ?_
      refine (PyM.keeps_read SameAttrs.refl).bind SameAttrs.trans fun s => ?_
      refine (PyM.keeps_lift SameAttrs.refl _).bind SameAttrs.trans fun _ => ?_
      exact (PyM.keeps_lift SameAttrs.refl _).bind SameAttrs.trans fun _ =>
        PyM.keeps_pure SameAttrs.refl _
    · exact (PyM.keeps_lift SameAttrs.refl _).bind SameAttrs.trans fun _ =>
        PyM.keeps_pure SameAttrs.refl _
  · refine (PyM.keeps_lift SameAttrs.refl _).bind SameAttrs.trans fun range => ?_
    split
    · refine (PyM.keeps_lift SameAttrs.refl _).bind SameAttrs.trans fun data => ?_
      -- The value goes to a file.
      refine (PyM.keeps_lift SameAttrs.refl _).bind SameAttrs.trans fun _ => ?_
      refine (PyM.keeps_lift SameAttrs.refl _).bind SameAttrs.trans fun _ => ?_
      refine PyM.Keeps.bind SameAttrs.trans (fun s => rfl) fun _ => ?_
      exact (PyM.keeps_lift SameAttrs.refl _).bind SameAttrs.trans fun _ =>
        PyM.keeps_pure SameAttrs.refl _
    · exact PyM.keeps_lift SameAttrs.refl _

theorem keeps_getDescDic {descs : List Desc} {names : List PyVal} :
    (getDescDic env out caseName index descs names).Keeps SameAttrs := by
  induction descs generalizing index names with
  | nil => exact PyM.keeps_pure SameAttrs.refl _
  | cons desc rest ih =>
      refine PyM.Keeps.bind SameAttrs.trans ?_ fun _ =>
        ih.bind SameAttrs.trans fun _ => PyM.keeps_pure SameAttrs.refl _
      unfold getDesc addConstInfoInAclJson
      refine PyM.Keeps.bind SameAttrs.trans ?_ fun res =>
        (PyM.keeps_lift SameAttrs.refl _).bind SameAttrs.trans fun _ =>
          PyM.keeps_pure SameAttrs.refl _
      split
      · exact keeps_constValue.bind SameAttrs.trans fun _ => PyM.keeps_pure SameAttrs.refl _
      · exact PyM.keeps_pure SameAttrs.refl _

/-- **The descriptions leave the attributes alone.** -/
theorem keeps_getDescs {case : Testcase} : (getDescs env out case).Keeps SameAttrs :=
  keeps_getDescDic.bind SameAttrs.trans fun _ =>
    keeps_getDescDic.bind SameAttrs.trans fun _ => PyM.keeps_pure SameAttrs.refl _

end Descs

/-! ## §4. Attributes. -/

section Loop

variable {α : Type} {refs : List Nat} {ref : Nat} {s s' : AclState α}

theorem supportType_eq_ok {v : PyVal} {dt : String} (h : supportType v = .ok (some dt)) :
    ∃ value, v = .str value ∧ ATTR_TYPE_SUPPORT_TYPE_MAP.lookup value = some dt := by
  cases v with
  | str value => exact ⟨value, rfl, Except.ok.inj h⟩
  | _ => cases h

/-- A turn that converts the attribute. -/
theorem convertAttr_of_convertible (h : ConvertibleAt s ref) :
    ∃ s', convertAttr ref s = (.ok (), s') ∧ ConvertedAt s s' ref ∧ Kept s s' := by
  obtain ⟨attr, hread, htype, v, hvalue, hsome⟩ := h
  obtain ⟨dt, hlookup⟩ := Option.isSome_iff_exists.mp hsome
  have hattr : attrOf s.attrs ref = attr := by
    unfold attrOf
    rw [hread]
    rfl
  let s' : AclState α := { s with attrs := s.attrs.write ref (attr.set VALUE (.str dt)) }
  have hconv : ConvertedAt s s' ref := by
    refine ⟨attr, _, hread, ⟨htype, v, dt, hvalue, hlookup, rfl⟩, ?_⟩
    exact Heap.read_write_self (Heap.lt_size_of_read hread) _
  refine ⟨s', ?_, hconv, fun ref' => ?_⟩
  · unfold convertAttr
    rw [PyM.bind_apply, PyM.read_apply]
    dsimp only
    rw [hattr, if_pos (isStr_iff.mpr htype), PyM.bind_apply, PyM.lift_apply, hvalue]
    unfold supportType
    dsimp only
    rw [hlookup]
    rfl
  · by_cases hne : ref' = ref
    · subst hne
      exact Or.inr hconv
    · exact Or.inl (Heap.read_write_ne _ hne _)

/-- A turn that does not. -/
theorem convertAttr_of_not (h : ¬ ConvertibleAt s ref) : (convertAttr ref s).2 = s := by
  unfold convertAttr
  rw [PyM.bind_apply, PyM.read_apply]
  dsimp only
  by_cases htype : (field (attrOf s.attrs ref) "type").isStr "data_type" = true
  · rw [if_pos htype, PyM.bind_apply, PyM.lift_apply]
    cases hsupport : supportType (field (attrOf s.attrs ref) VALUE) with
    | error e => rfl
    | ok found =>
        cases found with
        | none => rfl
        | some dt =>
            obtain ⟨v, hvalue, hlookup⟩ := supportType_eq_ok hsupport
            refine absurd ?_ h
            cases hread : s.attrs.read ref with
            | none =>
                unfold attrOf at htype
                rw [hread] at htype
                cases htype
            | some attr =>
                unfold attrOf at htype hvalue
                rw [hread] at htype hvalue
                exact ⟨attr, hread, isStr_iff.mp htype, v, hvalue, by rw [hlookup]; rfl⟩
  · rw [if_neg htype]
    rfl

theorem keeps_convertAttr : (convertAttr ref : Acl α Unit).Keeps Kept := by
  intro s
  by_cases h : ConvertibleAt s ref
  · obtain ⟨s', hrun, _, hkept⟩ := convertAttr_of_convertible h
    rw [hrun]
    exact hkept
  · rw [convertAttr_of_not h]
    exact Kept.refl s

theorem keeps_convertAttrs : (convertAttrs refs : Acl α Unit).Keeps Kept := by
  induction refs with
  | nil => exact PyM.keeps_pure Kept.refl _
  | cons ref rest ih => exact keeps_convertAttr.bind Kept.trans fun _ => ih

/-- The loop over the attributes comes to a reference. -/
inductive ComesToAttr : List Nat → AclState α → Nat → Prop where
  | here {ref rest s} : ComesToAttr (ref :: rest) s ref
  | later {ref₁ rest s s₁ ref} (turn : convertAttr ref₁ s = (.ok (), s₁))
      (behind : ComesToAttr rest s₁ ref) : ComesToAttr (ref₁ :: rest) s ref

theorem ComesToAttr.mem (h : ComesToAttr refs s ref) : ref ∈ refs := by
  induction h with
  | here => exact List.mem_cons_self
  | later _ _ ih => exact List.mem_cons_of_mem _ ih

/-- A loop that ends comes to all of them. -/
theorem comesToAttr_of_ok (h : convertAttrs refs s = (.ok (), s')) (href : ref ∈ refs) :
    ComesToAttr refs s ref := by
  induction refs generalizing s with
  | nil => cases href
  | cons ref₁ rest ih =>
      obtain ⟨_, s₁, hturn, hrest⟩ := PyM.bind_eq_ok.mp h
      rcases List.mem_cons.mp href with rfl | hmem
      · exact .here
      · exact .later hturn (ih hrest hmem)

/-- An attribute that is still as it was is still to be converted, or it has been. -/
theorem Kept.convertible {s₁ : AclState α} (hkept : Kept s s₁) (h : ConvertibleAt s ref) :
    (ConvertibleAt s₁ ref ∧ s₁.attrs.read ref = s.attrs.read ref) ∨ ConvertedAt s s₁ ref := by
  rcases hkept ref with hsame | hconv
  · exact Or.inl ⟨(convertibleAt_congr hsame).mpr h, hsame⟩
  · exact Or.inr hconv

/-- **An attribute that the loop comes to is converted if it can be.** -/
theorem convertedAt_of_comesToAttr (hcomes : ComesToAttr refs s ref) (h : ConvertibleAt s ref) :
    ConvertedAt s (convertAttrs refs s).2 ref := by
  induction hcomes with
  | @here ref rest s =>
      obtain ⟨s₁, hrun, hconv, _⟩ := convertAttr_of_convertible h
      unfold convertAttrs
      rw [PyM.bind_apply, hrun]
      exact hconv.kept (keeps_convertAttrs s₁)
  | @later ref₁ rest s s₁ ref hturn _ ih =>
      have hkept : Kept s s₁ := by
        have hfirst : Kept s (convertAttr ref₁ s).2 := keeps_convertAttr s
        rw [hturn] at hfirst
        exact hfirst
      unfold convertAttrs
      rw [PyM.bind_apply, hturn]
      rcases hkept.convertible h with ⟨hstill, hsame⟩ | hconv
      · exact (ih hstill).of_same hsame
      · exact hconv.kept (keeps_convertAttrs s₁)

/-- **If it can convert none, the loop leaves them all alone.** -/
theorem convertAttrs_of_not (h : ∀ ref, ComesToAttr refs s ref → ¬ ConvertibleAt s ref) :
    (convertAttrs refs s).2 = s := by
  induction refs with
  | nil => rfl
  | cons ref rest ih =>
      have hfirst := convertAttr_of_not (h ref .here)
      unfold convertAttrs
      rw [PyM.bind_apply]
      cases hturn : convertAttr ref s with
      | mk result s₁ =>
          rw [hturn] at hfirst
          obtain rfl : s₁ = s := hfirst
          cases result with
          | error e => rfl
          | ok u => exact ih fun ref' hrest => h ref' (.later hturn hrest)

end Loop

/-! ## §5. The cases. -/

section Cases

variable {α : Type} {env : AclEnv α} {out : String} {case : Testcase} {cases : List Testcase}
  {content : List Entry} {compileFlag : Option PyVal} {ref : Nat} {s s' : AclState α}

/-- The loop over the cases comes to an attribute. -/
inductive ComesTo (env : AclEnv α) (out : String) :
    List Testcase → List Entry → AclState α → Nat → Prop where
  | here {case rest content s s₁ descs ref} (descs : getDescs env out case s = (.ok descs, s₁))
      (attr : ComesToAttr (case.attr.getD []) s₁ ref) :
      ComesTo env out (case :: rest) content s ref
  | later {case rest content content₁ s s₁ ref}
      (turn : addCase env out case content s = (.ok content₁, s₁))
      (behind : ComesTo env out rest content₁ s₁ ref) : ComesTo env out (case :: rest) content s ref

theorem ComesTo.mem (h : ComesTo env out cases content s ref) :
    ∃ case ∈ cases, ref ∈ case.attr.getD [] := by
  induction h with
  | here _ hattr => exact ⟨_, List.mem_cons_self, hattr.mem⟩
  | later _ _ ih =>
      obtain ⟨case, hcase, href⟩ := ih
      exact ⟨case, List.mem_cons_of_mem _ hcase, href⟩

/-- **A loop that ends comes to all attributes of all cases.** -/
theorem comesTo_iff_of_ok {content' : List Entry}
    (h : addCases env out cases content s = (.ok content', s')) :
    ComesTo env out cases content s ref ↔ ∃ case ∈ cases, ref ∈ case.attr.getD [] := by
  refine ⟨ComesTo.mem, ?_⟩
  rintro ⟨case, hcase, href⟩
  induction cases generalizing content s with
  | nil => cases hcase
  | cons case₁ rest ih =>
      obtain ⟨content₁, s₁, hturn, hrest⟩ := PyM.bind_eq_ok.mp h
      rcases List.mem_cons.mp hcase with rfl | hmem
      · obtain ⟨tmpDic, s₂, hdict, _⟩ := PyM.bind_eq_ok.mp hturn
        obtain ⟨descs, s₃, hdescs, hdict⟩ := PyM.bind_eq_ok.mp hdict
        obtain ⟨_, s₄, hattrs, _⟩ := PyM.bind_eq_ok.mp hdict
        exact .here hdescs (comesToAttr_of_ok hattrs href)
      · exact .later hturn (ih hrest hmem)

/-- What follows the attributes of a case in its turn writes nothing. -/
theorem addCase_state (env : AclEnv α) (out : String) (case : Testcase) (content : List Entry)
    (s : AclState α) :
    (addCase env out case content s).2 =
      match getDescs env out case s with
      | (.ok _, s₁) => (convertAttrs (case.attr.getD []) s₁).2
      | (.error _, s₁) => s₁ := by
  unfold addCase getTestcaseDict
  rw [PyM.bind_apply, PyM.bind_apply]
  cases getDescs env out case s with
  | mk result s₁ =>
      cases result with
      | error e => rfl
      | ok descs =>
          dsimp only
          rw [PyM.bind_apply]
          cases convertAttrs (case.attr.getD []) s₁ with
          | mk result s₂ =>
              cases result with
              | error e => rfl
              | ok u => rfl

theorem keeps_addCase : (addCase env out case content).Keeps Kept := by
  intro s
  rw [addCase_state]
  have hdescs : SameAttrs s (getDescs env out case s).2 := keeps_getDescs s
  split
  · next descs s₁ hrun =>
      rw [hrun] at hdescs
      exact Kept.trans _ _ _ hdescs.kept (keeps_convertAttrs s₁)
  · next e s₁ hrun =>
      rw [hrun] at hdescs
      exact hdescs.kept

theorem keeps_addCases : (addCases env out cases content).Keeps Kept := by
  induction cases generalizing content with
  | nil => exact PyM.keeps_pure Kept.refl _
  | cons case rest ih => exact keeps_addCase.bind Kept.trans fun _ => ih

/-- **An attribute that the loop comes to is converted if it can be.** -/
theorem convertedAt_of_comesTo (hcomes : ComesTo env out cases content s ref)
    (h : ConvertibleAt s ref) : ConvertedAt s (addCases env out cases content s).2 ref := by
  induction hcomes with
  | @here case rest content s s₁ descs ref hdescs hattr =>
      have hsame : SameAttrs s (getDescs env out case s).2 := keeps_getDescs s
      rw [hdescs] at hsame
      have hread : s₁.attrs.read ref = s.attrs.read ref := by rw [hsame]
      have hconv : ConvertedAt s (addCase env out case content s).2 ref := by
        rw [addCase_state, hdescs]
        exact (convertedAt_of_comesToAttr hattr ((convertibleAt_congr hread).mpr h)).of_same hread
      unfold addCases
      rw [PyM.bind_apply]
      cases hturn : addCase env out case content s with
      | mk result s₂ =>
          rw [hturn] at hconv
          cases result with
          | error e => exact hconv
          | ok content₁ => exact hconv.kept (keeps_addCases s₂)
  | @later case rest content content₁ s s₁ ref hturn _ ih =>
      have hkept : Kept s (addCase env out case content s).2 := keeps_addCase s
      rw [hturn] at hkept
      unfold addCases
      rw [PyM.bind_apply, hturn]
      rcases hkept.convertible h with ⟨hstill, hsame⟩ | hconv
      · exact (ih hstill).of_same hsame
      · exact hconv.kept (keeps_addCases s₁)

/-- **If it can convert none, the loop leaves them all alone.** -/
theorem addCases_of_not
    (h : ∀ ref, ComesTo env out cases content s ref → ¬ ConvertibleAt s ref) :
    SameAttrs s (addCases env out cases content s).2 := by
  induction cases generalizing content s with
  | nil => exact SameAttrs.refl s
  | cons case rest ih =>
      have hfirst : SameAttrs s (addCase env out case content s).2 := by
        have hsame : SameAttrs s (getDescs env out case s).2 := keeps_getDescs s
        rw [addCase_state]
        split
        · next descs s₁ hdescs =>
            rw [hdescs] at hsame
            rw [convertAttrs_of_not]
            · exact hsame
            · intro ref hattr hconv
              have hread : s₁.attrs.read ref = s.attrs.read ref := by rw [hsame]
              exact h ref (.here hdescs hattr) ((convertibleAt_congr hread).mp hconv)
        · next e s₁ hdescs =>
            rw [hdescs] at hsame
            exact hsame
      unfold addCases
      rw [PyM.bind_apply]
      cases hturn : addCase env out case content s with
      | mk result s₁ =>
          rw [hturn] at hfirst
          cases result with
          | error e => exact hfirst
          | ok content₁ =>
              refine SameAttrs.trans _ _ _ hfirst (ih fun ref hrest hconv => ?_)
              have hread : s₁.attrs.read ref = s.attrs.read ref := by rw [hfirst]
              exact h ref (.later hturn hrest) ((convertibleAt_congr hread).mp hconv)

/-- Dumping the content writes nothing. -/
theorem content_state (env : AclEnv α) (cases : List Testcase) (out : String)
    (compileFlag : Option PyVal) (s : AclState α) :
    (createAclOpJsonContent env cases out compileFlag s).2
      = (addCases env out cases (compileFlag.map Entry.compileDic).toList s).2 := by
  unfold createAclOpJsonContent
  rw [PyM.bind_apply]
  cases addCases env out cases (compileFlag.map Entry.compileDic).toList s with
  | mk result s₁ =>
      cases result with
      | error e => rfl
      | ok content => rfl

/-- The test cases are what they were, and so are the data that are generated for them. -/
structure ReadOnly (cases : List Testcase) (s s' : AclState α) : Prop where
  attrs : ∀ case ∈ cases, ∀ ref ∈ case.attr.getD [],
    s'.attrs.read ref = s.attrs.read ref
  generated : ∀ (env : DataEnv α) (path : String) (t : DataState α),
    generate env path (cases.map (Testcase.subCase s'.attrs)) t
      = generate env path (cases.map (Testcase.subCase s.attrs)) t

/-- A run that returns has come to all attributes of all cases. -/
theorem comesTo_iff_of_content {text : String}
    (h : (createAclOpJsonContent env cases out compileFlag s).1 = .ok text) :
    ComesTo env out cases (compileFlag.map Entry.compileDic).toList s ref ↔
      ∃ case ∈ cases, ref ∈ case.attr.getD [] := by
  obtain ⟨content, s₁, hadd, _⟩ := PyM.bind_eq_ok.mp (Prod.ext h rfl)
  exact comesTo_iff_of_ok hadd

theorem readOnly_iff_of_comesTo (env : AclEnv α) (cases : List Testcase) (out : String)
    (compileFlag : Option PyVal) (s : AclState α) :
    ReadOnly cases s (createAclOpJsonContent env cases out compileFlag s).2 ↔
      ∀ ref, ComesTo env out cases (compileFlag.map Entry.compileDic).toList s ref →
        ¬ ConvertibleAt s ref := by
  rw [content_state]
  constructor
  · intro hread ref hcomes hconv
    obtain ⟨case, hcase, href⟩ := hcomes.mem
    exact (convertedAt_of_comesTo hcomes hconv).ne (hread.attrs case hcase ref href)
  · intro hnot
    have hsame := addCases_of_not hnot
    refine ⟨fun case _ ref _ => ?_, fun genEnv path t => ?_⟩
    · rw [hsame]
    · rw [hsame]

/-- **Creating `acl_op.json` is read-only exactly if no attribute that it comes to is of the
type `data_type`** and has a value that has a name in `acl_op.json`.  If it returns, these are
all attributes of the cases. -/
theorem readOnly_iff (env : AclEnv α) (cases : List Testcase) (out : String)
    (compileFlag : Option PyVal) (s : AclState α) :
    (ReadOnly cases s (createAclOpJsonContent env cases out compileFlag s).2 ↔
      ∀ ref, ComesTo env out cases (compileFlag.map Entry.compileDic).toList s ref →
        ¬ ConvertibleAt s ref) ∧
    ∀ text, (createAclOpJsonContent env cases out compileFlag s).1 = .ok text →
      (ReadOnly cases s (createAclOpJsonContent env cases out compileFlag s).2 ↔
        ∀ case ∈ cases, ∀ ref ∈ case.attr.getD [], ¬ ConvertibleAt s ref) := by
  have hiff := readOnly_iff_of_comesTo env cases out compileFlag s
  refine ⟨hiff, fun text htext => hiff.trans ?_⟩
  constructor
  · intro h case hcase ref href
    exact h ref ((comesTo_iff_of_content htext).mpr ⟨case, hcase, href⟩)
  · intro h ref hcomes
    obtain ⟨case, hcase, href⟩ := (comesTo_iff_of_content htext).mp hcomes
    exact h case hcase ref href

end Cases

/-- No case has a constant input, so nothing is asked of the system. -/
def aclEnv : AclEnv Unit where
  checkPathValid _ := .ok ()
  makeDirs _ := .ok ()
  save _ := .ok ()
  npType _ := .error (.typeError "getattr(): attribute name must be string")
  draw _ _ _ _ _ _ := .error (.typeError "'NoneType' object is not iterable")
  fromfile data _ := .ok data
  array _ _ := .ok ()
  shape _ := []
  reshape data _ := data
  module _ _ := none
  call _ _ _ _ := .error (.attributeError "module has no attribute")
  str _ := ""
  asArray _ := .ok ()
  tolist _ := .list []
  chmod _ := .ok ()
  dumps _ := .ok "[]"

def castCase (caseName : String) : Testcase where
  op := .str "Cast"
  stMode := none
  inputDesc := []
  outputDesc := []
  attr := some [0]
  caseName
  expect := none

/-- The attribute `dst_type` of a case file. -/
def dstType (value : String) : Attr :=
  [("name", .str "dst_type"), ("type", .str "data_type"), (VALUE, .str value)]

/-- Two cases share an attribute; the functions of both get `DT_FLOAT16` for `float16`. -/
theorem shared_attr_converted :
    (createAclOpJsonContent aclEnv [castCase "Cast_case_1", castCase "Cast_case_2"] "out" none
        { attrs := ⟨[dstType "float16"]⟩, files := fun _ => none }).2.attrs
      = ⟨[dstType "DT_FLOAT16"]⟩ ∧
    ¬ ReadOnly [castCase "Cast_case_1", castCase "Cast_case_2"]
      { attrs := ⟨[dstType "float16"]⟩, files := fun _ => none }
      (createAclOpJsonContent aclEnv [castCase "Cast_case_1", castCase "Cast_case_2"] "out" none
        { attrs := ⟨[dstType "float16"]⟩, files := fun _ => none }).2 := by
  have hrun : (createAclOpJsonContent aclEnv [castCase "Cast_case_1", castCase "Cast_case_2"]
      "out" none { attrs := ⟨[dstType "float16"]⟩, files := fun _ => none }).2.attrs
        = ⟨[dstType "DT_FLOAT16"]⟩ := rfl
  refine ⟨hrun, fun hread => ?_⟩
  have hsame := hread.attrs (castCase "Cast_case_1") List.mem_cons_self 0 List.mem_cons_self
  rw [hrun] at hsame
  have hvalue := congrArg (Option.map fun attr => (field attr VALUE).isStr "float16") hsame
  revert hvalue
  decide

end AclOpJson

end HwEfat.Main
