/-
  HwEfat.Main.SubCaseDesign.Pairing — whether outputs go with the matching inputs.

  An output is taken at `output_index`, an input at the number of the case.  The first
  positions of the combination `k` of an input are those of the combination `k / v` of an
  output, where `v` is the number of combinations of its `data_distribute` and
  `value_range` (`take_combination`).  So the two match where `output_index` is `k / v`
  (`sameProfiles_iff`), and whether a run goes through with all cases matching is a
  question about `output_index`, and about formats and types that say that there is no tensor
  (`outputsPaired_iff_indices`).

  It is `k` itself up to the number of combinations of an output, and `k` modulo the
  number of outputs from there on, where the name of an output is written at `k` before
  that.  This matches if no input has several `data_distribute` or `value_range`, and
  otherwise only where the outputs have one combination (`outputs_paired_iff`).
-/
import HwEfat.Main.SubCaseDesign.Taken

namespace HwEfat.Main

open HwEfat.Lib (PyError PyVal PyDict exists_eq_ok positions nodup_positions
  getElem?_positions_append)

/-! ## §1. Positions. -/

section Positions

variable {keys keys' : List String} {tensor tensor' : Tensor} {k use : Nat} {p q : List Nat}

/-- The first positions of a combination are those of the combination of the first
fields. -/
theorem take_combination (h : Crossable (keys ++ keys') tensor)
    (hp : (combinations (keys ++ keys') tensor)[k]? = some p) :
    (positions (keys.map fun key => (profiles tensor key).length))[k / volume keys' tensor]?
      = some (p.take keys.length) := by
  have hcross : crossKeys (keys ++ keys') tensor
      = keys ++ (keys' ++ [SHAPE_RANGE, VALUE, IS_CONST].filter (filled tensor)) := by
    unfold crossKeys addNewKeyToCrossList
    rw [List.append_assoc]
  -- The fields that are added have one profile.
  have hvolume : volume (keys' ++ [SHAPE_RANGE, VALUE, IS_CONST].filter (filled tensor)) tensor
      = volume keys' tensor := by
    rw [volume_append, volume_extra h, Nat.mul_one]
  unfold combinations at hp
  rw [hcross, List.map_append] at hp
  have htake := getElem?_positions_append hp
  rw [List.length_map] at htake
  rw [← hvolume]
  exact htake

/-- The positions of an input and an output are the same where the numbers of their
combinations match. -/
theorem sameProfiles_iff
    (hinput : Crossable (keys ++ keys') tensor) (houtput : Crossable keys tensor')
    (hlength : ∀ key ∈ keys, (profiles tensor' key).length = (profiles tensor key).length)
    (hp : (combinations (keys ++ keys') tensor)[k]? = some p)
    (hq : (combinations keys tensor')[use]? = some q) :
    q.take keys.length = p.take keys.length ↔ use = k / volume keys' tensor := by
  have hp' := take_combination hinput hp
  have hq' : (positions (keys.map fun key => (profiles tensor key).length))[use]?
      = some (q.take keys.length) := by
    have hnil := List.append_nil keys
    rw [← hnil] at houtput hq
    have htake := take_combination houtput hq
    rw [show volume [] tensor' = 1 from rfl, Nat.div_one, List.map_congr_left hlength] at htake
    exact htake
  constructor
  · intro heq
    rw [heq, ← hp'] at hq'
    have hlt : use < (positions (keys.map fun key => (profiles tensor key).length)).length := by
      apply List.getElem?_eq_some_iff.mp _ |>.1
      · exact p.take keys.length
      · rw [hq', hp']
    exact (List.getElem?_inj hlt (nodup_positions _)).mp hq'
  · intro heq
    rw [heq, hp'] at hq'
    exact (Option.some.inj hq').symm

end Positions

namespace SubCaseDesignCross

/-! ## §2. Pairing. -/

/-- Every output of case `k`, which is taken at `use`, has its format, its type and its
shape from the same positions as every input. -/
def PairedCase (jsonObj : PyVal) (descs : Descs) (k use : Nat) (case : SubCase) : Prop :=
  ∀ i input, descs.inputDescList[i]? = some input →
    ∀ o output, descs.outputDescList[o]? = some output →
      ∃ p q, TakenFrom jsonObj INPUT_DESC descs.inputCrossList i input k case.inputDesc p ∧
        TakenFrom jsonObj OUTPUT_DESC descs.outputCrossList o output use case.outputDesc q ∧
        q.take descs.outputCrossList.length = p.take descs.outputCrossList.length

/-- `_get_sub_test_cases` raises no exception, and in every case that it adds the outputs
go with the inputs. -/
def OutputsPaired (env : DesignEnv) (design : SubCaseDesign) (descs : Descs)
    (prepared : Prepared) : Prop :=
  ∃ design', getSubTestCases env design prepared = .ok design' ∧
    ∀ k case, (design'.totalCaseList.drop design.totalCaseList.length)[k]? = some case →
      ∃ use, outputIndex prepared.output k = .ok use ∧
        PairedCase design.jsonObj descs k use case

/-- The formats and types that the inputs of case `k` and the outputs at `use` are made of stay
as they are. -/
def WholeCase (descs : Descs) (k use : Nat) : Prop :=
  ∀ input ∈ descs.inputDescList,
    (∀ p, (combinations descs.inputCrossList input)[k]? = some p →
      WholeAt descs.inputCrossList input p) ∧
    ∀ output ∈ descs.outputDescList, ∀ q,
      (combinations descs.outputCrossList output)[use]? = some q →
        WholeAt descs.outputCrossList output q

/-- No output has a name. -/
def Unnamed (jsonObj : PyVal) (descs : Descs) : Prop :=
  ∀ o, o < descs.outputDescList.length →
    ∀ name, nameOf jsonObj OUTPUT_DESC o = .ok name → ¬ name.truthy

/-- `output_index` matches in case `k`, and nothing is read or written beyond the end. -/
structure IndexMatches (jsonObj : PyVal) (descs : Descs) (prepared : Prepared) (n k use : Nat) :
    Prop where
  index : outputIndex prepared.output k = .ok use
  paired : ∀ input ∈ descs.inputDescList, use = k / volume rangeKeys input
  whole : WholeCase descs k use
  inside : use < n
  unnamed : n ≤ k → Unnamed jsonObj descs

section Pairing

variable {env : DesignEnv} {design : SubCaseDesign} {descs : Descs} {prepared : Prepared}
  {n k use : Nat} {case : SubCase}

/-- What matching numbers mean for a case. -/
theorem pairedCase_iff (hok : PreparedOk design.jsonObj descs prepared)
    (hcase : CaseAt design.jsonObj prepared k case)
    (huse : outputIndex prepared.output k = .ok use) :
    PairedCase design.jsonObj descs k use case
      ↔ (∀ input ∈ descs.inputDescList, use = k / volume rangeKeys input) ∧
        WholeCase descs k use := by
  have hdrawn : Drawn design.jsonObj OUTPUT_DESC prepared.output k use case.outputDesc := by
    obtain ⟨use', huse', hdrawn⟩ := hcase.output
    rw [huse, Except.ok.injEq] at huse'
    rw [huse']
    exact hdrawn
  have hsame : ∀ {input output : Tensor} {p q : List Nat}, input ∈ descs.inputDescList →
      output ∈ descs.outputDescList →
      (combinations descs.inputCrossList input)[k]? = some p →
      (combinations descs.outputCrossList output)[use]? = some q →
      (q.take descs.outputCrossList.length = p.take descs.outputCrossList.length
        ↔ use = k / volume rangeKeys input) := by
    intro input output p q hinput houtput hp hq
    have hcross := hok.made.input input hinput
    rw [hok.made.cross] at hcross hp
    exact sameProfiles_iff hcross (hok.made.output output houtput)
      (checkValueNumberValid_spec hok.number hinput output (List.mem_append_right _ houtput)) hp hq
  have hkeys : CrossList descs.outputCrossList := (hok.made.cross ▸ hok.made.keys).left
  constructor
  · intro hpaired
    constructor
    · intro input hinput
      -- There is an output, so the pair with it tells the index of the input.
      obtain ⟨i, hi⟩ := List.mem_iff_getElem?.mp hinput
      have hpos := List.length_pos_iff.mpr hok.made.output_ne_nil
      obtain ⟨p, q, hp, hq, heq⟩ := hpaired i input hi 0 _ (List.getElem?_eq_getElem hpos)
      exact (hsame hinput (List.getElem_mem hpos) hp.combination hq.combination).mp heq
    · intro input hinput
      obtain ⟨i, hi⟩ := List.mem_iff_getElem?.mp hinput
      obtain ⟨p, hp, hiff⟩ := hcase.input.takenFrom hok.made.input hok.made.keys
        hok.made.type_input hok.input hi
      constructor
      · intro p' hp'
        -- The combination at a position is unique, so the profiles are those of the pair.
        cases hp.symm.trans hp'
        have hpos := List.length_pos_iff.mpr hok.made.output_ne_nil
        obtain ⟨p₁, _, htaken, _, _⟩ := hpaired i input hi 0 _ (List.getElem?_eq_getElem hpos)
        cases hp.symm.trans htaken.combination
        exact hiff.mp htaken
      · intro output houtput q hq
        obtain ⟨o, ho⟩ := List.mem_iff_getElem?.mp houtput
        obtain ⟨_, q₁, _, htaken, _⟩ := hpaired i input hi o output ho
        obtain ⟨q₂, hq₂, hiff'⟩ := hdrawn.takenFrom hok.made.output hkeys hok.made.type hok.output ho
        cases hq.symm.trans htaken.combination
        cases hq.symm.trans hq₂
        exact hiff'.mp htaken
  · rintro ⟨hmatch, hwhole⟩ i input hi o output ho
    have hinput := List.mem_of_getElem? hi
    have houtput := List.mem_of_getElem? ho
    obtain ⟨p, hp, hiff⟩ := hcase.input.takenFrom hok.made.input hok.made.keys
      hok.made.type_input hok.input hi
    obtain ⟨q, hq, hiff'⟩ := hdrawn.takenFrom hok.made.output hkeys hok.made.type hok.output ho
    refine ⟨p, q, hiff.mpr ((hwhole input hinput).1 p hp),
      hiff'.mpr ((hwhole input hinput).2 output houtput q hq), ?_⟩
    exact (hsame hinput houtput hp hq).mpr (hmatch input hinput)

/-- The format and the type of every output are there to name a case. -/
theorem nominal_output (hok : PreparedOk design.jsonObj descs prepared) :
    ∃ ms, isMs design.jsonObj = .ok ms ∧
      ∀ row ∈ prepared.output, ∀ desc ∈ row, Nominal ms desc := by
  obtain ⟨ms, hms, hformat⟩ := hok.made.mode
  refine ⟨ms, hms, ?_⟩
  intro row hrow desc hdesc
  obtain ⟨o, ho⟩ := List.mem_iff_getElem?.mp hrow
  obtain ⟨tensor, htensor, hrow'⟩ := exists_tensor hok.made.output hok.output ho
  obtain ⟨u, hu⟩ := List.mem_iff_getElem?.mp hdesc
  obtain ⟨q, hq, hdescribe⟩ := hrow'.getElem? hu
  have hmem := List.mem_of_getElem? hq
  constructor
  · exact hasText_describe hrow'.crossable hmem hok.made.type (by decide) hdescribe
  · intro hfalse
    exact hasText_describe hrow'.crossable hmem (hformat hfalse) (by decide) hdescribe

/-- An input has at least one combination of its ranges. -/
theorem rangeKeys_pos (hok : PreparedOk design.jsonObj descs prepared) {input : Tensor}
    (hinput : input ∈ descs.inputDescList) : 0 < volume rangeKeys input := by
  have hpos := volume_pos (hok.made.input input hinput)
  rw [hok.made.cross, volume_append] at hpos
  exact Nat.pos_of_mul_pos_left hpos

/-- An input has enough combinations for all cases. -/
theorem count_le (hok : PreparedOk design.jsonObj descs prepared)
    (hcounts : Counts descs prepared n) {input : Tensor} (hinput : input ∈ descs.inputDescList) :
    prepared.count ≤ n * volume rangeKeys input := by
  by_cases hmany : 1 < descs.inputDescList.length
  · rw [hcounts.many hmany input hinput]
  · rw [hcounts.few (Nat.not_lt.mp hmany)]
    exact Nat.le_mul_of_pos_right n (rangeKeys_pos hok hinput)

/-- There are at least as many cases as combinations of an output. -/
theorem le_count (hok : PreparedOk design.jsonObj descs prepared)
    (hcounts : Counts descs prepared n) : n ≤ prepared.count := by
  by_cases hmany : 1 < descs.inputDescList.length
  · have hpos : 0 < descs.inputDescList.length := by omega
    rw [hcounts.many hmany _ (List.getElem_mem hpos)]
    exact Nat.le_mul_of_pos_right n (rangeKeys_pos hok (List.getElem_mem hpos))
  · rw [hcounts.few (Nat.not_lt.mp hmany)]

/-- Every turn can take the inputs. -/
theorem canTake_input (hok : PreparedOk design.jsonObj descs prepared)
    (hcounts : Counts descs prepared n) (hk : k < prepared.count) :
    CanTake design.jsonObj INPUT_DESC prepared.input k k := by
  intro i row hrow
  obtain ⟨input, hinput, hrow'⟩ := exists_tensor hok.made.input hok.input hrow
  have hmem := List.mem_of_getElem? hinput
  have hlt : k < row.length := by
    rw [hrow'.length, hok.made.cross, volume_append, hcounts.volumeInput input hmem]
    exact Nat.lt_of_lt_of_le hk (count_le hok hcounts hmem)
  exact ⟨hlt, fun _ _ _ => hlt⟩

/-- And the outputs, where `output_index` matches. -/
theorem canTake_output (hok : PreparedOk design.jsonObj descs prepared)
    (hcounts : Counts descs prepared n)
    (h : IndexMatches design.jsonObj descs prepared n k use) :
    CanTake design.jsonObj OUTPUT_DESC prepared.output k use := by
  intro o row hrow
  have hlength := hcounts.output.2 row (List.mem_of_getElem? hrow)
  have ho : o < descs.outputDescList.length := by
    rw [← crossTensors_length hok.output]
    exact (List.getElem?_eq_some_iff.mp hrow).1
  rw [hlength]
  refine ⟨h.inside, fun name hname htruthy => ?_⟩
  by_contra hle
  exact h.unnamed (Nat.not_lt.mp hle) o ho name hname htruthy

/-- What has been taken was there. -/
theorem indexMatches_of_drawn (hok : PreparedOk design.jsonObj descs prepared)
    (hcounts : Counts descs prepared n) {taken : List Desc}
    (hdrawn : Drawn design.jsonObj OUTPUT_DESC prepared.output k use taken)
    (huse : outputIndex prepared.output k = .ok use)
    (hpaired : ∀ input ∈ descs.inputDescList, use = k / volume rangeKeys input)
    (hwhole : WholeCase descs k use) :
    IndexMatches design.jsonObj descs prepared n k use := by
  have hrow : ∀ o, o < descs.outputDescList.length → ∃ row, prepared.output[o]? = some row ∧
      row.length = n := by
    intro o ho
    rw [← crossTensors_length hok.output] at ho
    exact ⟨_, List.getElem?_eq_getElem ho, hcounts.output.2 _ (List.getElem_mem ho)⟩
  refine ⟨huse, hpaired, hwhole, ?_, ?_⟩
  · obtain ⟨row, hget, hlength⟩ := hrow 0 (List.length_pos_iff.mpr hok.made.output_ne_nil)
    obtain ⟨_, _, _, hdesc, _⟩ := hdrawn.row 0 row hget
    rw [← hlength]
    exact (List.getElem?_eq_some_iff.mp hdesc).1
  · intro hle o ho name hname htruthy
    obtain ⟨row, hget, hlength⟩ := hrow o ho
    obtain ⟨name', _, hname', _, hlt, _⟩ := hdrawn.row o row hget
    rw [hname, Except.ok.injEq] at hname'
    rw [← hname'] at hlt
    have hk := hlt htruthy
    omega

/-- **A run goes through with all cases matching where `output_index` always matches.** -/
theorem outputsPaired_iff_indices (hok : PreparedOk design.jsonObj descs prepared)
    (hcounts : Counts descs prepared n) :
    OutputsPaired env design descs prepared
      ↔ SettingsValid env design ∧
        ∀ k, k < prepared.count → ∃ use, IndexMatches design.jsonObj descs prepared n k use := by
  have hcount : 0 < prepared.count := Nat.lt_of_lt_of_le hcounts.pos (le_count hok hcounts)
  constructor
  · intro ⟨design', hrun, hpaired⟩
    refine ⟨settingsValid_of_ok hrun hok.nameableInput hok.nameableOutput hcounts.output hcount, ?_⟩
    obtain ⟨cases, htotal, hlength, hcases⟩ :=
      getSubTestCases_spec hrun hok.nameableInput hok.nameableOutput hcounts.output
    rw [htotal, List.drop_left] at hpaired
    intro k hk
    have hget := List.getElem?_eq_getElem (show k < cases.length by omega)
    have hcase := hcases k _ hget
    obtain ⟨use, huse, hpair⟩ := hpaired k _ hget
    obtain ⟨use', huse', hdrawn⟩ := hcase.output
    -- `output_index` is a function, so the pair is at the index that was drawn.
    obtain rfl : use = use' := Except.ok.inj (huse.symm.trans huse')
    obtain ⟨hmatch, hwhole⟩ := (pairedCase_iff hok hcase huse).mp hpair
    exact ⟨use, indexMatches_of_drawn hok hcounts hdrawn huse hmatch hwhole⟩
  · intro ⟨hsettings, hmatches⟩
    -- With an index in every turn, the run goes through.
    obtain ⟨ms, hms, hnominal⟩ := nominal_output hok
    obtain ⟨design', hrun⟩ := getSubTestCases_ok hms hsettings hok.nameableInput
      hok.nameableOutput hcounts.output hnominal fun k hk => by
        obtain ⟨use, huse⟩ := hmatches k hk
        exact ⟨canTake_input hok hcounts hk, use, huse.index, canTake_output hok hcounts huse⟩
    obtain ⟨cases, htotal, hlength, hcases⟩ :=
      getSubTestCases_spec hrun hok.nameableInput hok.nameableOutput hcounts.output
    refine ⟨design', hrun, ?_⟩
    rw [htotal, List.drop_left]
    intro k case hget
    have hk := (List.getElem?_eq_some_iff.mp hget).1
    obtain ⟨use, huse⟩ := hmatches k (by omega)
    exact ⟨use, huse.index,
      (pairedCase_iff hok (hcases k case hget) huse.index).mpr ⟨huse.paired, huse.whole⟩⟩

/-! ## §3. When the numbers match. -/

/-- The inputs have one `data_distribute` and one `value_range`, or there is nothing to
mix up. -/
def NothingMixed (jsonObj : PyVal) (descs : Descs) : Prop :=
  (∀ input ∈ descs.inputDescList, ∀ key ∈ rangeKeys, (profiles input key).length = 1) ∨
  ((∀ output ∈ descs.outputDescList, ∀ key ∈ descs.outputCrossList,
      (profiles output key).length = 1) ∧
    (descs.inputDescList.length = 1 ∨
      (descs.outputDescList.length = 1 ∧ Unnamed jsonObj descs)))

/-- There are no inputs, or the numbers match and all formats and types stay as they are. -/
def Pairable (jsonObj : PyVal) (descs : Descs) : Prop :=
  descs.inputDescList = [] ∨
  NothingMixed jsonObj descs ∧
    (∀ input ∈ descs.inputDescList, WholePairs descs.inputCrossList input) ∧
    ∀ output ∈ descs.outputDescList, WholePairs descs.outputCrossList output

/-- Up to the number of combinations of an output, `output_index` is the number of the
case. -/
theorem indexMatches_self {jsonObj : PyVal} (hcounts : Counts descs prepared n) (hk : k < n)
    (hpaired : ∀ input ∈ descs.inputDescList, k = k / volume rangeKeys input)
    (hwhole : WholeCase descs k k) :
    IndexMatches jsonObj descs prepared n k k := by
  refine ⟨?_, hpaired, hwhole, hk, fun hle => absurd hk (Nat.not_lt.mpr hle)⟩
  rw [outputIndex_eq hcounts.output, if_neg (Nat.not_le.mpr hk)]

/-- With one combination of the outputs, case 1 mixes them up or there is none. -/
theorem nothingMixed_of_indices (hok : PreparedOk design.jsonObj descs prepared)
    (hcounts : Counts descs prepared n)
    (hmatches : ∀ k, k < prepared.count →
      ∃ use, IndexMatches design.jsonObj descs prepared n k use) :
    NothingMixed design.jsonObj descs := by
  by_cases hone : ∀ input ∈ descs.inputDescList, volume rangeKeys input = 1
  · exact Or.inl fun input hinput => volume_eq_one.mp (hone input hinput)
  · rw [not_forall₂] at hone
    obtain ⟨input, hinput, hvolume⟩ := hone
    have hpos := rangeKeys_pos hok hinput
    have hzero : 1 / volume rangeKeys input = 0 := Nat.div_eq_of_lt (by omega)
    -- Case 1 takes the input at 0, so the output must not be taken at 1.
    have hn : n = 1 := by
      by_contra hne
      have hlt : 1 < n := by
        have hpos := hcounts.pos
        omega
      have hle := le_count hok hcounts
      obtain ⟨use, hindex, hpaired, _⟩ := hmatches 1 (by omega)
      rw [outputIndex_eq hcounts.output, if_neg (by omega), Except.ok.injEq] at hindex
      have huse := hpaired input hinput
      omega
    refine Or.inr ⟨fun output houtput => ?_, ?_⟩
    · rw [← volume_eq_one, hcounts.volumeOutput output houtput, hn]
    · by_cases hsingle : descs.inputDescList.length = 1
      · exact Or.inl hsingle
      · have hlength := List.length_pos_of_mem hinput
        have hcount := hcounts.many (by omega) input hinput
        rw [hn, Nat.one_mul] at hcount
        obtain ⟨use, hindex, hpaired, _, _, hunnamed⟩ := hmatches 1 (by omega)
        rw [outputIndex_eq hcounts.output, if_pos (by omega), Except.ok.injEq,
          crossTensors_length hok.output, hpaired input hinput, hzero] at hindex
        refine Or.inr ⟨?_, hunnamed (by omega)⟩
        exact Nat.dvd_one.mp (Nat.dvd_of_mod_eq_zero hindex)

/-- Where nothing is mixed up, each combination of an input has a case, or there is one format
and one type. -/
theorem covered_of_nothingMixed (hok : PreparedOk design.jsonObj descs prepared)
    (hcounts : Counts descs prepared n) (h : NothingMixed design.jsonObj descs) :
    (∀ input ∈ descs.inputDescList, volume rangeKeys input = 1) ∨ n = 1 := by
  rcases h with hone | ⟨houtput, _⟩
  · exact Or.inl fun input hinput => volume_eq_one.mpr (hone input hinput)
  · have hpos := List.length_pos_iff.mpr hok.made.output_ne_nil
    refine Or.inr ?_
    rw [← hcounts.volumeOutput _ (List.getElem_mem hpos), volume_eq_one]
    exact houtput _ (List.getElem_mem hpos)

/-- One format and one type are the same at every combination. -/
theorem wholeAt_of_single {keys : List String} {tensor : Tensor} {p q : List Nat}
    (hp : p ∈ combinations keys tensor) (hq : q ∈ combinations keys tensor)
    (hone : ∀ key ∈ ["format", "type"], key ∈ crossKeys keys tensor →
      (profiles tensor key).length = 1)
    (h : WholeAt keys tensor p) : WholeAt keys tensor q := by
  intro i j format type hi hj hformat htype
  have hzero : ∀ {r : List Nat} {key : String} {i : Nat}, r ∈ combinations keys tensor →
      key ∈ ["format", "type"] → (key, i) ∈ (crossKeys keys tensor).zip r → i = 0 := by
    intro r key i hr hkey hmem
    have hlt := lt_of_mem_zip hr hmem
    rw [hone key hkey (List.of_mem_zip hmem).1] at hlt
    exact Nat.lt_one_iff.mp hlt
  obtain ⟨i', hi'⟩ := exists_position hp (List.of_mem_zip hi).1
  obtain ⟨j', hj'⟩ := exists_position hp (List.of_mem_zip hj).1
  obtain rfl := hzero hq (by decide) hi
  obtain rfl := hzero hq (by decide) hj
  obtain rfl := hzero hp (by decide) hi'
  obtain rfl := hzero hp (by decide) hj'
  exact h 0 0 format type hi' hj' hformat htype

/-- The cases have all formats and types of the inputs. -/
theorem wholeInput_of_indices (hok : PreparedOk design.jsonObj descs prepared)
    (hcounts : Counts descs prepared n) (hmixed : NothingMixed design.jsonObj descs)
    (hwhole : ∀ k, k < prepared.count → ∃ use, WholeCase descs k use) :
    ∀ input ∈ descs.inputDescList, WholePairs descs.inputCrossList input := by
  intro input hinput
  have hcross := hok.made.input input hinput
  have hat : ∀ k p, k < n → (combinations descs.inputCrossList input)[k]? = some p →
      WholeAt descs.inputCrossList input p := by
    intro k p hk hp
    obtain ⟨use, hcase⟩ := hwhole k (Nat.lt_of_lt_of_le hk (le_count hok hcounts))
    exact (hcase input hinput).1 p hp
  refine (wholePairs_iff hcross hok.made.type_input).mpr fun p hp => ?_
  obtain ⟨k, hk⟩ := List.mem_iff_getElem?.mp hp
  have hlength := hcounts.length_input hok hinput
  rcases covered_of_nothingMixed hok hcounts hmixed with hone | hn
  · refine hat k p ?_ hk
    have hlt := (List.getElem?_eq_some_iff.mp hk).1
    rw [hlength, hone input hinput, Nat.mul_one] at hlt
    exact hlt
  · -- The first combination has the only format and the only type.
    have hpos : 0 < (combinations descs.inputCrossList input).length := by
      rw [hlength, hn, Nat.one_mul]
      exact rangeKeys_pos hok hinput
    have hfirst := List.getElem?_eq_getElem hpos
    refine wholeAt_of_single (List.mem_of_getElem? hfirst) hp ?_
      (hat 0 _ (hn ▸ Nat.one_pos) hfirst)
    intro key hkey hmem
    have hvolume := hcounts.volumeInput input hinput
    rw [hn, volume_eq_one] at hvolume
    have hnot : ∀ key ∈ ["format", "type"], key ∉ [SHAPE_RANGE, VALUE, IS_CONST] ∧
        key ∉ rangeKeys := by
      decide
    have hkeys := mem_keys_of_format hmem (hnot key hkey).1
    rw [hok.made.cross] at hkeys
    exact hvolume key ((List.mem_append.mp hkeys).resolve_right (hnot key hkey).2)

/-- The cases have all formats and types of the outputs. -/
theorem wholeOutput_of_indices (hok : PreparedOk design.jsonObj descs prepared)
    (hcounts : Counts descs prepared n) (hmixed : NothingMixed design.jsonObj descs)
    (hne : descs.inputDescList ≠ [])
    (hmatches : ∀ k, k < prepared.count →
      ∃ use, IndexMatches design.jsonObj descs prepared n k use) :
    ∀ output ∈ descs.outputDescList, WholePairs descs.outputCrossList output := by
  intro output houtput
  have hinput := List.getElem_mem (List.length_pos_iff.mpr hne)
  refine (wholePairs_iff (hok.made.output output houtput) hok.made.type).mpr fun q hq => ?_
  obtain ⟨u, hu⟩ := List.mem_iff_getElem?.mp hq
  have hlt := (List.getElem?_eq_some_iff.mp hu).1
  rw [hcounts.length_output hok houtput] at hlt
  -- Case `u` takes the outputs at `u`.
  obtain ⟨use, hindex⟩ := hmatches u (Nat.lt_of_lt_of_le hlt (le_count hok hcounts))
  obtain rfl : use = u := by
    rw [hindex.paired _ hinput]
    rcases covered_of_nothingMixed hok hcounts hmixed with hone | hn
    · rw [hone _ hinput, Nat.div_one]
    · obtain rfl : u = 0 := by omega
      exact Nat.zero_div _
  exact (hindex.whole _ hinput).2 output houtput q hu

/-- If every turn has its index, the case is pairable. -/
theorem pairable_of_indices (hok : PreparedOk design.jsonObj descs prepared)
    (hcounts : Counts descs prepared n)
    (hmatches : ∀ k, k < prepared.count →
      ∃ use, IndexMatches design.jsonObj descs prepared n k use) :
    Pairable design.jsonObj descs := by
  by_cases hnil : descs.inputDescList = []
  · exact Or.inl hnil
  · have hmixed := nothingMixed_of_indices hok hcounts hmatches
    refine Or.inr ⟨hmixed, wholeInput_of_indices hok hcounts hmixed fun k hk => ?_,
      wholeOutput_of_indices hok hcounts hmixed hnil hmatches⟩
    obtain ⟨use, hindex⟩ := hmatches k hk
    exact ⟨use, hindex.whole⟩

/-- If the case is pairable, every turn has its index. -/
theorem indices_of_pairable (hok : PreparedOk design.jsonObj descs prepared)
    (hcounts : Counts descs prepared n) (h : Pairable design.jsonObj descs) :
    ∀ k, k < prepared.count → ∃ use, IndexMatches design.jsonObj descs prepared n k use := by
  intro k hk
  rcases h with hnil | ⟨hmixed, hinputs, houtputs⟩
  · rw [hcounts.few (by rw [hnil]; exact Nat.zero_le 1)] at hk
    refine ⟨k, indexMatches_self hcounts hk (fun input hinput => ?_) fun input hinput => ?_⟩
    · rw [hnil] at hinput
      cases hinput
    · rw [hnil] at hinput
      cases hinput
  · have hwhole : ∀ use, WholeCase descs k use := by
      intro use input hinput
      refine ⟨fun p hp => ?_, fun output houtput q hq => ?_⟩
      · exact (wholePairs_iff (hok.made.input input hinput) hok.made.type_input).mp
          (hinputs input hinput) p (List.mem_of_getElem? hp)
      · exact (wholePairs_iff (hok.made.output output houtput) hok.made.type).mp
          (houtputs output houtput) q (List.mem_of_getElem? hq)
    rcases hmixed with hone | ⟨houtput, hfew⟩
    · have hvolume : ∀ input ∈ descs.inputDescList, volume rangeKeys input = 1 :=
        fun input hinput => volume_eq_one.mpr (hone input hinput)
      -- An input has no more combinations than an output, so there is no second round.
      have hkn : k < n := by
        by_cases hmany : 1 < descs.inputDescList.length
        · have hmem := List.getElem_mem (show 0 < descs.inputDescList.length by omega)
          rw [hcounts.many hmany _ hmem, hvolume _ hmem, Nat.mul_one] at hk
          exact hk
        · rw [hcounts.few (Nat.not_lt.mp hmany)] at hk
          exact hk
      refine ⟨k, indexMatches_self hcounts hkn (fun input hinput => ?_) (hwhole k)⟩
      rw [hvolume input hinput, Nat.div_one]
    · -- The outputs have one combination, and all cases of an input belong to it.
      have hpos := List.length_pos_iff.mpr hok.made.output_ne_nil
      have hn : n = 1 := by
        rw [← hcounts.volumeOutput _ (List.getElem_mem hpos), volume_eq_one]
        exact houtput _ (List.getElem_mem hpos)
      have hpaired : ∀ input ∈ descs.inputDescList, 0 = k / volume rangeKeys input := by
        intro input hinput
        have hle := count_le hok hcounts hinput
        rw [hn, Nat.one_mul] at hle
        exact (Nat.div_eq_of_lt (by omega)).symm
      rcases Nat.eq_zero_or_pos k with rfl | hkpos
      · exact ⟨0, indexMatches_self hcounts (by omega) hpaired (hwhole 0)⟩
      · rcases hfew with hsingle | ⟨hlength, hunnamed⟩
        · rw [hcounts.few (by omega)] at hk
          omega
        · refine ⟨0, ?_, hpaired, hwhole 0, by omega, fun _ => hunnamed⟩
          rw [outputIndex_eq hcounts.output, if_pos (by omega), crossTensors_length hok.output,
            hlength, Nat.mod_one]

/-- **When outputs are paired with the matching inputs.** -/
theorem outputs_paired_iff
    (hdescs : makeDescs env design.currentJsonPath design.jsonObj = .ok descs)
    (hprepare : prepare env design = .ok prepared) :
    OutputsPaired env { design with attrRequiredKeys := prepared.attrRequiredKeys } descs prepared
      ↔ SettingsValid env design ∧ Pairable design.jsonObj descs := by
  have hok := prepare_spec hdescs hprepare
  obtain ⟨n, hcounts⟩ := counts_of_prepare hok
  have hindices : OutputsPaired env { design with attrRequiredKeys := prepared.attrRequiredKeys }
      descs prepared ↔ _ := outputsPaired_iff_indices hok hcounts
  constructor
  · intro hpaired
    obtain ⟨⟨hop, hexpect, herrThr⟩, hmatches⟩ := hindices.mp hpaired
    exact ⟨⟨hop, hexpect, herrThr⟩, pairable_of_indices hok hcounts hmatches⟩
  · intro ⟨⟨hop, hexpect, herrThr⟩, hpairable⟩
    exact hindices.mpr ⟨⟨hop, hexpect, herrThr⟩, indices_of_pairable hok hcounts hpairable⟩

end Pairing

/-- Two inputs with one distribution each. -/
def plainInputs : SubCaseDesign := addDesign [twoShapes [], twoShapes []] [twoShapes []]

/-- The condition at two inputs that have nothing but formats, types and shapes. -/
theorem outputs_paired_iff_plainInputs :
    ∃ descs prepared,
      makeDescs plainEnv plainInputs.currentJsonPath plainInputs.jsonObj = .ok descs ∧
      prepare plainEnv plainInputs = .ok prepared ∧
      OutputsPaired plainEnv { plainInputs with attrRequiredKeys := prepared.attrRequiredKeys }
        descs prepared := by
  obtain ⟨descs, hdescs, hsingle⟩ := exists_eq_ok
    (x := makeDescs plainEnv plainInputs.currentJsonPath plainInputs.jsonObj)
    (p := fun descs => descs.inputDescList.all (fun input => rangeKeys.all fun key =>
      (profiles input key).length == 1) &&
      (descs.inputDescList ++ descs.outputDescList).all fun tensor =>
        (profiles tensor "format").all fun format => (profiles tensor "type").all fun type =>
          decide (Whole format type)) (by decide +kernel)
  obtain ⟨hsingle, hwhole⟩ := Bool.and_eq_true_iff.mp hsingle
  have hpairs : ∀ {keys tensor}, tensor ∈ descs.inputDescList ++ descs.outputDescList →
      WholePairs keys tensor := by
    intro keys tensor htensor _ format hformat type htype
    have hall := List.all_eq_true.mp (List.all_eq_true.mp hwhole tensor htensor) format hformat
    exact of_decide_eq_true (List.all_eq_true.mp hall type htype)
  obtain ⟨prepared, hprepare, _⟩ := exists_eq_ok (x := prepare plainEnv plainInputs)
    (p := fun _ => true) (by decide +kernel)
  refine ⟨descs, prepared, hdescs, hprepare, (outputs_paired_iff hdescs hprepare).mpr ⟨?_, ?_⟩⟩
  · exact ⟨⟨.str "Add", rfl⟩, ⟨(none, .none), rfl⟩, ⟨.none, rfl⟩⟩
  · refine Or.inr ⟨Or.inl fun input hinput key hkey => ?_,
      fun input hinput => hpairs (List.mem_append_left _ hinput),
      fun output houtput => hpairs (List.mem_append_right _ houtput)⟩
    exact beq_iff_eq.mp (List.all_eq_true.mp (List.all_eq_true.mp hsingle input hinput) key hkey)

/-- Two inputs with two distributions each, and an output with a name. -/
def namedOutput : SubCaseDesign :=
  addDesign [twoShapes [twoDistributions], twoShapes [twoDistributions]]
    [twoShapes [("name", .str "z")]]

/-- There are four cases, and the third writes a name behind the two combinations of the
output. -/
theorem named_output_overrun :
    ∃ descs prepared,
      makeDescs plainEnv namedOutput.currentJsonPath namedOutput.jsonObj = .ok descs ∧
      prepare plainEnv namedOutput = .ok prepared ∧
      getSubTestCases plainEnv { namedOutput with attrRequiredKeys := prepared.attrRequiredKeys }
        prepared = .error (.indexError "list index out of range") ∧
      ¬ OutputsPaired plainEnv { namedOutput with attrRequiredKeys := prepared.attrRequiredKeys }
        descs prepared := by
  obtain ⟨descs, hdescs, _⟩ := exists_eq_ok
    (x := makeDescs plainEnv namedOutput.currentJsonPath namedOutput.jsonObj)
    (p := fun _ => true) (by decide +kernel)
  obtain ⟨prepared, hprepare, hraises⟩ := exists_eq_ok (x := prepare plainEnv namedOutput)
    (p := fun prepared =>
      match getSubTestCases plainEnv
          { namedOutput with attrRequiredKeys := prepared.attrRequiredKeys } prepared with
      | .error e => e == .indexError "list index out of range"
      | .ok _ => false) (by decide +kernel)
  dsimp only at hraises
  refine ⟨descs, prepared, hdescs, hprepare, ?_, fun ⟨design', hrun, _⟩ => ?_⟩
  · split at hraises
    · next e herror =>
        rw [herror, beq_iff_eq.mp hraises]
    · cases hraises
  · rw [hrun] at hraises
    cases hraises

end SubCaseDesignCross

end HwEfat.Main
