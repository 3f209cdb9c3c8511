/-
  HwEfat.AutoSchedule.InterfaceCheck.Padding — how `build_diff_list_result` lays two lists of
  names side by side.

  Its two results are the two columns of an alignment, in which a name without a counterpart
  is opposite as many underscores (`buildDiffListResult_eq`).

  Main result: `buildDiffListResult_aligned`, for sorted lists without duplicates.
-/
import HwEfat.Lib.Align
import HwEfat.AutoSchedule.InterfaceCheck.Compare

namespace HwEfat.AutoSchedule.InterfaceCheck

open HwEfat.Lib

/-! ## §1. The two columns. -/

/-- What the first result shows of a row. -/
def text1 : Row String → String
  | .both name => name
  | .left name => name
  | .right name => underscores name

/-- What the second result shows of a row. -/
def text2 : Row String → String
  | .both name => name
  | .left name => underscores name
  | .right name => name

/-- The two lists are the two sides of an alignment. -/
theorem buildDiffList_eq (names1 names2 rest1 rest2 : List String) :
    buildDiffList names1 names2 rest1 rest2 =
      ((align names1 names2 rest1 rest2).map text1,
        (align names1 names2 rest1 rest2).map text2) := by
  fun_induction align names1 names2 rest1 rest2 with
  | case1 name rest1 rest2 ih =>
      rw [buildDiffList, if_pos rfl, ih]
      rfl
  | case2 name1 rest1 name2 rest2 hne hmem ih =>
      rw [buildDiffList, if_neg hne, if_pos hmem, ih]
      rfl
  | case3 name1 rest1 name2 rest2 hne hmem hmem' ih =>
      rw [buildDiffList, if_neg hne, if_neg hmem, if_pos hmem', ih]
      rfl
  | case4 name1 rest1 name2 rest2 hne hmem hmem' ih =>
      rw [buildDiffList, if_neg hne, if_neg hmem, if_neg hmem', ih]
      rfl
  | case5 rest2 =>
      rw [buildDiffList, List.map_map, List.map_map]
      exact Prod.ext rfl (List.map_id rest2).symm
  | case6 rest1 h =>
      cases rest1 with
      | nil => exact absurd rfl h
      | cons name1 rest1 =>
          rw [buildDiffList.eq_3 _ _ _ h, List.map_map, List.map_map]
          exact Prod.ext (List.map_id (name1 :: rest1)).symm rfl

/-- So they are from the start. -/
theorem buildDiffListResult_eq (names1 names2 : List String) :
    buildDiffListResult names1 names2 =
      ((alignment names1 names2).map text1, (alignment names1 names2).map text2) :=
  buildDiffList_eq names1 names2 names1 names2

/-! ## §2. Padding entries. -/

/-- An entry that consists of underscores, as padding does. -/
def isPadding (entry : String) : Bool := entry.toList.all (· == '_')

/-- Underscores are padding. -/
theorem isPadding_underscores (name : String) : isPadding (underscores name) = true := by
  unfold isPadding underscores
  rw [String.toList_ofList, List.all_eq_true]
  intro c hc
  rw [List.eq_of_mem_replicate hc]
  rfl

/-- A name that is its own padding consists of underscores. -/
theorem underscores_eq_self {name : String} : underscores name = name ↔ isPadding name = true := by
  constructor
  · intro h
    rw [← h]
    exact isPadding_underscores name
  · intro h
    unfold isPadding at h
    rw [List.all_eq_true] at h
    have hlist : name.toList = List.replicate name.length '_' :=
      List.eq_replicate_iff.mpr ⟨rfl, fun c hc => eq_of_beq (h c hc)⟩
    unfold underscores
    rw [← hlist, String.ofList_toList]

/-- As many as the name is long. -/
theorem length_underscores (name : String) : (underscores name).length = name.length := by
  unfold underscores
  rw [String.length_ofList, List.length_replicate]

/-- What stays of a column once the entries that consist of underscores are removed. -/
theorem filter_text {rows : List (Row String)} (text : Row String → String)
    (name? : Row String → Option String)
    (hname : ∀ row ∈ rows, ∀ name, name? row = some name →
      text row = name ∧ isPadding name = false)
    (hpad : ∀ row ∈ rows, name? row = none → isPadding (text row) = true) :
    (rows.map text).filter (fun entry => !isPadding entry) = rows.filterMap name? := by
  induction rows with
  | nil => rfl
  | cons row rows ih =>
      rw [List.forall_mem_cons] at hname hpad
      rw [List.map_cons, List.filter_cons, List.filterMap_cons, ih hname.2 hpad.2]
      cases hrow : name? row with
      | none => rw [hpad.1 hrow]; rfl
      | some name =>
          obtain ⟨htext, hfalse⟩ := hname.1 name hrow
          rw [htext, hfalse]
          rfl

/-! ## §3. The alignment of two lists. -/

/-- `rows` lays two lists of names side by side, and `diff` shows it. -/
structure Aligned (names1 names2 : List String) (diff : List String × List String)
    (rows : List (Row String)) : Prop where
  column1 : diff.1 = rows.map text1
  column2 : diff.2 = rows.map text2
  /-- The two columns without the padding are the two lists. -/
  names1_eq : rows.filterMap Row.fst? = names1
  names2_eq : rows.filterMap Row.snd? = names2
  /-- A common name has one position, in both columns. -/
  common : ∀ name, name ∈ names1 → name ∈ names2 →
    ∃ i, rows[i]? = some (Row.both name) ∧
      ∀ (j : Nat) row, rows[j]? = some row → row.fst? = some name ∨ row.snd? = some name → j = i
  /-- The other names are the ones opposite padding. -/
  only1 : ∀ name, .left name ∈ rows ↔ name ∈ names1 ∧ name ∉ names2
  only2 : ∀ name, .right name ∈ rows ↔ name ∈ names2 ∧ name ∉ names1

section Sorted

variable {names1 names2 : List String}

/-- Common names stand side by side. -/
theorem common_alignment (h1 : names1.Pairwise (· < ·)) (h2 : names2.Pairwise (· < ·))
    {name : String} (hmem1 : name ∈ names1) (hmem2 : name ∈ names2) :
    ∃ i, (alignment names1 names2)[i]? = some (Row.both name) ∧
      ∀ (j : Nat) row, (alignment names1 names2)[j]? = some row →
        row.fst? = some name ∨ row.snd? = some name → j = i := by
  obtain ⟨i, hi⟩ := List.mem_iff_getElem?.mp ((both_mem_alignment h1 h2).mpr ⟨hmem1, hmem2⟩)
  refine ⟨i, hi, fun j row hj hrow => ?_⟩
  cases hrow with
  | inl hrow =>
      have hnodup : ((alignment names1 names2).filterMap Row.fst?).Nodup := by
        rw [filterMap_fst?_alignment]
        exact h1.imp ne_of_lt
      exact eq_of_nodup_filterMap hnodup hj hi hrow rfl
  | inr hrow =>
      have hnodup : ((alignment names1 names2).filterMap Row.snd?).Nodup := by
        rw [filterMap_snd?_alignment]
        exact h2.imp ne_of_lt
      exact eq_of_nodup_filterMap hnodup hj hi hrow rfl

/-- A name of the first list only stands beside padding. -/
theorem left_mem_alignment (h1 : names1.Pairwise (· < ·)) (h2 : names2.Pairwise (· < ·))
    {name : String} :
    .left name ∈ alignment names1 names2 ↔ name ∈ names1 ∧ name ∉ names2 := by
  have hfst := filterMap_fst?_alignment names1 names2
  constructor
  · intro hrow
    have hmem1 : name ∈ names1 := hfst ▸ List.mem_filterMap.mpr ⟨_, hrow, rfl⟩
    refine ⟨hmem1, fun hmem2 => ?_⟩
    -- A common name has a row of its own already.
    obtain ⟨i, hi, huniq⟩ := common_alignment h1 h2 hmem1 hmem2
    obtain ⟨j, hj⟩ := List.mem_iff_getElem?.mp hrow
    rw [← huniq j _ hj (.inl rfl), hj] at hi
    cases hi
  · intro ⟨hmem1, hmem2⟩
    rw [← hfst] at hmem1
    obtain ⟨row, hrow, hname⟩ := List.mem_filterMap.mp hmem1
    rcases Row.fst?_eq_some.mp hname with rfl | rfl
    · exact absurd ((both_mem_alignment h1 h2).mp hrow).2 hmem2
    · exact hrow

/-- So does one of the second. -/
theorem right_mem_alignment (h1 : names1.Pairwise (· < ·)) (h2 : names2.Pairwise (· < ·))
    {name : String} :
    .right name ∈ alignment names1 names2 ↔ name ∈ names2 ∧ name ∉ names1 := by
  have hsnd := filterMap_snd?_alignment names1 names2
  constructor
  · intro hrow
    have hmem2 : name ∈ names2 := hsnd ▸ List.mem_filterMap.mpr ⟨_, hrow, rfl⟩
    refine ⟨hmem2, fun hmem1 => ?_⟩
    obtain ⟨i, hi, huniq⟩ := common_alignment h1 h2 hmem1 hmem2
    obtain ⟨j, hj⟩ := List.mem_iff_getElem?.mp hrow
    rw [← huniq j _ hj (.inr rfl), hj] at hi
    cases hi
  · intro ⟨hmem2, hmem1⟩
    rw [← hsnd] at hmem2
    obtain ⟨row, hrow, hname⟩ := List.mem_filterMap.mp hmem2
    rcases Row.snd?_eq_some.mp hname with rfl | rfl
    · exact absurd ((both_mem_alignment h1 h2).mp hrow).1 hmem1
    · exact hrow

/-- No name consists of underscores, so that the columns show which entries are padding. -/
theorem filter_columns (hnames : ∀ name ∈ names1 ++ names2, isPadding name = false) :
    ((alignment names1 names2).map text1).filter (fun entry => !isPadding entry) = names1 ∧
      ((alignment names1 names2).map text2).filter (fun entry => !isPadding entry) = names2 := by
  have hfst := filterMap_fst?_alignment names1 names2
  have hsnd := filterMap_snd?_alignment names1 names2
  rw [List.forall_mem_append] at hnames
  constructor
  · rw [filter_text text1 Row.fst?, hfst]
    · intro row hrow name hname
      have hmem : name ∈ names1 := hfst ▸ List.mem_filterMap.mpr ⟨row, hrow, hname⟩
      refine ⟨?_, hnames.1 name hmem⟩
      rcases Row.fst?_eq_some.mp hname with rfl | rfl <;> rfl
    · intro row _ hnone
      cases row with
      | both name => cases hnone
      | left name => cases hnone
      | right name => exact isPadding_underscores name
  · rw [filter_text text2 Row.snd?, hsnd]
    · intro row hrow name hname
      have hmem : name ∈ names2 := hsnd ▸ List.mem_filterMap.mpr ⟨row, hrow, hname⟩
      refine ⟨?_, hnames.2 name hmem⟩
      rcases Row.snd?_eq_some.mp hname with rfl | rfl <;> rfl
    · intro row _ hnone
      cases row with
      | both name => cases hnone
      | left name => exact isPadding_underscores name
      | right name => cases hnone

/-- **Two sorted lists of distinct names are aligned**: the results have the same length, each
without its padding is one of the lists, a common name has one position in both, and any other
name is opposite padding of its own length. -/
theorem buildDiffListResult_aligned (h1 : names1.Pairwise (· < ·))
    (h2 : names2.Pairwise (· < ·)) :
    (buildDiffListResult names1 names2).1.length = (buildDiffListResult names1 names2).2.length ∧
      (∃ rows, Aligned names1 names2 (buildDiffListResult names1 names2) rows) ∧
      ((∀ name ∈ names1 ++ names2, isPadding name = false) →
        (buildDiffListResult names1 names2).1.filter (fun entry => !isPadding entry) = names1 ∧
        (buildDiffListResult names1 names2).2.filter (fun entry => !isPadding entry) = names2) ∧
      ∀ name, (underscores name).length = name.length := by
  rw [buildDiffListResult_eq]
  refine ⟨by rw [List.length_map, List.length_map],
    ⟨alignment names1 names2,
      { column1 := rfl
        column2 := rfl
        names1_eq := filterMap_fst?_alignment names1 names2
        names2_eq := filterMap_snd?_alignment names1 names2
        common := fun _ hmem1 hmem2 => common_alignment h1 h2 hmem1 hmem2
        only1 := fun _ => left_mem_alignment h1 h2
        only2 := fun _ => right_mem_alignment h1 h2 }⟩,
    filter_columns, length_underscores⟩

end Sorted

/-- Two lists with one name in common. -/
theorem buildDiffListResult_aligned_abs_add :
    ∃ rows, Aligned ["abs", "vmul"] ["add", "vmul"]
      (buildDiffListResult ["abs", "vmul"] ["add", "vmul"]) rows :=
  (buildDiffListResult_aligned (by decide +kernel) (by decide +kernel)).2.1

end HwEfat.AutoSchedule.InterfaceCheck
