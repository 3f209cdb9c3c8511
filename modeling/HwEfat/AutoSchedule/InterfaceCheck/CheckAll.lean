/-
  HwEfat.AutoSchedule.InterfaceCheck.CheckAll — `check_source_file_match` and `check_all`: the
  whole checker, from the lines of the spec files to the verdict.

  Where the files are and what is in them is outside, in a `CheckEnv`.  A spec is compared to
  what the checker itself takes from the source, so that a spec file with just these lines is
  read to the same declarations (`SpecOf.read`): its lines have no comment left in them that
  could start another spec, and the specs of other files in front of it change nothing.

  Main results: `check_all_verdict`, `regenerated_specs_pass`.
-/
import HwEfat.AutoSchedule.InterfaceCheck.Returns
import HwEfat.AutoSchedule.InterfaceCheck.Soundness
import HwEfat.AutoSchedule.InterfaceCheck.SpecLines

namespace HwEfat.AutoSchedule.InterfaceCheck

open HwEfat.Lib

/-! ## §1. The program. -/

/-- What is outside: the letters of Unicode, where the files are, and what is in them. -/
structure CheckEnv where
  upper : Char → Bool
  lower : Char → Bool
  tbeRoot : String
  realpath : String → String
  /-- `ff.readlines()`, or why the file cannot be opened. -/
  readlines : String → Except PyError (List String)

/-- What `replace` makes of the characters, of which `skip` belong to what it replaced last. -/
def replaceChars (old new : List Char) : Nat → List Char → List Char
  | _, [] => []
  | skip + 1, _ :: cs => replaceChars old new skip cs
  | 0, c :: cs =>
      if old.isPrefixOf (c :: cs) then new ++ replaceChars old new (old.length - 1) cs
      else c :: replaceChars old new 0 cs

/-- `s.replace(old, new)`, where `old` is not empty. -/
def strReplace (s old new : String) : String :=
  String.ofList (replaceChars old.toList new.toList 0 s.toList)

/-- `if path.find(part) != -1: path = path.replace(old, new)` -/
def replaceIf (part old new path : String) : String :=
  if contains path part then strReplace path old new else path

section

variable (env : CheckEnv)

/-- `source_file_path` -/
def sourceFilePath (sourceFileName : String) : String :=
  let path := env.realpath (pathJoin env.tbeRoot sourceFileName)
  -- Every `/te` goes, once there is a `/te/`.
  let path := replaceIf "/te/" "/te" "" path
  let path := replaceIf "/cann/cann/" "/cann/cann/" "/cann/" path
  replaceIf "/canndev/cann/" "/canndev/cann/" "/canndev/" path

/-- `new_lines` -/
def newLinesOf (path : String) : Except PyError (List String) := do
  let text ← env.readlines path
  let lines ← getSpecFromFile env.upper env.lower text
  removeSubFuncUnderFunc env.upper env.lower lines

/-- `spec_in_source` -/
def specInSource (sourceFileName : String) : Except PyError FileSpec := do
  let path := sourceFilePath env sourceFileName
  let newLines ← newLinesOf env path
  buildFileSpec env.upper env.lower newLines (.new "" path)

/-- `check_source_file_match` -/
def checkSourceFileMatch (definedSpec : FileSpec) : Except PyError Bool := do
  let spec ← specInSource env definedSpec.sourceFileName
  compareFileSpec definedSpec spec

/-- `check_all`, on the spec files that it finds, with their lines. -/
def checkAll (specs : List (String × List String)) : Except PyError Bool := do
  let specDefineList ← getSpecInfoList env.upper env.lower specs
  checkEach (checkSourceFileMatch env) true specDefineList

end

/-! ## §2. The verdict. -/

section Verdict

variable {env : CheckEnv} {spec : FileSpec}

/-- The comparison of one file returns if its source is read and can be compared. -/
theorem returns_checkSourceFileMatch :
    Returns (checkSourceFileMatch env spec) ↔
      ∃ source, specInSource env spec.sourceFileName = .ok source ∧
        FileComparable spec source := by
  unfold checkSourceFileMatch Returns
  constructor
  · rintro ⟨b, h⟩
    obtain ⟨source, hsource, h⟩ := bind_eq_ok.mp h
    exact ⟨source, hsource, returns_compareFileSpec.mp ⟨b, h⟩⟩
  · rintro ⟨source, hsource, hcomparable⟩
    obtain ⟨b, hb⟩ := returns_compareFileSpec.mpr hcomparable
    exact ⟨b, bind_eq_ok.mpr ⟨source, hsource, hb⟩⟩

/-- **It is a match** if the source looks the same. -/
theorem checkSourceFileMatch_eq_true :
    checkSourceFileMatch env spec = .ok true ↔
      ∃ source, specInSource env spec.sourceFileName = .ok source ∧ LooksSame spec source := by
  unfold checkSourceFileMatch
  rw [bind_eq_ok]
  simp only [compareFileSpec_iff_looksSame]

/-- **The verdict of the checker.**  It returns if all spec files can be read, every source can,
and every spec can be compared to its source, whatever the comparisons find; and it returns
`True` if every spec also looks the same as its source. -/
theorem check_all_verdict (env : CheckEnv) (specs : List (String × List String)) :
    (Returns (checkAll env specs) ↔
      ∃ specList, getSpecInfoList env.upper env.lower specs = .ok specList ∧
        ∀ spec ∈ specList, ∃ source, specInSource env spec.sourceFileName = .ok source ∧
          FileComparable spec source) ∧
    (checkAll env specs = .ok true ↔
      ∃ specList, getSpecInfoList env.upper env.lower specs = .ok specList ∧
        ∀ spec ∈ specList, ∃ source, specInSource env spec.sourceFileName = .ok source ∧
          LooksSame spec source) := by
  unfold checkAll
  constructor
  · constructor
    · rintro ⟨b, h⟩
      obtain ⟨specList, hlist, h⟩ := bind_eq_ok.mp h
      refine ⟨specList, hlist, fun spec hspec => ?_⟩
      exact returns_checkSourceFileMatch.mp (returns_checkEach.mp ⟨b, h⟩ spec hspec)
    · rintro ⟨specList, hlist, hall⟩
      have hreturns : Returns (checkEach (checkSourceFileMatch env) true specList) :=
        returns_checkEach.mpr fun spec hspec => returns_checkSourceFileMatch.mpr (hall spec hspec)
      obtain ⟨b, hb⟩ := hreturns
      exact ⟨b, bind_eq_ok.mpr ⟨specList, hlist, hb⟩⟩
  · rw [bind_eq_ok]
    simp only [checkEach_eq_true, checkSourceFileMatch_eq_true, true_and]

end Verdict

/-! ## §3. A file behind other files. -/

/-- The same declarations under other names of the files. -/
def FileSpec.rename (specFileName sourceFileName : String) (f : FileSpec) : FileSpec :=
  { f with specFileName, sourceFileName }

/-- An entry, with so many files in front. -/
def SpecNode.shift (n : Nat) : SpecNode → SpecNode
  | file i => file (n + i)
  | cls i className => cls (n + i) className
  | func => func
  | globalVar => globalVar

/-- What has been read, with `files` in front of it and other names of its files. -/
def SpecState.after (st : SpecState) (files : List FileSpec)
    (specFileName sourceFileName : String) : SpecState where
  files := files ++ st.files.map (.rename specFileName sourceFileName)
  specTree := st.specTree.map (.shift files.length)

section After

variable {st : SpecState} {files : List FileSpec} {specFile sourceName specLine : String}
  {upper lower : Char → Bool}

/-- A node of a later file is of the same kind. -/
theorem SpecNode.typeName_shift (n : Nat) (node : SpecNode) :
    (node.shift n).typeName = node.typeName := by
  cases node <;> rfl

/-- A node of a later file is a file exactly if the node itself is one. -/
theorem SpecNode.isFile_shift (n : Nat) (node : SpecNode) :
    (node.shift n).isFile = node.isFile := by
  cases node <;> rfl

/-- A node of a later file takes functions exactly if the node itself does. -/
theorem SpecNode.takesFuncs_shift (n : Nat) (node : SpecNode) :
    (node.shift n).takesFuncs = node.takesFuncs := by
  cases node <;> rfl

/-- Nodes are placed in the same way. -/
theorem place_shift (n : Nat) (specTree : List SpecNode) (treeIdx : Nat) (node : SpecNode) :
    place (specTree.map (.shift n)) treeIdx (node.shift n)
      = (place specTree treeIdx node).map (.shift n) := by
  unfold place
  rw [List.length_map]
  by_cases hlt : specTree.length < treeIdx + 1
  · rw [if_pos hlt, if_pos hlt, List.map_append, List.map_singleton]
  · rw [if_neg hlt, if_neg hlt, List.map_set]

/-- Parents are found in the same way. -/
theorem parent_shift (n : Nat) (specTree : List SpecNode) (treeIdx : Nat)
    (typeName method : String) {hasMethod : SpecNode → Bool}
    (hshift : ∀ node, hasMethod (node.shift n) = hasMethod node) :
    parent (specTree.map (.shift n)) treeIdx typeName method hasMethod
      = (parent specTree treeIdx typeName method hasMethod).map (.shift n) := by
  unfold parent
  rw [List.getElem?_map, List.length_map]
  cases specTree[treeIdx - 1]? with
  | none =>
      show (if _ then _ else _) = Except.map _ (if _ then _ else _)
      by_cases hnew : treeIdx - 1 = specTree.length
      · rw [if_pos hnew]
        rfl
      · rw [if_neg hnew]
        rfl
  | some node =>
      show (if hasMethod (node.shift n) = true then _ else _)
        = Except.map _ (if hasMethod node = true then _ else _)
      rw [hshift, SpecNode.typeName_shift]
      by_cases hhas : hasMethod node = true
      · rw [if_pos hhas, if_pos hhas]
        rfl
      · rw [if_neg hhas, if_neg hhas]
        rfl

/-- A change of one of the files, behind other files. -/
theorem modify_after {f : FileSpec → FileSpec}
    (hrename : ∀ g, f (g.rename specFile sourceName) = (f g).rename specFile sourceName)
    (files l : List FileSpec) (i : Nat) :
    (files ++ l.map (FileSpec.rename specFile sourceName)).modify (files.length + i) f
      = files ++ (l.modify i f).map (FileSpec.rename specFile sourceName) := by
  induction files with
  | cons g files ih =>
      rw [List.cons_append, List.length_cons, Nat.succ_add, List.modify_succ_cons, ih,
        List.cons_append]
  | nil =>
      rw [List.nil_append, List.nil_append, List.length_nil, Nat.zero_add]
      induction l generalizing i with
      | nil => cases i <;> rfl
      | cons g l ih =>
          cases i with
          | zero => exact congrArg (· :: _) (hrename g)
          | succ i => exact congrArg (_ :: ·) (ih i)

/-- A method is added whatever the file is called. -/
theorem addMethod_rename (className : String) (spec : FuncIntfSpec) (g : FileSpec) :
    (g.rename specFile sourceName).addMethod className spec
      = (g.addMethod className spec).rename specFile sourceName := by
  unfold FileSpec.addMethod FileSpec.rename
  cases g.classSpecs.get? className <;> rfl

/-- A class is added behind other files as it is in front. -/
theorem addClass_after :
    addClass (st.after files specFile sourceName) specLine
      = (addClass st specLine).map (·.after files specFile sourceName) := by
  unfold addClass
  cases classIntfSpec specLine with
  | error e => rfl
  | ok classSpec =>
      show (parent (st.specTree.map _) _ _ _ _ >>= _)
        = Except.map _ (parent st.specTree _ _ _ _ >>= _)
      rw [parent_shift _ _ _ _ _ (SpecNode.isFile_shift _)]
      cases parent st.specTree (getTreeIdx specLine) "ClassIntfSpec" "add_class_spec"
          SpecNode.isFile with
      | error e => rfl
      | ok node =>
          cases node with
          | file i =>
              have hfiles := @modify_after specFile sourceName
                (·.addClassSpec classSpec) (fun _ => rfl) files st.files i
              have htree := place_shift files.length st.specTree (getTreeIdx specLine)
                (.cls i classSpec.className)
              exact congrArg Except.ok (congrArg₂ SpecState.mk hfiles htree)
          | cls i className => rfl
          | func => rfl
          | globalVar => rfl

/-- So is a function, -/
theorem addFunc_after :
    addFunc (st.after files specFile sourceName) specLine
      = (addFunc st specLine).map (·.after files specFile sourceName) := by
  unfold addFunc
  cases funcIntfSpec specLine with
  | error e => rfl
  | ok funcSpec =>
      show (parent (st.specTree.map _) _ _ _ _ >>= _)
        = Except.map _ (parent st.specTree _ _ _ _ >>= _)
      rw [parent_shift _ _ _ _ _ (SpecNode.takesFuncs_shift _)]
      have htree := place_shift files.length st.specTree (getTreeIdx specLine) .func
      cases parent st.specTree (getTreeIdx specLine) "FuncIntfSpec" "add_func_spec"
          SpecNode.takesFuncs with
      | error e => rfl
      | ok node =>
          cases node with
          | file i =>
              have hfiles := @modify_after specFile sourceName
                (·.addFuncSpec funcSpec) (fun _ => rfl) files st.files i
              exact congrArg Except.ok (congrArg₂ SpecState.mk hfiles htree)
          | cls i className =>
              have hfiles := @modify_after specFile sourceName (·.addMethod className funcSpec)
                (addMethod_rename className funcSpec) files st.files i
              exact congrArg Except.ok (congrArg₂ SpecState.mk hfiles htree)
          | func => rfl
          | globalVar => rfl

/-- and a global variable. -/
theorem addGlobalVar_after :
    addGlobalVar (st.after files specFile sourceName) specLine
      = (addGlobalVar st specLine).map (·.after files specFile sourceName) := by
  unfold addGlobalVar
  cases globalVarSpec specLine with
  | error e => rfl
  | ok spec =>
      show (parent (st.specTree.map _) _ _ _ _ >>= _)
        = Except.map _ (parent st.specTree _ _ _ _ >>= _)
      rw [parent_shift _ _ _ _ _ (SpecNode.isFile_shift _)]
      cases parent st.specTree (getTreeIdx specLine) "GlobalVarSpec" "add_global_var_spec"
          SpecNode.isFile with
      | error e => rfl
      | ok node =>
          cases node with
          | file i =>
              have hfiles := @modify_after specFile sourceName
                (·.addGlobalVarSpec spec) (fun _ => rfl) files st.files i
              have htree := place_shift files.length st.specTree (getTreeIdx specLine) .globalVar
              exact congrArg Except.ok (congrArg₂ SpecState.mk hfiles htree)
          | cls i className => rfl
          | func => rfl
          | globalVar => rfl

/-- A line does the same behind other files. -/
theorem addLine_after :
    addLine upper lower (st.after files specFile sourceName) specLine
      = (addLine upper lower st specLine).map (·.after files specFile sourceName) := by
  unfold addLine
  by_cases hcomment : startswith specLine "#" = true
  · rw [if_pos hcomment, if_pos hcomment]
    rfl
  · rw [if_neg hcomment, if_neg hcomment]
    by_cases hclass : contains specLine "class" = true
    · rw [if_pos hclass, if_pos hclass, addClass_after]
    · rw [if_neg hclass, if_neg hclass]
      by_cases hdef : contains specLine "def" = true
      · rw [if_pos hdef, if_pos hdef, addFunc_after]
      · rw [if_neg hdef, if_neg hdef]
        by_cases hglobal : isGlobalVariable upper lower specLine = true
        · rw [if_pos hglobal, if_pos hglobal, addGlobalVar_after]
        · rw [if_neg hglobal, if_neg hglobal]
          rfl

/-- Lines do the same behind other files. -/
theorem addLines_after (lines : List String) :
    lines.foldlM (fun st specLine => addLine upper lower st (rstrip specLine))
        (st.after files specFile sourceName)
      = (lines.foldlM (fun st specLine => addLine upper lower st (rstrip specLine)) st).map
          (·.after files specFile sourceName) := by
  induction lines generalizing st with
  | nil => rfl
  | cons line lines ih =>
      rw [List.foldlM_cons, List.foldlM_cons, addLine_after]
      cases addLine upper lower st (rstrip line) with
      | error e => rfl
      | ok st' => exact ih

end After

/-! ## §4. The lines that are taken from a source. -/

/-- There is nothing of a comment in the line. -/
def NoComment (line : String) : Prop := '#' ∉ line.toList

section Taken

variable {upper lower : Char → Bool} {line : String}

/-- Of a line without its comment. -/
theorem noComment_uncomment (line : String) : NoComment (uncomment line) := by
  unfold NoComment
  rw [uncomment_toList]
  intro hmem
  have hkept := List.mem_takeWhile_imp hmem
  exact absurd rfl (bne_iff_ne.mp hkept)

/-- White space does not matter. -/
theorem NoComment.rstrip (h : NoComment line) : NoComment (rstrip line) := by
  unfold NoComment Lib.rstrip
  rw [String.toList_ofList]
  exact fun hmem => h ((List.rdropWhile_prefix isspace _).subset hmem)

/-- Nor at the front. -/
theorem NoComment.strip (h : NoComment line) : NoComment (strip line) := by
  unfold NoComment Lib.strip
  rw [String.toList_ofList]
  intro hmem
  have hdropped := (List.rdropWhile_prefix isspace _).subset hmem
  exact h ((List.dropWhile_suffix isspace).subset hdropped)

/-- Of two lines together. -/
theorem noComment_append {line line' : String} (h : NoComment line) (h' : NoComment line') :
    NoComment (line ++ line') := by
  unfold NoComment
  rw [String.toList_append, List.mem_append]
  exact fun hmem => hmem.elim h h'

/-- A line adds itself or nothing. -/
theorem getNewLines_newLines (st : ScanState) :
    (getNewLines upper lower line st).newLines = st.newLines ∨
      (getNewLines upper lower line st).newLines = st.newLines ++ [rstrip line] := by
  unfold getNewLines
  by_cases hword : hasHeaderWord line = true
  · rw [if_pos hword]
    by_cases hends : (!endswith (rstrip line) ":") = true
    · rw [if_pos hends]
      exact .inr rfl
    · rw [if_neg hends]
      exact .inr rfl
  · rw [if_neg hword]
    by_cases hglobal : isGlobalVariable upper lower line = true
    · rw [if_pos hglobal]
      exact .inr rfl
    · rw [if_neg hglobal]
      exact .inl rfl

/-- A turn of the loop keeps the lines free of comments. -/
theorem noComment_scanLine {st st' : ScanState} (hst : ∀ l ∈ st.newLines, NoComment l)
    (h : scanLine upper lower st line = .ok st') : ∀ l ∈ st'.newLines, NoComment l := by
  have hcode := noComment_uncomment line
  unfold scanLine at h
  dsimp only at h
  by_cases hblock : st.blockComment = true
  · rw [if_pos hblock] at h
    by_cases hquotes : contains (strip line) tripleQuotes = true
    · rw [if_pos hquotes] at h
      cases h
      exact hst
    · rw [if_neg hquotes] at h
      cases h
      exact hst
  · rw [if_neg hblock] at h
    by_cases hcomment : startswith (strip line) "#" = true
    · rw [if_pos hcomment] at h
      cases h
      exact hst
    · rw [if_neg hcomment] at h
      by_cases hquotes : (contains (strip line) tripleQuotes
          && !endswith (strip line) tripleQuotes) = true
      · rw [if_pos hquotes] at h
        cases h
        exact hst
      · rw [if_neg hquotes] at h
        by_cases hend : st.lineEnd = true
        · -- A new line, if any.
          rw [if_pos hend] at h
          cases h
          cases @getNewLines_newLines upper lower _ st with
          | inl heq =>
              rw [heq]
              exact hst
          | inr heq =>
              rw [heq]
              intro l hl
              cases List.mem_append.mp hl with
              | inl hmem => exact hst l hmem
              | inr hmem =>
                  rw [List.mem_singleton.mp hmem]
                  exact hcode.rstrip
        · -- More of the last line.
          rw [if_neg hend] at h
          cases hlast : st.newLines.getLast? with
          | none =>
              rw [hlast] at h
              cases h
          | some last =>
              rw [hlast] at h
              cases h
              intro l hl
              cases List.mem_append.mp hl with
              | inl hmem => exact hst l (List.dropLast_subset _ hmem)
              | inr hmem =>
                  rw [List.mem_singleton.mp hmem]
                  exact noComment_append (hst last (List.mem_of_getLast? hlast)) hcode.strip

/-- The loop keeps the lines free of comments. -/
theorem noComment_scanFrom {text : List String} {st st' : ScanState}
    (hst : ∀ l ∈ st.newLines, NoComment l)
    (h : text.foldlM (scanLine upper lower) st = .ok st') : ∀ l ∈ st'.newLines, NoComment l := by
  refine foldlM_keeps (I := fun st => ∀ l ∈ st.newLines, NoComment l) ?_ hst h
  intro line _ st st' hst hline
  exact noComment_scanLine hst hline

/-- The lines that `get_spec_from_file` returns have no comments. -/
theorem noComment_getSpecFromFile {text lines : List String}
    (h : getSpecFromFile upper lower text = .ok lines) : ∀ l ∈ lines, NoComment l := by
  obtain ⟨st, hscan, hst⟩ := bind_eq_ok.mp h
  cases hst
  exact noComment_scanFrom (fun l hl => absurd hl List.not_mem_nil) hscan

/-- The first pass keeps a line or drops it. -/
theorem newLines_removeLine {st st' : RemoveState} (h : removeLine upper lower st line = .ok st') :
    st'.newLines = st.newLines ∨ st'.newLines = st.newLines ++ [line] := by
  unfold removeLine at h
  dsimp only at h
  cases htype : typeNameOf upper lower line st.typeName with
  | none =>
      rw [htype] at h
      cases h
  | some typeName =>
      rw [htype] at h
      dsimp only at h
      by_cases hunder : typeName = "func" ∧ underFunc st.treeInfo (getTreeIdx line) = true
      · rw [if_pos hunder] at h
        cases h
        exact .inl rfl
      · rw [if_neg hunder] at h
        cases h
        exact .inr rfl

/-- What is kept was there. -/
theorem mem_of_removeFrom {lines : List String} {st st' : RemoveState}
    (h : lines.foldlM (removeLine upper lower) st = .ok st') :
    ∀ l ∈ st'.newLines, l ∈ st.newLines ∨ l ∈ lines := by
  refine foldlM_keeps (I := fun st' => ∀ l ∈ st'.newLines, l ∈ st.newLines ∨ l ∈ lines) ?_
    (fun l hl => .inl hl) h
  intro line hmem st₁ st₂ hst₁ hline l hl
  cases newLines_removeLine hline with
  | inl heq =>
      rw [heq] at hl
      exact hst₁ l hl
  | inr heq =>
      rw [heq, List.mem_append, List.mem_singleton] at hl
      cases hl with
      | inl hl => exact hst₁ l hl
      | inr hl =>
          rw [hl]
          exact .inr hmem

/-- `remove_sub_func_under_func` only leaves lines out. -/
theorem mem_of_removeSubFuncUnderFunc {lines newLines : List String}
    (h : removeSubFuncUnderFunc upper lower lines = .ok newLines) : ∀ l ∈ newLines, l ∈ lines := by
  obtain ⟨st, hremove, hst⟩ := bind_eq_ok.mp h
  cases hst
  exact fun l hl => (mem_of_removeFrom hremove l hl).resolve_left List.not_mem_nil

/-- **The new lines** have no comments. -/
theorem noComment_newLinesOf {env : CheckEnv} {path : String} {newLines : List String}
    (h : newLinesOf env path = .ok newLines) : ∀ l ∈ newLines, NoComment l := by
  obtain ⟨text, _, h⟩ := bind_eq_ok.mp h
  obtain ⟨lines, hlines, hremove⟩ := bind_eq_ok.mp h
  exact fun l hl => noComment_getSpecFromFile hlines l (mem_of_removeSubFuncUnderFunc hremove l hl)

/-- A line without a comment starts no other spec. -/
theorem addSpecFileLine_of_noComment {st : SpecState} (specFile : String)
    (h : NoComment line) :
    addSpecFileLine upper lower specFile st line = addLine upper lower st line := by
  unfold addSpecFileLine
  refine if_neg fun hcontains => h ?_
  exact (contains_iff.mp hcontains).subset (by decide)

end Taken

/-! ## §5. Spec files written from the sources. -/

/-- What the checker looks up in a spec under a trimmed name is there. -/
structure FoundTrimmed (spec : FileSpec) : Prop where
  globals : ∀ name ∈ spec.globalVarSpec.keys, strip name ∈ spec.globalVarSpec.keys
  classes : ∀ name ∈ spec.classSpecs.keys, strip name ∈ spec.classSpecs.keys

instance (spec : FileSpec) : Decidable (FoundTrimmed spec) :=
  decidable_of_iff ((∀ name ∈ spec.globalVarSpec.keys, strip name ∈ spec.globalVarSpec.keys) ∧
    ∀ name ∈ spec.classSpecs.keys, strip name ∈ spec.classSpecs.keys)
    ⟨fun h => ⟨h.1, h.2⟩, fun h => ⟨h.globals, h.classes⟩⟩

/-- A spec file with the lines that the checker takes from a source that it can read. -/
structure SpecOf (env : CheckEnv) where
  specFile : String
  sourceName : String
  newLines : List String
  source : FileSpec
  isSpec : endswith specFile "pyh" = true
  trimmed : strip sourceName = sourceName
  taken : newLinesOf env (sourceFilePath env sourceName) = .ok newLines
  built : buildFileSpec env.upper env.lower newLines (.new "" (sourceFilePath env sourceName))
    = .ok source

namespace SpecOf

variable {env : CheckEnv}

/-- The line that names the source. -/
def headLine (f : SpecOf env) : String := "# source file: " ++ f.sourceName ++ "\n"

/-- The lines of the spec file. -/
def lines (f : SpecOf env) : List String := f.headLine :: f.newLines.map (· ++ "\n")

/-- The spec that is read from it. -/
def defined (f : SpecOf env) : FileSpec := f.source.rename f.specFile f.sourceName

end SpecOf

/-- What stands in front of a file name stays when the line is trimmed. -/
theorem rstrip_headLine (name : String) :
    rstrip ("# source file: " ++ name ++ "\n")
      = "# source file:" ++ rstrip (" " ++ name ++ "\n") := by
  have hhead : "# source file: ".toList = "# source file".toList ++ ':' :: " ".toList := by decide
  have htitle : "# source file:".toList = "# source file".toList ++ [':'] := by decide
  unfold rstrip
  apply String.toList_inj.mp
  simp only [String.toList_append, String.toList_ofList, hhead, htitle, List.append_assoc,
    List.cons_append, List.nil_append]
  rw [rdropWhile_append_cons isspace (by decide)]

section Files

variable {upper lower : Char → Bool} {st st' : SpecState} {line : String}

/-- A class adds no file. -/
theorem length_files_addClass (h : addClass st line = .ok st') :
    st'.files.length = st.files.length := by
  obtain ⟨spec, _, h⟩ := bind_eq_ok.mp h
  obtain ⟨node, _, h⟩ := bind_eq_ok.mp h
  cases node with
  | file i =>
      cases h
      exact List.length_modify _ _ _
  | cls i className => cases h; rfl
  | func => cases h; rfl
  | globalVar => cases h; rfl

/-- Nor does a function, -/
theorem length_files_addFunc (h : addFunc st line = .ok st') :
    st'.files.length = st.files.length := by
  obtain ⟨spec, _, h⟩ := bind_eq_ok.mp h
  obtain ⟨node, _, h⟩ := bind_eq_ok.mp h
  cases node with
  | file i =>
      cases h
      exact List.length_modify _ _ _
  | cls i className =>
      cases h
      exact List.length_modify _ _ _
  | func => cases h; rfl
  | globalVar => cases h; rfl

/-- nor a global variable. -/
theorem length_files_addGlobalVar (h : addGlobalVar st line = .ok st') :
    st'.files.length = st.files.length := by
  obtain ⟨spec, _, h⟩ := bind_eq_ok.mp h
  obtain ⟨node, _, h⟩ := bind_eq_ok.mp h
  cases node with
  | file i =>
      cases h
      exact List.length_modify _ _ _
  | cls i className => cases h; rfl
  | func => cases h; rfl
  | globalVar => cases h; rfl

/-- A line starts no file. -/
theorem length_files_addLine (h : addLine upper lower st line = .ok st') :
    st'.files.length = st.files.length := by
  unfold addLine at h
  by_cases hcomment : startswith line "#" = true
  · rw [if_pos hcomment] at h
    cases h
    rfl
  · rw [if_neg hcomment] at h
    by_cases hclass : contains line "class" = true
    · rw [if_pos hclass] at h
      exact length_files_addClass h
    · rw [if_neg hclass] at h
      by_cases hdef : contains line "def" = true
      · rw [if_pos hdef] at h
        exact length_files_addFunc h
      · rw [if_neg hdef] at h
        by_cases hglobal : isGlobalVariable upper lower line = true
        · rw [if_pos hglobal] at h
          exact length_files_addGlobalVar h
        · rw [if_neg hglobal] at h
          cases h
          rfl

/-- **The lines of a file** add no other. -/
theorem length_files_addLines {lines : List String}
    (h : lines.foldlM (fun st specLine => addLine upper lower st (rstrip specLine)) st
      = .ok st') : st'.files.length = st.files.length := by
  refine foldlM_keeps (I := fun st' => st'.files.length = st.files.length) ?_ rfl h
  intro line _ st₁ st₂ hst₁ hline
  exact (length_files_addLine hline).trans hst₁

end Files

section Regenerated

variable {env : CheckEnv}

/-- The first line starts a spec of the source. -/
theorem SpecOf.addHeadLine (f : SpecOf env) (st : SpecState) :
    addSpecFileLine env.upper env.lower f.specFile st (rstrip f.headLine)
      = .ok
          { files := st.files ++ [.new f.specFile f.sourceName]
            specTree := place st.specTree 0 (.file st.files.length) } := by
  have hhead : rstrip f.headLine = "# source file:" ++ rstrip (" " ++ f.sourceName ++ "\n") :=
    rstrip_headLine f.sourceName
  have hcontains : contains (rstrip f.headLine) "# source file:" = true := by
    rw [hhead, contains_iff, String.toList_append]
    exact List.infix_append [] _ _
  have hname : strip (sliceFrom (rstrip f.headLine) 14) = f.sourceName := by
    have hslice : sliceFrom (rstrip f.headLine) 14 = rstrip (" " ++ f.sourceName ++ "\n") := by
      unfold sliceFrom
      rw [hhead, String.toList_append,
        show (14 : Nat) = "# source file:".toList.length from rfl, List.drop_left,
        String.ofList_toList]
    rw [hslice, rstrip_newline, strip_rstrip, strip_space, f.trimmed]
  unfold addSpecFileLine
  rw [if_pos hcontains, hname]

/-- The lines of a generated file are read as they were written. -/
theorem SpecOf.addNewLines (f : SpecOf env) (st : SpecState) :
    (f.newLines.map (· ++ "\n")).foldlM
        (fun st specLine => addSpecFileLine env.upper env.lower f.specFile st (rstrip specLine)) st
      = f.newLines.foldlM
        (fun st specLine => addLine env.upper env.lower st (rstrip specLine)) st := by
  have hcode := noComment_newLinesOf f.taken
  generalize f.newLines = newLines at hcode ⊢
  induction newLines generalizing st with
  | nil => rw [List.map_nil, List.foldlM_nil, List.foldlM_nil]
  | cons line newLines ih =>
      rw [List.forall_mem_cons] at hcode
      rw [List.map_cons, List.foldlM_cons, List.foldlM_cons, rstrip_newline,
        addSpecFileLine_of_noComment f.specFile hcode.1.rstrip]
      exact bind_congr fun st' => ih st' hcode.2

/-- The lines are read to the declarations of the source, behind the specs so far. -/
theorem SpecOf.read (f : SpecOf env) (files : List FileSpec) :
    ∃ specTree, f.lines.foldlM
        (fun st specLine => addSpecFileLine env.upper env.lower f.specFile st (rstrip specLine))
        { files, specTree := [] }
      = .ok { files := files ++ [f.defined], specTree } := by
  obtain ⟨st, hst, hfirst⟩ := bind_eq_ok.mp f.built
  have hlength : st.files.length = 1 := length_files_addLines hst
  obtain ⟨spec, hspec⟩ := List.length_eq_one_iff.mp hlength
  rw [hspec] at hfirst
  cases hfirst
  refine ⟨st.specTree.map (.shift files.length), ?_⟩
  unfold SpecOf.lines
  rw [List.foldlM_cons, f.addHeadLine]
  show (f.newLines.map _).foldlM _ _ = _
  rw [f.addNewLines]
  -- The spec is a new one behind `files`.
  have hstart : SpecState.mk (files ++ [.new f.specFile f.sourceName])
        (place [] 0 (.file files.length))
      = SpecState.after { files := [.new "" (sourceFilePath env f.sourceName)],
                          specTree := [.file 0] } files f.specFile f.sourceName := rfl
  rw [hstart, addLines_after, hst]
  show Except.ok (st.after files f.specFile f.sourceName) = _
  unfold SpecState.after
  rw [hspec]
  rfl

/-- Spec files are read one by one. -/
theorem getSpecInfoList_lines (files : List (SpecOf env)) :
    getSpecInfoList env.upper env.lower (files.map fun f => (f.specFile, f.lines))
      = .ok (files.map SpecOf.defined) := by
  suffices hrun : ∀ read : List FileSpec,
      (files.map fun f => (f.specFile, f.lines)).foldlM
        (fun files spec =>
          if endswith spec.1 "pyh" then do
            let st ← spec.2.foldlM
              (fun st specLine =>
                addSpecFileLine env.upper env.lower spec.1 st (rstrip specLine))
              { files, specTree := [] }
            .ok st.files
          else .ok files)
        read
      = (.ok (read ++ files.map SpecOf.defined) : Except PyError (List FileSpec)) from hrun []
  induction files with
  | nil =>
      intro read
      rw [List.map_nil, List.map_nil, List.append_nil]
      rfl
  | cons f files ih =>
      intro read
      obtain ⟨specTree, hread⟩ := f.read read
      rw [List.map_cons, List.foldlM_cons, if_pos f.isSpec, hread]
      refine (ih (read ++ [f.defined])).trans ?_
      rw [List.append_assoc, List.map_cons, List.singleton_append]

/-- A file agrees with itself if every name is found without its white space. -/
theorem trimmedAgree_self {α : Type} {R : α → α → Prop} (hR : ∀ a, R a a) (d : Dict α) :
    TrimmedAgree R d d ↔ ∀ name ∈ d.keys, strip name ∈ d.keys := by
  unfold TrimmedAgree
  rw [and_iff_right (.refl _), List.forall_mem_map]
  refine forall₂_congr fun name _ => ?_
  rw [Dict.mem_keys_iff]
  constructor
  · rintro ⟨a, _, ha, _, _⟩
    exact ⟨a, ha⟩
  · rintro ⟨a, ha⟩
    exact ⟨a, a, ha, ha, hR a⟩

/-- Every function is the same as itself. -/
theorem sameFuncs_self (d : Dict FuncIntfSpec) : SameFuncs d d := by
  intro name _
  cases d.get? name with
  | none => exact .none
  | some func => exact .some (.refl _)

/-- A spec looks the same as itself if its trimmed names are found. -/
theorem looksSame_rename_iff (specFile sourceName : String) (spec : FileSpec) :
    LooksSame (spec.rename specFile sourceName) spec ↔ FoundTrimmed spec := by
  have hglobals : TrimmedAgree SameChars spec.globalVarSpec spec.globalVarSpec ↔ _ :=
    trimmedAgree_self (fun _ => .refl _) _
  have hclasses : TrimmedAgree SameMethods spec.classSpecs spec.classSpecs ↔ _ :=
    trimmedAgree_self (fun c => sameFuncs_self c.funcList) _
  constructor
  · intro h
    refine ⟨hglobals.mp h.globals, fun name hname => ?_⟩
    have hpass : ClassesPass (spec.rename specFile sourceName) spec := h.classes
    unfold ClassesPass at hpass
    have hne : (spec.rename specFile sourceName).classSpecs.keys ≠ [] := List.ne_nil_of_mem hname
    rw [if_neg hne] at hpass
    exact hclasses.mp hpass name hname
  · intro h
    refine ⟨hglobals.mpr h.globals, sameFuncs_self _, ?_⟩
    unfold ClassesPass
    by_cases hnil : (spec.rename specFile sourceName).classSpecs.keys = []
    · rw [if_pos hnil, show spec.classSpecs.keys = [] from hnil]
      exact fun name hname => absurd hname (Option.not_mem_none name)
    · rw [if_neg hnil]
      exact hclasses.mpr h.classes

/-- **Spec files that are written anew from the sources pass**, unless there is a class or a
global variable that the checker does not find under its trimmed name. -/
theorem regenerated_specs_pass (env : CheckEnv) (files : List (SpecOf env)) :
    checkAll env (files.map fun f => (f.specFile, f.lines)) = .ok true ↔
      ∀ f ∈ files, FoundTrimmed f.source := by
  unfold checkAll
  rw [getSpecInfoList_lines]
  show checkEach _ true _ = .ok true ↔ _
  rw [checkEach_eq_true, and_iff_right rfl, List.forall_mem_map]
  refine forall₂_congr fun f _ => ?_
  have hsource : specInSource env f.defined.sourceFileName = .ok f.source :=
    bind_eq_ok.mpr ⟨f.newLines, f.taken, f.built⟩
  rw [checkSourceFileMatch_eq_true, hsource, ← looksSame_rename_iff f.specFile f.sourceName]
  constructor
  · rintro ⟨source, heq, hsame⟩
    cases heq
    exact hsame
  · intro hsame
    exact ⟨f.source, rfl, hsame⟩

end Regenerated

/-! ## §6. Two sources. -/

/-- A source with a function and a global variable, and one with a class. -/
def twoSources : CheckEnv where
  upper := Char.isUpper
  lower := Char.isLower
  tbeRoot := "/tbe"
  realpath path := path
  readlines path :=
    if path = "/tbe/fuse.py" then
      .ok ["AXIS = 1  # the last\n", "def fuse(a, b):\n", "    return a\n"]
    else .ok ["class Cube:\n", "    def split(self, axis):\n", "        return axis\n"]

/-- A spec file, from the lines that are taken and a test of what is built from them. -/
theorem exists_specOf (env : CheckEnv) (specFile sourceName : String) (newLines : List String)
    (hspec : endswith specFile "pyh" = true) (htrimmed : strip sourceName = sourceName)
    (htaken : (newLinesOf env (sourceFilePath env sourceName)).toOption = some newLines)
    (hbuilt : (buildFileSpec env.upper env.lower newLines
      (.new "" (sourceFilePath env sourceName))).toOption.any
        (fun source => decide (FoundTrimmed source)) = true) :
    ∃ f : SpecOf env, f.specFile = specFile ∧ f.sourceName = sourceName ∧
      f.newLines = newLines ∧ FoundTrimmed f.source := by
  obtain ⟨source, hbuilt, hfound⟩ := exists_eq_ok hbuilt
  exact ⟨⟨specFile, sourceName, newLines, source, hspec, htrimmed, toOption_eq_some.mp htaken,
    hbuilt⟩, rfl, rfl, rfl, of_decide_eq_true hfound⟩

/-- `regenerated_specs_pass` of the spec files of these sources. -/
theorem regenerated_specs_pass_two :
    ∃ fuse cube : SpecOf twoSources,
      fuse.lines = ["# source file: fuse.py\n", "AXIS = 1\n", "def fuse(a, b):\n"] ∧
      cube.lines = ["# source file: cube.py\n", "class Cube:\n", "    def split(self, axis):\n"] ∧
      checkAll twoSources ([fuse, cube].map fun f => (f.specFile, f.lines)) = .ok true := by
  obtain ⟨fuse, _, hfuseName, hfuseLines, hfuse⟩ := exists_specOf twoSources
    "fuse.pyh" "fuse.py" ["AXIS = 1", "def fuse(a, b):"]
    (by decide +kernel) (by decide +kernel) (by decide +kernel) (by decide +kernel)
  obtain ⟨cube, _, hcubeName, hcubeLines, hcube⟩ := exists_specOf twoSources
    "cube.pyh" "cube.py" ["class Cube:", "    def split(self, axis):"]
    (by decide +kernel) (by decide +kernel) (by decide +kernel) (by decide +kernel)
  refine ⟨fuse, cube, ?_, ?_, (regenerated_specs_pass twoSources [fuse, cube]).mpr fun f hf => ?_⟩
  · unfold SpecOf.lines SpecOf.headLine
    rw [hfuseName, hfuseLines]
    rfl
  · unfold SpecOf.lines SpecOf.headLine
    rw [hcubeName, hcubeLines]
    rfl
  · rcases List.mem_pair.mp hf with rfl | rfl
    · exact hfuse
    · exact hcube

end HwEfat.AutoSchedule.InterfaceCheck
