/-
  HwEfat.AutoSchedule.InterfaceCheck.Attachment — where `build_file_spec` puts the functions of
  a file, once `remove_sub_func_under_func` has removed those in functions.

  Both functions keep a list of what was declared last at each indentation, which is never
  shortened.  It does no harm: what is left over is a method, and everything under a function is
  removed.  But only a file takes a class, and a line is taken for what it contains and not for
  what it starts with.

  Main result: `attached_iff`.
-/
import Mathlib.Data.List.Induction
import Mathlib.Tactic.IntervalCases
import HwEfat.AutoSchedule.InterfaceCheck.SubFuncs

namespace HwEfat.AutoSchedule.InterfaceCheck

open HwEfat.Lib

variable {upper lower : Char → Bool}

/-! ## §1. Attaching functions. -/

/-- `add_func_spec` of an object of the tree. -/
def SpecNode.addFuncSpec (node : SpecNode) (files : List FileSpec) (spec : FuncIntfSpec) :
    List FileSpec :=
  match node with
  | .file i => files.modify i (·.addFuncSpec spec)
  | .cls i className => files.modify i (·.addMethod className spec)
  | _ => files

/-- The line is read as a function, and the object gets it. -/
def GoesTo (st : SpecState) (specLine : String) (node : SpecNode) (st' : SpecState) : Prop :=
  ∃ spec, funcIntfSpec specLine = .ok spec ∧
    st' =
      { files := node.addFuncSpec st.files spec
        specTree := place st.specTree (getTreeIdx specLine) .func }

/-- The loop of `build_file_spec`, over some of the lines. -/
def buildLines (upper lower : Char → Bool) (specLines : List String) (fileSpec : FileSpec) :
    Except PyError SpecState :=
  specLines.foldlM (fun st specLine => addLine upper lower st (rstrip specLine))
    { files := [fileSpec], specTree := [.file 0] }

/-- The name under which the program puts the class of a header into the file. -/
def classNameOf (h : Header upper lower) : String :=
  match classIntfSpec (rstrip h.line) with
  | .ok spec => spec.className
  | .error _ => ""

/-- The innermost class of some headers, or the file. -/
def target (scope : List (Header upper lower)) : SpecNode :=
  match scope.reverse.find? fun h => h.kind = .cls with
  | some h => .cls 0 (classNameOf h)
  | none => .file 0

/-- Nothing raises, and every function that remains goes to the innermost class that it is
under, or to the file. -/
structure Attached (headers : List (Header upper lower)) (fileSpec : FileSpec) : Prop where
  returns : ∃ newLines file,
    removeSubFuncUnderFunc upper lower (headers.map Header.line) = .ok newLines ∧
      buildFileSpec upper lower newLines fileSpec = .ok file
  attaches : ∀ before h after, headers = before ++ h :: after → h.kind = .func →
    ∀ newLines st,
      removeSubFuncUnderFunc upper lower (before.map Header.line) = .ok newLines →
      removeSubFuncUnderFunc upper lower ((before ++ [h]).map Header.line)
        = .ok (newLines ++ [h.line]) →
      buildLines upper lower newLines fileSpec = .ok st →
      ∃ st', addLine upper lower st (rstrip h.line) = .ok st' ∧
        GoesTo st (rstrip h.line) (target (enclosing before h)) st'

/-- A header that is put where it belongs: a class at top level, a function without the word
`class` in it unless it is removed, a global variable that has the parentheses of what it may be
taken for. -/
structure Placeable (before : List (Header upper lower)) (h : Header upper lower) : Prop where
  cls : h.kind = .cls → h.level = 0
  func : h.kind = .func → (∀ x ∈ enclosing before h, x.kind ≠ .func) →
    contains (rstrip h.line) "class" = false
  globalClass : h.kind = .globalVar → contains (rstrip h.line) "class" = true →
    contains h.line "(" = true → contains h.line ")" = true
  globalFunc : h.kind = .globalVar → contains (rstrip h.line) "class" = false →
    contains (rstrip h.line) "def" = true →
      contains h.line "(" = true ∧ contains h.line ")" = true

/-- Every header is. -/
def AllPlaceable (headers : List (Header upper lower)) : Prop :=
  ∀ before h after, headers = before ++ h :: after → Placeable before h

/-! ## §2. Lines as they are built. -/

section Put

variable {α : Type} {l : List α} {idx : Nat} {a : α}

/-- The tree has a node at the level, and at most one more than before. -/
theorem length_put (h : idx ≤ l.length) :
    (if l.length ≤ idx then l ++ [a] else l.set idx a).length = max l.length (idx + 1) := by
  split
  · rw [List.length_append, List.length_singleton]
    omega
  · rw [List.length_set]
    omega

/-- The node at the level is the new one. -/
theorem getElem?_put (h : idx ≤ l.length) (k : Nat) :
    (if l.length ≤ idx then l ++ [a] else l.set idx a)[k]?
      = if k = idx then some a else l[k]? := by
  split
  · obtain rfl : idx = l.length := by omega
    by_cases hk : k = l.length
    · rw [if_pos hk, hk, List.getElem?_concat_length]
    · rw [if_neg hk]
      rcases Nat.lt_or_gt_of_ne hk with hlt | hgt
      · rw [List.getElem?_append_left hlt]
      · rw [List.getElem?_eq_none (by simp; omega), List.getElem?_eq_none (by omega)]
  · rw [List.getElem?_set]
    by_cases hk : k = idx
    · rw [if_pos hk.symm, if_pos hk, if_pos (by omega)]
    · rw [if_neg (Ne.symm hk), if_neg hk]

/-- A node replaces the one of its level. -/
theorem place_eq (specTree : List SpecNode) (node : SpecNode) :
    place specTree idx node
      = if specTree.length ≤ idx then specTree ++ [node] else specTree.set idx node := by
  unfold place
  simp only [Nat.lt_succ_iff]

end Put

section Lines

variable {st st' : SpecState} {specLine : String} {node : SpecNode} {level : Nat}

/-- A class header is read unless its bracket is not closed. -/
theorem exists_classIntfSpec : (∃ spec, classIntfSpec specLine = .ok spec) ↔
    (contains specLine "(" = true → contains specLine ")" = true) := by
  unfold classIntfSpec
  by_cases hopen : contains specLine "(" = true
  · obtain ⟨i, hi⟩ := strIndex_iff.mpr hopen
    rw [if_pos hopen, hi, forall_prop_of_true hopen, ← strIndex_iff]
    constructor
    · intro ⟨spec, hspec⟩
      obtain ⟨_, _, hspec⟩ := bind_eq_ok.mp hspec
      obtain ⟨j, hj, _⟩ := bind_eq_ok.mp hspec
      exact ⟨j, hj⟩
    · intro ⟨j, hj⟩
      exact ⟨_, bind_eq_ok.mpr ⟨i, rfl, bind_eq_ok.mpr ⟨j, hj, rfl⟩⟩⟩
  · rw [if_neg hopen]
    exact iff_of_true ⟨_, rfl⟩ fun h => absurd h hopen

/-- A function header is read if it has its brackets. -/
theorem exists_funcIntfSpec : (∃ spec, funcIntfSpec specLine = .ok spec) ↔
    contains (strip specLine) "(" = true ∧ contains (strip specLine) ")" = true := by
  unfold funcIntfSpec
  rw [← strIndex_iff, ← strIndex_iff]
  constructor
  · intro ⟨spec, hspec⟩
    obtain ⟨i, hi, hspec⟩ := bind_eq_ok.mp hspec
    obtain ⟨j, hj, _⟩ := bind_eq_ok.mp hspec
    exact ⟨⟨i, hi⟩, ⟨j, hj⟩⟩
  · intro ⟨⟨i, hi⟩, ⟨j, hj⟩⟩
    exact ⟨_, bind_eq_ok.mpr ⟨i, hi, bind_eq_ok.mpr ⟨j, hj, rfl⟩⟩⟩

/-- The parent of a header is the node of the level above. -/
theorem parent_eq (hnode : st.specTree[level]? = some node) (typeName method : String)
    {hasMethod : SpecNode → Bool} (hmethod : hasMethod node = true) :
    parent st.specTree (level + 1) typeName method hasMethod = .ok node := by
  unfold parent
  rw [Nat.add_sub_cancel, hnode]
  exact if_pos hmethod

/-- Only a file takes a class or a global variable. -/
theorem parent_error (hnode : ∀ node, st.specTree[level]? = some node → node.isFile = false)
    (typeName method : String) :
    ∃ e, parent st.specTree (level + 1) typeName method SpecNode.isFile = .error e := by
  unfold parent
  rw [Nat.add_sub_cancel]
  cases hget : st.specTree[level]? with
  | none =>
      dsimp only
      split
      · exact ⟨_, rfl⟩
      · exact ⟨_, rfl⟩
  | some node =>
      dsimp only
      rw [hnode node hget]
      exact ⟨_, rfl⟩

/-- A class on the first level is added to the file. -/
theorem addClass_eq (hidx : getTreeIdx specLine = 1) (hfile : st.specTree[0]? = some (.file 0))
    {spec : ClassIntfSpec} (hspec : classIntfSpec specLine = .ok spec) :
    addClass st specLine = .ok
      { files := st.files.modify 0 (·.addClassSpec spec)
        specTree := place st.specTree 1 (.cls 0 spec.className) } := by
  have hparent : parent st.specTree 1 "ClassIntfSpec" "add_class_spec" SpecNode.isFile
      = .ok (.file 0) := parent_eq hfile _ _ rfl
  unfold addClass
  rw [hidx, hspec]
  exact bind_eq_ok.mpr ⟨spec, rfl, bind_eq_ok.mpr ⟨_, hparent, rfl⟩⟩

/-- A class below anything else raises. -/
theorem addClass_error (hidx : getTreeIdx specLine = level + 1)
    (hnode : ∀ node, st.specTree[level]? = some node → node.isFile = false) :
    ∃ e, addClass st specLine = .error e := by
  obtain ⟨e, he⟩ := parent_error hnode "ClassIntfSpec" "add_class_spec"
  unfold addClass
  rw [hidx]
  cases classIntfSpec specLine with
  | error e' => exact ⟨e', rfl⟩
  | ok spec =>
      refine ⟨e, ?_⟩
      change (parent st.specTree (level + 1) "ClassIntfSpec" "add_class_spec" SpecNode.isFile
        >>= _) = _
      rw [he]
      rfl

/-- A function is added to the file or the class above it. -/
theorem addFunc_eq (hidx : getTreeIdx specLine = level + 1)
    (hnode : st.specTree[level]? = some node) (htakes : node.takesFuncs = true)
    {spec : FuncIntfSpec} (hspec : funcIntfSpec specLine = .ok spec) :
    addFunc st specLine = .ok
      { files := node.addFuncSpec st.files spec
        specTree := place st.specTree (level + 1) .func } := by
  have hparent := parent_eq hnode "FuncIntfSpec" "add_func_spec" htakes
  unfold addFunc
  rw [hidx, hspec]
  refine bind_eq_ok.mpr ⟨spec, rfl, bind_eq_ok.mpr ⟨node, hparent, ?_⟩⟩
  cases node with
  | file i => rfl
  | cls i className => rfl
  | func => cases htakes
  | globalVar => cases htakes

/-- A global variable has a sign of equality. -/
theorem strIndex_of_isGlobalVariable (hglobal : isGlobalVariable upper lower specLine = true) :
    ∃ i, strIndex specLine "=" = .ok i := by
  unfold isGlobalVariable at hglobal
  split at hglobal
  · cases hglobal
  · cases hi : strIndex specLine "=" with
    | ok i => exact ⟨i, rfl⟩
    | error e =>
        rw [hi] at hglobal
        cases hglobal

/-- A global variable on the first level is added to the file. -/
theorem addGlobalVar_eq (hidx : getTreeIdx specLine = 1)
    (hfile : st.specTree[0]? = some (.file 0))
    (hglobal : isGlobalVariable upper lower specLine = true) :
    ∃ spec, addGlobalVar st specLine = .ok
      { files := st.files.modify 0 (·.addGlobalVarSpec spec)
        specTree := place st.specTree 1 .globalVar } := by
  obtain ⟨i, hi⟩ := strIndex_of_isGlobalVariable hglobal
  have hparent : parent st.specTree 1 "GlobalVarSpec" "add_global_var_spec" SpecNode.isFile
      = .ok (.file 0) := parent_eq hfile _ _ rfl
  unfold addGlobalVar globalVarSpec
  rw [hidx, hi]
  exact ⟨_, bind_eq_ok.mpr ⟨_, rfl, bind_eq_ok.mpr ⟨_, hparent, rfl⟩⟩⟩

end Lines

/-! ## §3. Headers as they are taken. -/

namespace Header

variable (h : Header upper lower) (typeName : Option String)

/-- A function header is taken for one. -/
theorem typeNameOf_func (hkind : h.kind = .func) :
    typeNameOf upper lower h.line typeName = some "func" := by
  unfold typeNameOf
  rw [if_pos (h.func_line hkind).1]

/-- So is a class header. -/
theorem typeNameOf_cls (hkind : h.kind = .cls) :
    typeNameOf upper lower h.line typeName = some "class" := by
  have hclass := (h.cls_line hkind).1
  have hdef : startswith (strip h.line) "def " = false := by
    unfold startswith at hclass ⊢
    obtain ⟨t, ht⟩ := List.isPrefixOf_iff_prefix.mp hclass
    rw [← ht]
    rfl
  unfold typeNameOf
  rw [hdef, if_neg Bool.false_ne_true, if_pos hclass]

/-- Every header is taken for something. -/
theorem exists_typeNameOf : ∃ name, typeNameOf upper lower h.line typeName = some name ∧
    (h.kind = .cls → name = "class") ∧ (h.kind = .func → name = "func") := by
  cases hkind : h.kind with
  | cls => exact ⟨_, h.typeNameOf_cls typeName hkind, fun _ => rfl, nofun⟩
  | func => exact ⟨_, h.typeNameOf_func typeName hkind, nofun, fun _ => rfl⟩
  | globalVar =>
      obtain ⟨hlevel, hdef, hclass, hglobal⟩ := h.global_line hkind
      obtain ⟨i, hi⟩ := strIndex_of_isGlobalVariable hglobal
      refine ⟨rstrip (slice h.line 0 i), ?_, nofun, nofun⟩
      unfold typeNameOf
      rw [hdef, hclass, if_neg Bool.false_ne_true, if_neg Bool.false_ne_true, if_pos hglobal, hi]

/-- The name of a class is read from its header. -/
theorem exists_classSpec (hkind : h.kind = .cls) :
    ∃ spec, classIntfSpec (rstrip h.line) = .ok spec ∧ spec.className = classNameOf h := by
  obtain ⟨spec, hspec⟩ : ∃ spec, classIntfSpec (rstrip h.line) = .ok spec := by
    rw [exists_classIntfSpec, (h.contains_texts (by simp)).1, (h.contains_texts (by simp)).1]
    exact (h.cls_line hkind).2
  refine ⟨spec, hspec, ?_⟩
  unfold classNameOf
  rw [hspec]

/-- What a function header needs to be read. -/
theorem exists_funcSpec : (∃ spec, funcIntfSpec (rstrip h.line) = .ok spec) ↔
    contains h.line "(" = true ∧ contains h.line ")" = true := by
  rw [exists_funcIntfSpec, strip_rstrip, (h.contains_texts (by simp)).2,
    (h.contains_texts (by simp)).2]

/-- A line is looked at for `class` first, then for `def`. -/
theorem addLine_class {st : SpecState} (hclass : contains (rstrip h.line) "class" = true) :
    addLine upper lower st (rstrip h.line) = addClass st (rstrip h.line) := by
  unfold addLine
  rw [h.not_comment, if_neg Bool.false_ne_true, if_pos hclass]

/-- A line with `def` and without `class` is a function. -/
theorem addLine_func {st : SpecState} (hclass : contains (rstrip h.line) "class" = false)
    (hdef : contains (rstrip h.line) "def" = true) :
    addLine upper lower st (rstrip h.line) = addFunc st (rstrip h.line) := by
  unfold addLine
  rw [h.not_comment, hclass, if_neg Bool.false_ne_true, if_neg Bool.false_ne_true, if_pos hdef]

end Header

/-! ## §4. The two lists. -/

/-- What the lists of the two loops say of the headers that are open.  Below a class there are
only its methods, which stay in the lists when the class is over. -/
structure Tracks (scope : List (Header upper lower)) (treeInfo : List String) (st : SpecState) :
    Prop where
  files : st.files.length = 1
  length : st.specTree.length = treeInfo.length
  le_three : treeInfo.length ≤ 3
  rootInfo : treeInfo[0]? = some ""
  root : st.specTree[0]? = some (.file 0)
  notFile : ∀ i node, st.specTree[i + 1]? = some node → node.isFile = false
  below : ∀ name, treeInfo[2]? = some name → name = "func"
  outer : ∀ x rest, scope = x :: rest →
    (x.kind = .cls ∧ treeInfo[1]? = some "class" ∧
        st.specTree[1]? = some (.cls 0 (classNameOf x)) ∧ (rest ≠ [] → treeInfo.length = 3)) ∨
      (x.kind = .func ∧ treeInfo[1]? = some "func")
  inner : ∀ x ∈ scope.tail, x.kind = .func

namespace Tracks

variable {scope scope' : List (Header upper lower)} {x h : Header upper lower}
  {rest : List (Header upper lower)} {treeInfo : List String} {st : SpecState}
  {files : List FileSpec} {name : String} {node : SpecNode}

/-- The file is always in the tree. -/
theorem one_le (ht : Tracks scope treeInfo st) : 1 ≤ treeInfo.length :=
  (List.getElem?_eq_some_iff.mp ht.rootInfo).1

/-- A header at top level starts over. -/
theorem outermost (ht : Tracks scope treeInfo st) (hfiles : files.length = 1)
    (hnode : node.isFile = false)
    (hscope : ∀ x rest, scope' = x :: rest → rest = [] ∧
      ((x.kind = .cls ∧ name = "class" ∧ node = .cls 0 (classNameOf x)) ∨
        (x.kind = .func ∧ name = "func"))) :
    Tracks scope' (if treeInfo.length ≤ 1 then treeInfo ++ [name] else treeInfo.set 1 name)
      { files, specTree := place st.specTree 1 node } := by
  have hlen := ht.one_le
  have hlen' : 1 ≤ st.specTree.length := ht.length ▸ hlen
  constructor
  · exact hfiles
  · rw [place_eq, length_put hlen, length_put hlen', ht.length]
  · rw [length_put hlen]
    exact max_le ht.le_three (by decide)
  · rw [getElem?_put hlen]
    exact ht.rootInfo
  · rw [place_eq, getElem?_put hlen']
    exact ht.root
  · intro i node' hget
    rw [place_eq, getElem?_put hlen'] at hget
    split at hget
    · cases hget
      exact hnode
    · exact ht.notFile i node' hget
  · intro name' hget
    rw [getElem?_put hlen] at hget
    exact ht.below name' hget
  · intro x rest heq
    obtain ⟨hrest, hcase⟩ := hscope x rest heq
    rw [place_eq, getElem?_put hlen, getElem?_put hlen', if_pos rfl, if_pos rfl]
    -- A class is entered as one, so that later lines may be under it.
    rcases hcase with ⟨hkind, rfl, rfl⟩ | ⟨hkind, rfl⟩
    · exact Or.inl ⟨hkind, rfl, rfl, fun hne => absurd hrest hne⟩
    · exact Or.inr ⟨hkind, rfl⟩
  · intro x hx
    cases scope' with
    | nil => cases hx
    | cons y rest =>
        obtain ⟨rfl, _⟩ := hscope y rest rfl
        cases hx

/-- A method comes under the class. -/
theorem method (ht : Tracks (x :: rest) treeInfo st) (hx : x.kind = .cls) (hh : h.kind = .func)
    (hfiles : files.length = 1) :
    Tracks [x, h] (if treeInfo.length ≤ 2 then treeInfo ++ ["func"] else treeInfo.set 2 "func")
      { files, specTree := place st.specTree 2 .func } := by
  obtain ⟨_, hinfo, htree, _⟩ : x.kind = .cls ∧ treeInfo[1]? = some "class" ∧
      st.specTree[1]? = some (.cls 0 (classNameOf x)) ∧ (rest ≠ [] → treeInfo.length = 3) := by
    refine (ht.outer x rest rfl).resolve_right fun hfunc => ?_
    rw [hx] at hfunc
    cases hfunc.1
  have hlen : 2 ≤ treeInfo.length := (List.getElem?_eq_some_iff.mp hinfo).1
  have hlen' : 2 ≤ st.specTree.length := ht.length ▸ hlen
  have hthree := ht.le_three
  -- The entries up to the class stay; the method takes the place behind it, stale or not.
  constructor
  · exact hfiles
  · rw [place_eq, length_put hlen, length_put hlen', ht.length]
  · rw [length_put hlen]
    omega
  · rw [getElem?_put hlen]
    exact ht.rootInfo
  · rw [place_eq, getElem?_put hlen']
    exact ht.root
  · intro i node' hget
    rw [place_eq, getElem?_put hlen'] at hget
    split at hget
    · cases hget
      rfl
    · exact ht.notFile i node' hget
  · intro name' hget
    rw [getElem?_put hlen, if_pos rfl] at hget
    exact (Option.some.inj hget).symm
  · intro y rest' heq
    obtain ⟨rfl, rfl⟩ := List.cons.inj heq
    refine Or.inl ⟨hx, ?_, ?_, fun _ => ?_⟩
    · rw [getElem?_put hlen]
      exact hinfo
    · rw [place_eq, getElem?_put hlen']
      exact htree
    · rw [length_put hlen]
      omega
  · intro y hy
    obtain rfl : y = h := List.mem_singleton.mp hy
    exact hh

/-- A function that is removed stays out of the lists. -/
theorem removed (ht : Tracks scope treeInfo st) (hh : h.kind = .func)
    (hunder : ∃ x ∈ scope.take h.level, x.kind = .func) :
    Tracks (push scope h) treeInfo st := by
  obtain ⟨f, hf, hfunc⟩ := hunder
  have hpush : push scope h = scope.take h.level ++ [h] := if_neg (by rw [hh]; decide)
  rw [hpush]
  cases scope with
  | nil =>
      rw [List.take_nil] at hf
      cases hf
  | cons y rest =>
      obtain ⟨n, hn⟩ : ∃ n, h.level = n + 1 := by
        refine Nat.exists_eq_succ_of_ne_zero fun hzero => ?_
        rw [hzero] at hf
        cases hf
      rw [hn, List.take_succ_cons] at hf ⊢
      refine { ht with outer := ?_, inner := ?_ }
      · intro x rest' heq
        obtain ⟨rfl, rfl⟩ := List.cons.inj heq
        rcases ht.outer y rest rfl with ⟨hcls, hinfo, htree, hthree⟩ | hfunc'
        · refine Or.inl ⟨hcls, hinfo, htree, fun _ => hthree fun hnil => ?_⟩
          -- The function that it is under is no class, so that it comes after the class.
          rcases List.mem_cons.mp hf with rfl | hf
          · rw [hcls] at hfunc
            cases hfunc
          · rw [hnil, List.take_nil] at hf
            cases hf
        · exact Or.inr hfunc'
      · intro x hx
        rcases List.mem_append.mp hx with hx | hx
        · exact ht.inner x (List.mem_of_mem_take hx)
        · obtain rfl := List.mem_singleton.mp hx
          exact hh

/-- A line is under a function for the program when it is. -/
theorem underFunc_iff (ht : Tracks scope treeInfo st) {level : Nat}
    (hle : level ≤ scope.length) :
    underFunc treeInfo (level + 1) = true ↔ ∃ x ∈ scope.take level, x.kind = .func := by
  unfold underFunc
  rw [beq_iff_eq, Nat.add_sub_cancel]
  cases scope with
  | nil =>
      obtain rfl : level = 0 := Nat.le_zero.mp hle
      rw [Nat.min_zero, ht.rootInfo]
      simp
  | cons y rest =>
      have hthree := ht.le_three
      rcases level with _ | _ | level
      · rw [Nat.min_zero, ht.rootInfo]
        simp
      · rcases ht.outer y rest rfl with ⟨hkind, hinfo, _⟩ | ⟨hkind, hinfo⟩
        · have hlen := (List.getElem?_eq_some_iff.mp hinfo).1
          rw [Nat.min_eq_right (by omega), hinfo]
          simp [hkind]
        · have hlen := (List.getElem?_eq_some_iff.mp hinfo).1
          rw [Nat.min_eq_right (by omega), hinfo]
          simp [hkind]
      · cases rest with
        | nil => simp at hle
        | cons z rest =>
            -- The line is under a function, and the last entry that the program may look at is
            -- one too: a method, or the function at top level if nothing was ever below.
            refine iff_of_true ?_ ⟨z, by simp, ht.inner z List.mem_cons_self⟩
            by_cases hlen : treeInfo.length = 3
            · obtain ⟨name, hname⟩ : ∃ name, treeInfo[2]? = some name :=
                ⟨_, List.getElem?_eq_getElem (by omega)⟩
              rw [hlen, Nat.min_eq_left (by omega), hname, ht.below name hname]
            · rcases ht.outer y (z :: rest) rfl with ⟨_, _, _, hinner⟩ | ⟨_, hinfo⟩
              · exact absurd (hinner (by simp)) hlen
              · have htwo := (List.getElem?_eq_some_iff.mp hinfo).1
                rw [show min (treeInfo.length - 1) (level + 1 + 1) = 1 by omega, hinfo]

/-- A function that remains finds the object that it goes to. -/
theorem parent (ht : Tracks scope treeInfo st) {level : Nat} (hle : level ≤ scope.length)
    (hkept : ∀ x ∈ scope.take level, x.kind ≠ .func) :
    level ≤ 1 ∧ st.specTree[level]? = some (target (scope.take level)) := by
  cases scope with
  | nil =>
      obtain rfl : level = 0 := Nat.le_zero.mp hle
      exact ⟨Nat.zero_le 1, ht.root⟩
  | cons y rest =>
      rcases level with _ | _ | level
      · exact ⟨Nat.zero_le 1, ht.root⟩
      · refine ⟨le_rfl, ?_⟩
        rcases ht.outer y rest rfl with ⟨hkind, _, htree, _⟩ | ⟨hkind, _⟩
        · rw [htree]
          unfold target
          simp [hkind]
        · exact absurd hkind (hkept y (by simp))
      · cases rest with
        | nil => simp at hle
        -- Two levels further in there is a function above.
        | cons z rest => exact absurd (ht.inner z List.mem_cons_self) (hkept z (by simp))

/-- A class at top level. -/
theorem addLine_cls (ht : Tracks scope treeInfo st) (hkind : h.kind = .cls)
    (hlevel : h.level = 0) :
    ∃ st', addLine upper lower st (rstrip h.line) = .ok st' ∧
      Tracks (push scope h)
        (if treeInfo.length ≤ 1 then treeInfo ++ ["class"] else treeInfo.set 1 "class") st' := by
  have hidx : getTreeIdx (rstrip h.line) = 1 := by rw [h.getTreeIdx_rstrip, hlevel]
  have hclass : contains (rstrip h.line) "class" = true :=
    h.contains_of_startswith (h.cls_line hkind).1 (by decide)
  obtain ⟨spec, hspec, hname⟩ := h.exists_classSpec hkind
  have hpush : push scope h = [h] := by
    unfold push
    rw [if_neg (by rw [hkind]; decide), hlevel, List.take_zero]
    rfl
  refine ⟨_, (h.addLine_class hclass).trans (addClass_eq hidx ht.root hspec), ?_⟩
  rw [hpush]
  refine ht.outermost (by rw [List.length_modify]; exact ht.files) rfl fun x rest heq => ?_
  obtain ⟨rfl, rfl⟩ := List.cons.inj heq
  exact ⟨rfl, Or.inl ⟨hkind, rfl, by rw [hname]⟩⟩

/-- A function that remains. -/
theorem addLine_def (ht : Tracks scope treeInfo st) (hkind : h.kind = .func)
    (hle : h.level ≤ scope.length) (hkept : ∀ x ∈ scope.take h.level, x.kind ≠ .func)
    (hclass : contains (rstrip h.line) "class" = false) :
    ∃ st', addLine upper lower st (rstrip h.line) = .ok st' ∧
      GoesTo st (rstrip h.line) (target (scope.take h.level)) st' ∧
      Tracks (push scope h)
        (if treeInfo.length ≤ h.level + 1 then treeInfo ++ ["func"]
          else treeInfo.set (h.level + 1) "func") st' := by
  have hidx := h.getTreeIdx_rstrip
  obtain ⟨hstart, hparens⟩ := h.func_line hkind
  have hdef : contains (rstrip h.line) "def" = true :=
    h.contains_of_startswith hstart (by decide)
  obtain ⟨spec, hspec⟩ := h.exists_funcSpec.mpr hparens
  obtain ⟨hone, hparent⟩ := ht.parent hle hkept
  have htakes : (target (scope.take h.level)).takesFuncs = true := by
    unfold target
    split
    · rfl
    · rfl
  have hfiles : ((target (scope.take h.level)).addFuncSpec st.files spec).length = 1 := by
    unfold target
    split
    · exact (List.length_modify _ _ _).trans ht.files
    · exact (List.length_modify _ _ _).trans ht.files
  have hpush : push scope h = scope.take h.level ++ [h] := if_neg (by rw [hkind]; decide)
  refine ⟨_, (h.addLine_func hclass hdef).trans (addFunc_eq hidx hparent htakes hspec),
    ⟨spec, hspec, by rw [hidx]⟩, ?_⟩
  rw [hpush]
  -- What remains is at top level, or just under a class there.
  rcases Nat.le_one_iff_eq_zero_or_eq_one.mp hone with hlevel | hlevel
  · rw [hlevel] at hfiles ⊢
    refine ht.outermost hfiles rfl fun x rest heq => ?_
    obtain ⟨rfl, rfl⟩ := List.cons.inj heq
    exact ⟨rfl, Or.inr ⟨hkind, rfl⟩⟩
  · rw [hlevel] at hkept hfiles ⊢
    cases scope with
    | nil =>
        rw [hlevel] at hle
        cases hle
    | cons y rest =>
        -- What a method is under is a class.
        rcases ht.outer y rest rfl with hcls | hfunc
        · exact ht.method hcls.1 hkind hfiles
        · exact absurd hfunc.1 (hkept y (by simp))

/-- A global variable that has the parentheses of what it may be taken for. -/
theorem addLine_global (ht : Tracks scope treeInfo st) (hkind : h.kind = .globalVar)
    (hclass : contains (rstrip h.line) "class" = true →
      contains h.line "(" = true → contains h.line ")" = true)
    (hfunc : contains (rstrip h.line) "class" = false →
      contains (rstrip h.line) "def" = true →
        contains h.line "(" = true ∧ contains h.line ")" = true) (name : String) :
    ∃ st', addLine upper lower st (rstrip h.line) = .ok st' ∧
      Tracks (push scope h)
        (if treeInfo.length ≤ 1 then treeInfo ++ [name] else treeInfo.set 1 name) st' := by
  have hidx : getTreeIdx (rstrip h.line) = 1 := by
    rw [h.getTreeIdx_rstrip, (h.global_line hkind).1]
  have hpush : push scope h = [] := if_pos hkind
  have hfiles : ∀ f, (st.files.modify 0 f).length = 1 := fun f =>
    (List.length_modify _ _ _).trans ht.files
  rw [hpush]
  -- No line is under a global variable, whatever it has been taken for.
  cases hc : contains (rstrip h.line) "class" with
  | true =>
      obtain ⟨spec, hspec⟩ : ∃ spec, classIntfSpec (rstrip h.line) = .ok spec := by
        rw [exists_classIntfSpec, (h.contains_texts (by simp)).1, (h.contains_texts (by simp)).1]
        exact hclass hc
      exact ⟨_, (h.addLine_class hc).trans (addClass_eq hidx ht.root hspec),
        ht.outermost (hfiles _) rfl nofun⟩
  | false =>
      cases hd : contains (rstrip h.line) "def" with
      | true =>
          obtain ⟨spec, hspec⟩ := h.exists_funcSpec.mpr (hfunc hc hd)
          refine ⟨_, (h.addLine_func hc hd).trans (addFunc_eq hidx ht.root rfl hspec), ?_⟩
          exact ht.outermost (hfiles _) rfl nofun
      | false =>
          have hglobal := h.isGlobalVariable_rstrip hkind
          obtain ⟨spec, hspec⟩ := addGlobalVar_eq hidx ht.root hglobal
          have hadd : addLine upper lower st (rstrip h.line) = addGlobalVar st (rstrip h.line) := by
            unfold addLine
            rw [h.not_comment, hc, hd, hglobal]
            rfl
          exact ⟨_, hadd.trans hspec, ht.outermost (hfiles _) rfl nofun⟩

end Tracks

/-! ## §5. One header. -/

section Step

variable {before : List (Header upper lower)} {h : Header upper lower} {rs : RemoveState}
  {st : SpecState}

/-- A function in a function is removed. -/
theorem removeLine_removed (ht : Tracks (openHeaders before) rs.treeInfo st)
    (hle : h.level ≤ (openHeaders before).length) (hh : h.kind = .func)
    (hunder : ∃ x ∈ enclosing before h, x.kind = .func) :
    removeLine upper lower rs h.line = .ok { rs with typeName := some "func" } := by
  unfold removeLine
  simp only [h.typeNameOf_func rs.typeName hh, h.getTreeIdx_line, (ht.underFunc_iff hle).mpr hunder]
  rfl

/-- Every other header is kept. -/
theorem removeLine_kept (ht : Tracks (openHeaders before) rs.treeInfo st)
    (hle : h.level ≤ (openHeaders before).length)
    (hkept : h.kind = .func → ∀ x ∈ enclosing before h, x.kind ≠ .func) :
    ∃ name, (h.kind = .cls → name = "class") ∧ (h.kind = .func → name = "func") ∧
      removeLine upper lower rs h.line = .ok
        { treeInfo :=
            if rs.treeInfo.length ≤ h.level + 1 then rs.treeInfo ++ [name]
            else rs.treeInfo.set (h.level + 1) name
          typeName := some name
          newLines := rs.newLines ++ [h.line] } := by
  obtain ⟨name, hname, hcls, hfunc⟩ := h.exists_typeNameOf rs.typeName
  refine ⟨name, hcls, hfunc, ?_⟩
  have hnot : ¬(name = "func" ∧ underFunc rs.treeInfo (h.level + 1) = true) := by
    rintro ⟨rfl, hunder⟩
    obtain ⟨x, hx, hxfunc⟩ := (ht.underFunc_iff hle).mp hunder
    cases hkind : h.kind with
    | cls => exact absurd (hcls hkind) (by decide)
    | func => exact hkept hkind x hx hxfunc
    | globalVar =>
        rw [(h.global_line hkind).1, List.take_zero] at hx
        cases hx
  unfold removeLine
  simp only [hname, h.getTreeIdx_line, if_neg hnot]

/-- What the loops do with a header that is put where it belongs. -/
theorem step (ht : Tracks (openHeaders before) rs.treeInfo st)
    (hle : h.level ≤ (openHeaders before).length) (hplace : Placeable before h) :
    ∃ rs', removeLine upper lower rs h.line = .ok rs' ∧
      ((rs'.newLines = rs.newLines ∧ Tracks (openHeaders (before ++ [h])) rs'.treeInfo st) ∨
        (rs'.newLines = rs.newLines ++ [h.line] ∧
          ∃ st', addLine upper lower st (rstrip h.line) = .ok st' ∧
            (h.kind = .func → GoesTo st (rstrip h.line) (target (enclosing before h)) st') ∧
            Tracks (openHeaders (before ++ [h])) rs'.treeInfo st')) := by
  rw [openHeaders_concat]
  cases hkind : h.kind with
  | cls =>
      obtain ⟨name, hcls, _, hremove⟩ := removeLine_kept ht hle (by rw [hkind]; nofun)
      obtain rfl := hcls hkind
      obtain ⟨st', hadd, ht'⟩ := ht.addLine_cls hkind (hplace.cls hkind)
      rw [hplace.cls hkind] at hremove
      exact ⟨_, hremove, Or.inr ⟨rfl, st', hadd, nofun, ht'⟩⟩
  | func =>
      -- A function under a function is removed; any other line is kept and read.
      by_cases hunder : ∃ x ∈ enclosing before h, x.kind = .func
      · exact ⟨_, removeLine_removed ht hle hkind hunder, Or.inl ⟨rfl, ht.removed hkind hunder⟩⟩
      · have hkept : ∀ x ∈ enclosing before h, x.kind ≠ .func :=
          fun x hx hxfunc => hunder ⟨x, hx, hxfunc⟩
        obtain ⟨name, _, hfunc, hremove⟩ := removeLine_kept ht hle fun _ => hkept
        obtain rfl := hfunc hkind
        obtain ⟨st', hadd, hgoes, ht'⟩ := ht.addLine_def hkind hle hkept (hplace.func hkind hkept)
        exact ⟨_, hremove, Or.inr ⟨rfl, st', hadd, fun _ => hgoes, ht'⟩⟩
  | globalVar =>
      obtain ⟨name, _, _, hremove⟩ := removeLine_kept ht hle (by rw [hkind]; nofun)
      obtain ⟨st', hadd, ht'⟩ :=
        ht.addLine_global hkind (hplace.globalClass hkind) (hplace.globalFunc hkind) name
      rw [(h.global_line hkind).1] at hremove
      exact ⟨_, hremove, Or.inr ⟨rfl, st', hadd, nofun, ht'⟩⟩

/-- Any other header is kept, and either raises or is a function that is not attached. -/
theorem misplaced (ht : Tracks (openHeaders before) rs.treeInfo st)
    (hle : h.level ≤ (openHeaders before).length) (hnot : ¬Placeable before h) :
    ∃ rs', removeLine upper lower rs h.line = .ok rs' ∧
      rs'.newLines = rs.newLines ++ [h.line] ∧
      ∀ st', addLine upper lower st (rstrip h.line) = .ok st' →
        h.kind = .func ∧ ¬GoesTo st (rstrip h.line) (target (enclosing before h)) st' := by
  have hidx := h.getTreeIdx_rstrip
  cases hkind : h.kind with
  | cls =>
      obtain ⟨name, _, _, hremove⟩ := removeLine_kept ht hle (by rw [hkind]; nofun)
      refine ⟨_, hremove, rfl, fun st' hadd => ?_⟩
      -- A class further in finds no file above it.
      obtain ⟨n, hn⟩ : ∃ n, h.level = n + 1 := by
        refine Nat.exists_eq_succ_of_ne_zero fun hzero => hnot ?_
        exact ⟨fun _ => hzero, by rw [hkind]; nofun, by rw [hkind]; nofun, by rw [hkind]; nofun⟩
      rw [h.addLine_class (h.contains_of_startswith (h.cls_line hkind).1 (by decide))] at hadd
      rw [hn] at hidx
      obtain ⟨e, he⟩ := addClass_error hidx (ht.notFile n)
      rw [he] at hadd
      cases hadd
  | func =>
      have hnot' : ¬((∀ x ∈ enclosing before h, x.kind ≠ .func) →
          contains (rstrip h.line) "class" = false) := fun hfunc =>
        hnot ⟨by rw [hkind]; nofun, fun _ => hfunc, by rw [hkind]; nofun, by rw [hkind]; nofun⟩
      obtain ⟨hkept, hclass⟩ := Classical.not_imp.mp hnot'
      rw [Bool.not_eq_false] at hclass
      obtain ⟨name, _, _, hremove⟩ := removeLine_kept ht hle fun _ => hkept
      refine ⟨_, hremove, rfl, fun st' hadd => ⟨rfl, ?_⟩⟩
      obtain ⟨hone, _⟩ := ht.parent hle hkept
      rw [h.addLine_class hclass] at hadd
      rcases Nat.le_one_iff_eq_zero_or_eq_one.mp hone with hlevel | hlevel
      · -- At top level the function is put into the tree as a class.
        rw [hlevel] at hidx
        obtain ⟨spec, hspec⟩ : ∃ spec, classIntfSpec (rstrip h.line) = .ok spec := by
          rw [exists_classIntfSpec, (h.contains_texts (by simp)).1,
            (h.contains_texts (by simp)).1]
          exact fun _ => (h.func_line hkind).2.2
        rw [addClass_eq hidx ht.root hspec] at hadd
        rintro ⟨_, _, rfl⟩
        have htree := congrArg (·[1]?) (congrArg SpecState.specTree (Except.ok.inj hadd))
        have hlen : 1 ≤ st.specTree.length := ht.length ▸ ht.one_le
        dsimp only at htree
        rw [hidx, place_eq, place_eq, getElem?_put hlen, getElem?_put hlen] at htree
        cases htree
      · rw [hlevel] at hidx
        obtain ⟨e, he⟩ := addClass_error hidx (ht.notFile 0)
        rw [he] at hadd
        cases hadd
  | globalVar =>
      obtain ⟨name, _, _, hremove⟩ := removeLine_kept ht hle (by rw [hkind]; nofun)
      refine ⟨_, hremove, rfl, fun st' hadd => absurd ?_ hnot⟩
      refine ⟨by rw [hkind]; nofun, by rw [hkind]; nofun, fun _ hclass => ?_,
        fun _ hclass hdef => ?_⟩
      · rw [h.addLine_class hclass] at hadd
        obtain ⟨spec, hspec, _⟩ := bind_eq_ok.mp hadd
        have := exists_classIntfSpec.mp ⟨spec, hspec⟩
        rwa [(h.contains_texts (by simp)).1, (h.contains_texts (by simp)).1] at this
      · rw [h.addLine_func hclass hdef] at hadd
        obtain ⟨spec, hspec, _⟩ := bind_eq_ok.mp hadd
        exact h.exists_funcSpec.mp ⟨spec, hspec⟩

end Step

/-! ## §6. All of them. -/

section Runs

variable {headers before after : List (Header upper lower)} {h : Header upper lower}
  {fileSpec : FileSpec}

/-- The headers of a beginning are well nested. -/
theorem WellNested.left (hnested : WellNested (before ++ after)) : WellNested before := by
  intro before' h after' heq
  exact hnested before' h (after' ++ after) (by rw [heq, List.append_assoc, List.cons_append])

/-- They can be placed, too. -/
theorem AllPlaceable.left (hplace : AllPlaceable (before ++ after)) : AllPlaceable before := by
  intro before' h after' heq
  exact hplace before' h (after' ++ after) (by rw [heq, List.append_assoc, List.cons_append])

/-- One more line for the first pass. -/
theorem removeLines_concat {rs : RemoveState}
    (hrun : removeLines upper lower (before.map Header.line) = .ok rs) :
    removeLines upper lower ((before ++ [h]).map Header.line)
      = removeLine upper lower rs h.line := by
  rw [List.map_append]
  exact foldlM_concat h.line hrun

/-- One more line for the second. -/
theorem buildLines_concat {lines : List String} {st : SpecState}
    (hrun : buildLines upper lower lines fileSpec = .ok st) (line : String) :
    buildLines upper lower (lines ++ [line]) fileSpec = addLine upper lower st (rstrip line) :=
  foldlM_concat line hrun

/-- Lines that are kept stay. -/
theorem removeLines_append {lines : List String} {rs rs' : RemoveState}
    (hrun : lines.foldlM (removeLine upper lower) rs = .ok rs') :
    ∃ more, rs'.newLines = rs.newLines ++ more := by
  induction lines generalizing rs with
  | nil =>
      cases hrun
      exact ⟨[], (List.append_nil _).symm⟩
  | cons line lines ih =>
      obtain ⟨mid, hline, hrest⟩ := bind_eq_ok.mp hrun
      obtain ⟨more, hmore⟩ := ih hrest
      unfold removeLine at hline
      split at hline
      · cases hline
      · dsimp only at hline
        split at hline
        · cases hline
          exact ⟨more, hmore⟩
        · cases hline
          exact ⟨line :: more, by rw [hmore, List.append_assoc, List.singleton_append]⟩

/-- The loops return over headers that are put where they belong, and keep track of them. -/
theorem run (hnested : WellNested headers) (hplace : AllPlaceable headers)
    (fileSpec : FileSpec) :
    ∃ rs st, removeLines upper lower (headers.map Header.line) = .ok rs ∧
      buildLines upper lower rs.newLines fileSpec = .ok st ∧
      Tracks (openHeaders headers) rs.treeInfo st := by
  induction headers using List.reverseRecOn with
  | nil =>
      -- The lists begin with what stands for the file.
      refine ⟨_, _, rfl, rfl, ?_⟩
      constructor
      · rfl
      · rfl
      · decide
      · rfl
      · rfl
      · intro i node hget
        cases hget
      · intro name hget
        cases hget
      · intro x rest heq
        cases heq
      · intro x hx
        cases hx
  | append_singleton before h ih =>
      obtain ⟨rs, st, hremove, hbuild, ht⟩ := ih hnested.left hplace.left
      obtain ⟨rs', hline, hcase⟩ := step ht (hnested before h [] rfl) (hplace before h [] rfl)
      have hremove' := (removeLines_concat hremove).trans hline
      rcases hcase with ⟨hsame, ht'⟩ | ⟨hnew, st', hadd, _, ht'⟩
      · exact ⟨rs', st, hremove', by rw [hsame]; exact hbuild, ht'⟩
      · refine ⟨rs', st', hremove', ?_, ht'⟩
        rw [hnew, buildLines_concat hbuild]
        exact hadd

/-- The loops over some of the headers, when the whole file goes through. -/
theorem buildLines_of_returns
    (hreturns : ∃ newLines file,
      removeSubFuncUnderFunc upper lower ((before ++ after).map Header.line) = .ok newLines ∧
        buildFileSpec upper lower newLines fileSpec = .ok file)
    {rs : RemoveState} (hremove : removeLines upper lower (before.map Header.line) = .ok rs) :
    ∃ st, buildLines upper lower rs.newLines fileSpec = .ok st := by
  obtain ⟨newLines, file, hlines, hbuild⟩ := hreturns
  obtain ⟨rs', hrun, hnew⟩ := bind_eq_ok.mp hlines
  obtain rfl : rs'.newLines = newLines := Except.ok.inj hnew
  unfold removeLines at hremove hrun
  rw [List.map_append, List.foldlM_append] at hrun
  obtain ⟨mid, hmid, hrest⟩ := bind_eq_ok.mp hrun
  obtain rfl : mid = rs := Except.ok.inj (hmid.symm.trans hremove)
  obtain ⟨more, hmore⟩ := removeLines_append hrest
  obtain ⟨st', hst', _⟩ := bind_eq_ok.mp hbuild
  rw [hmore, List.foldlM_append] at hst'
  obtain ⟨st, hst, _⟩ := bind_eq_ok.mp hst'
  exact ⟨st, hst⟩

/-- Headers that are all put where they belong are attached. -/
theorem attached_of_placeable (hnested : WellNested headers) (hplace : AllPlaceable headers) :
    Attached headers fileSpec := by
  constructor
  · obtain ⟨rs, st, hremove, hbuild, ht⟩ := run hnested hplace fileSpec
    obtain ⟨file, hfile⟩ := List.length_eq_one_iff.mp ht.files
    refine ⟨rs.newLines, file, bind_eq_ok.mpr ⟨rs, hremove, rfl⟩,
      bind_eq_ok.mpr ⟨st, hbuild, ?_⟩⟩
    rw [hfile]
    rfl
  · intro before h after heq hkind newLines st hlines hlines' hbuild
    have hle := hnested before h after heq
    have hplaceable := hplace before h after heq
    rw [heq] at hnested hplace
    obtain ⟨rs, st₀, hremove, hbuild₀, ht⟩ := run hnested.left hplace.left fileSpec
    obtain ⟨rs₁, hrun₁, hnew₁⟩ := bind_eq_ok.mp hlines
    obtain rfl : rs₁ = rs := Except.ok.inj (hrun₁.symm.trans hremove)
    obtain rfl : rs₁.newLines = newLines := Except.ok.inj hnew₁
    obtain rfl : st₀ = st := Except.ok.inj (hbuild₀.symm.trans hbuild)
    obtain ⟨rs', hline, hcase⟩ := step ht hle hplaceable
    obtain ⟨rs₂, hrun₂, hnew₂⟩ := bind_eq_ok.mp hlines'
    obtain rfl : rs₂ = rs' :=
      Except.ok.inj (hrun₂.symm.trans ((removeLines_concat hremove).trans hline))
    have hkept : rs₂.newLines = rs₁.newLines ++ [h.line] := Except.ok.inj hnew₂
    rcases hcase with ⟨hsame, _⟩ | ⟨_, st', hadd, hgoes, _⟩
    · -- A function that is removed is not among those that remain.
      rw [hsame] at hkept
      exact absurd (congrArg List.length hkept) (by simp)
    · exact ⟨st', hadd, hgoes hkind⟩

/-- What was attached could be placed. -/
theorem placeable_of_attached (hnested : WellNested headers)
    (hattached : Attached headers fileSpec) : AllPlaceable headers := by
  -- The headers before the first misplaced one are all put where they belong.
  suffices hprefix : ∀ before after, headers = before ++ after → AllPlaceable before from
    hprefix headers [] (List.append_nil _).symm
  intro before
  induction before using List.reverseRecOn with
  | nil =>
      intro after _ before' h after' heq
      simp at heq
  | append_singleton before h ih =>
      intro after heq before' h' after' hsplit
      have heq' : headers = before ++ h :: after := by
        rw [heq, List.append_assoc, List.singleton_append]
      have hplace := ih (h :: after) heq'
      rcases List.eq_nil_or_concat' after' with rfl | ⟨after'', last, rfl⟩
      · obtain ⟨rfl, hlast⟩ := List.append_inj' hsplit rfl
        obtain rfl := List.singleton_inj.mp hlast
        have hle := hnested before h after heq'
        rw [heq'] at hnested
        obtain ⟨rs, st, hremove, hbuild, ht⟩ := run hnested.left hplace fileSpec
        by_contra hnot
        obtain ⟨rs', hline, hnew, hmisplaced⟩ := misplaced ht hle hnot
        have hremove' := (removeLines_concat hremove).trans hline
        have hreturns := hattached.returns
        rw [heq] at hreturns
        obtain ⟨st', hbuild'⟩ := buildLines_of_returns hreturns hremove'
        rw [hnew, buildLines_concat hbuild] at hbuild'
        obtain ⟨hkind, hgoes⟩ := hmisplaced st' hbuild'
        obtain ⟨st'', hadd, hgoes'⟩ := hattached.attaches before h after heq' hkind rs.newLines st
          (bind_eq_ok.mpr ⟨rs, hremove, rfl⟩) (bind_eq_ok.mpr ⟨rs', hremove', by rw [hnew]⟩) hbuild
        obtain rfl : st'' = st' := Except.ok.inj (hadd.symm.trans hbuild')
        exact hgoes hgoes'
      · rw [← List.cons_append, ← List.append_assoc] at hsplit
        exact hplace before' h' after'' (List.append_inj' hsplit rfl).1

/-- **Functions go where they belong exactly for headers that are put there.** -/
theorem attached_iff (headers : List (Header upper lower)) (hnested : WellNested headers)
    (fileSpec : FileSpec) : Attached headers fileSpec ↔ AllPlaceable headers :=
  ⟨placeable_of_attached hnested, attached_of_placeable hnested⟩

/-- A class header. -/
def shapeClass : Header Char.isUpper Char.isLower where
  kind := .cls
  level := 0
  line := "class Shape:"
  indented := ⟨'c', "lass Shape:".toList, rfl, by decide, rfl⟩
  cls_line := fun _ => ⟨rfl, by decide⟩
  func_line := nofun
  global_line := nofun

/-- `class Shape:`, under it `def area(self):`, and under that `def side():`. -/
def shapeHeaders : List (Header Char.isUpper Char.isLower) :=
  [shapeClass,
   { kind := .func
     level := 1
     line := "    def area(self):"
     indented := ⟨'d', "ef area(self):".toList, rfl, by decide, rfl⟩
     cls_line := nofun
     func_line := fun _ => ⟨rfl, rfl, rfl⟩
     global_line := nofun },
   { kind := .func
     level := 2
     line := "        def side():"
     indented := ⟨'d', "ef side():".toList, rfl, by decide, rfl⟩
     cls_line := nofun
     func_line := fun _ => ⟨rfl, rfl, rfl⟩
     global_line := nofun }]

/-- Every way to split a list is a position in it. -/
theorem forall_split {α : Type} {P : List α → α → Prop} {l : List α} :
    (∀ before a after, l = before ++ a :: after → P before a) ↔
      ∀ i (hi : i < l.length), P (l.take i) l[i] := by
  constructor
  · intro hsplit i hi
    exact hsplit _ _ (l.drop (i + 1)) (by simp)
  · rintro hscan before a after rfl
    have := hscan before.length (by simp)
    simpa using this

/-- A class with a method. -/
theorem attached_iff_shape : WellNested shapeHeaders ∧
    (Attached shapeHeaders (.new "" "shape.py") ↔ AllPlaceable shapeHeaders) ∧
      Attached shapeHeaders (.new "" "shape.py") := by
  have hnested : WellNested shapeHeaders := forall_split.mpr (by decide)
  have hplace : AllPlaceable shapeHeaders := by
    have harea : contains (rstrip "    def area(self):") "class" = false := by decide +kernel
    have hside : contains (rstrip "        def side():") "class" = false := by decide +kernel
    refine forall_split.mpr fun i hi => ?_
    change i < 3 at hi
    interval_cases i
    · exact ⟨fun _ => rfl, nofun, nofun, nofun⟩
    · exact ⟨nofun, fun _ _ => harea, nofun, nofun⟩
    · exact ⟨nofun, fun _ _ => hside, nofun, nofun⟩
  exact ⟨hnested, attached_iff shapeHeaders hnested (.new "" "shape.py"),
    (attached_iff shapeHeaders hnested (.new "" "shape.py")).mpr hplace⟩

/-- `class Shape:`, and under it `class Side:`. -/
def nestedHeaders : List (Header Char.isUpper Char.isLower) :=
  [shapeClass,
   { kind := .cls
     level := 1
     line := "    class Side:"
     indented := ⟨'c', "lass Side:".toList, rfl, by decide, rfl⟩
     cls_line := fun _ => ⟨rfl, by decide⟩
     func_line := nofun
     global_line := nofun }]

/-- A class in a class is given to the class above it, which takes none. -/
theorem class_in_class : ¬∀ (upper lower : Char → Bool) (headers : List (Header upper lower))
    (fileSpec : FileSpec), WellNested headers → Attached headers fileSpec := by
  intro h
  have hnested : WellNested nestedHeaders := forall_split.mpr (by decide)
  obtain ⟨newLines, file, hlines, hbuild⟩ := (h _ _ _ (.new "" "shape.py") hnested).returns
  have hkept : removeSubFuncUnderFunc Char.isUpper Char.isLower
      (nestedHeaders.map Header.line) = .ok ["class Shape:", "    class Side:"] := by
    decide +kernel
  have hraises : buildFileSpec Char.isUpper Char.isLower ["class Shape:", "    class Side:"]
      (.new "" "shape.py") = .error (noAttribute "ClassIntfSpec" "add_class_spec") := by
    rfl
  obtain rfl := Except.ok.inj (hkept.symm.trans hlines)
  rw [hraises] at hbuild
  cases hbuild

end Runs

end HwEfat.AutoSchedule.InterfaceCheck
