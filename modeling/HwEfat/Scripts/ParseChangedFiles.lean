/-
  HwEfat.Scripts.ParseChangedFiles — which unit tests are run for the changed files:
  `parse_changed_files.py`.

  Every path goes to one list, by the first condition that holds of it, and every list selects
  some suites.  What is read of a path is which of the listed directories it starts with, and
  its suffix.  The sets are returned as such, and not as texts; printing is left out.

  Main result: `routing`, the suites of a list of paths are those of its paths, and a path
  under a listed directory selects the suites of it.
-/
import Mathlib.Data.Finset.Basic
import HwEfat.Lib.Text

namespace HwEfat.Scripts.ParseChangedFiles

open HwEfat.Lib

/-! ## §1. Lists of changed files. -/

/-- The constants of the script: the suites, and `OTHER_FILE`. -/
inductive Ut where
  | CPU_UT
  | PASS_UT
  | OM_UT
  | TILING_UT
  | PROTO_UT
  | PLUGIN_UT
  | ONNX_PLUGIN_UT
  | OTHER_FILE
  deriving Repr, DecidableEq

/-- Which of the lists of a `FileChangeInfo`. -/
inductive Kind where
  | proto
  | tiling
  | pass
  | om
  | aicpu
  | plugin
  | onnxPlugin
  | other
  deriving Repr, DecidableEq

structure FileChangeInfo where
  protoChangedFiles : List String := []
  /-- What is added to this list is the list of all lines. -/
  tilingChangedFiles : List (List String) := []
  passChangedFiles : List String := []
  omChangedFiles : List String := []
  aicpuChangedFiles : List String := []
  pluginChangedFiles : List String := []
  onnxPluginChangedFiles : List String := []
  otherChangedFiles : List String := []

def basePath : String := pathJoin "ops" "built-in"

def utPath : String := pathJoin (pathJoin (pathJoin "ops" "built-in") "tests") "ut"

/-- The `if` and `elif`s, for what a line starts with and whether it ends as a source file of
C++ does. -/
def branch (startswith : String → Bool) (isCpp : Bool) : Kind :=
  if startswith (pathJoin basePath "aicpu") || startswith (pathJoin utPath "aicpu_test") ||
      startswith (pathJoin (pathJoin basePath "tests") "utils") then .aicpu
  else if startswith (pathJoin basePath "fusion_pass") ||
      startswith (pathJoin utPath "graph_fusion") then .pass
  else if (startswith (pathJoin basePath "kernel/binary_config/utils") ||
      startswith (pathJoin utPath "binary_om_test")) && isCpp then .om
  else if startswith (pathJoin basePath "op_proto") ||
      startswith (pathJoin utPath "ops_test") then .proto
  else if startswith (pathJoin basePath "op_tiling") ||
      startswith (pathJoin utPath "op_tiling_test") then .tiling
  else if startswith (pathJoin (pathJoin basePath "framework") "tf_plugin") ||
      startswith (pathJoin (pathJoin utPath "plugin_test") "tensorflow") ||
      startswith (pathJoin (pathJoin utPath "plugin_test") "common") then .plugin
  else if startswith (pathJoin (pathJoin basePath "framework") "onnx_plugin") ||
      startswith (pathJoin (pathJoin utPath "plugin_test") "onnx") ||
      startswith (pathJoin (pathJoin utPath "plugin_test") "common") then .onnxPlugin
  else .other

/-- `line.endswith(".cc") or line.endswith(".h") or line.endswith(".cpp")` -/
def isCpp (line : String) : Bool :=
  endswith line ".cc" || endswith line ".h" || endswith line ".cpp"

/-- The list that a line is added to. -/
def kindOf (line : String) : Kind := branch (startswith line) (isCpp line)

def FileChangeInfo.append (info : FileChangeInfo) (lines : List String) (line : String) :
    Kind → FileChangeInfo
  | .proto => { info with protoChangedFiles := info.protoChangedFiles ++ [line] }
  | .tiling => { info with tilingChangedFiles := info.tilingChangedFiles ++ [lines] }
  | .pass => { info with passChangedFiles := info.passChangedFiles ++ [line] }
  | .om => { info with omChangedFiles := info.omChangedFiles ++ [line] }
  | .aicpu => { info with aicpuChangedFiles := info.aicpuChangedFiles ++ [line] }
  | .plugin => { info with pluginChangedFiles := info.pluginChangedFiles ++ [line] }
  | .onnxPlugin => { info with onnxPluginChangedFiles := info.onnxPluginChangedFiles ++ [line] }
  | .other => { info with otherChangedFiles := info.otherChangedFiles ++ [line] }

/-- A turn of the loop over the lines. -/
def addLine (lines : List String) (info : FileChangeInfo) (line : String) : FileChangeInfo :=
  let line := strip line
  if endswith line ".py" then info else info.append lines line (kindOf line)

/-- `get_file_change_info_from_ci`, on the lines of the file if it exists -/
def getFileChangeInfoFromCi (orF : Option (List String)) : Option FileChangeInfo :=
  orF.map fun lines => lines.foldl (addLine lines) {}

/-- `_get_relate_ut_list_by_file_change`: `relate_ut` and `other_file` -/
def getRelateUtListByFileChange (info : FileChangeInfo) : Finset Ut × Finset Ut :=
  let relateUt : Finset Ut := ∅
  let relateUt := if info.aicpuChangedFiles.length > 0 then insert .CPU_UT relateUt else relateUt
  let relateUt := if info.passChangedFiles.length > 0 then insert .PASS_UT relateUt else relateUt
  let relateUt :=
    if info.tilingChangedFiles.length > 0 then insert .TILING_UT relateUt else relateUt
  let relateUt :=
    if info.protoChangedFiles.length > 0 then
      insert .PLUGIN_UT (insert .PASS_UT (insert .PROTO_UT relateUt))
    else relateUt
  let relateUt :=
    if info.pluginChangedFiles.length > 0 then insert .PLUGIN_UT relateUt else relateUt
  let relateUt :=
    if info.onnxPluginChangedFiles.length > 0 then insert .ONNX_PLUGIN_UT relateUt else relateUt
  let relateUt := if info.omChangedFiles.length > 0 then insert .OM_UT relateUt else relateUt
  let otherFile : Finset Ut := if info.otherChangedFiles.length > 0 then {.OTHER_FILE} else ∅
  (relateUt, otherFile)

/-- `get_change_relate_ut_dir_list` -/
def getChangeRelateUtDirList (orF : Option (List String)) : Option (Finset Ut × Finset Ut) :=
  (getFileChangeInfoFromCi orF).map getRelateUtListByFileChange

/-! ## §2. The suites of a list of lines. -/

/-- The suites that a list selects if it is not empty. -/
def suitesOf : Kind → List Ut
  | .proto => [.PLUGIN_UT, .PASS_UT, .PROTO_UT]
  | .tiling => [.TILING_UT]
  | .pass => [.PASS_UT]
  | .om => [.OM_UT]
  | .aicpu => [.CPU_UT]
  | .plugin => [.PLUGIN_UT]
  | .onnxPlugin => [.ONNX_PLUGIN_UT]
  | .other => []

/-- The list is not empty. -/
def FileChangeInfo.Has (info : FileChangeInfo) : Kind → Prop
  | .proto => 0 < info.protoChangedFiles.length
  | .tiling => 0 < info.tilingChangedFiles.length
  | .pass => 0 < info.passChangedFiles.length
  | .om => 0 < info.omChangedFiles.length
  | .aicpu => 0 < info.aicpuChangedFiles.length
  | .plugin => 0 < info.pluginChangedFiles.length
  | .onnxPlugin => 0 < info.onnxPluginChangedFiles.length
  | .other => 0 < info.otherChangedFiles.length

theorem has_append (info : FileChangeInfo) (lines : List String) (line : String) (k k' : Kind) :
    (info.append lines line k).Has k' ↔ info.Has k' ∨ k' = k := by
  cases k <;> cases k' <;> simp [FileChangeInfo.append, FileChangeInfo.Has]

/-- The lists that a line is added to: one, or none for a Python file. -/
def GoesTo (line : String) (k : Kind) : Prop :=
  endswith (strip line) ".py" = false ∧ k = kindOf (strip line)

theorem has_addLine (lines : List String) (info : FileChangeInfo) (line : String) (k : Kind) :
    (addLine lines info line).Has k ↔ info.Has k ∨ GoesTo line k := by
  unfold addLine GoesTo
  dsimp only
  cases endswith (strip line) ".py" with
  | true => simp
  | false =>
      rw [if_neg Bool.false_ne_true, has_append]
      simp

theorem has_foldl (lines : List String) (info : FileChangeInfo) (l : List String) (k : Kind) :
    (l.foldl (addLine lines) info).Has k ↔ info.Has k ∨ ∃ line ∈ l, GoesTo line k := by
  induction l generalizing info with
  | nil => simp
  | cons line l ih =>
      rw [List.foldl_cons, ih, has_addLine, or_assoc, List.exists_mem_cons_iff]

theorem not_has_empty (k : Kind) : ¬ ({} : FileChangeInfo).Has k := by
  cases k <;> exact Nat.lt_irrefl 0

theorem mem_ite_insert {c : Prop} [Decidable c] {ut a : Ut} {s : Finset Ut} :
    ut ∈ (if c then insert a s else s) ↔ c ∧ ut = a ∨ ut ∈ s := by
  by_cases hc : c
  · rw [if_pos hc, Finset.mem_insert, and_iff_right hc]
  · rw [if_neg hc]
    exact (or_iff_right fun h => hc h.1).symm

theorem exists_kind {P : Kind → Prop} : (∃ k, P k) ↔ P .om ∨ P .onnxPlugin ∨ P .plugin ∨
    P .proto ∨ P .tiling ∨ P .pass ∨ P .aicpu ∨ P .other := by
  constructor
  · rintro ⟨k, hk⟩
    cases k <;> simp [hk]
  · rintro (h | h | h | h | h | h | h | h) <;> exact ⟨_, h⟩

theorem mem_relateUt (info : FileChangeInfo) (ut : Ut) :
    ut ∈ (getRelateUtListByFileChange info).1 ↔ ∃ k, info.Has k ∧ ut ∈ suitesOf k := by
  have hproto (s : Finset Ut) :
      ut ∈ (if info.protoChangedFiles.length > 0 then
          insert .PLUGIN_UT (insert .PASS_UT (insert .PROTO_UT s)) else s) ↔
        0 < info.protoChangedFiles.length ∧ (ut = .PLUGIN_UT ∨ ut = .PASS_UT ∨ ut = .PROTO_UT) ∨
          ut ∈ s := by
    by_cases hc : info.protoChangedFiles.length > 0
    · rw [if_pos hc, Finset.mem_insert, Finset.mem_insert, Finset.mem_insert, and_iff_right hc,
        or_assoc, or_assoc]
    · rw [if_neg hc]
      exact (or_iff_right fun h => hc h.1).symm
  unfold getRelateUtListByFileChange
  rw [exists_kind]
  simp only [mem_ite_insert, hproto, FileChangeInfo.Has, suitesOf, List.mem_cons,
    List.not_mem_nil, or_false, and_false, Finset.notMem_empty]

/-- **The suites that some lines select.** -/
theorem mem_suites (lines : List String) :
    ∃ result, getChangeRelateUtDirList (some lines) = some result ∧
      ∀ ut, ut ∈ result.1 ↔ ∃ line ∈ lines, ∃ k, GoesTo line k ∧ ut ∈ suitesOf k := by
  refine ⟨_, rfl, fun ut => ?_⟩
  rw [mem_relateUt]
  simp only [has_foldl, not_has_empty, false_or]
  constructor
  · rintro ⟨k, ⟨line, hline, hk⟩, hut⟩
    exact ⟨line, hline, k, hk, hut⟩
  · rintro ⟨line, hline, k, hk, hut⟩
    exact ⟨k, ⟨line, hline, hk⟩, hut⟩

/-! ## §3. The directories. -/

/-- The directories that the conditions list, for the list of files that they are about. -/
def listed : List (Kind × String) :=
  [(.aicpu, "ops/built-in/aicpu"), (.aicpu, "ops/built-in/tests/ut/aicpu_test"),
    (.aicpu, "ops/built-in/tests/utils"), (.pass, "ops/built-in/fusion_pass"),
    (.pass, "ops/built-in/tests/ut/graph_fusion"),
    (.om, "ops/built-in/kernel/binary_config/utils"),
    (.om, "ops/built-in/tests/ut/binary_om_test"), (.proto, "ops/built-in/op_proto"),
    (.proto, "ops/built-in/tests/ut/ops_test"), (.tiling, "ops/built-in/op_tiling"),
    (.tiling, "ops/built-in/tests/ut/op_tiling_test"),
    (.plugin, "ops/built-in/framework/tf_plugin"),
    (.plugin, "ops/built-in/tests/ut/plugin_test/tensorflow"),
    (.plugin, "ops/built-in/tests/ut/plugin_test/common"),
    (.onnxPlugin, "ops/built-in/framework/onnx_plugin"),
    (.onnxPlugin, "ops/built-in/tests/ut/plugin_test/onnx"),
    (.onnxPlugin, "ops/built-in/tests/ut/plugin_test/common")]

/-- The chain only asks about the listed directories. -/
theorem branch_congr {f g : String → Bool} (h : ∀ entry ∈ listed, f entry.2 = g entry.2)
    (isCpp : Bool) : branch f isCpp = branch g isCpp := by
  have hdir (dir : String) (hdir : dir ∈ listed.map Prod.snd) : f dir = g dir := by
    obtain ⟨entry, hentry, rfl⟩ := List.mem_map.mp hdir
    exact h entry hentry
  unfold branch
  rw [hdir _ (by decide +kernel), hdir (pathJoin utPath "aicpu_test") (by decide +kernel),
    hdir (pathJoin (pathJoin basePath "tests") "utils") (by decide +kernel),
    hdir (pathJoin basePath "fusion_pass") (by decide +kernel),
    hdir (pathJoin utPath "graph_fusion") (by decide +kernel),
    hdir (pathJoin basePath "kernel/binary_config/utils") (by decide +kernel),
    hdir (pathJoin utPath "binary_om_test") (by decide +kernel),
    hdir (pathJoin basePath "op_proto") (by decide +kernel),
    hdir (pathJoin utPath "ops_test") (by decide +kernel),
    hdir (pathJoin basePath "op_tiling") (by decide +kernel),
    hdir (pathJoin utPath "op_tiling_test") (by decide +kernel),
    hdir (pathJoin (pathJoin basePath "framework") "tf_plugin") (by decide +kernel),
    hdir (pathJoin (pathJoin utPath "plugin_test") "tensorflow") (by decide +kernel),
    hdir (pathJoin (pathJoin utPath "plugin_test") "common") (by decide +kernel),
    hdir (pathJoin (pathJoin basePath "framework") "onnx_plugin") (by decide +kernel),
    hdir (pathJoin (pathJoin utPath "plugin_test") "onnx") (by decide +kernel)]

/-- Of two paths that a line starts with, one starts with the other. -/
theorem startswith_or {s t t' : String} (h : startswith s t = true) (h' : startswith s t' = true) :
    startswith t t' = true ∨ startswith t' t = true := by
  unfold startswith at *
  simp only [List.isPrefixOf_iff_prefix] at *
  exact List.prefix_or_prefix_of_prefix h' h

theorem startswith_trans {s t t' : String} (h : startswith s t = true)
    (h' : startswith t t' = true) : startswith s t' = true := by
  unfold startswith at *
  rw [List.isPrefixOf_iff_prefix] at *
  exact h'.trans h

/-- No listed directory is within another one. -/
theorem listed_apart : ∀ entry ∈ listed, ∀ entry' ∈ listed,
    startswith entry'.2 entry.2 = true → startswith entry.2 entry'.2 = true := by
  decide +kernel

/-- Which of the directories a line starts with is settled by one of them. -/
theorem startswith_listed {line : String} {entry : Kind × String} (hentry : entry ∈ listed)
    (h : startswith line entry.2 = true) :
    ∀ entry' ∈ listed, startswith line entry'.2 = startswith entry.2 entry'.2 := by
  intro entry' hentry'
  rw [Bool.eq_iff_iff]
  constructor
  · intro hline
    exact (startswith_or h hline).elim id (listed_apart entry hentry entry' hentry')
  · exact startswith_trans h

/-- What the chain makes of each of the directories, except that the directory common to both
kinds of plugin is taken by the first. -/
theorem branch_listed : ∀ entry ∈ listed, ∀ isCpp : Bool,
    (entry.1 = .om → isCpp = true) →
      entry ≠ (.onnxPlugin, "ops/built-in/tests/ut/plugin_test/common") →
        branch (startswith entry.2) isCpp = entry.1 := by
  decide +kernel

/-- A line under a listed directory goes to the list that the directory is listed for. -/
theorem goesTo_listed {line : String} {entry : Kind × String} (hentry : entry ∈ listed)
    (hpy : endswith (strip line) ".py" = false) (h : startswith (strip line) entry.2 = true)
    (hom : entry.1 = .om → isCpp (strip line) = true)
    (hcommon : entry ≠ (.onnxPlugin, "ops/built-in/tests/ut/plugin_test/common")) :
    GoesTo line entry.1 := by
  refine ⟨hpy, ?_⟩
  unfold kindOf
  rw [branch_congr (startswith_listed hentry h), branch_listed entry hentry _ hom hcommon]

/-! ## §4. Routing. -/

/-- **The suites of a list of paths are those of its paths**, and a path that is no Python file
selects the suites of every directory it is under, where the directories of `OM_UT` are about
source files of C++; about the directory common to both kinds of plugins it is only said that
it is listed for the first of them. -/
theorem routing (lines : List String) :
    ∃ result, getChangeRelateUtDirList (some lines) = some result ∧
      (∀ ut, ut ∈ result.1 ↔ ∃ line ∈ lines, ∃ single,
        getChangeRelateUtDirList (some [line]) = some single ∧ ut ∈ single.1) ∧
      ∀ line ∈ lines, endswith (strip line) ".py" = false →
        ∀ entry ∈ listed, startswith (strip line) entry.2 = true →
          (entry.1 = .om → isCpp (strip line) = true) →
          entry ≠ (.onnxPlugin, "ops/built-in/tests/ut/plugin_test/common") →
            ∀ ut ∈ suitesOf entry.1, ut ∈ result.1 := by
  obtain ⟨result, hresult, hmem⟩ := mem_suites lines
  refine ⟨result, hresult, fun ut => ?_, ?_⟩
  · rw [hmem]
    apply exists_congr
    intro line
    apply and_congr_right
    intro _
    obtain ⟨single, hsingle, hone⟩ := mem_suites [line]
    have hline : ut ∈ single.1 ↔ ∃ k, GoesTo line k ∧ ut ∈ suitesOf k := by
      rw [hone]
      simp
    rw [← hline]
    constructor
    · intro hut
      exact ⟨single, hsingle, hut⟩
    · rintro ⟨single', hsingle', hut⟩
      obtain rfl := Option.some.inj (hsingle.symm.trans hsingle')
      exact hut
  · intro line hline hpy entry hentry hunder hom hcommon ut hut
    exact (hmem ut).mpr ⟨line, hline, entry.1, goesTo_listed hentry hpy hunder hom hcommon, hut⟩

/-- A file under one of the directories of `OM_UT` that is no source file of C++. -/
theorem readme_of_binary_config :
    (.om, "ops/built-in/kernel/binary_config/utils") ∈ listed ∧
      startswith (strip "ops/built-in/kernel/binary_config/utils/README.md")
        "ops/built-in/kernel/binary_config/utils" = true ∧
      endswith (strip "ops/built-in/kernel/binary_config/utils/README.md") ".py" = false ∧
      ∃ result,
        getChangeRelateUtDirList (some ["ops/built-in/kernel/binary_config/utils/README.md"])
          = some result ∧ .OM_UT ∉ result.1 :=
  ⟨by decide +kernel, by decide +kernel, by decide +kernel, _, rfl, by decide +kernel⟩

end HwEfat.Scripts.ParseChangedFiles
