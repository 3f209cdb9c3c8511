/-
  HwEfat.Main.CaseGenerator.IniFile — reading an `.ini` file: `case_generator.py`.

  A header `[xx]` opens a section, with no entries yet; a line `xx.yy=zz` is an entry of the
  section.  A file may repeat its header, since only the names of its sections are counted; what
  was read before is lost then.

  Main result: `entries_kept_iff`.
-/
import HwEfat.Lib.Dict
import HwEfat.Lib.Split
import HwEfat.Lib.Text
import HwEfat.Main.Utils

namespace HwEfat.Main

open HwEfat.Lib (PyError PyVal Dict raiseIf split split_eq_pair_iff strip slice startswith endswith)

namespace CaseGenerator

/-! ## §1. Reading a file. -/

def OP_TEST_GEN_CONFIG_INVALID_OPINFO_FILE_ERROR : Int := 13

/-- The exception of the checks of `op_info`. -/
def invalidOpInfoFile : PyError :=
  opTestGenException OP_TEST_GEN_CONFIG_INVALID_OPINFO_FILE_ERROR

/-- `op_info`: what an operator is described by. -/
abbrev OpInfo : Type := Dict (Dict PyVal)

/-- `op_type`, `op_info` and the names in `tbe_ops_info`. -/
structure Ini where
  opType : String := ""
  opInfo : OpInfo := .empty
  tbeOpsInfo : List String := []

/-- `op_info[key0][key1] = value`, with a new `op_info[key0]` if there is none. -/
def setOpInfo (opInfo : OpInfo) (key0 key1 : String) (value : PyVal) : OpInfo :=
  opInfo.set key0 (((opInfo.get? key0).getD .empty).set key1 value)

/-- The parts of a line `xx.yy=zz`, without the spaces of `zz`. -/
def keyValue (line : String) : Option (String × String × String) :=
  match split line "=" with
  | [key, value] =>
      match split key "." with
      | [key0, key1] =>
          some (strip key0, strip key1, String.ofList (value.toList.filter (· != ' ')))
      | _ => none
  | _ => none

/-- `_get_op_info` -/
def getOpInfo (line : String) (ini : Ini) : Except PyError Ini :=
  match keyValue line with
  | some (key0, key1, value) =>
      .ok { ini with opInfo := setOpInfo ini.opInfo key0 key1 (.str value) }
  | none => .error invalidOpInfoFile

/-- `_get_tbe_ops_info` -/
def getTbeOpsInfo (line : String) (ini : Ini) : Except PyError Ini :=
  if endswith line "]" then
    let opType := strip (slice line 1 (line.length - 1))
    .ok
      { opType, opInfo := .empty,
        tbeOpsInfo := if opType ∈ ini.tbeOpsInfo then ini.tbeOpsInfo
          else ini.tbeOpsInfo ++ [opType] }
  else .error invalidOpInfoFile

/-- What is done with a line. -/
def parseLine (ini : Ini) (line : String) : Except PyError Ini :=
  let line := strip line
  if line = "" then .ok ini
  else if startswith line "[" then getTbeOpsInfo line ini
  else getOpInfo line ini

/-- `_parse_ini_to_json`, for the lines of the file. -/
def parseIniToJson (lines : List String) (ini : Ini) : Except PyError Ini := do
  let ini ← lines.foldlM parseLine { ini with tbeOpsInfo := [] }
  raiseIf (ini.tbeOpsInfo.length ≠ 1) invalidOpInfoFile
  return ini

/-! ## §2. Entries of a file. -/

def IsHeader (line : String) : Prop := startswith (strip line) "["

instance (line : String) : Decidable (IsHeader line) := inferInstanceAs (Decidable (_ = true))

/-- What a line gives `op_info[key0][key1]`, if it is an entry for it. -/
def entryOf (key0 key1 line : String) : Option String :=
  if strip line = "" ∨ IsHeader line then none
  else
    match keyValue (strip line) with
    | some (k0, k1, value) => if k0 = key0 ∧ k1 = key1 then some value else none
    | none => none

/-- The line is `xx.yy=zz`: it sets the entry `key0`, `key1` to `value`, which is `zz` without
spaces. -/
def SetsEntry (key0 key1 line value : String) : Prop :=
  ∃ xx yy zz, strip line = xx ++ "." ++ yy ++ "=" ++ zz ∧
    ('.' ∉ xx.toList ∧ '.' ∉ yy.toList) ∧ ('=' ∉ xx.toList ∧ '=' ∉ yy.toList ∧ '=' ∉ zz.toList) ∧
    key0 = strip xx ∧ key1 = strip yy ∧ value = String.ofList (zz.toList.filter (· != ' '))

/-- What the last of these entries gives. -/
def lastEntry (key0 key1 : String) (lines : List String) : Option String :=
  lines.reverse.findSome? (entryOf key0 key1)

/-- The lines behind the last header. -/
def lastSection (lines : List String) : List String :=
  (lines.reverse.takeWhile fun line => ¬ IsHeader line).reverse

/-- `op_info[key0][key1]` -/
def entryAt (opInfo : OpInfo) (key0 key1 : String) : Option PyVal :=
  (opInfo.get? key0).bind (·.get? key1)

/-- **No line is lost**: of the lines of the file for the same entry the last one counts. -/
def EntriesKept (lines : List String) (opInfo : OpInfo) : Prop :=
  ∀ key0 key1 value, lastEntry key0 key1 lines = some value →
    entryAt opInfo key0 key1 = some (.str value)

/-- What is set in the file is set behind its last header. -/
def SetInLastSection (lines : List String) : Prop :=
  ∀ key0 key1, (lastEntry key0 key1 lines).isSome = true →
    (lastEntry key0 key1 (lastSection lines)).isSome = true

section Entries

variable {lines : List String} {line key0 key1 : String} {ini ini' : Ini}

/-- The parts that the code takes are those of a line `xx.yy=zz`. -/
theorem keyValue_strip_eq_some {value : String} :
    keyValue (strip line) = some (key0, key1, value) ↔ SetsEntry key0 key1 line value := by
  have heq : "=".toList = ['='] := rfl
  have hdot : ".".toList = ['.'] := rfl
  unfold keyValue SetsEntry
  constructor
  · intro h
    split at h
    · next key zz hline =>
        split at h
        · next xx yy hkey =>
            cases h
            obtain ⟨hline, hkeyEq, hzz⟩ := (split_eq_pair_iff heq).mp hline
            obtain ⟨rfl, hxx, hyy⟩ := (split_eq_pair_iff hdot).mp hkey
            rw [String.toList_append, String.toList_append, List.mem_append, List.mem_append,
              not_or, not_or] at hkeyEq
            exact ⟨xx, yy, zz, hline, ⟨hxx, hyy⟩, ⟨hkeyEq.1.1, hkeyEq.2, hzz⟩, rfl, rfl, rfl⟩
        · cases h
    · cases h
  · rintro ⟨xx, yy, zz, hline, ⟨hxx, hyy⟩, ⟨hxxEq, hyyEq, hzz⟩, rfl, rfl, rfl⟩
    have hkeyEq : '=' ∉ (xx ++ "." ++ yy).toList := by
      rw [String.toList_append, String.toList_append, List.mem_append, List.mem_append, not_or,
        not_or]
      exact ⟨⟨hxxEq, by decide⟩, hyyEq⟩
    rw [(split_eq_pair_iff heq).mpr ⟨hline, hkeyEq, hzz⟩]
    dsimp only
    rw [(split_eq_pair_iff hdot).mpr ⟨rfl, hxx, hyy⟩]

/-- **An entry is a line of that form** that is not a header. -/
theorem entryOf_eq_some_iff {value : String} :
    entryOf key0 key1 line = some value ↔ ¬ IsHeader line ∧ SetsEntry key0 key1 line value := by
  unfold entryOf
  rw [← keyValue_strip_eq_some]
  by_cases hskip : strip line = "" ∨ IsHeader line
  · rw [if_pos hskip]
    refine iff_of_false (Option.not_mem_none value) fun ⟨hheader, hsome⟩ => ?_
    -- An empty line has no parts.
    rw [hskip.resolve_right hheader] at hsome
    cases hsome
  · rw [if_neg hskip, and_iff_right fun h => hskip (Or.inr h)]
    cases keyValue (strip line) with
    | none => exact iff_of_false (Option.not_mem_none value) fun h => by cases h
    | some parts =>
        obtain ⟨k0, k1, v⟩ := parts
        dsimp only
        split
        · next hkeys =>
            obtain ⟨rfl, rfl⟩ := hkeys
            rw [Option.some.injEq, Option.some.injEq, Prod.mk.injEq, Prod.mk.injEq,
              and_iff_right rfl, and_iff_right rfl]
        · next hkeys =>
            refine iff_of_false (Option.not_mem_none value) fun h => hkeys ?_
            cases h
            exact ⟨rfl, rfl⟩

theorem lastEntry_snoc : lastEntry key0 key1 (lines ++ [line])
    = (entryOf key0 key1 line).or (lastEntry key0 key1 lines) := by
  unfold lastEntry
  rw [List.reverse_append, List.reverse_singleton, List.singleton_append, List.findSome?_cons]
  cases entryOf key0 key1 line with
  | none => rfl
  | some value => rfl

theorem lastSection_snoc_header (h : IsHeader line) : lastSection (lines ++ [line]) = [] := by
  unfold lastSection
  rw [List.reverse_append, List.reverse_singleton, List.singleton_append,
    List.takeWhile_cons_of_neg (by simp [h]), List.reverse_nil]

theorem lastSection_snoc (h : ¬ IsHeader line) :
    lastSection (lines ++ [line]) = lastSection lines ++ [line] := by
  unfold lastSection
  rw [List.reverse_append, List.reverse_singleton, List.singleton_append,
    List.takeWhile_cons_of_pos (by simp [h]), List.reverse_cons]

theorem entryAt_setOpInfo (opInfo : OpInfo) (k0 k1 : String) (value : PyVal) :
    entryAt (setOpInfo opInfo k0 k1 value) key0 key1
      = if k0 = key0 ∧ k1 = key1 then some value else entryAt opInfo key0 key1 := by
  unfold entryAt setOpInfo
  rw [Dict.get?_set]
  by_cases h0 : key0 = k0
  · subst h0
    rw [if_pos rfl, Option.bind_some, Dict.get?_set]
    by_cases h1 : key1 = k1
    · subst h1
      rw [if_pos rfl, if_pos ⟨rfl, rfl⟩]
    · rw [if_neg h1, if_neg fun h => h1 h.2.symm]
      cases opInfo.get? key0 with
      | none => rfl
      | some info => rfl
  · rw [if_neg h0, if_neg fun h => h0 h.1.symm]

theorem opInfo_getTbeOpsInfo (h : getTbeOpsInfo line ini = .ok ini') :
    ini'.opInfo = Dict.empty := by
  unfold getTbeOpsInfo at h
  split at h
  · rw [← Except.ok.inj h]
  · cases h

/-- **What a line does to an entry**: a header takes it away, an entry for it sets it. -/
theorem entryAt_parseLine (h : parseLine ini line = .ok ini') (key0 key1 : String) :
    entryAt ini'.opInfo key0 key1 = if IsHeader line then none
      else ((entryOf key0 key1 line).map PyVal.str).or (entryAt ini.opInfo key0 key1) := by
  unfold parseLine at h
  dsimp only at h
  unfold entryOf
  by_cases hblank : strip line = ""
  · rw [if_pos hblank] at h
    cases h
    have hheader : ¬ IsHeader line := by
      unfold IsHeader
      rw [hblank]
      decide
    rw [if_neg hheader, if_pos (Or.inl hblank)]
    rfl
  · rw [if_neg hblank] at h
    -- A header starts the operator information anew.
    by_cases hheader : IsHeader line
    · have hbracket : startswith (strip line) "[" = true := hheader
      rw [if_pos hbracket] at h
      rw [if_pos hheader]
      rw [opInfo_getTbeOpsInfo h]
      rfl
    · have hbracket : ¬ startswith (strip line) "[" = true := hheader
      rw [if_neg hbracket] at h
      rw [if_neg hheader, if_neg (not_or.mpr ⟨hblank, hheader⟩)]
      unfold getOpInfo at h
      cases hparts : keyValue (strip line) with
      | none =>
          rw [hparts] at h
          cases h
      | some parts =>
          obtain ⟨k0, k1, value⟩ := parts
          rw [hparts] at h
          cases h
          dsimp only
          rw [entryAt_setOpInfo]
          split
          · rfl
          · rfl

/-- The sections are counted by their headers. -/
theorem tbeOpsInfo_parseLine (h : parseLine ini line = .ok ini') (hheader : ¬ IsHeader line) :
    ini'.tbeOpsInfo = ini.tbeOpsInfo := by
  unfold parseLine at h
  dsimp only at h
  split at h
  · cases h
    rfl
  · have hbracket : ¬ startswith (strip line) "[" = true := hheader
    rw [if_neg hbracket] at h
    unfold getOpInfo at h
    split at h
    · cases h
      rfl
    · cases h

/-- **What the lines of a file leave**: the entries behind the last header, if there is one. -/
theorem entryAt_foldlM (h : lines.foldlM parseLine { ini with tbeOpsInfo := [] } = .ok ini')
    (hone : ini'.tbeOpsInfo.length = 1) (key0 key1 : String) :
    entryAt ini'.opInfo key0 key1 = (lastEntry key0 key1 (lastSection lines)).map PyVal.str := by
  have hrun := HwEfat.Lib.foldlM_history
    (I := fun passed ini => ini.tbeOpsInfo = [] ∨ entryAt ini.opInfo key0 key1
      = (lastEntry key0 key1 (lastSection passed)).map PyVal.str)
    (fun passed line s s' hs hstep => ?_) (Or.inl rfl) h
  · rcases hrun with hrun | hrun
    · rw [hrun] at hone
      cases hone
    · exact hrun
  · by_cases hheader : IsHeader line
    · right
      rw [entryAt_parseLine hstep, if_pos hheader, lastSection_snoc_header hheader]
      rfl
    · rcases hs with hs | hs
      · exact Or.inl ((tbeOpsInfo_parseLine hstep hheader).trans hs)
      · right
        rw [entryAt_parseLine hstep, if_neg hheader, lastSection_snoc hheader, lastEntry_snoc, hs]
        cases entryOf key0 key1 line with
        | none => rfl
        | some value => rfl

/-- The lines behind the last header are the end of the file. -/
theorem lastEntry_of_lastSection {value : String}
    (h : lastEntry key0 key1 (lastSection lines) = some value) :
    lastEntry key0 key1 lines = some value := by
  unfold lastEntry lastSection at *
  rw [List.reverse_reverse] at h
  obtain ⟨rest, hrest⟩ := List.takeWhile_prefix (l := lines.reverse) fun line => ¬ IsHeader line
  rw [← hrest, List.findSome?_append, h]
  rfl

end Entries

/-- **No line is lost** exactly if what is set in the file is set behind its last header, where
the entries are the lines `xx.yy=zz` that are no headers. -/
theorem entries_kept_iff (lines : List String) (ini ini' : Ini)
    (h : parseIniToJson lines ini = .ok ini') :
    (∀ key0 key1 line value, entryOf key0 key1 line = some value ↔
      ¬ IsHeader line ∧ SetsEntry key0 key1 line value) ∧
    (EntriesKept lines ini'.opInfo ↔ SetInLastSection lines) := by
  refine ⟨fun _ _ _ _ => entryOf_eq_some_iff, ?_⟩
  unfold parseIniToJson at h
  obtain ⟨ini₁, hlines, h⟩ := HwEfat.Lib.bind_eq_ok.mp h
  obtain ⟨_, hone, h⟩ := HwEfat.Lib.bind_eq_ok.mp h
  cases h
  have hat := entryAt_foldlM hlines (not_not.mp (HwEfat.Lib.raiseIf_eq_ok.mp hone))
  constructor
  · intro hkept key0 key1 hsome
    obtain ⟨value, hvalue⟩ := Option.isSome_iff_exists.mp hsome
    have hentry := hkept key0 key1 value hvalue
    rw [hat, Option.map_eq_some_iff] at hentry
    obtain ⟨value', hlast, _⟩ := hentry
    rw [hlast]
    rfl
  · intro hset key0 key1 value hvalue
    obtain ⟨value', hlast⟩ := Option.isSome_iff_exists.mp (hset key0 key1 (by rw [hvalue]; rfl))
    rw [hat, hlast, Option.map_some]
    rw [lastEntry_of_lastSection hlast] at hvalue
    rw [Option.some.inj hvalue]

/-- One section, with one input. -/
def addIni : List String := ["[Add]\n", "input0.name=x\n", "\n", "input0.dtype = float16, float\n"]

theorem entries_kept_iff_add :
    ∃ ini', parseIniToJson addIni {} = .ok ini' ∧
      (EntriesKept addIni ini'.opInfo ↔ SetInLastSection addIni) :=
  ⟨_, rfl, (entries_kept_iff addIni {} _ rfl).2⟩

/-- The header is repeated before the second line. -/
def repeatedIni : List String := ["[Add]\n", "input0.name=x\n", "[Add]\n", "input0.dtype=float16\n"]

/-- The file is accepted, but its first entry is lost. -/
theorem entry_lost : ∃ ini', parseIniToJson repeatedIni {} = .ok ini' ∧
    ¬ EntriesKept repeatedIni ini'.opInfo := by
  refine ⟨_, rfl, fun h => ?_⟩
  have hlost := h "input0" "name" "x" (by decide)
  cases hlost

end CaseGenerator

end HwEfat.Main
