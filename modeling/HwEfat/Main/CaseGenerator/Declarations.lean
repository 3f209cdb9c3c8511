/-
  HwEfat.Main.CaseGenerator.Declarations — the declarations of an operator's prototype, and how one
  of them is read.

  An identifier is letters, digits and underscores, a default value anything without white space,
  slashes and closing parentheses.  `Decl.piece` is how a declaration is written, without the
  parenthesis at its end; `parsePiece_piece` says that it is read as the entry that `declare` makes.
-/
import HwEfat.Lib.Bracketed
import HwEfat.Main.CaseGenerator.HeadFile

namespace HwEfat.Main

open HwEfat.Lib (PyError PyVal Dict split strip slice sliceFrom startswith findChars isspace Solid
  solid_of_all)

namespace CaseGenerator

/-! ## §1. Declarations. -/

def identChar (c : Char) : Bool := c.isAlphanum || c == '_'

/-- An identifier. -/
def Ident : Type := {s : String // s ≠ "" ∧ s.toList.all identChar = true}

def Ident.text (i : Ident) : String := i.val

/-- A character of a default value. -/
def defaultChar (c : Char) : Bool := c != '/' && !isspace c && c != ')'

/-- A default value. -/
def Default : Type := {s : String // s.toList.all defaultChar = true}

def Default.text (d : Default) : String := d.val

/-- The side of an operator that a tensor is on. -/
inductive Side where
  | input
  | output
  deriving Repr, DecidableEq

def Side.text : Side → String
  | input => INI_INPUT
  | output => INI_OUTPUT

/-- The key of a tensor. -/
def Side.key (side : Side) (i : Nat) : String := side.text ++ toString i

/-- A keyword that declares a tensor. -/
inductive Keyword where
  | input
  | dynamicInput
  | optionalInput
  | output
  | dynamicOutput
  deriving Repr, DecidableEq

def Keyword.text : Keyword → String
  | input => "INPUT"
  | dynamicInput => "DYNAMIC_INPUT"
  | optionalInput => "OPTIONAL_INPUT"
  | output => "OUTPUT"
  | dynamicOutput => "DYNAMIC_OUTPUT"

def Keyword.side : Keyword → Side
  | input | dynamicInput | optionalInput => .input
  | output | dynamicOutput => .output

/-- The data types of a tensor: there is one. -/
def Dtypes : Type := {l : List Ident // l ≠ []}

/-- `DT_FLOAT,DT_INT32` -/
def Dtypes.text (d : Dtypes) : String := ",".intercalate (d.val.map Ident.text)

/-- A declaration. -/
inductive Decl where
  | tensor (keyword : Keyword) (name : Ident) (dtypes : Dtypes)
  | attr (name type : Ident) (default : Default)
  | requiredAttr (name type : Ident)

/-- How a declaration is written, but for the last parenthesis. -/
def Decl.piece : Decl → String
  | tensor keyword name dtypes =>
      keyword.text ++ "(" ++ name.text ++ ",TensorType(\x7b" ++ dtypes.text ++ "\x7d)"
  | attr name type default => "ATTR(" ++ name.text ++ "," ++ type.text ++ "," ++ default.text
  | requiredAttr name type => "REQUIRED_ATTR(" ++ name.text ++ "," ++ type.text

/-- The key of an attribute. -/
def attrKey (name : Ident) : String := "attr_" ++ name.text

/-- The type of an attribute in `op_info`. -/
def attrType (type : Ident) : PyVal :=
  match OP_PROTO_PARSE_ATTR_TYPE_MAP.lookup type.text with
  | some type => .str type
  | none => .none

/-- The default value in `op_info`. -/
def Default.value (d : Default) : String :=
  removeAll '"' (removeAll '\\' (formatDictToList d.text))

/-- The number of tensors of a side so far. -/
def HeadState.count (s : HeadState) : Side → Nat
  | .input => s.inputCount
  | .output => s.outputCount

/-- One more tensor of a side. -/
def HeadState.next (s : HeadState) : Side → HeadState
  | .input => { s with inputCount := s.inputCount + 1 }
  | .output => { s with outputCount := s.outputCount + 1 }

/-- The entry of a tensor. -/
def setTensor (opInfo : OpInfo) (key : String) (name : Ident) (dtypes : Dtypes) : OpInfo :=
  setOpInfo (setOpInfo (setOpInfo opInfo key "name" (.str name.text)) key "type"
    (.str dtypes.text)) key "format" (.str "")

/-- **What a declaration is to `op_info`.** -/
def HeadState.declare (s : HeadState) : Decl → HeadState
  | .tensor keyword name dtypes =>
      let key := keyword.side.key (s.count keyword.side)
      { s.next keyword.side with opInfo := setTensor s.opInfo key name dtypes }
  | .attr name type default =>
      let opInfo := setOpInfo s.opInfo (attrKey name) "name" (.str name.text)
      let opInfo := setOpInfo opInfo (attrKey name) "defaultValue" (.str default.value)
      { s with opInfo := setOpInfo opInfo (attrKey name) "type" (attrType type) }
  | .requiredAttr name type =>
      let opInfo := setOpInfo s.opInfo (attrKey name) "name" (.str name.text)
      { s with opInfo := setOpInfo opInfo (attrKey name) "type" (attrType type) }

/-! ## §2. Characters. -/

section Chars

variable {c : Char} {name : Ident} {s : String}

theorem identChar_of_mem (h : c ∈ name.text.toList) : identChar c = true :=
  List.all_eq_true.mp name.property.2 c h

/-- White space and punctuation are in no identifier. -/
theorem not_mem_ident (hc : identChar c = false) : c ∉ name.text.toList := by
  intro hmem
  rw [identChar_of_mem hmem] at hc
  cases hc

theorem isspace_alphanum (h : c.isAlphanum = true) : isspace c = false := by
  have hrange : (48 ≤ c.toNat ∧ c.toNat ≤ 57) ∨ (65 ≤ c.toNat ∧ c.toNat ≤ 90) ∨
      (97 ≤ c.toNat ∧ c.toNat ≤ 122) := by
    change ((decide (c.val ≥ 'A'.val ∧ c.val ≤ 'Z'.val) ||
      (decide (c.val ≥ 'a'.val) && decide (c.val ≤ 'z'.val))) ||
      (decide (c.val ≥ '0'.val) && decide (c.val ≤ '9'.val))) = true at h
    simp only [Bool.or_eq_true, Bool.and_eq_true, decide_eq_true_eq, ge_iff_le,
      UInt32.le_iff_toNat_le] at h
    have hval : c.val.toNat = c.toNat := rfl
    simp only [hval] at h
    have h65 : 'A'.val.toNat = 65 := rfl
    have h90 : 'Z'.val.toNat = 90 := rfl
    have h97 : 'a'.val.toNat = 97 := rfl
    have h122 : 'z'.val.toNat = 122 := rfl
    have h48 : '0'.val.toNat = 48 := rfl
    have h57 : '9'.val.toNat = 57 := rfl
    omega
  unfold isspace
  simp only [Bool.or_eq_false_iff, Bool.and_eq_false_iff, decide_eq_false_iff_not, beq_eq_false_iff_ne]
  omega

theorem solid_identChar (h : identChar c = true) : Solid c := by
  unfold identChar at h
  rw [Bool.or_eq_true, beq_iff_eq] at h
  rcases h with h | rfl
  · refine ⟨?_, isspace_alphanum h⟩
    rintro rfl
    exact absurd h (by decide)
  · decide

theorem solid_defaultChar (h : defaultChar c = true) : Solid c ∧ c ≠ ')' := by
  simp only [defaultChar, Bool.and_eq_true, Bool.not_eq_true', bne_iff_ne] at h
  exact ⟨⟨h.1.1, h.1.2⟩, h.2⟩

/-- The characters of the data types of a tensor. -/
theorem mem_dtypes_text {dtypes : Dtypes} (h : c ∈ dtypes.text.toList) :
    c = ',' ∨ identChar c = true := by
  rcases HwEfat.Lib.mem_intercalate_comma h with hc | ⟨t, ht, hc⟩
  · exact Or.inl hc
  · obtain ⟨name, _, rfl⟩ := List.mem_map.mp ht
    exact Or.inr (identChar_of_mem hc)

theorem not_mem_dtypes (dtypes : Dtypes) (hcomma : c ≠ ',') (hc : identChar c = false) :
    c ∉ dtypes.text.toList := by
  intro hmem
  rcases mem_dtypes_text hmem with h | h
  · exact hcomma h
  · rw [h] at hc
    cases hc

theorem removeAll_of_not_mem (h : c ∉ s.toList) : removeAll c s = s := by
  unfold removeAll
  rw [List.filter_eq_self.mpr, String.ofList_toList]
  intro d hd
  rw [bne_iff_ne]
  rintro rfl
  exact h hd

/-- Nothing is trimmed where there is no white space. -/
theorem strip_of_solid (h : ∀ c ∈ s.toList, Solid c) : strip s = s := by
  have hspace : ∀ c ∈ s.toList, ¬ isspace c = true := by
    intro c hc hspace
    rw [(h c hc).2] at hspace
    cases hspace
  have hdrop : s.toList.dropWhile isspace = s.toList := by
    rw [List.dropWhile_eq_self_iff]
    exact fun hpos => hspace _ (List.getElem_mem hpos)
  unfold strip
  rw [hdrop, List.rdropWhile_eq_self_iff.mpr, String.ofList_toList]
  exact fun hne => hspace _ (List.getLast_mem hne)

/-- **All characters of a declaration are solid.** -/
theorem solid_piece (d : Decl) : ∀ c ∈ d.piece.toList, Solid c := by
  have hident : ∀ (i : Ident), ∀ c ∈ i.text.toList, Solid c := fun i c hc =>
    solid_identChar (identChar_of_mem hc)
  have hcomma : ∀ c ∈ [','], Solid c := solid_of_all (by decide)
  intro c hc
  -- The pieces of a declaration are words of the grammar and fixed punctuation.
  cases d with
  | tensor keyword name dtypes =>
      have hkeyword : ∀ c ∈ keyword.text.toList, Solid c := by
        cases keyword <;> exact solid_of_all (by decide)
      have hdtypes : ∀ c ∈ dtypes.text.toList, Solid c := by
        intro c hc
        rcases mem_dtypes_text hc with rfl | hc
        · decide
        · exact solid_identChar hc
      simp only [Decl.piece, String.toList_append, List.mem_append] at hc
      rcases hc with ((((hc | hc) | hc) | hc) | hc) | hc
      · exact hkeyword c hc
      · exact solid_of_all (by decide) c hc
      · exact hident name c hc
      · exact solid_of_all (by decide) c hc
      · exact hdtypes c hc
      · exact solid_of_all (by decide) c hc
  | attr name type default =>
      simp only [Decl.piece, String.toList_append, List.mem_append] at hc
      rcases hc with ((((hc | hc) | hc) | hc) | hc) | hc
      · exact solid_of_all (by decide) c hc
      · exact hident name c hc
      · exact hcomma c hc
      · exact hident type c hc
      · exact hcomma c hc
      · exact (solid_defaultChar (List.all_eq_true.mp default.property c hc)).1
  | requiredAttr name type =>
      simp only [Decl.piece, String.toList_append, List.mem_append] at hc
      rcases hc with ((hc | hc) | hc) | hc
      · exact solid_of_all (by decide) c hc
      · exact hident name c hc
      · exact hcomma c hc
      · exact hident type c hc

end Chars

/-! ## §3. Finding the parts of a piece. -/

section Parts

variable {a b c : String}

/-- A keyword is followed by a parenthesis. -/
theorem startswith_paren (q p tail : String) (hp : '(' ∉ p.toList) :
    startswith (q ++ "(" ++ tail) p = startswith q p := by
  unfold startswith
  rw [Bool.eq_iff_iff, List.isPrefixOf_iff_prefix, List.isPrefixOf_iff_prefix,
    String.toList_append, String.toList_append]
  constructor
  · intro h
    rw [List.append_assoc] at h
    rcases List.prefix_or_prefix_of_prefix h (List.prefix_append _ _) with hle | ⟨rest, hrest⟩
    · exact hle
    · cases rest with
      | nil =>
          rw [← hrest, List.append_nil]
      | cons d rest =>
          -- behind `q` there is the parenthesis, in `p` as well
          rw [← hrest, List.prefix_append_right_inj] at h
          have hd : d = '(' := by
            obtain ⟨_, ht⟩ := h
            exact (List.cons.inj ht).1
          refine absurd ?_ hp
          rw [← hrest, hd]
          exact List.mem_append_right _ List.mem_cons_self
  · intro h
    rw [List.append_assoc]
    exact h.trans (List.prefix_append _ _)

theorem fromFound_of_startswith (h : startswith a b = true) : fromFound a b = a := by
  unfold startswith at h
  have hfind : findChars b.toList a.toList = some 0 := by
    cases ha : a.toList with
    | nil =>
        rw [ha, List.isPrefixOf_iff_prefix, List.prefix_nil] at h
        rw [h]
        rfl
    | cons d cs =>
        rw [ha] at h
        rw [findChars, if_pos h]
  unfold fromFound
  rw [hfind]
  show String.ofList a.toList = a
  exact String.ofList_toList

theorem drop_behind {α : Type} (l r : List α) (d : α) : (l ++ d :: r).drop (l.length + 1) = r := by
  rw [← List.drop_drop, List.drop_left]
  rfl

/-- **The name** is between the parenthesis and the comma. -/
theorem parseName_paren (ha : '(' ∉ a.toList) (hb : ',' ∉ b.toList) (c : String) :
    parseName (a ++ "(" ++ b ++ "," ++ c) = b := by
  have hlist : (a ++ "(" ++ b ++ "," ++ c).toList
      = a.toList ++ '(' :: (b.toList ++ ',' :: c.toList) := by
    simp [String.toList_append]
  unfold parseName
  rw [hlist, HwEfat.Lib.findChars_char ha]
  dsimp only
  rw [drop_behind, HwEfat.Lib.findChars_char hb]
  dsimp only
  rw [List.take_left, String.ofList_toList]

/-- **The data types** are between the braces. -/
theorem inBraces_braces (ha : '{' ∉ a.toList) (ha' : '}' ∉ a.toList) (hb : '}' ∉ b.toList)
    (c : String) : inBraces (a ++ "\x7b" ++ b ++ "\x7d" ++ c) = b := by
  have hlist : (a ++ "\x7b" ++ b ++ "\x7d" ++ c).toList
      = a.toList ++ '{' :: (b.toList ++ '}' :: c.toList) := by
    simp [String.toList_append]
  have hlist' : a.toList ++ '{' :: (b.toList ++ '}' :: c.toList)
      = (a.toList ++ '{' :: b.toList) ++ '}' :: c.toList := by
    simp
  have hclose : '}' ∉ a.toList ++ '{' :: b.toList := by
    simp [ha', hb]
  unfold inBraces
  rw [hlist, HwEfat.Lib.findChars_char ha, hlist', HwEfat.Lib.findChars_char hclose]
  dsimp only
  unfold slice
  rw [hlist, hlist', List.take_left, drop_behind, String.ofList_toList]

/-- What is behind the first comma. -/
theorem behindComma_comma (ha : ',' ∉ a.toList) (b : String) : behindComma (a ++ "," ++ b) = b := by
  have hlist : (a ++ "," ++ b).toList = a.toList ++ ',' :: b.toList := by
    simp [String.toList_append]
  unfold behindComma
  rw [hlist, HwEfat.Lib.findChars_char ha]
  dsimp only
  unfold sliceFrom
  rw [hlist, drop_behind, String.ofList_toList]

theorem splitTypeAttrs_comma (ha : ',' ∉ a.toList) (b : String) :
    splitTypeAttrs (a ++ "," ++ b) = some (a, b) := by
  have hlist : (a ++ "," ++ b).toList = a.toList ++ ',' :: b.toList := by
    simp [String.toList_append]
  unfold splitTypeAttrs
  rw [hlist, HwEfat.Lib.findChars_char ha, Option.map_some]
  unfold slice sliceFrom
  rw [hlist, List.take_left, drop_behind, List.drop_zero, String.ofList_toList,
    String.ofList_toList]

end Parts

/-! ## §4. Reading a piece. -/

section Piece

variable {opInfo : OpInfo} {key : String} {name type : Ident} {dtypes : Dtypes}

theorem text_ne_empty (name : Ident) : name.text ≠ "" := name.property.1

theorem split_dtypes (dtypes : Dtypes) :
    split dtypes.text "," = dtypes.val.map Ident.text := by
  refine HwEfat.Lib.split_intercalate (c := ',') rfl ?_ ?_
  · rw [Ne, List.map_eq_nil_iff]
    exact dtypes.property
  · intro t ht
    obtain ⟨i, _, rfl⟩ := List.mem_map.mp ht
    exact not_mem_ident (by decide)

/-- The entry of a tensor is made. -/
theorem getOpInfoFromHeadFile_eq (opInfo : OpInfo) (key : String) (name : Ident)
    (dtypes : Dtypes) :
    getOpInfoFromHeadFile opInfo key dtypes.text name.text
      = .ok (setTensor opInfo key name dtypes) := by
  have hclean : removeAll ' ' (removeAll '\\' dtypes.text) = dtypes.text := by
    rw [removeAll_of_not_mem (c := '\\') (not_mem_dtypes dtypes (by decide) (by decide)),
      removeAll_of_not_mem (not_mem_dtypes dtypes (by decide) (by decide))]
  unfold getOpInfoFromHeadFile
  dsimp only
  rw [hclean]
  have hvalid : checkOpInfoListValid ((split dtypes.text ",").map .str) = .ok () := by
    rw [checkOpInfoListValid_split, split_dtypes]
    intro hmem
    obtain ⟨i, _, hi⟩ := List.mem_map.mp hmem
    exact text_ne_empty i hi
  rw [hvalid]
  rfl

/-! ### Keywords. -/

/-- All keywords. -/
def keywords : List String := IN_OUT_OP_KEY_MAP.map Prod.fst ++ AICPU_ATTR_LIST

theorem paren_not_mem_keywords : ∀ p ∈ keywords, '(' ∉ p.toList := by decide

/-- No keyword starts with another one. -/
theorem startswith_keywords :
    ∀ q ∈ keywords, ∀ p ∈ keywords, startswith q p = decide (q = p) := by
  decide

/-- The keyword of a declaration. -/
def Decl.head : Decl → String
  | tensor keyword _ _ => keyword.text
  | attr _ _ _ => "ATTR"
  | requiredAttr _ _ => "REQUIRED_ATTR"

theorem head_mem_keywords (d : Decl) : d.head ∈ keywords := by
  cases d with
  | tensor keyword name dtypes =>
      show keyword.text ∈ keywords
      cases keyword <;> decide
  | attr name type default =>
      show "ATTR" ∈ keywords
      decide
  | requiredAttr name type =>
      show "REQUIRED_ATTR" ∈ keywords
      decide

/-- The keyword is followed by the name. -/
theorem piece_eq_head (d : Decl) : ∃ tail, d.piece = d.head ++ "(" ++ tail := by
  cases d with
  | tensor keyword name dtypes =>
      refine ⟨name.text ++ ",TensorType(\x7b" ++ dtypes.text ++ "\x7d)", ?_⟩
      simp only [Decl.piece, Decl.head, String.append_assoc]
  | attr name type default =>
      refine ⟨name.text ++ "," ++ type.text ++ "," ++ default.text, ?_⟩
      simp only [Decl.piece, Decl.head, String.append_assoc]
      rfl
  | requiredAttr name type =>
      refine ⟨name.text ++ "," ++ type.text, ?_⟩
      simp only [Decl.piece, Decl.head, String.append_assoc]
      rfl

/-- **A piece starts with its keyword** and with no other one. -/
theorem startswith_piece (d : Decl) {p : String} (hp : p ∈ keywords) :
    startswith d.piece p = decide (d.head = p) := by
  obtain ⟨tail, htail⟩ := piece_eq_head d
  rw [htail, startswith_paren _ _ _ (paren_not_mem_keywords p hp),
    startswith_keywords _ (head_mem_keywords d) p hp]

/-! ### Tensors. -/

variable {line opKey : String} {keys : List (String × String)} {s : HeadState}

theorem parseInputOutput_miss {kind : String} (h : startswith line opKey = false) :
    parseInputOutput line ((opKey, kind) :: keys) s = parseInputOutput line keys s := by
  rw [parseInputOutput, h, if_neg Bool.false_ne_true]

/-- The keyword of the line. -/
theorem parseInputOutput_hit (side : Side) (h : startswith line opKey = true)
    (hname : parseName line = name.text) (hdtypes : inBraces line = dtypes.text) :
    parseInputOutput line ((opKey, side.text) :: keys) s
      = parseInputOutput line keys
        { s.next side with opInfo := setTensor s.opInfo (side.key (s.count side)) name dtypes } := by
  rw [parseInputOutput, if_pos h]
  dsimp only
  rw [fromFound_of_startswith h, hname, hdtypes, if_neg (text_ne_empty name)]
  cases side with
  | input =>
      rw [if_pos (by rfl), getOpInfoFromHeadFile_eq]
      rfl
  | output =>
      rw [if_neg (by decide), getOpInfoFromHeadFile_eq]
      rfl

/-- Keywords that are not those of the line. -/
theorem parseInputOutput_append {l : List (String × String)}
    (h : ∀ p ∈ l, startswith line p.1 = false) :
    parseInputOutput line (l ++ keys) s = parseInputOutput line keys s := by
  induction l with
  | nil => rfl
  | cons p l ih =>
      obtain ⟨hp, hl⟩ := List.forall_mem_cons.mp h
      obtain ⟨opKey, kind⟩ := p
      rw [List.cons_append, parseInputOutput_miss hp]
      exact ih hl

theorem parseAicpuInputOutputInfo_none
    (h : ∀ p ∈ IN_OUT_OP_KEY_MAP.map Prod.fst, startswith line p = false) :
    parseAicpuInputOutputInfo line s = .ok s := by
  unfold parseAicpuInputOutputInfo
  rw [← List.append_nil IN_OUT_OP_KEY_MAP,
    parseInputOutput_append fun p hp => h p.1 (List.mem_map_of_mem hp)]
  rfl

/-- The keyword of a tensor is there once. -/
theorem split_keywords (keyword : Keyword) :
    ∃ before after, IN_OUT_OP_KEY_MAP = before ++ (keyword.text, keyword.side.text) :: after ∧
      ∀ p ∈ before ++ after, keyword.text ≠ p.1 := by
  cases keyword with
  | input => exact ⟨[], IN_OUT_OP_KEY_MAP.drop 1, by decide, by decide⟩
  | dynamicInput =>
      exact ⟨IN_OUT_OP_KEY_MAP.take 1, IN_OUT_OP_KEY_MAP.drop 2, by decide, by decide⟩
  | optionalInput =>
      exact ⟨IN_OUT_OP_KEY_MAP.take 2, IN_OUT_OP_KEY_MAP.drop 3, by decide, by decide⟩
  | output => exact ⟨IN_OUT_OP_KEY_MAP.take 3, IN_OUT_OP_KEY_MAP.drop 4, by decide, by decide⟩
  | dynamicOutput => exact ⟨IN_OUT_OP_KEY_MAP.take 4, [], by decide, by decide⟩

/-- **A tensor's piece** is read by its own keyword alone. -/
theorem parseAicpuInputOutputInfo_tensor (keyword : Keyword) (name : Ident) (dtypes : Dtypes)
    (s : HeadState) :
    parseAicpuInputOutputInfo (Decl.tensor keyword name dtypes).piece s
      = .ok (s.declare (.tensor keyword name dtypes)) := by
  have hparen : '(' ∉ keyword.text.toList :=
    paren_not_mem_keywords _ (head_mem_keywords (.tensor keyword name dtypes))
  have hbraces : '{' ∉ keyword.text.toList ∧ '}' ∉ keyword.text.toList := by
    cases keyword <;> decide
  have hname : parseName (Decl.tensor keyword name dtypes).piece = name.text := by
    have hpiece : (Decl.tensor keyword name dtypes).piece
        = keyword.text ++ "(" ++ name.text ++ "," ++ ("TensorType(\x7b" ++ dtypes.text ++ "\x7d)") := by
      simp only [Decl.piece, String.append_assoc]
      rfl
    rw [hpiece]
    exact parseName_paren hparen (not_mem_ident (by decide)) _
  have hdtypes : inBraces (Decl.tensor keyword name dtypes).piece = dtypes.text := by
    have hpiece : (Decl.tensor keyword name dtypes).piece
        = keyword.text ++ "(" ++ name.text ++ ",TensorType(" ++ "\x7b" ++ dtypes.text ++ "\x7d"
          ++ ")" := by
      simp only [Decl.piece, String.append_assoc]
      rfl
    -- None of the text in front of the types has a brace.
    have hopen : ∀ c : Char, identChar c = false → c ∉ keyword.text.toList →
        c ∉ "(".toList → c ∉ ",TensorType(".toList →
        c ∉ (keyword.text ++ "(" ++ name.text ++ ",TensorType(").toList := by
      intro c hc h₁ h₂ h₃ hmem
      simp only [String.toList_append, List.mem_append] at hmem
      rcases hmem with ((hmem | hmem) | hmem) | hmem
      · exact h₁ hmem
      · exact h₂ hmem
      · exact not_mem_ident hc hmem
      · exact h₃ hmem
    rw [hpiece]
    exact inBraces_braces (hopen '{' (by decide) hbraces.1 (by decide) (by decide))
      (hopen '}' (by decide) hbraces.2 (by decide) (by decide))
      (not_mem_dtypes dtypes (by decide) (by decide)) _
  -- Of the keywords of the map, only the one of the declaration starts the piece.
  obtain ⟨before, after, hmap, hother⟩ := split_keywords keyword
  have hstart : ∀ p ∈ IN_OUT_OP_KEY_MAP,
      startswith (Decl.tensor keyword name dtypes).piece p.1 = decide (keyword.text = p.1) :=
    fun p hp => startswith_piece _ (List.mem_append_left _ (List.mem_map_of_mem hp))
  have hmiss : ∀ p ∈ before ++ after,
      startswith (Decl.tensor keyword name dtypes).piece p.1 = false := by
    intro p hp
    have hmem : p ∈ IN_OUT_OP_KEY_MAP := by
      rw [hmap]
      rcases List.mem_append.mp hp with hp | hp
      · exact List.mem_append_left _ hp
      · exact List.mem_append_right _ (List.mem_cons_of_mem _ hp)
    rw [hstart p hmem]
    exact decide_eq_false (hother p hp)
  have hhit : startswith (Decl.tensor keyword name dtypes).piece keyword.text = true := by
    rw [hstart (keyword.text, keyword.side.text) (by rw [hmap]; simp)]
    exact decide_eq_true rfl
  unfold parseAicpuInputOutputInfo
  rw [hmap, parseInputOutput_append fun p hp => hmiss p (List.mem_append_left _ hp),
    parseInputOutput_hit keyword.side hhit hname hdtypes, ← List.append_nil after,
    parseInputOutput_append fun p hp => hmiss p (List.mem_append_right _ hp)]
  rfl

/-! ### Attributes. -/

/-- The type of an attribute is not empty, so it passes the check. -/
theorem checkOpInfoListValid_type (type : Ident) :
    checkOpInfoListValid [PyVal.str type.text] = .ok () := by
  rw [checkOpInfoListValid_ok_iff]
  refine ⟨List.cons_ne_nil _ _, fun v hv => ?_⟩
  rw [List.mem_singleton] at hv
  rw [hv]
  exact beq_false_of_ne (text_ne_empty type)

/-- An attribute, from the parts of its piece. -/
theorem parseAttr_eq (hstart : startswith line opKey = true) (hname : parseName line = name.text)
    {typeAttrs : String} (htypeAttrs : strip (behindComma line) = typeAttrs) {opInfo' : OpInfo}
    (htype : getAttrTensorType (setOpInfo opInfo (attrKey name) "name" (.str name.text)) opKey
      typeAttrs (attrKey name) = (opInfo', type.text)) :
    parseAttr opInfo opKey line = .ok (setOpInfo opInfo' (attrKey name) "type" (attrType type)) := by
  unfold attrKey at htype
  unfold parseAttr attrKey attrType
  dsimp only
  rw [fromFound_of_startswith hstart, hname, htypeAttrs, htype]
  dsimp only
  rw [checkOpInfoListValid_type]
  rfl

theorem parseAttr_attr (name type : Ident) (default : Default) (s : HeadState) :
    parseAttr s.opInfo "ATTR" (Decl.attr name type default).piece
      = .ok (s.declare (.attr name type default)).opInfo := by
  have hcomma : ',' ∉ ("ATTR(" ++ name.text).toList := by
    rw [String.toList_append, List.mem_append]
    rintro (h | h)
    · exact absurd h (by decide)
    · exact not_mem_ident (by decide) h
  have hpiece : (Decl.attr name type default).piece
      = "ATTR" ++ "(" ++ name.text ++ "," ++ (type.text ++ "," ++ default.text) := by
    simp only [Decl.piece, String.append_assoc]
    rfl
  have hbehind : behindComma (Decl.attr name type default).piece
      = type.text ++ "," ++ default.text := by
    rw [hpiece]
    exact behindComma_comma hcomma _
  -- There is no white space to strip behind the first comma.
  have hsolid : ∀ c ∈ (type.text ++ "," ++ default.text).toList, Solid c := by
    intro c hc
    refine solid_piece (.attr name type default) c ?_
    rw [hpiece, String.toList_append]
    exact List.mem_append_right _ hc
  refine parseAttr_eq ?_ ?_ ((congrArg strip hbehind).trans (strip_of_solid hsolid)) ?_
  · rw [hpiece, String.append_assoc, String.append_assoc, startswith_paren _ _ _ (by decide)]
    decide
  · rw [hpiece]
    exact parseName_paren (by decide) (not_mem_ident (by decide)) _
  · unfold getAttrTensorType
    rw [if_pos rfl, splitTypeAttrs_comma (not_mem_ident (by decide))]
    rfl

theorem parseAttr_requiredAttr (name type : Ident) (s : HeadState) :
    parseAttr s.opInfo "REQUIRED_ATTR" (Decl.requiredAttr name type).piece
      = .ok (s.declare (.requiredAttr name type)).opInfo := by
  have hcomma : ',' ∉ ("REQUIRED_ATTR(" ++ name.text).toList := by
    rw [String.toList_append, List.mem_append]
    rintro (h | h)
    · exact absurd h (by decide)
    · exact not_mem_ident (by decide) h
  have hpiece : (Decl.requiredAttr name type).piece
      = "REQUIRED_ATTR" ++ "(" ++ name.text ++ "," ++ type.text := rfl
  have hbehind : behindComma (Decl.requiredAttr name type).piece = type.text := by
    rw [hpiece]
    exact behindComma_comma hcomma _
  have hsolid : ∀ c ∈ type.text.toList, Solid c := fun c hc =>
    solid_identChar (identChar_of_mem hc)
  -- The type ends in front of the closing parenthesis, and has none of its own.
  have htake : type.text.toList.takeWhile (· != ')') = type.text.toList := by
    rw [List.takeWhile_eq_self_iff]
    intro c hc
    rw [bne_iff_ne]
    rintro rfl
    exact not_mem_ident (by decide) hc
  refine parseAttr_eq ?_ ?_ ((congrArg strip hbehind).trans (strip_of_solid hsolid)) ?_
  · rw [hpiece, String.append_assoc, String.append_assoc, startswith_paren _ _ _ (by decide)]
    decide
  · rw [hpiece]
    exact parseName_paren (by decide) (not_mem_ident (by decide)) _
  · unfold getAttrTensorType
    rw [if_neg (by decide), htake, String.ofList_toList]

theorem parseAicpuAttr_none (h : ∀ p ∈ AICPU_ATTR_LIST, startswith line p = false) :
    parseAicpuAttr line opInfo = .ok opInfo := by
  unfold parseAicpuAttr AICPU_ATTR_LIST
  simp only [AICPU_ATTR_LIST, List.forall_mem_cons] at h
  rw [List.foldlM_cons, h.1, if_neg Bool.false_ne_true]
  dsimp only [bind, Except.bind]
  rw [List.foldlM_cons, h.2.1, if_neg Bool.false_ne_true]
  rfl

/-- **An attribute's piece** is read by its own keyword alone. -/
theorem parseAicpuAttr_attr (name type : Ident) (default : Default) (s : HeadState) :
    parseAicpuAttr (Decl.attr name type default).piece s.opInfo
      = .ok (s.declare (.attr name type default)).opInfo := by
  unfold parseAicpuAttr AICPU_ATTR_LIST
  rw [List.foldlM_cons, startswith_piece _ (by decide), if_pos (by simp [Decl.head]),
    parseAttr_attr]
  dsimp only [bind, Except.bind]
  rw [List.foldlM_cons, startswith_piece _ (by decide), if_neg (by simp [Decl.head])]
  rfl

theorem parseAicpuAttr_requiredAttr (name type : Ident) (s : HeadState) :
    parseAicpuAttr (Decl.requiredAttr name type).piece s.opInfo
      = .ok (s.declare (.requiredAttr name type)).opInfo := by
  unfold parseAicpuAttr AICPU_ATTR_LIST
  rw [List.foldlM_cons, startswith_piece _ (by decide), if_neg (by simp [Decl.head])]
  dsimp only [bind, Except.bind]
  rw [List.foldlM_cons, startswith_piece _ (by decide), if_pos (by simp [Decl.head]),
    parseAttr_requiredAttr]
  rfl

/-! ### All pieces. -/

/-- A piece without a keyword at its start is passed over. -/
theorem parsePiece_other {q tail : String}
    (hsolid : ∀ c ∈ (q ++ "(" ++ tail).toList, Solid c)
    (hq : ∀ p ∈ keywords, startswith q p = false) (s : HeadState) :
    parsePiece s (q ++ "(" ++ tail) = .ok s := by
  have hno : ∀ p ∈ keywords, startswith (q ++ "(" ++ tail) p = false := by
    intro p hp
    rw [startswith_paren q p tail (paren_not_mem_keywords p hp)]
    exact hq p hp
  unfold parsePiece
  dsimp only
  rw [strip_of_solid hsolid, parseAicpuInputOutputInfo_none fun p hp =>
    hno p (List.mem_append_left _ hp)]
  dsimp only [bind, Except.bind]
  rw [parseAicpuAttr_none fun p hp => hno p (List.mem_append_right _ hp)]
  rfl

/-- A piece has no keyword of a list that its own one is not in. -/
theorem startswith_piece_eq_false {d : Decl} {l : List String} (hl : l ⊆ keywords)
    (hd : d.head ∉ l) : ∀ p ∈ l, startswith d.piece p = false := by
  intro p hp
  rw [startswith_piece d (hl hp)]
  refine decide_eq_false ?_
  rintro rfl
  exact hd hp

/-- **Every declaration is read**, as the entry that it is. -/
theorem parsePiece_piece (d : Decl) (s : HeadState) :
    parsePiece s d.piece = .ok (s.declare d) := by
  unfold parsePiece
  dsimp only
  rw [strip_of_solid (solid_piece d)]
  -- The keyword tells which of the two parsers takes the piece; the other one passes it on.
  cases d with
  | tensor keyword name dtypes =>
      have hno : (Decl.tensor keyword name dtypes).head ∉ AICPU_ATTR_LIST := by
        show keyword.text ∉ AICPU_ATTR_LIST
        cases keyword <;> decide
      rw [parseAicpuInputOutputInfo_tensor]
      dsimp only [bind, Except.bind]
      rw [parseAicpuAttr_none
        (startswith_piece_eq_false (List.subset_append_right _ _) hno)]
      rfl
  | attr name type default =>
      have hno : (Decl.attr name type default).head ∉ IN_OUT_OP_KEY_MAP.map Prod.fst := by
        show "ATTR" ∉ IN_OUT_OP_KEY_MAP.map Prod.fst
        decide
      rw [parseAicpuInputOutputInfo_none
        (startswith_piece_eq_false (List.subset_append_left _ _) hno)]
      dsimp only [bind, Except.bind]
      rw [parseAicpuAttr_attr]
      rfl
  | requiredAttr name type =>
      have hno : (Decl.requiredAttr name type).head ∉ IN_OUT_OP_KEY_MAP.map Prod.fst := by
        show "REQUIRED_ATTR" ∉ IN_OUT_OP_KEY_MAP.map Prod.fst
        decide
      rw [parseAicpuInputOutputInfo_none
        (startswith_piece_eq_false (List.subset_append_left _ _) hno)]
      dsimp only [bind, Except.bind]
      rw [parseAicpuAttr_requiredAttr]
      rfl

end Piece

end CaseGenerator

end HwEfat.Main
