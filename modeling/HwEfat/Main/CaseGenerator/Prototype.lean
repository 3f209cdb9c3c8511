/-
  HwEfat.Main.CaseGenerator.Prototype — the prototype of an operator, from its head file.

  A registration is the name of the operator, its declarations and what is behind them in the file.
  The file may have comments and blanks between any two characters of it, and anything in front
  that `REG_OP` does not occur in.

  Main result: `prototype_read_back`.
-/
import HwEfat.Lib.IntText
import HwEfat.Main.CaseGenerator.Declarations

namespace HwEfat.Main

open HwEfat.Lib (PyError PyVal Dict split strip slice sliceFrom startswith findChars isspace Solid
  solid_of_all Layout FirstAt deleteComments unblank isBlank)

namespace CaseGenerator

/-! ## §1. Registrations. -/

/-- What is behind the registration: it does not go on with one more `).`. -/
def Trailer : Type :=
  {l : List Char // (∀ c ∈ l, Solid c) ∧ ¬ [')', '.'] <:+: ')' :: l}

/-- `REG_OP(op)`, the declarations and `OP_END_FACTORY_REG(op)`. -/
structure Registration where
  op : Ident
  decls : List Decl
  trailer : Trailer

/-- What is between the `).`. -/
def Registration.pieces (r : Registration) : List (List Char) :=
  ("REG_OP" ++ "(" ++ r.op.text).toList :: r.decls.map fun d => d.piece.toList

def Registration.last (r : Registration) : List Char :=
  ("OP_END_FACTORY_REG" ++ "(" ++ r.op.text).toList ++ ')' :: r.trailer.val

/-- How a registration is written. -/
def Registration.chars (r : Registration) : List Char :=
  [')', '.'].intercalate (r.pieces ++ [r.last])

/-- A file with the registration, and with comments and blanks in it. -/
def RegisteredIn (r : Registration) (text : String) : Prop :=
  ∃ before laid, text.toList = before ++ ("REG_OP".toList ++ laid) ∧
    FirstAt "REG_OP".toList before ∧ Layout ("REG_OP".toList ++ laid) r.chars

/-! ## §2. What a file declares. -/

instance : DecidableEq Ident := inferInstanceAs (DecidableEq {_s : String // _})

/-- The tensors of a side. -/
def Decl.tensorOf (side : Side) : Decl → Option (Ident × Dtypes)
  | tensor keyword name dtypes => if keyword.side = side then some (name, dtypes) else none
  | _ => none

def tensorsOf (side : Side) (decls : List Decl) : List (Ident × Dtypes) :=
  decls.filterMap (Decl.tensorOf side)

/-- The type that a declaration gives an attribute. -/
def Decl.typeOf (name : Ident) : Decl → Option Ident
  | attr n type _ | requiredAttr n type => if n = name then some type else none
  | _ => none

/-- The default value that a declaration gives an attribute. -/
def Decl.defaultOf (name : Ident) : Decl → Option Default
  | attr n _ default => if n = name then some default else none
  | _ => none

/-- What the last one of the declarations gives. -/
def lastOf {β : Type} (f : Decl → Option β) (decls : List Decl) : Option β :=
  decls.reverse.findSome? f

/-- The entries that there are declarations for. -/
inductive Declared (decls : List Decl) : String → String → Prop where
  | tensor (side : Side) (i : Nat) (key1 : String) (hi : i < (tensorsOf side decls).length)
      (hkey1 : key1 ∈ ["name", "type", "format"]) : Declared decls (side.key i) key1
  | attr (name : Ident) (key1 : String) (hname : (lastOf (Decl.typeOf name) decls).isSome = true)
      (hkey1 : key1 ∈ ["name", "type"]) : Declared decls (attrKey name) key1
  | default (name : Ident) (hname : (lastOf (Decl.defaultOf name) decls).isSome = true) :
      Declared decls (attrKey name) "defaultValue"

/-- **What the declarations make of `op_info`.** -/
structure Describes (decls : List Decl) (opInfo opInfo' : OpInfo) : Prop where
  tensor : ∀ (side : Side) (i : Nat) (name : Ident) (dtypes : Dtypes),
    (tensorsOf side decls)[i]? = some (name, dtypes) →
      entryAt opInfo' (side.key i) "name" = some (.str name.text) ∧
      entryAt opInfo' (side.key i) "type" = some (.str dtypes.text) ∧
      entryAt opInfo' (side.key i) "format" = some (.str "")
  attr : ∀ (name type : Ident), lastOf (Decl.typeOf name) decls = some type →
      entryAt opInfo' (attrKey name) "name" = some (.str name.text) ∧
      entryAt opInfo' (attrKey name) "type" = some (attrType type)
  default : ∀ (name : Ident) (default : Default),
    lastOf (Decl.defaultOf name) decls = some default →
      entryAt opInfo' (attrKey name) "defaultValue" = some (.str default.value)
  other : ∀ key0 key1 : String, ¬ Declared decls key0 key1 →
    entryAt opInfo' key0 key1 = entryAt opInfo key0 key1

/-! ## §3. Reading the file. -/

section Reading

variable {r : Registration} {text : String}

/-- There is no dot in the data types of a tensor. -/
theorem dot_not_mem_tensor (keyword : Keyword) (name : Ident) (dtypes : Dtypes) :
    '.' ∉ (Decl.tensor keyword name dtypes).piece.toList := by
  have hkeyword : '.' ∉ keyword.text.toList := by cases keyword <;> decide
  intro h
  simp only [Decl.piece, String.toList_append, List.mem_append] at h
  rcases h with ((((h | h) | h) | h) | h) | h
  · exact hkeyword h
  · exact absurd h (by decide)
  · exact not_mem_ident (by decide) h
  · exact absurd h (by decide)
  · exact not_mem_dtypes dtypes (by decide) (by decide) h
  · exact absurd h (by decide)

/-- There is no parenthesis at the end of an attribute's piece or in it. -/
theorem paren_not_mem_attr (name type : Ident) (default : Default) :
    ')' ∉ (Decl.attr name type default).piece.toList := by
  intro h
  simp only [Decl.piece, String.toList_append, List.mem_append] at h
  rcases h with ((((h | h) | h) | h) | h) | h
  · exact absurd h (by decide)
  · exact not_mem_ident (by decide) h
  · exact absurd h (by decide)
  · exact not_mem_ident (by decide) h
  · exact absurd h (by decide)
  · exact (solid_defaultChar (List.all_eq_true.mp default.property _ h)).2 rfl

theorem paren_not_mem_requiredAttr (name type : Ident) :
    ')' ∉ (Decl.requiredAttr name type).piece.toList := by
  intro h
  simp only [Decl.piece, String.toList_append, List.mem_append] at h
  rcases h with ((h | h) | h) | h
  · exact absurd h (by decide)
  · exact not_mem_ident (by decide) h
  · exact absurd h (by decide)
  · exact not_mem_ident (by decide) h

/-- **A piece ends at its own `).`.** -/
theorem firstAt_piece (d : Decl) : FirstAt [')', '.'] d.piece.toList := by
  refine HwEfat.Lib.firstAt_pair (by decide) ?_
  cases d with
  | tensor keyword name dtypes => exact Or.inr (dot_not_mem_tensor keyword name dtypes)
  | attr name type default => exact Or.inl (paren_not_mem_attr name type default)
  | requiredAttr name type => exact Or.inl (paren_not_mem_requiredAttr name type)

theorem firstAt_pieces (r : Registration) : ∀ part ∈ r.pieces, FirstAt [')', '.'] part := by
  unfold Registration.pieces
  rw [List.forall_mem_cons, List.forall_mem_map]
  refine ⟨HwEfat.Lib.firstAt_pair (by decide) (Or.inl ?_), fun d _ => firstAt_piece d⟩
  rw [String.toList_append, List.mem_append]
  rintro (h | h)
  · exact absurd h (by decide)
  · exact not_mem_ident (by decide) h

theorem paren_not_mem_op {c : Char} (hc : identChar c = false) (q : String)
    (hq : c ∉ (q ++ "(").toList) (op : Ident) : c ∉ (q ++ "(" ++ op.text).toList := by
  rw [String.toList_append, List.mem_append]
  rintro (h | h)
  · exact hq h
  · exact not_mem_ident hc h

theorem not_infix_last (r : Registration) : ¬ [')', '.'] <:+: r.last := by
  have hpre : ')' ∉ ("OP_END_FACTORY_REG" ++ "(" ++ r.op.text).toList :=
    paren_not_mem_op (by decide) _ (by decide) r.op
  unfold Registration.last
  generalize ("OP_END_FACTORY_REG" ++ "(" ++ r.op.text).toList = l at hpre
  induction l with
  | nil => exact r.trailer.property.2
  | cons c l ih =>
      rw [List.mem_cons, not_or] at hpre
      intro hin
      rw [List.cons_append, List.infix_cons_iff] at hin
      rcases hin with hin | hin
      · exact hpre.1 (List.cons_prefix_cons.mp hin).1
      · exact ih hpre.2 hin

theorem solid_op (q : String) (hq : ∀ c ∈ (q ++ "(").toList, Solid c) (op : Ident) :
    ∀ c ∈ (q ++ "(" ++ op.text).toList, Solid c := by
  intro c hc
  rw [String.toList_append, List.mem_append] at hc
  rcases hc with hc | hc
  · exact hq c hc
  · exact solid_identChar (identChar_of_mem hc)

theorem solid_last (r : Registration) : ∀ c ∈ r.last, Solid c := by
  intro c hc
  unfold Registration.last at hc
  rw [List.mem_append, List.mem_cons] at hc
  rcases hc with hc | rfl | hc
  · exact solid_op _ (solid_of_all (by decide)) r.op c hc
  · decide
  · exact r.trailer.property.1 c hc

theorem solid_chars (r : Registration) : ∀ c ∈ r.chars, Solid c := by
  intro c hc
  unfold Registration.chars at hc
  rcases HwEfat.Lib.mem_intercalate hc with hc | ⟨part, hpart, hc⟩
  · exact solid_of_all (by decide) c hc
  · rw [List.mem_append, List.mem_singleton] at hpart
    rcases hpart with hpart | rfl
    · unfold Registration.pieces at hpart
      rcases List.mem_cons.mp hpart with rfl | hpart
      · exact solid_op _ (solid_of_all (by decide)) r.op c hc
      · obtain ⟨d, _, rfl⟩ := List.mem_map.mp hpart
        exact solid_piece d c hc
    · exact solid_last r c hc

theorem chars_eq_append (r : Registration) : r.chars = "REG_OP".toList ++ r.chars.drop 6 := by
  unfold Registration.chars Registration.pieces
  rw [List.cons_append, List.intercalate_cons_of_ne_nil (by simp)]
  simp only [String.toList_append, List.append_assoc]
  rfl

/-- A registration with a comment in it, behind some text. -/
def commented (r : Registration) (before body : List Char) : String :=
  String.ofList (before ++ ("REG_OP".toList ++ '/' :: '*' :: (body ++ '*' :: '/' :: r.chars.drop 6)))

theorem registeredIn_commented (r : Registration) {before body : List Char}
    (hbefore : FirstAt "REG_OP".toList before) (hbody : FirstAt ['*', '/'] body) :
    RegisteredIn r (commented r before body) := by
  refine ⟨before, _, String.toList_ofList, hbefore, ?_⟩
  rw [chars_eq_append]
  refine Layout.solid_append (solid_of_all (by decide)) (.block body hbody ?_)
  have hsolid := Layout.nil.solid_append (l := r.chars.drop 6) fun c hc =>
    solid_chars r c (List.mem_of_mem_drop hc)
  rw [List.append_nil] at hsolid
  exact hsolid

/-- What white space is trimmed from still starts with the same text. -/
theorem prefix_rdropWhile {p l : List Char} (hp : ∀ c ∈ p, isspace c = false) (h : p <+: l) :
    p <+: l.rdropWhile isspace := by
  obtain ⟨t, ht⟩ := h
  have hspace : ∀ c ∈ l.rtakeWhile isspace, isspace c = true :=
    fun c hc => List.mem_rtakeWhile_imp hc
  have hsplit : p ++ t = l.rdropWhile isspace ++ l.rtakeWhile isspace := by
    rw [ht, List.rdropWhile_append_rtakeWhile]
  clear ht
  generalize l.rdropWhile isspace = front at hsplit
  generalize l.rtakeWhile isspace = behind at hspace hsplit
  induction p generalizing front with
  | nil => exact List.nil_prefix
  | cons c p ih =>
      obtain ⟨hc, hp⟩ := List.forall_mem_cons.mp hp
      obtain ⟨front', rfl, hfront'⟩ := HwEfat.Lib.cons_eq_append hc hspace hsplit
      exact List.cons_prefix_cons.mpr ⟨rfl, ih hp front' hfront'⟩

/-- Blanks are removed one character after another. -/
theorem oneLine_eq (s : String) : oneLine s = String.ofList (unblank (deleteCommentsOf s).toList) := by
  unfold oneLine removeAll unblank
  simp only [String.toList_ofList, List.filter_filter]
  refine congrArg String.ofList (List.filter_congr fun c _ => ?_)
  simp only [isBlank, bne, Bool.not_or, Bool.and_assoc]
  cases c == ' ' <;> cases c == '\n' <;> cases c == '\r' <;> cases c == '\t' <;> rfl

/-- The file from `REG_OP` on. -/
theorem fromFound_registration {before laid : List Char}
    (htext : text.toList = before ++ ("REG_OP".toList ++ laid))
    (hfirst : FirstAt "REG_OP".toList before) :
    fromFound text "REG_OP" = String.ofList ("REG_OP".toList ++ laid) := by
  unfold fromFound
  rw [htext, HwEfat.Lib.findChars_append (by decide) hfirst]
  dsimp only
  unfold sliceFrom
  rw [htext, List.drop_left]

/-- **The pieces of the file.** -/
theorem split_oneLine (h : RegisteredIn r text) :
    startswith (strip (fromFound text "REG_OP")) "REG_OP" = true ∧
      split (oneLine (strip (fromFound text "REG_OP"))) ")."
        = (r.pieces ++ [r.last]).map String.ofList := by
  obtain ⟨before, laid, htext, hfirst, hlayout⟩ := h
  have hsolid : ∀ c ∈ "REG_OP".toList, isspace c = false := fun c hc =>
    (solid_of_all (by decide) c hc).2
  have hlist : (String.ofList ("REG_OP".toList ++ laid)).toList = "REG_OP".toList ++ laid :=
    String.toList_ofList
  rw [fromFound_registration htext hfirst]
  generalize String.ofList ("REG_OP".toList ++ laid) = found at hlist
  constructor
  · have hstart : ("REG_OP".toList ++ laid).dropWhile isspace = "REG_OP".toList ++ laid := rfl
    have htrim : (strip found).toList = ("REG_OP".toList ++ laid).rdropWhile isspace := by
      unfold strip
      rw [hlist, hstart]
      exact String.toList_ofList
    unfold startswith
    rw [List.isPrefixOf_iff_prefix, htrim]
    exact prefix_rdropWhile hsolid (List.prefix_append _ _)
  · have hchars : unblank (strip (deleteComments (strip found))).toList = r.chars :=
      HwEfat.Lib.unblank_deleteComments (c := 'R') (by decide) hlist (by rw [hlist]; exact hlayout)
    have hline : (oneLine (strip found)).toList = r.chars := by
      rw [oneLine_eq]
      unfold deleteCommentsOf
      rw [hchars]
      exact String.toList_ofList
    unfold split
    rw [hline]
    exact congrArg _ (HwEfat.Lib.splitChars_joined (List.cons_ne_nil _ _) (not_infix_last r)
      r.pieces (firstAt_pieces r))

/-- All declarations are read. -/
theorem foldlM_pieces (decls : List Decl) (s : HeadState) :
    (decls.map Decl.piece).foldlM parsePiece s = .ok (decls.foldl HeadState.declare s) := by
  induction decls generalizing s with
  | nil => rfl
  | cons d decls ih =>
      rw [List.map_cons, List.foldlM_cons, parsePiece_piece, List.foldl_cons]
      exact ih (s.declare d)

/-- The operator's name is passed over. -/
theorem parsePiece_op {q : String} (op : Ident) {tail : List Char}
    (hsolid : ∀ c ∈ ((q ++ "(" ++ op.text).toList ++ tail), Solid c)
    (hq : ∀ p ∈ keywords, startswith q p = false) (s : HeadState) :
    parsePiece s (String.ofList ((q ++ "(" ++ op.text).toList ++ tail)) = .ok s := by
  have hpiece : String.ofList ((q ++ "(" ++ op.text).toList ++ tail)
      = q ++ "(" ++ (op.text ++ String.ofList tail) := by
    rw [← String.toList_inj]
    simp only [String.toList_ofList, String.toList_append, List.append_assoc]
  rw [hpiece]
  refine parsePiece_other (fun c hc => hsolid c ?_) hq s
  rw [← hpiece, String.toList_ofList] at hc
  exact hc

/-- **What is read of a file**: its declarations, one after the other. -/
theorem parseAicpuOpProto_eq (h : RegisteredIn r text) (opInfo : OpInfo) :
    parseAicpuOpProto text opInfo
      = .ok (true, (r.decls.foldl HeadState.declare { opInfo }).opInfo) := by
  obtain ⟨hstart, hsplit⟩ := split_oneLine h
  have hne : text ≠ "" := by
    rintro rfl
    obtain ⟨before, laid, htext, _⟩ := h
    have hlen := congrArg List.length htext
    simp at hlen
  have hdecls : (r.decls.map fun d => d.piece.toList).map String.ofList
      = r.decls.map Decl.piece := by
    rw [List.map_map]
    exact List.map_congr_left fun d _ => String.ofList_toList
  unfold parseAicpuOpProto
  rw [if_neg hne]
  dsimp only
  rw [if_pos hstart, hsplit]
  unfold Registration.pieces Registration.last
  rw [List.cons_append, List.map_cons, List.foldlM_cons,
    ← List.append_nil ("REG_OP" ++ "(" ++ r.op.text).toList,
    parsePiece_op r.op (by rw [List.append_nil]; exact solid_op _ (solid_of_all (by decide)) r.op) (by decide)]
  dsimp only [bind, Except.bind]
  rw [List.map_append, List.foldlM_append, hdecls, foldlM_pieces]
  dsimp only [bind, Except.bind]
  rw [List.map_cons, List.foldlM_cons, parsePiece_op r.op (solid_last r) (by decide)]
  rfl

end Reading

/-! ## §4. The entries. -/

section Keys

variable {side side' : Side} {i j : Nat} {name name' : Ident}

theorem head_key (side : Side) (i : Nat) :
    (side.key i).toList.head? = side.text.toList.head? := by
  unfold Side.key
  rw [String.toList_append, List.head?_append_of_ne_nil]
  cases side <;> decide

theorem head_attrKey (name : Ident) : (attrKey name).toList.head? = some 'a' := by
  unfold attrKey
  rw [String.toList_append]
  rfl

theorem key_inj : side.key i = side'.key j ↔ side = side' ∧ i = j := by
  constructor
  · intro h
    have hside : side = side' := by
      have hhead := congrArg (fun t : String => t.toList.head?) h
      rw [head_key, head_key] at hhead
      revert hhead
      cases side <;> cases side' <;> decide
    subst hside
    refine ⟨rfl, HwEfat.Lib.toString_injective ?_⟩
    unfold Side.key at h
    rw [← String.toList_inj] at h ⊢
    rw [String.toList_append, String.toList_append] at h
    exact List.append_cancel_left h
  · rintro ⟨rfl, rfl⟩
    rfl

theorem key_ne_attrKey : side.key i ≠ attrKey name := by
  intro h
  have hhead := congrArg (fun t : String => t.toList.head?) h
  rw [head_key, head_attrKey] at hhead
  revert hhead
  cases side <;> decide

theorem attrKey_inj : attrKey name = attrKey name' ↔ name = name' := by
  constructor
  · intro h
    unfold attrKey at h
    rw [← String.toList_inj, String.toList_append, String.toList_append] at h
    exact Subtype.ext (String.toList_inj.mp (List.append_cancel_left h))
  · rintro rfl
    rfl

end Keys

/-- What a tensor has under a key. -/
def tensorField (name : Ident) (dtypes : Dtypes) (key1 : String) : Option PyVal :=
  if key1 = "name" then some (.str name.text)
  else if key1 = "type" then some (.str dtypes.text)
  else if key1 = "format" then some (.str "")
  else none

/-- What an attribute has under a key. -/
def attrField (name type : Ident) (default : Option Default) (key1 : String) : Option PyVal :=
  if key1 = "name" then some (.str name.text)
  else if key1 = "type" then some (attrType type)
  else if key1 = "defaultValue" then default.map fun d => .str d.value
  else none

/-- The entry that a declaration makes, given the number of tensors so far. -/
def Decl.entry (count : Side → Nat) (key0 key1 : String) : Decl → Option PyVal
  | tensor keyword name dtypes =>
      if keyword.side.key (count keyword.side) = key0 then tensorField name dtypes key1 else none
  | attr name type default =>
      if attrKey name = key0 then attrField name type (some default) key1 else none
  | requiredAttr name type => if attrKey name = key0 then attrField name type none key1 else none

section Entries

variable {s : HeadState} {d : Decl} {decls : List Decl} {opInfo : OpInfo} {key0 key1 : String}
  {side : Side} {i : Nat} {name : Ident}

theorem entryAt_setTensor (key : String) (name : Ident) (dtypes : Dtypes) :
    entryAt (setTensor opInfo key name dtypes) key0 key1
      = (if key = key0 then tensorField name dtypes key1 else none).or
        (entryAt opInfo key0 key1) := by
  unfold setTensor tensorField
  simp only [entryAt_setOpInfo]
  by_cases hkey : key = key0
  · by_cases hformat : key1 = "format"
    · simp [hkey, hformat]
    · by_cases htype : key1 = "type"
      · simp [hkey, htype]
      · by_cases hname : key1 = "name"
        · simp [hkey, hname]
        · simp [hkey, hname, htype, hformat, Ne.symm hformat, Ne.symm htype, Ne.symm hname]
  · simp [hkey]

/-- **The entries after a declaration.** -/
theorem entryAt_declare (s : HeadState) (d : Decl) (key0 key1 : String) :
    entryAt (s.declare d).opInfo key0 key1
      = (d.entry s.count key0 key1).or (entryAt s.opInfo key0 key1) := by
  cases d with
  | tensor keyword name dtypes => exact entryAt_setTensor _ name dtypes
  | attr name type default =>
      unfold HeadState.declare Decl.entry attrField
      simp only [entryAt_setOpInfo]
      by_cases hkey : attrKey name = key0
      · by_cases hname : key1 = "name"
        · simp [hkey, hname]
        · by_cases htype : key1 = "type"
          · simp [hkey, htype]
          · by_cases hdefault : key1 = "defaultValue"
            · simp [hkey, hdefault]
            · simp [hkey, hname, htype, hdefault, Ne.symm hname, Ne.symm htype, Ne.symm hdefault]
      · simp [hkey]
  | requiredAttr name type =>
      unfold HeadState.declare Decl.entry attrField
      simp only [entryAt_setOpInfo]
      by_cases hkey : attrKey name = key0
      · by_cases hname : key1 = "name"
        · simp [hkey, hname]
        · by_cases htype : key1 = "type"
          · simp [hkey, htype]
          · simp [hkey, hname, htype, Ne.symm hname, Ne.symm htype]
      · simp [hkey]

theorem tensorsOf_snoc :
    tensorsOf side (decls ++ [d]) = tensorsOf side decls ++ (d.tensorOf side).toList := by
  unfold tensorsOf
  rw [List.filterMap_append]
  cases h : d.tensorOf side <;> simp [h]

theorem lastOf_snoc {β : Type} (f : Decl → Option β) :
    lastOf f (decls ++ [d]) = (f d).or (lastOf f decls) := by
  unfold lastOf
  rw [List.reverse_append, List.reverse_singleton, List.singleton_append, List.findSome?_cons]
  cases f d <;> rfl

/-- A declaration of a tensor makes one more. -/
theorem count_declare (s : HeadState) (d : Decl) (side : Side) :
    (s.declare d).count side = s.count side + (d.tensorOf side).toList.length := by
  cases d with
  | tensor keyword name dtypes =>
      cases keyword <;> cases side <;> rfl
  | attr name type default => cases side <;> rfl
  | requiredAttr name type => cases side <;> rfl

theorem isSome_tensorField {dtypes : Dtypes} (h : (tensorField name dtypes key1).isSome = true) :
    key1 ∈ ["name", "type", "format"] := by
  unfold tensorField at h
  split_ifs at h with hname htype hformat
  · simp [hname]
  · simp [htype]
  · simp [hformat]
  · cases h

theorem isSome_attrField {type : Ident} {default : Option Default}
    (h : (attrField name type default key1).isSome = true) :
    key1 ∈ ["name", "type"] ∨ (key1 = "defaultValue" ∧ default.isSome = true) := by
  unfold attrField at h
  split_ifs at h with hname htype hdefault
  · exact Or.inl (by simp [hname])
  · exact Or.inl (by simp [htype])
  · rw [Option.isSome_map] at h
    exact Or.inr ⟨hdefault, h⟩
  · cases h

/-- What a declaration makes an entry of is declared. -/
theorem declared_of_entry (hcount : ∀ side, s.count side = (tensorsOf side decls).length)
    (h : (d.entry s.count key0 key1).isSome = true) : Declared (decls ++ [d]) key0 key1 := by
  cases d with
  | tensor keyword name dtypes =>
      simp only [Decl.entry] at h
      split_ifs at h with hkey
      · rw [← hkey]
        refine .tensor _ _ key1 ?_ (isSome_tensorField h)
        rw [tensorsOf_snoc, List.length_append, hcount]
        simp [Decl.tensorOf]
      · cases h
  | attr name type default =>
      simp only [Decl.entry] at h
      split_ifs at h with hkey
      · rw [← hkey]
        rcases isSome_attrField h with hkey1 | ⟨rfl, _⟩
        · exact .attr name key1 (by simp [lastOf_snoc, Decl.typeOf]) hkey1
        · exact .default name (by simp [lastOf_snoc, Decl.defaultOf])
      · cases h
  | requiredAttr name type =>
      simp only [Decl.entry] at h
      split_ifs at h with hkey
      · rw [← hkey]
        rcases isSome_attrField h with hkey1 | ⟨_, hnone⟩
        · exact .attr name key1 (by simp [lastOf_snoc, Decl.typeOf]) hkey1
        · cases hnone
      · cases h

theorem Declared.snoc (h : Declared decls key0 key1) (d : Decl) :
    Declared (decls ++ [d]) key0 key1 := by
  cases h with
  | tensor side i key1 hi hkey1 =>
      refine .tensor side i key1 ?_ hkey1
      rw [tensorsOf_snoc, List.length_append]
      omega
  | attr name key1 hname hkey1 =>
      refine .attr name key1 ?_ hkey1
      rw [lastOf_snoc, Option.isSome_or, hname, Bool.or_true]
  | default name hname =>
      refine .default name ?_
      rw [lastOf_snoc, Option.isSome_or, hname, Bool.or_true]

/-- The tensors that were declared before keep their entries. -/
theorem entry_key_of_lt (hi : i < s.count side) : d.entry s.count (side.key i) key1 = none := by
  cases d with
  | tensor keyword name dtypes =>
      refine if_neg fun h => ?_
      obtain ⟨rfl, h⟩ := key_inj.mp h
      omega
  | attr name type default => exact if_neg key_ne_attrKey.symm
  | requiredAttr name type => exact if_neg key_ne_attrKey.symm

theorem entry_attrKey_of_typeOf (h : d.typeOf name = none) :
    d.entry s.count (attrKey name) key1 = none := by
  cases d with
  | tensor keyword name' dtypes => exact if_neg key_ne_attrKey
  | attr name' type default =>
      refine if_neg fun hkey => ?_
      rw [attrKey_inj] at hkey
      simp [Decl.typeOf, hkey] at h
  | requiredAttr name' type =>
      refine if_neg fun hkey => ?_
      rw [attrKey_inj] at hkey
      simp [Decl.typeOf, hkey] at h

theorem entry_default_of_defaultOf (h : d.defaultOf name = none) :
    d.entry s.count (attrKey name) "defaultValue" = none := by
  cases d with
  | tensor keyword name' dtypes => exact if_neg key_ne_attrKey
  | attr name' type default =>
      refine if_neg fun hkey => ?_
      rw [attrKey_inj] at hkey
      simp [Decl.defaultOf, hkey] at h
  | requiredAttr name' type =>
      simp only [Decl.entry]
      split_ifs
      · rfl
      · rfl

/-- What a tensor's declaration gives. -/
theorem entry_tensor {dtypes : Dtypes} (h : d.tensorOf side = some (name, dtypes)) :
    d.entry s.count (side.key (s.count side)) key1 = tensorField name dtypes key1 := by
  cases d with
  | tensor keyword name' dtypes' =>
      simp only [Decl.tensorOf] at h
      split_ifs at h with hside
      cases h
      subst hside
      exact if_pos rfl
  | attr name' type default => cases h
  | requiredAttr name' type => cases h

/-- **One more declaration.** -/
theorem Describes.snoc (h : Describes decls opInfo s.opInfo)
    (hcount : ∀ side, s.count side = (tensorsOf side decls).length) (d : Decl) :
    Describes (decls ++ [d]) opInfo (s.declare d).opInfo where
  tensor side i name dtypes hi := by
    rw [tensorsOf_snoc] at hi
    -- An earlier tensor keeps its entry; the new declaration may add the next one.
    by_cases hlt : i < (tensorsOf side decls).length
    · rw [List.getElem?_append_left hlt] at hi
      rw [← hcount] at hlt
      simp only [entryAt_declare, entry_key_of_lt hlt, Option.none_or]
      exact h.tensor side i name dtypes hi
    · rw [List.getElem?_append_right (not_lt.mp hlt)] at hi
      have hd : d.tensorOf side = some (name, dtypes) ∧ i = s.count side := by
        rw [hcount]
        cases hd : d.tensorOf side with
        | none => simp [hd] at hi
        | some x =>
            rw [hd, Option.toList_some] at hi
            obtain ⟨hzero, hx⟩ := List.getElem?_eq_some_iff.mp hi
            rw [List.length_singleton] at hzero
            simp only [List.getElem_singleton] at hx
            exact ⟨by rw [hx], by omega⟩
      obtain ⟨hd, rfl⟩ := hd
      simp only [entryAt_declare, entry_tensor hd]
      exact ⟨rfl, rfl, rfl⟩
  attr name type htype := by
    rw [lastOf_snoc] at htype
    simp only [entryAt_declare]
    cases hd : d.typeOf name with
    -- A declaration of another attribute leaves the type that is known.
    | none =>
        rw [hd, Option.none_or] at htype
        simp only [entry_attrKey_of_typeOf hd, Option.none_or]
        exact h.attr name type htype
    | some type' =>
        rw [hd, Option.some_or] at htype
        cases htype
        cases d with
        | tensor keyword name' dtypes => cases hd
        | attr name' type' default =>
            simp only [Decl.typeOf] at hd
            split_ifs at hd with hname
            cases hd
            subst hname
            simp [Decl.entry, attrField]
        | requiredAttr name' type' =>
            simp only [Decl.typeOf] at hd
            split_ifs at hd with hname
            cases hd
            subst hname
            simp [Decl.entry, attrField]
  default name default hdefault := by
    rw [lastOf_snoc] at hdefault
    simp only [entryAt_declare]
    cases hd : d.defaultOf name with
    -- A required attribute declares no default, and an earlier one stays.
    | none =>
        rw [hd, Option.none_or] at hdefault
        rw [entry_default_of_defaultOf hd, Option.none_or]
        exact h.default name default hdefault
    | some default' =>
        rw [hd, Option.some_or] at hdefault
        cases hdefault
        cases d with
        | tensor keyword name' dtypes => cases hd
        | attr name' type' default =>
            simp only [Decl.defaultOf] at hd
            split_ifs at hd with hname
            cases hd
            subst hname
            simp [Decl.entry, attrField]
        | requiredAttr name' type' => cases hd
  other key0 key1 hkey := by
    rw [entryAt_declare]
    have hnone : d.entry s.count key0 key1 = none := by
      rw [← Option.not_isSome_iff_eq_none]
      exact fun hsome => hkey (declared_of_entry hcount hsome)
    rw [hnone, Option.none_or]
    exact h.other key0 key1 fun hdeclared => hkey (hdeclared.snoc d)

/-- **All declarations.** -/
theorem describes_foldl (decls : List Decl) (opInfo : OpInfo) :
    Describes decls opInfo (decls.foldl HeadState.declare { opInfo }).opInfo ∧
      ∀ side, (decls.foldl HeadState.declare { opInfo }).count side
        = (tensorsOf side decls).length := by
  induction decls using List.reverseRecOn with
  | nil =>
      refine ⟨⟨?_, ?_, ?_, fun _ _ _ => rfl⟩, fun side => ?_⟩
      · intro side i name dtypes hi
        cases hi
      · intro name type htype
        cases htype
      · intro name default hdefault
        cases hdefault
      · cases side <;> rfl
  | append_singleton decls d ih =>
      obtain ⟨hdescribes, hcount⟩ := ih
      rw [List.foldl_append, List.foldl_cons, List.foldl_nil]
      refine ⟨hdescribes.snoc hcount d, fun side => ?_⟩
      rw [count_declare, hcount, tensorsOf_snoc, List.length_append]

/-- **A prototype is read back.**  Of a head file with a registration, however it is laid out,
`op_info` gets exactly what the registration declares: the i-th tensor of each side under its
number, the last type and default value of each attribute, and nothing else. -/
theorem prototype_read_back {r : Registration} {text : String} (h : RegisteredIn r text)
    (opInfo : OpInfo) :
    ∃ opInfo', parseAicpuOpProto text opInfo = .ok (true, opInfo') ∧
      Describes r.decls opInfo opInfo' :=
  ⟨_, parseAicpuOpProto_eq h opInfo, (describes_foldl r.decls opInfo).1⟩

/-- `Add`, with an input, an attribute and an output. -/
def addRegistration : Registration where
  op := ⟨"Add", by decide⟩
  decls :=
    [.tensor .input ⟨"x", by decide⟩ ⟨[⟨"DT_FLOAT", by decide⟩], List.cons_ne_nil _ _⟩,
     .attr ⟨"alpha", by decide⟩ ⟨"Float", by decide⟩ ⟨"1.0", by decide⟩,
     .tensor .output ⟨"y", by decide⟩ ⟨[⟨"DT_FLOAT", by decide⟩], List.cons_ne_nil _ _⟩]
  trailer := ⟨"\x7d#endif".toList, solid_of_all (by decide), by decide⟩

/-- The registration behind a comment, and with one in it. -/
def addText : String :=
  commented addRegistration "// Add\n".toList " of two tensors ".toList

theorem registeredIn_addText : RegisteredIn addRegistration addText :=
  registeredIn_commented addRegistration (by decide) (by decide)

theorem prototype_read_back_add :
    RegisteredIn addRegistration addText ∧ ∃ opInfo',
      parseAicpuOpProto addText .empty = .ok (true, opInfo') ∧
        Describes addRegistration.decls .empty opInfo' :=
  ⟨registeredIn_addText, prototype_read_back registeredIn_addText .empty⟩

end Entries

end CaseGenerator

end HwEfat.Main
