/-
  HwEfat.Aicpu.ExtInfo.Order — what the order of the records means to `ParseExtMsg`.

  Every record kind has its own part of the message, so records of distinct types
  can be permuted as far as these parts go (`Owned.perm`).  The exception is
  `unknown_shape`: the shape type record sets it, the bitmap record sets or clears
  it, and the shape records are skipped while it is false.  Two orders give the same
  message exactly when the flag ends the same and every shape record that carries
  shapes meets the same flag (`parseExtMsg_perm_iff`).
-/
import HwEfat.Lib.Keyed
import HwEfat.Aicpu.ExtInfo.Records

namespace HwEfat.Aicpu

open HwEfat.Lib (Mem)

/-! ## §1. The flag. -/

namespace ExtRecord

/-- What a record does to `unknown_shape`. -/
def flag (A : FwkAdapter) (unknownShape : Bool) (r : ExtRecord) : Bool :=
  match A.classify r.infoType with
  | some .shapeType => true
  | some .bitmap => !CpuKernelCache.getBitStatus (UInt64.ofNat (r.field 0 8)) 0
  | _ => unknownShape

/-- `unknown_shape` as a record of the list meets it. -/
def flagBefore (A : FwkAdapter) (unknownShape : Bool) (l : List ExtRecord) (r : ExtRecord) : Bool :=
  (l.takeWhile fun r' => r'.infoType ≠ r.infoType).foldl (flag A) unknownShape

/-- A shape record that is not empty. -/
def CarriesShapes (A : FwkAdapter) (r : ExtRecord) : Prop :=
  (A.classify r.infoType = some .inputShape ∨ A.classify r.infoType = some .outputShape) ∧
    r.infoMsg ≠ []

end ExtRecord

open ExtRecord

/-- In both orders the flag ends the same, and every record that carries shapes meets
the same flag. -/
structure SameFlags (A : FwkAdapter) (unknownShape : Bool) (l l' : List ExtRecord) : Prop where
  final : l.foldl (flag A) unknownShape = l'.foldl (flag A) unknownShape
  before : ∀ r ∈ l, r.CarriesShapes A → flagBefore A unknownShape l r = flagBefore A unknownShape l' r

variable {A : FwkAdapter}

/-- The flag after several records. -/
theorem unknownShape_foldl (l : List ExtRecord) :
    ∀ v, (l.foldl (applyRecord A) v).unknownShape = l.foldl (flag A) v.unknownShape := by
  induction l with
  | nil => exact fun _ => rfl
  | cons r l ih =>
      intro v
      have hstep : (applyRecord A v r).unknownShape = flag A v.unknownShape r := by
        unfold applyRecord flag
        cases A.classify r.infoType with
        | none => rfl
        | some kind => cases kind <;> rfl
      rw [List.foldl_cons, List.foldl_cons, ih, hstep]

/-! ## §2. The parts that are nobody else's. -/

/-- A record of another type falls into another case. -/
theorem classify_ne {r : ExtRecord} {kind : ExtInfoType} (h : r.infoType ≠ A.code kind) :
    A.classify r.infoType ≠ some kind :=
  fun hkind => h (FwkAdapter.classify_eq_some.mp hkind).symm

/-- What a record leaves alone in a view, by its type. -/
structure Untouched (A : FwkAdapter) (r : ExtRecord) (v v' : MsgView) : Prop where
  session : r.infoType ≠ A.code .sessionInfo →
    v'.hasSessInfo = v.hasSessInfo ∧ v'.kernelId = v.kernelId
  topicType : r.infoType ≠ A.code .topicType → v'.devicetypeHostFlag = v.devicetypeHostFlag
  asyncWait : r.infoType ≠ A.code .asyncWait →
    v'.waitType = v.waitType ∧ v'.waitId = v.waitId ∧ v'.asyncFlag = v.asyncFlag
  inputShapes : r.infoType ≠ A.code .inputShape → v'.inputShapes = v.inputShapes
  outputShapes : r.infoType ≠ A.code .outputShape → v'.outputShapes = v.outputShapes
  inputIndex : r.infoType ≠ A.code .unknownShapeInputIndex →
    v'.unknownShapeInputIndexAddr = v.unknownShapeInputIndexAddr
  outputIndex : r.infoType ≠ A.code .unknownShapeOutputIndex →
    v'.unknownShapeOutputIndexAddr = v.unknownShapeOutputIndexAddr

/-- A record touches the fields of its own kind only. -/
theorem applyRecord_untouched (r : ExtRecord) (v : MsgView) :
    Untouched A r v (applyRecord A v r) := by
  unfold applyRecord
  cases hc : A.classify r.infoType with
  | none =>
      exact ⟨fun _ => ⟨rfl, rfl⟩, fun _ => rfl, fun _ => ⟨rfl, rfl, rfl⟩, fun _ => rfl,
        fun _ => rfl, fun _ => rfl, fun _ => rfl⟩
  | some kind =>
      -- the part of the record's own kind is the one nothing is said about
      cases kind <;> constructor <;> intro h <;>
        first | exact absurd hc (classify_ne h) | exact rfl | exact ⟨rfl, rfl⟩ | exact ⟨rfl, rfl, rfl⟩

/-- A part of the view that only the records of one kind change, without looking at
the rest of the view. -/
structure Owned {α : Type} (A : FwkAdapter) (kind : ExtInfoType) (g : MsgView → α) : Prop where
  own : ∀ r v v', A.classify r.infoType = some kind → g v = g v' →
    g (applyRecord A v r) = g (applyRecord A v' r)
  other : ∀ r v, r.infoType ≠ A.code kind → g (applyRecord A v r) = g v

/-- A part of the view that only the records of one kind change: they extend it by
their shapes if the flag is set when they are met. -/
structure Extended (A : FwkAdapter) (kind : ExtInfoType) (g : MsgView → List (List UInt8)) :
    Prop where
  own : ∀ r v, A.classify r.infoType = some kind →
    g (applyRecord A v r) = if v.unknownShape then g v ++ r.shapes A else g v
  other : ∀ r v, r.infoType ≠ A.code kind → g (applyRecord A v r) = g v

/-- The session and the kernel id belong to one kind, -/
theorem owned_session : Owned A .sessionInfo (fun v => (v.hasSessInfo, v.kernelId)) where
  own r v v' hc _ := by
    unfold applyRecord
    rw [hc]
  other r v h :=
    have hsame := (applyRecord_untouched r v).session h
    Prod.ext hsame.1 hsame.2

/-- the flag about the host to another, -/
theorem owned_topicType : Owned A .topicType (fun v => v.devicetypeHostFlag) where
  own r v v' hc _ := by
    unfold applyRecord
    rw [hc]
  other r v h := (applyRecord_untouched r v).topicType h

/-- what is waited for to another, -/
theorem owned_asyncWait : Owned A .asyncWait (fun v => (v.waitType, v.waitId, v.asyncFlag)) where
  own r v v' hc hg := by
    have hasync : v.asyncFlag = v'.asyncFlag := congrArg (fun p => p.2.2) hg
    unfold applyRecord
    rw [hc]
    simp only [hasync]
  other r v h :=
    have hsame := (applyRecord_untouched r v).asyncWait h
    Prod.ext hsame.1 (Prod.ext hsame.2.1 hsame.2.2)

/-- and each table of indices to one of its own. -/
theorem owned_inputIndex :
    Owned A .unknownShapeInputIndex (fun v => v.unknownShapeInputIndexAddr) where
  own r v v' hc hg := by
    unfold applyRecord
    rw [hc]
    exact congrArg r.insertIndexes hg
  other r v h := (applyRecord_untouched r v).inputIndex h

theorem owned_outputIndex :
    Owned A .unknownShapeOutputIndex (fun v => v.unknownShapeOutputIndexAddr) where
  own r v v' hc hg := by
    unfold applyRecord
    rw [hc]
    exact congrArg r.insertIndexes hg
  other r v h := (applyRecord_untouched r v).outputIndex h

/-- Shapes of inputs are added at the end, -/
theorem extended_inputShapes : Extended A .inputShape (fun v => v.inputShapes) where
  own r v hc := by
    unfold applyRecord
    rw [hc]
  other r v h := (applyRecord_untouched r v).inputShapes h

/-- those of outputs, too. -/
theorem extended_outputShapes : Extended A .outputShape (fun v => v.outputShapes) where
  own r v hc := by
    unfold applyRecord
    rw [hc]
  other r v h := (applyRecord_untouched r v).outputShapes h

/-! ## §3. Two orders. -/

section Order

variable {l l' : List ExtRecord} (hperm : l.Perm l') (hnodup : (l.map infoType).Nodup)
include hperm hnodup

/-- What one kind owns is the same in every order. -/
theorem Owned.perm {α : Type} {kind : ExtInfoType} {g : MsgView → α} (hg : Owned A kind g)
    (v : MsgView) : g (l.foldl (applyRecord A) v) = g (l'.foldl (applyRecord A) v) := by
  refine Lib.foldl_perm hg.other (fun r v v' hv => ?_) hperm hnodup v
  by_cases hkind : r.infoType = A.code kind
  · exact hg.own r v v' (FwkAdapter.classify_eq_some.mpr hkind.symm) hv
  · rw [hg.other r v hkind, hg.other r v' hkind, hv]

omit hperm in
/-- What one kind extends, it extends by the shapes of its record, if the flag the
record meets is set. -/
theorem Extended.foldl {kind : ExtInfoType} {g : MsgView → List (List UInt8)}
    (hg : Extended A kind g) (v : MsgView) :
    g (l.foldl (applyRecord A) v) = g v ++
      match l.find? (fun r => r.infoType = A.code kind) with
      | none => []
      | some r => if flagBefore A v.unknownShape l r then r.shapes A else [] := by
  rcases Lib.foldl_around hg.other hnodup v with
    ⟨hnone, hstill⟩ | ⟨r, l₁, l₂, hsome, hl, hbefore, hkind, hstill, hfold⟩
  · rw [hnone, hstill, List.append_nil]
  · -- the records before `r` are those taken up to its type
    have htake : l.takeWhile (fun r' => r'.infoType ≠ r.infoType) = l₁ := by
      rw [hl, List.takeWhile_append_of_pos (fun r' hr' => by simpa [hkind] using hbefore r' hr'),
        List.takeWhile_cons_of_neg (by simp), List.append_nil]
    rw [hsome, hfold, hg.own r _ (FwkAdapter.classify_eq_some.mpr hkind.symm), unknownShape_foldl,
      hstill]
    show (if _ then _ else _) = _ ++ if flagBefore A v.unknownShape l r then _ else _
    unfold flagBefore
    rw [htake]
    split
    · rfl
    · rw [List.append_nil]

/-- It ends the same in both orders exactly when its record meets the same flag, or
has nothing to add. -/
theorem Extended.perm_iff {kind : ExtInfoType} {g : MsgView → List (List UInt8)}
    (hg : Extended A kind g) (v : MsgView) :
    g (l.foldl (applyRecord A) v) = g (l'.foldl (applyRecord A) v) ↔
      ∀ r ∈ l, A.classify r.infoType = some kind → r.shapes A ≠ [] →
        flagBefore A v.unknownShape l r = flagBefore A v.unknownShape l' r := by
  have hnodup' : (l'.map infoType).Nodup := ((hperm.map infoType).nodup_iff).mp hnodup
  rw [hg.foldl hnodup, hg.foldl hnodup', List.append_cancel_left_eq,
    ← Lib.find?_key_perm hperm hnodup]
  cases hfind : l.find? (fun r => r.infoType = A.code kind) with
  | none =>
      refine iff_of_true rfl (fun r hr hkind => ?_)
      have hne := List.find?_eq_none.mp hfind r hr
      simp [FwkAdapter.classify_eq_some.mp hkind] at hne
  | some r =>
      obtain ⟨hr, hkey⟩ := (Lib.find?_key_eq_some_iff hnodup).mp hfind
      -- `r` is the only record of the kind
      have honly : ∀ r' ∈ l, A.classify r'.infoType = some kind → r' = r := by
        intro r' hr' hkind
        have hkey' := (FwkAdapter.classify_eq_some.mp hkind).symm
        have hfind' := (Lib.find?_key_eq_some_iff hnodup).mpr ⟨hr', hkey'⟩
        rw [hfind, Option.some.injEq] at hfind'
        exact hfind'.symm
      constructor
      · intro heq r' hr' hkind hshapes
        rw [honly r' hr' hkind] at hshapes ⊢
        cases hb : flagBefore A v.unknownShape l r <;>
          cases hb' : flagBefore A v.unknownShape l' r <;> simp_all
      · intro h
        dsimp only
        by_cases hshapes : r.shapes A = []
        · rw [hshapes, ite_self, ite_self]
        · rw [h r hr (FwkAdapter.classify_eq_some.mpr hkey.symm) hshapes]

end Order

/-- A well-formed shape record has shapes unless it is empty. -/
theorem shapes_eq_nil_iff {r : ExtRecord} (hwf : r.wellFormed A = true)
    (hkind : A.classify r.infoType = some .inputShape ∨
      A.classify r.infoType = some .outputShape) : r.shapes A = [] ↔ r.infoMsg = [] := by
  have hmod : r.infoMsg.length % A.sizeofShapeAndType = 0 := by
    unfold wellFormed at hwf
    rcases hkind with hc | hc <;> rw [hc] at hwf <;> exact beq_iff_eq.mp hwf
  unfold shapes
  rw [List.map_eq_nil_iff, List.range_eq_nil, ← List.length_eq_zero_iff]
  constructor
  · intro h
    have hdiv := Nat.div_add_mod r.infoMsg.length A.sizeofShapeAndType
    rw [h, hmod] at hdiv
    omega
  · intro h
    rw [h, Nat.zero_div]

/-! ## §4. `ParseExtMsg` on two orders. -/

/-- Applying the records in two orders gives the same view exactly when the flags
agree. -/
theorem foldl_applyRecord_perm_iff {l l' : List ExtRecord} (hperm : l.Perm l')
    (hnodup : (l.map infoType).Nodup) (hwf : ∀ r ∈ l, r.wellFormed A = true) (v : MsgView) :
    l.foldl (applyRecord A) v = l'.foldl (applyRecord A) v ↔ SameFlags A v.unknownShape l l' := by
  have hin := extended_inputShapes.perm_iff (A := A) hperm hnodup v
  have hout := extended_outputShapes.perm_iff (A := A) hperm hnodup v
  constructor
  · intro heq
    refine ⟨?_, fun r hr hshapes => ?_⟩
    · rw [← unknownShape_foldl, ← unknownShape_foldl, heq]
    · have hne : r.shapes A ≠ [] :=
        fun h => hshapes.2 ((shapes_eq_nil_iff (hwf r hr) hshapes.1).mp h)
      rcases hshapes.1 with hkind | hkind
      · exact hin.mp (congrArg MsgView.inputShapes heq) r hr hkind hne
      · exact hout.mp (congrArg MsgView.outputShapes heq) r hr hkind hne
  · intro h
    -- Only records of shapes look at the flag; all other fields have one owner.
    have hcarries : ∀ r ∈ l, ∀ kind, A.classify r.infoType = some kind →
        kind = .inputShape ∨ kind = .outputShape → r.shapes A ≠ [] → r.CarriesShapes A := by
      intro r hr kind hc hkind hne
      have hkind' : A.classify r.infoType = some .inputShape ∨
          A.classify r.infoType = some .outputShape := by
        rcases hkind with rfl | rfl
        · exact Or.inl hc
        · exact Or.inr hc
      exact ⟨hkind', fun hnil => hne ((shapes_eq_nil_iff (hwf r hr) hkind').mpr hnil)⟩
    have hsession := owned_session.perm (A := A) hperm hnodup v
    have hasync := owned_asyncWait.perm (A := A) hperm hnodup v
    refine MsgView.ext (congrArg Prod.fst hsession) (congrArg Prod.snd hsession) ?_
      (congrArg (fun p => p.2.2) hasync) (owned_topicType.perm hperm hnodup v)
      (congrArg Prod.fst hasync) (congrArg (fun p => p.2.1) hasync) ?_ ?_
      (owned_inputIndex.perm hperm hnodup v) (owned_outputIndex.perm hperm hnodup v)
    · rw [unknownShape_foldl, unknownShape_foldl, h.final]
    · exact hin.mpr (fun r hr hc hne => h.before r hr (hcarries r hr _ hc (Or.inl rfl) hne))
    · exact hout.mpr (fun r hr hc hne => h.before r hr (hcarries r hr _ hc (Or.inr rfl) hne))

/-- **The order of the records** matters to `ParseExtMsg` only through
`unknown_shape`.  On the encodings of a list of well-formed records of distinct types
and of a permutation of it, both calls return OK, and they leave the same message
(with the shapes themselves for the pointers to them) exactly when the flag ends the
same and every record that carries shapes meets the same flag. -/
theorem parseExtMsg_perm_iff (hA : A.Layout) {l l' : List ExtRecord} (hperm : l.Perm l')
    (hnodup : (l.map infoType).Nodup) (hwf : ∀ r ∈ l, r.wellFormed A = true) {mem mem' : Mem}
    {paramHead paramHead' : AicpuParamHead} (hbuf : Encodes mem paramHead l)
    (hbuf' : Encodes mem' paramHead' l') {msg msg' : ExtInfoMsg}
    (hmsg : msg.view A mem = msg'.view A mem') :
    ∃ out out',
      (∀ fuel, l.length < fuel →
        (CpuKernelCache.parseExtMsg A mem paramHead msg fuel).val =
          some (KERNEL_STATUS_OK, out)) ∧
      (∀ fuel, l'.length < fuel →
        (CpuKernelCache.parseExtMsg A mem' paramHead' msg' fuel).val =
          some (KERNEL_STATUS_OK, out')) ∧
      (out.view A mem = out'.view A mem' ↔ SameFlags A msg.unknownShape l l') := by
  have hwf' : ∀ r ∈ l', r.wellFormed A = true := fun r hr => hwf r (hperm.mem_iff.mpr hr)
  obtain ⟨out, hrun, hview⟩ := CpuKernelCache.parseExtMsg_encoded hA hwf hbuf msg
  obtain ⟨out', hrun', hview'⟩ := CpuKernelCache.parseExtMsg_encoded hA hwf' hbuf' msg'
  refine ⟨out, out', hrun, hrun', ?_⟩
  rw [hview, hview', ← hmsg]
  exact foldl_applyRecord_perm_iff hperm hnodup hwf { msg.view A mem with asyncFlag := false }

/-- The encodings of records at address 4096, and the param head of that buffer. -/
def bufferOf (records : List ExtRecord) : Mem := Mem.ofBytes 0x1000 (records.flatMap encode)

/-- A head with the length of all records together. -/
def headOf (records : List ExtRecord) : AicpuParamHead where
  base := 0
  length := 24
  ioAddrNum := 0
  extInfoLength := UInt32.ofNat (records.flatMap encode).length
  extInfoAddr := 0x1000

/-- A buffer of records holds them one behind the other. -/
theorem encodes_bufferOf {records : List ExtRecord}
    (hlen : (records.flatMap encode).length < 2 ^ 32) :
    Encodes (bufferOf records) (headOf records) records where
  notNull := by
    show (0x1000 : UInt64) ≠ 0
    decide
  length := UInt32.toNat_ofNat_of_lt' hlen
  holds := Mem.holds_ofBytes _ _

/-- A message that points to nothing looks the same in every memory. -/
theorem view_new (A : FwkAdapter) (mem mem' : Mem) :
    ExtInfoMsg.new.view A mem = ExtInfoMsg.new.view A mem' := rfl

/-- A shape type record, one `ShapeAndType` for the only input, and a topic type. -/
def shapeTypeRecord : ExtRecord := ⟨0, [0, 0, 0, 0]⟩

/-- A record with one shape. -/
def inputShapeRecord : ExtRecord := ⟨1, List.replicate 68 0⟩

/-- A record that asks for the host. -/
def topicTypeRecord : ExtRecord := ⟨7, [0x80, 0, 0, 0]⟩

/-- `parseExtMsg_perm_iff` on a permutation of records that do not interact. -/
theorem parseExtMsg_perm_iff_topicType :
    ∃ out out',
      (∀ fuel, 2 < fuel →
        (CpuKernelCache.parseExtMsg .packed (bufferOf [shapeTypeRecord, topicTypeRecord])
          (headOf [shapeTypeRecord, topicTypeRecord]) ExtInfoMsg.new fuel).val =
            some (KERNEL_STATUS_OK, out)) ∧
      (∀ fuel, 2 < fuel →
        (CpuKernelCache.parseExtMsg .packed (bufferOf [topicTypeRecord, shapeTypeRecord])
          (headOf [topicTypeRecord, shapeTypeRecord]) ExtInfoMsg.new fuel).val =
            some (KERNEL_STATUS_OK, out')) ∧
      (out.view .packed (bufferOf [shapeTypeRecord, topicTypeRecord]) =
          out'.view .packed (bufferOf [topicTypeRecord, shapeTypeRecord]) ↔
        SameFlags .packed false [shapeTypeRecord, topicTypeRecord]
          [topicTypeRecord, shapeTypeRecord]) :=
  parseExtMsg_perm_iff FwkAdapter.packed_layout
    (List.Perm.swap topicTypeRecord shapeTypeRecord []) (by decide) (by decide)
    (encodes_bufferOf (by decide)) (encodes_bufferOf (by decide)) (view_new _ _ _)

/-- A shape record in front of the shape type record is skipped. -/
theorem shape_record_first_is_skipped :
    ¬ ∀ (l l' : List ExtRecord), l.Perm l' → (l.map infoType).Nodup →
      (∀ r ∈ l, r.wellFormed .packed = true) → ∀ fuel out out',
        (CpuKernelCache.parseExtMsg .packed (bufferOf l) (headOf l) ExtInfoMsg.new fuel).val =
          some out →
        (CpuKernelCache.parseExtMsg .packed (bufferOf l') (headOf l') ExtInfoMsg.new fuel).val =
          some out' →
        out.1 = out'.1 ∧ out.2.view .packed (bufferOf l) = out'.2.view .packed (bufferOf l') := by
  intro h
  -- the two runs, from the general theorem on encodings
  have hruns : ∀ l : List ExtRecord, (∀ r ∈ l, r.wellFormed .packed = true) →
      (l.flatMap encode).length < 2 ^ 32 → _ := fun l hwf hlen =>
    CpuKernelCache.parseExtMsg_encoded FwkAdapter.packed_layout hwf (encodes_bufferOf hlen)
      ExtInfoMsg.new
  obtain ⟨out, hrun, hview⟩ := hruns [shapeTypeRecord, inputShapeRecord] (by decide) (by decide)
  obtain ⟨out', hrun', hview'⟩ := hruns [inputShapeRecord, shapeTypeRecord] (by decide) (by decide)
  have hsame := (h _ _ (List.Perm.swap inputShapeRecord shapeTypeRecord []) (by decide) (by decide)
    3 _ _ (hrun 3 (by decide)) (hrun' 3 (by decide))).2
  rw [hview, hview'] at hsame
  have hlength := congrArg (fun v => v.inputShapes.length) hsame
  exact absurd hlength (by decide)

end HwEfat.Aicpu
