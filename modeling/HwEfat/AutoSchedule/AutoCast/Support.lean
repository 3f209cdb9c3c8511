/-
  HwEfat.AutoSchedule.AutoCast.Support — the types that an operation is offered for
  (`dsl_support_dtype` of `auto_schedule/python/util.py`).

  The tables give, for every operation, the types on each product, and those on a product
  that is not named.  What is offered in a mode of unified shapes is looked up in a table of
  its own first.

  Main results: `float16_mem_or_nil`, that an operation that rounds is not offered at all or
  is offered for `float16`, and `float16_mem_reduce`, that a reduction always is.
-/
import Mathlib.Data.List.Basic

namespace HwEfat.AutoSchedule.AutoCast

/-! ## §1. The tables. -/

/-- The products that the tables name: `VERSION_MINI` and so on. -/
inductive Version where
  | mini | cloud | miniNg1 | miniNg1m | miniNg1pg2 | shisi
  /-- Any other one. -/
  | other

/-- The types on each product, and under `AllSoc`. -/
structure SocDtypes where
  allSoc : List String
  named : Version → Option (List String)

/-- A row with all products, as `AllSoc, MINI, CLOUD, MINI_NG1, MINI_NG1M, MINI_NG1PG2,
SHISI`. -/
def perSoc (allSoc mini cloud miniNg1 miniNg1m miniNg1pg2 shisi : List String) : SocDtypes where
  allSoc := allSoc
  named
    | .mini => some mini
    | .cloud => some cloud
    | .miniNg1 => some miniNg1
    | .miniNg1m => some miniNg1m
    | .miniNg1pg2 => some miniNg1pg2
    | .shisi => some shisi
    | .other => none

/-- A row with `AllSoc` only. -/
def onAllSoc (allSoc : List String) : SocDtypes where
  allSoc := allSoc
  named := fun _ => none

def f16 : List String := ["float16"]
def f16F32 : List String := ["float16", "float32"]
def f16S32 : List String := ["float16", "int32"]
def f16F32S32 : List String := ["float16", "float32", "int32"]
def f16F32S32S16 : List String := ["float16", "float32", "int32", "int16"]
def s16F16 : List String := ["int16", "float16"]
def s16F16F32 : List String := ["int16", "float16", "float32"]
def s16U16 : List String := ["int16", "uint16"]

/-- The types of the broadcasts. -/
def broadcastTypes : List String :=
  ["float16", "float32", "int32", "int16", "uint16", "int8", "uint8"]

/-- The casts from `float16`. -/
def castsFromHalf : List String :=
  ["f162f32", "f162s8", "f162u8", "f162s32", "s82f16", "s82u8", "u82f16", "u82s8",
   "s322f16", "s322s8", "s322u8", "s322f32"]

/-- The casts from `float32`, and those from `float16`. -/
def castsFromSingle : List String := ["f322f16", "f322s8", "f322u8", "f322s32"] ++ castsFromHalf

/-- `DSL_CHECK_SUPPORT_MAP` -/
def dslCheckSupportMap : List (String × SocDtypes) :=
  [("broadcast", perSoc broadcastTypes broadcastTypes broadcastTypes broadcastTypes
      broadcastTypes broadcastTypes broadcastTypes),
   ("unsorted_segment_sum", perSoc f16F32S32 f16F32S32 f16F32S32 f16F32S32 f16F32S32 f16F32S32
      f16F32S32),
   ("unsorted_segment_mean", perSoc f16F32S32 f16F32S32 f16F32S32 f16F32S32 f16F32S32 f16F32S32
      f16F32S32),
   ("unsorted_segment_prod", perSoc f16F32S32 f16F32S32 f16F32S32 f16F32S32S16 f16F32S32S16
      f16F32S32S16 f16F32S32),
   ("unsorted_segment_min", perSoc f16F32S32 f16F32S32 f16F32S32 f16F32S32S16 f16F32S32S16
      f16F32S32S16 f16F32S32),
   ("unsorted_segment_max", perSoc f16F32S32 f16F32S32 f16F32S32 f16F32S32S16 f16F32S32S16
      f16F32S32S16 f16F32S32),
   ("inplace_add", perSoc f16F32S32 f16F32S32 f16F32S32 f16F32S32 f16F32S32 f16F32S32 f16F32S32),
   ("inplace_sub", perSoc f16F32S32 f16F32S32 f16F32S32 f16F32S32 f16F32S32 f16F32S32 f16F32S32),
   ("inplace_update", perSoc f16F32S32 f16F32S32 f16F32S32 f16F32S32 f16F32S32 f16F32S32
      f16F32S32),
   ("ceil", perSoc f16 f16 f16F32 f16F32 f16F32 f16F32 f16),
   ("floor", perSoc f16 f16 f16F32 f16F32 f16F32 f16F32 f16),
   ("round", perSoc f16 f16 f16F32 f16F32 f16F32 f16F32 f16),
   ("trunc", perSoc f16 [] f16F32 f16F32 f16F32 f16F32 f16),
   ("round_d", perSoc f16 [] f16F32 f16F32 f16F32 f16F32 f16),
   ("reduce_sum", perSoc f16 f16F32 f16F32 f16F32 f16F32 f16F32 f16),
   ("reduce_max", perSoc f16 f16F32S32 f16F32S32 f16F32 f16F32 f16F32 f16),
   ("reduce_min", perSoc f16 f16F32 f16F32 f16F32 f16F32 f16F32 f16),
   ("reduce_prod", perSoc f16 f16F32 f16F32 f16F32 f16F32 f16F32 f16),
   ("vadd", perSoc f16S32 f16F32S32 f16F32S32 f16F32S32 f16F32S32 f16F32S32 f16S32),
   ("vsub", perSoc f16S32 f16F32S32 f16F32S32 f16F32S32 f16F32S32 f16F32S32 f16S32),
   ("vmul", perSoc f16S32 f16F32S32 f16F32S32 f16F32S32S16 f16F32S32S16 f16F32S32S16 f16S32),
   ("vdiv", perSoc f16 f16F32 f16F32 f16F32 f16F32 f16F32 f16),
   ("vmod", perSoc f16 f16 f16F32 f16F32 f16F32 f16F32 f16),
   ("vmin", perSoc f16S32 f16F32S32 f16F32S32 f16F32S32 f16F32S32 f16F32S32 f16S32),
   ("vmax", perSoc f16S32 f16F32S32 f16F32S32 f16F32S32 f16F32S32 f16F32S32 f16S32),
   ("vadds", perSoc f16S32 f16F32S32 f16F32S32 f16F32S32 f16F32S32 f16F32S32 f16S32),
   ("vmins", perSoc f16S32 f16F32S32 f16F32S32 f16F32S32 f16F32S32 f16F32S32 f16S32),
   ("vmaxs", perSoc f16S32 f16F32S32 f16F32S32 f16F32S32 f16F32S32 f16F32S32 f16S32),
   ("vmuls", perSoc f16S32 f16F32S32 f16F32S32 f16F32S32 f16F32S32 f16F32S32 f16S32),
   ("vnot", perSoc s16U16 s16U16 s16U16 s16U16 s16U16 s16U16 s16U16),
   ("vor", perSoc s16U16 s16U16 s16U16 s16U16 s16U16 s16U16 s16U16),
   ("vand", perSoc s16U16 s16U16 s16U16 s16U16 s16U16 s16U16 s16U16),
   ("vcmp", perSoc f16 f16 f16F32 f16F32 f16F32 f16F32 f16),
   ("vlogic", perSoc ["bool"] ["bool"] ["bool"] ["bool"] ["bool"] ["bool"] ["bool"]),
   ("vsel", perSoc f16 f16 f16F32 f16F32 f16F32 f16F32 f16),
   ("vcmpsel", perSoc f16 f16 f16F32 f16F32 f16F32 f16F32 f16),
   ("vlog", perSoc f16 f16 f16F32 f16F32 f16F32 f16F32 f16),
   ("vexp", perSoc f16 f16 f16F32 f16F32 f16F32 f16F32 f16),
   ("vabs", perSoc f16 f16F32 f16F32 f16F32 f16F32 f16F32 f16),
   ("vrec", perSoc f16 f16F32 f16F32 f16F32 f16F32 f16F32 f16),
   ("vrelu", perSoc f16 f16 f16 f16F32 f16F32 f16F32 f16),
   ("vsqrt", perSoc f16 f16F32 f16F32 f16F32 f16F32 f16F32 f16),
   ("vrsqrt", perSoc f16 f16F32 f16F32 f16F32 f16F32 f16F32 f16),
   ("vaxpy", perSoc f16 f16F32 f16F32 f16F32 f16F32 f16F32 f16),
   ("vmla", perSoc f16 f16F32 f16F32 f16F32 f16F32 f16F32 f16),
   ("vmadd", perSoc f16 f16F32 f16F32 f16F32 f16F32 f16F32 f16),
   ("vmaddrelu", perSoc f16 f16F32 f16F32 f16F32 f16F32 f16F32 f16),
   ("vlrelu", perSoc f16 f16F32S32 f16F32S32 f16F32 f16F32 f16F32 f16),
   ("vaddrelu", perSoc f16 f16 f16 s16F16F32 s16F16F32 s16F16F32 s16F16),
   ("vsubrelu", perSoc f16 f16 f16 s16F16F32 s16F16F32 s16F16F32 s16F16),
   ("round_to", perSoc f16 f16F32S32 f16F32S32 f16F32 f16F32 f16F32 f16),
   ("cast_to", perSoc castsFromHalf castsFromSingle castsFromSingle castsFromSingle
      castsFromSingle castsFromSingle castsFromHalf),
   ("conv", onAllSoc f16),
   ("compute_four2five", onAllSoc f16),
   ("compute_five2four", onAllSoc f16),
   ("matmul", onAllSoc ["float16", "f162f16", "f162f32"]),
   ("pooling2d", onAllSoc f16),
   ("concat", onAllSoc ["int8", "int16", "int32", "int64", "uint8", "uint16", "uint32",
      "uint64", "float16", "float32"])]

/-- `UNIFY_DSL_CHECK_SUPPORT_MAP` -/
def unifyDslCheckSupportMap : List (String × SocDtypes) :=
  [("reduce_prod", perSoc f16 f16F32 f16F32 f16F32 f16F32 f16F32 f16),
   ("vsel", perSoc f16 f16 f16 f16F32 f16F32 f16F32 f16)]

/-! ## §2. `dsl_support_dtype`. -/

/-- `dsl_support_dtype`, in a mode of unified shapes or not.  Every row has types under
`AllSoc`. -/
def dslSupportDtype (unify : Bool) (socVer : Version) (dslName : String) : List String :=
  let dslName := if dslName = "reduce_sum" ∨ dslName = "sum" then "reduce_sum" else dslName
  let dslName := if dslName = "round_half_up" ∨ dslName = "round_d" then "round_d" else dslName
  let allSupportDtype :=
    if unify && (unifyDslCheckSupportMap.lookup dslName).isSome then
      unifyDslCheckSupportMap.lookup dslName
    else dslCheckSupportMap.lookup dslName
  match allSupportDtype with
  | none => []
  | some row => (row.named socVer).getD row.allSoc

/-- The operations that round: those that `auto_cast_of_cast` decorates. -/
def castApis : List String := ["ceil", "floor", "round", "trunc"]

/-- The operations that reduce: those that `auto_cast_of_reduce` decorates. -/
def reduceApis : List String := ["sum", "reduce_min", "reduce_max", "reduce_prod"]

/-- The names that the reductions are looked up by. -/
def reduceIntrs : List String := ["reduce_sum", "reduce_min", "reduce_max", "reduce_prod"]

/-- **An operation that rounds is not offered at all, or it is offered for `float16`.** -/
theorem float16_mem_or_nil (unify : Bool) (socVer : Version) {dslName : String}
    (h : dslName ∈ castApis) :
    dslSupportDtype unify socVer dslName = []
      ∨ "float16" ∈ dslSupportDtype unify socVer dslName := by
  have hnames : dslName = "ceil" ∨ dslName = "floor" ∨ dslName = "round" ∨ dslName = "trunc" := by
    simpa [castApis] using h
  rcases hnames with rfl | rfl | rfl | rfl <;> cases unify <;> cases socVer <;> decide

/-- **An operation that reduces is offered for `float16` on every product.** -/
theorem float16_mem_reduce (unify : Bool) (socVer : Version) {intr : String}
    (h : intr ∈ reduceIntrs) : "float16" ∈ dslSupportDtype unify socVer intr := by
  have hnames : intr = "reduce_sum" ∨ intr = "reduce_min" ∨ intr = "reduce_max" ∨
      intr = "reduce_prod" := by
    simpa [reduceIntrs] using h
  rcases hnames with rfl | rfl | rfl | rfl <;> cases unify <;> cases socVer <;> decide

end HwEfat.AutoSchedule.AutoCast
