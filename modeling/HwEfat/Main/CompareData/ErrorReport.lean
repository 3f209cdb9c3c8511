/-
  HwEfat.Main.CompareData.ErrorReport — the files of an error report of `compare_data.py`.

  A table with more rows than a file may have is saved in several files, by slices of its
  default index, whose labels are the positions of the rows and include the last one.

  Main result: `saveDataToCsv_pieces`, the files in their order are the table.
-/
import Mathlib.Algebra.Order.Floor.Ring
import Mathlib.Data.Rat.Floor
import Mathlib.Tactic.Linarith
import HwEfat.Lib.IntText

namespace HwEfat.Main

open HwEfat.Lib

namespace ErrorReport

/-! ## §1. The files. -/

/-- A row: `ERR_REPORT_HEADER` -/
structure ErrRow where
  index : String
  expectOut : String
  realOut : String
  fpDiff : String
  rateDiff : String

/-- `CSV_MAX_LINE` -/
def csvMaxLine : Nat := 50000

/-- What is saved: a path, and the rows of the frame. -/
structure CsvFile where
  csvFilePath : String
  rows : List ErrRow

/-- `dataframe.loc[a:b, :]`, with the row `b` -/
def loc (dataframe : List ErrRow) (a b : Nat) : List ErrRow := (dataframe.take (b + 1)).drop a

/-- `dataframe.loc[a:, :]` -/
def locFrom (dataframe : List ErrRow) (a : Nat) : List ErrRow := dataframe.drop a

/-- `math.ceil(len(dataframe) / CSV_MAX_LINE)` -/
def fileCount (dataframe : List ErrRow) : Nat := ⌈(dataframe.length : ℚ) / csvMaxLine⌉.toNat

/-- The rows of one of the files. -/
def chunk (dataframe : List ErrRow) (fileNum : Nat) : List ErrRow :=
  if (fileNum + 1) * csvMaxLine > dataframe.length then
    locFrom dataframe (fileNum * csvMaxLine)
  else loc dataframe (fileNum * csvMaxLine) ((fileNum + 1) * csvMaxLine - 1)

/-- `_save_data_to_multi_csv` -/
def saveDataToMultiCsv (csvPath : String) (dataframe : List ErrRow) : List CsvFile :=
  (List.range (fileCount dataframe)).map fun fileNum =>
    { csvFilePath := csvPath ++ "_error_report" ++ toString fileNum ++ ".csv"
      rows := chunk dataframe fileNum }

/-- `_save_data_to_csv` -/
def saveDataToCsv (csvPath : String) (csvData : List ErrRow) : List CsvFile :=
  if csvData.length > csvMaxLine then saveDataToMultiCsv csvPath csvData
  else [{ csvFilePath := csvPath ++ "_error_report.csv", rows := csvData }]

/-! ## §2. The pieces of a list. -/

section Pieces

variable {α : Type} (l : List α) (m : Nat)

/-- The pieces of one length that follow each other, up to some number of them. -/
theorem flatten_pieces (k : Nat) :
    ((List.range k).map fun i => (l.take ((i + 1) * m)).drop (i * m)).flatten = l.take (k * m) := by
  induction k with
  | zero => simp
  | succ k ih =>
      have hle : k * m ≤ (k + 1) * m := Nat.mul_le_mul_right m (Nat.le_succ k)
      have hpre : l.take (k * m) = (l.take ((k + 1) * m)).take (k * m) := by
        rw [List.take_take, Nat.min_eq_left hle]
      rw [List.range_succ, List.map_append, List.flatten_append, ih, List.map_singleton,
        List.flatten_singleton, hpre, List.take_append_drop]

theorem length_piece_le (i : Nat) : ((l.take ((i + 1) * m)).drop (i * m)).length ≤ m := by
  rw [List.length_drop, List.length_take, Nat.succ_mul]
  omega

theorem piece_ne_nil (hm : 0 < m) {i : Nat} (hi : i * m < l.length) :
    (l.take ((i + 1) * m)).drop (i * m) ≠ [] := by
  rw [← List.length_pos_iff, List.length_drop, List.length_take, Nat.succ_mul]
  omega

end Pieces

/-! ## §3. The files are the table. -/

variable {dataframe : List ErrRow}

/-- The two slices are the same piece, the last one cut off by the end of the table. -/
theorem chunk_eq (dataframe : List ErrRow) (fileNum : Nat) :
    chunk dataframe fileNum =
      (dataframe.take ((fileNum + 1) * csvMaxLine)).drop (fileNum * csvMaxLine) := by
  have hpos : 0 < (fileNum + 1) * csvMaxLine := Nat.mul_pos (Nat.succ_pos fileNum) (by decide)
  unfold chunk loc locFrom
  split
  · next hlast => rw [List.take_of_length_le (Nat.le_of_lt hlast)]
  · rw [Nat.sub_add_cancel hpos]

/-- As many files as reach the end of the table, and not one more. -/
theorem lt_fileCount {fileNum : Nat} :
    fileNum < fileCount dataframe ↔ fileNum * csvMaxLine < dataframe.length := by
  have hpos : (0 : ℚ) < csvMaxLine := by
    exact_mod_cast (by decide : 0 < csvMaxLine)
  unfold fileCount
  rw [Int.lt_toNat, Int.lt_ceil, Int.cast_natCast, lt_div_iff₀ hpos]
  exact_mod_cast Iff.rfl

theorem length_le_fileCount (dataframe : List ErrRow) :
    dataframe.length ≤ fileCount dataframe * csvMaxLine :=
  Nat.not_lt.mp fun h => Nat.lt_irrefl _ (lt_fileCount.mpr h)

/-- The files hold the rows of the table in order, each once, no more than a file may have,
and no file is empty for nothing; none is written over another one. -/
structure Pieces (files : List CsvFile) (rows : List ErrRow) : Prop where
  flatten : (files.map CsvFile.rows).flatten = rows
  length_le : ∀ file ∈ files, file.rows.length ≤ csvMaxLine
  ne_nil : rows ≠ [] → ∀ file ∈ files, file.rows ≠ []
  paths : (files.map CsvFile.csvFilePath).Nodup

theorem saveDataToMultiCsv_pieces (csvPath : String) (dataframe : List ErrRow) :
    Pieces (saveDataToMultiCsv csvPath dataframe) dataframe where
  flatten := by
    have hrows : (saveDataToMultiCsv csvPath dataframe).map CsvFile.rows =
        (List.range (fileCount dataframe)).map fun i =>
          (dataframe.take ((i + 1) * csvMaxLine)).drop (i * csvMaxLine) := by
      unfold saveDataToMultiCsv
      rw [List.map_map]
      exact List.map_congr_left fun fileNum _ => chunk_eq dataframe fileNum
    rw [hrows, flatten_pieces, List.take_of_length_le (length_le_fileCount dataframe)]
  length_le := by
    intro file hfile
    obtain ⟨fileNum, _, rfl⟩ := List.mem_map.mp hfile
    rw [chunk_eq]
    exact length_piece_le dataframe csvMaxLine fileNum
  ne_nil := by
    intro _ file hfile
    obtain ⟨fileNum, hnum, rfl⟩ := List.mem_map.mp hfile
    rw [chunk_eq]
    exact piece_ne_nil dataframe csvMaxLine (by decide)
      (lt_fileCount.mp (List.mem_range.mp hnum))
  paths := by
    unfold saveDataToMultiCsv
    rw [List.map_map]
    refine List.nodup_range.map fun i j h => ?_
    exact toString_injective ((String.append_right_inj _).mp ((String.append_left_inj _).mp h))

/-- **An error report is its table, cut into files.** -/
theorem saveDataToCsv_pieces (csvPath : String) (csvData : List ErrRow) :
    Pieces (saveDataToCsv csvPath csvData) csvData ∧
      Pieces (saveDataToMultiCsv csvPath csvData) csvData := by
  refine ⟨?_, saveDataToMultiCsv_pieces csvPath csvData⟩
  unfold saveDataToCsv
  split
  · exact saveDataToMultiCsv_pieces csvPath csvData
  · next hle =>
      exact
        { flatten := List.flatten_singleton
          length_le := by
            intro file hfile
            obtain rfl := List.mem_singleton.mp hfile
            exact Nat.not_lt.mp hle
          ne_nil := by
            intro hne file hfile
            obtain rfl := List.mem_singleton.mp hfile
            exact hne
          paths := List.nodup_singleton _ }

end ErrorReport

end HwEfat.Main
