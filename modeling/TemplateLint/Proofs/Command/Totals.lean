import Mathlib.Algebra.GroupWithZero.Nat
import TemplateLint.Proofs.Command.Lines

/-!
# Positions and totals

The numbers in the reports for people.  Lines count from one in problems and in reports and
from zero in diagnostics in between; going there and back stays within words of 32 bits and
leads to the same line, except that the line zero is reported as the first.  Columns stay as
they are.  The last line has the sums over all reports; that over the problems is counted
in a word of 32 bits with a sign, and exact as long as it fits.
-/

namespace TemplateLint

/-! ### Positions -/

/-- Counting from zero takes one away where there is one. -/
theorem toNat_zeroBased (line : UInt32) :
  (zeroBased line).toNat = line.toNat - 1
  := by
  rw [zeroBased]
  split
  · rename_i zero
    rw [zero]
    rfl
  · rename_i positive
    apply UInt32.toNat_sub_of_le
    rw [UInt32.le_iff_toNat_le]
    apply Nat.one_le_iff_ne_zero.mpr
    exact fun zero => positive (UInt32.toNat_inj.mp zero)

/-- The line that counts from zero is less than the greatest word. -/
theorem succ_zeroBased_lt (line : UInt32) :
  (zeroBased line).toNat + 1 < UInt32.size
  := by
  have bound : line.toNat < UInt32.size := line.toNat_lt_size
  have least : 1 < UInt32.size := by decide
  rw [toNat_zeroBased]
  omega

/-- Counting from one again leads back to the line, or to the first one. -/
theorem toNat_zeroBased_add_one (line : UInt32) :
  (zeroBased line + 1).toNat = max line.toNat 1
  := by
  have sum : (zeroBased line + 1).toNat = (zeroBased line).toNat + 1 := by
    rw [UInt32.toNat_add]
    apply Nat.mod_eq_of_lt (succ_zeroBased_lt line)
  rw [sum, toNat_zeroBased]
  omega

namespace Command

/-! ### Lines -/

/-- What a report says on the line for a problem: where it is, and its message. -/
def problemLine (path : Path) (p : Problem) : String :=
  path.toText ++ ":" ++ toString (max p.line.toNat 1) ++ ":" ++ toString p.column.toNat
    ++ ": " ++ p.toDiagnostic.message

theorem entry_toDiagnostic (path : Path) (p : Problem) :
  FileReport.entry path p.toDiagnostic = problemLine path p
  := by
  have line : toString (zeroBased p.line + 1) = toString (max p.line.toNat 1) := by
    rw [← toNat_zeroBased_add_one]
    rfl
  have column : toString p.column = toString p.column.toNat := rfl
  rw [FileReport.entry, problemLine, ← line, ← column]
  rfl

theorem entries_ofProblems (path : Path) (problems : List Problem) :
  (FileReport.ofProblems path problems).entries = problems.map (problemLine path)
  := by
  rw [FileReport.entries, FileReport.ofProblems, List.map_map]
  apply List.map_congr_left
  intro p _
  apply entry_toDiagnostic

/-- Reports of unbroken messages at unbroken paths have the lines that they say. -/
theorem lines_humanText {reports : List FileReport}
    (unbroken : ∀ r ∈ reports, Text.Unbroken r.path.toText
      ∧ ∀ d ∈ r.diagnostics, Text.Unbroken d.message) :
  Text.lines (humanText reports)
    = reports.flatMap FileReport.entries ++ [totals reports] ++ [""]
  := by
  rw [humanText_eq, Text.lines_join, List.forall_mem_append]
  constructor
  · intro said present
    obtain ⟨r, report, present⟩ := List.mem_flatMap.mp present
    obtain ⟨d, diagnostic, rfl⟩ := List.mem_map.mp present
    obtain ⟨named, messages⟩ := unbroken r report
    apply FileReport.unbroken_entry.mpr ⟨named, messages d diagnostic⟩
  · rw [List.forall_mem_singleton]
    apply unbroken_totals

/-! ### Totals -/

/-- The number of problems is counted over all reports. -/
theorem problemCount_eq_sum (reports : List FileReport) :
  problemCount reports = (reports.map fun r => r.diagnostics.length).sum
  := by
  induction reports with
  | nil => rfl
  | cons r rest ih => rw [problemCount, ih, List.map_cons, List.sum_cons]

theorem FileReport.tally_eq (count : Int32) (r : FileReport) :
  FileReport.tally count r = count + Int32.ofNat r.diagnostics.length
  := by
  rw [FileReport.tally]
  induction r.diagnostics generalizing count with
  | nil => exact (Int32.add_zero count).symm
  | cons d rest ih =>
    rw [List.foldl_cons, ih, List.length_cons, Nat.add_comm, Int32.ofNat_add, Int32.add_assoc]
    rfl

theorem foldl_tally (count : Int32) (reports : List FileReport) :
  reports.foldl FileReport.tally count = count + Int32.ofNat (problemCount reports)
  := by
  induction reports generalizing count with
  | nil => exact (Int32.add_zero count).symm
  | cons r rest ih =>
    rw [List.foldl_cons, ih, FileReport.tally_eq, problemCount, Int32.ofNat_add, Int32.add_assoc]

/-- The count for people is the number of problems, wrapped around into a word. -/
theorem toInt_tally (reports : List FileReport) :
  (tally reports).toInt = Int.bmod (problemCount reports) (2 ^ 32)
  := by
  rw [tally, foldl_tally, Int32.zero_add]
  exact Int32.toInt_ofNat'

/-- A number of problems that is less than the greatest word is the count for people. -/
theorem bmod_of_fits {n : Nat} (fits : n < 2 ^ 31) :
  Int.bmod n (2 ^ 32) = n
  := by
  apply Int.bmod_eq_of_le
  · omega
  · omega

/-- A number of problems in a number of files, in words. -/
def totalsLine (problems : Int) (files : Nat) : String :=
  toString problems ++ (if problems = 1 then " problem" else " problems") ++ " in "
    ++ toString files ++ (if files = 1 then " file" else " files")

theorem totals_eq (reports : List FileReport) :
  let total : Nat := (reports.map fun r => r.diagnostics.length).sum
  totals reports = totalsLine (Int.bmod total (2 ^ 32)) reports.length
  := by
  intro total
  have problems (n : Int) :
      counted n "problem" = toString n ++ (if n = 1 then " problem" else " problems") := by
    rw [counted]
    split <;> simp [String.append_assoc]
  have files (n : Nat) :
      counted n "file" = toString n ++ (if n = 1 then " file" else " files") := by
    have written : toString (n : Int) = toString n := rfl
    have single : (n : Int) = 1 ↔ n = 1 := by omega
    simp only [counted, written, single]
    split <;> simp [String.append_assoc]
  rw [totals, problems, files, toInt_tally, problemCount_eq_sum, totalsLine]
  simp only [String.append_assoc, total]

namespace Extremes

/-- Templates, one of them with problems at the least and the greatest positions. -/
def checked : List (Path × List Problem) :=
  [(.ofText "/w/a.pug", [⟨0, 4294967295, "PUG:LINT_A", .text "first"⟩,
      ⟨4294967295, 0, "", .parts ["last", "one"]⟩]),
    (.ofText "/w/b.jade", [])]

end Extremes

end Command

end TemplateLint
