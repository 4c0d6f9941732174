import TemplateLint.Lint.Bridge
import TemplateLint.Proofs.Json.Collections
import TemplateLint.Proofs.Text.Utf8

/-!
# Problems from the linter

What the linter writes of problems is read back as these problems: every message in the shape
in which it was written, and every line, column and code as it was, also where a member is left
out because it is zero or empty.
-/

namespace TemplateLint

namespace Problem

open Json

/-! ### Messages -/

theorem Message.merged_toValue (m : Message) :
  m.toValue.merged = m.toValue
  := by
  cases m with
  | text content => rfl
  | parts ps =>
    have each (ps : List String) : Value.mergedItems (ps.map .text) = ps.map .text := by
      induction ps with
      | nil => rfl
      | cons p others ih =>
        rw [List.map_cons, Value.mergedItems, ih]
        rfl
    exact congrArg Value.list (each ps)

theorem Message.ofValue_toValue (m : Message) :
  ofValue m.toValue = .ok m
  := by
  cases m with
  | text content => rfl
  | parts ps =>
    have each (ps : List String) : (ps.map Value.text).mapM Value.text? = some ps := by
      induction ps with
      | nil => rfl
      | cons p others ih => simp [ih, Value.text?]
    rw [toValue, ofValue, each]

/-- The written form of a message is read as the value that it is the form of. -/
theorem Message.plainValue_reads (m : Message) (depth : Nat) :
  ReadsAs (plainValue (depth + 2)) (compactChars m.toValue) m.toValue
  := by
  cases m with
  | text content =>
    rw [toValue, compactChars]
    exact plainValue_text_reads _ content
  | parts ps =>
    rw [toValue, compactChars, compactItems_eq]
    apply plainValue_list_reads
    rw [List.map_map, List.forall₂_map_left_iff, List.forall₂_map_right_iff, List.forall₂_same]
    intro p _
    rw [Function.comp_apply, compactChars]
    exact plainValue_text_reads _ p

theorem lineField_reads (n : UInt32) (depth : Nat) :
  ReadsAs (lineField.read depth) (compactChars (.number (.integer n.toNat)))
    fun d => { d with line := some n }
  := by
  rw [compactChars]
  exact (word32_reads n).map fun n (d : Draft) => { d with line := some n }

theorem columnField_reads (n : UInt32) (depth : Nat) :
  ReadsAs (columnField.read depth) (compactChars (.number (.integer n.toNat)))
    fun d => { d with column := some n }
  := by
  rw [compactChars]
  exact (word32_reads n).map fun n (d : Draft) => { d with column := some n }

theorem codeField_reads (s : String) (depth : Nat) :
  ReadsAs (codeField.read depth) (compactChars (.text s)) fun d => { d with code := some s }
  := by
  rw [compactChars]
  exact (text_reads s).map fun s (d : Draft) => { d with code := some s }

theorem msgField_reads (m : Message) (depth : Nat) :
  ReadsAs (msgField.read (depth + 2)) (compactChars m.toValue) fun d => { d with msg := some m }
  where
  opens := (m.plainValue_reads depth).opens
  reads rest ends := by
    have read : value (depth + 2) (compactChars m.toValue ++ rest) = .ok (m.toValue, rest) := by
      rw [value, (m.plainValue_reads depth).reads rest ends]
      exact congrArg (fun v => Except.ok (v, rest)) m.merged_toValue
    simp only [msgField, read, bind, Except.bind, m.ofValue_toValue]
    rfl

/-! ### Records -/

/-- The members of the record of a problem. -/
def members (p : Problem) : Members :=
  [("line", .number (.integer p.line.toNat)), ("column", .number (.integer p.column.toNat)),
    ("code", .text p.code), ("msg", p.msg.toValue)]

/-- The record of a problem without the members of some names. -/
def recordWithout (p : Problem) (left : List String) : Value :=
  .object (p.members.filter (·.1 ∉ left))

/-- The names of the members that may be left out: those whose value is zero or empty. -/
def Omissible (p : Problem) (name : String) : Prop :=
  (name = "line" ∧ p.line = 0) ∨ (name = "column" ∧ p.column = 0) ∨ (name = "code" ∧ p.code = "")

theorem recordWithout_nil (p : Problem) :
  p.recordWithout [] = p.toValue
  := by
  have all : p.members.filter (·.1 ∉ ([] : List String)) = p.members :=
    List.filter_eq_self.mpr fun _ _ => by simp
  rw [recordWithout, all]
  rfl

/-- A member with its written value, unless it is left out. -/
def unlessLeft (left : List String) (name : String) (value : Value) : List (String × List Char) :=
  if name ∈ left then [] else [(name, compactChars value)]

/-- The members of a problem with their written values, but for those that are left out. -/
def written (p : Problem) (left : List String) : List (String × List Char) :=
  unlessLeft left "line" (.number (.integer p.line.toNat))
    ++ (unlessLeft left "column" (.number (.integer p.column.toNat))
      ++ (unlessLeft left "code" (.text p.code) ++ unlessLeft left "msg" p.msg.toValue))

theorem compactChars_recordWithout (p : Problem) (left : List String) :
  compactChars (p.recordWithout left)
    = '\x7b' :: separated ((p.written left).map memberChars) ++ ['\x7d']
  := by
  have one (name : String) (value : Value) :
      (([(name, value)] : Members).filter (·.1 ∉ left)).map (fun m => (m.1, compactChars m.2))
        = unlessLeft left name value := by
    by_cases omitted : name ∈ left <;> simp [unlessLeft, omitted]
  have all : (p.members.filter (·.1 ∉ left)).map (fun m => (m.1, compactChars m.2))
      = p.written left := by
    rw [written, ← one, ← one, ← one, ← one, ← List.map_append, ← List.map_append,
      ← List.map_append, ← List.filter_append, ← List.filter_append, ← List.filter_append]
    rfl
  rw [recordWithout, compactChars, compactMembers_eq, ← all, List.map_map]
  rfl

/-- The fields of a problem. -/
def fields : List (Json.Field Draft) := [lineField, columnField, codeField, msgField]

/-- What is known of a problem when all members that are not left out were read. -/
def draft (p : Problem) (left : List String) : Draft where
  line := if "line" ∈ left then none else some p.line
  column := if "column" ∈ left then none else some p.column
  code := if "code" ∈ left then none else some p.code
  msg := some p.msg

/-- A member sets its field to what was written, or leaves it unread if it is left out. -/
theorem collects_unlessLeft {β : Type} (set : Option β → Draft → Draft) (left : List String)
    (name : String) {depth : Nat} {value : Value} {field : Json.Field Draft} {a : β}
    (found : fields.find? (·.name = name) = some field)
    (reads : ReadsAs (field.read depth) (compactChars value) (set (some a)))
    {d : Draft} (unread : field.isRead d = false) (unset : set none d = d) :
  Collects (memberOf fields depth) (unlessLeft left name value) d
    (set (if name ∈ left then none else some a) d)
  := by
  by_cases omitted : name ∈ left
  · rw [unlessLeft, if_pos omitted, if_pos omitted, unset]
    exact .nil
  · rw [unlessLeft, if_neg omitted, if_neg omitted]
    exact .cons (fun rest => memberOf_reads found unread reads) .nil

/-- The members that are not left out are read into the draft of the problem. -/
theorem collects_written (p : Problem) {left : List String} (required : "msg" ∉ left)
    (depth : Nat) :
  Collects (memberOf fields (depth + 2)) (p.written left) ⟨none, none, none, none⟩ (p.draft left)
  := by
  have line := collects_unlessLeft (fun n d => { d with line := n }) left "line" rfl
    (lineField_reads p.line (depth + 2)) (d := ⟨none, none, none, none⟩) rfl rfl
  have column := collects_unlessLeft (fun n d => { d with column := n }) left "column" rfl
    (columnField_reads p.column (depth + 2)) (d := ⟨(p.draft left).line, none, none, none⟩) rfl rfl
  have code := collects_unlessLeft (fun s d => { d with code := s }) left "code" rfl
    (codeField_reads p.code (depth + 2))
    (d := ⟨(p.draft left).line, (p.draft left).column, none, none⟩) rfl rfl
  have msg := collects_unlessLeft (fun m d => { d with msg := m }) left "msg" rfl
    (msgField_reads p.msg depth)
    (d := ⟨(p.draft left).line, (p.draft left).column, (p.draft left).code, none⟩) rfl rfl
  rw [if_neg required] at msg
  exact line.append (column.append (code.append msg))

/-- What is left out has its value from the default. -/
theorem getD_unless {β : Type} {left : List String} {name : String} {a default : β}
    (same : name ∈ left → a = default) :
  (if name ∈ left then none else some a).getD default = a
  := by
  by_cases out : name ∈ left
  · rw [if_pos out, same out, Option.getD_none]
  · rw [if_neg out, Option.getD_some]

/-- A problem is read from its record, whole or without members that are zero or empty. -/
theorem reader_reads (p : Problem) {left : List String} (allowed : ∀ name ∈ left, p.Omissible name)
    (depth : Nat) :
  ReadsAs (reader (depth + 3)) (compactChars (p.recordWithout left)) p
  := by
  have required : "msg" ∉ left := by
    intro present
    rcases allowed _ present with ⟨same, -⟩ | ⟨same, -⟩ | ⟨same, -⟩
    all_goals exact absurd same (by decide)
  have line : (p.draft left).line.getD 0 = p.line :=
    getD_unless fun out => by simpa [Omissible] using allowed _ out
  have column : (p.draft left).column.getD 0 = p.column :=
    getD_unless fun out => by simpa [Omissible] using allowed _ out
  have code : (p.draft left).code.getD "" = p.code :=
    getD_unless fun out => by simpa [Omissible] using allowed _ out
  have record := record_reads (collects_written p required depth) rfl "Problem"
  rw [← compactChars_recordWithout] at record
  refine ⟨record.opens, fun rest ends => ?_⟩
  have read := record.reads rest ends
  rw [fields] at read
  simp only [reader, read, bind, Except.bind, line, column, code]
  rfl

/-- The list of the records of problems is read as the list of the problems. -/
theorem parseList_records {entries : List (Problem × List String)}
    (allowed : ∀ entry ∈ entries, ∀ name ∈ entry.2, entry.1.Omissible name) :
  parseList (compact (.list (entries.map fun entry => entry.1.recordWithout entry.2)))
    = .ok (entries.map Prod.fst)
  := by
  rw [parseList, compact, compactChars, compactItems_eq, List.map_map]
  apply readWhole_reads
  apply list_reads
  rw [List.forall₂_map_left_iff, List.forall₂_map_right_iff, List.forall₂_same]
  intro entry present
  exact reader_reads entry.1 (allowed entry present) 124

/-- Reading problems undoes printing them. -/
theorem parseList_printList (ps : List Problem) :
  parseList (printList ps) = .ok ps
  := by
  have whole : ps.map toValue = (ps.map fun p => (p, ([] : List String))).map
      fun entry => entry.1.recordWithout entry.2 := by
    rw [List.map_map]
    exact List.map_congr_left fun p _ => p.recordWithout_nil.symm
  rw [printList, whole, parseList_records, List.map_map]
  · exact congrArg Except.ok (List.map_id ps)
  · intro entry present name omitted
    obtain ⟨p, _, rfl⟩ := List.mem_map.mp present
    cases omitted

end Problem

/-! ### Checks -/

namespace Bridge

variable {answer : (r : Request) → r.Answer} {package : Package} {interpreter : Interpreter}
  {options : Options} {text : String} {path : Path}

/-- The run of the script that a check asks for ends with success, and the script writes the
given text. -/
def Writes (answer : (r : Request) → r.Answer) (package : Package) (interpreter : Interpreter)
    (options : Options) (text : String) (path : Path) (output : String) : Prop :=
  ∃ errors, answer (.invoke (interpreter.invocation checkScript [package.root]
      (some (Json.compact (request options text path)))
      ((workingDirectory package path).run answer)))
    = .ok ⟨some 0, Text.encode output, errors⟩

/-- The result of a check is what the written text says. -/
theorem run_check {output : String}
    (h : Writes answer package interpreter options text path output) :
  (check package interpreter options text path).run answer = problemsOf output
  := by
  obtain ⟨errors, ended⟩ := h
  have result : Interpreter.resultOf ⟨some 0, Text.encode output, errors⟩ = .ok output := by
    rw [Interpreter.resultOf, if_pos rfl, Text.decodeLossy_encode]
  have ran : (interpreter.run checkScript [package.root]
      (some (Json.compact (request options text path)))
      ((workingDirectory package path).run answer)).run answer = .ok output := by
    rw [Interpreter.run, Program.run_bind, Program.run_request, ended]
    exact result
  rw [check, Program.run_bind, Program.run_bind, ran]
  rfl

/-- A check gives back the problems that the script writes, in order and each message in its
shape, also where members that are zero or empty are left out of their records. -/
theorem check_returns_problems (answer : (r : Request) → r.Answer) (package : Package)
    (interpreter : Interpreter) (options : Options) (text : String) (path : Path) :
  (∀ problems, Writes answer package interpreter options text path (Problem.printList problems) →
      (check package interpreter options text path).run answer = .ok problems)
    ∧ ∀ entries : List (Problem × List String),
      (∀ entry ∈ entries, ∀ name ∈ entry.2, entry.1.Omissible name) →
      Writes answer package interpreter options text path
        (Json.compact (.list (entries.map fun entry => entry.1.recordWithout entry.2))) →
      (check package interpreter options text path).run answer = .ok (entries.map Prod.fst)
  := by
  constructor
  · intro problems written
    rw [run_check written, problemsOf, Problem.parseList_printList]
  · intro entries allowed written
    rw [run_check written, problemsOf, Problem.parseList_records allowed]

/-- A machine without files, on which every script writes the same. -/
def writing (output : String) : (r : Request) → r.Answer
  | .invoke _ => .ok ⟨some 0, Text.encode output, []⟩
  | .read _ => .error .notFound
  | .status _ => .error .notFound
  | .names _ => .error .notFound
  | .canonical _ => .error .notFound
  | .outline _ => .error .notFound

/-- A problem of the whole text, without a code and with a message of no parts. -/
def wholeProblem : Problem := ⟨0, 4294967295, "", .parts []⟩

/-- A problem in a place, with characters that are escaped and others that are not in ASCII. -/
def placedProblem : Problem := ⟨7, 0, "PUG:LINT_\"A\\\x01", .text "[\"é\",\n\t\"😀\"]"⟩

theorem check_returns_problems_of_sample :
  let sample := check ⟨Path.ofText "/p", .project⟩ ⟨Path.ofText "/n"⟩ ⟨[]⟩ "p"
    (Path.ofText "/a.pug")
  let shortened := [wholeProblem.recordWithout ["line", "code"],
    placedProblem.recordWithout ["column"]]
  sample.run (writing (Problem.printList [wholeProblem, placedProblem]))
      = .ok [wholeProblem, placedProblem]
    ∧ sample.run (writing (Json.compact (.list shortened))) = .ok [wholeProblem, placedProblem]
  := by
  constructor
  · exact (check_returns_problems _ _ _ _ _ _).1 _ ⟨[], rfl⟩
  · refine (check_returns_problems _ _ _ _ _ _).2
      [(wholeProblem, ["line", "code"]), (placedProblem, ["column"])] ?_ ⟨[], rfl⟩
    simp [Problem.Omissible, wholeProblem, placedProblem]

end Bridge

end TemplateLint
