import Mathlib.Data.List.Basic

/-!
# Lines

The lines of a text.  A line ends at a line feed, at a carriage return, or at a carriage
return together with the line feed after it.  No line has a break in it, so texts that are
written one below the other are the lines of what is written if and only if none of them is
broken.
-/

namespace TemplateLint.Text

/-- The characters that break lines. -/
def isBreak (c : Char) : Bool := c = '\n' || c = '\r'

/-- Whether a text has no line break in it. -/
def Unbroken (s : String) : Prop := ∀ c ∈ s.toList, isBreak c = false

instance (s : String) : Decidable (Unbroken s) :=
  List.decidableBAll (fun c => isBreak c = false) s.toList

/-- The lines of a character sequence. -/
def linesOf : List Char → List (List Char)
  | [] => [[]]
  | '\r' :: '\n' :: rest => [] :: linesOf rest
  | c :: rest =>
    if isBreak c then [] :: linesOf rest else (linesOf rest).modifyHead (List.cons c)

/-- The lines of a text. -/
def lines (s : String) : List String := (linesOf s.toList).map String.ofList

/-! ### Unbroken texts -/

theorem unbroken_append {s t : String} :
  Unbroken (s ++ t) ↔ Unbroken s ∧ Unbroken t
  := by
  simp [Unbroken, or_imp, forall_and]

/-- A number has no line break in its digits. -/
theorem unbroken_toString (n : Nat) :
  Unbroken (toString n)
  := by
  intro c present
  have digit : c.isDigit = true := by
    apply Nat.isDigit_of_mem_toDigits (b := 10) (n := n)
    · decide
    · decide
    · simpa [toString, Nat.repr] using present
  rw [isBreak, Bool.or_eq_false_iff, decide_eq_false_iff_not, decide_eq_false_iff_not]
  constructor
  · rintro rfl
    cases digit
  · rintro rfl
    cases digit

/-- A number with a sign has no line break either. -/
theorem unbroken_toString_int (n : Int) :
  Unbroken (toString n)
  := by
  cases n with
  | ofNat n => exact unbroken_toString n
  | negSucc n =>
    have written : toString (Int.negSucc n) = "-" ++ toString (n + 1) := rfl
    rw [written, unbroken_append]
    exact ⟨by decide, unbroken_toString (n + 1)⟩

/-! ### Texts one after another -/

theorem intercalate_empty_cons (s : String) (rest : List String) :
  "".intercalate (s :: rest) = s ++ "".intercalate rest
  := by
  cases rest <;> simp

theorem intercalate_empty_append (first second : List String) :
  "".intercalate (first ++ second) = "".intercalate first ++ "".intercalate second
  := by
  induction first with
  | nil => simp
  | cons s rest ih =>
    rw [List.cons_append, intercalate_empty_cons, ih, intercalate_empty_cons, String.append_assoc]

/-! ### Lines of texts -/

/-- There is no break within a line. -/
theorem isBreak_of_mem_linesOf {cs line : List Char} (present : line ∈ linesOf cs) :
  ∀ c ∈ line, isBreak c = false
  := by
  induction cs using linesOf.induct generalizing line with
  | case1 => simp_all [linesOf]
  | case2 rest ih =>
    rw [linesOf, List.mem_cons] at present
    rcases present with rfl | later
    · apply List.forall_mem_nil
    · apply ih later
  | case3 c rest _ breaks ih =>
    rw [linesOf, if_pos breaks, List.mem_cons] at present
    · rcases present with rfl | later
      · apply List.forall_mem_nil
      · apply ih later
    · assumption
  | case4 c rest _ continues ih =>
    rw [linesOf, if_neg continues] at present
    · cases lines : linesOf rest with
      | nil => simp [lines] at present
      | cons first others =>
        rw [lines, List.modifyHead_cons, List.mem_cons] at present
        rcases present with rfl | later
        · rw [List.forall_mem_cons]
          constructor
          · simpa using continues
          · apply ih
            rw [lines]
            apply List.mem_cons_self
        · apply ih
          rw [lines]
          apply List.mem_cons_of_mem _ later
    · assumption

theorem unbroken_of_mem_lines {s line : String} (present : line ∈ lines s) :
  Unbroken line
  := by
  obtain ⟨cs, here, rfl⟩ := List.mem_map.mp present
  intro c within
  rw [String.toList_ofList] at within
  apply isBreak_of_mem_linesOf here c within

/-- Characters that are no breaks are written on the line on which what follows them
begins. -/
theorem linesOf_append {cs : List Char} (continues : ∀ c ∈ cs, isBreak c = false)
    (rest : List Char) :
  linesOf (cs ++ rest) = (linesOf rest).modifyHead (cs ++ ·)
  := by
  induction cs with
  | nil => cases lines : linesOf rest <;> simp [lines]
  | cons c cs ih =>
    rw [List.forall_mem_cons] at continues
    have further : ¬ isBreak c = true := by simp [continues.1]
    rw [List.cons_append, linesOf, if_neg further, ih continues.2, List.modifyHead_modifyHead]
    · rfl
    · rintro _ rfl
      cases continues.1

/-- An unbroken text is a line of its own. -/
theorem lines_of_unbroken {s : String} (h : Unbroken s) :
  lines s = [s]
  := by
  have whole := linesOf_append h []
  rw [List.append_nil] at whole
  simp [lines, whole, linesOf]

/-- An unbroken text before a line feed is a line of its own. -/
theorem lines_append_feed {s : String} (h : Unbroken s) (t : String) :
  lines (s ++ "\n" ++ t) = s :: lines t
  := by
  have feed : linesOf ('\n' :: t.toList) = [] :: linesOf t.toList := by
    rw [linesOf, if_pos (show isBreak '\n' = true from rfl)]
    rintro _ ⟨⟩
  have whole : (s ++ "\n" ++ t).toList = s.toList ++ '\n' :: t.toList := by simp
  rw [lines, whole, linesOf_append h, feed]
  simp [lines]

/-- Texts with line feeds between them are the lines of the whole if and only if none of
them is broken. -/
theorem lines_intercalate {texts : List String} (filled : texts ≠ []) :
  lines ("\n".intercalate texts) = texts ↔ ∀ t ∈ texts, Unbroken t
  := by
  constructor
  · intro same t present
    rw [← same] at present
    apply unbroken_of_mem_lines present
  · intro unbroken
    induction texts with
    | nil => contradiction
    | cons t rest ih =>
      rw [List.forall_mem_cons] at unbroken
      cases rest with
      | nil => apply lines_of_unbroken unbroken.1
      | cons next others =>
        rw [String.intercalate_cons_cons, lines_append_feed unbroken.1,
          ih (List.cons_ne_nil _ _) unbroken.2]

/-- Texts with a line feed after each of them are the lines of the whole, before an empty one,
if and only if none of them is broken. -/
theorem lines_join {texts : List String} :
  lines ("".intercalate (texts.map (· ++ "\n"))) = texts ++ [""] ↔ ∀ t ∈ texts, Unbroken t
  := by
  constructor
  · intro same t present
    apply unbroken_of_mem_lines
    rw [same]
    apply List.mem_append_left _ present
  · intro unbroken
    induction texts with
    | nil => rfl
    | cons t rest ih =>
      rw [List.forall_mem_cons] at unbroken
      rw [List.map_cons, intercalate_empty_cons, lines_append_feed unbroken.1, ih unbroken.2,
        List.cons_append]

end TemplateLint.Text
