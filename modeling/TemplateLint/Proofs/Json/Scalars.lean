import TemplateLint.Json.Printer
import TemplateLint.Json.Typed

/-!
# Strings and numbers read back

The written form of a string is read as that string: an escape stands for its character and
for nothing else, and no other character of the form has a meaning of its own.  The digits of
a number are read as that number up to the character that ends it.
-/

namespace TemplateLint.Json

/-! ### Reading a written form -/

/-- What may follow a value: nothing, or a comma or the closing of an array or an object. -/
inductive Delimited : List Char → Prop where
  | nil : Delimited []
  | comma (rest : List Char) : Delimited (',' :: rest)
  | bracket (rest : List Char) : Delimited (']' :: rest)
  | brace (rest : List Char) : Delimited ('\x7d' :: rest)

/-- A reader reads a written form as a value wherever it stands, and the form does not begin
as the space between values does, nor as the end of an array. -/
structure ReadsAs {α : Type} (reader : Reader α) (written : List Char) (a : α) : Prop where
  opens : ∃ c cs, written = c :: cs ∧ isBlank c = false ∧ c ≠ ']'
  reads : ∀ rest, Delimited rest → reader (written ++ rest) = .ok (a, rest)

theorem ReadsAs.map {α β : Type} {reader : Reader α} {written : List Char} {a : α}
    (h : ReadsAs reader written a) (f : α → β) :
  ReadsAs (fun cs => (reader cs).map fun (a, rest) => (f a, rest)) written (f a)
  where
  opens := h.opens
  reads rest ends := by
    rw [h.reads rest ends]
    rfl

theorem skipBlank_cons {c : Char} (visible : isBlank c = false) (cs : List Char) :
  skipBlank (c :: cs) = c :: cs
  := List.dropWhile_cons_of_neg (by rw [visible]; exact Bool.false_ne_true)

/-! ### Strings -/

theorem hexDigit?_hexChar {n : Nat} (small : n < 16) :
  hexDigit? (hexChar n) = some n
  := by
  revert n
  decide

theorem hexUnit?_hexChar {n : Nat} (small : n < 256) :
  hexUnit? '0' '0' (hexChar (n / 16)) (hexChar (n % 16)) = some n
  := by
  have zero : hexDigit? '0' = some 0 := rfl
  have high : hexDigit? (hexChar (n / 16)) = some (n / 16) := hexDigit?_hexChar (by omega)
  have low : hexDigit? (hexChar (n % 16)) = some (n % 16) := hexDigit?_hexChar (by omega)
  rw [hexUnit?, zero, high, low]
  exact congrArg some (by omega)

/-- The written form of a character inside a string is read as that character. -/
theorem stringRest_escapeChar (read : List Char) (c : Char) (rest : List Char) :
  stringRest read (escapeChar c ++ rest) = stringRest (c :: read) rest
  := by
  fun_cases escapeChar c with
  | case8 _ control =>
    have unit : hexUnit? '0' '0' (hexChar (c.toNat / 16)) (hexChar (c.toNat % 16)) = some c.toNat :=
      hexUnit?_hexChar (by omega)
    have leading : isLeadingSurrogate c.toNat = false := by grind [isLeadingSurrogate]
    have trailing : isTrailingSurrogate c.toNat = false := by grind [isTrailingSurrogate]
    rw [if_pos control]
    simp [stringRest, unit, leading, trailing, Char.ofNat_toNat]
  | case9 _ visible quote backslash =>
    rw [if_neg visible, List.cons_append, List.nil_append, stringRest, if_neg visible]
    all_goals grind
  | _ => simp [stringRest, letterEscape?]

theorem stringRest_flatMap_escapeChar (read cs rest : List Char) :
  stringRest read (cs.flatMap escapeChar ++ '"' :: rest)
    = .ok (String.ofList (read.reverse ++ cs), rest)
  := by
  induction cs generalizing read with
  | nil => simp [stringRest]
  | cons c cs ih =>
    rw [List.flatMap_cons, List.append_assoc, stringRest_escapeChar, ih, List.reverse_cons,
      List.append_assoc]
    rfl

/-- The written form of a string without the opening quote is read as that string. -/
theorem stringRest_stringChars (s : String) (rest : List Char) :
  stringRest [] ((stringChars s).tail ++ rest) = .ok (s, rest)
  := by
  have form : (stringChars s).tail ++ rest = s.toList.flatMap escapeChar ++ '"' :: rest := by
    simp [stringChars]
  rw [form, stringRest_flatMap_escapeChar, List.reverse_nil, List.nil_append, String.ofList_toList]

theorem text_reads (s : String) :
  ReadsAs text (stringChars s) s
  where
  opens := ⟨'"', _, rfl, rfl, by decide⟩
  reads rest _ := stringRest_stringChars s rest

/-! ### Numbers -/

theorem le_ofDigitChars (cs : List Char) (start : Nat) :
  start ≤ Nat.ofDigitChars 10 cs start
  := by
  induction cs generalizing start with
  | nil => exact Nat.le_of_eq Nat.ofDigitChars_nil.symm
  | cons c cs ih =>
    rw [Nat.ofDigitChars_cons]
    apply Nat.le_trans _ (ih _)
    omega

/-- Digits are taken up to what follows a value if the number stays within the limit. -/
theorem takeDigits_append {limit : Nat} {rest : List Char} (ends : Delimited rest)
    {cs : List Char} (digits : ∀ c ∈ cs, c.isDigit) {start : Nat}
    (within : Nat.ofDigitChars 10 cs start ≤ limit) (count : Nat) :
  takeDigits limit start count (cs ++ rest)
    = (Nat.ofDigitChars 10 cs start, count + cs.length, rest)
  := by
  induction cs generalizing start count with
  | nil => cases ends <;> rfl
  | cons c cs ih =>
    obtain ⟨first, others⟩ := List.forall_mem_cons.mp digits
    have digit : digit? c = some (c.toNat - '0'.toNat) := if_pos first
    rw [Nat.ofDigitChars_cons, Nat.mul_comm] at within ⊢
    have small := Nat.le_trans (le_ofDigitChars cs _) within
    rw [List.cons_append, takeDigits, digit]
    dsimp only
    rw [if_pos small, ih others within, List.length_cons, Nat.add_right_comm, Nat.add_assoc]

theorem isDigit_of_mem_toDigits {n : Nat} :
  ∀ c ∈ Nat.toDigits 10 n, c.isDigit
  := fun _ => Nat.isDigit_of_mem_toDigits (by decide) (by decide)

/-- No zero leads the digits of a positive number. -/
theorem toDigits_eq_cons {n : Nat} (positive : 0 < n) :
  ∃ c cs, Nat.toDigits 10 n = c :: cs ∧ c ≠ '0'
  := by
  have single : ∀ d < 10, 0 < d → Nat.digitChar d ≠ '0' := by decide
  induction n using Nat.strongRecOn with
  | ind n ih =>
    by_cases small : n < 10
    · exact ⟨_, _, Nat.toDigits_of_lt_base small, single n small positive⟩
    · obtain ⟨c, cs, form, head⟩ := ih (n / 10) (by omega) (by omega)
      rw [Nat.toDigits_of_base_le (by decide) (by omega), form]
      exact ⟨c, _, rfl, head⟩

/-- The digits of a number that is kept digit by digit are read as that number. -/
theorem unsignedNumber_toDigits {n : Nat} (small : n ≤ significandLimit) {rest : List Char}
    (ends : Delimited rest) :
  unsignedNumber true (Nat.toDigits 10 n ++ rest) = .ok (.integer n, rest)
  := by
  by_cases zero : n = 0
  · subst zero
    cases ends <;> rfl
  · obtain ⟨c, cs, form, head⟩ := toDigits_eq_cons (Nat.pos_of_ne_zero zero)
    have digit : c.isDigit := isDigit_of_mem_toDigits c (form ▸ List.mem_cons_self)
    have value : Nat.ofDigitChars 10 (c :: cs) 0 = n := form ▸ Nat.ofDigitChars_ten_toDigits
    have taken := takeDigits_append ends (form ▸ isDigit_of_mem_toDigits)
      (Nat.le_trans (Nat.le_of_eq value) small) 0
    rw [value, List.cons_append] at taken
    rw [form, List.cons_append]
    simp only [unsignedNumber, if_neg head, if_pos digit, taken]
    cases ends <;> rfl

/-- A digit is none of the characters that mean something else where a value begins. -/
theorem other_of_isDigit {c : Char} (digit : c.isDigit) :
  isBlank c = false ∧ c ≠ ']' ∧ c ≠ '-'
  := by
  have other (d : Char) (none : d.isDigit = false) : c ≠ d := by
    rintro rfl
    rw [none] at digit
    cases digit
  refine ⟨?_, other ']' rfl, other '-' rfl⟩
  simp [isBlank, other ' ' rfl, other '\t' rfl, other '\n' rfl, other '\r' rfl]

theorem word32OfNumber_toNat (w : UInt32) :
  word32OfNumber (.integer w.toNat) = .ok w
  := by
  have bound : twoTo 32 = 4294967296 := by decide
  have word : isWord 32 w.toNat := by
    have := w.toNat_lt
    simp only [isWord, bound, Bool.and_eq_true, decide_eq_true_eq]
    omega
  rw [word32OfNumber, if_pos word, Int.toNat_natCast, UInt32.ofNat_toNat]

/-- A number that begins with a digit is read as the word that it is. -/
theorem word32_of_isDigit {c : Char} (digit : c.isDigit) {cs rest : List Char} {n : Number}
    (number : unsignedNumber true (c :: cs) = .ok (n, rest)) {w : UInt32}
    (word : word32OfNumber n = .ok w) :
  word32 (c :: cs) = .ok (w, rest)
  := by
  obtain ⟨visible, -, unsigned⟩ := other_of_isDigit digit
  rw [word32, skipBlank_cons visible]
  dsimp only
  split
  · rename_i same
    exact absurd (List.cons.inj same).1 unsigned
  · rename_i same
    obtain ⟨rfl, rfl⟩ := List.cons.inj same
    rw [if_pos digit, number]
    simp only [bind, Except.bind, word]
    rfl
  · contradiction

theorem word32_reads (w : UInt32) :
  ReadsAs word32 (numberChars (.integer w.toNat)) w
  := by
  have form : numberChars (.integer w.toNat) = Nat.toDigits 10 w.toNat := rfl
  obtain ⟨c, cs, digits⟩ : ∃ c cs, Nat.toDigits 10 w.toNat = c :: cs :=
    List.exists_cons_of_ne_nil Nat.toDigits_ne_nil
  have digit : c.isDigit := isDigit_of_mem_toDigits c (digits ▸ List.mem_cons_self)
  have small : w.toNat ≤ significandLimit := by
    have bound : significandLimit = 2 ^ 64 - 1 := by decide
    have := w.toNat_lt
    omega
  obtain ⟨visible, element, -⟩ := other_of_isDigit digit
  rw [form, digits]
  refine ⟨⟨c, cs, rfl, visible, element⟩, fun rest ends => ?_⟩
  have number := unsignedNumber_toDigits small ends
  rw [digits] at number
  exact word32_of_isDigit digit number (word32OfNumber_toNat w)

end TemplateLint.Json
