import Mathlib.Data.List.Forall2
import TemplateLint.Proofs.Json.Scalars

/-!
# Arrays and objects read back

Written forms that are read as values are read one after another when commas stand between
them.  So an array of such forms is read as the list of their values, and an object is read
member by member: each key finds its field, and the fields together make up the record.
-/

namespace TemplateLint.Json

variable {α σ : Type}

/-! ### Commas -/

/-- Written forms, each of them after a comma. -/
def continued (written : List (List Char)) : List Char := written.flatMap (',' :: ·)

/-- Written forms with commas between them. -/
def separated : List (List Char) → List Char
  | [] => []
  | first :: others => first ++ continued others

/-- The written form of a member, from that of its value. -/
def memberChars (member : String × List Char) : List Char :=
  stringChars member.1 ++ ':' :: member.2

theorem compactItems_eq (items : List Value) :
  compactItems items = separated (items.map compactChars)
  := by
  induction items with
  | nil => rfl
  | cons item others ih =>
    cases others with
    | nil => simp [compactItems, separated, continued]
    | cons next others =>
      rw [compactItems, ih]
      · rfl
      · exact List.cons_ne_nil _ _

theorem compactMembers_eq (members : Members) :
  compactMembers members
    = separated (members.map fun m => memberChars (m.1, compactChars m.2))
  := by
  induction members with
  | nil => rfl
  | cons member others ih =>
    obtain ⟨key, value⟩ := member
    cases others with
    | nil => simp [compactMembers, separated, continued, memberChars]
    | cons next others =>
      rw [compactMembers, ih]
      · simp [separated, continued, memberChars]
      · exact List.cons_ne_nil _ _

theorem delimited_continued (written : List (List Char)) {after : List Char}
    (ends : Delimited after) :
  Delimited (continued written ++ after)
  := by
  cases written with
  | nil => exact ends
  | cons => exact .comma _

/-- The fuel of an array or an object, which is one more than its characters, suffices for what
is written in it. -/
theorem length_lt_separated (written : List (List Char)) (c : Char) (rest : List Char) :
  written.length < (separated written ++ c :: rest).length + 1
  := by
  have commas (others : List (List Char)) : others.length ≤ (continued others).length := by
    induction others with
    | nil => exact Nat.le_refl _
    | cons first others ih =>
      simp only [continued, List.flatMap_cons, List.length_append, List.length_cons] at ih ⊢
      omega
  cases written with
  | nil => exact Nat.succ_pos _
  | cons first others =>
    have := commas others
    simp only [separated, List.length_append, List.length_cons]
    omega

/-! ### Arrays -/

/-- An element starts at its written form, after a comma if it is not the first one. -/
theorem ReadsAs.next {reader : Reader α} {written : List Char} {a : α}
    (h : ReadsAs reader written a) (rest : List Char) :
  nextElement true (written ++ rest) = .ok (some (written ++ rest))
    ∧ nextElement false (',' :: (written ++ rest)) = .ok (some (written ++ rest))
  := by
  obtain ⟨c, cs, form, visible, element⟩ := h.opens
  rw [form, List.cons_append]
  generalize cs ++ rest = after
  have comma : skipBlank (',' :: c :: after) = ',' :: c :: after := skipBlank_cons rfl _
  constructor
  · rw [nextElement, skipBlank_cons visible]
    simp
  · rw [nextElement, comma]
    simp [skipBlank_cons visible, element]

/-- An element is read, and then those after it. -/
theorem elements_next {reader : Reader α} {first : Bool} {cs start rest : List Char}
    (next : nextElement first cs = .ok (some start)) {item : α}
    (h : reader start = .ok (item, rest)) (fuel : Nat) (read : List α) :
  elements reader (fuel + 1) first read cs = elements reader fuel false (item :: read) rest
  := by
  rw [elements, next]
  simp only [bind, Except.bind, h]

theorem elements_continued {reader : Reader α} {written : List (List Char)} {items : List α}
    (h : List.Forall₂ (ReadsAs reader) written items) {fuel : Nat} (enough : items.length < fuel)
    (read : List α) (rest : List Char) :
  elements reader fuel false read (continued written ++ ']' :: rest)
    = .ok (read.reverse ++ items, ']' :: rest)
  := by
  induction h generalizing fuel read with
  | nil =>
    cases fuel with
    | zero => cases enough
    | succ fuel =>
      rw [List.append_nil]
      rfl
  | @cons form item forms items first others ih =>
    cases fuel with
    | zero => cases enough
    | succ fuel =>
      have place : continued (form :: forms) ++ ']' :: rest
          = ',' :: (form ++ (continued forms ++ ']' :: rest)) := by simp [continued]
      have read := first.reads _ (delimited_continued forms (.bracket rest))
      rw [place, elements_next (first.next _).2 read, ih (Nat.lt_of_succ_lt_succ enough),
        List.reverse_cons, List.append_assoc]
      rfl

/-- The elements of an array are read as the values of their written forms. -/
theorem elements_separated {reader : Reader α} {written : List (List Char)} {items : List α}
    (h : List.Forall₂ (ReadsAs reader) written items) {fuel : Nat} (enough : items.length < fuel)
    (rest : List Char) :
  elements reader fuel true [] (separated written ++ ']' :: rest) = .ok (items, ']' :: rest)
  := by
  cases fuel with
  | zero => cases enough
  | succ fuel =>
    cases h with
    | nil => rfl
    | @cons form item forms items first others =>
      have place : separated (form :: forms) ++ ']' :: rest
          = form ++ (continued forms ++ ']' :: rest) := List.append_assoc ..
      have read := first.reads _ (delimited_continued forms (.bracket rest))
      rw [place, elements_next (first.next _).1 read,
        elements_continued others (Nat.lt_of_succ_lt_succ enough)]
      rfl

theorem listRest_separated {reader : Reader α} {written : List (List Char)} {items : List α}
    (h : List.Forall₂ (ReadsAs reader) written items) (rest : List Char) :
  listRest reader (separated written ++ ']' :: rest) = .ok (items, rest)
  := by
  have enough := length_lt_separated written ']' rest
  rw [h.length_eq] at enough
  have bracket : endList (']' :: rest) = .ok ((), rest) := rfl
  rw [listRest, elements_separated h enough]
  simp only [bind, Except.bind, bracket]
  rfl

theorem list_reads {element : Nat → Reader α} {inner : Nat} {written : List (List Char)}
    {items : List α} (h : List.Forall₂ (ReadsAs (element (inner + 1))) written items) :
  ReadsAs (list element (inner + 2)) ('[' :: separated written ++ [']']) items
  where
  opens := ⟨'[', _, rfl, rfl, by decide⟩
  reads rest _ := by
    have read := listRest_separated h rest
    rw [List.cons_append, List.cons_append, List.append_assoc]
    exact read

/-! ### Values -/

theorem plainValue_text_reads (depth : Nat) (s : String) :
  ReadsAs (plainValue depth) (stringChars s) (.text s)
  where
  opens := ⟨'"', _, rfl, rfl, by decide⟩
  reads rest _ := by
    have quote : skipBlank (stringChars s ++ rest) = '"' :: ((stringChars s).tail ++ rest) :=
      skipBlank_cons rfl _
    rw [plainValue, quote]
    simp only [stringRest_stringChars]
    rfl

theorem plainValue_list_reads {inner : Nat} {written : List (List Char)} {items : List Value}
    (h : List.Forall₂ (ReadsAs (plainValue (inner + 1))) written items) :
  ReadsAs (plainValue (inner + 2)) ('[' :: separated written ++ [']']) (.list items)
  where
  opens := ⟨'[', _, rfl, rfl, by decide⟩
  reads rest _ := by
    have bracket (cs : List Char) : skipBlank ('[' :: cs) = '[' :: cs := skipBlank_cons rfl cs
    rw [List.cons_append, List.cons_append, List.append_assoc, List.singleton_append, plainValue,
      bracket]
    simp only [listRest_separated h rest]
    rfl

/-! ### Objects -/

/-- The members of an object take a state to another one, each of them by its written form. -/
inductive Collects (member : String → σ → Reader σ) :
    List (String × List Char) → σ → σ → Prop where
  | nil {s : σ} : Collects member [] s s
  | cons {key : String} {written : List Char} {members : List (String × List Char)} {s s' s'' : σ}
      (first : ∀ rest, Delimited rest → member key s (':' :: written ++ rest) = .ok (s', rest))
      (others : Collects member members s' s'') :
      Collects member ((key, written) :: members) s s''

theorem Collects.append {member : String → σ → Reader σ}
    {members others : List (String × List Char)} {s s' s'' : σ}
    (h : Collects member members s s') (h' : Collects member others s' s'') :
  Collects member (members ++ others) s s''
  := by
  induction h with
  | nil => exact h'
  | cons first _ ih => exact .cons first (ih h')

/-- A key starts after its quote, and after a comma if it is not the first one. -/
theorem nextKey_stringChars (key : String) (rest : List Char) :
  nextKey true (stringChars key ++ rest) = .ok (some ((stringChars key).tail ++ rest))
    ∧ nextKey false (',' :: (stringChars key ++ rest))
      = .ok (some ((stringChars key).tail ++ rest))
  := ⟨rfl, rfl⟩

/-- A member is read, and then those after it. -/
theorem collect_next {member : String → σ → Reader σ} {first : Bool}
    {cs start after rest : List Char} (next : nextKey first cs = .ok (some start)) {key : String}
    (found : stringRest [] start = .ok (key, after)) {s s' : σ}
    (h : member key s after = .ok (s', rest)) (fuel : Nat) :
  collect member (fuel + 1) first s cs = collect member fuel false s' rest
  := by
  rw [collect, next]
  simp only [bind, Except.bind, found, h]

theorem collect_continued {member : String → σ → Reader σ} {members : List (String × List Char)}
    {s s' : σ} (h : Collects member members s s') {fuel : Nat} (enough : members.length < fuel)
    (rest : List Char) :
  collect member fuel false s (continued (members.map memberChars) ++ '\x7d' :: rest)
    = .ok (s', '\x7d' :: rest)
  := by
  induction h generalizing fuel with
  | nil =>
    cases fuel with
    | zero => cases enough
    | succ fuel => rfl
  | @cons key written members s s' s'' first others ih =>
    cases fuel with
    | zero => cases enough
    | succ fuel =>
      have place : continued (((key, written) :: members).map memberChars) ++ '\x7d' :: rest
          = ',' :: (stringChars key ++ (':' :: written
            ++ (continued (members.map memberChars) ++ '\x7d' :: rest))) := by
        simp [continued, memberChars]
      have read := first _ (delimited_continued (members.map memberChars) (.brace rest))
      rw [place, collect_next (nextKey_stringChars key _).2 (stringRest_stringChars key _) read]
      exact ih (Nat.lt_of_succ_lt_succ enough)

/-- The members of an object are collected from their written forms. -/
theorem collect_separated {member : String → σ → Reader σ} {members : List (String × List Char)}
    {s s' : σ} (h : Collects member members s s') {fuel : Nat} (enough : members.length < fuel)
    (rest : List Char) :
  collect member fuel true s (separated (members.map memberChars) ++ '\x7d' :: rest)
    = .ok (s', '\x7d' :: rest)
  := by
  cases fuel with
  | zero => cases enough
  | succ fuel =>
    cases h with
    | nil => rfl
    | @cons key written members s s' s'' first others =>
      have place : separated (((key, written) :: members).map memberChars) ++ '\x7d' :: rest
          = stringChars key ++ (':' :: written
            ++ (continued (members.map memberChars) ++ '\x7d' :: rest)) := by
        simp [separated, memberChars]
      have read := first _ (delimited_continued (members.map memberChars) (.brace rest))
      rw [place, collect_next (nextKey_stringChars key _).1 (stringRest_stringChars key _) read]
      exact collect_continued others (Nat.lt_of_succ_lt_succ enough) rest

/-! ### Records -/

/-- A member is read into the field of its name if that was not read before. -/
theorem memberOf_reads {fields : List (Field σ)} {key : String} {field : Field σ}
    (found : fields.find? (·.name = key) = some field) {s : σ} (unread : field.isRead s = false)
    {depth : Nat} {written : List Char} {set : σ → σ}
    (h : ReadsAs (field.read depth) written set) {rest : List Char} (ends : Delimited rest) :
  memberOf fields depth key s (':' :: written ++ rest) = .ok (set s, rest)
  := by
  have value : colon (':' :: (written ++ rest)) = .ok ((), written ++ rest) := rfl
  rw [memberOf, found, List.cons_append]
  simp only [unread, bind, Except.bind, value, h.reads rest ends]
  rfl

/-- A record is read from an object whose members take the state in which no field was read to
one in which no required field is missing. -/
theorem record_reads {fields : List (Field σ)} {inner : Nat} {members : List (String × List Char)}
    {start final : σ} (h : Collects (memberOf fields (inner + 1)) members start final)
    (complete : missing? fields final = none) (type : String) :
  ReadsAs (record type fields start (inner + 2))
    ('\x7b' :: separated (members.map memberChars) ++ ['\x7d']) final
  where
  opens := ⟨'\x7b', _, rfl, rfl, by decide⟩
  reads rest _ := by
    have enough := length_lt_separated (members.map memberChars) '\x7d' rest
    rw [List.length_map] at enough
    have brace : endObject ('\x7d' :: rest) = .ok ((), rest) := rfl
    have visible (cs : List Char) : skipBlank ('\x7b' :: cs) = '\x7b' :: cs := skipBlank_cons rfl cs
    rw [List.cons_append, List.cons_append, List.append_assoc, List.singleton_append, record,
      visible]
    simp only [bind, Except.bind, collect_separated h enough rest, complete, brace]
    rfl

/-! ### Whole texts -/

/-- A text that is a written form is read as its value. -/
theorem readWhole_reads {reader : Reader α} {written : List Char} {a : α}
    (h : ReadsAs reader written a) :
  readWhole reader (String.ofList written) = .ok a
  := by
  have read := h.reads [] .nil
  rw [List.append_nil] at read
  rw [readWhole, String.toList_ofList, read]
  rfl

end TemplateLint.Json
