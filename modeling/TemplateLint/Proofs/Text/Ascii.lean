import TemplateLint.Proofs.Config.Evidence

/-!
# Texts and bytes of ASCII

A character of ASCII is written as the byte with its number, and such a byte is never a part
of the form of another character, nor of an ill-formed part of a byte sequence.  So texts of
ASCII and their bytes stand for each other, and a byte of ASCII is seen in any byte sequence.
-/

namespace TemplateLint.Text

/-- A character of ASCII is written as one byte. -/
theorem utf8EncodeChar_ascii {c : Char} (ascii : c.toNat < 128) :
  (String.utf8EncodeChar c).map UInt8.toNat = [c.toNat]
  := by
  have single : c.utf8Size = 1 :=
    Char.utf8Size_eq_one_iff.mpr (UInt32.le_iff_toNat_le.mpr (Nat.le_of_lt_succ ascii))
  rw [String.utf8EncodeChar_eq_singleton single, List.map_singleton, UInt32.toNat_toUInt8]
  have number : c.val.toNat % 2 ^ 8 = c.val.toNat := Nat.mod_eq_of_lt (ascii.trans (by decide))
  rw [number]
  rfl

theorem encodeChars_ascii {cs : List Char} (ascii : ∀ c ∈ cs, c.toNat < 128) :
  (encodeChars cs).map UInt8.toNat = cs.map Char.toNat
  := by
  induction cs with
  | nil => rfl
  | cons c rest ih =>
    obtain ⟨first, others⟩ := List.forall_mem_cons.mp ascii
    rw [encodeChars] at ih ⊢
    rw [List.flatMap_cons, List.map_append, utf8EncodeChar_ascii first, ih others]
    rfl

/-- Bytes are the form of a text of ASCII if they have the numbers of its characters. -/
theorem eq_encode_iff {bytes : List UInt8} {text : String}
    (ascii : ∀ c ∈ text.toList, c.toNat < 128) :
  bytes = encode text ↔ bytes.map UInt8.toNat = text.toList.map Char.toNat
  := by
  rw [← encodeChars_ascii ascii]
  exact (List.map_inj_right (fun _ _ => UInt8.toNat_inj.mp)).symm

theorem step_of_ascii {b : UInt8} (ascii : b.toNat < 128) (rest : List UInt8) :
  step b rest = (some (Char.ofNat b.toNat), 1)
  := by
  have lead : leadLength? b = some 1 := by
    rw [leadLength?, if_pos]
    apply UInt8.lt_iff_toNat_lt.mpr ascii
  simp only [step, lead]

/-- Bytes of ASCII are the characters with their numbers. -/
theorem stepAll_of_ascii {fuel : Nat} {bytes : List UInt8} (enough : bytes.length ≤ fuel)
    (ascii : ∀ b ∈ bytes, b.toNat < 128) :
  stepAll fuel bytes = bytes.map fun b => some (Char.ofNat b.toNat)
  := by
  induction bytes generalizing fuel with
  | nil => cases fuel <;> rfl
  | cons b rest ih =>
    obtain ⟨first, others⟩ := List.forall_mem_cons.mp ascii
    cases fuel with
    | zero => cases enough
    | succ fuel =>
      rw [stepAll, step_of_ascii first, List.map_cons, ← ih (Nat.le_of_succ_le_succ enough) others]
      rfl

/-- The form of a text of ASCII is read as that text. -/
theorem decode?_encode {text : String} (ascii : ∀ c ∈ text.toList, c.toNat < 128) :
  decode? (encode text) = some text
  := by
  have numbers : (encode text).map UInt8.toNat = text.toList.map Char.toNat :=
    encodeChars_ascii ascii
  have bounded : ∀ b ∈ encode text, b.toNat < 128 := by
    intro b present
    have number : b.toNat ∈ text.toList.map Char.toNat := by
      rw [← numbers]
      apply List.mem_map_of_mem present
    obtain ⟨c, present, number⟩ := List.mem_map.mp number
    rw [← number]
    apply ascii c present
  have marks : (encode text).map (fun b => some (Char.ofNat b.toNat)) = text.toList.map some := by
    have each : (encode text).map (fun b => some (Char.ofNat b.toNat))
        = ((encode text).map UInt8.toNat).map fun n => some (Char.ofNat n) := by
      rw [List.map_map]
      rfl
    rw [each, numbers, List.map_map]
    apply List.map_congr_left
    intro c _
    exact congrArg some (Char.ofNat_toNat c)
  have whole (cs : List Char) : (cs.map some).mapM id = some cs := by
    induction cs with
    | nil => rfl
    | cons c rest ih => simp [ih]
  rw [decode?, stepAll_of_ascii (Nat.le_refl _) bounded, marks, whole]
  exact congrArg some (String.ofList_toList)

/-- Bytes that are read as a text of ASCII are the form of that text. -/
theorem eq_encode_of_decodeLossy {bytes : List UInt8} {text : String}
    (ascii : ∀ c ∈ text.toList, 0 < c.toNat ∧ c.toNat < 128) (read : decodeLossy bytes = text) :
  bytes = encode text
  := by
  subst read
  rw [eq_encode_iff fun c present => (ascii c present).2]
  rw [decodeLossy, String.toList_ofList] at ascii ⊢
  apply stepAll_ascii (Nat.le_refl _) (mapM_of_ascii ascii) ascii

/-- Continuations are no bytes of ASCII. -/
theorem not_ascii_of_isContinuation {b : UInt8} (h : isContinuation b) :
  128 ≤ b.toNat
  := by
  simp only [isContinuation, Bool.and_eq_true, decide_eq_true_eq, UInt8.le_iff_toNat_le] at h
  apply h.1

theorem not_ascii_of_followsLead {lead second : UInt8} (h : followsLead lead second) :
  128 ≤ second.toNat
  := by
  simp only [followsLead, isContinuation, UInt8.le_iff_toNat_le, UInt8.reduceToNat] at h
  grind

/-- The bytes that a step takes after the first one are none of ASCII. -/
theorem not_ascii_of_step {b : UInt8} {rest : List UInt8} :
  ∀ other ∈ rest.take ((step b rest).2 - 1), 128 ≤ other.toNat
  := by
  fun_cases step b rest with
  | _ =>
    intro other taken
    repeat' split at taken
    all_goals grind [not_ascii_of_isContinuation, not_ascii_of_followsLead]

theorem mem_stepAll {fuel : Nat} {bytes : List UInt8} (enough : bytes.length ≤ fuel) {b : UInt8}
    (ascii : b.toNat < 128) (present : b ∈ bytes) :
  some (Char.ofNat b.toNat) ∈ stepAll fuel bytes
  := by
  induction fuel generalizing bytes with
  | zero =>
    obtain rfl := List.eq_nil_of_length_eq_zero (Nat.le_zero.mp enough)
    cases present
  | succ fuel ih =>
    cases bytes with
    | nil => cases present
    | cons first rest =>
      rw [stepAll]
      rcases List.mem_cons.mp present with rfl | later
      · rw [step_of_ascii ascii]
        apply List.mem_cons_self
      · apply List.mem_cons_of_mem
        rw [← List.take_append_drop ((step first rest).2 - 1) rest, List.mem_append] at later
        rcases later with taken | later
        · exact absurd (not_ascii_of_step b taken) (Nat.not_le.mpr ascii)
        · apply ih _ later
          rw [List.length_drop]
          exact (Nat.sub_le _ _).trans (Nat.le_of_succ_le_succ enough)

/-- A byte of ASCII is seen in any byte sequence. -/
theorem mem_decodeLossy {bytes : List UInt8} {b : UInt8} (ascii : b.toNat < 128)
    (present : b ∈ bytes) :
  Char.ofNat b.toNat ∈ (decodeLossy bytes).toList
  := by
  rw [decodeLossy, String.toList_ofList]
  exact List.mem_map.mpr ⟨_, mem_stepAll (Nat.le_refl _) ascii present, rfl⟩

/-- The first character is one of ASCII if the first byte has its number. -/
theorem head?_decodeLossy {bytes : List UInt8} {c : Char} (ascii : 0 < c.toNat ∧ c.toNat < 128) :
  (decodeLossy bytes).toList.head? = some c ↔ bytes.head?.map UInt8.toNat = some c.toNat
  := by
  cases bytes with
  | nil => simp [decodeLossy, stepAll]
  | cons b rest =>
    have first : (decodeLossy (b :: rest)).toList.head?
        = some ((step b rest).1.getD replacement) := by
      rw [decodeLossy, String.toList_ofList]
      rfl
    rw [first, List.head?_cons, Option.map_some, Option.some.injEq, Option.some.injEq]
    constructor
    · intro read
      rcases stepped : step b rest with ⟨_ | mark, width⟩
      · rw [stepped] at read
        obtain rfl : replacement = c := read
        exact absurd ascii.2 (by decide)
      · rw [stepped] at read
        obtain rfl : mark = c := read
        exact (step_ascii ascii.1 ascii.2 stepped).1.symm
    · intro number
      rw [step_of_ascii (number.symm ▸ ascii.2), number]
      exact Char.ofNat_toNat c

end TemplateLint.Text
