import TemplateLint.Proofs.Text.Ascii

/-!
# Texts read back from their bytes

The bytes of a text are read as that text, whatever its characters are: the first byte of a
character says how many bytes it takes, those after it are in the ranges that the first one
asks for, and their payloads make up the number of the character.
-/

namespace TemplateLint.Text

/-! ### Classes of bytes by number -/

theorem leadLength?_eq (b : UInt8) :
  leadLength? b = if b.toNat < 0x80 then some 1
    else if 0xC2 ≤ b.toNat ∧ b.toNat ≤ 0xDF then some 2
    else if 0xE0 ≤ b.toNat ∧ b.toNat ≤ 0xEF then some 3
    else if 0xF0 ≤ b.toNat ∧ b.toNat ≤ 0xF4 then some 4
    else none
  := by
  simp only [leadLength?, Bool.and_eq_true, decide_eq_true_eq, UInt8.lt_iff_toNat_lt,
    UInt8.le_iff_toNat_le, UInt8.reduceToNat]

theorem isContinuation_iff {b : UInt8} :
  isContinuation b ↔ 0x80 ≤ b.toNat ∧ b.toNat ≤ 0xBF
  := by
  simp only [isContinuation, Bool.and_eq_true, decide_eq_true_eq, UInt8.le_iff_toNat_le,
    UInt8.reduceToNat]

theorem followsLead_iff {lead second : UInt8} :
  followsLead lead second ↔ (0x80 ≤ second.toNat ∧ second.toNat ≤ 0xBF)
    ∧ (lead.toNat = 0xE0 → 0xA0 ≤ second.toNat) ∧ (lead.toNat = 0xED → second.toNat ≤ 0x9F)
    ∧ (lead.toNat = 0xF0 → 0x90 ≤ second.toNat) ∧ (lead.toNat = 0xF4 → second.toNat ≤ 0x8F)
  := by
  have number (n : UInt8) : lead = n ↔ lead.toNat = n.toNat := UInt8.toNat_inj.symm
  simp only [followsLead, isContinuation, number, UInt8.le_iff_toNat_le, UInt8.reduceToNat]
  grind

/-! ### Reading back -/

private theorem ofNat_eq {n : Nat} {c : Char} (h : n = c.val.toNat) :
  Char.ofNat n = c
  := by
  subst h
  exact Char.ofNat_toNat c

private theorem toNat_byte {n m : Nat} (same : n = m) (small : m < 256) :
  (UInt8.ofNat n).toNat = m
  := by
  subst same
  exact UInt8.toNat_ofNat_of_lt' small

/-- The bytes of a character are read as that character, whatever follows. -/
theorem step_utf8EncodeChar (c : Char) (rest : List UInt8) :
  ∃ b more, String.utf8EncodeChar c = b :: more
    ∧ step b (more ++ rest) = (some c, more.length + 1)
  := by
  have valid : c.val.toNat < 0xD800 ∨ 0xDFFF < c.val.toNat ∧ c.val.toNat < 0x110000 := c.valid
  fun_cases String.utf8EncodeChar c with
  | case1 v small =>
    have first : (UInt8.ofNat v).toNat = v := toNat_byte (by omega) (by omega)
    refine ⟨_, _, rfl, ?_⟩
    rw [List.nil_append, step_of_ascii (by omega), first]
    exact congrArg (fun c => (some c, 1)) (ofNat_eq rfl)
  | case2 v _ small =>
    set b := UInt8.ofNat (v / 64 % 0x20 + 0xc0)
    set second := UInt8.ofNat (v % 0x40 + 0x80)
    have first : b.toNat = v / 64 + 0xC0 :=
      toNat_byte (by omega) (by omega)
    have last : second.toNat = v % 64 + 0x80 := toNat_byte (by omega) (by omega)
    have lead : leadLength? b = some 2 := by grind [leadLength?_eq]
    have follows : followsLead b second := followsLead_iff.mpr (by omega)
    refine ⟨_, _, rfl, ?_⟩
    simp only [step, lead, List.cons_append, follows, if_true, payload, first, last]
    exact congrArg (fun c => (some c, 2)) (ofNat_eq (by omega))
  | case3 v _ _ small =>
    set b := UInt8.ofNat (v / 4096 % 0x10 + 0xe0)
    set second := UInt8.ofNat (v / 64 % 0x40 + 0x80)
    set third := UInt8.ofNat (v % 0x40 + 0x80)
    have first : b.toNat = v / 4096 + 0xE0 :=
      toNat_byte (by omega) (by omega)
    have middle : second.toNat = v / 64 % 64 + 0x80 := toNat_byte (by omega) (by omega)
    have last : third.toNat = v % 64 + 0x80 := toNat_byte (by omega) (by omega)
    have lead : leadLength? b = some 3 := by grind [leadLength?_eq]
    have follows : followsLead b second := followsLead_iff.mpr (by omega)
    have continues : isContinuation third := isContinuation_iff.mpr (by omega)
    refine ⟨_, _, rfl, ?_⟩
    simp only [step, lead, List.cons_append, follows, continues, if_true, payload, first, middle,
      last]
    exact congrArg (fun c => (some c, 3)) (ofNat_eq (by omega))
  | case4 v _ _ _ =>
    set b := UInt8.ofNat (v / 262144 % 0x08 + 0xf0)
    set second := UInt8.ofNat (v / 4096 % 0x40 + 0x80)
    set third := UInt8.ofNat (v / 64 % 0x40 + 0x80)
    set fourth := UInt8.ofNat (v % 0x40 + 0x80)
    have first : b.toNat = v / 262144 + 0xF0 :=
      toNat_byte (by omega) (by omega)
    have middle : second.toNat = v / 4096 % 64 + 0x80 := toNat_byte (by omega) (by omega)
    have later : third.toNat = v / 64 % 64 + 0x80 := toNat_byte (by omega) (by omega)
    have last : fourth.toNat = v % 64 + 0x80 := toNat_byte (by omega) (by omega)
    have lead : leadLength? b = some 4 := by grind [leadLength?_eq]
    have follows : followsLead b second := followsLead_iff.mpr (by omega)
    have continues : isContinuation third := isContinuation_iff.mpr (by omega)
    have ends : isContinuation fourth := isContinuation_iff.mpr (by omega)
    refine ⟨_, _, rfl, ?_⟩
    simp only [step, lead, List.cons_append, follows, continues, ends, if_true, payload, first,
      middle, later, last]
    exact congrArg (fun c => (some c, 4)) (ofNat_eq (by omega))

/-- The bytes of a character sequence are read as that sequence. -/
theorem stepAll_encodeChars {fuel : Nat} {cs : List Char}
    (enough : (encodeChars cs).length ≤ fuel) :
  stepAll fuel (encodeChars cs) = cs.map some
  := by
  induction cs generalizing fuel with
  | nil => cases fuel <;> rfl
  | cons c rest ih =>
    obtain ⟨b, more, form, stepped⟩ := step_utf8EncodeChar c (encodeChars rest)
    have bytes : encodeChars (c :: rest) = b :: (more ++ encodeChars rest) := by
      rw [encodeChars, List.flatMap_cons, form]
      rfl
    rw [bytes] at enough ⊢
    cases fuel with
    | zero => cases enough
    | succ fuel =>
      have later : (encodeChars rest).length ≤ fuel := by
        rw [List.length_cons, List.length_append] at enough
        omega
      rw [stepAll, stepped]
      simp only [Nat.add_sub_cancel, List.drop_left, List.map_cons, ih later]

/-- The bytes of a text are read as that text. -/
theorem decodeLossy_encode (s : String) :
  decodeLossy (encode s) = s
  := by
  rw [decodeLossy, encode, stepAll_encodeChars (Nat.le_refl _), List.map_map]
  have marks : (fun c : Option Char => c.getD replacement) ∘ some = id := rfl
  rw [marks, List.map_id]
  exact String.ofList_toList

end TemplateLint.Text
