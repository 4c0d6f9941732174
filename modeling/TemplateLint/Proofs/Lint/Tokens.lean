import Mathlib.Data.List.Infix
import TemplateLint.Proofs.Lint.ShortCode

/-!
# Tokens in short codes

What becomes of the tokens in a code.  No letter with which a token begins occurs further
on in a token, so tokens do not overlap: each token goes, and what stands before it and after
it is stripped on its own.  But what stood apart may come together to a token.  A short code
has a token exactly if a part of the code, which is not that token, has it for its short code.
-/

namespace TemplateLint

/-! ### Letters of tokens -/

theorem tail_of_token :
  ∀ token ∈ codeTokens, ∀ c ∈ token.tail, ∀ other ∈ codeTokens, other.head? ≠ some c
  := by
  simp [codeTokens]

theorem dropLast_of_token :
  ∀ token ∈ codeTokens, ∀ c ∈ token.dropLast, ∀ other ∈ codeTokens, other.getLast? ≠ some c
  := by
  simp [codeTokens]

theorem ne_nil_of_token :
  ∀ token ∈ codeTokens, token ≠ []
  := by
  decide

/-- Whether characters begin as a token does. -/
def BeginsToken (cs : List Char) : Prop := ∃ token ∈ codeTokens, cs.head? = token.head?

/-- Whether characters end as a token does. -/
def EndsToken (cs : List Char) : Prop := ∃ token ∈ codeTokens, cs.getLast? = token.getLast?

/-- Whether no token lies across the place where two character sequences meet. -/
def Apart (cs ds : List Char) : Prop :=
  ∀ front back, front ++ back ∈ codeTokens → front <:+ cs → back <+: ds → front = [] ∨ back = []

theorem BeginsToken.apart {ds : List Char} (begins : BeginsToken ds) (cs : List Char) :
  Apart cs ds
  := by
  intro front back known _ inside
  obtain ⟨other, known', same⟩ := begins
  rw [or_iff_not_imp_left]
  intro filled
  cases back with
  | nil => rfl
  | cons c back =>
    obtain ⟨rest, rfl⟩ := inside
    have later : c ∈ (front ++ c :: back).tail := by
      rw [List.tail_append_of_ne_nil filled]
      simp
    exact absurd same.symm (tail_of_token _ known c later other known')

theorem EndsToken.apart {cs : List Char} (ends : EndsToken cs) (ds : List Char) :
  Apart cs ds
  := by
  intro front back known inside _
  obtain ⟨other, known', same⟩ := ends
  rw [or_iff_not_imp_right]
  intro filled
  cases last : front.getLast? with
  | none => apply List.getLast?_eq_none_iff.mp last
  | some c =>
    obtain ⟨rest, rfl⟩ := inside
    obtain ⟨before, rfl⟩ := List.getLast?_eq_some_iff.mp last
    have earlier : c ∈ (before ++ [c] ++ back).dropLast := by
      rw [List.dropLast_append_of_ne_nil filled]
      simp
    rw [List.getLast?_append, List.getLast?_concat] at same
    exact absurd same.symm (dropLast_of_token _ known c earlier other known')

/-! ### Stripping -/

theorem afterToken?_eq_none_iff {cs : List Char} :
  afterToken? cs = none ↔ ∀ token ∈ codeTokens, ¬ token <+: cs
  := by
  simp [afterToken?]

/-- After a token comes what stands behind it. -/
theorem afterToken?_append {token : List Char} (known : token ∈ codeTokens) (cs : List Char) :
  afterToken? (token ++ cs) = some cs
  := by
  rw [codeTokens, List.mem_cons, List.mem_singleton] at known
  rcases known with rfl | rfl
  · rfl
  · rfl

/-- There is one way to strip characters. -/
theorem Strips.unique {cs kept other : List Char} (h : Strips cs kept) (h' : Strips cs other) :
  kept = other
  := by
  induction h generalizing other with
  | nil =>
    generalize same : ([] : List Char) = cs at h'
    cases h' with
    | nil => rfl
    | token known _ =>
      obtain ⟨empty, -⟩ := List.append_eq_nil_iff.mp same.symm
      exact absurd empty (ne_nil_of_token _ known)
    | keep => cases same
  | @token token cs kept known _ ih =>
    have after := afterToken?_append known cs
    generalize same : token ++ cs = ds at h' after
    cases h' with
    | nil => cases after
    | @token token' cs' _ known' later =>
      rw [afterToken?_append known'] at after
      obtain rfl := Option.some.inj after
      apply ih later
    | keep none _ =>
      rw [none] at after
      cases after
  | @keep c cs kept none _ ih =>
    generalize same : c :: cs = ds at h' none
    cases h' with
    | nil => cases same
    | token known' _ =>
      rw [afterToken?_append known'] at none
      cases none
    | keep _ later =>
      cases same
      rw [ih later]

theorem Strips.eq_dropTokens {cs kept : List Char} (h : Strips cs kept) :
  dropTokens cs = kept
  := (strips_dropTokens cs).unique h

theorem Strips.sublist {cs kept : List Char} (h : Strips cs kept) :
  kept.Sublist cs
  := by
  induction h with
  | nil => apply List.Sublist.refl
  | token _ _ ih => apply ih.trans (List.sublist_append_right _ _)
  | keep _ _ ih => apply ih.cons_cons

/-- Characters across whose meeting place no token lies are stripped on their own. -/
theorem Strips.append {cs ds kept more : List Char} (first : Strips cs kept)
    (second : Strips ds more) (apart : Apart cs ds) :
  Strips (cs ++ ds) (kept ++ more)
  := by
  induction first with
  | nil => apply second
  | @token token cs kept known _ ih =>
    rw [List.append_assoc]
    apply Strips.token known
    apply ih
    intro front back known inside
    apply apart front back known (inside.trans (List.suffix_append _ _))
  | @keep c cs kept none _ ih =>
    apply Strips.keep
    · rw [afterToken?_eq_none_iff] at none ⊢
      rintro token known ⟨rest, same⟩
      have same : token ++ rest = (c :: cs) ++ ds := same
      rcases List.append_eq_append_iff.mp same with ⟨back, whole, _⟩ | ⟨back, rfl, behind⟩
      · apply none token known
        rw [whole]
        apply List.prefix_append
      · rcases apart (c :: cs) back known List.suffix_rfl ⟨rest, behind.symm⟩ with
          empty | rfl
        · cases empty
        · rw [List.append_nil] at known
          apply none _ known List.prefix_rfl
    · apply ih
      intro front back known inside
      apply apart front back known (inside.trans (List.suffix_cons _ _))

/-- What is left can be split, and each part is what is left of a part. -/
theorem Strips.split {cs first second : List Char} (h : Strips cs (first ++ second)) :
  ∃ front back, cs = front ++ back ∧ Strips front first ∧ Strips back second
  := by
  generalize whole : first ++ second = kept at h
  induction h generalizing first with
  | nil =>
    obtain ⟨rfl, rfl⟩ := List.append_eq_nil_iff.mp whole
    exact ⟨[], [], rfl, .nil, .nil⟩
  | @token token cs kept known _ ih =>
    obtain ⟨front, back, rfl, before, after⟩ := ih whole
    exact ⟨token ++ front, back, (List.append_assoc _ _ _).symm, .token known before, after⟩
  | @keep c cs kept none later ih =>
    cases first with
    | nil =>
      obtain rfl : second = c :: kept := whole
      exact ⟨[], c :: cs, rfl, .nil, .keep none later⟩
    | cons d first =>
      obtain ⟨rfl, rest⟩ := List.cons.inj whole
      obtain ⟨front, back, rfl, before, after⟩ := ih rest
      refine ⟨d :: front, back, rfl, .keep ?_ before, after⟩
      rw [afterToken?_eq_none_iff] at none ⊢
      intro token known inside
      apply none token known (inside.trans (List.prefix_append (d :: front) back))

/-- What is stripped begins with a token, or as what is left of it does. -/
theorem Strips.begins {cs kept : List Char} (h : Strips cs kept) :
  BeginsToken cs ∨ cs.head? = kept.head?
  := by
  cases h with
  | nil => exact .inr rfl
  | @token token cs kept known _ =>
    left
    use token, known
    rw [List.head?_append_of_ne_nil _ (ne_nil_of_token token known)]
  | keep _ _ => exact .inr rfl

/-- So it ends with a token, or as what is left of it does. -/
theorem Strips.ends {cs kept : List Char} (h : Strips cs kept) :
  EndsToken cs ∨ cs.getLast? = kept.getLast?
  := by
  induction h with
  | nil => exact .inr rfl
  | @token token cs kept known later ih =>
    cases last : cs.getLast? with
    | none =>
      left
      use token, known
      rw [List.getLast?_append, last, Option.none_or]
    | some c =>
      rw [EndsToken, List.getLast?_append, last, Option.some_or, ← last]
      apply ih
  | @keep c cs kept none later ih =>
    cases last : cs.getLast? with
    | none =>
      obtain rfl := List.getLast?_eq_none_iff.mp last
      obtain rfl := later.unique .nil
      exact .inr rfl
    | some d =>
      rcases ih with ⟨token, known, same⟩ | same
      · left
        use token, known
        rw [List.getLast?_cons, last, ← same, last]
        rfl
      · right
        rw [List.getLast?_cons, List.getLast?_cons, ← same, last]

/-! ### What is left -/

/-- Where a token occurs it goes, and what stands around it is stripped on its own. -/
theorem dropTokens_append_token {token : List Char} (known : token ∈ codeTokens)
    (before after : List Char) :
  dropTokens (before ++ token ++ after) = dropTokens before ++ dropTokens after
  := by
  have begins : BeginsToken (token ++ after) := by
    use token, known
    rw [List.head?_append_of_ne_nil _ (ne_nil_of_token token known)]
  rw [List.append_assoc]
  apply Strips.eq_dropTokens
  apply (strips_dropTokens before).append (.token known (strips_dropTokens after))
  apply begins.apart

theorem dropTokens_token {token : List Char} (known : token ∈ codeTokens) :
  dropTokens token = []
  := by
  have alone := dropTokens_append_token known [] []
  rw [List.nil_append, List.append_nil] at alone
  apply alone

/-- What is left has a token exactly if a part comes to that token. -/
theorem infix_dropTokens_iff {cs token : List Char} (known : token ∈ codeTokens) :
  token <:+: dropTokens cs ↔ ∃ part, part <:+: cs ∧ dropTokens part = token
  := by
  constructor
  · rintro ⟨before, after, whole⟩
    have strips := strips_dropTokens cs
    rw [← whole] at strips
    obtain ⟨front, last, rfl, strips, _⟩ := strips.split
    obtain ⟨first, part, rfl, _, strips⟩ := strips.split
    exact ⟨part, ⟨first, last, rfl⟩, strips.eq_dropTokens⟩
  · rintro ⟨part, ⟨before, after, rfl⟩, comes⟩
    have strips := strips_dropTokens part
    rw [comes] at strips
    have begins : BeginsToken part := by
      rcases strips.begins with begins | same
      · apply begins
      · use token, known
    have ends : EndsToken (before ++ part) := by
      have filled : part ≠ [] := by
        rintro rfl
        exact ne_nil_of_token token known comes.symm
      rw [EndsToken, List.getLast?_append_of_ne_nil _ filled]
      rcases strips.ends with ends | same
      · apply ends
      · use token, known
    have whole := ((strips_dropTokens before).append strips (begins.apart before)).append
      (strips_dropTokens after) (ends.apart after)
    rw [whole.eq_dropTokens]
    use dropTokens before, dropTokens after

/-- Nothing goes exactly if there is no token. -/
theorem dropTokens_eq_self_iff {cs : List Char} :
  dropTokens cs = cs ↔ ∀ token ∈ codeTokens, ¬ token <:+: cs
  := by
  constructor
  · rintro whole token known ⟨before, after, rfl⟩
    have lengths := congrArg List.length whole
    have first := (strips_dropTokens before).sublist.length_le
    have second := (strips_dropTokens after).sublist.length_le
    have filled := List.length_pos_iff.mpr (ne_nil_of_token token known)
    rw [dropTokens_append_token known] at lengths
    simp only [List.length_append] at lengths
    omega
  · intro none
    have strips := strips_dropTokens cs
    generalize dropTokens cs = kept at strips
    induction strips with
    | nil => rfl
    | @token token cs kept known _ _ =>
      exact absurd (List.prefix_append token cs).isInfix (none token known)
    | @keep c cs kept _ _ ih =>
      rw [ih]
      intro token known inside
      apply none token known (inside.trans (List.suffix_cons c cs).isInfix)

/-! ### Short codes -/

theorem mem_codeTokens {token : String} :
  token ∈ ["PUG:", "LINT_"] ↔ token.toList ∈ codeTokens
  := by
  simp only [codeTokens, List.mem_cons, List.not_mem_nil, or_false, String.toList_inj]

theorem shortCode_eq_iff {code short : String} :
  shortCode code = short ↔ dropTokens code.toList = short.toList
  := by
  rw [shortCode, ← String.toList_inj, String.toList_ofList]

/-- Every token that occurs in a code goes, and what stands before it and after it is
stripped on its own.  What is left has a token exactly if a part of the code, which is not
that token, has it for its short code.  Stripping a short code again changes nothing exactly
if it has no token. -/
theorem tokens_of_shortCode (code : String) :
  (∀ before token after : String, token ∈ ["PUG:", "LINT_"] → code = before ++ token ++ after →
      shortCode code = shortCode before ++ shortCode after)
    ∧ (∀ token ∈ ["PUG:", "LINT_"], token.toList <:+: (shortCode code).toList
      ↔ ∃ part : String, part.toList <:+: code.toList ∧ part ≠ token ∧ shortCode part = token)
    ∧ (shortCode (shortCode code) = shortCode code
      ↔ ∀ token ∈ ["PUG:", "LINT_"], ¬ token.toList <:+: (shortCode code).toList)
  := by
  refine ⟨?goes, ?left, ?again⟩
  case goes =>
    rintro before token after known rfl
    rw [shortCode_eq_iff, String.toList_append, String.toList_append, String.toList_append,
      dropTokens_append_token (mem_codeTokens.mp known)]
    simp [shortCode]
  case left =>
    intro token known
    have known := mem_codeTokens.mp known
    rw [shortCode, String.toList_ofList, infix_dropTokens_iff known]
    constructor
    · rintro ⟨part, inside, comes⟩
      refine ⟨String.ofList part, ?_, ?_, ?_⟩
      · rw [String.toList_ofList]
        apply inside
      · rintro rfl
        rw [String.toList_ofList] at known comes
        rw [dropTokens_token known] at comes
        exact ne_nil_of_token _ known comes.symm
      · rw [shortCode_eq_iff, String.toList_ofList, comes]
    · rintro ⟨part, inside, _, comes⟩
      exact ⟨part.toList, inside, shortCode_eq_iff.mp comes⟩
  case again =>
    rw [shortCode_eq_iff, dropTokens_eq_self_iff]
    simp [codeTokens]

/-- A token that stands around another one comes together when that goes, so the short code
has a token, which goes when it is stripped again. -/
theorem token_left_in_nested :
  shortCode "PUPUG:G:" = "PUG:" ∧ shortCode "PUG:" = ""
  := by
  decide

theorem tokens_of_shortCode_in_nested :
  shortCode "PUPUG:G:" = "PUG:" ∧ shortCode (shortCode "PUPUG:G:") ≠ shortCode "PUPUG:G:"
  := by
  obtain ⟨goes, left, again⟩ := tokens_of_shortCode "PUPUG:G:"
  have short : shortCode "PUPUG:G:" = "PUG:" :=
    (goes "PU" "PUG:" "G:" (by decide) rfl).trans (by decide)
  use short
  intro same
  apply again.mp same "PUG:" (by decide)
  rw [short]

end TemplateLint
