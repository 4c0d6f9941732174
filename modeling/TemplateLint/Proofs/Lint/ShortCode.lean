import TemplateLint.Lint.Diagnostic
import TemplateLint.Proofs.Text.Lines

/-!
# Short codes

The pass from the left that leaves the tokens out of a code, as a relation.  What occurs in
no token is never left out, so a short code has a line break exactly if its code has one.
-/

namespace TemplateLint

/-- Characters, and what is left of them when tokens are left out from the left: where the
characters start with a token, the whole token goes, and elsewhere the first character
stays. -/
inductive Strips : List Char → List Char → Prop where
  | nil : Strips [] []
  | token {token cs kept : List Char} : token ∈ codeTokens → Strips cs kept →
    Strips (token ++ cs) kept
  | keep {c : Char} {cs kept : List Char} : afterToken? (c :: cs) = none → Strips cs kept →
    Strips (c :: cs) (c :: kept)

/-- Characters that start with a token are the token and what comes after it. -/
theorem eq_append_of_afterToken? {cs rest : List Char} (h : afterToken? cs = some rest) :
  ∃ token ∈ codeTokens, cs = token ++ rest
  := by
  obtain ⟨token, found, rfl⟩ := Option.map_eq_some_iff.mp h
  use token, List.mem_of_find?_eq_some found
  have starts := List.find?_some found
  obtain ⟨later, rfl⟩ := List.isPrefixOf_iff_prefix.mp starts
  rw [List.drop_left]

theorem strips_dropTokensWithin {fuel : Nat} {cs : List Char} (enough : cs.length ≤ fuel) :
  Strips cs (dropTokensWithin fuel cs)
  := by
  induction fuel generalizing cs with
  | zero =>
    obtain rfl : cs = [] := List.length_eq_zero_iff.mp (Nat.le_zero.mp enough)
    apply Strips.nil
  | succ fuel ih =>
    cases cs with
    | nil => apply Strips.nil
    | cons c cs =>
      rw [List.length_cons, Nat.add_le_add_iff_right] at enough
      rw [dropTokensWithin]
      cases after : afterToken? (c :: cs) with
      | none => apply Strips.keep after (ih enough)
      | some rest =>
        obtain ⟨token, known, same⟩ := eq_append_of_afterToken? after
        have filled : ∀ token ∈ codeTokens, 0 < token.length := by decide
        have shorter : rest.length ≤ fuel := by
          have lengths := congrArg List.length same
          have positive := filled token known
          simp only [List.length_cons, List.length_append] at lengths
          omega
        rw [same]
        apply Strips.token known (ih shorter)

theorem strips_dropTokens (cs : List Char) :
  Strips cs (dropTokens cs)
  := strips_dropTokensWithin (Nat.le_refl _)

/-- A character that occurs in no token stays wherever it is. -/
theorem Strips.mem_iff {cs kept : List Char} (h : Strips cs kept) {c : Char}
    (foreign : ∀ token ∈ codeTokens, c ∉ token) :
  c ∈ kept ↔ c ∈ cs
  := by
  induction h with
  | nil => rfl
  | token known _ ih => simp [ih, foreign _ known]
  | keep _ _ ih => simp [ih]

/-- A short code has a line break exactly if its code has one. -/
theorem unbroken_shortCode {code : String} :
  Text.Unbroken (shortCode code) ↔ Text.Unbroken code
  := by
  have foreign : ∀ token ∈ codeTokens, ∀ c ∈ token, Text.isBreak c = false := by
    simp [codeTokens, Text.isBreak]
  have same (c : Char) (breaks : Text.isBreak c = true) :
      c ∈ dropTokens code.toList ↔ c ∈ code.toList := by
    apply (strips_dropTokens code.toList).mem_iff
    intro token known present
    rw [foreign token known c present] at breaks
    cases breaks
  simp only [Text.Unbroken, shortCode, String.toList_ofList, ← Bool.not_eq_true]
  constructor
  · intro whole c present breaks
    apply whole c ((same c breaks).mpr present) breaks
  · intro whole c present breaks
    apply whole c ((same c breaks).mp present) breaks

end TemplateLint
