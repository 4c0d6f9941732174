import Mathlib.Data.List.Basic
import TemplateLint.Proofs.Lint.Tokens

/-!
# Occurrences of tokens

The places where tokens stand in a code.  No two of them share a character, so it makes no
difference how the tokens are removed: from the left, from the right, or all at once.  What
is left are the characters that lie in no occurrence of a token.
-/

namespace TemplateLint

/-! ### Occurrences -/

/-- An occurrence of a token in characters: the token, and the place where it begins. -/
@[ext]
structure Occurrence (cs : List Char) where
  token : List Char
  place : Nat
  known : token ∈ codeTokens
  here : token <+: cs.drop place

theorem eq_of_head?_token :
  ∀ token ∈ codeTokens, ∀ other ∈ codeTokens, token.head? = other.head? → token = other
  := by
  simp [codeTokens]

namespace Occurrence

variable {cs ds : List Char}

/-- Whether an occurrence lies across a position. -/
def Covers (o : Occurrence cs) (position : Nat) : Prop :=
  o.place ≤ position ∧ position < o.place + o.token.length

instance (o : Occurrence cs) (position : Nat) : Decidable (o.Covers position) :=
  inferInstanceAs (Decidable (o.place ≤ position ∧ position < o.place + o.token.length))

theorem length_pos (o : Occurrence cs) :
  0 < o.token.length
  := List.length_pos_iff.mpr (ne_nil_of_token _ o.known)

/-- The characters from the place of an occurrence on are those of its token. -/
theorem getElem?_token (o : Occurrence cs) {i : Nat} (inside : i < o.token.length) :
  cs[o.place + i]? = o.token[i]?
  := by
  rw [← List.getElem?_drop, List.prefix_iff_getElem?.mp o.here i inside]
  exact (List.getElem?_eq_getElem inside).symm

/-- An occurrence that begins within another one is that one. -/
theorem eq_of_begins {o other : Occurrence cs} (later : o.place ≤ other.place)
    (reached : other.place < o.place + o.token.length) :
  o = other
  := by
  obtain ⟨i, place⟩ := Nat.exists_eq_add_of_le later
  have inside : i < o.token.length := by omega
  have first : o.token[i]? = other.token.head? := by
    rw [← o.getElem?_token inside, ← place, List.head?_eq_getElem?,
      ← other.getElem?_token other.length_pos, Nat.add_zero]
  cases i with
  | zero =>
    have token : o.token = other.token := by
      apply eq_of_head?_token _ o.known _ other.known
      rw [← first, List.head?_eq_getElem?]
    exact Occurrence.ext token place.symm
  | succ i =>
    have inTail : o.token.tail[i]? = some o.token[i + 1] := by
      rw [List.getElem?_tail, List.getElem?_eq_getElem inside]
    have absent := tail_of_token _ o.known _ (List.mem_of_getElem? inTail) _ other.known
    rw [← first, List.getElem?_eq_getElem inside] at absent
    exact absurd rfl absent

/-- Occurrences that share a position are the same. -/
theorem eq_of_covers {o other : Occurrence cs} {position : Nat} (covers : o.Covers position)
    (covers' : other.Covers position) :
  o = other
  := by
  rcases Nat.le_total o.place other.place with later | later
  · apply eq_of_begins later (Nat.lt_of_le_of_lt covers'.1 covers.2)
  · symm
    apply eq_of_begins later (Nat.lt_of_le_of_lt covers.1 covers'.2)

/-- An occurrence lies within the characters. -/
theorem end_le (o : Occurrence cs) :
  o.place + o.token.length ≤ cs.length
  := by
  have fits := o.here.length_le
  have filled := o.length_pos
  rw [List.length_drop] at fits
  omega

/-- The occurrence in characters that more characters follow. -/
def before (o : Occurrence cs) (ds : List Char) : Occurrence (cs ++ ds) where
  token := o.token
  place := o.place
  known := o.known
  here := by
    have filled := o.length_pos
    have fits := o.end_le
    rw [List.drop_append_of_le_length (by omega)]
    apply o.here.trans (List.prefix_append _ _)

/-- The occurrence in characters that come after others. -/
def after (cs : List Char) (o : Occurrence ds) : Occurrence (cs ++ ds) where
  token := o.token
  place := cs.length + o.place
  known := o.known
  here := by
    rw [List.drop_length_add_append]
    apply o.here

/-- An occurrence lies on one side of a place across which no token lies. -/
theorem eq_before_or_after (apart : Apart cs ds) (o : Occurrence (cs ++ ds)) :
  (∃ first : Occurrence cs, o = first.before ds) ∨ ∃ second : Occurrence ds, o = second.after cs
  := by
  obtain ⟨token, place, known, here⟩ := o
  rcases Nat.lt_or_ge place cs.length with early | late
  · left
    have inside : token <+: cs.drop place := by
      rw [List.drop_append_of_le_length early.le] at here
      obtain ⟨rest, whole⟩ := here
      rcases List.append_eq_append_iff.mp whole with ⟨more, same, _⟩ | ⟨back, rfl, same⟩
      · use more
        rw [same]
      · rcases apart _ back known (List.drop_suffix _ _) ⟨rest, same.symm⟩ with empty | rfl
        · exact absurd (List.drop_eq_nil_iff.mp empty) (Nat.not_le.mpr early)
        · rw [List.append_nil]
    exact ⟨⟨token, place, known, inside⟩, rfl⟩
  · right
    obtain ⟨i, rfl⟩ := Nat.exists_eq_add_of_le late
    rw [List.drop_length_add_append] at here
    exact ⟨⟨token, i, known, here⟩, rfl⟩

end Occurrence

/-! ### Covered positions -/

/-- Whether a position lies in an occurrence of a token. -/
def IsCovered (cs : List Char) (position : Nat) : Prop :=
  ∃ o : Occurrence cs, o.Covers position

theorem isCovered_iff {cs : List Char} {position : Nat} :
  IsCovered cs position
    ↔ ∃ token ∈ codeTokens, ∃ place ≤ position,
      token <+: cs.drop place ∧ position < place + token.length
  := by
  constructor
  · rintro ⟨o, reached, inside⟩
    exact ⟨o.token, o.known, o.place, reached, o.here, inside⟩
  · rintro ⟨token, known, place, reached, here, inside⟩
    exact ⟨⟨token, place, known, here⟩, reached, inside⟩

instance (cs : List Char) (position : Nat) : Decidable (IsCovered cs position) :=
  decidable_of_iff' _ isCovered_iff

/-- The characters that lie in no occurrence of a token. -/
def dropOccurrences (cs : List Char) : List Char :=
  (cs.zipIdx.filter fun entry => ¬ IsCovered cs entry.2).map Prod.fst

section

variable {cs ds : List Char} (apart : Apart cs ds)

include apart

theorem isCovered_before {position : Nat} (early : position < cs.length) :
  IsCovered (cs ++ ds) position ↔ IsCovered cs position
  := by
  constructor
  · rintro ⟨o, covers⟩
    rcases o.eq_before_or_after apart with ⟨first, rfl⟩ | ⟨second, rfl⟩
    · exact ⟨first, covers⟩
    · exact absurd (Nat.le_trans (Nat.le_add_right _ _) covers.1) (Nat.not_le.mpr early)
  · rintro ⟨o, covers⟩
    exact ⟨o.before ds, covers⟩

theorem isCovered_after (position : Nat) :
  IsCovered (cs ++ ds) (position + cs.length) ↔ IsCovered ds position
  := by
  constructor
  · rintro ⟨o, reached, inside⟩
    rcases o.eq_before_or_after apart with ⟨first, rfl⟩ | ⟨second, rfl⟩
    · have fits : (first.before ds).place + (first.before ds).token.length ≤ cs.length :=
        first.end_le
      omega
    · change cs.length + second.place ≤ _ at reached
      change _ < cs.length + second.place + second.token.length at inside
      exact ⟨second, by omega, by omega⟩
  · rintro ⟨o, reached, inside⟩
    refine ⟨o.after cs, ?_, ?_⟩
    · change cs.length + o.place ≤ _
      omega
    · change _ < cs.length + o.place + o.token.length
      omega

/-- Characters across whose meeting place no token lies are treated on their own. -/
theorem dropOccurrences_append :
  dropOccurrences (cs ++ ds) = dropOccurrences cs ++ dropOccurrences ds
  := by
  have moved : ds.zipIdx (0 + cs.length)
      = ds.zipIdx.map fun entry => (entry.1, entry.2 + cs.length) := by
    rw [Nat.zero_add, List.zipIdx_eq_map_add]
    simp only [Nat.add_comm]
  rw [dropOccurrences, List.zipIdx_append, List.filter_append, List.map_append, moved,
    List.filter_map, List.map_map]
  congr 1
  · rw [dropOccurrences]
    congr 1
    apply List.filter_congr
    intro entry present
    simp only [isCovered_before apart (List.snd_lt_of_mem_zipIdx present)]
  · rw [dropOccurrences]
    congr 1
    apply List.filter_congr
    intro entry _
    simp only [Function.comp_apply, isCovered_after apart]

end

theorem dropOccurrences_token :
  ∀ token ∈ codeTokens, dropOccurrences token = []
  := by
  decide

/-- To remove all occurrences at once is to remove the tokens from the left. -/
theorem Strips.eq_dropOccurrences {cs kept : List Char} (h : Strips cs kept) :
  dropOccurrences cs = kept
  := by
  induction h with
  | nil => rfl
  | @token token cs kept known _ ih =>
    have ends : EndsToken token := ⟨token, known, rfl⟩
    rw [dropOccurrences_append (ends.apart cs), dropOccurrences_token _ known, List.nil_append, ih]
  | @keep c cs kept none _ ih =>
    rw [afterToken?_eq_none_iff] at none
    have single : Apart [c] cs := by
      intro front back known inside later
      rcases List.suffix_cons_iff.mp inside with rfl | inside
      · exact absurd (List.cons_prefix_cons.mpr ⟨rfl, later⟩) (none _ known)
      · exact .inl (List.suffix_nil.mp inside)
    have stays : dropOccurrences [c] = [c] := by
      have uncovered : ¬ IsCovered [c] 0 := by
        rintro ⟨o, reached, _⟩
        have first : o.place = 0 := Nat.le_zero.mp reached
        have here := o.here
        rw [first] at here
        exact none _ o.known (here.trans (List.prefix_append [c] cs))
      simp [dropOccurrences, uncovered]
    rw [← List.singleton_append, dropOccurrences_append single, stays, ih, List.singleton_append]

/-! ### From the right -/

/-- The characters before a token, if the characters end with one. -/
def beforeToken? (cs : List Char) : Option (List Char) :=
  (codeTokens.find? fun token => token.isSuffixOf cs).map fun token =>
    cs.take (cs.length - token.length)

/-- Characters without the tokens among them, removed in one pass from the right; the fuel
bounds their number. -/
def dropTokensBackWithin : Nat → List Char → List Char
  | 0, cs => cs
  | fuel + 1, cs =>
    match beforeToken? cs, cs.getLast? with
    | some front, _ => dropTokensBackWithin fuel front
    | none, some c => dropTokensBackWithin fuel cs.dropLast ++ [c]
    | none, none => []

/-- Characters without the tokens among them, removed in one pass from the right. -/
def dropTokensBack (cs : List Char) : List Char := dropTokensBackWithin cs.length cs

theorem eq_append_of_beforeToken? {cs front : List Char} (h : beforeToken? cs = some front) :
  ∃ token ∈ codeTokens, cs = front ++ token
  := by
  obtain ⟨token, found, rfl⟩ := Option.map_eq_some_iff.mp h
  use token, List.mem_of_find?_eq_some found
  have ends := List.find?_some found
  obtain ⟨earlier, rfl⟩ := List.isSuffixOf_iff_suffix.mp ends
  rw [List.length_append, Nat.add_sub_cancel, List.take_left]

theorem beforeToken?_eq_none_iff {cs : List Char} :
  beforeToken? cs = none ↔ ∀ token ∈ codeTokens, ¬ token <:+ cs
  := by
  simp [beforeToken?]

/-- A last character with which no token ends stays. -/
theorem dropTokens_concat {cs : List Char} {c : Char}
    (none : ∀ token ∈ codeTokens, ¬ token <:+ cs ++ [c]) :
  dropTokens (cs ++ [c]) = dropTokens cs ++ [c]
  := by
  have apart : Apart cs [c] := by
    rintro front back known ⟨earlier, rfl⟩ inside
    rcases List.prefix_cons_iff.mp inside with rfl | ⟨rest, rfl, later⟩
    · exact .inr rfl
    · obtain rfl := List.prefix_nil.mp later
      refine absurd ⟨earlier, ?_⟩ (none _ known)
      rw [List.append_assoc]
  have single : afterToken? [c] = .none := by
    rw [afterToken?_eq_none_iff]
    intro token known inside
    rcases List.prefix_cons_iff.mp inside with rfl | ⟨rest, rfl, later⟩
    · exact ne_nil_of_token _ known rfl
    · obtain rfl := List.prefix_nil.mp later
      exact none _ known (List.suffix_append _ _)
  apply Strips.eq_dropTokens
  apply (strips_dropTokens cs).append (.keep single .nil) apart

/-- To remove the tokens from the right is to remove them from the left. -/
theorem dropTokensBackWithin_eq {fuel : Nat} {cs : List Char} (enough : cs.length ≤ fuel) :
  dropTokensBackWithin fuel cs = dropTokens cs
  := by
  induction fuel generalizing cs with
  | zero =>
    obtain rfl := List.length_eq_zero_iff.mp (Nat.le_zero.mp enough)
    rfl
  | succ fuel ih =>
    rw [dropTokensBackWithin]
    cases found : beforeToken? cs with
    | some front =>
      obtain ⟨token, known, rfl⟩ := eq_append_of_beforeToken? found
      have shorter : front.length ≤ fuel := by
        have filled := List.length_pos_iff.mpr (ne_nil_of_token _ known)
        rw [List.length_append] at enough
        omega
      have removed := dropTokens_append_token known front []
      rw [List.append_nil] at removed
      dsimp only
      rw [removed, ih shorter]
      exact (List.append_nil _).symm
    | none =>
      rcases List.eq_nil_or_concat cs with rfl | ⟨front, last, rfl⟩
      · rfl
      · rw [List.concat_eq_append] at found enough ⊢
        rw [beforeToken?_eq_none_iff] at found
        rw [List.length_append] at enough
        rw [List.getLast?_concat, List.dropLast_concat, dropTokens_concat found]
        dsimp only
        rw [ih (Nat.le_of_succ_le_succ enough)]

/-! ### Short codes -/

/-- No two occurrences of tokens in a code overlap, and the short code has the characters of
the code that lie in none of them.  To remove the tokens in one pass from the right leads to
the same short code, and a code is its own one exactly if no token occurs in it. -/
theorem shortCode_drops_occurrences (code : String) :
  (∀ (first second : Occurrence code.toList) (position : Nat),
      first.Covers position → second.Covers position → first = second)
    ∧ shortCode code = String.ofList (dropOccurrences code.toList)
    ∧ shortCode code = String.ofList (dropTokensBack code.toList)
    ∧ (shortCode code = code ↔ IsEmpty (Occurrence code.toList))
  := by
  refine ⟨?_, ?_, ?_, ?_⟩
  · intro first second position
    apply Occurrence.eq_of_covers
  · rw [shortCode, (strips_dropTokens code.toList).eq_dropOccurrences]
  · rw [shortCode, dropTokensBack, dropTokensBackWithin_eq (Nat.le_refl _)]
  · rw [shortCode_eq_iff, dropTokens_eq_self_iff]
    constructor
    · intro none
      constructor
      rintro ⟨token, place, known, here⟩
      apply none token known (here.isInfix.trans (List.drop_suffix _ _).isInfix)
    · rintro none token known ⟨front, back, whole⟩
      refine none.false ⟨token, front.length, known, ?_⟩
      rw [← whole, List.append_assoc, List.drop_left]
      apply List.prefix_append

/-- In a code in which tokens follow each other, the middle one alone lies across its second
letter, and only the last character is left. -/
theorem shortCode_drops_occurrences_in_row :
  (∀ o : Occurrence "LINT_PUG:LINT_A".toList, o.Covers 6 → o.token = "PUG:".toList ∧ o.place = 5)
    ∧ shortCode "LINT_PUG:LINT_A" = "A"
  := by
  obtain ⟨single, all, back, _⟩ := shortCode_drops_occurrences "LINT_PUG:LINT_A"
  constructor
  · intro o covers
    let middle : Occurrence "LINT_PUG:LINT_A".toList :=
      ⟨"PUG:".toList, 5, by decide, by decide⟩
    have same : o = middle := single o middle 6 covers (by decide)
    rw [same]
    exact ⟨rfl, rfl⟩
  · rw [back]
    decide

end TemplateLint
