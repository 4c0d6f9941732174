import Mathlib.Data.List.Infix
import Mathlib.Data.List.TakeWhile
import TemplateLint.Proofs.System.Listing

/-!
# Ancestors of paths

The parent of a path is a path as it is written, cut behind a component, and it has the
components of the path without the last one.  So the ancestors of a path, the nearest one
first, have all initial parts of its components, down to the root or to nothing.
-/

namespace TemplateLint

namespace Path

/-! ### Components behind the lead -/

/-- The components of a text behind the lead of a path. -/
def bodyComponents (body : List UInt8) : List Component := (segments body).filterMap component?

theorem bodyComponents_append_slash (first second : List UInt8) :
  bodyComponents (first ++ slash :: second) = bodyComponents first ++ bodyComponents second
  := by
  rw [bodyComponents, segments_append_slash, List.filterMap_append]
  rfl

theorem bodyComponents_segment {segment : Name} (whole : slash ∉ segment) :
  bodyComponents segment = (component? segment).toList
  := by
  rw [bodyComponents, segments, List.splitOn_eq_singleton whole]
  cases found : component? segment <;> simp [found]

/-- The component of the lead of a path. -/
def leadComponents (lead : List UInt8) : List Component :=
  if lead = [slash] then [.root] else if lead = [dot] then [.current] else []

theorem components_eq (p : Path) :
  p.components = leadComponents (splitLead p.bytes).1 ++ bodyComponents (splitLead p.bytes).2
  := rfl

/-! ### Leads -/

/-- A text has no lead if it begins neither with a separator nor with a current directory. -/
theorem lead_eq_nil_iff {body : List UInt8} :
  (splitLead body).1 = [] ↔ body.head? ≠ some slash ∧ body ≠ [dot] ∧ ¬ [dot, slash] <+: body
  := by
  rcases body with _ | ⟨b, _ | ⟨c, rest⟩⟩
  · simp [splitLead]
  · by_cases leads : b = slash ∨ b = dot
    · rw [splitLead, if_pos leads]
      simp only [List.cons_ne_nil, false_iff]
      rintro ⟨root, current, -⟩
      rcases leads with rfl | rfl
      · exact root rfl
      · exact current rfl
    · rw [splitLead, if_neg leads]
      rw [not_or] at leads
      simp [leads]
  · rw [splitLead]
    split_ifs with root current
    · simp [root]
    · simp [current]
    · simpa [root, eq_comm] using current

/-- Whether a text can stand behind a lead: behind the root anything can; behind a current
directory what is set off from it; and without a lead what does not begin with one. -/
def Follows (lead body : List UInt8) : Prop :=
  lead = [slash] ∨ (lead = [dot] ∧ ∀ b ∈ body.head?, b = slash)
    ∨ (lead = [] ∧ (splitLead body).1 = [])

theorem splitLead_append {lead body : List UInt8} (follows : Follows lead body) :
  splitLead (lead ++ body) = (lead, body)
  := by
  rcases follows with rfl | ⟨rfl, begins⟩ | ⟨rfl, none⟩
  · cases body with
    | nil => rfl
    | cons b rest => rfl
  · cases body with
    | nil => rfl
    | cons b rest =>
      obtain rfl : b = slash := begins b rfl
      rfl
  · rw [List.nil_append]
    fun_cases splitLead body <;> simp_all [splitLead]

/-- A path is its lead and a text that can stand behind that. -/
theorem eq_append_of_splitLead {bytes lead body : List UInt8}
    (h : splitLead bytes = (lead, body)) :
  bytes = lead ++ body ∧ Follows lead body
  := by
  have plain (none : (splitLead bytes).1 = []) (same : ([], bytes) = (lead, body)) :
      bytes = lead ++ body ∧ Follows lead body := by
    cases same
    exact ⟨rfl, .inr (.inr ⟨rfl, none⟩)⟩
  fun_cases splitLead bytes with
  | case1 => apply plain rfl h
  | case2 b leads =>
    rw [splitLead, if_pos leads] at h
    cases h
    rcases leads with rfl | rfl
    · exact ⟨rfl, .inl rfl⟩
    · exact ⟨rfl, .inr (.inl ⟨rfl, by simp⟩)⟩
  | case3 b none =>
    rw [splitLead, if_neg none] at plain h
    apply plain rfl h
  | case4 c rest =>
    cases h
    exact ⟨rfl, .inl rfl⟩
  | case5 b c rest root current =>
    rw [splitLead, if_neg root, if_pos current] at h
    cases h
    obtain ⟨rfl, rfl⟩ := current
    exact ⟨rfl, .inr (.inl ⟨rfl, by simp⟩)⟩
  | case6 b c rest root current =>
    rw [splitLead, if_neg root, if_neg current] at plain h
    apply plain rfl h

/-- What can stand behind a lead can be cut, unless a lead comes of it. -/
theorem Follows.of_prefix {lead body front : List UInt8} (follows : Follows lead body)
    (inside : front <+: body) (whole : front ≠ [dot]) :
  Follows lead front
  := by
  obtain ⟨rest, rfl⟩ := inside
  rcases follows with root | ⟨current, begins⟩ | ⟨none, plain⟩
  · exact .inl root
  · right
    left
    use current
    intro b first
    apply begins
    rw [List.head?_append, first]
    rfl
  · right
    right
    use none
    rw [lead_eq_nil_iff] at plain ⊢
    obtain ⟨root, -, current⟩ := plain
    refine ⟨?_, whole, ?_⟩
    · intro first
      rw [List.head?_append, first] at root
      exact root rfl
    · intro inside
      apply current (inside.trans (List.prefix_append _ _))

/-! ### Trimmed ends -/

/-- What is trimmed at the end of a text are no components. -/
theorem bodyComponents_trimEnd (reversed : List UInt8) :
  bodyComponents (trimEnd reversed).reverse = bodyComponents reversed.reverse
  := by
  have empty : bodyComponents [] = [] := rfl
  have current : bodyComponents [dot] = [] := rfl
  fun_induction trimEnd reversed with
  | case1 => rfl
  | case2 b meaningless => rcases meaningless with rfl | rfl <;> rfl
  | case3 => rfl
  | case4 c rest ih =>
    rw [ih, List.reverse_cons (a := slash), bodyComponents_append_slash, empty, List.append_nil]
  | case5 b c rest _ h ih =>
    obtain ⟨rfl, rfl⟩ := h
    have written : (dot :: slash :: rest).reverse = rest.reverse ++ slash :: [dot] := by simp
    rw [ih, written, bodyComponents_append_slash, current, List.append_nil]
  | case6 => rfl

theorem trimEnd_suffix (reversed : List UInt8) :
  trimEnd reversed <:+ reversed
  := by
  fun_induction trimEnd reversed with
  | case1 => apply List.suffix_rfl
  | case2 => apply List.nil_suffix
  | case3 => apply List.suffix_rfl
  | case4 c rest ih => apply ih.trans (List.suffix_cons _ _)
  | case5 b c rest _ _ ih =>
    apply ih.trans ((List.suffix_cons _ _).trans (List.suffix_cons _ _))
  | case6 => apply List.suffix_rfl

/-- A reversed text that is trimmed begins neither with a separator nor with a segment that is
a current directory. -/
theorem trimEnd_ne (reversed rest : List UInt8) :
  trimEnd reversed ≠ slash :: rest ∧ trimEnd reversed ≠ [dot]
    ∧ trimEnd reversed ≠ dot :: slash :: rest
  := by
  fun_induction trimEnd reversed with
  | case1 => simp
  | case2 => simp
  | case3 b meaningful =>
    rw [not_or] at meaningful
    simp [meaningful]
  | case4 c rest ih => apply ih
  | case5 _ _ _ _ _ ih => apply ih
  | case6 b c more root current =>
    refine ⟨?_, by simp, ?_⟩
    · intro same
      exact root (List.cons.inj same).1
    · rintro ⟨⟩
      exact current ⟨rfl, rfl⟩

theorem dropSegment_of_notMem {segment : Name} (whole : slash ∉ segment) :
  dropSegment segment = []
  := by
  have dropped : segment.dropWhile (· ≠ slash) = [] := by
    rw [List.dropWhile_eq_nil_iff]
    intro b present
    apply decide_eq_true
    rintro rfl
    exact whole present
  rw [dropSegment, dropped]
  rfl

theorem dropSegment_append {segment : Name} (whole : slash ∉ segment) (rest : List UInt8) :
  dropSegment (segment ++ slash :: rest) = rest
  := by
  have dropped : (segment ++ slash :: rest).dropWhile (· ≠ slash) = slash :: rest := by
    rw [List.dropWhile_append_of_pos, List.dropWhile_cons_of_neg (by simp)]
    intro b present
    apply decide_eq_true
    rintro rfl
    exact whole present
  rw [dropSegment, dropped]
  rfl

/-- A trimmed text ends with a component, and without its last segment it has the others. -/
theorem bodyComponents_dropSegment {reversed last : List UInt8} (h : trimEnd reversed = last)
    (filled : last ≠ []) :
  ∃ component,
    bodyComponents last.reverse = bodyComponents (dropSegment last).reverse ++ [component]
  := by
  have meaningful (segment : Name) (notEmpty : segment ≠ []) (notCurrent : segment ≠ [dot]) :
      ∃ component, component? segment.reverse = some component := by
    have nothing : ¬ (segment.reverse = [] ∨ segment.reverse = [dot]) := by
      rw [List.reverse_eq_nil_iff, List.reverse_eq_iff]
      exact not_or.mpr ⟨notEmpty, notCurrent⟩
    rw [component?, if_neg nothing]
    split_ifs
    · exact ⟨_, rfl⟩
    · exact ⟨_, rfl⟩
  by_cases present : slash ∈ last
  · obtain ⟨segment, rest, rfl, whole⟩ := List.eq_append_cons_of_mem present
    obtain ⟨notSlash, -, notCurrent⟩ := trimEnd_ne reversed rest
    obtain ⟨component, named⟩ := meaningful segment (by rintro rfl; exact notSlash h)
      (by rintro rfl; exact notCurrent h)
    use component
    rw [List.reverse_append, List.reverse_cons, List.append_assoc,
      List.singleton_append, bodyComponents_append_slash, dropSegment_append whole,
      bodyComponents_segment (mt List.mem_reverse.mp whole), named]
    rfl
  · obtain ⟨-, notCurrent, -⟩ := trimEnd_ne reversed []
    obtain ⟨component, named⟩ := meaningful last filled (by rintro rfl; exact notCurrent h)
    use component
    rw [dropSegment_of_notMem present, bodyComponents_segment (mt List.mem_reverse.mp present),
      named]
    rfl

theorem bodyComponents_eq_nil {body : List UInt8} (trimmed : trimEnd body.reverse = []) :
  bodyComponents body = []
  := by
  have kept := bodyComponents_trimEnd body.reverse
  rw [trimmed, List.reverse_reverse] at kept
  exact kept.symm

/-- A text that is trimmed, cut behind its last component but one, and trimmed again is a first
part of the text, and it has the components of the text without the last one. -/
theorem bodyComponents_of_cut {body last front : List UInt8} (trimmed : trimEnd body.reverse = last)
    (filled : last ≠ []) (cut : (trimEnd (dropSegment last)).reverse = front) :
  front <+: body ∧ front ≠ [dot]
    ∧ ∃ component, bodyComponents body = bodyComponents front ++ [component]
  := by
  refine ⟨?_, ?_, ?_⟩
  · rw [← cut, ← List.reverse_suffix, List.reverse_reverse]
    apply (trimEnd_suffix _).trans
    apply ((List.drop_suffix _ _).trans (List.dropWhile_suffix _)).trans
    rw [← trimmed]
    apply trimEnd_suffix
  · rw [← cut, Ne, List.reverse_eq_iff]
    exact (trimEnd_ne (dropSegment last) []).2.1
  · obtain ⟨component, split⟩ := bodyComponents_dropSegment trimmed filled
    use component
    rw [← cut, bodyComponents_trimEnd, ← split, ← trimmed, bodyComponents_trimEnd,
      List.reverse_reverse]

/-! ### Parents -/

theorem isAbsolute_iff {p : Path} :
  p.isAbsolute = true ↔ (splitLead p.bytes).1 = [slash]
  := by
  obtain ⟨_ | ⟨b, _ | ⟨c, rest⟩⟩⟩ := p
  · simp [isAbsolute, splitLead]
  · by_cases root : b = slash
    · simp [isAbsolute, splitLead, root]
    · rw [splitLead]
      split_ifs <;> simp [isAbsolute, root]
  · by_cases root : b = slash
    · simp [isAbsolute, splitLead, root]
    · rw [splitLead, if_neg root]
      split_ifs with current
      · simp [isAbsolute, current]
      · simp [isAbsolute, root]

/-- The parent of a path is written as the first part of the path.  It has the components of
the path without the last one, and it is absolute exactly if the path is. -/
theorem components_of_parent? {p parent : Path} (h : p.parent? = some parent) :
  parent.bytes <+: p.bytes ∧ parent.isAbsolute = p.isAbsolute
    ∧ ∃ last, p.components = parent.components ++ [last]
  := by
  rcases cut : splitLead p.bytes with ⟨lead, body⟩
  obtain ⟨written, follows⟩ := eq_append_of_splitLead cut
  rw [parent?] at h
  simp only [cut] at h
  cases trimmed : trimEnd body.reverse with
  | nil =>
    simp only [trimmed] at h
    split_ifs at h with current
    obtain rfl := Option.some.inj h
    refine ⟨List.nil_prefix, ?_, .current, ?_⟩
    · rw [Bool.eq_iff_iff, isAbsolute_iff, isAbsolute_iff, cut, current]
      apply iff_of_false
      · decide
      · dsimp only
        decide
    · rw [components_eq, cut, bodyComponents_eq_nil trimmed, current]
      rfl
  | cons b rest =>
    simp only [trimmed] at h
    obtain rfl := Option.some.inj h
    generalize frontEq : (trimEnd (dropSegment (b :: rest))).reverse = front
    obtain ⟨inside, notCurrent, last, components⟩ :=
      bodyComponents_of_cut trimmed (List.cons_ne_nil b rest) frontEq
    have cutParent := splitLead_append (follows.of_prefix inside notCurrent)
    refine ⟨?_, ?_, last, ?_⟩
    · rw [written]
      exact (List.prefix_append_right_inj lead).mpr inside
    · rw [Bool.eq_iff_iff, isAbsolute_iff, isAbsolute_iff, cut, cutParent]
    · rw [components_eq, components_eq, cut, cutParent, components, List.append_assoc]

/-- A path without a parent has no components, or only the root. -/
theorem components_of_no_parent {p : Path} (h : p.parent? = none) :
  p.components = if p.isAbsolute then [.root] else []
  := by
  rcases cut : splitLead p.bytes with ⟨lead, body⟩
  obtain ⟨-, follows⟩ := eq_append_of_splitLead cut
  rw [parent?] at h
  simp only [cut] at h
  cases trimmed : trimEnd body.reverse with
  | cons b rest =>
    simp only [trimmed] at h
    cases h
  | nil =>
    simp only [trimmed] at h
    split_ifs at h with current
    have absolute := isAbsolute_iff (p := p)
    rw [cut] at absolute
    rw [components_eq, cut, bodyComponents_eq_nil trimmed, List.append_nil]
    rcases follows with rfl | ⟨rfl, -⟩ | ⟨rfl, -⟩
    · rw [absolute.mpr rfl]
      rfl
    · exact absurd rfl current
    · have relative : ¬ p.isAbsolute = true := by
        rw [absolute]
        simp
      rw [if_neg relative]
      rfl

/-! ### Ancestors -/

theorem length_parent? {p parent : Path} (h : p.parent? = some parent) :
  parent.bytes.length < p.bytes.length
  := by
  obtain ⟨inside, -, last, components⟩ := components_of_parent? h
  apply Nat.lt_of_le_of_ne inside.length_le
  intro same
  have whole : parent = p := congrArg Path.mk (inside.eq_of_length same)
  rw [whole] at components
  simp at components

theorem ancestorsWithin_eq {fuel other : Nat} {p : Path} (enough : p.bytes.length < fuel)
    (enough' : p.bytes.length < other) :
  ancestorsWithin fuel p = ancestorsWithin other p
  := by
  induction fuel generalizing other p with
  | zero => cases enough
  | succ fuel ih =>
    cases other with
    | zero => cases enough'
    | succ other =>
      rw [ancestorsWithin, ancestorsWithin]
      cases found : p.parent? with
      | none => rfl
      | some parent =>
        have shorter := length_parent? found
        have rest : ancestorsWithin fuel parent = ancestorsWithin other parent :=
          ih (by omega) (by omega)
        dsimp only
        rw [rest]

/-- The ancestors of a path are the path itself and the ancestors of its parent. -/
theorem ancestors_eq (p : Path) :
  p.ancestors
    = match p.parent? with
      | some parent => p :: parent.ancestors
      | none => [p]
  := by
  rw [ancestors, ancestorsWithin]
  cases found : p.parent? with
  | none => rfl
  | some parent =>
    have shorter := length_parent? found
    dsimp only
    rw [ancestors, ancestorsWithin_eq shorter (Nat.lt_succ_self _)]

theorem head?_ancestors (p : Path) :
  p.ancestors.head? = some p
  := by
  rw [ancestors_eq]
  cases p.parent? with
  | none => rfl
  | some parent => rfl

/-- The ancestors of a path have all initial parts of its components, the longest one first,
but for the empty one if the path is absolute. -/
theorem components_ancestors (p : Path) :
  p.ancestors.map components
    = (p.components.inits.drop (if p.isAbsolute then 1 else 0)).reverse
  := by
  induction size : p.bytes.length using Nat.strongRecOn generalizing p with
  | ind n shorter =>
    rw [ancestors_eq]
    cases found : p.parent? with
    | none =>
      rw [List.map_singleton, components_of_no_parent found]
      cases p.isAbsolute with
      | false => rfl
      | true => rfl
    | some parent =>
      obtain ⟨-, absolute, last, split⟩ := components_of_parent? found
      have ih := shorter _ (size ▸ length_parent? found) parent rfl
      have inits : (parent.components ++ [last]).inits
          = parent.components.inits ++ [parent.components ++ [last]] := List.inits_append _ _
      have filled : (if p.isAbsolute then 1 else 0) ≤ parent.components.inits.length := by
        rw [List.length_inits]
        split <;> omega
      rw [List.map_cons, ih, split, inits, absolute, List.drop_append_of_le_length filled,
        List.reverse_append]
      rfl

end Path

end TemplateLint
