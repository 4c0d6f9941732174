import TemplateLint.Config.Resolution
import TemplateLint.Proofs.System.Ancestors

/-!
# The extent of the search

Which directories are searched for the options of a directory.  If the directory lies in the
workspace, these are the ancestors that lie in it too, so that nothing above the workspace is
searched; and otherwise they are all ancestors.
-/

namespace TemplateLint

theorem Path.startsWith_iff {p q : Path} :
  p.startsWith q = true ↔ q.components <+: p.components
  := List.isPrefixOf_iff_prefix

theorem Path.same_iff {p q : Path} :
  p.same q = true ↔ p.components = q.components
  := decide_eq_true_iff

/-- A path has no more components than its descendants, and begins as they do. -/
theorem Path.components_prefix_of_mem_ancestors {p ancestor : Path} (h : ancestor ∈ p.ancestors) :
  ancestor.components <+: p.components
  := by
  have listed : ancestor.components ∈ p.ancestors.map components := List.mem_map_of_mem h
  rw [components_ancestors, List.mem_reverse] at listed
  exact (List.mem_inits _ _).mp (List.mem_of_mem_drop listed)

namespace Resolver

/-- What is listed up to the first element with a property ends with such an element, if there
is one. -/
theorem getLast?_throughFirst {holds : α → Bool} {as : List α} {a : α} (present : a ∈ as)
    (found : holds a) :
  ∃ last, (throughFirst holds as).getLast? = some last ∧ holds last
  := by
  induction as with
  | nil => cases present
  | cons b rest ih =>
    rw [throughFirst]
    split
    · rename_i first
      exact ⟨b, rfl, first⟩
    · rename_i other
      rcases List.mem_cons.mp present with rfl | later
      · exact absurd found other
      · obtain ⟨last, ends, found⟩ := ih later
        use last
        rw [List.getLast?_cons, ends]
        exact ⟨rfl, found⟩

theorem throughFirst_of_none {holds : α → Bool} {as : List α} (none : ∀ a ∈ as, holds a = false) :
  throughFirst holds as = as
  := by
  induction as with
  | nil => rfl
  | cons a rest ih =>
    obtain ⟨first, others⟩ := List.forall_mem_cons.mp none
    rw [throughFirst, first, if_neg Bool.false_ne_true, ih others]

/-- Of the ancestors of a path in the workspace, those up to the workspace are those that lie
in it. -/
theorem throughFirst_ancestors {workspace p : Path} (inside : p.startsWith workspace = true) :
  throughFirst (fun d => d.same workspace) p.ancestors
    = p.ancestors.filter fun d => d.startsWith workspace
  := by
  induction size : p.bytes.length using Nat.strongRecOn generalizing p with
  | ind n shorter =>
    rw [Path.ancestors_eq]
    cases found : p.parent? with
    | none =>
      dsimp only
      rw [throughFirst, throughFirst, ite_self, List.filter_singleton, inside]
      rfl
    | some parent =>
      obtain ⟨-, -, last, split⟩ := Path.components_of_parent? found
      dsimp only
      rw [throughFirst, List.filter_cons, if_pos inside]
      by_cases reached : p.same workspace = true
      · have above : ∀ d ∈ parent.ancestors, ¬ d.startsWith workspace = true := by
          intro d listed within
          have fewer := (Path.components_prefix_of_mem_ancestors listed).length_le
          have enough := (Path.startsWith_iff.mp within).length_le
          rw [← Path.same_iff.mp reached, split, List.length_append,
            List.length_singleton] at enough
          omega
        rw [if_pos reached, List.filter_eq_nil_iff.mpr above]
      · have within : parent.startsWith workspace = true := by
          rw [Path.startsWith_iff] at inside ⊢
          rw [split, List.prefix_concat_iff, ← split] at inside
          rcases inside with whole | inside
          · exact absurd (Path.same_iff.mpr whole.symm) reached
          · apply inside
        rw [if_neg reached, shorter _ (size ▸ Path.length_parent? found) within rfl]

theorem directories_inside {workspace directory : Path}
    (inside : directory.startsWith workspace = true) :
  directories workspace directory = throughFirst (fun d => d.same workspace) directory.ancestors
  := by
  simp only [directories, inside, Bool.true_and]

/-- The directories that are searched are, if the directory starts with the workspace, its
ancestors that do so too, and otherwise all its ancestors.  These begin with the directory as
it is written and have all initial parts of its components, the longest one first.  If the
workspace is an ancestor of a directory that starts with it, the search ends with the
workspace; and it never comes to a directory above the workspace. -/
theorem directories_extent (workspace directory : Path) :
  directories workspace directory
      = (if directory.startsWith workspace then
          directory.ancestors.filter fun d => d.startsWith workspace
        else directory.ancestors)
    ∧ directory.ancestors.head? = some directory
    ∧ directory.ancestors.map Path.components
      = (directory.components.inits.drop (if directory.isAbsolute then 1 else 0)).reverse
    ∧ (directory.startsWith workspace →
      ((∃ d ∈ directory.ancestors, d.same workspace) →
        ∃ last, (directories workspace directory).getLast? = some last ∧ last.same workspace)
      ∧ ∀ d ∈ directories workspace directory, workspace.startsWith d → d.same workspace)
  := by
  have extent : directories workspace directory
      = if directory.startsWith workspace then
          directory.ancestors.filter fun d => d.startsWith workspace
        else directory.ancestors := by
    split
    · rename_i inside
      rw [directories_inside inside, throughFirst_ancestors inside]
    · rename_i outside
      rw [directories]
      apply throughFirst_of_none
      intro d _
      rw [Bool.eq_false_iff.mpr outside, Bool.false_and]
  refine ⟨extent, directory.head?_ancestors, directory.components_ancestors, ?_⟩
  intro inside
  constructor
  · rintro ⟨d, listed, reached⟩
    rw [directories_inside inside]
    apply getLast?_throughFirst listed reached
  · intro d listed above
    rw [extent, if_pos inside, List.mem_filter] at listed
    rw [Path.same_iff]
    apply List.IsPrefix.eq_of_length_le (Path.startsWith_iff.mp above)
    exact (Path.startsWith_iff.mp listed.2).length_le

/-- A directory whose path has separators, dots and a step back within a workspace that is
written with a dot. -/
theorem directories_extent_in_dotted :
  let workspace := Path.ofText "/w/."
  let directory := Path.ofText "/w//a/../b/"
  directories workspace directory = ["/w//a/../b/", "/w//a/..", "/w//a", "/w"].map Path.ofText
    ∧ (∃ last, (directories workspace directory).getLast? = some last ∧ last.same workspace)
    ∧ (Path.ofText "/w").same workspace
  := by
  intro workspace directory
  obtain ⟨extent, -, -, inWorkspace⟩ := directories_extent workspace directory
  have inside : directory.startsWith workspace := by decide +kernel
  have listed : directories workspace directory
      = ["/w//a/../b/", "/w//a/..", "/w//a", "/w"].map Path.ofText := by
    rw [extent, if_pos inside]
    decide +kernel
  obtain ⟨ends, within⟩ := inWorkspace inside
  refine ⟨listed, ends ⟨Path.ofText "/w", ?_, ?_⟩, within _ ?_ ?_⟩
  · decide +kernel
  · decide +kernel
  · rw [listed]
    decide
  · decide +kernel

end Resolver

end TemplateLint
