import TemplateLint.Command.Templates

/-!
# The order of templates

Paths are ordered by their components, and components by their form and then, if they are
names, byte by byte.  Two paths are on a par exactly if they are the same but for how they
are written.  So the templates that are collected come in ascending order, and none of them
twice.
-/

namespace TemplateLint

namespace Path

/-! ### Names and components -/

theorem compareNames_eq :
  compareNames = List.compareLex (compareOn UInt8.toNat)
  := by
  funext a b
  induction a generalizing b with
  | nil => cases b <;> rfl
  | cons x xs ih =>
    cases b with
    | nil => rfl
    | cons y ys =>
      rw [compareNames, ih, List.compareLex_cons_cons]
      rfl

instance : Std.LawfulEqCmp (compareOn UInt8.toNat) where
  eq_of_compare same := UInt8.toNat_inj.mp (Nat.compare_eq_eq.mp same)

instance : Std.TransCmp compareNames := by
  rw [compareNames_eq]
  infer_instance

instance : Std.LawfulEqCmp compareNames := by
  rw [compareNames_eq]
  infer_instance

/-- The name of a component, which is empty if it has none. -/
def nameOf : Component → Name
  | .name name => name
  | _ => []

/-- Components are ordered by their form, and then by name. -/
theorem compareComponents_eq :
  compareComponents = compareLex (compareOn rank) fun a b => compareNames (nameOf a) (nameOf b)
  := by
  funext a b
  cases a <;> cases b <;> rfl

instance : Std.TransCmp fun a b => compareNames (nameOf a) (nameOf b) where
  eq_swap {a b} := Std.OrientedCmp.eq_swap (a := nameOf a) (b := nameOf b)
  isLE_trans {a b c} := Std.TransCmp.isLE_trans (a := nameOf a) (b := nameOf b) (c := nameOf c)

instance : Std.TransCmp compareComponents := by
  rw [compareComponents_eq]
  infer_instance

instance : Std.LawfulEqCmp compareComponents where
  compare_self {a} := by
    cases a with
    | name name => apply Std.ReflCmp.compare_self (a := name)
    | _ => rfl
  eq_of_compare {a b} same := by
    rw [compareComponents_eq, compareLex_eq_eq] at same
    have forms : rank a = rank b := Nat.compare_eq_eq.mp same.1
    have names : nameOf a = nameOf b := Std.LawfulEqCmp.eq_of_compare same.2
    cases a <;> cases b <;> simp_all [rank, nameOf]

/-! ### Paths -/

theorem compareSequences_eq :
  compareSequences = List.compareLex compareComponents
  := by
  funext a b
  induction a generalizing b with
  | nil => cases b <;> rfl
  | cons x xs ih =>
    cases b with
    | nil => rfl
    | cons y ys => rw [compareSequences, ih, List.compareLex_cons_cons]

instance : Std.TransCmp compareSequences := by
  rw [compareSequences_eq]
  infer_instance

instance : Std.LawfulEqCmp compareSequences := by
  rw [compareSequences_eq]
  infer_instance

instance : Std.TransCmp Path.compare where
  eq_swap {p q} := Std.OrientedCmp.eq_swap (a := p.components) (b := q.components)
  isLE_trans {p q r} :=
    Std.TransCmp.isLE_trans (a := p.components) (b := q.components) (c := r.components)

/-- Paths are on a par if they are the same but for how they are written. -/
theorem compare_eq_eq {p q : Path} :
  p.compare q = .eq ↔ p.same q = true
  := by
  rw [Path.compare, Std.LawfulEqCmp.compare_eq_iff_eq, same, decide_eq_true_iff]

end Path

namespace Command

/-! ### Lists of paths -/

theorem mem_of_mem_dropRepeats {p : Path} {paths : List Path} (h : p ∈ dropRepeats paths) :
  p ∈ paths
  := by
  fun_induction dropRepeats paths with
  | case1 => apply h
  | case2 q => apply h
  | case3 q r rest same ih =>
    rcases List.mem_cons.mp (ih h) with rfl | later
    · apply List.mem_cons_self
    · apply List.mem_cons_of_mem _ (List.mem_cons_of_mem _ later)
  | case4 q r rest differ ih =>
    rcases List.mem_cons.mp h with rfl | later
    · apply List.mem_cons_self
    · apply List.mem_cons_of_mem _ (ih later)

/-- Without repeats a list in order is strictly ascending. -/
theorem ascending_dropRepeats {paths : List Path}
    (sorted : paths.Pairwise fun p q => (p.compare q).isLE) :
  (dropRepeats paths).Pairwise fun p q => p.compare q = .lt
  := by
  fun_induction dropRepeats paths with
  | case1 => apply List.Pairwise.nil
  | case2 q => apply List.pairwise_singleton
  | case3 q r rest same ih =>
    apply ih
    apply List.Pairwise.sublist _ sorted
    simp
  | case4 q r rest differ ih =>
    obtain ⟨least, sorted⟩ := List.pairwise_cons.mp sorted
    apply List.Pairwise.cons _ (ih sorted)
    intro p later
    have less : q.compare r = .lt := by
      rcases Ordering.isLE_iff_eq_lt_or_eq_eq.mp (least r List.mem_cons_self) with less | par
      · apply less
      · cases differ (Path.compare_eq_eq.mp par)
    rcases List.mem_cons.mp (mem_of_mem_dropRepeats later) with rfl | further
    · apply less
    · apply Std.TransCmp.lt_of_lt_of_isLE less
      apply (List.pairwise_cons.mp sorted).1 p further

/-- The templates that are collected come in ascending order, none of them twice. -/
theorem ascending_sorted (paths : List Path) :
  (sorted paths).Pairwise fun p q => p.compare q = .lt
  := by
  apply ascending_dropRepeats
  apply List.pairwise_mergeSort
  · intro p q r first second
    apply Std.TransCmp.isLE_trans first second
  · intro p q
    have swap : q.compare p = (p.compare q).swap := Std.OrientedCmp.eq_swap
    rw [Bool.or_eq_true, swap]
    cases p.compare q <;> simp

/-- Templates in strictly ascending order are collected as they are. -/
theorem sorted_eq_self {paths : List Path}
    (ascending : paths.Pairwise fun p q => p.compare q = .lt) :
  sorted paths = paths
  := by
  have inOrder : paths.mergeSort (fun p q => (p.compare q).isLE) = paths := by
    apply List.mergeSort_of_pairwise
    apply ascending.imp
    intro p q less
    rw [less]
    rfl
  rw [sorted, inOrder]
  clear inOrder
  fun_induction dropRepeats paths with
  | case1 => rfl
  | case2 q => rfl
  | case3 q r rest same ih =>
    have less := (List.pairwise_cons.mp ascending).1 r List.mem_cons_self
    rw [Path.compare_eq_eq.mpr same] at less
    cases less
  | case4 q r rest differ ih => rw [ih (List.pairwise_cons.mp ascending).2]

end Command

end TemplateLint
