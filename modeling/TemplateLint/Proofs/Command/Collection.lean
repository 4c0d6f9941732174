import Mathlib.Data.List.Sort
import TemplateLint.Proofs.Command.FrontEnds
import TemplateLint.Proofs.Command.Order
import TemplateLint.Proofs.System.Locations

/-!
# Collections of templates

What paths collect depends only on where they lead.  Absolute paths without links that have
the same components are equal, so to drop repeats is to drop nothing but copies: the templates
that several paths collect are, in ascending order, those that one of them collects.
-/

namespace TemplateLint

/-- The path that names lead to from a directory. -/
def Path.within (directory : Path) (names : Location) : Path :=
  names.foldl (fun path name => path.join ⟨name⟩) directory

theorem Path.within_ofNames {location names : Location}
    (proper : ∀ name ∈ location, isEntryName name) (entries : ∀ name ∈ names, isEntryName name) :
  (ofNames location).within names = ofNames (location ++ names)
  := by
  induction names generalizing location with
  | nil => rw [within, List.foldl_nil, List.append_nil]
  | cons name rest ih =>
    obtain ⟨first, others⟩ := List.forall_mem_cons.mp entries
    have extended : ∀ n ∈ location ++ [name], isEntryName n := by
      rw [List.forall_mem_append, List.forall_mem_singleton]
      exact ⟨proper, first⟩
    have onward := ih extended others
    rw [List.append_assoc, List.singleton_append] at onward
    rw [within, List.foldl_cons, join_ofNames proper first]
    apply onward

namespace Command

/-! ### Templates below a path -/

theorem mem_templatesBelow {file directory : Path} {entries : List (Name × Outline)} :
  file ∈ templatesBelow directory entries
    ↔ ∃ name inner, (name, inner) ∈ entries ∧ isSkipped name = false
      ∧ file ∈ templatesAt (directory.join ⟨name⟩) inner
  := by
  induction entries with
  | nil => simp [templatesBelow]
  | cons entry rest ih =>
    obtain ⟨name, inner⟩ := entry
    rw [templatesBelow, List.mem_append, ih]
    constructor
    · rintro (first | ⟨n, i, listed, kept⟩)
      · split at first
        · cases first
        · rename_i kept
          exact ⟨name, inner, List.mem_cons_self, eq_false_of_ne_true kept, first⟩
      · exact ⟨n, i, List.mem_cons_of_mem _ listed, kept⟩
    · rintro ⟨n, i, listed, kept, found⟩
      rcases List.mem_cons.mp listed with same | listed
      · cases same
        rw [kept]
        exact .inl found
      · exact .inr ⟨n, i, listed, kept, found⟩

/-- The templates at a path are the files with the extension of a template that are reached
through names which are not passed over. -/
theorem mem_templatesAt {file path : Path} (outline : Outline) :
  file ∈ templatesAt path outline
    ↔ ∃ names, outline.Shows names .file ∧ (∀ name ∈ names, isSkipped name = false)
      ∧ file = path.within names ∧ Template.isPath file
  := by
  cases outline with
  | file =>
    rw [templatesAt]
    constructor
    · intro found
      split at found
      · rename_i template
        obtain rfl := List.mem_singleton.mp found
        exact ⟨[], .self _, by simp, rfl, template⟩
      · cases found
    · rintro ⟨_, ⟨⟩, _, rfl, template⟩
      rw [if_pos template]
      apply List.mem_singleton_self
  | link | special =>
    rw [templatesAt]
    constructor
    · rintro ⟨⟩
    · rintro ⟨_, ⟨⟩, _⟩
  | directory entries =>
    rw [templatesAt, mem_templatesBelow]
    constructor
    · rintro ⟨name, inner, listed, kept, found⟩
      obtain ⟨names, shows, passed, rfl, template⟩ := (mem_templatesAt inner).mp found
      exact ⟨name :: names, .entry listed shows, List.forall_mem_cons.mpr ⟨kept, passed⟩, rfl,
        template⟩
    · rintro ⟨names, ⟨⟩ | ⟨listed, shows⟩, passed, rfl, template⟩
      obtain ⟨kept, passed⟩ := List.forall_mem_cons.mp passed
      exact ⟨_, _, listed, kept, (mem_templatesAt _).mpr ⟨_, shows, passed, rfl, template⟩⟩
termination_by sizeOf outline
decreasing_by
  all_goals
    have smaller := List.sizeOf_lt_of_mem listed
    simp_wf
    simp at smaller
    omega

/-- The templates in a directory are the templates below it. -/
theorem mem_templatesIn {file directory : Path} {outline : Outline} :
  file ∈ templatesIn directory outline
    ↔ ∃ names, names ≠ [] ∧ outline.Shows names .file ∧ (∀ name ∈ names, isSkipped name = false)
      ∧ file = directory.within names ∧ Template.isPath file
  := by
  cases outline with
  | directory entries =>
    change file ∈ templatesAt directory (.directory entries) ↔ _
    rw [mem_templatesAt]
    refine exists_congr fun names => ⟨fun h => ⟨?_, h⟩, fun h => h.2⟩
    rintro rfl
    cases h.1
  | _ =>
    constructor
    · rintro ⟨⟩
    · rintro ⟨_, below, shows, _⟩
      cases shows <;> cases below rfl

theorem run_templatesOf (answer : (r : Request) → r.Answer) (root : Path) :
  (templatesOf root).run answer
    = if (isFile root).run answer then [root]
      else
        match answer (.outline root) with
        | .ok outline => templatesIn root outline
        | .error _ => []
  := by
  rw [templatesOf, Program.run_bind]
  split
  · rfl
  · rw [Program.run_bind, Program.run_request]
    cases answer (.outline root) <;> rfl

/-! ### Paths without links -/

/-- Whether a path is the absolute path of a location with the names of entries. -/
def IsPlain (path : Path) : Prop :=
  ∃ location, path = Path.ofNames location ∧ ∀ name ∈ location, Path.isEntryName name

theorem IsPlain.eq_of_same {p q : Path} (first : IsPlain p) (second : IsPlain q)
    (same : p.same q) :
  p = q
  := by
  obtain ⟨_, rfl, properFirst⟩ := first
  obtain ⟨_, rfl, properSecond⟩ := second
  rw [Path.eq_of_same_ofNames properFirst properSecond same]

/-- Answers with proper paths and names: what a path is resolved to is absolute and without
links, and what is shown below a directory has the names of entries. -/
structure Orderly (answer : (r : Request) → r.Answer) : Prop where
  canonical {path target : Path} : answer (.canonical path) = .ok target → IsPlain target
  outline {path : Path} {outline shown : Outline} {names : Location} :
    answer (.outline path) = .ok outline → outline.Shows names shown →
      ∀ name ∈ names, Path.isEntryName name

/-- A machine with a sound tree gives proper paths and names. -/
theorem orderly_answer {m : Machine} (sound : m.tree.isSound) :
  Orderly m.answer
  := by
  constructor
  case canonical =>
    intro path target resolved
    obtain ⟨location, located, rfl⟩ := Machine.canonical_eq_ok resolved
    obtain ⟨node, present, _⟩ := Node.stands_of_locate located
    exact ⟨location, rfl, Node.proper_of_at? sound present⟩
  case outline =>
    intro path outline shown names outlined shows
    obtain ⟨node, found, rfl⟩ := Machine.outline_eq_ok outlined
    obtain ⟨location, _, present⟩ := Machine.node_eq_ok found
    obtain ⟨inner, below, _⟩ :=
      (Node.shows_outline_iff (Node.sound_of_at? sound present).2).mp shows
    have deeper : m.tree.at? (location ++ names) = some inner := by
      rw [Node.at?_append, present]
      apply below
    intro name member
    apply Node.proper_of_at? sound deeper name (List.mem_append_right _ member)

namespace Orderly

variable {answer : (r : Request) → r.Answer}

/-- The templates of a path without links have paths without links. -/
theorem isPlain_of_mem (h : Orderly answer) {root file : Path} (plain : IsPlain root)
    (found : file ∈ (templatesOf root).run answer) :
  IsPlain file
  := by
  rw [run_templatesOf] at found
  split at found
  · obtain rfl := List.mem_singleton.mp found
    apply plain
  · cases outlined : answer (.outline root) with
    | error fault =>
      rw [outlined] at found
      cases found
    | ok outline =>
      rw [outlined] at found
      obtain ⟨names, _, shows, _, rfl, _⟩ := mem_templatesIn.mp found
      obtain ⟨location, rfl, proper⟩ := plain
      have entries := h.outline outlined shows
      rw [Path.within_ofNames proper entries]
      refine ⟨_, rfl, ?_⟩
      rw [List.forall_mem_append]
      exact ⟨proper, entries⟩

end Orderly

/-! ### What paths collect -/

/-- Dropping repeats keeps a copy of everything, if what is the same is equal. -/
theorem mem_dropRepeats {file : Path} {files : List Path}
    (alike : ∀ p ∈ files, ∀ q ∈ files, p.same q → p = q) :
  file ∈ dropRepeats files ↔ file ∈ files
  := by
  refine ⟨mem_of_mem_dropRepeats, fun present => ?_⟩
  fun_induction dropRepeats files with
  | case1 => apply present
  | case2 => apply present
  | case3 p q rest same ih =>
    obtain rfl : p = q := alike p (by simp) q (by simp) same
    apply ih
    · intro r member s other
      apply alike r (List.mem_cons_of_mem _ member) s (List.mem_cons_of_mem _ other)
    · simpa using present
  | case4 p q rest differ ih =>
    rcases List.mem_cons.mp present with rfl | later
    · apply List.mem_cons_self
    · apply List.mem_cons_of_mem
      apply ih _ later
      intro r member s other
      apply alike r (List.mem_cons_of_mem _ member) s (List.mem_cons_of_mem _ other)

theorem mem_sorted {file : Path} {files : List Path} (plain : ∀ p ∈ files, IsPlain p) :
  file ∈ sorted files ↔ file ∈ files
  := by
  rw [sorted, mem_dropRepeats, List.mem_mergeSort]
  intro p first q second same
  rw [List.mem_mergeSort] at first second
  apply (plain p first).eq_of_same (plain q second) same

/-- Whether a file is among the templates of what one of several paths leads to. -/
def Collected (answer : (r : Request) → r.Answer) (paths : List Path) (file : Path) : Prop :=
  ∃ path ∈ paths, ∃ target, answer (.canonical path) = .ok target
    ∧ file ∈ (templatesOf target).run answer

variable {answer : (r : Request) → r.Answer}

theorem collected_append {paths others : List Path} {file : Path} :
  Collected answer (paths ++ others) file
    ↔ Collected answer paths file ∨ Collected answer others file
  := by
  simp only [Collected, List.mem_append, or_and_right, exists_or]

/-- Paths that all lead somewhere gather the templates of where they lead. -/
theorem run_gather {paths : List Path}
    (existing : ∀ path ∈ paths, ∃ target, answer (.canonical path) = .ok target) :
  ∃ files, (gather paths).run answer = .ok files
    ∧ ∀ file, file ∈ files ↔ Collected answer paths file
  := by
  induction paths with
  | nil => exact ⟨[], rfl, by simp [Collected]⟩
  | cons path rest ih =>
    obtain ⟨⟨target, resolved⟩, existing⟩ := List.forall_mem_cons.mp existing
    obtain ⟨others, gathered, members⟩ := ih existing
    refine ⟨(templatesOf target).run answer ++ others, ?_, ?_⟩
    · simp [gather, run_absolute resolved, gathered]
    · intro file
      rw [List.mem_append, members]
      simp [Collected, resolved]

/-- Paths that all lead somewhere collect the templates of where they lead, in ascending
order. -/
theorem run_collect (orderly : Orderly answer) {paths : List Path} (given : paths ≠ [])
    (existing : ∀ path ∈ paths, ∃ target, answer (.canonical path) = .ok target) :
  ∃ files, (collect paths).run answer = .ok files
    ∧ (files.Pairwise fun p q => p.compare q = .lt)
    ∧ ∀ file, file ∈ files ↔ Collected answer paths file
  := by
  obtain ⟨files, gathered, members⟩ := run_gather existing
  refine ⟨sorted files, ?_, ascending_sorted files, ?_⟩
  · simp [collect, given, gathered, Except.map]
  · intro file
    rw [mem_sorted, members]
    intro p present
    obtain ⟨path, _, target, resolved, found⟩ := (members p).mp present
    apply orderly.isPlain_of_mem (orderly.canonical resolved) found

/-! ### Several collections -/

/-- Strictly ascending lists with the same members are equal. -/
theorem eq_of_ascending {first second : List Path}
    (ascendingFirst : first.Pairwise fun p q => p.compare q = .lt)
    (ascendingSecond : second.Pairwise fun p q => p.compare q = .lt)
    (same : ∀ file, file ∈ first ↔ file ∈ second) :
  first = second
  := by
  have antisymmetric : Std.Antisymm fun p q : Path => p.compare q = .lt := by
    constructor
    intro p q less greater
    have swap : q.compare p = (p.compare q).swap := Std.OrientedCmp.eq_swap
    rw [swap, less] at greater
    cases greater
  have irreflexive : Std.Irrefl fun p q : Path => p.compare q = .lt := by
    constructor
    intro p less
    rw [Path.compare_eq_eq.mpr (decide_eq_true rfl)] at less
    cases less
  apply List.Pairwise.eq_of_mem_iff ascendingFirst ascendingSecond same

/-- Given paths that lead somewhere, a collection ascends in the order of paths, and so it has
no file twice; it depends only on where the paths lead; and further paths add to it what they
collect themselves, in ascending order again. -/
theorem collect_union {answer : (r : Request) → r.Answer} (orderly : Orderly answer)
    {paths others : List Path} (given : paths ≠ []) (givenOthers : others ≠ [])
    (existing : ∀ path ∈ paths ++ others, ∃ target, answer (.canonical path) = .ok target) :
  ∃ files more union,
    (collect paths).run answer = .ok files ∧ (collect others).run answer = .ok more
    ∧ (collect (paths ++ others)).run answer = .ok union
    ∧ (files.Pairwise fun p q => p.compare q = .lt) ∧ files.Nodup
    ∧ ((∀ target, (∃ path ∈ paths, answer (.canonical path) = .ok target)
        ↔ ∃ path ∈ others, answer (.canonical path) = .ok target) → files = more)
    ∧ (union.Pairwise fun p q => p.compare q = .lt)
    ∧ ∀ file, file ∈ union ↔ file ∈ files ∨ file ∈ more
  := by
  obtain ⟨existingPaths, existingOthers⟩ := List.forall_mem_append.mp existing
  obtain ⟨files, collected, ascending, members⟩ := run_collect orderly given existingPaths
  obtain ⟨more, collectedMore, ascendingMore, membersMore⟩ :=
    run_collect orderly givenOthers existingOthers
  obtain ⟨union, collectedUnion, ascendingUnion, membersUnion⟩ :=
    run_collect orderly (List.append_ne_nil_of_left_ne_nil given others) existing
  refine ⟨files, more, union, collected, collectedMore, collectedUnion, ascending, ?once, ?same,
    ascendingUnion, ?joined⟩
  case once =>
    apply ascending.imp
    rintro p _ less rfl
    rw [Path.compare_eq_eq.mpr (decide_eq_true rfl)] at less
    cases less
  case same =>
    intro targets
    apply eq_of_ascending ascending ascendingMore
    intro file
    rw [members, membersMore]
    have byTarget (list : List Path) : Collected answer list file ↔ ∃ target,
        (∃ path ∈ list, answer (.canonical path) = .ok target)
          ∧ file ∈ (templatesOf target).run answer := by
      constructor
      · rintro ⟨path, listed, target, resolved, found⟩
        exact ⟨target, ⟨path, listed, resolved⟩, found⟩
      · rintro ⟨target, ⟨path, listed, resolved⟩, found⟩
        exact ⟨path, listed, target, resolved, found⟩
    rw [byTarget, byTarget]
    simp only [targets]
  case joined =>
    intro file
    rw [membersUnion, collected_append, members, membersMore]

namespace Views

/-- A file with a text. -/
def page : Node := .file (Text.encode "p") false

/-- A file tree with templates in a directory and in one within it, to which a link leads, with
a hidden template and a hidden directory, and with a package. -/
def tree : Node :=
  .directory [(Text.encode "w", .directory [(Text.encode "b", .directory
      [(Text.encode "c.JADE", page), (Text.encode ".d.pug", page), (Text.encode "e.txt", page)]),
    (Text.encode "a.pug", page), (Text.encode "l", .link (.ofText "b")),
    (Text.encode ".h", .directory [(Text.encode "a.pug", page)]),
    (Text.encode "node_modules", .directory [(Text.encode "a.pug", page)])])]

/-- The location of the directory with templates in it. -/
def place : Location := [Text.encode "w"]

/-- The location of the directory within that one. -/
def inner : Location := [Text.encode "w", Text.encode "b"]

theorem locate_here :
  tree.locate place true .here = .ok place
  := Node.locate_of_locateWithin 5 rfl

theorem locate_b :
  tree.locate place true (.ofText "b") = .ok inner
  := Node.locate_of_locateWithin 5 rfl

theorem locate_l :
  tree.locate place true (.ofText "l") = .ok inner
  := Node.locate_of_locateWithin 5 rfl

/-- A machine with the file tree. -/
def machine : Machine := ⟨tree, place, [], fun _ _ => ⟨some 0, [], []⟩⟩

theorem canonical_here :
  machine.answer (.canonical .here) = .ok (.ofNames place)
  := Machine.canonical_of_locate locate_here

theorem canonical_b :
  machine.answer (.canonical (.ofText "b")) = .ok (.ofNames inner)
  := Machine.canonical_of_locate locate_b

theorem canonical_l :
  machine.answer (.canonical (.ofText "l")) = .ok (.ofNames inner)
  := Machine.canonical_of_locate locate_l

end Views

/-- A directory, a link to it and the directory that both are in; and these without the one
that the link leads to, in another order. -/
theorem collect_union_in_views :
  ∃ files, (collect [.ofText "b", .ofText "l", .here]).run Views.machine.answer = .ok files
    ∧ (collect [.here, .ofText "l"]).run Views.machine.answer = .ok files
    ∧ files.Nodup
  := by
  have existing : ∀ path ∈ [.ofText "b", .ofText "l", Path.here] ++ [.here, .ofText "l"],
      ∃ target, Views.machine.answer (.canonical path) = .ok target := by
    simp [Views.canonical_b, Views.canonical_l, Views.canonical_here]
  obtain ⟨files, more, _, collected, collectedMore, _, _, once, same, _⟩ :=
    collect_union (orderly_answer (m := Views.machine) (by decide)) (by simp) (by simp) existing
  obtain rfl : files = more := by
    apply same
    intro target
    simp only [List.mem_cons, List.not_mem_nil, or_false, exists_eq_or_imp, exists_eq_left,
      Views.canonical_b, Views.canonical_l, Views.canonical_here]
    rw [or_self_left, or_comm]
  exact ⟨files, collected, collectedMore, once⟩

end Command

end TemplateLint
