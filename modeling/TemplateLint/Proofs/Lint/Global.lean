import TemplateLint.Proofs.Lint.Location
import TemplateLint.Proofs.System.Locations

/-!
# Packages beside their executables

Where the search around an executable ends.  The nearest directory above the place of the
executable, links resolved, that is the root of its package wins; after these come the package
directory beside the executable and then that of the libraries beside its directory.  But both
of them are looked at only if the directory of the executable has a parent, as it is written,
and that parent is meant by the second one, not what a link to the directory leads to.
-/

namespace TemplateLint

namespace Package

variable {answer : (r : Request) → r.Answer} {package : String}

/-! ### Roots among places -/

/-- The first root is found behind places that are none. -/
theorem firstRootOf_eq_of_first {before after : List Package} {place : Package}
    (others : ∀ other ∈ before, ¬ IsRoot answer package other.root)
    (isRoot : IsRoot answer package place.root) :
  firstRootOf answer package (before ++ place :: after) = some place
  := by
  rw [firstRootOf_append, firstRootOf_eq_none_iff.mpr others, Option.none_or, firstRootOf,
    List.find?_cons_of_pos]
  apply decide_eq_true isRoot

theorem firstRootOf_pair (first second : Package) :
  firstRootOf answer package [first, second]
    = if IsRoot answer package first.root then some first
      else if IsRoot answer package second.root then some second else none
  := by
  rw [firstRootOf, List.find?_cons, List.find?_singleton]
  by_cases isRoot : IsRoot answer package first.root
  · simp [isRoot]
  · simp [isRoot]

/-! ### Places of an executable -/

/-- The directories above the place of an executable, links resolved, nearest first. -/
def directoriesAbove (answer : (r : Request) → r.Answer) (executable : Path) : List Path :=
  match answer (.canonical executable) with
  | .ok target => target.ancestors.drop 1
  | .error _ => []

/-- On a machine, these are above the location that the executable leads to. -/
theorem directoriesAbove_of_locate {m : Machine} {executable : Path} {location : Location}
    (located : m.tree.locate m.cwd true executable = .ok location) :
  directoriesAbove m.answer executable = (Path.ofNames location).ancestors.drop 1
  := by
  have target : m.answer (.canonical executable) = .ok (Path.ofNames location) :=
    Machine.canonical_of_locate located
  rw [directoriesAbove, target]

/-- The place of a package in the package directory within a directory. -/
def placeWithin (package : String) (directory : Path) : Path :=
  (directory.child directoryName).child package

section

variable {e : Environment} {executable : Path}
  (found : (e.findExecutable package).run answer = .ok executable)

include found

theorem globalPlaces_of_found :
  globalPlaces answer e package
    = (directoriesAbove answer executable).map (fun place => ⟨place, .global⟩)
      ++ ((placesBeside package executable).getD []).map fun place => ⟨place, .global⟩
  := by
  rw [globalPlaces, found, ← List.map_append]
  rfl

/-- The nearest root above the executable is what is found. -/
theorem locateGlobal_above {nearer farther : List Path} {root : Path}
    (above : directoriesAbove answer executable = nearer ++ root :: farther)
    (others : ∀ directory ∈ nearer, ¬ IsRoot answer package directory)
    (isRoot : IsRoot answer package root) :
  (locateGlobal e package).run answer = some ⟨root, .global⟩
  := by
  rw [run_locateGlobal, globalPlaces_of_found found, above, List.map_append, List.append_assoc]
  apply firstRootOf_eq_of_first _ isRoot
  rw [List.forall_mem_map]
  apply others

/-- Without a root above the executable, the first one beside it is found. -/
theorem locateGlobal_beside
    (others : ∀ directory ∈ directoriesAbove answer executable, ¬ IsRoot answer package directory) :
  (locateGlobal e package).run answer
    = firstRootOf answer package
      (((placesBeside package executable).getD []).map fun place => ⟨place, .global⟩)
  := by
  rw [run_locateGlobal, globalPlaces_of_found found, firstRootOf_append,
    firstRootOf_eq_none_iff.mpr, Option.none_or]
  rw [List.forall_mem_map]
  apply others

end

theorem placesBeside_of_parents {executable inner outer : Path}
    (directory : executable.parent? = some inner) (parent : inner.parent? = some outer) :
  placesBeside package executable
    = some [placeWithin package inner, placeWithin package (outer.child "lib")]
  := by
  rw [placesBeside, directory, Option.bind_eq_bind, Option.bind_some, parent]
  rfl

theorem placesBeside_of_no_parent {executable : Path}
    (unparented : executable.parent?.bind Path.parent? = none) :
  placesBeside package executable = none
  := by
  rw [placesBeside]
  cases directory : executable.parent? with
  | none => rfl
  | some inner =>
    rw [directory, Option.bind_some] at unparented
    rw [Option.bind_eq_bind, Option.bind_some, unparented]
    rfl

/-- Where an executable is found, the nearest root above its place is found; and if there is
none, the root in its directory, or else the one in the libraries of the parent of its
directory.  If the directory has no parent, neither of the two is found. -/
theorem located_around_executable {e : Environment} {executable : Path}
    (found : (e.findExecutable package).run answer = .ok executable) :
  let located := (locateGlobal e package).run answer
  let above := directoriesAbove answer executable
  (∀ nearer root farther, above = nearer ++ root :: farther →
      (∀ directory ∈ nearer, ¬ IsRoot answer package directory) → IsRoot answer package root →
        located = some ⟨root, .global⟩)
    ∧ ((∀ directory ∈ above, ¬ IsRoot answer package directory) →
      (∀ inner outer, executable.parent? = some inner → inner.parent? = some outer →
        let first := placeWithin package inner
        let second := placeWithin package (outer.child "lib")
        located = if IsRoot answer package first then some ⟨first, .global⟩
          else if IsRoot answer package second then some ⟨second, .global⟩ else none)
        ∧ (executable.parent?.bind Path.parent? = none → located = none))
  := by
  intro located above
  constructor
  · intro nearer root farther parts others isRoot
    apply locateGlobal_above found parts others isRoot
  · intro others
    have search := locateGlobal_beside found others
    constructor
    · intro inner outer directory parent first second
      rw [placesBeside_of_parents directory parent] at search
      apply search.trans
      apply firstRootOf_pair
    · intro unparented
      rw [placesBeside_of_no_parent unparented] at search
      apply search

end Package

/-! ### A machine with executables -/

/-- A file that may be executed is found where it is looked for first. -/
theorem Environment.run_findExecutable_of_node {m : Machine} {e : Environment} {name : String}
    {executable : Path} {rest : List Path} {content : List UInt8}
    (paths : e.executablePaths name = .ok (executable :: rest))
    (present : m.node executable = .ok (.file content true)) :
  (e.findExecutable name).run m.answer = .ok executable
  := by
  have status : m.answer (.status executable) = .ok ⟨.file, true⟩ := by
    change m.status executable = _
    rw [Machine.status, present]
    rfl
  have runs : (isExecutable executable).run m.answer = true := by
    rw [isExecutable, Program.run_bind, Program.run_request, status]
    rfl
  rw [findExecutable, paths]
  simp only [Program.run_bind, run_firstPath?, List.find?_cons, runs]
  rfl

namespace Shims

/-- The entry of a directory with a package in it. -/
def packages : Name × Node :=
  (Text.encode "node_modules", .directory
    [(Text.encode "pug-lint", .directory [Installed.manifest "\x7b\"name\": \"pug-lint\"\x7d"])])

/-- The entry of an executable of the name of the package. -/
def executable : Name × Node := (Text.encode "pug-lint", .file [] true)

/-- A file tree with an executable and the package beside it in the root directory, and with
another executable, whose package is in the libraries beside its directory, and a link to
that directory. -/
def tree : Node :=
  .directory [executable, packages, (Text.encode "bin", .link (.ofText "opt/bin")),
    (Text.encode "opt", .directory [(Text.encode "bin", .directory [executable]),
      (Text.encode "lib", .directory [packages])])]

/-- A machine with the file tree. -/
def machine : Machine := ⟨tree, [], [], fun _ _ => ⟨some 0, [], []⟩⟩

/-- An environment with one directory of executables. -/
def environment (directory : String) : Environment :=
  ⟨.ok .rootDirectory, none, some [.ofText directory], none, none⟩

theorem found_in_opt :
  ((environment "/opt/bin").findExecutable "pug-lint").run machine.answer
    = .ok (.ofText "/opt/bin/pug-lint")
  := Environment.run_findExecutable_of_node rfl (Machine.node_of_nodeWithin 5 rfl)

theorem found_through_link :
  ((environment "/bin").findExecutable "pug-lint").run machine.answer
    = .ok (.ofText "/bin/pug-lint")
  := Environment.run_findExecutable_of_node rfl (Machine.node_of_nodeWithin 5 rfl)

theorem found_in_root :
  ((environment "/").findExecutable "pug-lint").run machine.answer = .ok (.ofText "/pug-lint")
  := Environment.run_findExecutable_of_node rfl (Machine.node_of_nodeWithin 5 rfl)

open Package in
/-- There is no package around the executables. -/
theorem no_root_above {executable : Path}
    (known : executable ∈ [.ofText "/opt/bin/pug-lint", .ofText "/bin/pug-lint",
      .ofText "/pug-lint"]) :
  ∀ directory ∈ directoriesAbove machine.answer executable,
    ¬ IsRoot machine.answer "pug-lint" directory
  := by
  have above : ∃ location ∈ [["opt", "bin", "pug-lint"].map Text.encode, [Text.encode "pug-lint"]],
      tree.locate [] true executable = .ok location := by
    simp only [List.mem_cons, List.not_mem_nil, or_false] at known
    rcases known with rfl | rfl | rfl
    · exact ⟨_, List.mem_cons_self, Node.locate_of_locateWithin 5 rfl⟩
    · exact ⟨_, List.mem_cons_self, Node.locate_of_locateWithin 5 rfl⟩
    · exact ⟨_, List.mem_cons_of_mem _ List.mem_cons_self, Node.locate_of_locateWithin 5 rfl⟩
  have within : ∀ location ∈ [["opt", "bin", "pug-lint"].map Text.encode, [Text.encode "pug-lint"]],
      ∀ directory ∈ (Path.ofNames location).ancestors.drop 1,
        directory ∈ [.ofText "/opt/bin", .ofText "/opt", .rootDirectory] := by
    decide +kernel
  obtain ⟨location, known, located⟩ := above
  rw [directoriesAbove_of_locate (m := machine) located]
  intro directory above
  have known := within location known directory above
  simp only [List.mem_cons, List.not_mem_nil, or_false] at known
  rcases known with rfl | rfl | rfl
  all_goals exact not_isRoot_of_fault (Machine.node_of_nodeWithin 5 rfl)

end Shims

namespace Package

theorem located_around_executable_in_opt :
  ((Shims.environment "/opt/bin").findExecutable "pug-lint").run Shims.machine.answer
      = .ok (.ofText "/opt/bin/pug-lint")
    ∧ (locateGlobal (Shims.environment "/opt/bin") "pug-lint").run Shims.machine.answer
      = some ⟨.ofText "/opt/lib/node_modules/pug-lint", .global⟩
  := by
  have absent : ¬ IsRoot Shims.machine.answer "pug-lint"
      (placeWithin "pug-lint" (.ofText "/opt/bin")) :=
    not_isRoot_of_fault (Machine.node_of_nodeWithin 5 rfl)
  have there : IsRoot Shims.machine.answer "pug-lint"
      (placeWithin "pug-lint" ((Path.ofText "/opt").child "lib")) := by
    rw [isRoot_iff_namedIn (Machine.node_of_nodeWithin 6 rfl)]
    decide +kernel
  obtain ⟨_, beside⟩ := located_around_executable Shims.found_in_opt
  have located := (beside (Shims.no_root_above (by simp))).1 (.ofText "/opt/bin") (.ofText "/opt")
    (by decide +kernel) (by decide +kernel)
  use Shims.found_in_opt
  rw [located, if_neg absent, if_pos there]
  decide +kernel

/-- The package beside an executable in the root directory is not found, because the directory
has no parent; and through a link to the directory of an executable, the package in the
libraries beside that directory is not found, because they are looked for beside the link. -/
theorem hidden_beside_executable :
  (((Shims.environment "/").findExecutable "pug-lint").run Shims.machine.answer
        = .ok (.ofText "/pug-lint")
      ∧ IsRoot Shims.machine.answer "pug-lint" (.ofText "/node_modules/pug-lint")
      ∧ (locateGlobal (Shims.environment "/") "pug-lint").run Shims.machine.answer = none)
    ∧ ((Shims.environment "/bin").findExecutable "pug-lint").run Shims.machine.answer
        = .ok (.ofText "/bin/pug-lint")
      ∧ IsRoot Shims.machine.answer "pug-lint" (.ofText "/bin/../lib/node_modules/pug-lint")
      ∧ (locateGlobal (Shims.environment "/bin") "pug-lint").run Shims.machine.answer = none
  := by
  refine ⟨⟨Shims.found_in_root, ?_, ?_⟩, Shims.found_through_link, ?_, ?_⟩
  · rw [isRoot_iff_namedIn (Machine.node_of_nodeWithin 5 rfl)]
    decide +kernel
  · rw [locateGlobal_beside Shims.found_in_root (Shims.no_root_above (by simp)),
      placesBeside_of_no_parent (by decide +kernel)]
    rfl
  · rw [isRoot_iff_namedIn (Machine.node_of_nodeWithin 9 rfl)]
    decide +kernel
  · have inner : ¬ IsRoot Shims.machine.answer "pug-lint"
        (placeWithin "pug-lint" (.ofText "/bin")) :=
      not_isRoot_of_fault (Machine.node_of_nodeWithin 7 rfl)
    have outer : ¬ IsRoot Shims.machine.answer "pug-lint"
        (placeWithin "pug-lint" (Path.rootDirectory.child "lib")) :=
      not_isRoot_of_fault (Machine.node_of_nodeWithin 5 rfl)
    have beside : placesBeside "pug-lint" (.ofText "/bin/pug-lint")
        = some [placeWithin "pug-lint" (.ofText "/bin"),
          placeWithin "pug-lint" (Path.rootDirectory.child "lib")] :=
      placesBeside_of_parents (by decide +kernel) (by decide +kernel)
    rw [locateGlobal_beside Shims.found_through_link (Shims.no_root_above (by simp)), beside]
    apply (firstRootOf_pair _ _).trans
    rw [if_neg inner, if_neg outer]

end Package

end TemplateLint
