import TemplateLint.Proofs.Config.Evidence

/-!
# Where packages are found

The search for a package as the first root in a list of places: those of the project, those
that the environment lists, and those around and beside the executable of the package.  A
place that is no root, be it that its manifest is missing, unreadable or malformed or names
another package, is passed over like any other.  What is found is a directory, with one
exception: an empty path in the environment, followed by an empty name, is a path that leads
nowhere by itself, and what is then found there is in the working directory.
-/

namespace TemplateLint

/-! ### Searches -/

/-- The search among paths finds the first one that has the property. -/
theorem run_firstPath? (answer : (r : Request) → r.Answer) (holds : Path → Program Bool)
    (paths : List Path) :
  (firstPath? holds paths).run answer = paths.find? fun path => (holds path).run answer
  := by
  induction paths with
  | nil => rfl
  | cons path rest ih =>
    rw [firstPath?, Program.run_bind, List.find?_cons]
    cases (holds path).run answer with
    | true => rfl
    | false => apply ih

theorem run_isFile_iff {answer : (r : Request) → r.Answer} {path : Path} :
  (isFile path).run answer = true
    ↔ ∃ status, answer (.status path) = .ok status ∧ status.kind = .file
  := by
  rw [isFile, Program.run_bind, Program.run_request]
  cases answer (.status path) with
  | error fault => simp
  | ok status => simp

theorem run_readText_iff {answer : (r : Request) → r.Answer} {path : Path} {text : String} :
  (readText path).run answer = .ok text
    ↔ ∃ content, answer (.read path) = .ok content ∧ Text.decode? content = some text
  := by
  constructor
  · apply ConfigFile.content_of_readText
  · rintro ⟨content, told, decoded⟩
    rw [readText, Program.run_bind, Program.run_request, told]
    dsimp only
    rw [decoded]
    rfl

namespace Package

variable {answer : (r : Request) → r.Answer} {package : String}

/-! ### Roots -/

/-- What makes a directory the root of a package: its manifest is a file, can be read, and is
a JSON text in which the name is that of the package. -/
def IsRoot (answer : (r : Request) → r.Answer) (package : String) (root : Path) : Prop :=
  (∃ status, answer (.status (root.child manifestName)) = .ok status ∧ status.kind = .file)
    ∧ ∃ content text manifest, answer (.read (root.child manifestName)) = .ok content
      ∧ Text.decode? content = some text ∧ Json.parse text = .ok manifest
      ∧ manifest.member? "name" = some (.text package)

/-- Whether the content of a manifest names a package. -/
def namedIn (package : String) (content : List UInt8) : Bool :=
  ((Text.decode? content).bind fun text => (Json.parse text).toOption).any (names package)

theorem names_iff {manifest : Json.Value} :
  names package manifest = true ↔ manifest.member? "name" = some (.text package)
  := by
  rw [names]
  split
  · rename_i name present
    simp [present]
  · rename_i other
    simp only [Bool.false_eq_true, false_iff]
    apply other

theorem run_isRoot_iff {root : Path} :
  (isRoot package root).run answer = true ↔ IsRoot answer package root
  := by
  rw [isRoot, run_manifestHolds, run_isFile_iff, IsRoot]
  simp only [run_readText_iff, names_iff]
  constructor
  · rintro ⟨file, text, manifest, ⟨content, read, decoded⟩, parsed, named⟩
    exact ⟨file, content, text, manifest, read, decoded, parsed, named⟩
  · rintro ⟨file, content, text, manifest, read, decoded, parsed, named⟩
    exact ⟨file, text, manifest, ⟨content, read, decoded⟩, parsed, named⟩

theorem namedIn_iff {content : List UInt8} :
  namedIn package content = true
    ↔ ∃ text manifest, Text.decode? content = some text ∧ Json.parse text = .ok manifest
      ∧ manifest.member? "name" = some (.text package)
  := by
  rw [namedIn, Option.any_eq_true]
  simp only [Option.bind_eq_some_iff, names_iff]
  constructor
  · rintro ⟨manifest, ⟨text, decoded, parsed⟩, named⟩
    cases read : Json.parse text with
    | error fault =>
      rw [read] at parsed
      cases parsed
    | ok value =>
      rw [read] at parsed
      obtain rfl := Option.some.inj parsed
      exact ⟨text, value, decoded, read, named⟩
  · rintro ⟨text, manifest, decoded, parsed, named⟩
    refine ⟨manifest, ⟨text, decoded, ?_⟩, named⟩
    rw [parsed]
    rfl

/-- A machine that refuses nothing has the root of a package in a directory if it has a
manifest there that names the package. -/
theorem isRoot_answer_iff {m : Machine} {root : Path} :
  IsRoot m.answer package root
    ↔ ∃ content executable, m.node (root.child manifestName) = .ok (.file content executable)
      ∧ namedIn package content = true
  := by
  simp only [namedIn_iff]
  constructor
  · rintro ⟨⟨status, told, file⟩, content, text, manifest, read, rest⟩
    have regular : status.kind ≠ .special := by simp [file]
    obtain ⟨executable, found, _⟩ := Machine.file_of_read read told regular
    exact ⟨content, executable, found, text, manifest, rest⟩
  · rintro ⟨content, executable, found, text, manifest, rest⟩
    have read : m.read (root.child manifestName) = .ok content := by
      rw [Machine.read, found]
      rfl
    have status : m.status (root.child manifestName) = .ok ⟨.file, executable⟩ := by
      rw [Machine.status, found]
      rfl
    exact ⟨⟨_, status, rfl⟩, content, text, manifest, read, rest⟩

theorem isRoot_iff_namedIn {m : Machine} {root : Path} {content : List UInt8} {executable : Bool}
    (found : m.node (root.child manifestName) = .ok (.file content executable)) :
  IsRoot m.answer package root ↔ namedIn package content = true
  := by
  rw [isRoot_answer_iff, found]
  constructor
  · rintro ⟨_, _, same, named⟩
    cases same
    apply named
  · intro named
    exact ⟨content, executable, rfl, named⟩

theorem not_isRoot_of_fault {m : Machine} {root : Path} {fault : OsFault}
    (absent : m.node (root.child manifestName) = .error fault) :
  ¬ IsRoot m.answer package root
  := by
  rw [isRoot_answer_iff, absent]
  rintro ⟨_, _, same, _⟩
  cases same

instance (root : Path) : Decidable (IsRoot answer package root) :=
  decidable_of_iff _ run_isRoot_iff

/-! ### Places -/

/-- The places of a package in the directories of a project and, unless the search is within
the project, in those that the environment lists. -/
def Locator.places (l : Locator) (package : String) (start : Path) : List Package :=
  (start.ancestors.map fun directory => ⟨(directory.child directoryName).child package, .project⟩)
    ++ if l.searchGlobal then
      (l.environment.packages.getD []).map fun directory => ⟨directory.child package, .listed⟩
    else []

/-- The places of a package around its executable, links resolved, and beside it. -/
def globalPlaces (answer : (r : Request) → r.Answer) (e : Environment) (package : String) :
    List Package :=
  match (e.findExecutable package).run answer with
  | .error _ => []
  | .ok executable =>
    let around : List Path :=
      match answer (.canonical executable) with
      | .ok target => target.ancestors.drop 1
      | .error _ => []
    (around ++ (placesBeside package executable).getD []).map fun place => ⟨place, .global⟩

/-- The first of several places that is the root of a package. -/
def firstRootOf (answer : (r : Request) → r.Answer) (package : String) (places : List Package) :
    Option Package :=
  places.find? fun place => IsRoot answer package place.root

theorem firstRootOf_append (first second : List Package) :
  firstRootOf answer package (first ++ second)
    = (firstRootOf answer package first).or (firstRootOf answer package second)
  := List.find?_append

theorem run_firstRoot? (origin : Origin) (directories : List Path) :
  (firstRoot? package origin directories).run answer
    = firstRootOf answer package (directories.map fun directory => ⟨directory, origin⟩)
  := by
  have same : (fun path => (isRoot package path).run answer)
      = fun path => decide (IsRoot answer package path) := by
    funext path
    rw [Bool.eq_iff_iff, run_isRoot_iff, decide_eq_true_iff]
  rw [firstRoot?, Program.run_bind, run_firstPath?, same, firstRootOf, List.find?_map]
  change _ = (directories.find? fun path => IsRoot answer package path).map _
  cases directories.find? fun path => decide (IsRoot answer package path) with
  | none => rfl
  | some root => rfl

/-- The search around and beside an executable finds the first root. -/
theorem run_locateGlobal (e : Environment) :
  (locateGlobal e package).run answer
    = firstRootOf answer package (globalPlaces answer e package)
  := by
  rw [locateGlobal, Program.run_bind, globalPlaces]
  cases (e.findExecutable package).run answer with
  | error fault => rfl
  | ok executable =>
    dsimp only
    rw [Program.run_bind, Program.run_request, Program.run_bind, run_firstRoot?,
      List.map_append, firstRootOf_append]
    cases firstRootOf answer package _ with
    | some found => rfl
    | none =>
      cases placesBeside package executable with
      | none => rfl
      | some places => apply run_firstRoot?

theorem places_eq (l : Locator) (start : Path) :
  l.places package start
    = (projectPlaces package start).map (fun place => ⟨place, .project⟩)
      ++ if l.searchGlobal then
        (listedPlaces package l.environment.packages).map fun place => ⟨place, .listed⟩
      else []
  := by
  rw [projectPlaces, listedPlaces, List.map_map, List.map_map]
  rfl

/-- The search from a start directory finds the first root, and goes on to the executable
only if there is none. -/
theorem run_locate (l : Locator) (start : Path) :
  (l.locate package start).run answer
    = (firstRootOf answer package (l.places package start)).or
      (if l.searchGlobal then (locateGlobal l.environment package).run answer else none)
  := by
  rw [Locator.locate, Program.run_bind, run_firstRoot?, places_eq, firstRootOf_append]
  cases firstRootOf answer package ((projectPlaces package start).map _) with
  | some found => rfl
  | none =>
    cases l.searchGlobal with
    | false => rfl
    | true =>
      simp only [if_true, Program.run_bind, run_firstRoot?, Option.none_or]
      cases firstRootOf answer package ((listedPlaces package _).map _) with
      | some found => rfl
      | none => rfl

end Package

/-! ### Paths that are not empty -/

/-- A path within a directory is empty only if both are. -/
theorem Path.bytes_join_eq_nil {directory p : Path} (empty : (directory.join p).bytes = []) :
  directory.bytes = [] ∧ p.bytes = []
  := by
  rw [join] at empty
  split at empty
  · rename_i absolute
    simp [isAbsolute, empty] at absolute
  · split at empty
    · rename_i nowhere
      exact ⟨nowhere, empty⟩
    · split at empty
      · exact List.append_eq_nil_iff.mp empty
      · simp at empty

/-- The parent of an absolute path is absolute. -/
theorem Path.isAbsolute_parent? {p parent : Path} (absolute : p.isAbsolute)
    (h : p.parent? = some parent) :
  parent.isAbsolute
  := by
  obtain ⟨_ | ⟨first, rest⟩⟩ := p
  · cases absolute
  · obtain rfl : first = slash := by simpa [isAbsolute] using absolute
    have lead : splitLead (slash :: rest) = ([slash], rest) := by
      cases rest with
      | nil => rfl
      | cons second rest => rfl
    rw [parent?, lead] at h
    dsimp only at h
    split at h
    · cases h
    · obtain rfl := Option.some.inj h
      rfl

/-- What comes before an absolute path is absolute. -/
theorem Path.isAbsolute_of_mem_ancestors {p ancestor : Path} (absolute : p.isAbsolute)
    (h : ancestor ∈ p.ancestors) :
  ancestor.isAbsolute
  := by
  rw [ancestors] at h
  generalize p.bytes.length + 1 = fuel at h
  induction fuel generalizing p with
  | zero =>
    obtain rfl := List.mem_singleton.mp h
    apply absolute
  | succ fuel ih =>
    rw [ancestorsWithin] at h
    split at h
    · rename_i parent found
      rcases List.mem_cons.mp h with rfl | later
      · apply absolute
      · apply ih (isAbsolute_parent? absolute found) later
    · obtain rfl := List.mem_singleton.mp h
      apply absolute

theorem Text.encode_eq_nil {s : String} (h : encode s = []) :
  s = ""
  := by
  rw [encode, encodeChars, List.flatMap_eq_nil_iff] at h
  apply String.toList_eq_nil_iff.mp
  apply List.eq_nil_iff_forall_not_mem.mpr
  intro c present
  have width := String.length_utf8EncodeChar c
  rw [h c present] at width
  exact absurd width.symm (Nat.ne_of_gt c.utf8Size_pos)

namespace Machine

/-- Answers grant only what a machine has, and canonical paths as they are on it. -/
structure Shows (m : Machine) (answer : (r : Request) → r.Answer) : Prop
    extends m.Grants answer where
  canonical {path target : Path} : answer (.canonical path) = .ok target →
    m.canonical path = .ok target

/-- A machine that refuses nothing shows what it has. -/
theorem shows_answer (m : Machine) :
  m.Shows m.answer
  := ⟨grants_answer m, fun told => told⟩

/-- Whether a path leads to a directory. -/
def HasDirectory (m : Machine) (path : Path) : Prop :=
  ∃ entries, m.node path = .ok (.directory entries)

variable {m : Machine} {answer : (r : Request) → r.Answer}

theorem isAbsolute_canonical {path target : Path} (h : m.canonical path = .ok target) :
  target.isAbsolute
  := by
  simp only [Machine.canonical, bind, Except.bind] at h
  split at h
  · cases h
  · rename_i location _
    obtain rfl := Except.ok.inj h
    cases location with
    | nil => rfl
    | cons name rest => rfl

end Machine

namespace Package

variable {answer : (r : Request) → r.Answer} {package : String} {m : Machine}

/-! ### Roots are directories -/

/-- The place of a package in a package directory is not empty. -/
theorem modules_ne_nil (directory : Path) :
  ((directory.child directoryName).child package).bytes ≠ []
  := by
  intro empty
  have name := (Path.bytes_join_eq_nil (Path.bytes_join_eq_nil empty).1).2
  revert name
  decide

/-- The places beside an executable are in package directories. -/
theorem exists_of_mem_placesBeside {executable place : Path} {places : List Path}
    (beside : placesBeside package executable = some places) (present : place ∈ places) :
  ∃ directory : Path, place = (directory.child directoryName).child package
  := by
  obtain ⟨inner, _, beside⟩ := Option.bind_eq_some_iff.mp beside
  obtain ⟨outer, _, beside⟩ := Option.bind_eq_some_iff.mp beside
  obtain rfl := Option.some.inj beside
  simp only [List.mem_cons, List.not_mem_nil, or_false] at present
  rcases present with rfl | rfl
  · use inner
  · use outer.child "lib"

/-- A place without a path is that of a package without a name in a directory without a path
that the environment lists. -/
theorem listed_of_empty {l : Locator} {start : Path} {place : Package}
    (present : place ∈ l.places package start) (empty : place.root.bytes = []) :
  place.origin = .listed ∧ package = ""
  := by
  rcases List.mem_append.mp present with project | listed
  · obtain ⟨directory, _, rfl⟩ := List.mem_map.mp project
    cases modules_ne_nil directory empty
  · split at listed
    · obtain ⟨directory, _, rfl⟩ := List.mem_map.mp listed
      use rfl
      apply Text.encode_eq_nil (Path.bytes_join_eq_nil empty).2
    · cases listed

/-- The places around and beside an executable have paths. -/
theorem ne_nil_of_mem_globalPlaces (h : m.Shows answer) {e : Environment} {place : Package}
    (present : place ∈ globalPlaces answer e package) :
  place.root.bytes ≠ []
  := by
  rw [globalPlaces] at present
  split at present
  · cases present
  · rename_i executable _
    obtain ⟨directory, listed, rfl⟩ := List.mem_map.mp present
    rcases List.mem_append.mp listed with around | beside
    · split at around
      · rename_i target resolved
        have absolute := Path.isAbsolute_of_mem_ancestors
          (Machine.isAbsolute_canonical (h.canonical resolved)) (List.mem_of_mem_drop around)
        intro empty
        dsimp only at empty
        rw [Path.isAbsolute, empty] at absolute
        cases absolute
      · cases around
    · cases outer : placesBeside package executable with
      | none => simp [outer] at beside
      | some places =>
        rw [outer] at beside
        obtain ⟨directory, rfl⟩ := exists_of_mem_placesBeside outer beside
        apply modules_ne_nil

/-- A root is a directory, or there is no path to it, and it stands for the working
directory. -/
theorem IsRoot.directory (h : m.Grants answer) {root : Path}
    (isRoot : IsRoot answer package root) :
  m.HasDirectory root ∨ root = .empty ∧ m.HasDirectory .here
  := by
  have proper : Path.isEntryName (Text.encode manifestName) := by decide +kernel
  obtain ⟨⟨status, told, _⟩, _⟩ := isRoot
  obtain ⟨node, found, _⟩ := Machine.status_eq_ok (h.status told)
  by_cases named : root.bytes = []
  · obtain ⟨bytes⟩ := root
    obtain rfl : bytes = [] := named
    apply Or.inr ⟨rfl, Machine.directory_of_name proper found⟩
  · apply Or.inl (Machine.directory_of_entry named proper found)

/-! ### What is found -/

theorem firstRootOf_eq_some {places : List Package} {found : Package}
    (first : firstRootOf answer package places = some found) :
  found ∈ places ∧ IsRoot answer package found.root
  := by
  rw [firstRootOf] at first
  have root := List.find?_some first
  use List.mem_of_find?_eq_some first
  simpa using root

theorem firstRootOf_eq_none_iff {places : List Package} :
  firstRootOf answer package places = none
    ↔ ∀ place ∈ places, ¬ IsRoot answer package place.root
  := by
  simp [firstRootOf]

theorem origin_of_mem_places {l : Locator} {start : Path} {place : Package}
    (present : place ∈ l.places package start) :
  place.origin = .project ∨ place.origin = .listed ∧ l.searchGlobal = true
  := by
  rcases List.mem_append.mp present with project | listed
  · obtain ⟨directory, _, rfl⟩ := List.mem_map.mp project
    apply Or.inl rfl
  · split at listed
    · rename_i everywhere
      obtain ⟨directory, _, rfl⟩ := List.mem_map.mp listed
      apply Or.inr ⟨rfl, everywhere⟩
    · cases listed

theorem origin_of_mem_globalPlaces {e : Environment} {place : Package}
    (present : place ∈ globalPlaces answer e package) :
  place.origin = .global
  := by
  rw [globalPlaces] at present
  split at present
  · cases present
  · obtain ⟨directory, _, rfl⟩ := List.mem_map.mp present
    rfl

/-- What is found is a root among the places in the project and the environment, or else one
around or beside the executable. -/
theorem mem_of_locate {l : Locator} {start : Path} {found : Package}
    (located : (l.locate package start).run answer = some found) :
  IsRoot answer package found.root
    ∧ (found ∈ l.places package start
      ∨ l.searchGlobal = true
        ∧ (∀ place ∈ l.places package start, ¬ IsRoot answer package place.root)
        ∧ found ∈ globalPlaces answer l.environment package)
  := by
  rw [run_locate] at located
  cases near : firstRootOf answer package (l.places package start) with
  | some first =>
    rw [near] at located
    obtain rfl := Option.some.inj located
    obtain ⟨present, root⟩ := firstRootOf_eq_some near
    exact ⟨root, .inl present⟩
  | none =>
    rw [near, Option.none_or] at located
    split at located
    · rename_i everywhere
      rw [run_locateGlobal] at located
      obtain ⟨present, root⟩ := firstRootOf_eq_some located
      exact ⟨root, .inr ⟨everywhere, firstRootOf_eq_none_iff.mp near, present⟩⟩
    · cases located

/-- What is found is a directory, unless it is a package without a name in a directory without
a path. -/
theorem directory_of_locate (h : m.Shows answer) {l : Locator} {start : Path} {found : Package}
    (located : (l.locate package start).run answer = some found) :
  m.HasDirectory found.root
    ∨ found = ⟨.empty, .listed⟩ ∧ package = "" ∧ m.HasDirectory .here
  := by
  obtain ⟨root, source⟩ := mem_of_locate located
  rcases root.directory h.toGrants with directory | ⟨empty, working⟩
  · apply Or.inl directory
  · have nowhere : found.root.bytes = [] := by rw [empty, Path.empty]
    rcases source with near | ⟨_, _, far⟩
    · obtain ⟨origin, nameless⟩ := listed_of_empty near nowhere
      obtain ⟨path, _⟩ := found
      obtain rfl : path = .empty := empty
      obtain rfl := origin
      exact .inr ⟨rfl, nameless, working⟩
    · cases ne_nil_of_mem_globalPlaces h far nowhere

/-- The search for a package finds the first root among the places in the project and, unless
it is within the project, among those that the environment lists; if there is none there,
and only then, it finds the first root around or beside the executable of the package,
which is of global origin.  Places that are no roots are passed over, whatever is wrong with
them.  What is found is a root, and a directory; but a package without a name that is found
in a directory without a path, which the environment lists, is in the working directory. -/
theorem located_is_first_root (h : m.Shows answer) (l : Locator) (package : String)
    (start : Path) :
  let places := l.places package start
  let located := (l.locate package start).run answer
  located = (firstRootOf answer package places).or
      (if l.searchGlobal then (locateGlobal l.environment package).run answer else none)
    ∧ (locateGlobal l.environment package).run answer
      = firstRootOf answer package (globalPlaces answer l.environment package)
    ∧ ∀ found, located = some found →
      (l.searchGlobal = false → found.origin = .project)
        ∧ (found.origin = .global
          ↔ l.searchGlobal = true ∧ ∀ place ∈ places, ¬ IsRoot answer package place.root)
        ∧ IsRoot answer package found.root
        ∧ (m.HasDirectory found.root
          ∨ found = ⟨.empty, .listed⟩ ∧ package = "" ∧ m.HasDirectory .here)
  := by
  intro places located
  use run_locate l start, run_locateGlobal l.environment
  intro found here
  obtain ⟨root, source⟩ := mem_of_locate here
  refine ⟨?project, ⟨?none, ?global⟩, root, directory_of_locate h here⟩
  case project =>
    intro within
    rcases source with near | ⟨everywhere, _⟩
    · rcases origin_of_mem_places near with project | ⟨_, everywhere⟩
      · apply project
      · cases within.symm.trans everywhere
    · cases within.symm.trans everywhere
  case none =>
    intro global
    rcases source with near | ⟨everywhere, none, _⟩
    · rcases origin_of_mem_places near with project | ⟨listed, _⟩
      · cases global.symm.trans project
      · cases global.symm.trans listed
    · exact ⟨everywhere, none⟩
  case global =>
    rintro ⟨_, none⟩
    rcases source with near | ⟨_, _, far⟩
    · cases none found near root
    · apply origin_of_mem_globalPlaces far

end Package

/-! ### A machine with packages -/

namespace Installed

/-- The entry of a manifest with a text. -/
def manifest (text : String) : Name × Node :=
  (Text.encode Package.manifestName, .file (Text.encode text) false)

/-- A file tree with a broken manifest in a project, with a package elsewhere, and with a
manifest that names a package without a name. -/
def tree : Node :=
  .directory [manifest "\x7b\"name\": \"\"\x7d",
    (Text.encode "w", .directory [(Text.encode "node_modules", .directory
      [(Text.encode "pug-lint", .directory [manifest "\x7b"])])]),
    (Text.encode "h", .directory
      [(Text.encode "pug-lint", .directory [manifest "\x7b\"name\": \"pug-lint\"\x7d"])])]

/-- A machine with the file tree. -/
def machine : Machine := ⟨tree, [], [], fun _ _ => ⟨some 0, [], []⟩⟩

/-- A search in the environment too, which lists directories. -/
def locator (directories : String) : Package.Locator :=
  ⟨⟨.ok .rootDirectory, none, none, some (Path.splitList (Text.encode directories)), none⟩, true⟩

end Installed

namespace Package

theorem located_is_first_root_in_installed :
  ((Installed.locator "/g:/h").locate "pug-lint" (.ofText "/w")).run Installed.machine.answer
      = some ⟨.ofText "/h/pug-lint", .listed⟩
    ∧ Installed.machine.HasDirectory (.ofText "/h/pug-lint")
  := by
  have broken : ¬ IsRoot Installed.machine.answer "pug-lint"
      (.ofText "/w/node_modules/pug-lint") := by
    rw [isRoot_iff_namedIn (Machine.node_of_nodeWithin 5 rfl)]
    decide +kernel
  have outside : ¬ IsRoot Installed.machine.answer "pug-lint"
      (.ofText "/node_modules/pug-lint") :=
    not_isRoot_of_fault (Machine.node_of_nodeWithin 5 rfl)
  have absent : ¬ IsRoot Installed.machine.answer "pug-lint" (.ofText "/g/pug-lint") :=
    not_isRoot_of_fault (Machine.node_of_nodeWithin 5 rfl)
  have there : IsRoot Installed.machine.answer "pug-lint" (.ofText "/h/pug-lint") := by
    rw [isRoot_iff_namedIn (Machine.node_of_nodeWithin 5 rfl)]
    decide +kernel
  have places : (Installed.locator "/g:/h").places "pug-lint" (.ofText "/w")
      = [⟨.ofText "/w/node_modules/pug-lint", .project⟩,
        ⟨.ofText "/node_modules/pug-lint", .project⟩, ⟨.ofText "/g/pug-lint", .listed⟩,
        ⟨.ofText "/h/pug-lint", .listed⟩] := by
    decide +kernel
  have first : firstRootOf Installed.machine.answer "pug-lint"
      ((Installed.locator "/g:/h").places "pug-lint" (.ofText "/w"))
      = some ⟨.ofText "/h/pug-lint", .listed⟩ := by
    simp [firstRootOf, places, broken, outside, absent, there]
  obtain ⟨search, _, found⟩ := located_is_first_root Installed.machine.shows_answer
    (Installed.locator "/g:/h") "pug-lint" (.ofText "/w")
  rw [first] at search
  use search
  rcases (found _ search).2.2.2 with directory | ⟨_, nameless, _⟩
  · apply directory
  · exact absurd nameless (by decide)

/-- A package without a name is found in a directory without a path, which is none. -/
theorem located_in_no_directory :
  ((Installed.locator "").locate "" .rootDirectory).run Installed.machine.answer
      = some ⟨.empty, .listed⟩
    ∧ Installed.machine.node .empty = .error .notFound
    ∧ ¬ ∀ (m : Machine) (l : Locator) (package : String) (start : Path) (found : Package),
      (l.locate package start).run m.answer = some found → m.HasDirectory found.root
  := by
  have absent : ¬ IsRoot Installed.machine.answer "" (.ofText "/node_modules/") :=
    not_isRoot_of_fault (Machine.node_of_nodeWithin 5 rfl)
  have here : IsRoot Installed.machine.answer "" .empty := by
    rw [isRoot_iff_namedIn (Machine.node_of_nodeWithin 5 rfl)]
    decide +kernel
  have places : (Installed.locator "").places "" .rootDirectory
      = [⟨.ofText "/node_modules/", .project⟩, ⟨.empty, .listed⟩] := by
    decide +kernel
  have located : ((Installed.locator "").locate "" .rootDirectory).run Installed.machine.answer
      = some ⟨.empty, .listed⟩ := by
    rw [run_locate, places]
    simp [firstRootOf, absent, here]
  have nowhere : Installed.machine.node .empty = .error .notFound := rfl
  use located, nowhere
  intro whole
  obtain ⟨entries, found⟩ := whole _ _ _ _ _ located
  rw [nowhere] at found
  cases found

end Package

end TemplateLint
