import TemplateLint.Proofs.Command.Collection
import TemplateLint.Proofs.Text.Ascii

/-!
# Templates of directories

What directories contribute to a collection, at any depth: the templates below them that are
reached without a directory of packages and without a hidden directory.  But a hidden template
is passed over as well as a hidden directory, unless it is given itself.
-/

namespace TemplateLint

namespace Template

/-! ### Names -/

/-- Whether a name has the extension of a template, in any case: what follows its last full
stop, before which something must stand. -/
def IsName (name : Name) : Prop :=
  ∃ (stem : Name) (extension : String), stem ≠ []
    ∧ name = stem ++ Path.dot :: Text.encode extension ∧ lowerCase extension ∈ ["pug", "jade"]

theorem isExtension_iff {bytes : Name} :
  isExtension bytes ↔ ∃ text, bytes = Text.encode text ∧ lowerCase text ∈ extensions
  := by
  have ascii {text : String} (extension : lowerCase text ∈ extensions) :
      ∀ c ∈ text.toList, 0 < c.toNat ∧ c.toNat < 128 :=
    fun c present => ascii_of_letter (letter_of_extension extension present)
  rw [isExtension]
  constructor
  · intro h
    split at h
    · rename_i text decoded
      have extension := List.contains_iff_mem.mp h
      refine ⟨text, ?_, extension⟩
      rw [Text.eq_encode_iff fun c present => (ascii extension c present).2]
      apply Text.decode?_ascii decoded (ascii extension)
    · cases h
  · rintro ⟨text, rfl, extension⟩
    rw [Text.decode?_encode fun c present => (ascii extension c present).2]
    apply List.contains_iff_mem.mpr extension

/-- There is no full stop in the extension of a template. -/
theorem dot_notMem_of_isExtension {bytes : Name} (h : isExtension bytes) :
  Path.dot ∉ bytes
  := fun present => absurd (letter_of_isExtension h Path.dot present) (by decide)

/-- A path is that of a template if its last component is a name that is one. -/
theorem isPath_iff {p : Path} :
  isPath p ↔ ∃ name, p.fileName? = some name ∧ IsName name
  := by
  rw [isPath]
  constructor
  · intro h
    split at h
    · rename_i bytes found
      obtain ⟨stem, named, nonempty, _⟩ := Path.extension?_eq_some.mp found
      obtain ⟨text, rfl, extension⟩ := isExtension_iff.mp h
      exact ⟨_, named, stem, text, nonempty, rfl, extension⟩
    · cases h
  · rintro ⟨name, named, stem, text, nonempty, rfl, extension⟩
    have template : isExtension (Text.encode text) := isExtension_iff.mpr ⟨text, rfl, extension⟩
    have found : p.extension? = some (Text.encode text) := by
      rw [Path.extension?_eq_some]
      exact ⟨stem, named, nonempty, dot_notMem_of_isExtension template⟩
    rw [found]
    apply template

/-- The path of a file is that of a template if the name of the file is. -/
theorem isPath_ofNames_iff {location : Location} {name : Name}
    (proper : ∀ n ∈ location ++ [name], Path.isEntryName n) :
  isPath (Path.ofNames (location ++ [name])) ↔ IsName name
  := by
  have named : (Path.ofNames (location ++ [name])).fileName? = some name := by
    rw [Path.fileName?, Path.components_ofNames proper, List.map_append, ← List.cons_append,
      List.map_singleton, List.getLast?_concat]
  rw [isPath_iff, named]
  constructor
  · rintro ⟨_, ⟨⟩, template⟩
    apply template
  · intro template
    exact ⟨name, rfl, template⟩

end Template

namespace Command

/-- Whether a name is that of a directory of packages, or hidden. -/
def IsSetAside (name : Name) : Prop :=
  name = Text.encode "node_modules" ∨ name.head? = some Path.dot

theorem isSkipped_iff {name : Name} :
  isSkipped name ↔ IsSetAside name
  := by
  have packages : Text.decodeLossy name = "node_modules" ↔ name = Text.encode "node_modules" := by
    constructor
    · intro read
      apply Text.eq_encode_of_decodeLossy (by simp) read
    · rintro rfl
      decide
  have hidden : (Text.decodeLossy name).toList.head? = some '.' ↔ name.head? = some Path.dot := by
    rw [Text.head?_decodeLossy (by decide)]
    constructor
    · intro number
      obtain ⟨b, first, number⟩ := Option.map_eq_some_iff.mp number
      obtain rfl : b = Path.dot := UInt8.toNat_inj.mp number
      apply first
    · intro first
      rw [first]
      rfl
  rw [isSkipped, IsSetAside, ← packages, ← hidden]
  simp only [Bool.or_eq_true, decide_eq_true_eq, String.toList_inj]

/-- The name of a template is set aside only if it is hidden. -/
theorem isSetAside_iff_of_isName {name : Name} (template : Template.IsName name) :
  IsSetAside name ↔ name.head? = some Path.dot
  := by
  refine or_iff_right ?_
  rintro rfl
  obtain ⟨stem, extension, _, parts, _⟩ := template
  have stop : Path.dot ∈ Text.encode "node_modules" := by
    rw [parts]
    simp
  exact absurd stop (by decide)

/-! ### Directories -/

/-- Whether the names of directories below a place, and then a name, lead to a template, and
none of the directories is set aside. -/
def LeadsToTemplate (tree : Node) (place above : Location) (name : Name) : Prop :=
  (∃ content executable, tree.at? (place ++ above ++ [name]) = some (.file content executable))
    ∧ Template.IsName name ∧ ∀ directory ∈ above, ¬ IsSetAside directory

/-- What a place contributes to a collection: a file contributes itself, and a directory the
templates below it which are not hidden. -/
def Contributes (tree : Node) (place : Location) (file : Path) : Prop :=
  (file = Path.ofNames place
      ∧ ∃ content executable, tree.at? place = some (.file content executable))
    ∨ ∃ above name, file = Path.ofNames (place ++ above ++ [name])
      ∧ LeadsToTemplate tree place above name ∧ name.head? ≠ some Path.dot

variable {m : Machine}

theorem run_isFile_of_node {path : Path} {node : Node} (found : m.node path = .ok node) :
  (isFile path).run m.answer ↔ ∃ content executable, node = .file content executable
  := by
  cases node with
  | file content executable =>
    have status : m.answer (.status path) = .ok ⟨.file, executable⟩ := by
      change m.status path = _
      rw [Machine.status, found]
      rfl
    simp [run_isFile status]
  | special stream =>
    have status : m.answer (.status path) = .ok ⟨.special, false⟩ := by
      change m.status path = _
      rw [Machine.status, found]
      rfl
    simp [run_isFile status]
  | _ =>
    have status : m.answer (.status path) = .ok ⟨.directory, true⟩ := by
      change m.status path = _
      rw [Machine.status, found]
      rfl
    simp [run_isFile status]

theorem outline_eq_file {node : Node} :
  node.outline = .file ↔ ∃ content executable, node = .file content executable
  := by
  cases node <;> simp [Node.outline]

/-- The templates in the directory at a place are those below it that are reached without
passing over a name. -/
theorem mem_templatesIn_place (sound : m.tree.isSound) {place : Location} {node : Node}
    (present : m.tree.at? place = some node) {file : Path} :
  file ∈ templatesIn (Path.ofNames place) node.outline
    ↔ ∃ above name, file = Path.ofNames (place ++ above ++ [name])
      ∧ LeadsToTemplate m.tree place above name ∧ name.head? ≠ some Path.dot
  := by
  have proper {names : Location} {inner : Node} (there : m.tree.at? names = some inner) :
      ∀ name ∈ names, Path.isEntryName name :=
    Node.proper_of_at? sound there
  have below {names : Location} : node.outline.Shows names .file
      ↔ ∃ content executable, m.tree.at? (place ++ names) = some (.file content executable) := by
    rw [Node.shows_outline_iff (Node.sound_of_at? sound present).2, Node.at?_append, present]
    constructor
    · rintro ⟨inner, there, shown⟩
      obtain ⟨content, executable, rfl⟩ := outline_eq_file.mp shown
      exact ⟨content, executable, there⟩
    · rintro ⟨content, executable, there⟩
      exact ⟨_, there, rfl⟩
  have kept {name : Name} : isSkipped name = false ↔ ¬ IsSetAside name := by
    rw [← isSkipped_iff, Bool.not_eq_true]
  rw [mem_templatesIn]
  constructor
  · rintro ⟨names, nonempty, shows, passed, rfl, template⟩
    rcases List.eq_nil_or_concat names with rfl | ⟨above, name, rfl⟩
    · cases nonempty rfl
    rw [List.concat_eq_append] at shows passed template ⊢
    obtain ⟨content, executable, there⟩ := below.mp shows
    have inside := List.forall_mem_append.mp (proper there)
    rw [Path.within_ofNames inside.1 inside.2, ← List.append_assoc] at template ⊢
    rw [← List.append_assoc] at there
    rw [Template.isPath_ofNames_iff (proper there)] at template
    obtain ⟨passed, last⟩ := List.forall_mem_append.mp passed
    refine ⟨above, name, rfl, ⟨⟨content, executable, there⟩, template, ?_⟩, ?_⟩
    · intro directory member
      apply kept.mp (passed directory member)
    · rw [ne_eq, ← isSetAside_iff_of_isName template]
      apply kept.mp (last name (List.mem_singleton_self name))
  · rintro ⟨above, name, rfl, ⟨⟨content, executable, there⟩, template, passed⟩, shown⟩
    have path := (Template.isPath_ofNames_iff (proper there)).mpr template
    rw [List.append_assoc] at there path ⊢
    have inside := List.forall_mem_append.mp (proper there)
    refine ⟨above ++ [name], by simp, below.mpr ⟨content, executable, there⟩, ?_, ?_, path⟩
    · rw [List.forall_mem_append, List.forall_mem_singleton, kept,
        isSetAside_iff_of_isName template]
      exact ⟨fun directory member => kept.mpr (passed directory member), shown⟩
    · rw [Path.within_ofNames inside.1 inside.2]

/-- The templates of a place are what it contributes. -/
theorem mem_templatesOf_place (sound : m.tree.isSound) {path : Path} {place : Location}
    (located : m.tree.locate m.cwd true path = .ok place)
    (short : (Path.ofNames place).bytes.length < Node.pathLimit) {file : Path} :
  file ∈ (templatesOf (Path.ofNames place)).run m.answer ↔ Contributes m.tree place file
  := by
  obtain ⟨node, present, noLink⟩ := Node.stands_of_locate located
  have found := Machine.node_ofNames sound located short present
  have outlined : m.answer (.outline (Path.ofNames place)) = .ok node.outline := by
    change m.outline _ = _
    rw [Machine.outline, found]
    rfl
  rw [run_templatesOf, outlined, Contributes, ← mem_templatesIn_place sound present, present]
  by_cases isFile : (isFile (Path.ofNames place)).run m.answer
  · obtain ⟨content, executable, rfl⟩ := (run_isFile_of_node found).mp isFile
    simp [isFile, Node.outline, templatesIn]
  · have noFile := mt (run_isFile_of_node found).mpr isFile
    simp only [Option.some.injEq, noFile, and_false, false_or]
    rw [if_neg isFile]

/-- Where paths lead, their templates are what the places contribute. -/
theorem collected_iff_contributes (sound : m.tree.isSound) {paths : List Path}
    (leads : ∀ path ∈ paths, ∃ place, m.tree.locate m.cwd true path = .ok place
      ∧ (Path.ofNames place).bytes.length < Node.pathLimit) {file : Path} :
  Collected m.answer paths file
    ↔ ∃ path ∈ paths, ∃ place, m.tree.locate m.cwd true path = .ok place
      ∧ Contributes m.tree place file
  := by
  constructor
  · rintro ⟨path, member, target, resolved, found⟩
    obtain ⟨place, located, short⟩ := leads path member
    obtain rfl : Path.ofNames place = target :=
      Except.ok.inj ((Machine.canonical_of_locate located).symm.trans resolved)
    exact ⟨path, member, place, located, (mem_templatesOf_place sound located short).mp found⟩
  · rintro ⟨path, member, place, located, contributes⟩
    have short : (Path.ofNames place).bytes.length < Node.pathLimit := by
      obtain ⟨other, same, short⟩ := leads path member
      obtain rfl : place = other := Except.ok.inj (located.symm.trans same)
      apply short
    refine ⟨path, member, Path.ofNames place, Machine.canonical_of_locate located, ?_⟩
    apply (mem_templatesOf_place sound located short).mpr contributes

theorem canonical_of_leads {paths : List Path}
    (leads : ∀ path ∈ paths, ∃ place, m.tree.locate m.cwd true path = .ok place
      ∧ (Path.ofNames place).bytes.length < Node.pathLimit) :
  ∀ path ∈ paths, ∃ target, m.answer (.canonical path) = .ok target
  := by
  intro path member
  obtain ⟨place, located, _⟩ := leads path member
  exact ⟨_, Machine.canonical_of_locate located⟩

/-- A hidden file below a place is not contributed. -/
theorem not_contributes_of_hidden {tree node : Node} (sound : tree.isSound)
    {place above : Location} {name : Name}
    (present : tree.at? (place ++ above ++ [name]) = some node)
    (hidden : name.head? = some Path.dot) :
  ¬ Contributes tree place (Path.ofNames (place ++ above ++ [name]))
  := by
  rintro (⟨same, _, _, there⟩ | ⟨_, other, same, ⟨⟨_, _, there⟩, _⟩, shown⟩)
  · have locations := Node.eq_of_ofNames sound present there same
    have lengths := congrArg List.length locations
    simp at lengths
  · have locations := Node.eq_of_ofNames sound present there same
    obtain rfl : name = other := by
      simpa using congrArg List.getLast? locations
    exact shown hidden

namespace Views

theorem sound_tree :
  tree.isSound
  := by
  decide

theorem leads_b :
  ∀ path ∈ [Path.ofText "b"], ∃ place, machine.tree.locate machine.cwd true path = .ok place
    ∧ (Path.ofNames place).bytes.length < Node.pathLimit
  := by
  intro path member
  obtain rfl := List.mem_singleton.mp member
  exact ⟨inner, locate_b, by decide⟩

end Views

end Command

end TemplateLint
