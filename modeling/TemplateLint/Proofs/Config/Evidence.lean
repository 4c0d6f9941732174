import TemplateLint.Proofs.Config.Candidates
import TemplateLint.Proofs.System.Listing
import TemplateLint.Proofs.Uri.Files

/-!
# Evidence of use

A directory shows that the linter is to be used in it by the name of an entry or by a field
of its manifest.  On every machine, a configuration that resolution finds in a directory
which can be listed is such evidence, unless it is in a manifest that is no regular file.  The
converse fails: what an entry shows is that its name ends like that of a configuration file,
and some names that do are never loaded.
-/

namespace TemplateLint

/-! ### Texts that end in ASCII -/

namespace Text

/-- Marks that are read as ASCII are characters. -/
theorem mapM_of_ascii {marks : List (Option Char)}
    (ascii : ∀ c ∈ marks.map fun c => c.getD replacement, 0 < c.toNat ∧ c.toNat < 128) :
  marks.mapM id = some (marks.map fun c => c.getD replacement)
  := by
  induction marks with
  | nil => rfl
  | cons mark rest ih =>
    rw [List.map_cons, List.forall_mem_cons] at ascii
    cases mark with
    | none => exact absurd ascii.1.2 (by decide)
    | some c => simp [ih ascii.2]

/-- Bytes whose text ends in ASCII end in the bytes with the same numbers. -/
theorem stepAll_suffix {fuel : Nat} {bytes : List UInt8} {cs : List Char}
    (enough : bytes.length ≤ fuel) (ascii : ∀ c ∈ cs, 0 < c.toNat ∧ c.toNat < 128)
    (h : cs <:+ (stepAll fuel bytes).map fun c => c.getD replacement) :
  ∃ last, last <:+ bytes ∧ last.map UInt8.toNat = cs.map Char.toNat
  := by
  induction fuel generalizing bytes with
  | zero =>
    obtain rfl : cs = [] := by simpa [stepAll] using h
    use [], List.nil_suffix
    rfl
  | succ fuel ih =>
    cases bytes with
    | nil =>
      obtain rfl : cs = [] := by simpa [stepAll] using h
      use [], List.nil_suffix
      rfl
    | cons b rest =>
      rcases List.suffix_cons_iff.mp h with rfl | later
      · use b :: rest, List.suffix_rfl
        apply stepAll_ascii enough (mapM_of_ascii ascii) ascii
      · have enough : (rest.drop ((step b rest).2 - 1)).length ≤ fuel := by
          rw [List.length_drop]
          exact (Nat.sub_le _ _).trans (Nat.le_of_succ_le_succ enough)
        obtain ⟨last, ending, same⟩ := ih enough later
        use last, (ending.trans (List.drop_suffix _ _)).trans (List.suffix_cons _ _), same

theorem decodeLossy_suffix {bytes : List UInt8} {cs : List Char}
    (ascii : ∀ c ∈ cs, 0 < c.toNat ∧ c.toNat < 128)
    (h : cs <:+ (decodeLossy bytes).toList) :
  ∃ last, last <:+ bytes ∧ last.map UInt8.toNat = cs.map Char.toNat
  := by
  rw [decodeLossy, String.toList_ofList] at h
  apply stepAll_suffix (Nat.le_refl _) ascii h

end Text

/-! ### What is evidence -/

namespace Package

theorem ascii_configEndings :
  ∀ ending ∈ configEndings, (∀ c ∈ ending.toList, 0 < c.toNat ∧ c.toNat < 128)
    ∧ (Text.encode ending).map UInt8.toNat = ending.toList.map Char.toNat
  := by
  have all : configEndings.all fun ending =>
      ending.toList.all (fun c => decide (0 < c.toNat ∧ c.toNat < 128))
        && (Text.encode ending).map UInt8.toNat == ending.toList.map Char.toNat := by
    decide +kernel
  simpa using all

/-- A name that is read as one with the ending of a configuration file has that ending. -/
theorem suffix_of_endsLikeConfig {name : Name} (h : endsLikeConfig name) :
  ∃ ending ∈ configEndings, Text.encode ending <:+ name
  := by
  obtain ⟨ending, listed, ends⟩ := List.any_eq_true.mp h
  obtain ⟨ascii, numbers⟩ := ascii_configEndings ending listed
  obtain ⟨last, suffix, same⟩ :=
    Text.decodeLossy_suffix ascii (List.isSuffixOf_iff_suffix.mp ends)
  obtain rfl : last = Text.encode ending := by
    apply List.map_inj_right (fun _ _ => UInt8.toNat_inj.mp) |>.mp
    rw [same, numbers]
  use ending, listed

/-- What a directory holds if it shows that the linter is to be used in it: an entry whose
name ends like that of a configuration file, or a manifest with a field that may hold a
configuration.  Two of the endings are not those of names that are loaded. -/
def Evidence (answer : (r : Request) → r.Answer) (root : Path) : Prop :=
  (∃ entries, answer (.names root) = .ok entries
      ∧ ∃ name ∈ entries, ∃ ending ∈ ConfigFile.names ++ [".jade-lintrc.js", ".jade-lintrc.json"],
        Text.encode ending <:+ name)
    ∨ ∃ text manifest, (readText (root.child manifestName)).run answer = .ok text
      ∧ Json.parse text = .ok manifest
      ∧ ∃ field ∈ manifestFields, (manifest.member? field).isSome

/-- The configuration files are among the entries that are evidence. -/
theorem endsLikeConfig_of_name :
  ∀ name ∈ ConfigFile.names,
    Path.isEntryName (Text.encode name) ∧ endsLikeConfig (Text.encode name)
  := by
  decide +kernel

variable {answer : (r : Request) → r.Answer}

theorem run_manifestHolds (directory : Path) (holds : Json.Value → Bool) :
  (manifestHolds directory holds).run answer = true
    ↔ (isFile (directory.child manifestName)).run answer = true
      ∧ ∃ text manifest, (readText (directory.child manifestName)).run answer = .ok text
        ∧ Json.parse text = .ok manifest ∧ holds manifest = true
  := by
  rw [manifestHolds, Program.run_bind]
  cases (isFile (directory.child manifestName)).run answer with
  | false => simp
  | true =>
    simp only [if_true, Program.run_bind, readManifest]
    cases read : (readText (directory.child manifestName)).run answer with
    | error fault => simp
    | ok text => cases parsed : Json.parse text <;> simp [parsed]

theorem run_hasConfig (root : Path) :
  (hasConfig root).run answer = true
    ↔ (∃ entries, answer (.names root) = .ok entries ∧ ∃ name ∈ entries, endsLikeConfig name)
      ∨ (manifestHolds root hasConfigField).run answer = true
  := by
  rw [hasConfig, Program.run_bind, Program.run_request]
  cases answer (.names root) with
  | error fault => simp
  | ok entries =>
    simp only [Except.ok.injEq, exists_eq_left', ← List.any_eq_true]
    cases entries.any endsLikeConfig <;> simp

/-- A directory that shows that the linter is to be used in it holds the evidence. -/
theorem evidence_of_hasConfig {root : Path} (h : (hasConfig root).run answer = true) :
  Evidence answer root
  := by
  rcases (run_hasConfig root).mp h with ⟨entries, listed, name, present, ends⟩ | holds
  · obtain ⟨ending, accepted, suffix⟩ := suffix_of_endsLikeConfig ends
    have known : ∀ ending ∈ configEndings,
        ending ∈ ConfigFile.names ++ [".jade-lintrc.js", ".jade-lintrc.json"] := by
      decide
    exact .inl ⟨entries, listed, name, present, ending, known ending accepted, suffix⟩
  · obtain ⟨_, text, manifest, read, parsed, field⟩ :=
      (run_manifestHolds root hasConfigField).mp holds
    exact .inr ⟨text, manifest, read, parsed, List.any_eq_true.mp field⟩

end Package

/-! ### What resolution finds -/

/-- A resolution comes from the project: from a configuration file or from a manifest. -/
def Resolution.isOfProject (r : Resolution) : Prop :=
  ∃ path, r.source = .projectFile path ∨ r.source = .packageManifest path

/-- The file that a failure is about. -/
def Failure.path? : Failure → Option Path
  | configNotFound path => some path
  | configFault path _ => some path
  | file path _ => some path
  | _ => none

theorem Resolver.directories_self (root : Path) :
  directories root root = [root]
  := by
  have inside : root.startsWith root = true :=
    List.isPrefixOf_iff_prefix.mpr List.prefix_rfl
  have same : root.same root = true := decide_eq_true rfl
  rw [directories, inside, Path.ancestors, Path.ancestorsWithin]
  split
  · rw [throughFirst, same, Bool.and_self, if_pos rfl]
  · rw [throughFirst, same, Bool.and_self, if_pos rfl]

namespace Candidate

variable {answer : (r : Request) → r.Answer}

/-- A first success has the source of a candidate that gives options. -/
theorem exists_of_source {workspace : Path} {cs : List Candidate}
    (h : (firstSuccess workspace cs).source ≠ .default) :
  ∃ c ∈ cs, c.source = (firstSuccess workspace cs).source
    ∧ ∃ options, c.outcome = .ok (some options)
  := by
  rw [firstSuccess] at h ⊢
  cases first : cs.findSome? found? with
  | none =>
    rw [first] at h
    cases h rfl
  | some found =>
    obtain ⟨options, source⟩ := found
    obtain ⟨c, present, found⟩ := List.exists_of_findSome?_eq_some first
    obtain ⟨taken, given, same⟩ := Option.map_eq_some_iff.mp found
    obtain ⟨rfl, rfl⟩ := Prod.mk.inj same
    use c, present, rfl, taken
    rw [options?] at given
    split at given
    · rename_i outcome
      rw [outcome, given]
    · cases given

/-- The candidates for the options of a directory that is the workspace. -/
theorem mem_all_self {r : Resolver} {root : Path} {c : Candidate}
    (h : c ∈ all answer r root root none) :
  (∃ name ∈ ConfigFile.names, c = ofFile answer r.interpreter .projectFile root name)
    ∨ c = ofManifest answer root ∨ ∃ path, c.source = .homeFile path
  := by
  simp only [all, ofEditor, inFiles, Resolver.directories_self, List.nil_append,
    List.flatMap_cons, List.flatMap_nil, List.append_nil, List.map_cons, List.map_nil,
    List.mem_append, List.mem_singleton] at h
  rcases h with (file | manifest) | home
  · obtain ⟨name, listed, rfl⟩ := List.mem_map.mp file
    exact .inl ⟨name, listed, rfl⟩
  · exact .inr (.inl manifest)
  · cases place : r.home with
    | none => simp [place] at home
    | some path =>
      rw [place] at home
      obtain ⟨name, _, rfl⟩ := List.mem_map.mp home
      exact .inr (.inr ⟨path.child name, rfl⟩)

/-- A resolution that comes from the project has loaded a configuration file of the workspace
or its manifest, which is its source then. -/
theorem loads_of_isOfProject {r : Resolver} {root : Path}
    (h : ((r.resolve root root none).run answer).isOfProject) :
  (∃ name ∈ ConfigFile.names, ∃ options,
      (ConfigFile.load r.interpreter root name).run answer = .ok options)
    ∨ ((r.resolve root root none).run answer).source
        = .packageManifest (root.child Package.manifestName)
      ∧ ∃ options, (ConfigFile.loadManifest root).run answer = .ok (some options)
  := by
  obtain ⟨path, source⟩ := h
  rw [resolve_eq_firstSuccess] at source ⊢
  have given : (firstSuccess root (all answer r root root none)).source ≠ .default := by
    rcases source with source | source
    · simp [source]
    · simp [source]
  obtain ⟨c, present, same, options, outcome⟩ := exists_of_source given
  rcases mem_all_self present with ⟨name, listed, rfl⟩ | rfl | ⟨home, elsewhere⟩
  · rw [ofFile] at outcome
    cases loaded : (ConfigFile.load r.interpreter root name).run answer with
    | error failure =>
      rw [loaded] at outcome
      cases outcome
    | ok options => exact .inl ⟨name, listed, options, loaded⟩
  · exact .inr ⟨same.symm, options, outcome⟩
  · rw [elsewhere] at same
    rcases source with source | source
    · rw [source] at same
      cases same
    · rw [source] at same
      cases same

end Candidate

/-! ### Completeness -/

namespace ConfigFile

variable {answer : (r : Request) → r.Answer}

theorem content_of_readText {path : Path} {text : String}
    (h : (readText path).run answer = .ok text) :
  ∃ content, answer (.read path) = .ok content ∧ Text.decode? content = some text
  := by
  rw [readText, Program.run_bind, Program.run_request] at h
  cases told : answer (.read path) with
  | error fault =>
    rw [told] at h
    cases h
  | ok content =>
    rw [told] at h
    dsimp only at h
    use content, rfl
    split at h
    · rename_i decoded
      rw [decoded, Except.ok.inj h]
    · cases h

theorem readText_of_read {path : Path} {text : String}
    (h : (read path).run answer = .ok text) :
  (readText path).run answer = .ok text
  := by
  rw [read, Program.run_bind] at h
  cases found : (readText path).run answer with
  | ok _ =>
    rw [found] at h
    rw [Except.ok.inj h]
  | error fault =>
    rw [found] at h
    dsimp only at h
    split at h
    · cases h
    · cases h

/-- A configuration file that is loaded is there to be read, or at least is there. -/
theorem told_of_load {interpreter : Option Interpreter} {directory : Path} {name : String}
    {options : Options} (h : (load interpreter directory name).run answer = .ok options) :
  (∃ content, answer (.read (directory.child name)) = .ok content)
    ∨ ∃ status, answer (.status (directory.child name)) = .ok status
  := by
  dsimp only [load] at h
  split at h
  · rw [evaluate.eq_def, Program.run_bind, exists?, Program.run_bind, Program.run_request] at h
    cases told : answer (.status (directory.child name)) with
    | error fault =>
      rw [told] at h
      cases h
    | ok status => exact .inr ⟨status, rfl⟩
  · rw [Program.run_bind] at h
    cases found : (read (directory.child name)).run answer with
    | error failure =>
      rw [found] at h
      cases h
    | ok text =>
      obtain ⟨content, told, _⟩ := content_of_readText (readText_of_read found)
      exact .inl ⟨content, told⟩

/-- A manifest from which options are loaded can be read, and has a field that may hold
them. -/
theorem read_of_loadManifest {directory : Path} {options : Options}
    (h : (loadManifest directory).run answer = .ok (some options)) :
  ∃ text manifest, (readText (directory.child Package.manifestName)).run answer = .ok text
    ∧ Json.parse text = .ok manifest ∧ Package.hasConfigField manifest = true
  := by
  rw [loadManifest, Program.run_bind] at h
  cases found : (read (directory.child Package.manifestName)).run answer with
  | error failure =>
    rw [found] at h
    cases h
  | ok text =>
    rw [found] at h
    dsimp only at h
    cases parsed : Json.parse text with
    | error fault =>
      rw [parsed] at h
      cases h
    | ok manifest =>
      rw [parsed, Program.run_pure, optionsOfManifest] at h
      use text, manifest, readText_of_read found, parsed
      split at h
      · rename_i value field
        obtain ⟨name, listed, present⟩ := List.exists_of_findSome?_eq_some field
        apply List.any_eq_true.mpr
        use name, listed
        rw [present]
        rfl
      · cases h

end ConfigFile

namespace Machine.Grants

variable {m : Machine} {answer : (r : Request) → r.Answer}

/-- A configuration file that is loaded is an entry of the directory. -/
theorem mem_names_of_load (h : m.Grants answer) {interpreter : Option Interpreter}
    {root : Path} {entries : List Name} (listed : answer (.names root) = .ok entries)
    {name : String} (configName : name ∈ ConfigFile.names) {options : Options}
    (loaded : (ConfigFile.load interpreter root name).run answer = .ok options) :
  Text.encode name ∈ entries
  := by
  obtain ⟨proper, _⟩ := Package.endsLikeConfig_of_name name configName
  rcases ConfigFile.told_of_load loaded with ⟨content, there⟩ | ⟨status, told⟩
  · obtain ⟨_, status, told⟩ := h.read there
    apply h.mem_names_of_status proper listed told
  · apply h.mem_names_of_status proper listed told

/-- A manifest from which options are loaded is evidence, unless it is special. -/
theorem manifestHolds_of_load (h : m.Grants answer) {root : Path} {options : Options}
    (regular : ∀ status, answer (.status (root.child Package.manifestName)) = .ok status →
      status.kind ≠ .special)
    (loaded : (ConfigFile.loadManifest root).run answer = .ok (some options)) :
  (Package.manifestHolds root Package.hasConfigField).run answer = true
  := by
  obtain ⟨text, manifest, found, parsed, field⟩ := ConfigFile.read_of_loadManifest loaded
  obtain ⟨content, there, _⟩ := ConfigFile.content_of_readText found
  apply (Package.run_manifestHolds root Package.hasConfigField).mpr
  exact ⟨h.run_isFile_of_read there regular, text, manifest, found, parsed, field⟩

/-- If resolution takes its options from a directory that can be listed, and not from a special
manifest, the directory shows that the linter is to be used in it. -/
theorem hasConfig_of_isOfProject (h : m.Grants answer) {resolver : Resolver} {root : Path}
    {entries : List Name} (listed : answer (.names root) = .ok entries)
    (regular : ∀ path, ((resolver.resolve root root none).run answer).source
      = .packageManifest path →
        ∀ status, answer (.status path) = .ok status → status.kind ≠ .special)
    (used : ((resolver.resolve root root none).run answer).isOfProject) :
  (Package.hasConfig root).run answer = true
  := by
  apply (Package.run_hasConfig root).mpr
  rcases Candidate.loads_of_isOfProject used with
    ⟨name, configName, options, loaded⟩ | ⟨source, options, loaded⟩
  · refine .inl ⟨entries, listed, Text.encode name, ?_, ?_⟩
    · apply h.mem_names_of_load listed configName loaded
    · apply (Package.endsLikeConfig_of_name name configName).2
  · apply Or.inr (h.manifestHolds_of_load (regular _ source) loaded)

end Machine.Grants

end TemplateLint
