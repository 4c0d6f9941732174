import TemplateLint.Proofs.Config.Evidence
import TemplateLint.Proofs.Session.Lifecycle

/-!
# Refused sessions

A request to start a session is refused if the linter is not installed although the
workspace shows that it is to be used.  A workspace from which resolution takes its options
shows that, on every machine, unless they come out of a pipe or the like in the place of the
manifest; so such a session is not left waiting silently.  But a workspace may also show it by
the name of an entry that is never loaded.
-/

namespace TemplateLint

namespace Session

variable {setup : Setup} {answer : Answering} {request : StartRequest} {root : Path}

/-- Without the linter a session is refused if its workspace holds evidence. -/
theorem run_startUp_refused (s : Session)
    (asked : workspaceRoot setup.locator.environment.cwd request = root)
    (absent : (setup.locator.locate Package.linterName root).run answer = none)
    (configured : (Package.hasConfig root).run answer = true) :
  (startUp setup request).run (Job.calmHost answer) s
    = (.packageMissing, { s.requested setup request with phase := .unavailable }, [])
  := by
  rw [run_startUp, asked, run_lookFor_eq, History.attempt_eq_absent.mpr absent, configured]
  rfl

/-- A session is refused only if its workspace holds evidence. -/
theorem hasConfig_of_refused {s : Session}
    (refused : ((startUp setup request).run (Job.calmHost answer) s).1 = .packageMissing) :
  (Package.hasConfig (workspaceRoot setup.locator.environment.cwd request)).run answer = true
  := by
  rw [run_startUp, run_lookFor_eq] at refused
  split at refused
  · split at refused
    · rename_i configured
      apply configured
    · cases refused
  · cases refused
  · cases refused

/-- If resolution takes its options from a workspace that can be listed, unless the source is a
manifest that is special, or warns of an entry that is a configuration file, the workspace
shows that the linter is to be used; and without the linter a session in it is refused and
stays unavailable. -/
theorem refused_where_configured {m : Machine} (h : m.Grants answer) (resolver : Resolver)
    {entries : List Name} (listed : answer (.names root) = .ok entries)
    (regular : ∀ path, ((resolver.resolve root root none).run answer).source
      = .packageManifest path →
        ∀ status, answer (.status path) = .ok status → status.kind ≠ .special)
    (used : let resolution := (resolver.resolve root root none).run answer
      resolution.isOfProject ∨ ∃ name ∈ ConfigFile.names, Text.encode name ∈ entries
        ∧ ∃ failure ∈ resolution.warnings, failure.path? = some (root.child name)) :
  (Package.hasConfig root).run answer = true
    ∧ ∀ (setup : Setup) (request : StartRequest) (s : Session),
      workspaceRoot setup.locator.environment.cwd request = root →
      (setup.locator.locate Package.linterName root).run answer = none →
      let started := (startUp setup request).run (Job.calmHost answer) s
      started.1.error?.map Server.Error.code = some 99 ∧ started.2.1.phase = .unavailable
  := by
  have configured : (Package.hasConfig root).run answer = true := by
    rcases used with project | ⟨name, configName, present, _⟩
    · apply h.hasConfig_of_isOfProject listed regular project
    · apply (Package.run_hasConfig root).mpr
      refine .inl ⟨entries, listed, Text.encode name, present, ?_⟩
      apply (Package.endsLikeConfig_of_name name configName).2
  use configured
  intro setup request s asked absent started
  have ran : started = _ := run_startUp_refused s asked absent configured
  rw [ran]
  exact ⟨rfl, rfl⟩

end Session

/-! ### Workspaces with one entry -/

namespace Refusal

/-- The workspace. -/
def root : Path := .ofText "/w"

/-- A manifest with a configuration. -/
def manifest : String := "\x7b\"pugLintConfig\": \x7b\x7d\x7d"

/-- A machine in which the workspace has one entry, and with a manifest outside. -/
def machine (name : String) (node : Node) : Machine where
  tree := .directory [(Text.encode "w", .directory [(Text.encode name, node)]),
    (Text.encode "c", .file (Text.encode manifest) false)]
  cwd := []
  searchPath := []
  execute _ _ := ⟨some 0, [], []⟩

/-- Answers that grant the entry of a workspace, which is of some kind and has some content,
and the listing of the workspace. -/
def granting (name : String) (kind : FileKind) (content : String) : Answering
  | .read path => if path = root.child name then .ok (Text.encode content) else .error .notFound
  | .status path => if path = root.child name then .ok ⟨kind, false⟩ else .error .notFound
  | .names path => if path = root then .ok [Text.encode name] else .error .denied
  | .canonical _ => .error .denied
  | .outline _ => .error .denied
  | .invoke _ => .error .denied

theorem names_root (name : String) (node : Node) :
  (machine name node).names root = .ok [Text.encode name]
  := by
  have found : (machine name node).node root = .ok (.directory [(Text.encode name, node)]) :=
    Machine.node_of_nodeWithin 2 rfl
  rw [Machine.names, found]
  rfl

theorem grants_granting {name : String} {node : Node} {kind : FileKind} {content : String}
    (read : (machine name node).read (root.child name) = .ok (Text.encode content))
    (status : (machine name node).status (root.child name) = .ok ⟨kind, false⟩) :
  (machine name node).Grants (granting name kind content)
  := by
  constructor
  case read =>
    intro path bytes granted
    simp only [granting] at granted ⊢
    split at granted
    · rename_i same
      rw [same, ← granted, if_pos rfl]
      exact ⟨read, _, rfl⟩
    · cases granted
  case status =>
    intro path told granted
    simp only [granting] at granted
    split at granted
    · rename_i same
      rw [same, ← granted, status]
    · cases granted
  case names =>
    intro path names granted
    simp only [granting] at granted
    split at granted
    · rename_i same
      rw [same, ← granted, names_root]
    · cases granted

/-- A link to the manifest outside. -/
def link : Node := .link (.ofText "../c")

/-- Answers where the manifest is read through the link. -/
def linked : Answering := granting "package.json" .file manifest

/-- A pipe out of which a manifest comes. -/
def pipe : Node := .special (.ok (Text.encode manifest))

/-- Answers where the manifest is read out of the pipe. -/
def piped : Answering := granting "package.json" .special manifest

theorem grants_link :
  (machine "package.json" link).Grants linked
  := by
  have found : (machine "package.json" link).node (root.child "package.json")
      = .ok (.file (Text.encode manifest) false) :=
    Machine.node_of_nodeWithin 5 rfl
  apply grants_granting
  · rw [Machine.read, found]
    rfl
  · rw [Machine.status, found]
    rfl

theorem grants_pipe :
  (machine "package.json" pipe).Grants piped
  := by
  have found : (machine "package.json" pipe).node (root.child "package.json") = .ok pipe :=
    Machine.node_of_nodeWithin 5 rfl
  apply grants_granting
  · rw [Machine.read, found]
    rfl
  · rw [Machine.status, found]
    rfl

/-- Answers of a file system on which a name may be written in other letters than it is
listed. -/
def folding : Answering
  | .names _ => .ok [Text.encode ".PUG-LINTRC"]
  | request => granting ".pug-lintrc" .file "\x7b\x7d" request

/-- What resolution gives for the workspace. -/
def resolution (answer : Answering) : Resolution :=
  ((Resolver.mk none none).resolve root root none).run answer

/-- A server whose host runs no program. -/
def setup : Setup where
  locator := ⟨⟨.ok root, none, none, none, none⟩, true⟩
  load _ := pure (.error .unknown)
  resolver := ⟨none, none⟩

/-- The request for a session in the workspace. -/
def request : StartRequest := ⟨none, some "/w", [], none⟩

/-- A session without the linter in the workspace. -/
def started (answer : Answering) : Started × Session × List Event :=
  (Session.startUp setup request).run (Job.calmHost answer) Session.start

end Refusal

namespace Session

theorem refused_through_link :
  (Refusal.resolution Refusal.linked).source
      = .packageManifest (Refusal.root.child "package.json")
    ∧ (Package.hasConfig Refusal.root).run Refusal.linked = true
    ∧ (Refusal.started Refusal.linked).1.error?.map Server.Error.code = some 99
    ∧ (Refusal.started Refusal.linked).2.1.phase = .unavailable
  := by
  have source : (Refusal.resolution Refusal.linked).source
      = .packageManifest (Refusal.root.child "package.json") := by
    decide +kernel
  have listed : Refusal.linked (.names Refusal.root) = .ok [Text.encode "package.json"] := rfl
  have regular : ∀ path, (Refusal.resolution Refusal.linked).source = .packageManifest path →
      ∀ status, Refusal.linked (.status path) = .ok status → status.kind ≠ .special := by
    intro path same status told
    rw [source] at same
    cases same
    rw [← Except.ok.inj told]
    decide
  have absent : (Refusal.setup.locator.locate Package.linterName Refusal.root).run
      Refusal.linked = none := by
    decide +kernel
  have asked : workspaceRoot Refusal.setup.locator.environment.cwd Refusal.request
      = Refusal.root := by
    decide +kernel
  obtain ⟨configured, refused⟩ := refused_where_configured Refusal.grants_link ⟨none, none⟩
    listed regular (.inl ⟨_, .inr source⟩)
  rw [Refusal.started]
  exact ⟨source, configured, refused Refusal.setup Refusal.request Session.start asked absent⟩

/-- A session is left waiting although resolution takes its options from the workspace: out of
a pipe in the place of the manifest, or on a file system that finds a configuration file under
a name in other letters than it lists. -/
theorem unrefused_though_configured :
  (Refusal.machine "package.json" Refusal.pipe).Grants Refusal.piped
    ∧ (∀ answer ∈ [Refusal.piped, Refusal.folding],
      (∃ entries, answer (.names Refusal.root) = .ok entries)
        ∧ (Refusal.resolution answer).isOfProject
        ∧ (Package.hasConfig Refusal.root).run answer = false
        ∧ (Refusal.started answer).1.error? = none
        ∧ (Refusal.started answer).2.1.phase = .awaitingPackage)
  := by
  use Refusal.grants_pipe
  intro answer listed
  simp only [List.mem_cons, List.not_mem_nil, or_false] at listed
  rcases listed with rfl | rfl
  · refine ⟨⟨_, rfl⟩, ⟨Refusal.root.child "package.json", .inr ?_⟩, ?_⟩
    · decide +kernel
    · decide +kernel
  · refine ⟨⟨_, rfl⟩, ⟨Refusal.root.child ".pug-lintrc", .inl ?_⟩, ?_⟩
    · decide +kernel
    · decide +kernel

end Session

/-! ### Evidence that is never loaded -/

namespace Refusal

/-- Answers in a workspace with one file of the given name. -/
def only (name : String) : Answering
  | .read path => if path = root.child name then .ok [] else .error .notFound
  | .status path => if path = root.child name then .ok ⟨.file, false⟩ else .error .notFound
  | .names _ => .ok [Text.encode name]
  | .canonical _ => .error .denied
  | .outline _ => .error .denied
  | .invoke _ => .error .denied

end Refusal

namespace Session

/-- A workspace shows that the linter is to be used only by an entry whose name ends like that
of a configuration file, or by a field of its manifest; and a session is refused only in
such a workspace. -/
theorem refused_only_with_evidence (answer : Answering) :
  (∀ root, (Package.hasConfig root).run answer = true → Package.Evidence answer root)
    ∧ ∀ (setup : Setup) (request : StartRequest) (s : Session),
      ((startUp setup request).run (Job.calmHost answer) s).1.error?.map Server.Error.code
        = some 99 →
      Package.Evidence answer (workspaceRoot setup.locator.environment.cwd request)
  := by
  constructor
  · intro root configured
    apply Package.evidence_of_hasConfig configured
  · intro setup request s refused
    apply Package.evidence_of_hasConfig
    apply hasConfig_of_refused ((History.error_code _).mp refused)

theorem refused_with_evidence :
  (Package.hasConfig Refusal.root).run (Refusal.only "old.pug-lintrc") = true
    ∧ (Refusal.started (Refusal.only "old.pug-lintrc")).1.error?.map Server.Error.code = some 99
    ∧ Package.Evidence (Refusal.only "old.pug-lintrc") Refusal.root
  := by
  have configured : (Package.hasConfig Refusal.root).run (Refusal.only "old.pug-lintrc")
      = true := by
    decide +kernel
  have refused : (Refusal.started (Refusal.only "old.pug-lintrc")).1.error?.map
      Server.Error.code = some 99 := by
    decide +kernel
  use configured, refused
  apply (refused_only_with_evidence (Refusal.only "old.pug-lintrc")).2 _ _ _ refused

/-- A session is refused because of an entry that resolution passes over, although there is no
entry with the name of a configuration file, and no manifest. -/
theorem refused_for_unloaded :
  (Package.hasConfig Refusal.root).run (Refusal.only ".jade-lintrc.js") = true
    ∧ (Refusal.started (Refusal.only ".jade-lintrc.js")).1.error?.map Server.Error.code = some 99
    ∧ ¬((∃ entries, Refusal.only ".jade-lintrc.js" (.names Refusal.root) = .ok entries
        ∧ ∃ name ∈ ConfigFile.names, Text.encode name ∈ entries)
      ∨ ∃ text, (readText (Refusal.root.child Package.manifestName)).run
        (Refusal.only ".jade-lintrc.js") = .ok text)
    ∧ ((Resolver.mk none none).resolve Refusal.root Refusal.root none
      |>.run (Refusal.only ".jade-lintrc.js")).source = .default
    ∧ (Package.hasConfig Refusal.root).run (Refusal.only "old.pug-lintrc") = true
  := by
  refine ⟨by decide +kernel, by decide +kernel, ?unloaded, by decide +kernel, by decide +kernel⟩
  case unloaded =>
    rintro (⟨entries, listed, name, loaded, present⟩ | ⟨text, read⟩)
    · have absent : ∀ name ∈ ConfigFile.names,
          Text.encode name ∉ [Text.encode ".jade-lintrc.js"] := by
        decide +kernel
      rw [← Except.ok.inj listed] at present
      apply absent name loaded present
    · have nowhere : (readText (Refusal.root.child Package.manifestName)).run
          (Refusal.only ".jade-lintrc.js") = .error .notFound := by
        rfl
      rw [nowhere] at read
      cases read

end Session

end TemplateLint
