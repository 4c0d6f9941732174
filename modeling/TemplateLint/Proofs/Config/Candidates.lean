import TemplateLint.Config.Resolution

/-!
# Resolution as a first success

The sources that options may come from, laid out in one list in the order of their
priority: the editor, then the configuration files of the searched directories, then
their manifests, then the configuration files in the home directory.  Each source is
loaded by itself and gives options, nothing or a failure.  Resolution takes the first
one that gives options; its warnings are the failures before that one, in order, except
those of absent files.
-/

namespace TemplateLint

/-- A source of options, and what loading it gives: options, nothing, or a failure. -/
structure Candidate where
  source : Source
  outcome : Except Failure (Option Options)

namespace Candidate

/-- The options that a candidate gives. -/
def options? (c : Candidate) : Option Options :=
  match c.outcome with
  | .ok options => options
  | .error _ => none

/-- The failure that a candidate is passed over with, unless it is merely absent. -/
def complaint? (c : Candidate) : Option Failure :=
  match c.outcome with
  | .error (.configNotFound _) => none
  | .error failure => some failure
  | .ok _ => none

/-- The options that a candidate gives, with its source. -/
def found? (c : Candidate) : Option (Options × Source) :=
  c.options?.map fun options => (options, c.source)

/-- The candidate of the options of the editor, if there are any. -/
def ofEditor : Option Options → List Candidate
  | some options => if options.isEmpty then [] else [⟨.editor, .ok (some options)⟩]
  | none => []

variable (answer : (r : Request) → r.Answer)

/-- The candidate of a configuration file in a directory. -/
def ofFile (interpreter : Option Interpreter) (source : Path → Source) (directory : Path)
    (name : String) : Candidate :=
  ⟨source (directory.child name),
    ((ConfigFile.load interpreter directory name).run answer).map some⟩

/-- The candidate of the manifest of a directory. -/
def ofManifest (directory : Path) : Candidate :=
  ⟨.packageManifest (directory.child Package.manifestName),
    (ConfigFile.loadManifest directory).run answer⟩

/-- The candidates of the configuration files in a directory. -/
def ofFiles (interpreter : Option Interpreter) (source : Path → Source) (directory : Path) :
    List Candidate :=
  ConfigFile.names.map (ofFile answer interpreter source directory)

/-- The candidates in files, in the order of their priority. -/
def inFiles (r : Resolver) (workspace directory : Path) : List Candidate :=
  let places := Resolver.directories workspace directory
  places.flatMap (ofFiles answer r.interpreter .projectFile)
    ++ places.map (ofManifest answer)
    ++ match r.home with
      | some home => ofFiles answer r.interpreter .homeFile home
      | none => []

/-- All candidates in the order of their priority. -/
def all (r : Resolver) (workspace directory : Path) (editor : Option Options) :
    List Candidate :=
  ofEditor editor ++ inFiles answer r workspace directory

/-- The outcome of trying candidates one after another until one gives options. -/
def firstFound (cs : List Candidate) : Found (Options × Source) :=
  ⟨(cs.takeWhile fun c => c.options?.isNone).filterMap complaint?, cs.findSome? found?⟩

/-- The resolution that the first success among candidates gives: its options with a bare
preset expanded, its source, and the complaints of the candidates before it; or empty
options from no source, where no candidate succeeds. -/
def firstSuccess (workspace : Path) (cs : List Candidate) : Resolution :=
  let before := cs.takeWhile fun c => c.options?.isNone
  match cs.findSome? found? with
  | some (options, source) =>
    ⟨options.expandExtends workspace, source, before.filterMap complaint?⟩
  | none => ⟨Options.empty, .default, before.filterMap complaint?⟩

/-! ### Searches as lists of candidates -/

/-- A search that tries candidates in order. -/
def Tries (search : Program (Found (Options × Source))) (cs : List Candidate) : Prop :=
  search.run answer = firstFound cs

variable {answer}

/-- The first candidate ends the search, or its complaint comes before the outcome of the
others. -/
theorem firstFound_cons (c : Candidate) (cs : List Candidate) :
  firstFound (c :: cs)
    = match c.options? with
      | some options => ⟨[], some (options, c.source)⟩
      | none => ⟨c.complaint?.toList ++ (firstFound cs).warnings, (firstFound cs).result⟩
  := by
  cases h : c.options? with
  | some options => simp [firstFound, found?, h]
  | none => cases hc : c.complaint? <;> simp [firstFound, found?, h, hc]

theorem firstFound_append (cs ds : List Candidate) :
  firstFound (cs ++ ds)
    = match (firstFound cs).result with
      | some _ => firstFound cs
      | none => ⟨(firstFound cs).warnings ++ (firstFound ds).warnings, (firstFound ds).result⟩
  := by
  induction cs with
  | nil => rfl
  | cons c cs ih =>
    rw [List.cons_append, firstFound_cons, firstFound_cons c cs, ih]
    cases c.options? with
    | some options => rfl
    | none =>
      obtain ⟨warnings, _ | found⟩ := firstFound cs
      · simp only [List.append_assoc]
      · rfl

/-- The search that finds nothing tries no candidates. -/
theorem Tries.nothing :
  Tries answer Search.nothing []
  := rfl

/-- A search that goes on with a second one tries the candidates of both. -/
theorem Tries.orElse {first second : Program (Found (Options × Source))}
    {cs ds : List Candidate} (hc : Tries answer first cs) (hd : Tries answer second ds) :
  Tries answer (Search.orElse first second) (cs ++ ds)
  := by
  rw [Tries] at hc hd
  rw [Tries, firstFound_append, Search.orElse, Program.run_bind, hc]
  cases (firstFound cs).result with
  | some found => rfl
  | none => rw [Program.run_bind, hd, Program.run_pure]

/-- A search through several searches tries the candidates of all of them. -/
theorem Tries.firstOf {α : Type} (xs : List α) (search : α → Program (Found (Options × Source)))
    (candidates : α → List Candidate) (h : ∀ x, Tries answer (search x) (candidates x)) :
  Tries answer (Search.firstOf (xs.map search)) (xs.flatMap candidates)
  := by
  induction xs with
  | nil => apply Tries.nothing
  | cons x xs ih => apply Tries.orElse (h x) ih

/-- A search through trials tries one candidate for each of them. -/
theorem Tries.each {α : Type} (xs : List α) (search : α → Program (Found (Options × Source)))
    (candidate : α → Candidate) (h : ∀ x, Tries answer (search x) [candidate x]) :
  Tries answer (Search.firstOf (xs.map search)) (xs.map candidate)
  := by
  rw [List.map_eq_flatMap (f := candidate)]
  apply Tries.firstOf xs search _ h

/-- A trial tries one candidate, if it gives the candidate's options with its source and
fails as the candidate does. -/
theorem Tries.trial {attempt : Program (Except Failure (Option (Options × Source)))}
    {c : Candidate}
    (h : attempt.run answer = c.outcome.map (Option.map fun options => (options, c.source))) :
  Tries answer (Search.trial attempt) [c]
  := by
  obtain ⟨source, outcome⟩ := c
  rw [Tries, Search.trial, Program.run_bind, h]
  rcases outcome with failure | _ | options
  · cases failure <;> rfl
  · rfl
  · rfl

/-! ### The searches of a resolver -/

theorem tries_inFile (r : Resolver) (source : Path → Source) (directory : Path)
    (name : String) :
  Tries answer (r.inFile source directory name)
    [ofFile answer r.interpreter source directory name]
  := by
  apply Tries.trial
  rw [Program.run_bind, ofFile]
  cases (ConfigFile.load r.interpreter directory name).run answer <;> rfl

theorem tries_inFiles (r : Resolver) (source : Path → Source) (directory : Path) :
  Tries answer (r.inFiles source directory) (ofFiles answer r.interpreter source directory)
  := by
  apply Tries.each
  apply tries_inFile

theorem tries_inManifest (directory : Path) :
  Tries answer (Resolver.inManifest directory) [ofManifest answer directory]
  := by
  apply Tries.trial
  rw [Program.run_bind, ofManifest]
  rcases (ConfigFile.loadManifest directory).run answer with failure | _ | options <;> rfl

theorem tries_inHome (r : Resolver) :
  Tries answer r.inHome
    (match r.home with
    | some home => ofFiles answer r.interpreter .homeFile home
    | none => [])
  := by
  rw [Resolver.inHome]
  cases r.home with
  | none => apply Tries.nothing
  | some home => apply tries_inFiles

/-- The search through all files tries the candidates in files in the order of their
priority: the files of all directories before the first manifest. -/
theorem tries_search (r : Resolver) (workspace directory : Path) :
  Tries answer (r.search workspace directory) (inFiles answer r workspace directory)
  := by
  rw [inFiles, List.append_assoc]
  apply Tries.orElse
  · apply Tries.firstOf
    apply tries_inFiles
  · apply Tries.orElse
    · apply Tries.each
      apply tries_inManifest
    · apply tries_inHome

/-- The resolution of what candidates give is their first success. -/
theorem resolutionOf_firstFound (workspace : Path) (cs : List Candidate) :
  Resolver.resolutionOf workspace (firstFound cs) = firstSuccess workspace cs
  := by
  rw [Resolver.resolutionOf, firstSuccess, firstFound]
  cases cs.findSome? found? <;> rfl

/-- Options of the editor that are not empty are the first success. -/
theorem firstFound_ofEditor {editor : Option Options} {options : Options}
    (h : editor.filter (fun options => !options.isEmpty) = some options)
    (cs : List Candidate) :
  firstFound (ofEditor editor ++ cs) = ⟨[], some (options, .editor)⟩
  := by
  obtain ⟨rfl, present⟩ := Option.filter_eq_some_iff.mp h
  have present : options.isEmpty = false := by simpa using present
  have only : ofEditor (some options) = [⟨.editor, .ok (some options)⟩] := by
    simp [ofEditor, present]
  rw [only, List.singleton_append, firstFound_cons]
  rfl

/-- Without options of the editor, or with empty ones, the files decide. -/
theorem ofEditor_eq_nil {editor : Option Options}
    (h : editor.filter (fun options => !options.isEmpty) = none) :
  ofEditor editor = []
  := by
  cases editor with
  | none => rfl
  | some options =>
    have absent : options.isEmpty = true := by simpa using h
    simp [ofEditor, absent]

/-- Resolution is the first success among all candidates. -/
theorem resolve_eq_firstSuccess (r : Resolver) (workspace directory : Path)
    (editor : Option Options) :
  (r.resolve workspace directory editor).run answer
    = firstSuccess workspace (all answer r workspace directory editor)
  := by
  rw [all, ← resolutionOf_firstFound, Resolver.resolve]
  cases h : editor.filter fun options => !options.isEmpty with
  | some options => rw [firstFound_ofEditor h, Program.run_pure]
  | none =>
    rw [ofEditor_eq_nil h, List.nil_append, ← tries_search]
    rw [Program.run_bind, Program.run_pure]

end Candidate

end TemplateLint
