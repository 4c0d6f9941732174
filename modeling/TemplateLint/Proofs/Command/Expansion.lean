import TemplateLint.Command.Perform
import TemplateLint.Proofs.Session.Expansion

/-!
# Expansion in use

Options are expanded once and for all, and nobody gets to see them before: neither the linter
of a session, nor the linter of the command that checks templates, nor who reads what the
command that shows the configuration writes.  What a linter would make of options that are not
expanded makes no difference to the command.
-/

namespace TemplateLint

/-- Programs that go on alike with every result that they may have are equal. -/
theorem Program.Ends.bind_congr {p : α → Prop} {first : Program α} {next other : α → Program β}
    (h : first.Ends p) (same : ∀ a, p a → next a = other a) :
  first >>= next = first >>= other
  := by
  change first.bind next = first.bind other
  induction first with
  | done a => apply same a h
  | ask request rest ih =>
    rw [Program.bind, Program.bind]
    congr 1
    funext reply
    apply ih reply (h reply)

namespace Command

/-! ### Checks -/

/-- Whether two checkers make the same of expanded options. -/
def AgreeOnExpanded (first second : Checker) : Prop :=
  ∀ (options : Options) (text : String) (path : Path), options.IsExpanded →
    first options text path = second options text path

theorem checkFiles_congr {first second : Checker} (agree : AgreeOnExpanded first second)
    (resolver : Resolver) (workspace : Path) (files : List Path) (done : Checked) :
  checkFiles first resolver workspace files done = checkFiles second resolver workspace files done
  := by
  induction files generalizing done with
  | nil => rfl
  | cons file rest ih =>
    rw [checkFiles, checkFiles]
    congr 1
    funext content
    cases content with
    | error fault => rfl
    | ok text =>
      apply (resolver.resolve_ends workspace _ none).bind_congr
      intro resolution expanded
      rw [agree _ _ _ expanded]
      congr 1
      funext outcome
      cases outcome with
      | ok problems => apply ih
      | error failure => apply ih

/-- The command that checks templates, with a linter that is loaded in another way. -/
def checkWith (load : Loader) (c : Context) (paths : List Path) (workspace : Option Path)
    (format : Format) : Program Output := do
  match ← c.workspaceRoot workspace with
  | .error cause => return giveUp "" cause
  | .ok root =>
    match ← c.locator.require Package.linterName root with
    | .error failure => return giveUp "" (.notInstalled failure)
    | .ok package =>
      match ← load package with
      | .error failure => return giveUp "" (.notLoaded failure)
      | .ok checker =>
        let resolver ← c.resolver
        match ← collect paths with
        | .error invalid => return giveUp "" (.invalidPath invalid)
        | .ok files =>
          match ← checkFiles checker resolver root files ⟨[], ""⟩ with
          | .error output => return output
          | .ok checked => return finish format checked

/-- The command that checks templates is the one with the linter that the context loads. -/
theorem checkWith_load (c : Context) (paths : List Path) (workspace : Option Path)
    (format : Format) :
  checkWith c.load c paths workspace format = check c paths workspace format
  := rfl

/-- A way to load the linter, with a change to what is loaded. -/
def changing (load : Loader) (change : Checker → Checker) : Loader := fun package => do
  return (← load package).map change

/-- A change to the linter that is not about expanded options makes no difference to the
command. -/
theorem checkWith_changing (load : Loader) {change : Checker → Checker}
    (agree : ∀ checker, AgreeOnExpanded (change checker) checker) (c : Context)
    (paths : List Path) (workspace : Option Path) (format : Format) :
  checkWith (changing load change) c paths workspace format
    = checkWith load c paths workspace format
  := by
  rw [checkWith, checkWith]
  congr 1
  funext root
  cases root with
  | error invalid => rfl
  | ok root =>
    dsimp only
    congr 1
    funext found
    cases found with
    | error failure => rfl
    | ok package =>
      dsimp only
      rw [changing, bind_assoc]
      congr 1
      funext loaded
      rw [pure_bind]
      cases loaded with
      | error failure => rfl
      | ok checker =>
        simp only [Except.map, checkFiles_congr (agree checker)]

/-! ### Showing a configuration -/

/-- Whether the end of a command shows a resolution to expanded options, or tells why the
command was given up; or there is none, because the resolution has no written form. -/
def ShowsExpanded (output : Option Output) : Prop :=
  (∃ cause, output = some (giveUp "" cause))
    ∨ ∃ resolution : Resolution, resolution.options.IsExpanded ∧ output = shown resolution

theorem showFor_ends (c : Context) (root : Path) (target : Except InvalidPath Path) :
  (showFor c root target).Ends ShowsExpanded
  := by
  cases target with
  | error invalid => exact .inl ⟨_, rfl⟩
  | ok target =>
    apply (Program.ends_trivially _).bind
    intro directory _
    apply (Program.ends_trivially _).bind
    intro resolver _
    apply (resolver.resolve_ends root directory none).bind
    intro resolution expanded
    exact .inr ⟨resolution, expanded, rfl⟩

theorem showConfig_ends (c : Context) (path workspace : Option Path) :
  (showConfig c path workspace).Ends ShowsExpanded
  := by
  apply (Program.ends_trivially _).bind
  intro root _
  cases root with
  | error cause => exact .inl ⟨cause, rfl⟩
  | ok root =>
    cases path with
    | none => apply showFor_ends
    | some path =>
      apply (Program.ends_trivially _).bind
      intro target _
      apply showFor_ends

end Command

/-! ### Everywhere -/

/-- Expansion keeps the keys in their order and all values but the name of a preset, which it
replaces exactly if it is bare; and expanded options stay as they are in every workspace.  The
options of all engines of a session, of all checks that it asks for and of all directories that
it keeps any for are expanded, whatever messages come, in whichever order their jobs go on and
whatever the machine answers.  The command that checks templates consults the linter about
expanded options only, and the command that shows the configuration shows only such options. -/
theorem expanded_everywhere :
  (∀ (o : Options) (workspace : Path),
      Json.Members.keys (o.expandExtends workspace).members = Json.Members.keys o.members
        ∧ (∀ (i : Nat) (key : String) (value : Json.Value), o.members[i]? = some (key, value) →
            key ≠ "extends" ∨ value.text? = none →
            (o.expandExtends workspace).members[i]? = some (key, value))
        ∧ (o.expandExtends workspace ≠ o ↔ ∃ name, o.extends? = some name
            ∧ name ≠ "" ∧ '/' ∉ name.toList ∧ '\\' ∉ name.toList)
        ∧ ∀ other : Path, (o.expandExtends workspace).expandExtends other
            = o.expandExtends workspace)
    ∧ (∀ (setup : Setup) (answer : Answering) (moves : List Move),
        (∀ m ∈ moves, m.Works setup) →
        let pool := (Pool.ofSession answer .start).play moves
        (∀ engine ∈ pool.session.engines, engine.options.IsExpanded)
          ∧ (∀ entry ∈ pool.session.cache, entry.2.IsExpanded)
          ∧ ∀ options text path, .checking options text path ∈ pool.events → options.IsExpanded)
    ∧ (∀ (c : Command.Context) (paths : List Path) (workspace : Option Path)
        (format : Command.Format) (change : Checker → Checker),
        (∀ checker, Command.AgreeOnExpanded (change checker) checker) →
        Command.checkWith (Command.changing c.load change) c paths workspace format
          = Command.check c paths workspace format)
    ∧ ∀ (c : Command.Context) (path workspace : Option Path) (answer : Answering),
        Command.ShowsExpanded ((Command.showConfig c path workspace).run answer)
  := by
  refine ⟨fun o workspace => ⟨?keys, ?values, ?exactly, ?again⟩, ?session, ?check, ?shown⟩
  case keys => apply Options.keys_expandExtends
  case values =>
    intro i key value found other
    apply Options.getElem?_expandExtends found other
  case exactly =>
    rw [ne_eq, Options.expandExtends_eq_iff, Options.not_isExpanded_iff]
    simp only [Options.isBare_iff, not_or, ne_eq]
  case again =>
    intro other
    apply Options.expandExtends_of_isExpanded
    apply Options.isExpanded_expandExtends
  case session =>
    intro setup answer moves works
    have holds := (Pool.holds_start answer).play setup.resolver.gives_isExpanded works
    refine ⟨holds.session.engines, holds.session.cache, fun options text path asked => ?_⟩
    exact holds.checks (options, text, path) (List.mem_filterMap.mpr ⟨_, asked, rfl⟩)
  case check =>
    intro c paths workspace format change agree
    rw [← Command.checkWith_load]
    apply Command.checkWith_changing c.load agree
  case shown =>
    intro c path workspace answer
    apply (Command.showConfig_ends c path workspace).run

namespace Sample

/-- A manifest that extends a preset by its name. -/
def presetManifest : String := "\x7b\"pugLintConfig\": \x7b\"extends\": \"clock\"\x7d\x7d"

/-- A session starts in the workspace, and a template is opened there. -/
def presetMoves : List Move :=
  [.start ((Message.start (startIn "/w")).job setup), .resume 0, .resume 0, .resume 0, .resume 0,
    .start ((Message.opened document).job setup)] ++ List.replicate 20 (.resume 1)

/-- The pool in which the preset is used. -/
def presetPool : Pool :=
  (Pool.ofSession (answer (some presetManifest)) .start).play presetMoves

end Sample

/-- A preset that a manifest names is expanded for the check and for the engine, and an
expanded preset is not expanded again in another workspace. -/
theorem expanded_in_presetPool :
  (Event.checks Sample.presetPool.events).map (fun check => check.1.extends?)
      = [some "/w/node_modules/pug-lint-config-clock/index.js"]
    ∧ (∀ engine ∈ Sample.presetPool.session.engines, engine.options.IsExpanded)
    ∧ ∀ other, (Options.expandExtends ⟨[("extends", .text "clock")]⟩ .here).expandExtends other
      = Options.expandExtends ⟨[("extends", .text "clock")]⟩ .here
  := by
  obtain ⟨options, session, _, _⟩ := expanded_everywhere
  have works : ∀ m ∈ Sample.presetMoves, m.Works Sample.setup := by
    simp only [Sample.presetMoves, List.cons_append, List.nil_append, List.forall_mem_cons]
    refine ⟨.inr ⟨_, rfl⟩, trivial, trivial, trivial, trivial, .inr ⟨_, rfl⟩, ?_⟩
    intro m present
    rw [List.eq_of_mem_replicate present]
    trivial
  refine ⟨by decide +kernel, ?_, (options _ _).2.2.2⟩
  rw [Sample.presetPool]
  apply (session Sample.setup (Sample.answer (some Sample.presetManifest))
    Sample.presetMoves works).1

end TemplateLint
