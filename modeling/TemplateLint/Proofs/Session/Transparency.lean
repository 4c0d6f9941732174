import TemplateLint.Proofs.Session.Agreement

/-!
# Transparency of kept options

A session that keeps the options of directories asks the linter for the same checks as
one that keeps none, as long as changes of configuration files are announced.  Two more
things are needed.  A session that keeps options is not started again at another root,
since options are kept under a directory but depend on the root too.  And directories that
differ only in how they are written have the same options: they are one directory to the
session, but a path may be written so long that the machine refuses it.
-/

namespace TemplateLint

namespace History

/-- The history after one more turn in a session that keeps no options. -/
def turnForgetful (setup : Setup) (h : History) (t : Turn) : History :=
  { h with answer := t.answer }.run (t.message.job setup).forgetful

/-- The history after turns in a session that keeps no options. -/
def afterForgetful (setup : Setup) (h : History) (turns : List Turn) : History :=
  turns.foldl (turnForgetful setup) h

/-- How a history compares to one without kept options: it asked for the same checks, and
its state is orderly and the same but for the options that it keeps. -/
structure Shadows (c : Surroundings) (fresh h : History) : Prop where
  session : fresh.session = h.session.forget
  checks : Event.checks fresh.events = Event.checks h.events
  orderly : h.session.Orderly { c with answer := h.answer }

variable {c : Surroundings} {fresh h : History}

/-- What a turn does compares to what it does without kept options, from a state on that
keeps the same options unless the turn names a configuration file. -/
theorem turn_mirrored {t : Turn} (shadows : Shadows c fresh h)
    (unchanged : t.message.namesConfig = true ∨ h.session.cache = []
      ∨ c.setup.resolver.Alike h.answer t.answer)
    (expected : t.message.Expected c h.session)
    (alike : Surroundings.SpelledAlike { c with answer := t.answer }) :
  ∃ base next events events' account,
    h.turn c.setup t = ⟨t.answer, next, h.events ++ events⟩
      ∧ fresh.turnForgetful c.setup t = ⟨t.answer, next.forget, fresh.events ++ events'⟩
      ∧ Mirrored { c with answer := t.answer } base next events events' account
      ∧ (t.message.namesConfig = false → base.cache = h.session.cache)
  := by
  have kept (unnamed : t.message.namesConfig = false) :
      h.session.Orderly { c with answer := t.answer } := by
    rcases unchanged with named | empty | alike
    · rw [unnamed] at named
      cases named
    · refine { shadows.orderly with faithful := ?_ }
      intro entry present
      rw [empty] at present
      cases present
    · apply shadows.orderly.alike alike
  obtain ⟨base, ⟨next, events, events', account, run, forgetful, mirrored⟩, cache⟩ :=
    mirrored_job t.message (shadows.orderly.drop t.answer) kept expected alike
  refine ⟨base, next, events, events', account, ?_, ?_, mirrored, cache⟩
  · apply run_eq { h with answer := t.answer } run
  · rw [← shadows.session] at forgetful
    apply run_eq { fresh with answer := t.answer } forgetful

/-! ### Turn after turn -/

/-- Whether turns may follow a history: changes of configuration files are announced as
long as options are kept, messages come when they may, and directories that differ only in
how they are written have the same options. -/
def Admits (c : Surroundings) : History → List Turn → Prop
  | _, [] => True
  | h, t :: rest =>
    (t.message.namesConfig = true ∨ h.session.cache = []
        ∨ c.setup.resolver.Alike h.answer t.answer)
      ∧ t.message.Expected c h.session
      ∧ Surroundings.SpelledAlike { c with answer := t.answer }
      ∧ Admits c (h.turn c.setup t) rest

theorem admits_append (earlier later : List Turn) :
  h.Admits c (earlier ++ later)
    ↔ h.Admits c earlier ∧ (h.after c.setup earlier).Admits c later
  := by
  induction earlier generalizing h with
  | nil => simp [Admits, after]
  | cons t rest ih =>
    simp only [List.cons_append, Admits, ih, and_assoc]
    rfl

/-- Turns may follow if they are announced one after another and come when they may. -/
theorem admits_of_announced {before : Turn} {turns : List Turn}
    (now : h.answer = before.answer)
    (announced : List.IsChain (Announced c.setup.resolver) (before :: turns))
    (expected : ∀ earlier t later, turns = earlier ++ t :: later →
      t.message.Expected c (h.after c.setup earlier).session)
    (alike : ∀ t ∈ turns, Surroundings.SpelledAlike { c with answer := t.answer }) :
  h.Admits c turns
  := by
  induction turns generalizing h before with
  | nil => trivial
  | cons t rest ih =>
    rw [List.isChain_cons_cons] at announced
    have first := announced.1
    rw [Announced, ← now] at first
    refine ⟨first.imp_right Or.inr, expected [] t rest rfl, alike t List.mem_cons_self, ?_⟩
    apply ih rfl announced.2
    · rintro earlier u later rfl
      apply expected (t :: earlier) u later rfl
    · intro u present
      apply alike u (List.mem_cons_of_mem _ present)

/-- Where nothing is kept, nothing needs to be announced. -/
theorem admits_of_empty {turns : List Turn} (empty : h.session.cache = [])
    (announced : List.IsChain (Announced c.setup.resolver) turns)
    (expected : ∀ earlier t later, turns = earlier ++ t :: later →
      t.message.Expected c (h.after c.setup earlier).session)
    (alike : ∀ t ∈ turns, Surroundings.SpelledAlike { c with answer := t.answer }) :
  h.Admits c turns
  := by
  cases turns with
  | nil => trivial
  | cons t rest =>
    refine ⟨.inr (.inl empty), expected [] t rest rfl, alike t List.mem_cons_self, ?_⟩
    apply admits_of_announced rfl announced
    · rintro earlier u later rfl
      apply expected (t :: earlier) u later rfl
    · intro u present
      apply alike u (List.mem_cons_of_mem _ present)

/-- A turn keeps the comparison to the history without kept options. -/
theorem turn_shadows {t : Turn} {rest : List Turn} (shadows : Shadows c fresh h)
    (admits : h.Admits c (t :: rest)) :
  Shadows c (fresh.turnForgetful c.setup t) (h.turn c.setup t)
  := by
  obtain ⟨unchanged, expected, alike, -⟩ := admits
  obtain ⟨base, next, events, events', account, run, forgetful, mirrored, -⟩ :=
    turn_mirrored shadows unchanged expected alike
  rw [run, forgetful]
  constructor
  · rfl
  · rw [Event.checks_append, Event.checks_append, shadows.checks, mirrored.checks]
  · apply mirrored.orderly

/-- So do any number of turns. -/
theorem after_shadows {turns : List Turn} (shadows : Shadows c fresh h)
    (admits : h.Admits c turns) :
  Shadows c (fresh.afterForgetful c.setup turns) (h.after c.setup turns)
  := by
  induction turns generalizing h fresh with
  | nil => apply shadows
  | cons t rest ih =>
    apply ih (turn_shadows shadows admits)
    apply admits.2.2.2

/-! ### Warnings -/

/-- Whether a resolution is one that was made of files in a turn. -/
def Consulted (c : Surroundings) (turns : List Turn) (entry : Path × Resolution) : Prop :=
  ∃ t ∈ turns, ∃ root ∈ c.roots,
    entry.2 = (c.setup.resolver.resolve root entry.1 none).run t.answer

/-- How a history goes on in turns: to the options that are kept at first those of
resolutions are added, and the warnings of these are shown. -/
structure Tells (c : Surroundings) (turns : List Turn) (cache : Cache) (h later : History)
    (account : Account) : Prop where
  cache : later.session.cache = cache ++ account.kept
  warnings : Event.warnings later.events = Event.warnings h.events ++ account.told
  consulted : ∀ entry ∈ account, Consulted c turns entry

theorem Tells.refl (c : Surroundings) (h : History) :
  Tells c [] h.session.cache h h []
  where
  cache := by rw [Account.kept, List.map_nil, List.append_nil]
  warnings := by rw [Account.told, List.flatMap_nil, List.append_nil]
  consulted := List.forall_mem_nil _

theorem Tells.trans {earlier later : List Turn} {cache : Cache} {h₁ h₂ h₃ : History}
    {a b : Account} (first : Tells c earlier cache h₁ h₂ a)
    (second : Tells c later h₂.session.cache h₂ h₃ b) :
  Tells c (earlier ++ later) cache h₁ h₃ (a ++ b)
  where
  cache := by rw [second.cache, first.cache, Account.kept_append, List.append_assoc]
  warnings := by
    rw [second.warnings, first.warnings, Account.told_append, List.append_assoc]
  consulted := by
    intro entry present
    rcases List.mem_append.mp present with present | present
    · obtain ⟨t, mem, consulted⟩ := first.consulted entry present
      use t, List.mem_append_left _ mem
    · obtain ⟨t, mem, consulted⟩ := second.consulted entry present
      use t, List.mem_append_right _ mem

/-- The resolutions whose warnings are shown are of directories that differ, if those are
whose options are kept. -/
theorem Tells.distinct {turns : List Turn} {cache : Cache} {later : History}
    {account : Account} (tells : Tells c turns cache h later account)
    (distinct : later.session.cache.Pairwise fun a b => a.1.same b.1 = false) :
  account.Pairwise fun a b => a.1.same b.1 = false
  := by
  rw [tells.cache, List.pairwise_append] at distinct
  apply List.pairwise_map.mp distinct.2.1

theorem turn_tells {t : Turn} {rest : List Turn} (shadows : Shadows c fresh h)
    (admits : h.Admits c (t :: rest)) :
  ∃ cache account, Tells c [t] cache h (h.turn c.setup t) account
    ∧ (t.message.namesConfig = false → cache = h.session.cache)
  := by
  obtain ⟨unchanged, expected, alike, -⟩ := admits
  obtain ⟨base, next, events, events', account, run, -, mirrored, cache⟩ :=
    turn_mirrored shadows unchanged expected alike
  rw [run]
  refine ⟨base.cache, account, ⟨mirrored.cache, ?_, ?_⟩, cache⟩
  · rw [← mirrored.warnings]
    apply List.filter_append
  · intro entry present
    refine ⟨t, List.mem_singleton_self t, base.root.getD Path.here, ?_,
      mirrored.resolved entry present⟩
    rw [← mirrored.root]
    apply mirrored.orderly.rooted

/-- As long as no configuration file is named, options are only added. -/
theorem after_tells {turns : List Turn} (shadows : Shadows c fresh h)
    (admits : h.Admits c turns) (unnamed : ∀ t ∈ turns, t.message.namesConfig = false) :
  ∃ account, Tells c turns h.session.cache h (h.after c.setup turns) account
  := by
  induction turns generalizing h fresh with
  | nil => refine ⟨[], Tells.refl c h⟩
  | cons t rest ih =>
    obtain ⟨cache, first, tells, kept⟩ := turn_tells shadows admits
    rw [kept (unnamed t List.mem_cons_self)] at tells
    obtain ⟨second, tells'⟩ :=
      ih (turn_shadows shadows admits) admits.2.2.2 fun u present =>
        unnamed u (List.mem_cons_of_mem _ present)
    refine ⟨first ++ second, tells.trans tells'⟩

/-- A turn and those after it that name no configuration file show the warnings of one
resolution for each directory at most. -/
theorem after_cons_tells {t : Turn} {rest : List Turn} (shadows : Shadows c fresh h)
    (admits : h.Admits c (t :: rest))
    (unnamed : ∀ u ∈ rest, u.message.namesConfig = false) :
  ∃ cache account, Tells c (t :: rest) cache h (h.after c.setup (t :: rest)) account
    ∧ account.Pairwise fun a b => a.1.same b.1 = false
  := by
  obtain ⟨cache, first, tells, -⟩ := turn_tells shadows admits
  obtain ⟨second, tells'⟩ :=
    after_tells (turn_shadows shadows admits) admits.2.2.2 unnamed
  refine ⟨cache, first ++ second, tells.trans tells', ?_⟩
  apply (tells.trans tells').distinct
  apply (after_shadows shadows admits).orderly.distinct

/-! ### Whole conversations -/

/-- The surroundings of turns: the session may have the working directory for its root or
the root that a message starts it with, and the documents that are opened. -/
def surroundings (setup : Setup) (answer : Answering) (turns : List Turn) : Surroundings where
  setup := setup
  answer := answer
  roots := Path.here :: turns.filterMap fun t =>
    match t.message with
    | .start request => some (Session.workspaceRoot setup.locator.environment.cwd request)
    | _ => none
  opened uri := ∃ t ∈ turns, ∃ document, t.message = .opened document ∧ document.uri = uri

theorem orderly_start (setup : Setup) (answer : Answering) (turns : List Turn) :
  Session.start.Orderly (surroundings setup answer turns)
  where
  faithful := List.forall_mem_nil _
  distinct := List.Pairwise.nil
  known := by simp [Session.start]
  rooted := List.mem_cons_self
  documents := List.forall_mem_nil _

/-- A message of some turns may come if a session is started only at a root that it may
have. -/
theorem expected_of_mem {setup : Setup} {answer : Answering} {turns : List Turn} {t : Turn}
    (present : t ∈ turns) {s : Session}
    (starts : ∀ request, t.message = .start request →
      s.Accepts (Session.workspaceRoot setup.locator.environment.cwd request)) :
  t.message.Expected (surroundings setup answer turns) s
  := by
  obtain ⟨now, message⟩ := t
  cases message with
  | start request =>
    use starts request rfl
    apply List.mem_cons_of_mem
    rw [List.mem_filterMap]
    use ⟨now, .start request⟩, present
    rfl
  | opened document => use ⟨now, .opened document⟩, present, document
  | _ => trivial

/-- Whatever messages a session gets, it asks the linter for the same checks as a session
that keeps no options, if changes of configuration files are announced, if it is not
started at another root while it keeps options, and if directories that differ only in how
they are written have the same options.  Moreover it keeps only options that files give, and as
long as no configuration file is named again, the warnings are those of one resolution for
each directory at most. -/
theorem kept_options_transparent (setup : Setup) (answer : Answering) (turns : List Turn)
    (announced : List.IsChain (Announced setup.resolver) turns)
    (restarts : ∀ earlier t later request, turns = earlier ++ t :: later →
      t.message = .start request →
        ((ofSession answer Session.start).after setup earlier).session.Accepts
          (Session.workspaceRoot setup.locator.environment.cwd request))
    (alike : ∀ t ∈ turns, (surroundings setup t.answer turns).SpelledAlike) :
  let h := (ofSession answer Session.start).after setup turns
  Event.checks ((ofSession answer Session.start).afterForgetful setup turns).events
      = Event.checks h.events
    ∧ (∀ entry ∈ h.session.cache, entry.2
        = Session.fileOptions setup h.answer (h.session.root.getD Path.here) entry.1)
    ∧ ∀ earlier t later later', turns = earlier ++ t :: later ++ later' →
      (∀ u ∈ later, u.message.namesConfig = false) →
        ∃ account : Account,
          Event.warnings
              ((ofSession answer Session.start).after setup (earlier ++ t :: later)).events
            = Event.warnings ((ofSession answer Session.start).after setup earlier).events
              ++ account.told
          ∧ (account.Pairwise fun a b => a.1.same b.1 = false)
          ∧ ∀ entry ∈ account, Consulted (surroundings setup answer turns) (t :: later) entry
  := by
  intro h
  let c := surroundings setup answer turns
  have shadows : Shadows c (ofSession answer Session.start) (ofSession answer Session.start) :=
    ⟨rfl, rfl, orderly_start setup answer turns⟩
  have expected (earlier : List Turn) (t : Turn) (later : List Turn)
      (split : turns = earlier ++ t :: later) :
      t.message.Expected c ((ofSession answer Session.start).after setup earlier).session := by
    apply expected_of_mem
    · rw [split]
      apply List.mem_append_right _ List.mem_cons_self
    · intro request starts
      apply restarts earlier t later request split starts
  have admits : (ofSession answer Session.start).Admits c turns :=
    admits_of_empty rfl announced expected alike
  have shadowed := after_shadows shadows admits
  refine ⟨shadowed.checks, shadowed.orderly.faithful, ?_⟩
  intro earlier t later later' split unnamed
  rw [split, admits_append, admits_append] at admits
  obtain ⟨cache, account, tells, distinct⟩ :=
    after_cons_tells (after_shadows shadows admits.1.1) admits.1.2 unnamed
  refine ⟨account, ?_, distinct, tells.consulted⟩
  rw [after_append]
  apply tells.warnings

/-- The turns of the sample. -/
def sampled : List Turn := ⟨Sample.answer none, .start (Sample.startIn "/w")⟩ :: Sample.turns

/-- One document is opened in the sample. -/
theorem opened_in_sample {t : Turn} (present : t ∈ sampled) {document : Document}
    (opened : t.message = .opened document) :
  document = Sample.document
  := by
  simp only [sampled, Sample.turns, List.mem_cons, List.not_mem_nil, or_false] at present
  rcases present with rfl | rfl | rfl
  · cases opened
  · cases opened
    rfl
  · cases opened

/-- The manifest is named when it appears. -/
theorem announced_in_sample :
  List.IsChain (Announced Sample.setup.resolver) sampled
  := by
  simp only [sampled, Sample.turns, List.isChain_cons_cons, List.IsChain.singleton, and_true]
  constructor
  · right
    intro root directory
    rfl
  · left
    decide +kernel

/-- If one document is opened, its directory is written in one way. -/
theorem spelledAlike_of_one (document : Document)
    (one : ∀ uri, c.opened uri → uri = document.uri) :
  c.SpelledAlike
  := by
  intro root _ d e opened opened' _
  rw [Session.directoryOf_congr root ((one _ opened).trans (one _ opened').symm)]

theorem sample_transparent :
  (Event.checks
      ((ofSession (Sample.answer none) Session.start).after Sample.setup sampled).events).length
      = 2
    ∧ Event.checks
        ((ofSession (Sample.answer none) Session.start).afterForgetful Sample.setup
          sampled).events
      = Event.checks
        ((ofSession (Sample.answer none) Session.start).after Sample.setup sampled).events
  := by
  constructor
  · decide +kernel
  refine (kept_options_transparent Sample.setup (Sample.answer none) sampled
    announced_in_sample ?_ ?_).1
  · intro earlier t later request split starts
    cases earlier with
    | nil =>
      left
      rfl
    | cons u rest =>
      have present : t ∈ Sample.turns := by
        rw [sampled, List.cons_append, List.cons.injEq] at split
        rw [split.2]
        apply List.mem_append_right _ List.mem_cons_self
      simp only [Sample.turns, List.mem_cons, List.not_mem_nil, or_false] at present
      rcases present with rfl | rfl
      · cases starts
      · cases starts
  · intro t _
    apply spelledAlike_of_one Sample.document
    rintro uri ⟨t, present, document, opened, rfl⟩
    rw [opened_in_sample present opened]

/-- A machine that refuses paths of more than so many bytes. -/
def refusing (limit : Nat) (answer : Answering) : Answering
  | .status path =>
    if path.bytes.length ≤ limit then answer (.status path) else .error .nameTooLong
  | .read path =>
    if path.bytes.length ≤ limit then answer (.read path) else .error .nameTooLong
  | request => answer request

/-- A session is started in a directory and, with its linter, once more in one below. -/
def restarted : List Turn :=
  [.start (Sample.startIn "/w"), .opened (Sample.template "/w/a/a.pug"),
    .start (Sample.startIn "/w/a"), .changed (Sample.template "/w/a/a.pug").uri 2 ["q"]].map
    fun message => ⟨Sample.answer (some Sample.manifest), message⟩

/-- The directory of two documents is written in two ways, once too long for the machine. -/
def respelled : List Turn :=
  [.start (Sample.startIn "/w/b"), .opened (Sample.template "/w/a.pug"),
    .opened (Sample.template ("/" ++ String.join (List.replicate 40 "%2F") ++ "/w/b.pug"))].map
    fun message => ⟨refusing 40 (Sample.answer (some Sample.manifest)), message⟩

/-- Whether the options of each check are empty. -/
def emptiness (h : History) : List Bool :=
  (Event.checks h.events).map fun check => check.1.isEmpty

/-- What stays the same needs no announcement. -/
theorem announced_unchanged (r : Resolver) (answer : Answering) (messages : List Message) :
  List.IsChain (Announced r) (messages.map fun message => ⟨answer, message⟩)
  := by
  rw [List.isChain_map]
  apply List.Pairwise.isChain
  apply List.pairwise_of_forall
  intro _ _
  right
  intro root directory
  rfl

/-- Both conditions on starts and on how directories are written are needed. -/
theorem kept_options_seen :
  (List.IsChain (Announced Sample.setup.resolver) restarted
      ∧ Event.checks
          ((ofSession (Sample.answer none) Session.start).afterForgetful Sample.setup
            restarted).events
        ≠ Event.checks
          ((ofSession (Sample.answer none) Session.start).after Sample.setup restarted).events)
    ∧ List.IsChain (Announced Sample.setup.resolver) respelled
      ∧ Event.checks
          ((ofSession (Sample.answer none) Session.start).afterForgetful Sample.setup
            respelled).events
        ≠ Event.checks
          ((ofSession (Sample.answer none) Session.start).after Sample.setup respelled).events
  := by
  have differ {fresh h : History} (differ : fresh.emptiness ≠ h.emptiness) :
      Event.checks fresh.events ≠ Event.checks h.events := by
    intro same
    rw [emptiness, emptiness, same] at differ
    contradiction
  refine ⟨⟨announced_unchanged _ _ _, differ ?_⟩, announced_unchanged _ _ _, differ ?_⟩
  · decide +kernel
  · decide +kernel

end History

end TemplateLint
