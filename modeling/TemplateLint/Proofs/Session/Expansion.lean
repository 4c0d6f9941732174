import TemplateLint.Proofs.Config.Expansion
import TemplateLint.Proofs.Session.Inspection
import TemplateLint.Proofs.Session.Renewal

/-!
# Options in a session

The options in a session come from resolution, at once or by way of the options that are kept
for directories.  So a property that resolution gives to all options holds of all options that
an engine is ever configured with and of all that are kept, whatever messages come, in whichever
order their jobs go on, and whatever the machine answers.  All of them are expanded.
-/

namespace TemplateLint

namespace Session

/-- Whether the options that a state holds have a property: those that engines are configured
with, and those that are kept for directories. -/
structure Holds (p : Options → Prop) (s : Session) : Prop where
  engines : ∀ engine ∈ s.engines, p engine.options
  cache : ∀ entry ∈ s.cache, p entry.2

namespace Holds

variable {p : Options → Prop} {s next : Session}

theorem of_eq (h : s.Holds p) (engines : next.engines = s.engines) (cache : next.cache = s.cache) :
  next.Holds p
  := by
  constructor
  · rw [engines]
    apply h.engines
  · rw [cache]
    apply h.cache

theorem addEngine (h : s.Holds p) (empty : p .empty) (check : Checker) :
  (s.addEngine check).Holds p
  := by
  constructor
  · rw [Session.addEngine, List.forall_mem_append, List.forall_mem_singleton]
    exact ⟨h.engines, empty⟩
  · apply h.cache

theorem changeEngine (h : s.Holds p) (engine : Nat) {change : Engine → Engine}
    (keeps : ∀ e, p e.options → p (change e).options) :
  (s.changeEngine engine change).Holds p
  := by
  constructor
  · intro e present
    obtain ⟨i, found⟩ := List.mem_iff_getElem?.mp present
    rw [Session.changeEngine, List.getElem?_modify] at found
    obtain ⟨old, before, rfl⟩ := Option.map_eq_some_iff.mp found
    have held := h.engines old (List.mem_of_getElem? before)
    split
    · apply keeps old held
    · apply held
  · apply h.cache

theorem insert (h : s.Holds p) {options : Options} (held : p options) (directory : Path) :
  { s with cache := s.cache.insert directory options }.Holds p
  := by
  constructor
  · apply h.engines
  · intro entry present
    rcases Cache.mem_insert present with present | ⟨_, same⟩
    · apply h.cache entry present
    · rw [same]
      apply held

/-- What is kept for a directory is found there. -/
theorem get? (h : s.Holds p) {directory : Path} {options : Options}
    (found : s.cache.get? directory = some options) :
  p options
  := h.cache _ (Cache.mem_of_get? found)

/-- The options of a check are those that the engine is configured with. -/
theorem checkBy (h : s.Holds p) (empty : p .empty) (engine : Nat) (text : String) (path : Path) :
  p (Job.checkBy s engine text path).1
  := by
  rw [Job.checkBy]
  split
  · rename_i e found
    apply h.engines e (List.mem_of_getElem? found)
  · apply empty

end Holds

end Session

namespace Job

variable {p : Options → Prop}

/-- Whether a job, in a state that holds only options with a property, leads to such states
only and ends with a result that has another property; and asks for checks by engines only. -/
def Upholds (p : Options → Prop) : Job α → (α → Prop) → Prop
  | done a, ends => ends a
  | access update next, ends =>
    ∀ s : Session, s.Holds p → (update s).Holds p ∧ (next s).Upholds p ends
  | change update next, ends =>
    (∀ s : Session, s.Holds p → (update s).Holds p) ∧ next.Upholds p ends
  | take _ next, ends => next.Upholds p ends
  | check _ _ _ next, ends => ∀ problems, (next problems).Upholds p ends
  | ask _ next, ends => ∀ reply, (next reply).Upholds p ends
  | probe _ next, ends => ∀ reply, (next reply).Upholds p ends
  | tell event next, ends => event.check? = none ∧ next.Upholds p ends

/-! ### Steps of one job -/

/-- A job that upholds a property goes on to uphold it at the step at which it waits next, has
led to a state that holds only options with the property, and has asked for no other checks. -/
theorem Upholds.settle {answer : Answering} {t u : Job α} {ends : α → Prop} {s next : Session}
    {events : List Event} (upholds : t.Upholds p ends) (holds : s.Holds p)
    (settled : t.settle answer s = (u, next, events)) :
  u.Upholds p ends ∧ next.Holds p ∧ ∀ check ∈ Event.checks events, p check.1
  := by
  induction t generalizing s events with
  | change update rest ih => apply ih upholds.2 (upholds.1 s holds) settled
  | probe request rest ih => apply ih _ (upholds _) holds settled
  | tell event rest ih =>
    rcases later : rest.settle answer s with ⟨v, t, more⟩
    rw [Job.settle, later] at settled
    obtain ⟨rfl, rfl, rfl⟩ := settled
    rw [Event.checks, List.filterMap_cons_none upholds.1]
    apply ih upholds.2 holds later
  | _ =>
    obtain ⟨rfl, rfl, rfl⟩ := settled
    refine ⟨upholds, holds, ?_⟩
    simp [Event.checks]

/-- So does a job that is resumed; a check that it waits for is one under options that are
held. -/
theorem Upholds.resume {answer : Answering} {t u : Job α} {ends : α → Prop} {s next : Session}
    {events : List Event} (empty : p .empty) (upholds : t.Upholds p ends) (holds : s.Holds p)
    (resumed : t.resume answer s = some (u, next, events)) :
  u.Upholds p ends ∧ next.Holds p ∧ ∀ check ∈ Event.checks events, p check.1
  := by
  cases t with
  | done => cases resumed
  | access update rest =>
    apply (upholds s holds).2.settle (upholds s holds).1 (Option.some.inj resumed)
  | change update rest => apply upholds.2.settle (upholds.1 s holds) (Option.some.inj resumed)
  | take engine rest =>
    rw [Job.resume] at resumed
    split at resumed
    · have later : rest.Upholds p ends := upholds
      have taken : (s.take engine).Holds p := holds.changeEngine engine fun _ held => held
      apply later.settle taken (Option.some.inj resumed)
    · cases resumed
  | check engine text path rest =>
    obtain ⟨rfl, rfl, rfl⟩ := Option.some.inj resumed
    obtain ⟨upholds, kept, checks⟩ := (upholds _).settle holds rfl
    refine ⟨upholds, kept, ?_⟩
    rw [Event.checks, List.filterMap_cons_some (by rfl), List.forall_mem_cons]
    exact ⟨holds.checkBy empty engine text path, checks⟩
  | ask request rest => apply (upholds _).settle holds (Option.some.inj resumed)
  | probe request rest => apply (upholds _).settle holds (Option.some.inj resumed)
  | tell event rest =>
    obtain ⟨rfl, rfl, rfl⟩ := Option.some.inj resumed
    rw [Event.checks, List.filterMap_cons_none upholds.1]
    apply upholds.2.settle holds rfl

/-! ### Parts of jobs -/

theorem Upholds.bind {t : Job α} {next : α → Job β} {first : α → Prop} {ends : β → Prop}
    (h : t.Upholds p first) (h' : ∀ a, first a → (next a).Upholds p ends) :
  (t >>= next).Upholds p ends
  := by
  change (t.bind next).Upholds p ends
  induction t with
  | done a => apply h' a h
  | access update rest ih =>
    intro s holds
    exact ⟨(h s holds).1, ih s (h s holds).2⟩
  | change update rest ih => exact ⟨h.1, ih h.2⟩
  | take engine rest ih => apply ih h
  | check engine text path rest ih =>
    intro problems
    apply ih _ (h problems)
  | ask request rest ih =>
    intro reply
    apply ih _ (h reply)
  | probe request rest ih =>
    intro reply
    apply ih _ (h reply)
  | tell event rest ih => exact ⟨h.1, ih h.2⟩

theorem upholds_pure {a : α} {ends : α → Prop} (h : ends a) :
  (pure a : Job α).Upholds p ends
  := h

/-- What is read is read from a state that holds only options with the property. -/
theorem upholds_read (part : Session → α) :
  (read part).Upholds p fun a => ∃ s : Session, s.Holds p ∧ a = part s
  := by
  intro s holds
  exact ⟨holds, s, holds, rfl⟩

theorem upholds_update_bind {f : Session → Session} {next : Unit → Job α} {ends : α → Prop}
    (keeps : ∀ s : Session, s.Holds p → (f s).Holds p) (rest : (next ()).Upholds p ends) :
  (update f >>= next).Upholds p ends
  := by
  intro s holds
  exact ⟨keeps s holds, rest⟩

theorem upholds_say {event : Event} (silent : event.check? = none) :
  (say event).Upholds p fun _ => True
  := ⟨silent, trivial⟩

theorem upholds_forEach_say (xs : List α) {event : α → Event}
    (silent : ∀ x, (event x).check? = none) :
  (forEach xs fun x => say (event x)).Upholds p fun _ => True
  := by
  induction xs with
  | nil => trivial
  | cons x rest ih => exact (upholds_say (silent x)).bind fun _ _ => ih

theorem upholds_await {program : Program α} {ends : α → Prop} (h : program.Ends ends) :
  (await program).Upholds p ends
  := by
  induction program with
  | done a => apply h
  | ask request next ih =>
    intro reply
    apply ih reply (h reply)

theorem upholds_immediately (program : Program α) :
  (immediately program).Upholds p fun _ => True
  := by
  induction program with
  | done a => trivial
  | ask request next ih =>
    intro reply
    apply ih

end Job

namespace Validation

variable {p : Options → Prop}

/-- An inspection under options with a property upholds it. -/
theorem upholds_one (engine : Nat) (document : Document) {options : Options} (held : p options) :
  (one engine document options).Upholds p fun _ => True
  := by
  refine ⟨fun s holds => holds.changeEngine engine fun _ _ => held, fun problems => ?_⟩
  refine ⟨fun s holds => holds.changeEngine engine fun _ kept => kept, fun s holds => ?_⟩
  refine ⟨holds, ?_⟩
  dsimp only
  split
  · cases problems with
    | error failure => trivial
    | ok problems => exact ⟨rfl, trivial⟩
  · trivial

theorem upholds_single (engine : Nat) (document : Document) {options : Options}
    (held : p options) :
  (single engine document options).Upholds p fun _ => True
  := by
  apply (upholds_one engine document held).bind
  intro outcome _
  cases outcome with
  | ok diagnostics => trivial
  | error failure => apply Job.upholds_say rfl

theorem upholds_through (engine : Nat) {batch : List (Document × Options)}
    (held : ∀ entry ∈ batch, p entry.2) (report : Report) :
  (through engine batch report).Upholds p fun _ => True
  := by
  induction batch generalizing report with
  | nil => trivial
  | cons entry rest ih =>
    obtain ⟨first, held⟩ := List.forall_mem_cons.mp held
    apply (upholds_one engine entry.1 first).bind
    intro outcome _
    cases outcome with
    | ok diagnostics => apply ih held
    | error failure => apply ih held

theorem upholds_all (engine : Nat) {batch : List (Document × Options)}
    (held : ∀ entry ∈ batch, p entry.2) :
  (all engine batch).Upholds p fun _ => True
  := by
  apply (upholds_through engine held .empty).bind
  intro report _
  have send : report.send.Upholds p fun _ => True := by
    rw [Report.send]
    split
    · trivial
    · apply Job.upholds_say rfl
  apply send.bind
  intro _ _
  trivial

end Validation

/-! ### Jobs of a session -/

/-- Whether a property is one of no options and of all options that a resolver comes to. -/
structure Resolver.Gives (r : Resolver) (p : Options → Prop) : Prop where
  empty : p .empty
  resolved (workspace directory : Path) (editor : Option Options) :
    (r.resolve workspace directory editor).Ends fun resolution => p resolution.options

/-- Every resolver comes to expanded options. -/
theorem Resolver.gives_isExpanded (r : Resolver) :
  r.Gives Options.IsExpanded
  := ⟨Options.isExpanded_empty, r.resolve_ends⟩

namespace Resolver.Gives

variable {setup : Setup} {p : Options → Prop} (gives : setup.resolver.Gives p)

include gives

theorem resolveOptions (root directory : Path) (inline : Option Options) :
  (Session.resolveOptions setup root directory inline).Upholds p p
  := by
  apply (Job.upholds_await (gives.resolved root directory inline)).bind
  intro resolution held
  apply (Job.upholds_forEach_say _ fun _ => rfl).bind
  intro _ _
  apply held

/-- The options for a document have the property, also if they are those that are kept. -/
theorem optionsFor (document : Document) :
  (Session.optionsFor setup document).Upholds p p
  := by
  apply (Job.upholds_read _).bind
  intro settings _
  apply (Job.upholds_read _).bind
  intro root _
  dsimp only
  cases settings.inlineOptions with
  | some inline => apply gives.resolveOptions
  | none =>
    apply (Job.upholds_read _).bind
    rintro _ ⟨s, holds, rfl⟩
    split
    · rename_i options found
      apply Job.upholds_pure (holds.get? found)
    · apply (gives.resolveOptions _ _ _).bind
      intro options held
      apply Job.upholds_update_bind
      · intro s holds
        apply holds.insert held
      · apply held

theorem validateDocument (document : Document) :
  (Session.validateDocument setup document).Upholds p fun _ => True
  := by
  apply (Job.upholds_read _).bind
  intro linter _
  cases linter with
  | none => trivial
  | some engine =>
    apply (Job.upholds_read _).bind
    intro settings _
    split
    · apply (gives.optionsFor document).bind
      intro options held
      apply Validation.upholds_single engine document held
    · trivial

theorem batchOf (documents : List Document) :
  (Session.batchOf setup documents).Upholds p fun batch => ∀ entry ∈ batch, p entry.2
  := by
  induction documents with
  | nil => simp [Session.batchOf, Job.Upholds]
  | cons document rest ih =>
    rw [Session.batchOf]
    split
    · apply (gives.optionsFor document).bind
      intro options held
      apply ih.bind
      intro batch others
      apply Job.upholds_pure
      rw [List.forall_mem_cons]
      exact ⟨held, others⟩
    · apply ih

theorem validateOpen :
  (Session.validateOpen setup).Upholds p fun _ => True
  := by
  apply (Job.upholds_read _).bind
  intro linter _
  cases linter with
  | none => trivial
  | some engine =>
    apply (Job.upholds_read _).bind
    intro settings _
    split
    · apply (Job.upholds_read _).bind
      intro documents _
      apply (gives.batchOf documents).bind
      intro batch held
      apply (Validation.upholds_all engine held).bind
      intro _ _
      trivial
    · trivial

theorem validateOn (mode : RunMode) (document : Document) :
  (Session.validateOn mode setup document).Upholds p fun _ => True
  := by
  apply (Job.upholds_read _).bind
  intro settings _
  split
  · apply gives.validateDocument
  · trivial

omit gives in
theorem updateDocument (uri : Uri) (version : Option Int) (text : String) :
  (Session.updateDocument uri version text).Upholds p fun _ => True
  := by
  intro s holds
  exact ⟨holds.of_eq rfl rfl, trivial⟩

theorem didOpen (document : Document) :
  (Session.didOpen setup document).Upholds p fun _ => True
  := by
  apply Job.upholds_update_bind
  · intro s holds
    exact holds.of_eq rfl rfl
  · apply gives.validateOn

theorem didChange (uri : Uri) (version : Int) (texts : List String) :
  (Session.didChange setup uri version texts).Upholds p fun _ => True
  := by
  rw [Session.didChange]
  split
  · trivial
  · apply (updateDocument uri _ _).bind
    intro updated _
    cases updated with
    | none => trivial
    | some document => apply gives.validateOn

theorem didSave (uri : Uri) (text : Option String) :
  (Session.didSave setup uri text).Upholds p fun _ => True
  := by
  cases text with
  | none =>
    apply (Job.upholds_read _).bind
    intro document _
    cases document with
    | none => trivial
    | some document => apply gives.validateOn
  | some text =>
    apply (updateDocument uri none text).bind
    intro updated _
    cases updated with
    | none => trivial
    | some document => apply gives.validateOn

omit gives in
theorem didClose (uri : Uri) :
  (Session.didClose uri).Upholds p fun _ => True
  := by
  apply Job.upholds_update_bind
  · intro s holds
    exact holds.of_eq rfl rfl
  · apply Job.upholds_say rfl

omit gives in
theorem clearOpen :
  Session.clearOpen.Upholds p fun _ => True
  := by
  apply (Job.upholds_read _).bind
  intro documents _
  apply Job.upholds_forEach_say
  intro _
  rfl

theorem didChangeSettings (value : Json.Value) :
  (Session.didChangeSettings setup value).Upholds p fun _ => True
  := by
  apply Job.upholds_update_bind
  · intro s holds
    exact holds.of_eq rfl rfl
  · apply (Job.upholds_read _).bind
    intro phase _
    split
    · split
      · apply gives.validateOpen
      · apply clearOpen
    · trivial

theorem activate (root : Path) :
  (Session.activate setup root).Upholds p fun _ => True
  := by
  apply (Job.upholds_immediately _).bind
  intro found _
  cases found with
  | none => trivial
  | some package =>
    apply (Job.upholds_say rfl).bind
    intro _ _
    apply (Job.upholds_immediately _).bind
    intro loaded _
    cases loaded with
    | error failure => trivial
    | ok check =>
      apply Job.upholds_update_bind
      · intro s holds
        apply holds.addEngine gives.empty
      · apply Job.upholds_update_bind
        · intro s holds
          exact holds.of_eq rfl rfl
        · trivial

theorem retry :
  (Session.retry setup).Upholds p fun _ => True
  := by
  apply (Job.upholds_read _).bind
  intro root _
  cases root with
  | none => trivial
  | some root =>
    apply (gives.activate root).bind
    intro outcome _
    split
    · apply (Job.upholds_say rfl).bind
      intro _ _
      apply gives.validateOpen
    · trivial

theorem didChangeFiles (uris : List Uri) :
  (Session.didChangeFiles setup uris).Upholds p fun _ => True
  := by
  rw [Session.didChangeFiles]
  split
  · trivial
  · apply Job.upholds_update_bind
    · intro s holds
      exact ⟨holds.engines, by simp⟩
    · apply (Job.upholds_read _).bind
      intro phase _
      split
      · apply gives.validateOpen
      · split
        · apply gives.retry
        · trivial
      · trivial

theorem lookFor (root : Path) :
  (Session.lookFor setup root).Upholds p fun _ => True
  := by
  have enters (phase : Phase) (s : Session) (holds : s.Holds p) :
      { s with phase := phase }.Holds p := holds.of_eq rfl rfl
  apply (gives.activate root).bind
  intro outcome _
  split
  · trivial
  · apply (Job.upholds_immediately _).bind
    intro configured _
    split
    · exact Job.upholds_update_bind (enters _) (Job.upholds_pure trivial)
    · exact Job.upholds_update_bind (enters _) (Job.upholds_pure trivial)
  · apply (Job.upholds_say rfl).bind
    intro _ _
    exact Job.upholds_update_bind (enters _) (Job.upholds_pure trivial)

theorem startUp (request : StartRequest) :
  (Session.startUp setup request).Upholds p fun _ => True
  := by
  have takes : (Session.takeSettings request.options).Upholds p fun _ => True := by
    cases request.options with
    | none => trivial
    | some value =>
      intro s holds
      exact ⟨holds.of_eq rfl rfl, trivial⟩
  rw [Session.startUp_eq]
  apply Job.upholds_update_bind
  · intro s holds
    exact holds.of_eq rfl rfl
  · apply takes.bind
    intro _ _
    apply gives.lookFor

omit gives in
theorem didStart :
  (Session.didStart setup).Upholds p fun _ => True
  := by
  apply (Job.upholds_say rfl).bind
  intro _ _
  apply Job.upholds_say rfl

/-- The job for a message upholds what the resolver gives. -/
theorem job (message : Message) :
  (message.job setup).Upholds p fun _ => True
  := by
  cases message with
  | start request =>
    apply (gives.startUp request).bind
    intro _ _
    trivial
  | opened document => apply gives.didOpen
  | changed uri version texts => apply gives.didChange
  | saved uri text => apply gives.didSave
  | closed uri => apply didClose
  | settings value => apply gives.didChangeSettings
  | files uris => apply gives.didChangeFiles

end Resolver.Gives

/-! ### Pools -/

/-- Whether a move starts a job that a session starts: the one for a message, or the one for
an editor that is ready for requests. -/
def Move.Works (setup : Setup) : Move → Prop
  | start job => job = Session.didStart setup ∨ ∃ message : Message, job = message.job setup
  | _ => True

namespace Pool

/-- Whether the options in a pool have a property: those that its state holds, and those of the
checks so far; and all of its jobs uphold it. -/
structure Holds (p : Options → Prop) (q : Pool) : Prop where
  session : q.session.Holds p
  jobs : ∀ job ∈ q.jobs, job.Upholds p fun _ => True
  checks : ∀ check ∈ Event.checks q.events, p check.1

variable {p : Options → Prop} {q : Pool}

theorem Holds.move {setup : Setup} (gives : setup.resolver.Gives p) (h : q.Holds p) {m : Move}
    (works : m.Works setup) :
  (q.move m).Holds p
  := by
  cases m with
  | start job =>
    have upholds : job.Upholds p fun _ => True := by
      rcases works with rfl | ⟨message, rfl⟩
      · apply Resolver.Gives.didStart
      · apply gives.job
    rw [Pool.move]
    rcases settled : job.settle q.answer q.session with ⟨u, next, more⟩
    obtain ⟨later, session, checks⟩ := upholds.settle h.session settled
    refine ⟨session, ?_, ?_⟩
    · rw [List.forall_mem_append, List.forall_mem_singleton]
      exact ⟨h.jobs, later⟩
    · rw [Event.checks, List.filterMap_append, List.forall_mem_append]
      exact ⟨h.checks, checks⟩
  | resume position =>
    rw [Pool.move]
    split
    · rename_i u next more resumed
      obtain ⟨job, here, resumed⟩ := Option.bind_eq_some_iff.mp resumed
      have upholds := h.jobs job (List.mem_of_getElem? here)
      obtain ⟨later, session, checks⟩ := upholds.resume gives.empty h.session resumed
      refine ⟨session, ?_, ?_⟩
      · intro other present
        rcases List.mem_or_eq_of_mem_set present with present | rfl
        · apply h.jobs other present
        · apply later
      · rw [Event.checks, List.filterMap_append, List.forall_mem_append]
        exact ⟨h.checks, checks⟩
    · apply h
  | alter answer => exact ⟨h.session, h.jobs, h.checks⟩

/-- Whatever is played, the options in a pool have the properties that the resolver gives. -/
theorem Holds.play {setup : Setup} (gives : setup.resolver.Gives p) (h : q.Holds p)
    {moves : List Move} (works : ∀ m ∈ moves, m.Works setup) :
  (q.play moves).Holds p
  := by
  induction moves generalizing q with
  | nil => apply h
  | cons m rest ih =>
    obtain ⟨first, works⟩ := List.forall_mem_cons.mp works
    apply ih (h.move gives first) works

theorem holds_start (answer : Answering) :
  (Pool.ofSession answer .start).Holds p
  := by
  constructor
  · constructor <;> simp [Pool.ofSession, Session.start]
  · simp [Pool.ofSession]
  · simp [Pool.ofSession, Event.checks]

end Pool

end TemplateLint
