import TemplateLint.Proofs.Session.Conversation
import TemplateLint.Session.Pool

/-!
# Contracts of jobs

What a job keeps to while other jobs go on beside it.  A contract says which answers may
come, what may be taken for granted of the shared state whenever a job goes on, what every
step of a job keeps, and what a job may tell.  A contract suits a session if it is about
nothing but the settings, the root and the options that are kept; then the jobs for all
messages that come after the start of the session obey it.
-/

namespace TemplateLint

/-- Whether an event publishes problems. -/
def Event.reports : Event → Bool
  | published _ (_ :: _) _ => true
  | _ => false

/-- A contract: the answers that may come, what may be taken for granted whenever a job goes
on, what is kept, and what may be told. -/
structure Contract where
  replies : (r : Request) → r.Answer → Prop
  assumes : Session → Prop
  keeps : Session → Prop
  tells : Event → Prop

namespace Contract

/-- Whether a part of a step between two waits leaves all that the contract is about. -/
structure Spares (c : Contract) (update : Session → Session) : Prop where
  assumed : ∀ s, c.assumes (update s) → c.assumes s
  kept : ∀ s, c.keeps s → c.keeps (update s)

/-- Whether a program may have a result if answers come as the contract says. -/
def Yields (c : Contract) : Program α → α → Prop
  | .done a, b => b = a
  | .ask request next, b => ∃ reply, c.replies request reply ∧ Yields c (next reply) b

end Contract

namespace Job

/-- Whether a job obeys a contract, and ends with a result that has a property. -/
def Obeys (c : Contract) : Job α → (α → Prop) → Prop
  | done a, ends => ends a
  | access update next, ends =>
    ∀ s, c.assumes s →
      (c.assumes (update s) → c.keeps s → c.keeps (update s)) ∧ (next s).Obeys c ends
  | change update next, ends => c.Spares update ∧ next.Obeys c ends
  | take engine next, ends => c.Spares (fun s => s.take engine) ∧ next.Obeys c ends
  | check _ text path next, ends =>
    (∀ options, c.tells (.checking options text path))
      ∧ ∀ problems, (next problems).Obeys c ends
  | ask request next, ends => ∀ reply, c.replies request reply → (next reply).Obeys c ends
  | probe request next, ends => ∀ reply, c.replies request reply → (next reply).Obeys c ends
  | tell event next, ends => c.tells event ∧ next.Obeys c ends

variable {c : Contract}

/-! ### Steps of one job -/

/-- A job that obeys goes on to obey at the step at which it waits next, has kept what is to
be kept, and has told only what may be told; what may be assumed then could be assumed
before. -/
theorem Obeys.settle {answer : Answering} (replies : ∀ r, c.replies r (answer r))
    {t u : Job α} {ends : α → Prop} {s next : Session} {events : List Event}
    (obeys : t.Obeys c ends) (settled : t.settle answer s = (u, next, events))
    (assumes : c.assumes next) :
  u.Obeys c ends ∧ c.assumes s ∧ (c.keeps s → c.keeps next) ∧ ∀ event ∈ events, c.tells event
  := by
  induction t generalizing s events with
  | change update rest ih =>
    obtain ⟨later, assumed, keeps, tells⟩ := ih obeys.2 settled
    refine ⟨later, obeys.1.assumed s assumed, fun kept => keeps (obeys.1.kept s kept), tells⟩
  | probe request rest ih => apply ih _ (obeys _ (replies request)) settled
  | tell event rest ih =>
    rcases later : rest.settle answer s with ⟨v, t, more⟩
    rw [Job.settle, later] at settled
    obtain ⟨rfl, rfl, rfl⟩ := settled
    obtain ⟨obeys', assumed, keeps, tells⟩ := ih obeys.2 later
    refine ⟨obeys', assumed, keeps, ?_⟩
    rw [List.forall_mem_cons]
    use obeys.1
  | _ =>
    obtain ⟨rfl, rfl, rfl⟩ := settled
    refine ⟨obeys, assumes, id, ?_⟩
    simp

/-- So does a job that is resumed. -/
theorem Obeys.resume {answer : Answering} (replies : ∀ r, c.replies r (answer r))
    {t u : Job α} {ends : α → Prop} {s next : Session} {events : List Event}
    (obeys : t.Obeys c ends) (resumed : t.resume answer s = some (u, next, events))
    (before : c.assumes s) (after : c.assumes next) :
  u.Obeys c ends ∧ (c.keeps s → c.keeps next) ∧ ∀ event ∈ events, c.tells event
  := by
  cases t with
  | done => cases resumed
  | access update rest =>
    obtain ⟨keeps, obeys⟩ := obeys s before
    obtain ⟨later, assumed, kept, tells⟩ :=
      obeys.settle replies (Option.some.inj resumed) after
    refine ⟨later, fun h => kept (keeps assumed h), tells⟩
  | change update rest =>
    obtain ⟨later, -, kept, tells⟩ := obeys.2.settle replies (Option.some.inj resumed) after
    refine ⟨later, fun h => kept (obeys.1.kept s h), tells⟩
  | take engine rest =>
    rw [Job.resume] at resumed
    split at resumed
    · obtain ⟨later, -, kept, tells⟩ := obeys.2.settle replies (Option.some.inj resumed) after
      refine ⟨later, fun h => kept (obeys.1.kept s h), tells⟩
    · cases resumed
  | check engine text path rest =>
    obtain ⟨rfl, rfl, rfl⟩ := Option.some.inj resumed
    obtain ⟨later, -, kept, tells⟩ := (obeys.2 _).settle replies rfl after
    refine ⟨later, kept, ?_⟩
    rw [List.forall_mem_cons]
    use obeys.1 _
  | ask request rest =>
    obtain ⟨later, -, kept, tells⟩ :=
      (obeys _ (replies request)).settle replies (Option.some.inj resumed) after
    use later, kept
  | probe request rest =>
    obtain ⟨later, -, kept, tells⟩ :=
      (obeys _ (replies request)).settle replies (Option.some.inj resumed) after
    use later, kept
  | tell event rest =>
    obtain ⟨rfl, rfl, rfl⟩ := Option.some.inj resumed
    obtain ⟨later, -, kept, tells⟩ := obeys.2.settle replies rfl after
    refine ⟨later, kept, ?_⟩
    rw [List.forall_mem_cons]
    use obeys.1

/-! ### Parts of jobs -/

/-- A sequence of jobs obeys if its parts do. -/
theorem Obeys.bind {t : Job α} {next : α → Job β} {first : α → Prop} {ends : β → Prop}
    (h : t.Obeys c first) (h' : ∀ a, first a → (next a).Obeys c ends) :
  (t >>= next).Obeys c ends
  := by
  change (t.bind next).Obeys c ends
  induction t with
  | done a => apply h' a h
  | access update rest ih =>
    intro s assumes
    obtain ⟨keeps, obeys⟩ := h s assumes
    use keeps, ih s obeys
  | change update rest ih => use h.1, ih h.2
  | take engine rest ih => use h.1, ih h.2
  | check engine text path rest ih =>
    use h.1
    intro problems
    apply ih _ (h.2 problems)
  | ask request rest ih =>
    intro reply replies
    apply ih _ (h reply replies)
  | probe request rest ih =>
    intro reply replies
    apply ih _ (h reply replies)
  | tell event rest ih => use h.1, ih h.2

theorem Obeys.weaken {t : Job α} {first ends : α → Prop} (h : t.Obeys c first)
    (sub : ∀ a, first a → ends a) :
  t.Obeys c ends
  := by
  have obeys : (t >>= done).Obeys c ends := by
    apply h.bind
    apply sub
  change (t.bind done).Obeys c ends at obeys
  rw [bind_done] at obeys
  apply obeys

theorem obeys_pure {a : α} {ends : α → Prop} (h : ends a) :
  (pure a : Job α).Obeys c ends
  := h

theorem obeys_read (part : Session → α) :
  (read part).Obeys c fun a => ∃ s, c.assumes s ∧ a = part s
  := by
  intro s assumes
  refine ⟨fun _ kept => kept, s, assumes, rfl⟩

theorem obeys_update_bind {f : Session → Session} {next : Unit → Job α} {ends : α → Prop}
    (keeps : ∀ s, c.keeps s → c.keeps (f s)) (obeys : (next ()).Obeys c ends) :
  (update f >>= next).Obeys c ends
  := by
  intro s _
  exact ⟨fun _ kept => keeps s kept, obeys⟩

theorem obeys_say {event : Event} (tells : c.tells event) :
  (say event).Obeys c fun _ => True
  := ⟨tells, trivial⟩

theorem obeys_forEach_say (xs : List α) {event : α → Event} (tells : ∀ x, c.tells (event x)) :
  (forEach xs fun x => say (event x)).Obeys c fun _ => True
  := by
  induction xs with
  | nil => trivial
  | cons x rest ih => exact (obeys_say (tells x)).bind fun _ _ => ih

theorem obeys_await (p : Program α) :
  (await p).Obeys c (c.Yields p)
  := by
  induction p with
  | done a => rfl
  | ask request next ih =>
    intro reply replies
    apply (ih reply).weaken
    intro a yields
    use reply, replies

theorem obeys_immediately (p : Program α) :
  (immediately p).Obeys c fun _ => True
  := by
  induction p with
  | done a => trivial
  | ask request next ih =>
    intro reply _
    apply ih

end Job

/-! ### Sessions -/

/-- A contract suits a session if it takes for granted nothing but what is true of the
settings and the root; if it keeps nothing but what is true of the root and the options that
are kept, also if all of them are dropped or options are added that files give; and if all
may be told but problems, and these too where the linter may be enabled. -/
structure Contract.Suits (c : Contract) (setup : Setup) : Prop where
  assumed : ∀ {s t : Session}, t.settings = s.settings → t.root = s.root → c.assumes t →
    c.assumes s
  kept : ∀ {s t : Session}, t.root = s.root → t.cache = s.cache → c.keeps s → c.keeps t
  dropped : ∀ {s : Session}, c.keeps s → c.keeps { s with cache := [] }
  added : ∀ {r s : Session} {directory : Path} {resolution : Resolution}, c.assumes r →
    c.Yields (setup.resolver.resolve (r.root.getD Path.here) directory none) resolution →
    c.keeps s → c.keeps { s with cache := s.cache.insert directory resolution.options }
  calm : ∀ {event : Event}, event.reports = false → c.tells event
  loud : ∀ {s : Session}, c.assumes s → s.settings.enable = true → ∀ event, c.tells event

namespace Contract.Suits

variable {c : Contract} {setup : Setup} (suits : c.Suits setup)

include suits

/-- A job may update all that the contract is not about. -/
theorem update_bind {f : Session → Session} {next : Unit → Job α} {ends : α → Prop}
    (same : ∀ s, (f s).root = s.root ∧ (f s).cache = s.cache) (obeys : (next ()).Obeys c ends) :
  (Job.update f >>= next).Obeys c ends
  := by
  apply Job.obeys_update_bind
  · intro s
    apply suits.kept (same s).1 (same s).2
  · apply obeys

theorem spares_changeEngine (engine : Nat) (change : Engine → Engine) :
  c.Spares fun s => s.changeEngine engine change
  where
  assumed _ := suits.assumed rfl rfl
  kept _ := suits.kept rfl rfl

/-! ### Options -/

theorem resolveOptions (root directory : Path) (inline : Option Options) :
  (Session.resolveOptions setup root directory inline).Obeys c fun options =>
    ∃ resolution, c.Yields (setup.resolver.resolve root directory inline) resolution
      ∧ options = resolution.options
  := by
  apply (Job.obeys_await _).bind
  intro resolution yields
  apply (Job.obeys_forEach_say _ fun _ => suits.calm rfl).bind
  intro _ _
  apply Job.obeys_pure
  use resolution, yields

/-- Options that are resolved are kept only if files give them. -/
theorem optionsFor (document : Document) :
  (Session.optionsFor setup document).Obeys c fun _ => True
  := by
  apply (Job.obeys_read _).bind
  intro settings _
  apply (Job.obeys_read _).bind
  rintro root ⟨r, assumes, rfl⟩
  dsimp only
  cases settings.inlineOptions with
  | some inline =>
    apply (suits.resolveOptions _ _ _).weaken
    intro _ _
    trivial
  | none =>
    apply (Job.obeys_read _).bind
    intro cache _
    split
    · trivial
    · apply (suits.resolveOptions _ _ _).bind
      rintro _ ⟨resolution, yields, rfl⟩
      apply Job.obeys_update_bind
      · intro _ kept
        apply suits.added assumes yields kept
      · trivial

/-! ### Validation -/

theorem one (loud : ∀ event, c.tells event) (engine : Nat) (document : Document)
    (options : Options) :
  (Validation.one engine document options).Obeys c fun _ => True
  := by
  refine ⟨suits.spares_changeEngine _ _, suits.spares_changeEngine _ _, fun _ => loud _, ?_⟩
  intro problems
  refine ⟨suits.spares_changeEngine _ _, ?_⟩
  intro s _
  refine ⟨fun _ kept => kept, ?_⟩
  dsimp only
  split
  · cases problems with
    | error failure => trivial
    | ok problems => exact ⟨loud _, trivial⟩
  · trivial

theorem single (loud : ∀ event, c.tells event) (engine : Nat) (document : Document)
    (options : Options) :
  (Validation.single engine document options).Obeys c fun _ => True
  := by
  apply (suits.one loud engine document options).bind
  intro outcome _
  cases outcome with
  | ok diagnostics => trivial
  | error failure => apply Job.obeys_say (loud _)

theorem through (loud : ∀ event, c.tells event) (engine : Nat)
    (batch : List (Document × Options)) (report : Validation.Report) :
  (Validation.through engine batch report).Obeys c fun _ => True
  := by
  induction batch generalizing report with
  | nil => trivial
  | cons entry rest ih =>
    apply (suits.one loud engine entry.1 entry.2).bind
    intro outcome _
    cases outcome with
    | ok diagnostics => apply ih
    | error failure => apply ih

theorem all (loud : ∀ event, c.tells event) (engine : Nat)
    (batch : List (Document × Options)) :
  (Validation.all engine batch).Obeys c fun _ => True
  := by
  apply (suits.through loud engine batch .empty).bind
  intro report _
  have send : report.send.Obeys c fun _ => True := by
    rw [Validation.Report.send]
    split
    · trivial
    · apply Job.obeys_say (loud _)
  apply send.bind
  intro _ _
  trivial

/-- Validation of a document tells of problems only if the linter was found enabled. -/
theorem validateDocument (document : Document) :
  (Session.validateDocument setup document).Obeys c fun _ => True
  := by
  apply (Job.obeys_read _).bind
  intro linter _
  cases linter with
  | none => trivial
  | some engine =>
    apply (Job.obeys_read _).bind
    rintro settings ⟨s, assumes, rfl⟩
    split
    · rename_i enabled
      rw [Bool.and_eq_true] at enabled
      apply (suits.optionsFor document).bind
      intro options _
      apply suits.single (suits.loud assumes enabled.1)
    · trivial

theorem batchOf (documents : List Document) :
  (Session.batchOf setup documents).Obeys c fun _ => True
  := by
  induction documents with
  | nil => trivial
  | cons document rest ih =>
    rw [Session.batchOf]
    split
    · apply (suits.optionsFor document).bind
      intro options _
      apply ih.bind
      intro batch _
      trivial
    · apply ih

/-- So does validation of all open documents. -/
theorem validateOpen :
  (Session.validateOpen setup).Obeys c fun _ => True
  := by
  apply (Job.obeys_read _).bind
  intro linter _
  cases linter with
  | none => trivial
  | some engine =>
    apply (Job.obeys_read _).bind
    rintro settings ⟨s, assumes, rfl⟩
    split
    · rename_i enabled
      apply (Job.obeys_read _).bind
      intro documents _
      apply (suits.batchOf documents).bind
      intro batch _
      apply (suits.all (suits.loud assumes enabled) engine batch).bind
      intro _ _
      trivial
    · trivial

theorem clearOpen :
  Session.clearOpen.Obeys c fun _ => True
  := by
  apply (Job.obeys_read _).bind
  intro documents _
  apply Job.obeys_forEach_say
  intro document
  apply suits.calm rfl

theorem validateOn (mode : RunMode) (document : Document) :
  (Session.validateOn mode setup document).Obeys c fun _ => True
  := by
  apply (Job.obeys_read _).bind
  intro settings _
  split
  · apply suits.validateDocument
  · trivial

/-! ### Messages -/

theorem didOpen (document : Document) :
  (Session.didOpen setup document).Obeys c fun _ => True
  := by
  apply suits.update_bind
  · intro s
    use rfl
  · apply suits.validateOn

theorem updateDocument (uri : Uri) (version : Option Int) (text : String) :
  (Session.updateDocument uri version text).Obeys c fun _ => True
  := by
  intro s _
  exact ⟨fun _ => suits.kept rfl rfl, trivial⟩

theorem didChange (uri : Uri) (version : Int) (texts : List String) :
  (Session.didChange setup uri version texts).Obeys c fun _ => True
  := by
  rw [Session.didChange]
  cases texts.getLast? with
  | none => trivial
  | some text =>
    apply (suits.updateDocument uri (some version) text).bind
    intro updated _
    cases updated with
    | none => trivial
    | some document => apply suits.validateOn

theorem didSave (uri : Uri) (text : Option String) :
  (Session.didSave setup uri text).Obeys c fun _ => True
  := by
  cases text with
  | none =>
    apply (Job.obeys_read _).bind
    intro found _
    cases found with
    | none => trivial
    | some document => apply suits.validateOn
  | some text =>
    apply (suits.updateDocument uri none text).bind
    intro found _
    cases found with
    | none => trivial
    | some document => apply suits.validateOn

theorem didClose (uri : Uri) :
  (Session.didClose uri).Obeys c fun _ => True
  := by
  apply suits.update_bind
  · intro s
    use rfl
  · apply Job.obeys_say (suits.calm rfl)

theorem didChangeSettings (value : Json.Value) :
  (Session.didChangeSettings setup value).Obeys c fun _ => True
  := by
  apply suits.update_bind
  · intro s
    use rfl
  · apply (Job.obeys_read _).bind
    intro phase _
    split
    · split
      · apply suits.validateOpen
      · apply suits.clearOpen
    · trivial

theorem activate (root : Path) :
  (Session.activate setup root).Obeys c fun _ => True
  := by
  apply (Job.obeys_immediately _).bind
  intro found _
  cases found with
  | none => trivial
  | some package =>
    apply (Job.obeys_say (suits.calm rfl)).bind
    intro _ _
    apply (Job.obeys_immediately _).bind
    intro loaded _
    cases loaded with
    | error failure => trivial
    | ok check =>
      apply suits.update_bind
      · intro s
        use rfl
        rfl
      · apply suits.update_bind
        · intro s
          use rfl
        · trivial

theorem retry :
  (Session.retry setup).Obeys c fun _ => True
  := by
  apply (Job.obeys_read _).bind
  intro root _
  cases root with
  | none => trivial
  | some root =>
    apply (suits.activate root).bind
    intro outcome _
    split
    · apply (Job.obeys_say (suits.calm rfl)).bind
      intro _ _
      apply suits.validateOpen
    · trivial

theorem didChangeFiles (uris : List Uri) :
  (Session.didChangeFiles setup uris).Obeys c fun _ => True
  := by
  rw [Session.didChangeFiles]
  split
  · trivial
  · apply Job.obeys_update_bind
    · intro _
      apply suits.dropped
    · apply (Job.obeys_read _).bind
      intro phase _
      cases phase with
      | ready => apply suits.validateOpen
      | awaitingPackage =>
        dsimp only
        split
        · apply suits.retry
        · trivial
      | _ => trivial

/-- The job for a message obeys, unless the message starts a session. -/
theorem job {message : Message} (later : message.isStart = false) :
  (message.job setup).Obeys c fun _ => True
  := by
  cases message with
  | start request => cases later
  | opened document => apply suits.didOpen
  | changed uri version texts => apply suits.didChange
  | saved uri text => apply suits.didSave
  | closed uri => apply suits.didClose
  | settings value => apply suits.didChangeSettings
  | files uris => apply suits.didChangeFiles

end Contract.Suits

/-! ### Pools -/

/-- Whether a move starts no job but the one for a message that comes after the start of a
session. -/
def Move.Serves (setup : Setup) : Move → Prop
  | start job => ∃ message : Message, message.isStart = false ∧ job = message.job setup
  | _ => True

theorem Move.serves_of_resumes {setup : Setup} {times i : Nat} {m : Move}
    (present : m ∈ List.replicate times (resume i)) :
  m.Serves setup
  := by
  rw [List.eq_of_mem_replicate present]
  trivial

/-- All that moves start obeys a contract that suits the session. -/
theorem Contract.Suits.starts {c : Contract} {setup : Setup} (suits : c.Suits setup)
    {moves : List Move} (serves : ∀ m ∈ moves, m.Serves setup) (job : Job Unit)
    (present : .start job ∈ moves) :
  job.Obeys c fun _ => True
  := by
  obtain ⟨message, later, rfl⟩ := serves _ present
  apply suits.job later

namespace Pool

/-- What was told stays told. -/
theorem exists_events_move (p : Pool) (m : Move) :
  ∃ more, (p.move m).events = p.events ++ more
  := by
  cases m with
  | start job =>
    use (job.settle p.answer p.session).2.2
    rfl
  | resume i =>
    rw [Pool.move]
    split
    · rename_i u next events resumed
      use events
    · use []
      rw [List.append_nil]
  | alter answer =>
    use []
    rw [List.append_nil]
    rfl

/-- Whether the job at a position has not come to its end. -/
def isInFlight (p : Pool) (i : Nat) : Bool := p.jobs[i]?.any fun job => !job.isDone

/-- Whether the jobs at some positions obey a contract. -/
def Bound (c : Contract) (held : Nat → Prop) (p : Pool) : Prop :=
  ∀ i job, held i → p.jobs[i]? = some job → job.Obeys c fun _ => True

variable {c : Contract} {held : Nat → Prop} {p : Pool}

/-- What has come to its end obeys every contract. -/
theorem Bound.rest (bound : p.Bound c fun i => held i ∧ p.isInFlight i = true) :
  p.Bound c held
  := by
  intro i job held here
  cases job with
  | done => trivial
  | _ =>
    apply bound i _ ⟨held, _⟩ here
    rw [isInFlight, here]
    rfl

/-- Whether a contract is granted along moves: answers come as it says, all that starts obeys
it, and what it takes for granted is true throughout. -/
structure Grants (c : Contract) (p : Pool) (moves : List Move) : Prop where
  replies : ∀ earlier, earlier <+: moves → ∀ r, c.replies r ((p.play earlier).answer r)
  starts : ∀ job, .start job ∈ moves → job.Obeys c fun _ => True
  assumes : ∀ earlier, earlier <+: moves → c.assumes (p.play earlier).session

theorem Grants.left {first second : List Move} (granted : p.Grants c (first ++ second)) :
  p.Grants c first
  where
  replies earlier h := granted.replies earlier (h.trans (List.prefix_append _ _))
  starts job present := granted.starts job (List.mem_append_left _ present)
  assumes earlier h := granted.assumes earlier (h.trans (List.prefix_append _ _))

theorem Grants.right {first second : List Move} (granted : p.Grants c (first ++ second)) :
  (p.play first).Grants c second
  where
  replies earlier h := by
    rw [← play_append]
    apply granted.replies _ ((List.prefix_append_right_inj first).mpr h)
  starts job present := granted.starts job (List.mem_append_right _ present)
  assumes earlier h := by
    rw [← play_append]
    apply granted.assumes _ ((List.prefix_append_right_inj first).mpr h)

/-- The jobs at some positions go on to obey if a job starts, and it keeps what is to be kept
and tells only what may be told. -/
theorem Bound.start (bound : p.Bound c held) {job : Job Unit}
    (granted : p.Grants c [.start job]) :
  (p.move (.start job)).Bound c held
    ∧ (c.keeps p.session → c.keeps (p.move (.start job)).session)
    ∧ ∃ more, (p.move (.start job)).events = p.events ++ more ∧ ∀ event ∈ more, c.tells event
  := by
  have after := granted.assumes _ (List.prefix_refl _)
  rcases settled : job.settle p.answer p.session with ⟨u, next, events⟩
  simp only [play, List.foldl_cons, List.foldl_nil, move, settled] at after ⊢
  obtain ⟨obeys, -, keeps, tells⟩ :=
    (granted.starts job List.mem_cons_self).settle (granted.replies [] List.nil_prefix) settled
      after
  refine ⟨?_, keeps, events, rfl, tells⟩
  intro i other here found
  rw [List.getElem?_append] at found
  split at found
  · apply bound i other here found
  · obtain ⟨_, same⟩ := List.getElem?_eq_some_iff.mp found
    rw [← same, List.getElem_singleton]
    apply obeys

/-- So they do if a job goes on.  If it is one of them, it keeps what is to be kept and tells
only what may be told. -/
theorem Bound.resume (bound : p.Bound c held) {i : Nat} (granted : p.Grants c [.resume i]) :
  (p.move (.resume i)).Bound c held
    ∧ (held i → (c.keeps p.session → c.keeps (p.move (.resume i)).session)
      ∧ ∃ more, (p.move (.resume i)).events = p.events ++ more ∧ ∀ event ∈ more, c.tells event)
  := by
  have replies := granted.replies [] List.nil_prefix
  have before := granted.assumes [] List.nil_prefix
  have after := granted.assumes _ (List.prefix_refl _)
  simp only [play, List.foldl_cons, List.foldl_nil, move] at before after ⊢
  split
  · rename_i u next events resumed
    rw [resumed] at after
    obtain ⟨job, here, goesOn⟩ := Option.bind_eq_some_iff.mp resumed
    have goes (held : held i) :=
      (bound i job held here).resume replies goesOn before after
    constructor
    · intro j other there found
      by_cases same : j = i
      · subst same
        obtain ⟨inside, rfl⟩ := List.getElem?_eq_some_iff.mp found
        rw [List.getElem_set_self]
        apply (goes there).1
      · rw [List.getElem?_set_ne (Ne.symm same)] at found
        apply bound j other there found
    · intro held
      obtain ⟨-, keeps, tells⟩ := goes held
      use keeps, events
  · use bound
    intro _
    use id, []
    simp

/-- So they do whatever comes next. -/
theorem Bound.move (bound : p.Bound c held) {m : Move} (granted : p.Grants c [m]) :
  (p.move m).Bound c held
    ∧ ((∀ i, m = .resume i → held i) →
      (c.keeps p.session → c.keeps (p.move m).session)
        ∧ ∃ more, (p.move m).events = p.events ++ more ∧ ∀ event ∈ more, c.tells event)
  := by
  cases m with
  | start job =>
    obtain ⟨bound, rest⟩ := bound.start granted
    use bound
    intro _
    apply rest
  | resume i =>
    obtain ⟨bound, rest⟩ := bound.resume granted
    use bound
    intro all
    apply rest (all i rfl)
  | alter answer =>
    use bound
    intro _
    use id, []
    simp [Pool.move]

/-- So they do after moves. -/
theorem Bound.play (bound : p.Bound c held) {moves : List Move} (granted : p.Grants c moves) :
  (p.play moves).Bound c held
    ∧ ((∀ i, .resume i ∈ moves → held i) →
      c.keeps p.session → c.keeps (p.play moves).session)
  := by
  induction moves generalizing p with
  | nil =>
    use bound
    intro _ kept
    apply kept
  | cons m rest ih =>
    rw [← List.singleton_append] at granted
    obtain ⟨bound, keeps⟩ := bound.move granted.left
    obtain ⟨bound, keeps'⟩ := ih bound granted.right
    use bound
    intro all kept
    apply keeps' fun i present => all i (List.mem_cons_of_mem _ present)
    apply (keeps fun i same => all i (same ▸ List.mem_cons_self)).1 kept

/-- A job that waits for an access which establishes what is to be kept waits for it still
after a move, or what is to be kept is established. -/
theorem Bound.establish_move (bound : p.Bound c fun _ => True) {k : Nat}
    {update : Session → Session} {next : Session → Job Unit}
    (waits : p.jobs[k]? = some (.access update next))
    (establishes : ∀ s, c.keeps (update s)) {m : Move} (granted : p.Grants c [m]) :
  (p.move m).jobs[k]? = some (.access update next) ∨ c.keeps (p.move m).session
  := by
  obtain ⟨inside, -⟩ := List.getElem?_eq_some_iff.mp waits
  cases m with
  | start job =>
    left
    rw [← waits]
    apply List.getElem?_append_left inside
  | alter answer =>
    left
    apply waits
  | resume i =>
    have before := granted.assumes [] List.nil_prefix
    have after := granted.assumes _ (List.prefix_refl _)
    simp only [Pool.play, List.foldl_cons, List.foldl_nil, Pool.move] at before after ⊢
    split
    · rename_i u result events resumed
      rw [resumed] at after
      by_cases same : i = k
      · right
        subst same
        rw [waits] at resumed
        have obeys := (bound i _ trivial waits p.session before).2
        obtain ⟨-, -, keeps, -⟩ :=
          obeys.settle (granted.replies [] List.nil_prefix) (Option.some.inj resumed) after
        apply keeps (establishes p.session)
      · left
        rw [← waits]
        apply List.getElem?_set_ne same
    · left
      apply waits

/-- So it does after moves, if all jobs obey. -/
theorem Bound.establish (bound : p.Bound c fun _ => True) {k : Nat}
    {update : Session → Session} {next : Session → Job Unit}
    (waits : p.jobs[k]? = some (.access update next))
    (establishes : ∀ s, c.keeps (update s)) {moves : List Move} (granted : p.Grants c moves) :
  (p.play moves).jobs[k]? = some (.access update next) ∨ c.keeps (p.play moves).session
  := by
  induction moves generalizing p with
  | nil =>
    left
    apply waits
  | cons m rest ih =>
    rw [← List.singleton_append] at granted
    have later := (bound.move granted.left).1
    rcases bound.establish_move waits establishes granted.left with waits | kept
    · apply ih later waits granted.right
    · right
      apply (later.play granted.right).2
      · intro _ _
        trivial
      · apply kept

end Pool

end TemplateLint
