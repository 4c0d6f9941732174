import TemplateLint.Proofs.Session.Run

/-!
# Sessions that keep no options

A forgetful job does what a job does in a session that keeps no options: whenever it
accesses the state, it finds none kept and leaves none.  A job that is blind to the kept
options does the same in both kinds of session.
-/

namespace TemplateLint

/-- The state without kept options. -/
def Session.forget (s : Session) : Session := { s with cache := [] }

@[simp] theorem Session.forget_forget (s : Session) :
  s.forget.forget = s.forget
  := rfl

@[simp] theorem Session.forget_settings (s : Session) :
  s.forget.settings = s.settings
  := rfl

@[simp] theorem Session.forget_root (s : Session) :
  s.forget.root = s.root
  := rfl

@[simp] theorem Session.forget_cache (s : Session) :
  s.forget.cache = []
  := rfl

namespace Job

/-- The job in a session that keeps no options. -/
def forgetful : Job α → Job α
  | done a => done a
  | access update next =>
    access (fun s => (update s.forget).forget) fun s => (next s.forget).forgetful
  | change update next => change (fun s => (update s.forget).forget) next.forgetful
  | take engine next => take engine next.forgetful
  | check engine text path next =>
    check engine text path fun problems => (next problems).forgetful
  | ask request next => ask request fun answer => (next answer).forgetful
  | probe request next => probe request fun answer => (next answer).forgetful
  | tell event next => tell event next.forgetful

/-- Sequencing is compatible with forgetting. -/
theorem forgetful_bind (t : Job α) (next : α → Job β) :
  (t >>= next).forgetful = t.forgetful >>= fun a => (next a).forgetful
  := by
  change (t.bind next).forgetful = t.forgetful.bind _
  induction t with
  | done a => rfl
  | access update rest ih => simp [bind, forgetful, ih]
  | change update rest ih => simp [bind, forgetful, ih]
  | take engine rest ih => simp [bind, forgetful, ih]
  | check engine text path rest ih => simp [bind, forgetful, ih]
  | ask request rest ih => simp [bind, forgetful, ih]
  | probe request rest ih => simp [bind, forgetful, ih]
  | tell event rest ih => simp [bind, forgetful, ih]

@[simp] theorem run_forgetful_read (host : Host) (s : Session) (part : Session → α) :
  (read part).forgetful.run host s = (part s.forget, s.forget, [])
  := rfl

@[simp] theorem run_forgetful_update (host : Host) (s : Session) (f : Session → Session) :
  (update f).forgetful.run host s = ((), (f s.forget).forget, [])
  := rfl

@[simp] theorem run_forgetful_done (host : Host) (s : Session) (a : α) :
  (done a : Job α).forgetful.run host s = (a, s, [])
  := rfl

@[simp] theorem run_forgetful_pure (host : Host) (s : Session) (a : α) :
  (pure a : Job α).forgetful.run host s = (a, s, [])
  := rfl

/-! ### Blind jobs -/

/-- Whether what a job does depends on kept options only in the options that it leaves. -/
def Blind : Job α → Prop
  | done _ => True
  | access update next =>
    (∀ s, (update s.forget).forget = (update s).forget) ∧ (∀ s, next s.forget = next s)
      ∧ ∀ s, (next s).Blind
  | change update next =>
    (∀ s, (update s.forget).forget = (update s).forget) ∧ next.Blind
  | take _ next => next.Blind
  | check _ _ _ next => ∀ problems, (next problems).Blind
  | ask _ next => ∀ answer, (next answer).Blind
  | probe _ next => ∀ answer, (next answer).Blind
  | tell _ next => next.Blind

/-- A blind job comes to the same result with the same events if no options are kept. -/
theorem Blind.run {t : Job α} (blind : t.Blind) (host : Host) (s : Session) :
  t.forgetful.run host s.forget
    = let (a, next, events) := t.run host s
      (a, next.forget, events)
  := by
  induction t generalizing s with
  | done a => rfl
  | access update next ih =>
    obtain ⟨updates, same, rest⟩ := blind
    change (next s.forget).forgetful.run host (update s.forget).forget = _
    rw [updates, same]
    apply ih s (rest s)
  | change update next ih =>
    obtain ⟨updates, rest⟩ := blind
    change next.forgetful.run host (update s.forget).forget = _
    rw [updates]
    apply ih rest
  | take engine next ih => apply ih blind (s.take engine)
  | check engine text path next ih =>
    have same : checkBy s.forget engine text path = checkBy s engine text path := rfl
    have rest := ih ((checkBy s engine text path).2.run host.answer) (blind _)
      { s with documents := host.during text path s.documents }
    simp only [forgetful, Job.run, same]
    rw [Session.forget] at rest ⊢
    simp only [rest]
  | ask request next ih => apply ih (host.answer request) (blind _)
  | probe request next ih => apply ih (host.answer request) (blind _)
  | tell event next ih => simp only [forgetful, Job.run, ih blind s]

theorem Blind.bind {t : Job α} {next : α → Job β} (blind : t.Blind)
    (rest : ∀ a, (next a).Blind) :
  (t >>= next).Blind
  := by
  change (t.bind next).Blind
  induction t with
  | done a => apply rest
  | access update first ih =>
    obtain ⟨updates, same, blind⟩ := blind
    refine ⟨updates, ?_, fun s => ih s (blind s)⟩
    intro s
    dsimp only
    rw [same]
  | change update first ih => use blind.1, ih blind.2
  | take engine first ih => apply ih blind
  | check engine text path first ih =>
    intro problems
    apply ih problems (blind problems)
  | ask request first ih =>
    intro answer
    apply ih answer (blind answer)
  | probe request first ih =>
    intro answer
    apply ih answer (blind answer)
  | tell event first ih => apply ih blind

theorem blind_pure (a : α) :
  (pure a : Job α).Blind
  := trivial

theorem blind_read {part : Session → α} (h : ∀ s, part s.forget = part s) :
  (read part).Blind
  := by
  refine ⟨fun s => rfl, ?_, fun s => trivial⟩
  intro s
  dsimp only
  rw [h]

theorem blind_update {f : Session → Session} (h : ∀ s, (f s.forget).forget = (f s).forget) :
  (update f).Blind
  := ⟨h, fun _ => rfl, fun _ => trivial⟩

theorem blind_say (event : Event) :
  (say event).Blind
  := trivial

theorem blind_await (p : Program α) :
  (await p).Blind
  := by
  induction p with
  | done a => trivial
  | ask request next ih =>
    intro answer
    apply ih

theorem blind_immediately (p : Program α) :
  (immediately p).Blind
  := by
  induction p with
  | done a => trivial
  | ask request next ih =>
    intro answer
    apply ih

theorem blind_forEach (xs : List α) {job : α → Job Unit} (h : ∀ x, (job x).Blind) :
  (forEach xs job).Blind
  := by
  induction xs with
  | nil => trivial
  | cons x xs ih => apply (h x).bind fun _ => ih

end Job

/-! ### Blind functions of a session -/

namespace Validation

theorem blind_one (engine : Nat) (document : Document) (options : Options) :
  (one engine document options).Blind
  := by
  use fun s => rfl
  intro problems
  use fun s => rfl, fun s => rfl, fun s => rfl
  intro s
  cases problems with
  | error failure =>
    dsimp only
    split <;> trivial
  | ok problems =>
    dsimp only
    split <;> trivial

end Validation

namespace Session

theorem blind_resolveOptions (setup : Setup) (root directory : Path)
    (inline : Option Options) :
  (resolveOptions setup root directory inline).Blind
  := by
  apply (Job.blind_await _).bind
  intro resolution
  apply (Job.blind_forEach _ fun failure => Job.blind_say _).bind
  intro _
  trivial

theorem blind_activate (setup : Setup) (root : Path) :
  (activate setup root).Blind
  := by
  apply (Job.blind_immediately _).bind
  rintro (_ | package)
  · trivial
  · apply (Job.blind_say _).bind
    intro _
    apply (Job.blind_immediately _).bind
    rintro (failure | check)
    · trivial
    · apply (Job.blind_update fun s => rfl).bind
      intro _
      apply (Job.blind_update fun s => rfl).bind
      intro _
      trivial

theorem blind_lookFor (setup : Setup) (root : Path) :
  (lookFor setup root).Blind
  := by
  apply (blind_activate setup root).bind
  rintro (failure | _ | _)
  · apply (Job.blind_say _).bind
    intro _
    apply (Job.blind_update fun s => rfl).bind
    intro _
    trivial
  · apply (Job.blind_immediately _).bind
    intro configured
    split
    · apply (Job.blind_update fun s => rfl).bind
      intro _
      trivial
    · apply (Job.blind_update fun s => rfl).bind
      intro _
      trivial
  · trivial

/-- Starting a session is looking for the linter, whether options are kept or not. -/
theorem run_startUp_forgetful (host : Job.Host) (s : Session) (setup : Setup)
    (request : StartRequest) :
  (startUp setup request).forgetful.run host s.forget
    = (lookFor setup (workspaceRoot setup.locator.environment.cwd request)).forgetful.run host
        (s.requested setup request).forget
  := by
  rw [startUp_eq]
  cases options : request.options with
  | none =>
    simp [Job.forgetful_bind, Job.run_bind, takeSettings, requested, options, forget]
  | some value =>
    simp [Job.forgetful_bind, Job.run_bind, takeSettings, requested, options, forget]

theorem blind_updateDocument (uri : Uri) (version : Option Int) (text : String) :
  (updateDocument uri version text).Blind
  := ⟨fun _ => rfl, fun _ => rfl, fun _ => trivial⟩

end Session

end TemplateLint
