import Mathlib.Data.List.ReduceOption
import TemplateLint.Proofs.Session.Inspection

/-!
# One inspection at a time

Jobs that go on in any order share the engines of a session.  From the moment at which a job
takes an engine for an inspection, and until the check has ended, no other job uses the
engine: it stays configured with the options that the inspection was given.  So the checks
that have ended, and those that still go on, are those of the inspections that were begun,
each with its own options, text and path.
-/

namespace TemplateLint

/-! ### Steps of one job -/

namespace Job

variable {answer : Answering} {known : Nat} {t u : Job α} {s next : Session}
  {events : List Event}

/-- A tidy job that goes on to where it waits leaves the shared state as it is. -/
theorem Tidy.settle (tidy : t.Tidy known) (settled : t.settle answer s = (u, next, events)) :
  u.Tidy known ∧ next = s ∧ Event.checks events = []
  := by
  induction tidy generalizing u events with
  | probe _ ih => apply ih _ settled
  | @tell known event t silent later ih =>
    rcases goes : t.settle answer s with ⟨v, s', more⟩
    rw [Job.settle, goes] at settled
    obtain ⟨rfl, rfl, rfl⟩ := settled
    obtain ⟨tidy, same, none⟩ := ih goes
    refine ⟨tidy, same, ?_⟩
    rw [Event.checks, List.filterMap_cons_none silent]
    apply none
  | done =>
    obtain ⟨rfl, rfl, rfl⟩ := settled
    exact ⟨.done, rfl, rfl⟩
  | access grows later =>
    obtain ⟨rfl, rfl, rfl⟩ := settled
    exact ⟨.access grows later, rfl, rfl⟩
  | ask later =>
    obtain ⟨rfl, rfl, rfl⟩ := settled
    exact ⟨.ask later, rfl, rfl⟩
  | inspect v here later =>
    obtain ⟨rfl, rfl, rfl⟩ := settled
    exact ⟨.inspect v here later, rfl, rfl⟩

/-- A tidy job that is resumed uses no engine, or begins an inspection. -/
theorem Tidy.resume (tidy : t.Tidy known) (linked : s.Linked) (le : known ≤ s.engines.length)
    (resumed : t.resume answer s = some (u, next, events)) :
  (u.Tidy next.engines.length ∧ s.Grows next ∧ Event.checks events = []
      ∧ ∀ (v : Inspection) rest, t ≠ v.job >>= rest)
    ∨ ∃ (v : Inspection) (rest : _ → Job α), t = v.job >>= rest ∧ v.engine < known
      ∧ (∀ outcome, (rest outcome).Tidy known) ∧ s.isFree v.engine = true
  := by
  cases tidy with
  | done => cases resumed
  | access grows later =>
    left
    obtain ⟨tidy, rfl, silent⟩ := (later s linked le).settle (Option.some.inj resumed)
    refine ⟨tidy, grows s, silent, ?_⟩
    rintro v rest ⟨⟩
  | ask later =>
    left
    obtain ⟨tidy, rfl, silent⟩ := (later _).settle (Option.some.inj resumed)
    refine ⟨tidy.weaken le, .refl _, silent, ?_⟩
    rintro v rest ⟨⟩
  | probe later =>
    left
    obtain ⟨tidy, rfl, silent⟩ := (later _).settle (Option.some.inj resumed)
    refine ⟨tidy.weaken le, .refl _, silent, ?_⟩
    rintro v rest ⟨⟩
  | tell silent later =>
    left
    obtain ⟨tidy, rfl, none⟩ := (Tidy.tell silent later).settle (Option.some.inj resumed)
    refine ⟨tidy.weaken le, .refl _, none, ?_⟩
    rintro v rest ⟨⟩
  | @inspect _ v rest here later =>
    right
    change (if s.isFree v.engine = true then _ else none) = _ at resumed
    split at resumed
    · rename_i free
      exact ⟨v, rest, rfl, here, later, free⟩
    · cases resumed

theorem resume_job (answer : Answering) {v : Inspection}
    (rest : Except Failure (Option (List Diagnostic)) → Job α) (free : s.isFree v.engine = true) :
  (v.job >>= rest).resume answer s
    = some (v.rest >>= rest, (s.take v.engine).configure v.engine v.options, [])
  := by
  change (if s.isFree v.engine = true then _ else none) = _
  rw [if_pos free]
  rfl

/-- The check that a job asks for when it waits for one. -/
def checking? (s : Session) : Job α → Option (Options × String × Path)
  | check engine text path _ => some ((checkBy s engine text path).1, text, path)
  | _ => none

theorem Tidy.checking? (tidy : t.Tidy known) :
  t.checking? s = none
  := by
  cases tidy with
  | _ => rfl

end Job

/-! ### Engines -/

namespace Session

variable {s : Session} {v : Inspection}

/-- Whether the engine of an inspection is taken and configured with its options. -/
def Serves (s : Session) (v : Inspection) : Prop :=
  ∃ e, s.engines[v.engine]? = some e ∧ e.taken = true ∧ e.options = v.options

theorem Serves.grow {next : Session} (serves : s.Serves v) (grows : s.Grows next) :
  next.Serves v
  := by
  obtain ⟨e, here, kept⟩ := serves
  obtain ⟨more, same⟩ := grows.engines
  obtain ⟨inside, -⟩ := List.getElem?_eq_some_iff.mp here
  refine ⟨e, ?_, kept⟩
  rw [← same, List.getElem?_append_left inside, here]

/-- Another engine may be changed. -/
theorem Serves.changeEngine (serves : s.Serves v) {engine : Nat} (differ : engine ≠ v.engine)
    (change : Engine → Engine) :
  (s.changeEngine engine change).Serves v
  := by
  obtain ⟨e, here, kept⟩ := serves
  refine ⟨e, ?_, kept⟩
  simp [Session.changeEngine, differ, here]

theorem serves_taken (here : v.engine < s.engines.length) :
  ((s.take v.engine).configure v.engine v.options).Serves v
  := by
  refine ⟨{ s.engines[v.engine] with options := v.options, taken := true }, ?_, rfl, rfl⟩
  simp [take, configure, Session.changeEngine, here]

/-- What an engine checks for an inspection it checks with its options. -/
theorem Serves.options (serves : s.Serves v) (text : String) (path : Path) :
  (Job.checkBy s v.engine text path).1 = v.options
  := by
  obtain ⟨e, here, -, options⟩ := serves
  rw [Job.checkBy, here, ← options]

theorem Serves.checking? (serves : s.Serves v)
    (rest : Except Failure (Option (List Diagnostic)) → Job α) :
  (v.rest >>= rest).checking? s = some v.triple
  := by
  change some ((Job.checkBy s v.engine v.document.text v.document.checkPath).1, _, _) = _
  rw [serves.options]
  rfl

theorem Serves.taken (serves : s.Serves v) :
  s.isFree v.engine = false
  := by
  obtain ⟨e, here, taken, -⟩ := serves
  simp [isFree, here, taken]

end Session

/-- When a check has ended, the engine is given back, and the check is the one that the
inspection is for. -/
theorem Job.resume_rest (answer : Answering) {s : Session} {v : Inspection}
    (rest : Except Failure (Option (List Diagnostic)) → Job α) (serves : s.Serves v) :
  let check := Job.checkBy s v.engine v.document.text v.document.checkPath
  (v.rest >>= rest).resume answer s
    = some (v.conclude (check.2.run answer) >>= rest, s.giveBack v.engine,
      [.checking v.options v.document.text v.document.checkPath])
  := by
  rw [← serves.options v.document.text v.document.checkPath]
  rfl

/-! ### Places in lists -/

section Places

variable {R : α → β → Prop} {xs : List α} {ys : List β} {i : Nat}

theorem forall₂_set {a : α} {b : β} (all : List.Forall₂ R xs ys) (here : R a b) (i : Nat) :
  List.Forall₂ R (xs.set i a) (ys.set i b)
  := by
  induction all generalizing i with
  | nil => apply List.Forall₂.nil
  | cons first _ ih =>
    cases i with
    | zero =>
      apply List.Forall₂.cons here
      assumption
    | succ i => apply List.Forall₂.cons first (ih i)

theorem forall₂_getElem? {a : α} (all : List.Forall₂ R xs ys) (here : xs[i]? = some a) :
  ∃ b, ys[i]? = some b ∧ R a b
  := by
  induction all generalizing i with
  | nil => cases here
  | cons first _ ih =>
    cases i with
    | zero =>
      cases here
      exact ⟨_, rfl, first⟩
    | succ i => apply ih here

theorem reduceOption_set_some {xs : List (Option α)} {a : α} (here : xs[i]? = some none) :
  (xs.set i (some a)).reduceOption.Perm (a :: xs.reduceOption)
  := by
  induction xs generalizing i with
  | nil => cases here
  | cons x xs ih =>
    cases i with
    | zero =>
      cases here
      apply List.Perm.refl
    | succ i =>
      cases x with
      | none => apply ih here
      | some b =>
        rw [List.set_cons_succ, List.reduceOption_cons_of_some, List.reduceOption_cons_of_some]
        apply ((ih here).cons b).trans
        apply List.Perm.swap

theorem reduceOption_set_none {xs : List (Option α)} {a : α} (here : xs[i]? = some (some a)) :
  (a :: (xs.set i none).reduceOption).Perm xs.reduceOption
  := by
  obtain ⟨inside, same⟩ := List.getElem?_eq_some_iff.mp here
  have absent : (xs.set i none)[i]? = some none := List.getElem?_set_self inside
  have perm := reduceOption_set_some (a := a) absent
  rw [List.set_set, ← same, List.set_getElem_self] at perm
  apply perm.symm

end Places

/-! ### Pools -/

/-- Where a job of a pool stands: outside of all inspections, or in one, waiting for the
check. -/
inductive Inspection.Stands (known : Nat) : Job Unit → Option Inspection → Prop
  | outside {t} (tidy : t.Tidy known) : Stands known t none
  | inside (v : Inspection) {rest} (later : ∀ outcome, (rest outcome).Tidy known) :
      Stands known (v.rest >>= rest) (some v)

theorem Inspection.Stands.weaken {known more : Nat} {t : Job Unit} {place : Option Inspection}
    (stands : Stands known t place) (le : known ≤ more) :
  Stands more t place
  := by
  cases stands with
  | outside tidy => apply outside (tidy.weaken le)
  | inside v later =>
    apply inside
    intro outcome
    apply (later outcome).weaken le

namespace Pool

/-- What holds of a pool of jobs that use engines in inspections only, of which some are in
one. -/
structure Shared (known : Nat) (p : Pool) (places : List (Option Inspection)) : Prop where
  known : known ≤ p.session.engines.length
  linked : p.session.Linked
  stands : List.Forall₂ (Inspection.Stands p.session.engines.length) p.jobs places
  serves : ∀ v ∈ places.reduceOption, p.session.Serves v
  alone : (places.reduceOption.map Inspection.engine).Nodup

/-- The checks that the jobs of a pool wait for. -/
def inspecting (p : Pool) : List (Options × String × Path) :=
  p.jobs.filterMap (Job.checking? p.session)

variable {known : Nat} {p : Pool} {places : List (Option Inspection)}

/-- The checks that jobs wait for are those of the inspections that they are in. -/
theorem Shared.inspecting_eq (shared : p.Shared known places) :
  p.inspecting = places.reduceOption.map Inspection.triple
  := by
  obtain ⟨-, -, stands, serves, -⟩ := shared
  rw [inspecting]
  generalize p.jobs = jobs at stands
  induction stands with
  | nil => rfl
  | cons here _ ih =>
    cases here with
    | outside tidy =>
      rw [List.filterMap_cons_none tidy.checking?]
      apply ih serves
    | inside v later =>
      rw [List.reduceOption_cons_of_some, List.forall_mem_cons] at serves
      rw [List.filterMap_cons_some (serves.1.checking? _), ih serves.2]
      rfl

/-- A job goes from its place to another one. -/
theorem Shared.set (shared : p.Shared known places) {i : Nat} {u : Job Unit}
    {place : Option Inspection} {next : Session} {events : List Event} (linked : next.Linked)
    (more : p.session.engines.length ≤ next.engines.length)
    (stands : Inspection.Stands next.engines.length u place)
    (serves : ∀ v ∈ (places.set i place).reduceOption, next.Serves v)
    (alone : ((places.set i place).reduceOption.map Inspection.engine).Nodup) :
  Shared known { p with session := next, jobs := p.jobs.set i u, events := events }
    (places.set i place)
  where
  known := shared.known.trans more
  linked := linked
  stands := forall₂_set (shared.stands.imp fun _ _ stands => stands.weaken more) stands i
  serves := serves
  alone := alone

/-- Whether a job of a pool begins an inspection in a move. -/
def Enters (p : Pool) (m : Move) (v : Inspection) : Prop :=
  ∃ i rest, m = .resume i ∧ p.jobs[i]? = some (v.job >>= rest)
    ∧ p.session.isFree v.engine = true

/-- The checks of inspections that were begun: those that were asked for and have ended, and
those that jobs wait for. -/
def begun (p : Pool) : List (Options × String × Path) := Event.checks p.events ++ p.inspecting

/-- Whether the checks that are begun in a move are those of the inspection that begins. -/
structure Accounts (p : Pool) (m : Move) : Prop where
  enter : ∀ v, p.Enters m v → (p.move m).begun.Perm (v.triple :: p.begun)
  pass : (∀ v, ¬ p.Enters m v) → (p.move m).begun.Perm p.begun

theorem move_resume {i : Nat} {t u : Job Unit} {next : Session} {events : List Event}
    (here : p.jobs[i]? = some t) (resumed : t.resume p.answer p.session = some (u, next, events)) :
  p.move (.resume i)
    = { p with session := next, jobs := p.jobs.set i u, events := p.events ++ events }
  := by
  rw [move, here, Option.bind_some, resumed]

/-- A job that is outside of all inspections may stay so. -/
theorem Shared.stay (shared : p.Shared known places) {i : Nat} {t u : Job Unit} {next : Session}
    {events : List Event} (here : p.jobs[i]? = some t) (outside : places[i]? = some none)
    (resumed : t.resume p.answer p.session = some (u, next, events))
    (tidy : u.Tidy next.engines.length) (grows : p.session.Grows next)
    (silent : Event.checks events = [])
    (no : ∀ (v : Inspection) rest, t ≠ v.job >>= rest) :
  (p.move (.resume i)).Shared known places ∧ p.Accounts (.resume i)
  := by
  have same : places.set i none = places := by
    obtain ⟨inside, same⟩ := List.getElem?_eq_some_iff.mp outside
    rw [← same, List.set_getElem_self]
  have moved : (p.move (.resume i)).Shared known places := by
    rw [move_resume here resumed, ← same]
    apply shared.set (grows.linked shared.linked) grows.engines.length_le (.outside tidy)
    · rw [same]
      intro v member
      apply (shared.serves v member).grow grows
    · rw [same]
      apply shared.alone
  use moved
  constructor
  · rintro v ⟨j, rest, ⟨⟩, begins, -⟩
    rw [here] at begins
    cases no v rest (Option.some.inj begins)
  · intro _
    rw [begun, begun, moved.inspecting_eq, shared.inspecting_eq, move_resume here resumed,
      Event.checks_append, silent, List.append_nil]

/-- A job that is outside of all inspections may begin one, if the engine is free. -/
theorem Shared.enter (shared : p.Shared known places) {i : Nat} {v : Inspection}
    {rest : Except Failure (Option (List Diagnostic)) → Job Unit}
    (here : p.jobs[i]? = some (v.job >>= rest)) (outside : places[i]? = some none)
    (found : v.engine < p.session.engines.length)
    (later : ∀ outcome, (rest outcome).Tidy p.session.engines.length)
    (free : p.session.isFree v.engine = true) :
  (p.move (.resume i)).Shared known (places.set i (some v)) ∧ p.Accounts (.resume i)
  := by
  have moved := move_resume here (Job.resume_job p.answer rest free)
  have perm : (places.set i (some v)).reduceOption.Perm (v :: places.reduceOption) :=
    reduceOption_set_some outside
  have differ w (member : w ∈ places.reduceOption) : v.engine ≠ w.engine := by
    intro same
    have taken := (shared.serves w member).taken
    rw [← same, free] at taken
    cases taken
  have entered : (p.move (.resume i)).Shared known (places.set i (some v)) := by
    rw [moved]
    apply shared.set
    · apply (shared.linked.changeEngine v.engine _).changeEngine
    · simp [Session.take, Session.configure, Session.length_changeEngine]
    · apply Inspection.Stands.inside v
      simpa [Session.take, Session.configure, Session.length_changeEngine] using later
    · intro w member
      rcases List.mem_cons.mp (perm.subset member) with rfl | member
      · apply Session.serves_taken found
      · apply ((shared.serves w member).changeEngine (differ w member) _).changeEngine
          (differ w member)
    · rw [(perm.map _).nodup_iff, List.map_cons, List.nodup_cons]
      refine ⟨?_, shared.alone⟩
      rw [List.mem_map]
      rintro ⟨w, member, same⟩
      apply differ w member same.symm
  use entered
  constructor
  · rintro w ⟨j, rest', ⟨⟩, begins, -⟩
    rw [here] at begins
    obtain ⟨-, same⟩ := Inspection.eq_of_job_bind (Option.some.inj begins)
    rw [begun, begun, entered.inspecting_eq, shared.inspecting_eq, moved, ← same,
      List.append_nil]
    apply ((perm.map _).append_left _).trans
    apply List.perm_middle
  · intro none
    cases none v ⟨i, rest, rfl, here, free⟩

/-- A job that is in an inspection leaves it when the check has ended, which was one of what
the inspection is for. -/
theorem Shared.leave (shared : p.Shared known places) {i : Nat} {v : Inspection}
    {rest : Except Failure (Option (List Diagnostic)) → Job Unit}
    (here : p.jobs[i]? = some (v.rest >>= rest)) (inside : places[i]? = some (some v))
    (later : ∀ outcome, (rest outcome).Tidy p.session.engines.length) :
  (p.move (.resume i)).Shared known (places.set i none) ∧ p.Accounts (.resume i)
    ∧ (p.move (.resume i)).events
      = p.events ++ [.checking v.options v.document.text v.document.checkPath]
  := by
  have perm : (v :: (places.set i none).reduceOption).Perm places.reduceOption :=
    reduceOption_set_none inside
  have serves := shared.serves v (perm.subset List.mem_cons_self)
  have moved := move_resume here (Job.resume_rest p.answer rest serves)
  have alone := shared.alone
  rw [← (perm.map _).nodup_iff, List.map_cons, List.nodup_cons] at alone
  have left : (p.move (.resume i)).Shared known (places.set i none) := by
    rw [moved]
    apply shared.set
    · apply shared.linked.changeEngine
    · simp [Session.giveBack, Session.length_changeEngine]
    · apply Inspection.Stands.outside
      apply (v.tidy_conclude _).bind
      simpa [Session.giveBack, Session.length_changeEngine] using later
    · intro w member
      apply (shared.serves w (perm.subset (List.mem_cons_of_mem _ member))).changeEngine
      intro same
      apply alone.1
      rw [same]
      apply List.mem_map_of_mem member
    · apply alone.2
  use left
  constructor
  · constructor
    · rintro w ⟨j, rest', ⟨⟩, begins, -⟩
      rw [here] at begins
      cases begins
    · intro _
      rw [begun, begun, left.inspecting_eq, shared.inspecting_eq, moved, Event.checks_append,
        List.append_assoc]
      apply (perm.map Inspection.triple).append_left
  · rw [moved]

/-- A job that cannot go on begins nothing. -/
theorem accounts_of_stuck {i : Nat}
    (stuck : (p.jobs[i]?.bind fun job => job.resume p.answer p.session) = none) :
  p.move (.resume i) = p ∧ p.Accounts (.resume i)
  := by
  have same : p.move (.resume i) = p := by rw [move, stuck]
  use same
  constructor
  · rintro v ⟨j, rest, ⟨⟩, here, free⟩
    rw [here, Option.bind_some, Job.resume_job p.answer rest free] at stuck
    cases stuck
  · intro _
    rw [same]

/-- A job that is resumed comes to another place, and the others stay at theirs. -/
theorem Shared.resume (shared : p.Shared known places) (i : Nat) :
  ∃ places', (p.move (.resume i)).Shared known places'
    ∧ (∀ j, j ≠ i → places'[j]? = places[j]?) ∧ p.Accounts (.resume i)
  := by
  cases goes : p.jobs[i]?.bind fun job => job.resume p.answer p.session with
  | none =>
    obtain ⟨same, accounts⟩ := accounts_of_stuck goes
    rw [same]
    exact ⟨places, shared, fun _ _ => rfl, accounts⟩
  | some result =>
    obtain ⟨t, here, resumed⟩ := Option.bind_eq_some_iff.mp goes
    obtain ⟨place, stood, stands⟩ := forall₂_getElem? shared.stands here
    have others (place : Option Inspection) j (differ : j ≠ i) :
        (places.set i place)[j]? = places[j]? := List.getElem?_set_ne differ.symm
    cases stands with
    | outside tidy =>
      obtain ⟨u, next, events⟩ := result
      rcases tidy.resume shared.linked le_rfl resumed with
        ⟨tidy, grows, silent, no⟩ | ⟨v, rest, rfl, found, later, free⟩
      · obtain ⟨shared, accounts⟩ := shared.stay here stood resumed tidy grows silent no
        exact ⟨places, shared, fun _ _ => rfl, accounts⟩
      · obtain ⟨shared, accounts⟩ := shared.enter here stood found later free
        exact ⟨_, shared, others _, accounts⟩
    | inside v later =>
      obtain ⟨shared, accounts, -⟩ := shared.leave here stood later
      exact ⟨_, shared, others _, accounts⟩

/-- A job that is started is outside of all inspections. -/
theorem Shared.start (shared : p.Shared known places) {job : Job Unit} (tidy : job.Tidy known) :
  (p.move (.start job)).Shared known (places ++ [none]) ∧ p.Accounts (.start job)
  := by
  rcases settled : job.settle p.answer p.session with ⟨u, next, events⟩
  obtain ⟨tidy, rfl, silent⟩ := (tidy.weaken shared.known).settle settled
  have moved : p.move (.start job)
      = { p with session := p.session, jobs := p.jobs ++ [u], events := p.events ++ events } := by
    rw [move, settled]
  have same : (places ++ [none]).reduceOption = places.reduceOption := by
    rw [List.reduceOption_append]
    apply List.append_nil
  have started : (p.move (.start job)).Shared known (places ++ [none]) := by
    rw [moved]
    constructor
    · apply shared.known
    · apply shared.linked
    · apply List.rel_append shared.stands
      apply List.Forall₂.cons (.outside tidy) .nil
    · rw [same]
      apply shared.serves
    · rw [same]
      apply shared.alone
  use started
  constructor
  · rintro v ⟨j, rest, ⟨⟩, -⟩
  · intro _
    rw [begun, begun, started.inspecting_eq, shared.inspecting_eq, same, moved,
      Event.checks_append, silent, List.append_nil]

/-- Whatever comes next, jobs that are not resumed stay at their places. -/
theorem Shared.move (shared : p.Shared known places) {m : Move}
    (tidy : ∀ job, m = .start job → job.Tidy known) :
  ∃ places', (p.move m).Shared known places'
    ∧ (∀ i place, m ≠ .resume i → places[i]? = some place → places'[i]? = some place)
    ∧ p.Accounts m
  := by
  cases m with
  | start job =>
    obtain ⟨shared, accounts⟩ := shared.start (tidy job rfl)
    refine ⟨_, shared, ?_, accounts⟩
    intro i place _ here
    obtain ⟨inside, -⟩ := List.getElem?_eq_some_iff.mp here
    rw [List.getElem?_append_left inside, here]
  | resume i =>
    obtain ⟨places', shared, others, accounts⟩ := shared.resume i
    refine ⟨places', shared, ?_, accounts⟩
    intro j place differ here
    rw [others j fun same => differ (same ▸ rfl), here]
  | alter answer =>
    refine ⟨places, ⟨shared.known, shared.linked, shared.stands, shared.serves, shared.alone⟩,
      fun _ _ _ here => here, ?_, ?_⟩
    · rintro v ⟨j, rest, ⟨⟩, -⟩
    · intro _
      apply List.Perm.refl

/-- So they do after moves. -/
theorem Shared.play (shared : p.Shared known places) (moves : List Move)
    (tidy : ∀ job, .start job ∈ moves → job.Tidy known) :
  ∃ places', (p.play moves).Shared known places'
    ∧ ∀ i place, .resume i ∉ moves → places[i]? = some place → places'[i]? = some place
  := by
  induction moves generalizing p places with
  | nil => exact ⟨places, shared, fun _ _ _ here => here⟩
  | cons m rest ih =>
    obtain ⟨places', moved, others, -⟩ :=
      shared.move fun job same => tidy job (same ▸ List.mem_cons_self)
    obtain ⟨places'', played, others'⟩ :=
      ih moved fun job member => tidy job (List.mem_cons_of_mem _ member)
    refine ⟨places'', played, ?_⟩
    intro i place absent here
    rw [List.mem_cons, not_or] at absent
    apply others' i place absent.2
    apply others i place (Ne.symm absent.1) here

/-- The inspections that are begun in moves, one after the other. -/
inductive Begins : Pool → List Move → List Inspection → Prop
  | nil (p : Pool) : Begins p [] []
  | enter {p : Pool} {m rest v vs} (enters : p.Enters m v) (later : Begins (p.move m) rest vs) :
      Begins p (m :: rest) (v :: vs)
  | pass {p : Pool} {m rest vs} (none : ∀ v, ¬ p.Enters m v) (later : Begins (p.move m) rest vs) :
      Begins p (m :: rest) vs

theorem exists_begins (p : Pool) (moves : List Move) :
  ∃ vs, p.Begins moves vs
  := by
  induction moves generalizing p with
  | nil => exact ⟨[], .nil p⟩
  | cons m rest ih =>
    obtain ⟨vs, later⟩ := ih (p.move m)
    by_cases enters : ∃ v, p.Enters m v
    · obtain ⟨v, enters⟩ := enters
      exact ⟨v :: vs, .enter enters later⟩
    · exact ⟨vs, .pass (not_exists.mp enters) later⟩

/-- The checks that are begun in moves are those of the inspections that are begun. -/
theorem Shared.begun_perm (shared : p.Shared known places) {moves : List Move}
    (tidy : ∀ job, .start job ∈ moves → job.Tidy known) {vs : List Inspection}
    (begins : p.Begins moves vs) :
  (p.play moves).begun.Perm (vs.map Inspection.triple ++ p.begun)
  := by
  induction begins generalizing places with
  | nil => apply List.Perm.refl
  | @enter p m rest v vs enters _ ih =>
    obtain ⟨places', moved, -, accounts⟩ :=
      shared.move fun job same => tidy job (same ▸ List.mem_cons_self)
    apply (ih moved fun job member => tidy job (List.mem_cons_of_mem _ member)).trans
    apply ((accounts.enter v enters).append_left _).trans
    apply List.perm_middle
  | pass none _ ih =>
    obtain ⟨places', moved, -, accounts⟩ :=
      shared.move fun job same => tidy job (same ▸ List.mem_cons_self)
    apply (ih moved fun job member => tidy job (List.mem_cons_of_mem _ member)).trans
    apply (accounts.pass none).append_left

theorem jobs_move_of_ne {m : Move} {i : Nat} {t : Job Unit} (differ : m ≠ .resume i)
    (here : p.jobs[i]? = some t) :
  (p.move m).jobs[i]? = some t
  := by
  cases m with
  | start job =>
    obtain ⟨inside, -⟩ := List.getElem?_eq_some_iff.mp here
    rw [← here]
    apply List.getElem?_append_left inside
  | resume j =>
    rw [move]
    split
    · rw [← here]
      apply List.getElem?_set_ne
      rintro rfl
      apply differ rfl
    · apply here
  | alter answer => apply here

/-- A job that is not resumed waits where it is. -/
theorem jobs_play_of_notMem {moves : List Move} {i : Nat} {t : Job Unit}
    (absent : .resume i ∉ moves) (here : p.jobs[i]? = some t) :
  (p.play moves).jobs[i]? = some t
  := by
  induction moves generalizing p with
  | nil => apply here
  | cons m rest ih =>
    rw [List.mem_cons, not_or] at absent
    apply ih absent.2
    apply jobs_move_of_ne (Ne.symm absent.1) here

/-- Whether the job at a position waits for the check of an inspection: the engine is taken
and configured for it, no other job waits for a check by the engine, and the check that
ends when the job goes on is the one that the inspection is for. -/
structure Guards (p : Pool) (i : Nat) (v : Inspection)
    (rest : Except Failure (Option (List Diagnostic)) → Job Unit) : Prop where
  waits : p.jobs[i]? = some (v.rest >>= rest)
  serves : p.session.Serves v
  alone : ∀ j text path next, p.jobs[j]? = some (.check v.engine text path next) → j = i
  ends : (p.move (.resume i)).events
    = p.events ++ [.checking v.options v.document.text v.document.checkPath]

/-- A job that takes a free engine for an inspection is in it, or in one that is not told
apart from it. -/
theorem Shared.enters (shared : p.Shared known places) {i : Nat} {v : Inspection}
    {rest : Except Failure (Option (List Diagnostic)) → Job Unit}
    (here : p.jobs[i]? = some (v.job >>= rest)) (free : p.session.isFree v.engine = true) :
  ∃ w places', v.engine = w.engine ∧ v.triple = w.triple
    ∧ (p.move (.resume i)).Shared known places' ∧ places'[i]? = some (some w)
  := by
  obtain ⟨place, stood, stands⟩ := forall₂_getElem? shared.stands here
  obtain ⟨inside, -⟩ := List.getElem?_eq_some_iff.mp stood
  have resumed := Job.resume_job p.answer rest free
  generalize same : v.job >>= rest = t at stands resumed
  cases stands with
  | outside tidy =>
    rcases tidy.resume shared.linked le_rfl resumed with
      ⟨-, -, -, no⟩ | ⟨w, rest', rfl, found, later, free'⟩
    · cases no v rest same.symm
    · obtain ⟨engine, triple⟩ := Inspection.eq_of_job_bind same
      rw [same] at here
      exact ⟨w, _, engine, triple, (shared.enter here stood found later free').1,
        List.getElem?_set_self inside⟩
  | inside w later => cases same

theorem Shared.guards (shared : p.Shared known places) {i : Nat} {v w : Inspection}
    {rest : Except Failure (Option (List Diagnostic)) → Job Unit}
    (here : p.jobs[i]? = some (v.rest >>= rest)) (inside : places[i]? = some (some w))
    (engine : v.engine = w.engine) (triple : v.triple = w.triple) :
  p.Guards i v rest
  := by
  have perm : (w :: (places.set i none).reduceOption).Perm places.reduceOption :=
    reduceOption_set_none inside
  have serves : p.session.Serves v := by
    obtain ⟨e, configured⟩ := shared.serves w (perm.subset List.mem_cons_self)
    rw [Session.Serves, engine, (Prod.mk.inj triple).1]
    exact ⟨e, configured⟩
  refine ⟨here, serves, ?_, ?_⟩
  · intro j text path next waits
    by_contra differ
    obtain ⟨place, stood, stands⟩ := forall₂_getElem? shared.stands waits
    generalize check : Job.check v.engine text path next = t at stands
    cases stands with
    | outside tidy =>
      have none := tidy.checking? (s := p.session)
      rw [← check] at none
      cases none
    | inside u later =>
      obtain ⟨same, -⟩ := Job.check.inj check
      have alone := shared.alone
      rw [← (perm.map _).nodup_iff, List.map_cons, List.nodup_cons] at alone
      apply alone.1
      rw [← engine, same]
      apply List.mem_map_of_mem
      rw [List.reduceOption_mem_iff]
      apply List.mem_of_getElem? (i := j)
      rw [List.getElem?_set_ne (Ne.symm differ), stood]
  · rw [move_resume here (Job.resume_rest p.answer rest serves)]

end Pool

/-- The jobs of a session for messages, and those that validate a document or a batch with an
engine that is known. -/
inductive Job.Validates (setup : Setup) (known : Nat) : Job Unit → Prop
  | message (message : Message) : Validates setup known (message.job setup)
  | single {engine} (found : engine < known) (document : Document) (options : Options) :
      Validates setup known (Validation.single engine document options)
  | all {engine} (found : engine < known) (batch : List (Document × Options)) :
      Validates setup known (Validation.all engine batch >>= fun _ => pure ())

theorem Job.Validates.tidy {setup : Setup} {known : Nat} {job : Job Unit}
    (validates : job.Validates setup known) :
  job.Tidy known
  := by
  cases validates with
  | message message => apply message.tidy_job
  | single found document options => apply Validation.tidy_single found
  | all found batch =>
    apply (Validation.tidy_all found batch).bind
    intro _
    apply Job.Tidy.done

namespace Pool

theorem shared_ofSession (answer : Answering) {s : Session} (linked : s.Linked) :
  (ofSession answer s).Shared s.engines.length []
  where
  known := le_rfl
  linked := linked
  stands := List.Forall₂.nil
  serves := by
    intro v absent
    cases absent
  alone := List.nodup_nil

/-- Let jobs of a session and validations of documents and batches go on in any order, and
the machine change.  From the moment at which a job takes a free engine for an inspection,
and until it goes on, the engine is configured with the options of the inspection, and no
other job checks with it; and the check that ends then is the one that the inspection is for.
The checks that have ended, and those that jobs wait for, are those of the inspections that
were begun, no more and no fewer. -/
theorem inspections_alone {setup : Setup} (answer : Answering) {s : Session} (linked : s.Linked)
    {moves : List Move}
    (validates : ∀ job, .start job ∈ moves → job.Validates setup s.engines.length) :
  let after moves := (ofSession answer s).play moves
  (∀ earlier i between later (v : Inspection) rest,
      moves = earlier ++ .resume i :: (between ++ later) →
      (after earlier).jobs[i]? = some (v.job >>= rest) →
      (after earlier).session.isFree v.engine = true →
      .resume i ∉ between →
      (after (earlier ++ .resume i :: between)).Guards i v rest)
    ∧ (∃ vs, (ofSession answer s).Begins moves vs)
    ∧ ∀ vs, (ofSession answer s).Begins moves vs →
      (Event.checks (after moves).events ++ (after moves).inspecting).Perm
        (vs.map Inspection.triple)
  := by
  intro after
  have first := shared_ofSession answer linked
  refine ⟨?alone, exists_begins _ _, ?begun⟩
  case alone =>
    rintro earlier i between later v rest rfl here free absent
    obtain ⟨places, shared, -⟩ := first.play earlier fun job member =>
      (validates job (by simp [member])).tidy
    obtain ⟨w, places, engine, triple, shared, inside⟩ := shared.enters here free
    obtain ⟨places, shared, stay⟩ := shared.play between fun job member =>
      (validates job (by simp [member])).tidy
    have waits : ((after earlier).move (.resume i)).jobs[i]? = some (v.rest >>= rest) := by
      rw [move_resume here (Job.resume_job _ rest free)]
      obtain ⟨present, -⟩ := List.getElem?_eq_some_iff.mp here
      apply List.getElem?_set_self present
    have played : after (earlier ++ .resume i :: between)
        = ((after earlier).move (.resume i)).play between := play_append _ _ _
    rw [played]
    apply shared.guards (jobs_play_of_notMem absent waits) (stay i _ absent inside) engine triple
  case begun =>
    intro vs begins
    have perm := first.begun_perm (fun job member => (validates job member).tidy) begins
    have none : (ofSession answer s).begun = [] := rfl
    rw [none, List.append_nil] at perm
    apply perm

end Pool

/-! ### Two validations with one linter -/

theorem Inspection.exists_rest (v : Inspection) :
  ∃ rest, Validation.single v.engine v.document v.options = v.job >>= rest
  := ⟨_, rfl⟩

namespace Sample

/-- A session in the small workspace whose linter is loaded. -/
def loaded : Session :=
  { Session.start with
    engines := [⟨fun options _ _ => pure (.ok (lint options.members)), .empty, false⟩]
    linter := some 0 }

/-- Options for the linter. -/
def strict : Options := ⟨[("requireStrictEqualityOperators", .bool true)]⟩

/-- A template is validated without options, and meanwhile a batch with options begins. -/
def sharedMoves : List Move :=
  [.start (Validation.single 0 document .empty),
    .start (Validation.all 0 [(template "/w/b.pug", strict)] >>= fun _ => pure ()),
    .resume 0, .resume 1, .resume 0, .resume 0, .resume 1, .resume 1, .resume 1]

theorem validates_sharedMoves (job : Job Unit) (started : .start job ∈ sharedMoves) :
  job.Validates setup loaded.engines.length
  := by
  simp only [sharedMoves, List.mem_cons, Move.start.injEq, reduceCtorEq, List.not_mem_nil,
    or_self, or_false] at started
  rcases started with rfl | rfl
  · apply Job.Validates.single (by decide)
  · apply Job.Validates.all (by decide)

end Sample

namespace Pool

/-- The second validation waits for the linter as long as the first one is in it, and each
check has the options of its own. -/
theorem inspections_alone_in_sharedMoves :
  let after moves := (ofSession (Sample.answer none) Sample.loaded).play moves
  (∃ rest, (after (Sample.sharedMoves.take 4)).Guards 0 ⟨0, Sample.document, .empty⟩ rest)
    ∧ (∃ vs, (ofSession (Sample.answer none) Sample.loaded).Begins Sample.sharedMoves vs
      ∧ (Event.checks (after Sample.sharedMoves).events
          ++ (after Sample.sharedMoves).inspecting).Perm (vs.map Inspection.triple))
    ∧ (Event.checks (after Sample.sharedMoves).events).map (fun check => check.1.isEmpty)
      = [true, false]
    ∧ (after Sample.sharedMoves).isQuiet = true
  := by
  intro after
  have linked : Sample.loaded.Linked := by
    rintro _ ⟨⟩
    decide
  obtain ⟨alone, ⟨vs, begins⟩, begun⟩ :=
    inspections_alone (Sample.answer none) linked Sample.validates_sharedMoves
  obtain ⟨rest, single⟩ := Inspection.exists_rest ⟨0, Sample.document, .empty⟩
  refine ⟨⟨rest, ?_⟩, ⟨vs, begins, begun vs begins⟩, by decide +kernel, by decide +kernel⟩
  apply alone (Sample.sharedMoves.take 2) 0 [.resume 1] (Sample.sharedMoves.drop 4)
  · rfl
  · rw [← single]
    rfl
  · rfl
  · simp

end Pool

end TemplateLint
