import Mathlib.Logic.Function.Basic
import TemplateLint.Proofs.Session.Conversation
import TemplateLint.Session.Pool

/-!
# Disciplines of jobs

A discipline says how a job goes from stage to stage: by what it does to the shared state, by
what its checks come to and by what it tells, from what is true of the shared state at its
stage.  An invariant of the stages of all jobs, of the shared state and of the events that
every step of a discipline keeps holds of a pool of jobs that follow the discipline, in
whichever order they go on.
-/

namespace TemplateLint

/-- A discipline: what the machine answers, the stages at which a job may have to wait and
those at which it may end, what is true of the shared state at a stage, and how a job may go
from one stage to another one. -/
structure Discipline (σ : Type) where
  answer : Answering
  waits : σ → Prop
  rests : σ → Prop
  fits : σ → Session → Prop
  access : σ → Session → Session → σ → Prop
  change : σ → (Session → Session) → σ → Prop
  take : σ → Nat → σ → Prop
  check : σ → Options → String → Path → Except Failure (List Problem) → σ → Prop
  tell : σ → Event → σ → Prop
  waits_of_rests : ∀ stage, rests stage → waits stage

namespace Discipline

variable {σ : Type} {d : Discipline σ} {stage : σ}

/-- Whether a job that is at a stage follows a discipline, and its result and the stage at
which it ends have a property. -/
def Follows (d : Discipline σ) : σ → Job α → (α → σ → Prop) → Prop
  | stage, .done a, ends => ends a stage
  | stage, .access update next, ends =>
    d.waits stage ∧ ∀ s, d.fits stage s →
      ∃ after, d.access stage s (update s) after ∧ Follows d after (next s) ends
  | stage, .change update next, ends =>
    ∃ after, d.change stage update after ∧ Follows d after next ends
  | stage, .take engine next, ends =>
    d.waits stage ∧ ∃ after, d.take stage engine after ∧ Follows d after next ends
  | stage, .check engine text path next, ends =>
    d.waits stage ∧ ∀ s, d.fits stage s →
      let (options, program) := Job.checkBy s engine text path
      let problems := program.run d.answer
      ∃ after, d.check stage options text path problems after
        ∧ Follows d after (next problems) ends
  | stage, .ask request next, ends =>
    d.waits stage ∧ Follows d stage (next (d.answer request)) ends
  | stage, .probe request next, ends => Follows d stage (next (d.answer request)) ends
  | stage, .tell event next, ends =>
    ∃ after, d.tell stage event after ∧ Follows d after next ends

/-- Whether a job follows a discipline to a stage at which it may end. -/
def Attends (d : Discipline σ) (stage : σ) (t : Job α) : Prop :=
  d.Follows stage t fun _ after => d.rests after

/-! ### Parts of jobs -/

/-- A sequence of jobs follows a discipline if its parts do. -/
theorem Follows.bind {t : Job α} {next : α → Job β} {first : α → σ → Prop}
    {ends : β → σ → Prop} (h : d.Follows stage t first)
    (h' : ∀ a after, first a after → d.Follows after (next a) ends) :
  d.Follows stage (t >>= next) ends
  := by
  change d.Follows stage (t.bind next) ends
  induction t generalizing stage with
  | done a => apply h' a stage h
  | access update rest ih =>
    use h.1
    intro s fits
    obtain ⟨after, access, follows⟩ := h.2 s fits
    use after, access
    apply ih s follows
  | change update rest ih =>
    obtain ⟨after, change, follows⟩ := h
    use after, change
    apply ih follows
  | take engine rest ih =>
    obtain ⟨waits, after, take, follows⟩ := h
    use waits, after, take
    apply ih follows
  | check engine text path rest ih =>
    use h.1
    intro s fits
    obtain ⟨after, check, follows⟩ := h.2 s fits
    use after, check
    apply ih _ follows
  | ask request rest ih =>
    use h.1
    apply ih _ h.2
  | probe request rest ih => apply ih _ h
  | tell event rest ih =>
    obtain ⟨after, tell, follows⟩ := h
    use after, tell
    apply ih follows

theorem follows_await (waits : d.waits stage) (p : Program α) :
  d.Follows stage (Job.await p) fun a after => after = stage ∧ a = p.run d.answer
  := by
  induction p with
  | done a =>
    use rfl
    rfl
  | ask request next ih =>
    use waits
    apply ih

theorem follows_immediately (p : Program α) :
  d.Follows stage (Job.immediately p) fun a after => after = stage ∧ a = p.run d.answer
  := by
  induction p with
  | done a =>
    use rfl
    rfl
  | ask request next ih => apply ih

theorem follows_say {event : Event} {after : σ} (tell : d.tell stage event after) :
  d.Follows stage (Job.say event) fun _ last => last = after
  := by
  use after, tell
  rfl

/-- A job may tell things one after the other as long as it stays at its stage. -/
theorem follows_forEach_say (xs : List α) {event : α → Event}
    (tell : ∀ x, d.tell stage (event x) stage) :
  d.Follows stage (Job.forEach xs fun x => Job.say (event x)) fun _ after => after = stage
  := by
  induction xs with
  | nil => rfl
  | cons x rest ih =>
    apply (follows_say (tell x)).bind
    rintro _ after rfl
    apply ih

/-! ### Invariants -/

/-- A step of a job: what it does to the shared state and tells, and how its stage changes. -/
inductive Step (d : Discipline σ) : σ → Session → List Event → σ → Session → Prop
  | access {stage s next after} (access : d.access stage s next after) :
      Step d stage s [] after next
  | change {stage update after} (s) (change : d.change stage update after) :
      Step d stage s [] after (update s)
  | take {stage s engine after} (free : s.isFree engine = true)
      (take : d.take stage engine after) : Step d stage s [] after (s.take engine)
  | check {stage options text path problems after} (s)
      (check : d.check stage options text path problems after) :
      Step d stage s [.checking options text path] after s
  | tell {stage event after} (s) (tell : d.tell stage event after) :
      Step d stage s [event] after s

/-- A property of the shared state, of the events and of the stages of all jobs that every
step of a job keeps while the others wait, and from which what is true at their stages
follows. -/
structure Keeps (d : Discipline σ) (inv : Session → List Event → (Nat → σ) → Prop) : Prop where
  fits : ∀ {s events stages}, inv s events stages → ∀ i, d.fits (stages i) s
  step : ∀ {s events stages i more after next}, inv s events stages →
    (∀ j, j ≠ i → d.waits (stages j)) → d.Step (stages i) s more after next →
    inv next (events ++ more) (Function.update stages i after)

variable {inv : Session → List Event → (Nat → σ) → Prop} {s next : Session}
  {events more : List Event} {stages : Nat → σ} {i : Nat} {t u : Job α}

theorem others_update {after : σ} (others : ∀ j, j ≠ i → d.waits (stages j)) :
  ∀ j, j ≠ i → d.waits (Function.update stages i after j)
  := by
  intro j differ
  rw [Function.update_of_ne differ]
  apply others j differ

/-- A job that goes on to where it waits or ends keeps an invariant. -/
theorem Keeps.settle (keeps : d.Keeps inv) (others : ∀ j, j ≠ i → d.waits (stages j))
    (attends : d.Attends (stages i) t) (holds : inv s events stages)
    (settled : t.settle d.answer s = (u, next, more)) :
  ∃ after, d.Attends after u ∧ d.waits after
    ∧ inv next (events ++ more) (Function.update stages i after)
  := by
  induction t generalizing s events more stages with
  | change update rest ih =>
    obtain ⟨after, change, attends⟩ := attends
    have changed := keeps.step holds others (.change s change)
    rw [List.append_nil] at changed
    have here := Function.update_self i after stages
    obtain ⟨last, result⟩ := ih (others_update others) (here.symm ▸ attends) changed settled
    rw [Function.update_idem] at result
    exact ⟨last, result⟩
  | probe request rest ih => apply ih _ others attends holds settled
  | tell event rest ih =>
    obtain ⟨after, tell, attends⟩ := attends
    rcases goes : rest.settle d.answer s with ⟨v, t, events'⟩
    rw [Job.settle, goes] at settled
    obtain ⟨rfl, rfl, rfl⟩ := settled
    have told := keeps.step holds others (.tell s tell)
    have here := Function.update_self i after stages
    obtain ⟨last, result⟩ := ih (others_update others) (here.symm ▸ attends) told goes
    rw [Function.update_idem, List.append_assoc] at result
    exact ⟨last, result⟩
  | done a =>
    obtain ⟨rfl, rfl, rfl⟩ := settled
    refine ⟨stages i, attends, d.waits_of_rests _ attends, ?_⟩
    rw [List.append_nil, Function.update_eq_self]
    apply holds
  | _ =>
    obtain ⟨rfl, rfl, rfl⟩ := settled
    refine ⟨stages i, attends, attends.1, ?_⟩
    rw [List.append_nil, Function.update_eq_self]
    apply holds

/-- So does a job that is resumed. -/
theorem Keeps.resume (keeps : d.Keeps inv) (others : ∀ j, j ≠ i → d.waits (stages j))
    (attends : d.Attends (stages i) t) (holds : inv s events stages)
    (resumed : t.resume d.answer s = some (u, next, more)) :
  ∃ after, d.Attends after u ∧ d.waits after
    ∧ inv next (events ++ more) (Function.update stages i after)
  := by
  have fits := keeps.fits holds i
  have goes {after : σ} {rest : Job α} {t : Session} {first last : List Event}
      (attends : d.Attends after rest)
      (holds : inv t (events ++ first) (Function.update stages i after))
      (settled : rest.settle d.answer t = (u, next, last)) :
      ∃ after, d.Attends after u ∧ d.waits after
        ∧ inv next (events ++ (first ++ last)) (Function.update stages i after) := by
    have here := Function.update_self i after stages
    obtain ⟨stage, result⟩ :=
      keeps.settle (others_update others) (here.symm ▸ attends) holds settled
    rw [Function.update_idem, List.append_assoc] at result
    exact ⟨stage, result⟩
  cases t with
  | done => cases resumed
  | access update rest =>
    obtain ⟨after, access, attends⟩ := attends.2 s fits
    apply goes attends (keeps.step holds others (.access access)) (Option.some.inj resumed)
  | change update rest =>
    obtain ⟨after, change, attends⟩ := attends
    apply goes attends (keeps.step holds others (.change s change)) (Option.some.inj resumed)
  | take engine rest =>
    rw [Job.resume] at resumed
    split at resumed
    · rename_i free
      obtain ⟨-, after, take, attends⟩ := attends
      apply goes attends (keeps.step holds others (.take free take)) (Option.some.inj resumed)
    · cases resumed
  | check engine text path rest =>
    obtain ⟨after, check, attends⟩ := attends.2 s fits
    obtain ⟨rfl, rfl, rfl⟩ := Option.some.inj resumed
    apply goes attends (keeps.step holds others (.check s check)) rfl
  | ask request rest => apply keeps.settle others attends.2 holds (Option.some.inj resumed)
  | probe request rest => apply keeps.settle others attends holds (Option.some.inj resumed)
  | tell event rest =>
    obtain ⟨after, tell, attends⟩ := attends
    obtain ⟨rfl, rfl, rfl⟩ := Option.some.inj resumed
    apply goes attends (keeps.step holds others (.tell s tell)) rfl

/-! ### Pools -/

/-- What holds of a pool of jobs that each follow a discipline. -/
structure Governs (d : Discipline σ) (inv : Session → List Event → (Nat → σ) → Prop)
    (p : Pool) (stages : Nat → σ) : Prop where
  answer : p.answer = d.answer
  holds : inv p.session p.events stages
  waits : ∀ i, d.waits (stages i)
  attends : ∀ i job, p.jobs[i]? = some job → d.Attends (stages i) job
  vacant : ∀ i, p.jobs[i]? = none → d.rests (stages i)

variable {p : Pool}

/-- A pool stays governed when a job comes to another stage and the others stay at theirs. -/
theorem Governs.update {inv' : Session → List Event → (Nat → σ) → Prop}
    (governs : d.Governs inv p stages) {next : Pool} (answer : next.answer = p.answer)
    (holds : inv' next.session next.events (Function.update stages i stage))
    (waits : d.waits stage) {job : Job Unit} (attends : d.Attends stage job)
    (here : next.jobs[i]? = some job) (others : ∀ j, j ≠ i → next.jobs[j]? = p.jobs[j]?) :
  d.Governs inv' next (Function.update stages i stage)
  where
  answer := by rw [answer, governs.answer]
  holds := holds
  waits := by
    intro j
    by_cases same : j = i
    · subst same
      rw [Function.update_self]
      apply waits
    · rw [Function.update_of_ne same]
      apply governs.waits
  attends := by
    intro j other found
    by_cases same : j = i
    · subst same
      rw [here] at found
      obtain rfl := Option.some.inj found
      rw [Function.update_self]
      apply attends
    · rw [others j same] at found
      rw [Function.update_of_ne same]
      apply governs.attends j other found
  vacant := by
    intro j absent
    by_cases same : j = i
    · subst same
      rw [here] at absent
      cases absent
    · rw [others j same] at absent
      rw [Function.update_of_ne same]
      apply governs.vacant j absent

/-- A pool stays governed when a job goes on. -/
theorem Governs.resume (keeps : d.Keeps inv) (governs : d.Governs inv p stages) (i : Nat) :
  ∃ stages, d.Governs inv (p.move (.resume i)) stages
  := by
  rw [Pool.move]
  split
  · rename_i u next more resumed
    obtain ⟨job, here, resumed⟩ := Option.bind_eq_some_iff.mp resumed
    rw [governs.answer] at resumed
    obtain ⟨after, attends, waits, holds⟩ :=
      keeps.resume (fun j _ => governs.waits j) (governs.attends i job here) governs.holds resumed
    refine ⟨_, governs.update rfl holds waits attends ?_ ?_⟩
    · obtain ⟨inside, -⟩ := List.getElem?_eq_some_iff.mp here
      apply List.getElem?_set_self inside
    · intro j differ
      apply List.getElem?_set_ne differ.symm
  · use stages

/-- So it does when a job starts, at a stage to which the invariant leads. -/
theorem Governs.start {inv' : Session → List Event → (Nat → σ) → Prop} (keeps : d.Keeps inv')
    (governs : d.Governs inv p stages) {job : Job Unit} (attends : d.Attends stage job)
    (begins : ∀ i, d.rests (stages i) →
      inv' p.session p.events (Function.update stages i stage)) :
  ∃ stages, d.Governs inv' (p.move (.start job)) stages
  := by
  rw [Pool.move, governs.answer]
  rcases settled : job.settle d.answer p.session with ⟨u, next, more⟩
  have vacant := governs.vacant p.jobs.length (List.getElem?_eq_none le_rfl)
  have here := Function.update_self p.jobs.length stage stages
  obtain ⟨after, attends, waits, holds⟩ :=
    keeps.settle (others_update fun j _ => governs.waits j) (here.symm ▸ attends)
      (begins p.jobs.length vacant) settled
  rw [Function.update_idem] at holds
  refine ⟨_, governs.update governs.answer.symm holds waits attends ?_ ?_⟩
  · simp
  · intro j differ
    dsimp only
    rw [List.getElem?_append]
    split
    · rfl
    · rename_i outside
      rw [List.getElem?_eq_none, List.getElem?_eq_none]
      · omega
      · simp
        omega

/-- All jobs of a quiet pool are at stages at which they may end. -/
theorem Governs.rests (governs : d.Governs inv p stages) (quiet : p.isQuiet = true) (i : Nat) :
  d.rests (stages i)
  := by
  cases here : p.jobs[i]? with
  | none => apply governs.vacant i here
  | some job =>
    have ended := List.all_eq_true.mp quiet job (List.mem_of_getElem? here)
    have attends := governs.attends i job here
    cases job with
    | done => apply attends
    | _ => cases ended

end Discipline

end TemplateLint
