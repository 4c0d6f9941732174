import TemplateLint.Session.Event
import TemplateLint.Session.State

/-!
# Jobs

What a session does for one message, as a tree of its steps.  At some steps a job may
have to wait, and other jobs may go on meanwhile: where it accesses the shared state,
takes an engine, asks the machine for a file, or lets an engine check.  Between such
steps nothing comes in between.
-/

namespace TemplateLint

/-- A job with a result of the given type. -/
inductive Job (α : Type) where
  | done (result : α)
  | access (update : Session → Session) (next : Session → Job α)
  | change (update : Session → Session) (next : Job α)
  | take (engine : Nat) (next : Job α)
  | check (engine : Nat) (text : String) (path : Path)
      (next : Except Failure (List Problem) → Job α)
  | ask (request : Request) (next : request.Answer → Job α)
  | probe (request : Request) (next : request.Answer → Job α)
  | tell (event : Event) (next : Job α)

namespace Job

/-- The job that goes on with the result of another one. -/
def bind : Job α → (α → Job β) → Job β
  | done a, next => next a
  | access update rest, next => access update fun s => (rest s).bind next
  | change update rest, next => change update (rest.bind next)
  | take engine rest, next => take engine (rest.bind next)
  | check engine text path rest, next =>
    check engine text path fun problems => (rest problems).bind next
  | ask request rest, next => ask request fun answer => (rest answer).bind next
  | probe request rest, next => probe request fun answer => (rest answer).bind next
  | tell event rest, next => tell event (rest.bind next)

instance : Monad Job where
  pure := done
  bind := bind

/-- The job that reads a part of the shared state. -/
def read (part : Session → α) : Job α := access id fun s => done (part s)

/-- The job that updates the shared state. -/
def update (f : Session → Session) : Job Unit := access f fun _ => done ()

/-- The job that publishes, shows or logs something. -/
def say (event : Event) : Job Unit := tell event (done ())

/-- The job that makes the requests of a program, waiting for each answer. -/
def await : Program α → Job α
  | .done a => done a
  | .ask request next => ask request fun answer => await (next answer)

/-- The job that makes the requests of a program without waiting. -/
def immediately : Program α → Job α
  | .done a => done a
  | .ask request next => probe request fun answer => immediately (next answer)

/-- The job that does something for each element of a list. -/
def forEach : List α → (α → Job Unit) → Job Unit
  | [], _ => done ()
  | a :: rest, job => do
    job a
    forEach rest job

/-! ### Running one job -/

/-- The check of a text by an engine; a check by no engine fails. -/
def checkBy (s : Session) (engine : Nat) (text : String) (path : Path) :
    Options × Program (Except Failure (List Problem)) :=
  match s.engines[engine]? with
  | some e => (e.options, e.check e.options text path)
  | none => (Options.empty, pure (.error .unknown))

/-- What runs a job: how requests are answered, and how the documents change while a
text is checked. -/
structure Host where
  answer : (r : Request) → r.Answer
  during : String → Path → Store → Store

/-- The result of a job that runs alone, the state that it leaves and the events on the
way. -/
def run (host : Host) : Job α → Session → α × Session × List Event
  | done a, s => (a, s, [])
  | access update next, s => (next s).run host (update s)
  | change update next, s => next.run host (update s)
  | take engine next, s => next.run host (s.take engine)
  | check engine text path next, s =>
    let (options, program) := checkBy s engine text path
    let problems := program.run host.answer
    let s := { s with documents := host.during text path s.documents }
    let (a, s, events) := (next problems).run host s
    (a, s, .checking options text path :: events)
  | ask request next, s => (next (host.answer request)).run host s
  | probe request next, s => (next (host.answer request)).run host s
  | tell event next, s =>
    let (a, s, events) := next.run host s
    (a, s, event :: events)

/-- The result of a job that runs alone and the state that it leaves, where requests are
answered and events are passed on in a monad. -/
def runIn {m : Type → Type} [Monad m] (answer : (r : Request) → m r.Answer)
    (pass : Event → m Unit) (during : String → Path → Store → Store) :
    Job α → Session → m (α × Session)
  | done a, s => pure (a, s)
  | access update next, s => (next s).runIn answer pass during (update s)
  | change update next, s => next.runIn answer pass during (update s)
  | take engine next, s => next.runIn answer pass during (s.take engine)
  | check engine text path next, s => do
    let (options, program) := checkBy s engine text path
    pass (.checking options text path)
    let problems ← program.runIn answer
    (next problems).runIn answer pass during
      { s with documents := during text path s.documents }
  | ask request next, s => do
    let reply ← answer request
    (next reply).runIn answer pass during s
  | probe request next, s => do
    let reply ← answer request
    (next reply).runIn answer pass during s
  | tell event next, s => do
    pass event
    next.runIn answer pass during s

/-- Running a sequence is running its parts one after the other. -/
theorem run_bind (host : Host) (t : Job α) (next : α → Job β) (s : Session) :
  (t >>= next).run host s
    = let first := t.run host s
      let second := (next first.1).run host first.2.1
      (second.1, second.2.1, first.2.2 ++ second.2.2)
  := by
  change (t.bind next).run host s = _
  induction t generalizing s with
  | done a => rfl
  | access update rest ih => exact ih s (update s)
  | change update rest ih => exact ih (update s)
  | take engine rest ih => exact ih (s.take engine)
  | check engine text path rest ih => simp [bind, run, ih]
  | ask request rest ih => exact ih (host.answer request) s
  | probe request rest ih => exact ih (host.answer request) s
  | tell event rest ih => simp [bind, run, ih]

end Job

end TemplateLint
